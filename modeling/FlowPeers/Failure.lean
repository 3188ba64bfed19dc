import FlowPeers.Http.Message
import FlowPeers.Text.Quoted
import FlowPeers.Url.Error

/-!
# Failures

What can go wrong while the members of a cluster are talked to: a cause with what it concerns. A
failure is explained by `message`, its underlying causes are listed by `causes`, and
`isRetryable` says whether it was the doing of a single peer, so that another one may do better.
-/

namespace FlowPeers

/-- A cause of failure. -/
inductive Failure
  /-- The address of a peer is no URL. -/
  | invalidUrl (url : String) (cause : UrlError)
  /-- The address of a peer names no host. -/
  | missingHost (url : String)
  /-- A request could not be exchanged. -/
  | transport (url : String) (cause : String)
  /-- A request took too long. -/
  | timeout (url : String)
  /-- A peer answered without success. -/
  | status (url : String) (status : Status)
  /-- A peer refused a login. -/
  | authentication (url : String) (status : Status)
  /-- A peer does not know a port. -/
  | portNotFound (url port : String)
  /-- What a peer serves is no list of peers. -/
  | invalidPeerList (url : String)
  /-- A peer's answer opens no transaction. -/
  | invalidTransaction (url reason : String)
  /-- A token does not fit into a header. -/
  | invalidHeader
  /-- A message could not be made. -/
  | request (cause : RequestError)
  /-- There is no peer to ask. -/
  | noPeers
  deriving DecidableEq, Repr

namespace Failure

/-- The explanation of a failure. -/
def message : Failure → String
  | .invalidUrl url cause => "Invalid peer url " ++ Text.quoted url ++ ": " ++ cause.message
  | .missingHost url => "Peer url " ++ Text.quoted url ++ " has no host"
  | .transport url cause => "Transport error while contacting " ++ url ++ ": " ++ cause
  | .timeout url => "Request to " ++ url ++ " did not complete within the deadline"
  | .status url code =>
    "Received response code " ++ code.text ++ " when opening " ++ url
  | .authentication url code =>
    "Login against " ++ url ++ " failed with response code " ++ code.text
  | .portNotFound url port =>
    "Didn't find port named " ++ Text.quoted port ++ " on " ++ url
  | .invalidPeerList url => "Response from " ++ url ++ " is not a valid peer list"
  | .invalidTransaction url reason =>
    "Unable to open transaction at " ++ url ++ ": " ++ reason
  | .invalidHeader => "Invalid header value: " ++ RequestError.message .badHeaderValue
  | .request cause => "Failed to build request: " ++ cause.message
  | .noPeers => "No peers are available to handle the request"

/-- The explanations of what brought the failure about. -/
def causes : Failure → List String
  | .invalidUrl _ cause => [cause.message]
  | .transport _ cause => [cause]
  | .invalidHeader => [RequestError.message .badHeaderValue]
  | .request cause => [cause.message]
  | _ => []

/-- Whether the same operation may succeed with another peer. -/
def isRetryable : Failure → Bool
  | .invalidUrl _ _ | .missingHost _ | .invalidHeader | .request _ | .noPeers => false
  | _ => true

end Failure

end FlowPeers
