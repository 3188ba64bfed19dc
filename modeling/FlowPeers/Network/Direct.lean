import FlowPeers.Network.Basic
import FlowPeers.Text.Decimal

/-!
# Direct connections

A direct connection carries plain requests to whole addresses and nothing else. What it cannot carry
it refuses at once, the version before the method, the method before the target; for all else it
connects, and here no host can be reached: connecting fails with a given cause.
-/

namespace FlowPeers

open Text

namespace Direct

/-- The scheme of a tunnel to an authority, which only its port tells. -/
def tunnelScheme (authority : List Char) : List Char :=
  let port := (authority.reverse.takeWhile (· != ':')).reverse
  if authority.contains ':' && readSigned? port == some 443 then "https".toList
  else "http".toList

/-- Why a request is not carried, if it is not. -/
def refusal? (request : Request) : Option String :=
  if request.version == .v09 || request.version == .v3 then
    some "request has unsupported HTTP version"
  else if request.method == "CONNECT" && request.version == .v10 then
    some "request has unsupported HTTP method"
  else
    let scheme :=
      match request.target.scheme, request.target.authority with
      | some scheme, some _ => some scheme
      | none, some authority =>
        if request.method == "CONNECT" then some (tunnelScheme authority) else none
      | _, none => none
    match scheme with
    | none => some "client requires absolute-form URIs"
    | some scheme =>
      if scheme == "http".toList then none
      else some "error trying to connect: invalid URL, scheme is not http"

/-- The reply to a request where connecting fails with a cause. -/
def reply (unreachable : String) (request : Request) : Reply :=
  .error (.transport request.url ((refusal? request).getD unreachable))

/-- A network where connecting fails with a cause. -/
def responder (unreachable : String) : Responder Unit := fun _ request _ =>
  ((), ⟨0, reply unreachable request⟩)

end Direct

end FlowPeers
