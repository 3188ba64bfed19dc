import FlowPeers.Duration
import FlowPeers.Login
import FlowPeers.PeerStatus

/-!
# Configurations

The settings of a client: how long a list of peers is used, who logs in, and how long connecting and
a whole request may take. A configuration is shown with its password hidden.
-/

namespace FlowPeers

/-- The settings of a client. -/
structure Config where
  /-- For how long a list of peers is used before it is refreshed. -/
  peerUpdateInterval : Duration := .ofSeconds 1800
  /-- The name of the user who logs in. -/
  username : Option String := none
  /-- The password of the user. -/
  password : Option String := none
  /-- How long connecting to a peer may take. -/
  connectTimeout : Duration := .ofSeconds 10
  /-- How long a request may take. -/
  requestTimeout : Duration := .ofSeconds 30
  deriving DecidableEq, Repr

namespace Config

/-- The configuration with credentials. -/
def withCredentials (c : Config) (username password : String) : Config :=
  { c with username := some username, password := some password }

/-- The logins to begin with. -/
def logins (c : Config) : Logins :=
  .start c.username c.password

/-- A text that may be missing, as it is shown. -/
def showOptional : Option String → String
  | none => "None"
  | some text => "Some(" ++ Text.quoted text ++ ")"

/-- A configuration as it is shown. -/
def text (c : Config) : String :=
  "SiteToSiteClientConfig \x7b peer_update_interval: " ++ c.peerUpdateInterval.text
    ++ ", username: " ++ showOptional c.username
    ++ ", password: " ++ showOptional (c.password.map fun _ => "<redacted>")
    ++ ", connect_timeout: " ++ c.connectTimeout.text
    ++ ", request_timeout: " ++ c.requestTimeout.text ++ " \x7d"

end Config

end FlowPeers
