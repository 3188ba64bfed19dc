import FlowPeers.Dialogue
import FlowPeers.Text.Form

/-!
# Logins

Whoever has a user name logs in to each peer before using it. A peer answers a login with a token,
which is kept for that peer and sent to it with every later request for its lists and for a
transaction; it is never asked for again, and no other peer is sent it by these requests. A
transaction keeps the token of the peer that has opened it and takes it wherever that peer says that
the transaction is. Without a user name every peer is used without a login.
-/

namespace FlowPeers

open Text

/-- A user name and its password. -/
structure Credentials where
  /-- The name of the user. -/
  username : String
  /-- The password. -/
  password : String
  deriving DecidableEq, Repr

/-- The credentials and the tokens that peers have given for them. -/
structure Logins where
  /-- Who logs in. -/
  credentials : Option Credentials
  /-- The authorization that goes to each address. -/
  tokens : List (String × HeaderValue)
  deriving DecidableEq, Repr

namespace Logins

/-- Where a peer gives tokens. -/
def tokenPath : String := "/access/token"

/-- No tokens yet, for a user with or without a password. -/
def start (username password : Option String) : Logins where
  credentials := username.map fun name => ⟨name, password.getD ""⟩
  tokens := []

/-- The authorization that goes to an address. -/
def authorization? (logins : Logins) (url : String) : Option HeaderValue :=
  logins.tokens.lookup url

/-- The header of an authorization. -/
def header (authorization : HeaderValue) : Header :=
  ⟨"authorization", authorization⟩

/-- The headers that every request to an address carries. -/
def headers (logins : Logins) (url : String) : List Header :=
  (logins.authorization? url).toList.map header

/-- The body of the request for a token. -/
def form (credentials : Credentials) : List Char :=
  Form.encodeFields [("username".toList, credentials.username.toList),
    ("password".toList, credentials.password.toList)]

/-- The request for a token. -/
def tokenRequest (credentials : Credentials) (url : String) : Except RequestError Request :=
  Request.toUrl "POST" (url ++ tokenPath)
    [⟨"accept", .ofString "text/plain"⟩,
      ⟨"content-type", .ofString "application/x-www-form-urlencoded"⟩]
    (.ofText (form credentials))

/-- The authorization that a token gives. -/
def bearer? (token : List UInt8) : Option HeaderValue :=
  (HeaderValue.ofText? ("Bearer ".toList ++ decodeLossy token)).map
    fun value => { value with sensitive := true }

/-- The authorization in a peer's answer to the request for a token. -/
def readToken (url : String) (response : Response) : Except Failure HeaderValue :=
  if response.status.isSuccess then
    match Exchange.readBody url response.body with
    | .error failure => .error failure
    | .ok token =>
      match bearer? token with
      | none => .error .invalidHeader
      | some authorization => .ok authorization
  else .error (.authentication url response.status)

/-- Asks for a token and keeps it. -/
def obtain (logins : Logins) (credentials : Credentials) (url : String) : Exchange Logins :=
  Exchange.andThen (Exchange.send (tokenRequest credentials url)) fun response =>
    match readToken (url ++ tokenPath) response with
    | .error failure => .fail failure
    | .ok authorization => .pure { logins with tokens := (url, authorization) :: logins.tokens }

/-- Logs in to a peer unless that has been done or there is nobody to log in. -/
def login (logins : Logins) (url : String) : Exchange Logins :=
  match logins.authorization? url, logins.credentials with
  | none, some credentials => obtain logins credentials url
  | _, _ => .pure logins

/-- Does something with a peer after the login to it. A login is kept even if what follows fails. -/
def visit {α : Type} (logins : Logins) (url : String) (action : Logins → Exchange α) :
    Dialogue (Logins × Except Failure α) :=
  Dialogue.andThen (logins.login url) fun
    | .error failure => .done (logins, .error failure)
    | .ok logins => Dialogue.map (fun result => (logins, result)) (action logins)

/-- What a peer serves at an address of its own. -/
def fetch (logins : Logins) (peer url : String) : Exchange (List UInt8) :=
  Exchange.andThen (Exchange.send (Request.toUrl "GET" url (logins.headers peer) .empty))
    fun response =>
      Exchange.andThen (Exchange.ensureSuccess url response) fun _ =>
        .done (Exchange.readBody url response.body)

end Logins

end FlowPeers
