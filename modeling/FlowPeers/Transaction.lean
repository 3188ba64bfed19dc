import FlowPeers.Login
import FlowPeers.Text.Blank
import FlowPeers.Url.Read

/-!
# Transactions

Data is sent to a port of a peer in a transaction. A peer that opens one says where it is, and for
how long it keeps it: half that time after the last sign of life, and never more often than twice a
second, the transaction is extended.
-/

namespace FlowPeers

open Text

/-- An open transaction. -/
structure Transaction where
  /-- The address of the peer that keeps it. -/
  peer : String
  /-- Where it is. -/
  url : String
  /-- The port that it is for. -/
  port : String
  /-- For how many seconds the peer keeps it without a sign of life. -/
  ttl : UInt64
  /-- What goes to the peer with every request about it. -/
  authorization : Option HeaderValue
  deriving DecidableEq, Repr

namespace Transaction

/-- The header that names the version of the protocol, which is the first. -/
def versionHeader : String := "x-nifi-site-to-site-protocol-version"

@[inherit_doc versionHeader] def version : String := "1"

/-- The header in which a peer says for how many seconds it keeps a transaction. -/
def ttlHeader : String := "x-nifi-site-to-site-server-transaction-ttl"

/-- For how many seconds a transaction is kept if the peer does not say. -/
def usualTtl : UInt64 := 30

/-- The shortest time between two extensions, in milliseconds. -/
def shortestInterval : Nat := 500

/-- The time between two extensions, in milliseconds. -/
def extensionInterval (ttl : UInt64) : Nat :=
  max (ttl.toNat * 1000 / 2) shortestInterval

/-- Where a peer opens transactions for a port. -/
def openUrl (peer port : String) : Except Failure Url :=
  match Url.parse peer.toList with
  | .error cause => .error (.invalidUrl peer cause)
  | .ok url =>
    match url.extend? ["data-transfer".toList, "input-ports".toList, port.toList,
        "transactions".toList] with
    | none => .error (.missingHost peer)
    | some url => .ok url

/-- The headers of every request about a transaction. -/
def headers (authorization : Option HeaderValue) : List Header :=
  [⟨"accept", .ofString "application/json"⟩, ⟨versionHeader, .ofString version⟩]
    ++ authorization.toList.map Logins.header

/-- The location that a response names, if it is ASCII. -/
def location? (response : Response) : Option (List Char) :=
  (Header.find? response.headers "location").bind HeaderValue.ascii?

/-- For how many seconds a response says that the transaction is kept. -/
def readTtl? (response : Response) : Option UInt64 :=
  match ((Header.find? response.headers ttlHeader).bind HeaderValue.ascii?).bind
      fun text => readSigned? (trim text) with
  | some n => if n < UInt64.size then some (UInt64.ofNat n) else none
  | none => none

/-- The transaction that a successful response opens. -/
def ofResponse (peer port : String) (authorization : Option HeaderValue) (url : Url)
    (response : Response) : Except Failure Transaction :=
  let failed (reason : String) : Except Failure Transaction :=
    .error (.invalidTransaction (String.ofList url.print) reason)
  match location? response with
  | none => failed "Missing transaction location"
  | some location =>
    match url.join location with
    | .error cause =>
      failed ("Invalid transaction location " ++ String.ofList (quote location) ++ ": "
        ++ cause.message)
    | .ok place =>
      .ok
        { peer := peer
          url := String.ofList place.print
          port := port
          ttl := (readTtl? response).getD usualTtl
          authorization := authorization }

/-- Asks a peer to open a transaction for a port. -/
def create (peer : String) (authorization : Option HeaderValue) (port : String) :
    Exchange Transaction :=
  match openUrl peer port with
  | .error failure => .fail failure
  | .ok url =>
    let text := String.ofList url.print
    Exchange.andThen (Exchange.send (Request.toUrl "POST" text (headers authorization) .empty))
      fun response =>
        Exchange.andThen (Exchange.ensureSuccess text response) fun _ =>
          .done (ofResponse peer port authorization url response)

/-- Gives the peer a sign of life. -/
def extend (tx : Transaction) : Exchange Unit :=
  Exchange.andThen (Exchange.send (Request.toUrl "PUT" tx.url (headers tx.authorization) .empty))
    fun response => Exchange.ensureSuccess tx.url response

/-- The response of a peer that opens a transaction at a place and keeps it for some seconds. -/
def created (location : String) (ttl : UInt64) : Except RequestError Response :=
  match HeaderValue.ofText? location.toList with
  | none => .error .badHeaderValue
  | some value =>
    .ok
      { status := .created
        headers :=
          [⟨"location", value⟩, ⟨"x-location-uri-intent", .ofString "transaction-url"⟩,
            ⟨ttlHeader, .ofString (toString ttl.toNat)⟩]
        body := .empty }

end Transaction

end FlowPeers
