import FlowPeers.Http.Header
import FlowPeers.Http.Status
import FlowPeers.Http.Target

/-!
# Requests and responses

A request asks for something with a method, a target, headers and a body, and a response answers it
with a status, headers and a body. Reading a body may fail half-way; `RequestError` says why a
message cannot be made at all.
-/

namespace FlowPeers

/-- Why a request or a response cannot be made. -/
inductive RequestError
  | badStatus
  | badMethod
  | badTarget (cause : TargetError)
  | badHeaderName
  | badHeaderValue
  deriving DecidableEq, Repr

/-- The wording of a cause. -/
def RequestError.message : RequestError → String
  | .badStatus => "invalid status code"
  | .badMethod => "invalid HTTP method"
  | .badTarget cause => cause.message
  | .badHeaderName => "invalid HTTP header name"
  | .badHeaderValue => "failed to parse header value"

/-- The body of a message. -/
inductive Body
  /-- All its bytes. -/
  | whole (bytes : List UInt8)
  /-- A body that breaks off while it is read. -/
  | broken
  deriving DecidableEq, Repr

namespace Body

/-- The body without any bytes. -/
def empty : Body := .whole []

/-- The body of a text. -/
def ofText (text : List Char) : Body := .whole (Text.encode text)

/-- What is said of a body that breaks off. -/
def brokenMessage : String := "user body write aborted"

/-- The bytes of a body that does not break off. -/
def read : Body → Except String (List UInt8)
  | .whole bytes => .ok bytes
  | .broken => .error brokenMessage

end Body

/-- The version of the protocol that a request is made for. -/
inductive Version
  | v09
  | v10
  | v11
  | v2
  | v3
  deriving DecidableEq, Repr

/-- A request. -/
structure Request where
  /-- The method. -/
  method : String
  /-- What is asked for. -/
  target : Target
  /-- The version of the protocol. -/
  version : Version := .v11
  /-- The headers. -/
  headers : List Header
  /-- The body. -/
  body : Body
  deriving DecidableEq, Repr

/-- A response. -/
structure Response where
  /-- The status. -/
  status : Status
  /-- The headers in order. -/
  headers : List Header
  /-- The body. -/
  body : Body
  deriving DecidableEq, Repr

namespace Header

/-- The header of a name and a value that are given as texts. -/
def read (name : String) (value : List UInt8) : Except RequestError Header :=
  match readName? name with
  | none => .error .badHeaderName
  | some name =>
    match HeaderValue.ofBytes? value with
    | none => .error .badHeaderValue
    | some value => .ok ⟨name, value⟩

end Header

namespace Request

/-- A request to the target that a text spells. -/
def toUrl (method url : String) (headers : List Header) (body : Body) :
    Except RequestError Request :=
  match Target.read url.toList with
  | .error cause => .error (.badTarget cause)
  | .ok target => .ok { method := method, target := target, headers := headers, body := body }

/-- A request whose method, target and headers are given as texts; the first of them that spells
nothing is what is wrong with it. -/
def read (method url : String) (headers : List (String × List UInt8)) (body : Body) :
    Except RequestError Request :=
  if isToken method.toList then
    match Target.read url.toList with
    | .error cause => .error (.badTarget cause)
    | .ok target =>
      match headers.mapM fun header => Header.read header.1 header.2 with
      | .error e => .error e
      | .ok headers =>
        .ok { method := method, target := target, headers := headers, body := body }
  else .error .badMethod

/-- The target of a request as a text. -/
def url (request : Request) : String :=
  request.target.text

end Request

end FlowPeers
