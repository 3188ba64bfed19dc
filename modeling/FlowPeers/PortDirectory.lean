import FlowPeers.Json.Reader
import FlowPeers.Json.Record

/-!
# Directories of ports

A peer serves a description of its ports, in which every port that takes data in has an identifier
and a name. `identifier?` finds the identifier of the first port of a name, and `print` writes a
description.
-/

namespace FlowPeers

namespace PortDirectory

/-- A port that takes data in. -/
structure Port where
  /-- What it is addressed by. -/
  id : String
  /-- What it is called. -/
  name : String
  deriving DecidableEq, Repr

/-- Reads a port. -/
def Port.ofJson? (value : Json) : Option Port :=
  match value.fields? ["id", "name"] with
  | some [id, name] =>
    match Json.required? Json.text? id, Json.required? Json.text? name with
    | some id, some name => some ⟨id, name⟩
    | _, _ => none
  | _ => none

/-- The ports of a controller; one that names none has none. -/
def controllerPorts? (value : Json) : Option (List Port) :=
  match value.fields? ["inputPorts"] with
  | some [ports] => Json.optional? [] (Json.list? Port.ofJson?) ports
  | _ => none

/-- The ports of a description. -/
def ports? (value : Json) : Option (List Port) :=
  match value.fields? ["controller"] with
  | some [controller] => Json.required? controllerPorts? controller
  | _ => none

/-- The identifier of the first port of a name in the description that a peer serves. -/
def identifier? (body : List UInt8) (name : String) : Option String :=
  match (Json.readBytes? body).bind ports? with
  | some ports => (ports.find? (·.name == name)).map (·.id)
  | none => none

/-- Writes a description of the given ports. -/
def print (ports : List Port) : List Char :=
  Json.print (.record [("controller", .record
    [("inputPorts", .list (ports.map fun port =>
        .record [("id", .text port.id), ("name", .text port.name)])),
      ("outputPorts", .list [])])])

end PortDirectory

end FlowPeers
