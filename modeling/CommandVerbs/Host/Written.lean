import CommandVerbs.Host.Address
import CommandVerbs.Json.Record
import CommandVerbs.Json.Writer

/-!
# Host addresses in JSON

An address is the record of its host and its port. The port may be `null`; in an object it may also
be left out, while an array has both members.
-/

namespace CommandVerbs.HostAddress

/-- The members of the record. -/
def members (address : HostAddress) : List (String × Json) :=
  [("host", .text address.host),
    ("port", .optionalNumber (address.port.map fun port => (port.toNat : Int)))]

/-- The address as a JSON value. -/
def toJson (address : HostAddress) : Json :=
  .object address.members

/-- The address as JSON text, the host first. -/
def writtenJson (address : HostAddress) : String :=
  Json.writtenRecord address.members

/-- Whether a tree is an array without the given number of items. -/
def isOtherArray (length : Nat) : Json.Tree → Bool
  | .array items => items.length != length
  | _ => false

/-- The address that a tree holds. -/
def ofTree? (tree : Json.Tree) : Option HostAddress :=
  if isOtherArray 2 tree then none
  else match Json.members? ["host", "port"] tree with
    | some [some host, port] => do
      let host ← Json.textOf? host
      let port ← Json.nullable? (Json.integerIn? 0 0xFFFF) port
      return ⟨host, port.map fun n => n.toNat.toUInt16⟩
    | _ => none

/-- The address that a JSON text holds. -/
def ofJson? (text : String) : Option HostAddress :=
  (Json.tree? text.toList).bind ofTree?

end CommandVerbs.HostAddress
