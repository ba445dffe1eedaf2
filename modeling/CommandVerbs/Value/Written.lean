import CommandVerbs.Host.Written
import CommandVerbs.Value

/-!
# Values in JSON

A text, a flag, a number and a list of texts stand for themselves; addresses are the field `hosts` of
an object, so that no two values are written alike.
-/

namespace CommandVerbs

def Value.toJson : Value → Json
  | .text s => .text s
  | .flag b => .bool b
  | .integer n => .number n
  | .list texts => .texts texts
  | .hosts addresses => .object [("hosts", .array (addresses.map HostAddress.toJson))]

/-- The object of all values. -/
def Values.toJson (values : Values) : Json :=
  .object (values.toList.map fun (dest, value) => (dest, value.toJson))

/-- What an invocation consists of. -/
def Invocation.members (i : Invocation) : List (String × Json) :=
  [("verb", .text i.verb), ("opts", i.values.toJson), ("args", .texts i.passed)]

def Invocation.toJson (i : Invocation) : Json :=
  .object i.members

end CommandVerbs
