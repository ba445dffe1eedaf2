/-!
# JSON values

The data that procedures take and return. A number is an integer or a binary floating-point number of
64 bits. The fields of an object are kept in ascending key order, so equal objects are equal values;
`Json.object` brings them into that order.
-/

namespace CommandVerbs

/-- A JSON value. A number that is no integer of 64 bits is kept as the bits of its nearest
floating-point number. -/
inductive Json where
  | null
  | bool (value : Bool)
  | number (value : Int)
  | float (bits : UInt64)
  | text (value : String)
  | array (items : List Json)
  | fields (entries : List (String × Json))
  deriving Inhabited

namespace Json

/-- Adds a field at its place, in place of a field with the same key. -/
def insertField (key : String) (value : Json) : List (String × Json) → List (String × Json)
  | [] => [(key, value)]
  | entry :: rest =>
    if key < entry.1 then (key, value) :: entry :: rest
    else if key = entry.1 then (key, value) :: rest
    else entry :: insertField key value rest

/-- The object with the given fields; the last of several fields with one key counts. -/
def object (entries : List (String × Json)) : Json :=
  .fields (entries.foldl (fun sorted (key, value) => insertField key value sorted) [])

/-- A text, or `null` where there is none. -/
def optionalText : Option String → Json
  | none => .null
  | some s => .text s

/-- A number, or `null` where there is none. -/
def optionalNumber : Option Int → Json
  | none => .null
  | some n => .number n

/-- A list of texts. -/
def texts (items : List String) : Json :=
  .array (items.map .text)

/-- The value of an object's field. -/
def field? (key : String) : Json → Option Json
  | .fields entries => (entries.find? (·.1 == key)).map (·.2)
  | _ => none

end Json

end CommandVerbs
