import CommandVerbs.Json.Record
import CommandVerbs.Json.Writer
import CommandVerbs.Service.Codec

/-!
# A codec without floating-point numbers

Requests and responses as records in JSON, for values whose numbers are integers. Of a response only the
status is needed; the text may be `null` or absent, the results absent. It is one of the codecs that a
client can be run with, on wires over which no other numbers are sent.
-/

namespace CommandVerbs.Service

namespace CallRequest

/-- The members of the record. -/
def members (r : CallRequest) : List (String × Json) :=
  [("id", .number r.id.toNat), ("procedure", .text r.procedure), ("params", .array r.parameters)]

/-- The request as JSON text. -/
def writtenJson (r : CallRequest) : String :=
  Json.writtenRecord r.members

end CallRequest

namespace Response

/-- The members of the record. -/
def members (r : Response) : List (String × Json) :=
  [("status", .number r.status), ("status_string", .optionalText r.statusText),
    ("results", .array r.results)]

/-- The response as JSON text. -/
def writtenJson (r : Response) : String :=
  Json.writtenRecord r.members

/-- The results that a tree holds, an absent one holding none. Two levels of nesting are used up by
the record and by the list. -/
def results? : Option Json.Tree → Option (List Json)
  | none => some []
  | some (.array items) => Json.ofItems? (Json.depthLimit - 2) items
  | some _ => none

/-- The response that a tree holds. -/
def ofTree? (tree : Json.Tree) : Option Response :=
  match Json.members? ["status", "status_string", "results"] tree with
  | some [some status, statusText, results] => do
    let status ← Json.integerIn? (-0x80000000) 0x7FFFFFFF status
    let statusText ← Json.nullable? Json.textOf? statusText
    let results ← results? results
    return { status, statusText, results }
  | _ => none

/-- The response that a JSON text holds. -/
def ofJson? (text : String) : Option Response :=
  (Json.tree? text.toList).bind ofTree?

end Response

/-- Writes every request, and reads the responses that hold integers of 64 bits only and are not nested
too deeply. -/
def Codec.integral : Codec where
  writeRequest request := .ok request.writtenJson
  readResponse text :=
    match Response.ofJson? text with
    | some response => .ok response
    | none => .error "no response with integers only"

end CommandVerbs.Service
