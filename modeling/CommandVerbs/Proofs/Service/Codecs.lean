import CommandVerbs.Proofs.Json.Storable
import CommandVerbs.Proofs.Json.Writing
import CommandVerbs.Service.Codec

/-! What a client may rely on in a codec. Requests are written compactly, with control characters
escaped; what responses are written as is read back, up to some depth of nesting. -/
namespace CommandVerbs.Service

namespace Response

/-- A response that fits the data model: its status has 32 bits, and its results can be stored. -/
structure Sendable (r : Response) : Prop where
  low : -0x80000000 ≤ r.status
  high : r.status ≤ 0x7FFFFFFF
  results : ∀ item ∈ r.results, Json.Storable item

theorem sendable_success {results : List Json} (storable : ∀ item ∈ results, Json.Storable item) :
    (success results).Sendable where
  low := (by decide : (-0x80000000 : Int) ≤ 1)
  high := (by decide : (1 : Int) ≤ 0x7FFFFFFF)
  results := storable

/-- How many arrays and objects stand inside one another, the record and the list of its results
included. -/
def nesting (r : Response) : Nat := Json.nestingOfItems r.results + 2

end Response

namespace Codec

/-- Requests are written as records without blanks, given how values are written. Control characters
are escaped. -/
structure Compact (codec : Codec) (writeValue : Json → String) : Prop where
  request : ∀ request : CallRequest, codec.writeRequest request =
    .ok ("\x7b\"id\":" ++ toString request.id ++ ",\"procedure\":" ++
      writeValue (.text request.procedure) ++ ",\"params\":" ++
      writeValue (.array request.parameters) ++ "\x7d")
  plain : ∀ value, Json.Plain (writeValue value)

/-- Responses are written as objects with control characters escaped. What fits the data model is read
back up to a depth of nesting, and refused if it is nested more deeply. -/
structure Faithful (codec : Codec) (writeResponse : Response → String) (depth : Nat) : Prop where
  plain : ∀ response, Json.Plain (writeResponse response)
  object : ∀ response, ∃ members, (writeResponse response).toList = '{' :: members ++ ['}']
  reads : ∀ response, response.Sendable → response.nesting ≤ depth →
    codec.readResponse (writeResponse response) = .ok response
  refuses : ∀ response, response.Sendable → depth < response.nesting →
    ∃ reason, codec.readResponse (writeResponse response) = .error reason

end Codec

end CommandVerbs.Service
