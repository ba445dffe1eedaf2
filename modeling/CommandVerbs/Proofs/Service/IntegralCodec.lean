import CommandVerbs.Proofs.Json.Reading
import CommandVerbs.Proofs.Service.Codecs
import CommandVerbs.Service.IntegralCodec

/-! The codec without floating-point numbers writes compactly and reads back what is written. Its reader
takes no more than 127 arrays and objects inside one another; the record of a response and the list of
its results are two of them, and what is left is for the results themselves. -/
namespace CommandVerbs.Service

namespace CallRequest

theorem writtenJson_eq (r : CallRequest) : r.writtenJson =
    "\x7b\"id\":" ++ toString r.id ++ ",\"procedure\":" ++ Json.written (.text r.procedure) ++
      ",\"params\":" ++ Json.written (.array r.parameters) ++ "\x7d" := by
  have names : Json.writtenText "id" = "\"id\"" ∧ Json.writtenText "procedure" = "\"procedure\"" ∧
      Json.writtenText "params" = "\"params\"" := by decide +kernel
  obtain ⟨first, second, third⟩ := names
  have number : Json.written (.number r.id.toNat) = toString r.id := rfl
  rw [writtenJson, members, Json.writtenRecord, Json.writtenFields, Json.writtenFields,
    Json.writtenFields, Json.writtenFields, String.intercalate_cons_cons,
    String.intercalate_cons_cons, String.intercalate_singleton, first, second, third, number,
    ← String.toList_inj]
  simp

end CallRequest

namespace Response

variable {r : Response}

theorem tree?_writtenJson (r : Response) :
    Json.tree? r.writtenJson.toList = some (Json.toTree (.fields r.members)) :=
  Json.tree?_written (.fields r.members)

theorem members?_toTree (r : Response) :
    Json.members? ["status", "status_string", "results"] (Json.toTree (.fields r.members)) =
      some [some (.number (toString r.status).toList), some (Json.toTree (.optionalText r.statusText)),
        some (.array (Json.toTrees r.results))] := by
  simp [members, Json.toTree, Json.toEntries, Json.members?, Json.string?_pieces]

theorem nullable?_toTree (text : Option String) :
    Json.nullable? Json.textOf? (some (Json.toTree (.optionalText text))) = some text := by
  cases text with
  | none => rfl
  | some s => simp [Json.optionalText, Json.toTree, Json.nullable?, Json.textOf?, Json.string?_pieces]

theorem results?_toTrees (storable : ∀ item ∈ r.results, Json.Storable item) :
    results? (some (.array (Json.toTrees r.results))) =
      if Json.nestingOfItems r.results < 126 then some r.results else none :=
  Json.ofItems?_toTrees (fun item member => (storable item member).ofTree?_toTree (by decide))
    (by decide)

/-- A response is read back if its results are not too deep. -/
theorem Sendable.ofJson?_writtenJson (sendable : r.Sendable) : ofJson? r.writtenJson =
    if Json.nestingOfItems r.results < 126 then some r else none := by
  have status : Json.integerIn? (-0x80000000) 0x7FFFFFFF (.number (toString r.status).toList) =
      some r.status := by
    rw [Json.integerIn?, Json.wholeNumber?_toString]
    simp [sendable.low, sendable.high]
  rw [ofJson?, tree?_writtenJson, Option.bind_some, ofTree?, members?_toTree]
  simp only [status, nullable?_toTree, results?_toTrees sendable.results, Option.bind_eq_bind,
    Option.bind_some]
  split_ifs <;> rfl

theorem toList_writtenJson (r : Response) :
    ∃ members, r.writtenJson.toList = '{' :: members ++ ['}'] := by
  refine ⟨(",".intercalate (Json.writtenFields r.members)).toList, ?_⟩
  rw [writtenJson, Json.writtenRecord, String.toList_append, String.toList_append]
  rfl

end Response

namespace Codec

theorem integral_compact : integral.Compact Json.written where
  request r := congrArg Except.ok r.writtenJson_eq
  plain := Json.plain_written

theorem integral_faithful : integral.Faithful Response.writtenJson 127 where
  plain r := Json.plain_writtenRecord r.members
  object := Response.toList_writtenJson
  reads r sendable shallow := by
    have room : Json.nestingOfItems r.results < 126 := by
      rw [Response.nesting] at shallow
      omega
    simp only [integral, sendable.ofJson?_writtenJson, if_pos room]
  refuses r sendable deep := by
    have full : ¬Json.nestingOfItems r.results < 126 := by
      rw [Response.nesting] at deep
      omega
    refine ⟨"no response with integers only", ?_⟩
    simp only [integral, sendable.ofJson?_writtenJson, if_neg full]

end Codec

end CommandVerbs.Service
