import Mathlib.Data.List.Forall2
import CommandVerbs.Proofs.Service.Framing

/-! Replies mean the responses that they were written from, as deep as the codec reads. -/
namespace CommandVerbs.Service

open Text

/-- A reply as a peer sends it: a response on a line of its own, perhaps with blanks after it. -/
structure Reply where
  response : Response
  blanks : List Char := []
  sendable : response.Sendable
  blank : ∀ c ∈ blanks, isBlank c
  single : '\n' ∉ blanks

variable {codec : Codec} {writeValue : Json → String} {writeResponse : Response → String} {depth : Nat}

namespace Reply

/-- A reply without blanks. -/
def ofResponse (response : Response) (sendable : response.Sendable) : Reply where
  response
  sendable
  blank := by simp
  single := by simp

/-- The bytes of a reply. -/
def line (writeResponse : Response → String) (reply : Reply) : List UInt8 :=
  Utf8.encode ((writeResponse reply.response).toList ++ (reply.blanks ++ ['\n']))

/-- What a client answers: the response of a reply, or that it cannot be read if it is nested too
deeply. -/
inductive Answered (depth : Nat) (reply : Reply) : Except ConnectionFault Response → Prop
  | response : reply.response.nesting ≤ depth → Answered depth reply (.ok reply.response)
  | refused (reason : String) : depth < reply.response.nesting →
      Answered depth reply (.error (.protocol s!"invalid JSON: {reason}"))

variable (reply : Reply)

theorem answered_line (faithful : codec.Faithful writeResponse depth) :
    reply.Answered depth (Client.response? codec (reply.line writeResponse)) := by
  have blank : ∀ c ∈ reply.blanks ++ ['\n'], isBlank c := by
    intro c member
    rcases List.mem_append.mp member with inside | final
    · exact reply.blank c inside
    · rw [List.mem_singleton.mp final]
      decide
  rw [line, faithful.response? reply.response blank]
  rcases Nat.lt_or_ge depth reply.response.nesting with deep | shallow
  · obtain ⟨reason, refused⟩ := faithful.refuses reply.response reply.sendable deep
    rw [refused]
    exact .refused reason deep
  · rw [faithful.reads reply.response reply.sendable shallow]
    exact .response shallow

/-- A reply is one line. -/
theorem exists_line (faithful : codec.Faithful writeResponse depth) :
    ∃ text, reply.line writeResponse = text ++ [0x0A] ∧ 0x0A ∉ text := by
  refine ⟨Utf8.encode ((writeResponse reply.response).toList ++ reply.blanks), ?_, fun feed => ?_⟩
  · rw [line, ← List.append_assoc, Utf8.encode, List.flatMap_append]
    rfl
  · rcases List.mem_append.mp (Utf8.lineFeed_mem_encode.mp feed) with written | blank
    · exact absurd (faithful.plain reply.response '\n' written) (by decide)
    · exact reply.single blank

theorem cut_replies (faithful : codec.Faithful writeResponse depth) (replies : List Reply) :
    Cut (replies.flatMap (line writeResponse)) (replies.map (line writeResponse)) := by
  induction replies with
  | nil => exact .done
  | cons reply rest ih =>
    obtain ⟨text, shape, absent⟩ := reply.exists_line faithful
    rw [List.flatMap_cons, List.map_cons, shape, List.append_assoc, List.singleton_append]
    exact .line absent ih

end Reply

namespace Client

variable {c : Client} {stream : List UInt8} {lines : List (List UInt8)} {n : Nat}

/-- What calls answer, one after another. -/
def answers (codec : Codec) (c : Client) :
    List (String × List Json) → List (Except ConnectionFault Response)
  | [] => []
  | (procedure, parameters) :: rest =>
    (c.call codec procedure parameters).2 :: (c.call codec procedure parameters).1.answers codec rest

/-- Calls answer what the next lines mean, and after the last line that the peer is gone. -/
theorem Before.answers (before : Before lines n c) (cut : Cut stream lines)
    (compact : codec.Compact writeValue) (calls : List (String × List Json)) :
    c.answers codec calls = ((lines.drop n).map (response? codec)).take calls.length ++
      List.replicate (calls.length - (lines.drop n).length)
        (.error (.protocol "connection closed by peer")) := by
  induction calls generalizing n c with
  | nil => simp [Client.answers]
  | cons call rest ih =>
    obtain ⟨request, written, -⟩ := compact.writeRequest ⟨.ofNat (n + 1), call.1, call.2⟩
    obtain ⟨answer, -, next⟩ := before.call cut written
    rw [Client.answers, answer, ih next, ← headD_drop, ← List.tail_drop]
    cases lines.drop n with
    | nil => simp [List.replicate_succ, response?]
    | cons line later => simp

/-- Replies are read as the responses that were sent, in their order. Of any number of calls to a peer
that sends replies and then ends the stream, as many as there are replies answer the responses of the
replies; a response is refused, and only itself, if it is nested more deeply than the codec reads. All
calls after them answer that the peer is gone. -/
theorem answers_replies (compact : codec.Compact writeValue)
    (faithful : codec.Faithful writeResponse depth) (replies : List Reply)
    (closeRefusal : Option String) (calls : List (String × List Json)) :
    ∃ answered, List.Forall₂ (Reply.Answered depth) replies answered ∧
      (connected (replies.flatMap (Reply.line writeResponse)) closeRefusal).answers codec calls =
        answered.take calls.length ++
          List.replicate (calls.length - replies.length)
            (.error (.protocol "connection closed by peer")) := by
  have cut := Reply.cut_replies faithful replies
  refine ⟨(replies.map (Reply.line writeResponse)).map (response? codec), ?_, ?_⟩
  · rw [List.map_map, List.forall₂_map_right_iff, List.forall₂_same]
    exact fun reply _ => reply.answered_line faithful
  · rw [(before_connected cut closeRefusal).answers cut compact, List.drop_zero, List.length_map]

/-- An array around as many others, one inside the other. -/
def nestedArrays : Nat → Json
  | 0 => .array []
  | n + 1 => .array [nestedArrays n]

theorem storable_nestedArrays (n : Nat) : Json.Storable (nestedArrays n) := by
  induction n with
  | zero => exact .array (by simp)
  | succ n ih => exact .array (by simpa using ih)

theorem nesting_nestedArrays (n : Nat) : (nestedArrays n).nesting = n + 1 := by
  induction n with
  | zero => rfl
  | succ n ih => rw [nestedArrays, Json.nesting, Json.nestingOfItems, ih, Json.nestingOfItems, Nat.max_zero]

/-- A response with as many arrays inside one another in its results. -/
def nestedResponse (n : Nat) : Response :=
  .success [nestedArrays n]

theorem nesting_nestedResponse (n : Nat) : (nestedResponse n).nesting = n + 3 := by
  rw [Response.nesting, nestedResponse, Response.success, Json.nestingOfItems, nesting_nestedArrays]
  rfl

theorem sendable_nestedResponse (n : Nat) : (nestedResponse n).Sendable :=
  Response.sendable_success (List.forall_mem_singleton.mpr (storable_nestedArrays n))

/-- A reply that is as deep. -/
def nestedReply (n : Nat) : Reply :=
  .ofResponse (nestedResponse n) (sendable_nestedResponse n)

theorem answers_replies_nested :
    let codec := Codec.integral
    let replies := [nestedReply 125, nestedReply 124]
    codec.Compact Json.written ∧ codec.Faithful Response.writtenJson 127 ∧
      ∃ reason : String, (connected (replies.flatMap (Reply.line Response.writtenJson)) none).answers
          codec [("p", []), ("q", []), ("r", [])] =
        [.error (.protocol s!"invalid JSON: {reason}"), .ok (nestedResponse 124),
          .error (.protocol "connection closed by peer")] := by
  intro codec replies
  refine ⟨Codec.integral_compact, Codec.integral_faithful, ?_⟩
  obtain ⟨answered, each, all⟩ := answers_replies Codec.integral_compact Codec.integral_faithful
    replies none [("p", []), ("q", []), ("r", [])]
  obtain ⟨_, _, first, eachLater, rfl⟩ := List.forall₂_cons_left_iff.mp each
  obtain ⟨_, _, second, eachRest, rfl⟩ := List.forall₂_cons_left_iff.mp eachLater
  obtain rfl := List.forall₂_nil_left_iff.mp eachRest
  have nesting (n : Nat) : (nestedReply n).response.nesting = n + 3 := nesting_nestedResponse n
  cases first with
  | response within => exact absurd within (by rw [nesting]; decide)
  | refused reason =>
    cases second with
    | response => exact ⟨reason, all⟩
    | refused _ beyond => exact absurd beyond (by rw [nesting]; decide)

theorem call_of_deep (compact : codec.Compact writeValue)
    (faithful : codec.Faithful writeResponse depth) {response : Response}
    (sendable : response.Sendable) (deep : depth < response.nesting) (procedure : String)
    (parameters : List Json) :
    ∃ reason : String,
      ((connected (Utf8.encode ((writeResponse response).toList ++ ['\n'])) none).call codec
        procedure parameters).2 = .error (.protocol s!"invalid JSON: {reason}") := by
  let reply := Reply.ofResponse response sendable
  have line : Utf8.encode ((writeResponse response).toList ++ ['\n']) = reply.line writeResponse := rfl
  have cut : Cut (reply.line writeResponse) [reply.line writeResponse] := by
    simpa using Reply.cut_replies faithful [reply]
  obtain ⟨request, written, -⟩ := compact.writeRequest ⟨.ofNat 1, procedure, parameters⟩
  obtain ⟨answer, -⟩ := (before_connected cut none).call cut written
  rw [line, answer, List.getD_cons_zero]
  have answered := reply.answered_line faithful
  generalize response? codec (reply.line writeResponse) = result at answered ⊢
  cases answered with
  | response shallow => exact absurd shallow (Nat.not_le.mpr deep)
  | refused reason => exact ⟨reason, rfl⟩

/-- A response may be too deep to be read back. -/
theorem deep_response_refused :
    let codec := Codec.integral
    let response := nestedResponse 125
    codec.Compact Json.written ∧ codec.Faithful Response.writtenJson 127 ∧ response.Sendable ∧
      ∃ reason : String,
        ((connected (Utf8.encode (response.writtenJson.toList ++ ['\n'])) none).call
          codec "p" []).2 = .error (.protocol s!"invalid JSON: {reason}") := by
  intro codec response
  have deep : 127 < response.nesting := by
    rw [nesting_nestedResponse]
    decide
  exact ⟨Codec.integral_compact, Codec.integral_faithful, sendable_nestedResponse 125,
    call_of_deep Codec.integral_compact Codec.integral_faithful (sendable_nestedResponse 125) deep
      "p" []⟩

end Client

end CommandVerbs.Service
