import CommandVerbs.Proofs.Service.IntegralCodec
import CommandVerbs.Proofs.Text.Trimming
import CommandVerbs.Proofs.Text.Utf8
import CommandVerbs.Service.Client

/-! Calls and lines. Requests and replies belong together by their place alone, so what counts is
that each call writes one line and takes one, whatever the lines hold. -/
namespace CommandVerbs.Service

open Text

variable {codec : Codec} {writeValue : Json → String} {writeResponse : Response → String} {depth : Nat}
  {line text stream : List UInt8} {lines : List (List UInt8)} {n : Nat}

/-! ## The lines of a stream -/

/-- The stream comes in these lines, each with its line feed; what follows the last line feed is a
line too, if there is anything. -/
inductive Cut : List UInt8 → List (List UInt8) → Prop
  | done : Cut [] []
  | rest {text : List UInt8} : text ≠ [] → 0x0A ∉ text → Cut text [text]
  | line {text stream : List UInt8} {lines : List (List UInt8)} : 0x0A ∉ text → Cut stream lines →
      Cut (text ++ 0x0A :: stream) ((text ++ [0x0A]) :: lines)

theorem not_mem_cons {b : UInt8} : 0x0A ∉ b :: text ↔ b ≠ 0x0A ∧ 0x0A ∉ text := by
  rw [List.mem_cons, not_or, ← ne_eq, ne_comm]

theorem exists_cut (stream : List UInt8) : ∃ lines, Cut stream lines := by
  induction stream with
  | nil => exact ⟨[], .done⟩
  | cons b stream ih =>
    obtain ⟨lines, cut⟩ := ih
    by_cases feed : b = 0x0A
    · subst feed
      have first : Cut ([] ++ 0x0A :: stream) (([] ++ [0x0A]) :: lines) :=
        .line List.not_mem_nil cut
      exact ⟨_, first⟩
    -- any other byte goes to the front of the line that comes first
    cases cut with
    | done => exact ⟨_, .rest (List.cons_ne_nil b []) (not_mem_cons.mpr ⟨feed, List.not_mem_nil⟩)⟩
    | rest _ absent => exact ⟨_, .rest (List.cons_ne_nil b _) (not_mem_cons.mpr ⟨feed, absent⟩)⟩
    | line absent cut => exact ⟨_, .line (not_mem_cons.mpr ⟨feed, absent⟩) cut⟩

theorem takeLine_unended (absent : 0x0A ∉ text) : takeLine text = (text, []) := by
  induction text with
  | nil => rfl
  | cons b rest ih =>
    obtain ⟨feed, absent⟩ := not_mem_cons.mp absent
    rw [takeLine, if_neg feed, ih absent]

theorem takeLine_ended (absent : 0x0A ∉ text) (stream : List UInt8) :
    takeLine (text ++ 0x0A :: stream) = (text ++ [0x0A], stream) := by
  induction text with
  | nil => rw [List.nil_append, takeLine, if_pos rfl, List.nil_append]
  | cons b rest ih =>
    obtain ⟨feed, absent⟩ := not_mem_cons.mp absent
    rw [List.cons_append, takeLine, if_neg feed, ih absent]
    rfl

theorem Cut.flatten (cut : Cut stream lines) : lines.flatten = stream := by
  induction cut with
  | done => rfl
  | rest => exact List.append_nil _
  | line _ _ ih => rw [List.flatten_cons, ih, List.append_assoc, List.singleton_append]

theorem Cut.tail (cut : Cut stream lines) : Cut lines.tail.flatten lines.tail := by
  cases cut with
  | done | rest => exact .done
  | line _ later => exact later.flatten.symm ▸ later

theorem Cut.drop (cut : Cut stream lines) (n : Nat) : Cut (lines.drop n).flatten (lines.drop n) := by
  induction n with
  | zero => exact cut.flatten.symm ▸ cut
  | succ n ih =>
    have next := ih.tail
    rwa [List.tail_drop] at next

theorem headD_drop (lines : List (List UInt8)) (n : Nat) :
    (lines.drop n).headD [] = lines.getD n [] := by
  rw [List.headD_eq_head?_getD, List.head?_drop, List.getD_eq_getElem?_getD]

theorem flatten_drop (lines : List (List UInt8)) (n : Nat) :
    (lines.drop n).flatten = lines.getD n [] ++ (lines.drop (n + 1)).flatten := by
  rw [← headD_drop, ← List.tail_drop]
  cases lines.drop n with
  | nil => rfl
  | cons line rest => rw [List.flatten_cons, List.headD_cons, List.tail_cons]

/-- The first line is what is taken, and nothing if there is none. -/
theorem Cut.takeLine (cut : Cut stream lines) :
    takeLine stream = (lines.headD [], lines.tail.flatten) := by
  cases cut with
  | done => rfl
  | rest _ absent => exact takeLine_unended absent
  | line absent later =>
    rw [takeLine_ended absent, List.headD_cons, List.tail_cons, later.flatten]

/-! ## What is written and what is read -/

theorem encode_line (s : String) :
    Utf8.encode (s ++ "\n").toList = Utf8.encode s.toList ++ [0x0A] := by
  rw [String.toList_append, Utf8.encode, List.flatMap_append]
  rfl

/-- A text without control characters is one line. -/
theorem lineFeed_not_mem_encode {s : String} (plain : Json.Plain s) : 0x0A ∉ Utf8.encode s.toList :=
  fun feed => absurd (plain '\n' (Utf8.lineFeed_mem_encode.mp feed)) (by decide)

theorem Codec.Compact.writeRequest (compact : codec.Compact writeValue) (request : CallRequest) :
    ∃ text, codec.writeRequest request = .ok text ∧ Json.Plain text := by
  have number : Json.Plain (toString request.id) := Json.plain_nat request.id.toNat
  refine ⟨_, compact.request request, Json.Plain.append ?_ (by decide)⟩
  refine (((Json.Plain.append ?_ ?_).append ?_).append ?_).append ?_
  · exact Json.Plain.append (by decide) number
  · decide
  · exact compact.plain _
  · decide
  · exact compact.plain _

/-- What a line stands for as a reply. -/
inductive Means (codec : Codec) : List UInt8 → Except ConnectionFault Response → Prop
  | closed : Means codec [] (.error (.protocol "connection closed by peer"))
  | notText {line : List UInt8} : line ≠ [] → (∀ text, Utf8.encode text ≠ line) →
      Means codec line (.error (.protocol "I/O error: stream did not contain valid UTF-8"))
  | notResponse {text : List Char} {reason : String} : text ≠ [] →
      codec.readResponse (String.ofList (dropBlanksEnd text)) = .error reason →
      Means codec (Utf8.encode text) (.error (.protocol s!"invalid JSON: {reason}"))
  | response {text : List Char} {response : Response} : text ≠ [] →
      codec.readResponse (String.ofList (dropBlanksEnd text)) = .ok response →
      Means codec (Utf8.encode text) (.ok response)

/-- What is made of a line that holds a text. -/
theorem response?_encode {text : List Char} (some : text ≠ []) :
    Client.response? codec (Utf8.encode text) =
      (codec.readResponse (String.ofList (dropBlanksEnd text))).mapError Client.invalidJson := by
  have decoded : Utf8.decode (Utf8.encode text) = .some text := Utf8.decode_eq_some_iff.mpr rfl
  have bytes : Utf8.encode text ≠ [] := by
    intro none
    rw [none] at decoded
    exact some (Option.some.inj (decoded.symm.trans (Utf8.decode_eq_some_iff.mpr rfl)))
  rw [Client.response?, if_neg (by simpa using bytes), decoded]

theorem means_response? (line : List UInt8) : Means codec line (Client.response? codec line) := by
  rcases eq_or_ne line [] with rfl | some
  · exact .closed
  cases read : Utf8.decode line with
  | none =>
    rw [Client.response?, if_neg (by simpa using some), read]
    refine .notText some fun text written => ?_
    simp [Utf8.decode_eq_some_iff.mpr written] at read
  | some text =>
    obtain rfl := Utf8.decode_eq_some_iff.mp read
    have some : text ≠ [] := by
      rintro rfl
      exact some rfl
    rw [response?_encode some]
    cases held : codec.readResponse (String.ofList (dropBlanksEnd text)) with
    | error reason => exact .notResponse some held
    | ok response => exact .response some held

/-- The last character of a written response is not blank. -/
theorem Codec.Faithful.dropBlanksEnd (faithful : codec.Faithful writeResponse depth)
    (response : Response) {blanks : List Char} (blank : ∀ c ∈ blanks, isBlank c) :
    dropBlanksEnd ((writeResponse response).toList ++ blanks) = (writeResponse response).toList := by
  obtain ⟨members, shape⟩ := faithful.object response
  rw [dropBlanksEnd_append_blanks _ blank, shape, dropBlanksEnd_append_cons _ (by decide) []]
  rfl

/-- A written response with blanks after it is read as its text is. -/
theorem Codec.Faithful.response? (faithful : codec.Faithful writeResponse depth)
    (response : Response) {blanks : List Char} (blank : ∀ c ∈ blanks, isBlank c) :
    Client.response? codec (Utf8.encode ((writeResponse response).toList ++ blanks)) =
      (codec.readResponse (writeResponse response)).mapError Client.invalidJson := by
  obtain ⟨members, shape⟩ := faithful.object response
  rw [response?_encode (by simp [shape]), faithful.dropBlanksEnd response blank,
    String.ofList_toList]

/-! ## Clients -/

inductive Operation where
  | call (procedure : String) (parameters : List Json)
  | close

namespace Client

variable {c : Client} {op : Operation} {ops : List Operation}

def perform (codec : Codec) (c : Client) : Operation → Client
  | .call procedure parameters => (c.call codec procedure parameters).1
  | .close => c.close.1

def after (codec : Codec) (c : Client) (ops : List Operation) : Client := ops.foldl (perform codec) c

/-- Stands before the line number `n` of the stream, after as many calls. -/
structure Before (lines : List (List UInt8)) (n : Nat) (c : Client) : Prop where
  incoming : c.wire.incoming = (lines.drop n).flatten
  writable : c.wire.writeRefusal = none
  number : c.nextId = UInt64.ofNat (n + 1)
  unclosed : c.closed = false

theorem Before.call (before : Before lines n c) (cut : Cut stream lines) {procedure request : String}
    {parameters : List Json} (written : codec.writeRequest
      { id := UInt64.ofNat (n + 1), procedure, parameters } = .ok request) :
    (c.call codec procedure parameters).2 = response? codec (lines.getD n []) ∧
      (c.call codec procedure parameters).1.wire.written =
        (request ++ "\n") :: c.wire.written ∧
      Before lines (n + 1) (c.call codec procedure parameters).1 := by
  have taken := (cut.drop n).takeLine
  rw [List.tail_drop, ← before.incoming] at taken
  have number : UInt64.ofNat (n + 1) + 1 = UInt64.ofNat (n + 1 + 1) := (UInt64.ofNat_add _ 1).symm
  rw [← before.number] at written number
  simp only [Client.call, before.unclosed, Bool.false_eq_true, if_false, written, taken, headD_drop]
  rw [before.writable]
  exact ⟨rfl, rfl, rfl, rfl, number, rfl⟩

/-- As long as nothing closes the client, it stands before the line of its next call. -/
theorem Before.after (before : Before lines n c) (cut : Cut stream lines)
    (compact : codec.Compact writeValue) (unclosed : Operation.close ∉ ops) :
    Before lines (n + ops.length) (c.after codec ops) := by
  induction ops generalizing n c with
  | nil => exact before
  | cons op rest ih =>
    cases op with
    | close => exact absurd List.mem_cons_self unclosed
    | call procedure parameters =>
      obtain ⟨request, written, -⟩ := compact.writeRequest ⟨.ofNat (n + 1), procedure, parameters⟩
      obtain ⟨-, -, next⟩ := before.call cut written
      have later := ih next (mt (List.mem_cons_of_mem _) unclosed)
      rwa [Nat.add_assoc, Nat.add_comm 1] at later

theorem call_of_closed (closed : c.closed) (procedure : String) (parameters : List Json) :
    c.call codec procedure parameters = (c, .error .notConnected) := by
  rw [Client.call, if_pos closed]

theorem close_of_closed (closed : c.closed) : c.close = (c, .ok ()) := by
  rw [close, if_pos closed]

theorem wire_close (c : Client) : c.close.1.wire = c.wire := by
  unfold close
  split
  · rfl
  · split <;> rfl

theorem closed_close (c : Client) : c.close.1.closed := by
  unfold close
  split
  · assumption
  · split <;> rfl

theorem after_of_closed (closed : c.closed) (ops : List Operation) : c.after codec ops = c := by
  induction ops with
  | nil => rfl
  | cons op rest ih =>
    have kept : c.perform codec op = c := by
      cases op with
      | call procedure parameters => exact congrArg Prod.fst (call_of_closed closed procedure parameters)
      | close => exact congrArg Prod.fst (close_of_closed closed)
    rw [after, List.foldl_cons, kept]
    exact ih

theorem closed_after (closing : Operation.close ∈ ops) : (c.after codec ops).closed := by
  induction ops generalizing c with
  | nil => exact absurd closing List.not_mem_nil
  | cons op rest ih =>
    rcases List.mem_cons.mp closing with rfl | later
    · have closed := closed_close c
      rw [show c.after codec (.close :: rest) = c.close.1.after codec rest from rfl,
        after_of_closed closed]
      exact closed
    · exact ih later

/-- The client of a connection over which the peer sends a stream. -/
def connected (stream : List UInt8) (closeRefusal : Option String) : Client where
  wire := { incoming := stream, closeRefusal }

theorem before_connected (cut : Cut stream lines) (closeRefusal : Option String) :
    Before lines 0 (connected stream closeRefusal) := ⟨cut.flatten.symm, rfl, rfl, rfl⟩

/-- Calls keep in step with the lines that the peer sends. Until the client is closed, the call
number `n` writes one line, which carries that number in 64 bits, takes line number `n`, and answers what
this line means, which for a response as it is written, with any blanks after it, is this response; if
the stream has no such line, it is at its end. Closing moves no bytes, and afterwards nothing does. -/
theorem calls_in_step (compact : codec.Compact writeValue)
    (faithful : codec.Faithful writeResponse depth) (stream : List UInt8)
    (closeRefusal : Option String) :
    ∃ lines, Cut stream lines ∧ ∀ ops : List Operation,
      let c := (connected stream closeRefusal).after codec ops
      (Operation.close ∉ ops → ∀ procedure parameters,
        let next := (c.call codec procedure parameters).1
        let answer := (c.call codec procedure parameters).2
        let request := "\x7b\"id\":" ++ toString (UInt64.ofNat (ops.length + 1)) ++
          ",\"procedure\":" ++ writeValue (.text procedure) ++
          ",\"params\":" ++ writeValue (.array parameters) ++ "\x7d\n"
        let line := lines.getD ops.length []
        answer = response? codec line ∧ Means codec line answer ∧
          (∀ response blanks, response.Sendable → response.nesting ≤ depth →
            (∀ b ∈ blanks, isBlank b) →
            line = Utf8.encode ((writeResponse response).toList ++ blanks) →
            answer = .ok response) ∧
          c.wire.incoming = line ++ next.wire.incoming ∧
          next.wire.incoming = (lines.drop (ops.length + 1)).flatten ∧
          next.wire.written = request :: c.wire.written ∧
          ∃ body, Utf8.encode request.toList = body ++ [0x0A] ∧ 0x0A ∉ body) ∧
      (Operation.close ∈ ops →
        (∀ procedure parameters, c.call codec procedure parameters = (c, .error .notConnected)) ∧
        c.close = (c, .ok ())) ∧
      c.close.1.wire = c.wire := by
  obtain ⟨lines, cut⟩ := exists_cut stream
  have initial := before_connected cut closeRefusal
  refine ⟨lines, cut, fun ops => ⟨fun unclosed procedure parameters => ?_, fun closing => ?_,
    wire_close _⟩⟩
  · have before := initial.after cut compact unclosed
    rw [Nat.zero_add] at before
    let asked : CallRequest := ⟨.ofNat (ops.length + 1), procedure, parameters⟩
    obtain ⟨text, wrote, plain⟩ := compact.writeRequest asked
    obtain ⟨answer, written, next⟩ := before.call cut wrote
    have taken := flatten_drop lines ops.length
    rw [← before.incoming, ← next.incoming] at taken
    have request : text ++ "\n" = _ := congrArg (· ++ "\n")
      (Except.ok.inj (wrote.symm.trans (compact.request asked)))
    rw [String.append_assoc] at request
    refine ⟨answer, answer.symm ▸ means_response? _, fun response blanks sendable shallow blank sent => ?_,
      taken, next.incoming, request ▸ written, Utf8.encode text.toList, ?_,
      lineFeed_not_mem_encode plain⟩
    · have read := faithful.response? response blank
      rw [faithful.reads response sendable shallow, ← sent] at read
      exact answer.trans read
    · have bytes := encode_line text
      rwa [request] at bytes
  · have closed : ((connected stream closeRefusal).after codec ops).closed := closed_after closing
    exact ⟨call_of_closed closed, close_of_closed closed⟩

theorem calls_in_step_once :
    let codec := Codec.integral
    let reply := Utf8.encode ((Response.success []).writtenJson ++ "\n").toList
    let c := connected reply none
    codec.Compact Json.written ∧ codec.Faithful Response.writtenJson 127 ∧
      (c.call codec "p" []).2 = .ok (.success []) ∧
      (c.call codec "p" []).1.wire.incoming = [] ∧
      (c.call codec "p" []).1.wire.written =
        ["\x7b\"id\":1,\"procedure\":\"p\",\"params\":[]\x7d\n"] := by
  intro codec reply c
  refine ⟨Codec.integral_compact, Codec.integral_faithful, ?_⟩
  obtain ⟨lines, cut, all⟩ :=
    calls_in_step Codec.integral_compact Codec.integral_faithful reply none
  obtain ⟨-, -, decoded, taken, -, written, -⟩ := (all []).1 List.not_mem_nil "p" []
  have ended : reply = Utf8.encode (Response.success []).writtenJson.toList ++ [0x0A] := encode_line _
  have whole : lines.getD 0 [] = reply := by
    have plain := lineFeed_not_mem_encode (Codec.integral_faithful.plain (.success []))
    have first := cut.takeLine
    rw [ended, takeLine_ended plain []] at first
    rw [ended, (Prod.mk.inj first).1, ← headD_drop, List.drop_zero]
  rw [List.length_nil, whole] at taken decoded
  have blank : ∀ c ∈ ['\n'], isBlank c := List.forall_mem_singleton.mpr (by decide)
  refine ⟨decoded (.success []) ['\n'] ?_ (by decide) blank ?_, ?_, written.trans ?_⟩
  · exact Response.sendable_success (by simp)
  · exact congrArg Utf8.encode String.toList_append
  · exact List.append_cancel_left (taken.symm.trans (List.append_nil _).symm)
  · decide +kernel

end Client

end CommandVerbs.Service
