import Mathlib.Data.List.Forall2
import CommandVerbs.Host.Address
import CommandVerbs.Proofs.Text.Decimal
import CommandVerbs.Proofs.Text.Lines

/-! The texts that are addresses, and the flaws of all others. A list of addresses is judged by its first
piece that is none, and by its length only if there is no such piece. -/
namespace CommandVerbs.HostAddress

open Text (IsNumeral)

/-- A port as it is written: a numeral, perhaps with a plus sign. -/
inductive PortText : List Char → UInt16 → Prop
  | plain {digits : List Char} {port : UInt16} : IsNumeral digits port.toNat → PortText digits port
  | signed {digits : List Char} {port : UInt16} : IsNumeral digits port.toNat →
      PortText ('+' :: digits) port

/-- A text falls into a host and perhaps the text of a port. -/
inductive Divided : List Char → List Char → Option (List Char) → Prop
  | bracketed {host : List Char} : ']' ∉ host → Divided ('[' :: (host ++ [']'])) host none
  | bracketedPort {host port : List Char} : ']' ∉ host →
      Divided ('[' :: (host ++ ']' :: ':' :: port)) host (some port)
  | port {host port : List Char} : (host ++ ':' :: port).head? ≠ some '[' →
      (host ++ ':' :: port).count ':' = 1 → Divided (host ++ ':' :: port) host (some port)
  | whole {host : List Char} : host.head? ≠ some '[' → host.count ':' ≠ 1 → Divided host host none

/-- The port that comes of a port text, or of the default port if there is none. -/
inductive Ported (defaultPort : Option UInt16) : Option (List Char) → Option UInt16 → Prop
  | default : Ported defaultPort none defaultPort
  | written {text : List Char} {port : UInt16} : PortText text port →
      Ported defaultPort (some text) (some port)

/-- A trimmed text is an address. -/
inductive Names (defaultPort : Option UInt16) (text : List Char) : HostAddress → Prop
  | intro {host : List Char} {portText : Option (List Char)} {port : Option UInt16} :
      Divided text host portText → host ≠ [] → Ported defaultPort portText port →
      Names defaultPort text ⟨String.ofList host, port⟩

/-- What is wrong with a trimmed text that is no address. -/
inductive Flaw : List Char → String → Prop
  | unclosed {rest : List Char} : ']' ∉ rest → Flaw ('[' :: rest) "unclosed '['"
  | trailing {host rest : List Char} {c : Char} : ']' ∉ host → c ≠ ':' →
      Flaw ('[' :: (host ++ ']' :: c :: rest)) "unexpected text after ']'"
  | unnamed {text : List Char} {portText : Option (List Char)} : Divided text [] portText →
      Flaw text "empty host name"
  | badPort {text host portText : List Char} : Divided text host (some portText) → host ≠ [] →
      (∀ port, ¬PortText portText port) → Flaw text "bad port number"

variable {text host : List Char} {portText : Option (List Char)} {port : UInt16}
  {defaultPort : Option UInt16} {a : HostAddress} {reason : String} {limit n : Nat}

/-! ## Ports -/

theorem plus_not_numeral {rest : List Char} : ¬IsNumeral ('+' :: rest) n := fun numeral =>
  absurd (numeral.digits '+' List.mem_cons_self) (by decide)

theorem natural?_eq_some_iff : Text.natural? limit text = some n ↔
    (IsNumeral text n ∨ ∃ rest, text = '+' :: rest ∧ IsNumeral rest n) ∧ n ≤ limit := by
  unfold Text.natural?
  split
  · rename_i rest
    rw [Option.filter_eq_some_iff, Text.digits?_eq_some_iff, decide_eq_true_iff]
    simp [plus_not_numeral]
  · rename_i unsigned
    have plain : ∀ rest, text ≠ '+' :: rest := unsigned
    rw [Option.filter_eq_some_iff, Text.digits?_eq_some_iff, decide_eq_true_iff]
    simp [plain]

theorem portText_iff : PortText text port ↔
    IsNumeral text port.toNat ∨ ∃ rest, text = '+' :: rest ∧ IsNumeral rest port.toNat := by
  constructor
  · rintro (numeral | numeral)
    · exact .inl numeral
    · exact .inr ⟨_, rfl, numeral⟩
  · rintro (numeral | ⟨rest, rfl, numeral⟩)
    · exact .plain numeral
    · exact .signed numeral

theorem port?_eq_some_iff : port? text = some port ↔ PortText text port := by
  rw [port?, Option.map_eq_some_iff, portText_iff]
  constructor
  · rintro ⟨n, read, rfl⟩
    obtain ⟨numeral, within⟩ := natural?_eq_some_iff.mp read
    have same : n.toUInt16.toNat = n := UInt16.toNat_ofNat_of_lt' (Nat.lt_succ_of_le within)
    rwa [same]
  · intro numeral
    have within : port.toNat ≤ 0xFFFF := Nat.le_of_lt_succ port.toNat_lt
    exact ⟨port.toNat, natural?_eq_some_iff.mpr ⟨numeral, within⟩, UInt16.ofNat_toNat⟩

/-! ## Hosts -/

theorem parts_unopened (unopened : text.head? ≠ some '[') : parts text =
    if text.count ':' = 1 then
      match Text.cut ':' text with
      | some (host, port) => .ok (host, some port)
      | none => .ok (text, none)
    else .ok (text, none) := by
  unfold parts
  split
  · simp at unopened
  · rfl

theorem Divided.parts_eq (divided : Divided text host portText) :
    parts text = .ok (host, portText) := by
  cases divided with
  | bracketed closed => simp [parts, Text.cut_append closed]
  | bracketedPort closed => simp [parts, Text.cut_append closed]
  | port unopened once =>
    have undivided : ':' ∉ host := by
      rw [List.count_append, List.count_cons_self] at once
      exact List.count_eq_zero.mp (by omega)
    rw [parts_unopened unopened, if_pos once, Text.cut_append undivided]
  | whole unopened other => rw [parts_unopened unopened, if_neg other]

theorem divided_or_flaw (text : List Char) :
    (∃ host portText, Divided text host portText) ∨ ∃ reason, Flaw text reason := by
  by_cases opened : text.head? = some '['
  · obtain ⟨rest, rfl⟩ := List.head?_eq_some_iff.mp opened
    cases cut : Text.cut ']' rest with
    | none => exact .inr ⟨_, .unclosed (Text.cut_eq_none cut)⟩
    | some found =>
      obtain ⟨host, after⟩ := found
      obtain ⟨rfl, closed⟩ := Text.cut_eq_some cut
      cases after with
      | nil => exact .inl ⟨_, _, .bracketed closed⟩
      | cons c tail =>
        by_cases colon : c = ':'
        · subst colon
          exact .inl ⟨_, _, .bracketedPort closed⟩
        · exact .inr ⟨_, .trailing closed colon⟩
  by_cases once : text.count ':' = 1
  · have colon : ':' ∈ text := List.count_pos_iff.mp (by omega)
    obtain ⟨host, port, rfl⟩ := List.append_of_mem colon
    exact .inl ⟨_, _, .port opened once⟩
  · exact .inl ⟨_, _, .whole opened once⟩

/-! ## Addresses -/

theorem Names.ofTrimmed_eq (names : Names defaultPort text a) :
    ofTrimmed defaultPort text = .ok a := by
  obtain ⟨divided, named, ported⟩ := names
  obtain ⟨c, rest, rfl⟩ := List.exists_cons_of_ne_nil named
  rw [ofTrimmed, divided.parts_eq]
  cases ported with
  | default => rfl
  | written read => simp only [port?_eq_some_iff.mpr read]

theorem Flaw.ofTrimmed_eq (flaw : Flaw text reason) (defaultPort : Option UInt16) :
    ofTrimmed defaultPort text = .error reason := by
  cases flaw with
  | @unclosed rest unclosed =>
    cases cut : Text.cut ']' rest with
    | none => simp [ofTrimmed, parts, cut]
    | some found => exact absurd (by simp [(Text.cut_eq_some cut).1]) unclosed
  | trailing closed other => simp [ofTrimmed, parts, Text.cut_append closed, other]
  | unnamed divided => rw [ofTrimmed, divided.parts_eq]
  | @badPort _ _ portText divided named bad =>
    obtain ⟨c, rest, rfl⟩ := List.exists_cons_of_ne_nil named
    have none : port? portText = none :=
      Option.eq_none_iff_forall_ne_some.mpr fun port read => bad port (port?_eq_some_iff.mp read)
    rw [ofTrimmed, divided.parts_eq]
    simp only [none]

theorem names_or_flaw (defaultPort : Option UInt16) (text : List Char) :
    (∃ a, Names defaultPort text a) ∨ ∃ reason, Flaw text reason := by
  rcases divided_or_flaw text with ⟨host, portText, divided⟩ | flawed
  · by_cases named : host = []
    · subst named
      exact .inr ⟨_, .unnamed divided⟩
    cases portText with
    | none => exact .inl ⟨_, divided, named, .default⟩
    | some portText =>
      by_cases read : ∃ port, PortText portText port
      · obtain ⟨port, read⟩ := read
        exact .inl ⟨_, divided, named, .written read⟩
      · exact .inr ⟨_, .badPort divided named (not_exists.mp read)⟩
  · exact .inr flawed

/-- What gives a result in some cases and a fault in some, and there are no others, gives nothing
else. -/
theorem outcome_iff {ε α : Type} {outcome : Except ε α} {Good : α → Prop} {Bad : ε → Prop}
    (good : ∀ a, Good a → outcome = .ok a) (bad : ∀ e, Bad e → outcome = .error e)
    (either : (∃ a, Good a) ∨ ∃ e, Bad e) :
    (∀ a, outcome = .ok a ↔ Good a) ∧ ∀ e, outcome = .error e ↔ Bad e := by
  rcases either with ⟨a, holds⟩ | ⟨e, holds⟩
  · have given := good a holds
    refine ⟨fun other => ⟨fun same => ?_, good other⟩, fun e => ⟨fun same => ?_, bad e⟩⟩
    · exact Except.ok.inj (given.symm.trans same) ▸ holds
    · cases given.symm.trans same
  · have given := bad e holds
    refine ⟨fun a => ⟨fun same => ?_, good a⟩, fun other => ⟨fun same => ?_, bad other⟩⟩
    · cases given.symm.trans same
    · exact Except.error.inj (given.symm.trans same) ▸ holds

theorem ofTrimmed_iff (defaultPort : Option UInt16) (text : List Char) :
    (∀ a, ofTrimmed defaultPort text = .ok a ↔ Names defaultPort text a) ∧
      ∀ reason, ofTrimmed defaultPort text = .error reason ↔ Flaw text reason :=
  outcome_iff (fun _ names => names.ofTrimmed_eq) (fun _ flaw => flaw.ofTrimmed_eq defaultPort)
    (names_or_flaw defaultPort text)

theorem parse_eq_ok_iff {written : String} : parse written defaultPort = .ok a ↔
    Names defaultPort (Text.trimChars written.toList) a := by
  rw [parse, ← (ofTrimmed_iff defaultPort _).1]
  cases ofTrimmed defaultPort (Text.trimChars written.toList) <;> simp

theorem parse_eq_error_iff {written : String} {fault : OptionFault} :
    parse written defaultPort = .error fault ↔ ∃ reason,
      Flaw (Text.trimChars written.toList) reason ∧ fault = .invalidHost (Text.trim written) reason := by
  simp only [parse, Text.trim, ← (ofTrimmed_iff defaultPort _).2]
  cases ofTrimmed defaultPort (Text.trimChars written.toList) <;> simp [eq_comm]

/-! ## Lists -/

/-- What stands between the commas, without the blanks around it, unless nothing is left. -/
def entries (written : String) : List (List Char) :=
  ((written.toList.splitOn ',').map Text.trimChars).filter (· ≠ [])

/-- The first entry that is no address, and what is said of it. -/
inductive FirstFlaw (defaultPort : Option UInt16) : List (List Char) → OptionFault → Prop
  | here {text : List Char} {reason : String} {rest : List (List Char)} : Flaw text reason →
      FirstFlaw defaultPort (text :: rest) (.invalidHost (String.ofList text) reason)
  | later {text : List Char} {a : HostAddress} {rest : List (List Char)} {fault : OptionFault} :
      Names defaultPort text a → FirstFlaw defaultPort rest fault →
      FirstFlaw defaultPort (text :: rest) fault

variable {written : String} {texts : List (List Char)} {hosts : List HostAddress}
  {fault : OptionFault}

theorem listed_eq (written : String) : listed written = (entries written).map String.ofList := by
  have solid : ∀ piece : List Char,
      (String.ofList (Text.trimChars piece) != "") = !decide (Text.trimChars piece = []) := by
    intro piece
    cases Text.trimChars piece <;> simp
  simp [listed, entries, Text.splitAt, Text.segments_eq_splitOn, Text.trim, List.filter_map,
    Function.comp_def, solid]

theorem trimChars_of_mem_entries : ∀ text ∈ entries written, Text.trimChars text = text := by
  intro text member
  obtain ⟨piece, _, rfl⟩ := List.mem_map.mp (List.mem_filter.mp member).1
  exact Text.trimChars_trimChars piece

theorem Names.parse_eq (names : Names defaultPort text a) (trimmed : Text.trimChars text = text) :
    parse (String.ofList text) defaultPort = .ok a := by
  rwa [parse_eq_ok_iff, String.toList_ofList, trimmed]

theorem Flaw.parse_eq (flaw : Flaw text reason) (defaultPort : Option UInt16)
    (trimmed : Text.trimChars text = text) :
    parse (String.ofList text) defaultPort = .error (.invalidHost (String.ofList text) reason) := by
  rw [parse_eq_error_iff, Text.trim, String.toList_ofList, trimmed]
  exact ⟨reason, flaw, rfl⟩

theorem mapM_parse_of_names (named : List.Forall₂ (Names defaultPort) texts hosts)
    (trimmed : ∀ text ∈ texts, Text.trimChars text = text) :
    (texts.map String.ofList).mapM (parse · defaultPort) = .ok hosts := by
  induction named with
  | nil => rfl
  | @cons text a texts hosts names _ ih =>
    obtain ⟨first, trimmed⟩ := List.forall_mem_cons.mp trimmed
    rw [List.map_cons, List.mapM_cons, names.parse_eq first, ih trimmed]
    rfl

theorem FirstFlaw.mapM_parse (flawed : FirstFlaw defaultPort texts fault)
    (trimmed : ∀ text ∈ texts, Text.trimChars text = text) :
    (texts.map String.ofList).mapM (parse · defaultPort) = .error fault := by
  induction flawed with
  | @here text reason rest flaw =>
    have first := trimmed text List.mem_cons_self
    rw [List.map_cons, List.mapM_cons, flaw.parse_eq defaultPort first]
    rfl
  | @later text a rest fault names _ ih =>
    obtain ⟨first, trimmed⟩ := List.forall_mem_cons.mp trimmed
    rw [List.map_cons, List.mapM_cons, names.parse_eq first, ih trimmed]
    rfl

theorem names_or_firstFlaw (defaultPort : Option UInt16) (texts : List (List Char)) :
    (∃ hosts, List.Forall₂ (Names defaultPort) texts hosts) ∨
      ∃ fault, FirstFlaw defaultPort texts fault := by
  induction texts with
  | nil => exact .inl ⟨[], .nil⟩
  | cons text rest ih =>
    rcases names_or_flaw defaultPort text with ⟨a, names⟩ | ⟨reason, flaw⟩
    · rcases ih with ⟨hosts, named⟩ | ⟨fault, flawed⟩
      · exact .inl ⟨a :: hosts, .cons names named⟩
      · exact .inr ⟨fault, .later names flawed⟩
    · exact .inr ⟨_, .here flaw⟩

theorem parseList_of_names {dest : String} {min max : Nat}
    (named : List.Forall₂ (Names defaultPort) (entries written) hosts) :
    parseList dest written min max defaultPort =
      if min ≤ (entries written).length ∧ (entries written).length ≤ max then .ok hosts
      else .error (.hostCount dest min max (entries written).length) := by
  have read := mapM_parse_of_names named trimChars_of_mem_entries
  rw [parseList, listed_eq, read, named.length_eq]
  change (if _ then _ else _) = _
  by_cases count : min ≤ hosts.length ∧ hosts.length ≤ max
  · rw [if_pos count, if_neg (by omega)]
    rfl
  · rw [if_neg count, if_pos (by omega)]
    rfl

/-- Exactly the texts of the grammar are addresses, every other text is refused for its flaw. A list is
read if all its entries are addresses and there are neither too few nor too many; otherwise the first
entry that is no address is reported, or the number of the entries if all are. -/
theorem parse_grammar (defaultPort : Option UInt16) (written : String) :
    (∀ a, parse written defaultPort = .ok a ↔ Names defaultPort (Text.trimChars written.toList) a) ∧
    (∀ fault, parse written defaultPort = .error fault ↔
      ∃ reason, Flaw (Text.trimChars written.toList) reason ∧
        fault = .invalidHost (Text.trim written) reason) ∧
    ∀ dest min max,
      (∀ hosts, parseList dest written min max defaultPort = .ok hosts ↔
        List.Forall₂ (Names defaultPort) (entries written) hosts ∧
          min ≤ (entries written).length ∧ (entries written).length ≤ max) ∧
      ∀ fault, parseList dest written min max defaultPort = .error fault ↔
        FirstFlaw defaultPort (entries written) fault ∨
        (∃ hosts, List.Forall₂ (Names defaultPort) (entries written) hosts) ∧
          ¬(min ≤ (entries written).length ∧ (entries written).length ≤ max) ∧
          fault = .hostCount dest min max (entries written).length := by
  refine ⟨fun _ => parse_eq_ok_iff, fun _ => parse_eq_error_iff, fun dest min max => ?_⟩
  apply outcome_iff
  · rintro hosts ⟨named, count⟩
    rw [parseList_of_names named, if_pos count]
  · rintro fault (flawed | ⟨⟨hosts, named⟩, other, rfl⟩)
    · rw [parseList, listed_eq, flawed.mapM_parse trimChars_of_mem_entries]
      rfl
    · rw [parseList_of_names named, if_neg other]
  · rcases names_or_firstFlaw defaultPort (entries written) with ⟨hosts, named⟩ | ⟨fault, flawed⟩
    · by_cases count : min ≤ (entries written).length ∧ (entries written).length ≤ max
      · exact .inl ⟨hosts, named, count⟩
      · exact .inr ⟨_, .inr ⟨⟨hosts, named⟩, count, rfl⟩⟩
    · exact .inr ⟨fault, .inl flawed⟩

end CommandVerbs.HostAddress
