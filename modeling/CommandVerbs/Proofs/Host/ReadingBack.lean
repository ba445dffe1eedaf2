import CommandVerbs.Proofs.Host.Grammar

/-! Which addresses are read back from their written forms. Reading takes the brackets off any host,
but only a host with a colon is written in brackets, and only a host without a closing one can be. -/
namespace CommandVerbs.HostAddress

/-- The characters of a host, in brackets if it has a colon. -/
def hostPart (host : List Char) : List Char :=
  if ':' ∈ host then '[' :: (host ++ [']']) else host

/-- The characters of a port and the colon before it. -/
def portPart : Option UInt16 → List Char
  | none => []
  | some port => ':' :: Nat.toDigits 10 port.toNat

/-- The written form of an address stands for that address alone. -/
inductive ReadsBack (a : HostAddress) : Prop
  | bracketed : ':' ∈ a.host.toList → ']' ∉ a.host.toList → ReadsBack a
  | plain : ':' ∉ a.host.toList → a.host.toList.head? ≠ some '[' →
      Text.trimChars a.display.toList = a.display.toList → ReadsBack a

variable {a : HostAddress} {text host : List Char} {portText : Option (List Char)}
  {defaultPort port : Option UInt16} {c : Char}

/-! ## Written forms -/

theorem toList_display (a : HostAddress) :
    a.display.toList = hostPart a.host.toList ++ portPart a.port := by
  obtain ⟨host, port⟩ := a
  by_cases colon : ':' ∈ host.toList
  · cases port <;> simp [display, hostPart, portPart, colon, toString]
  · cases port <;> simp [display, hostPart, portPart, colon, toString]

theorem mem_portPart (member : c ∈ portPart port) : c = ':' ∨ c.isDigit := by
  cases port with
  | none => simp [portPart] at member
  | some port =>
    rcases List.mem_cons.mp member with rfl | digit
    · exact .inl rfl
    · exact .inr (Text.isDigit_of_mem_toDigits digit)

theorem not_mem_portPart (other : c ≠ ':') (letter : ¬c.isDigit) (port : Option UInt16) :
    c ∉ portPart port := by
  intro member
  rcases mem_portPart member with same | digit
  · exact other same
  · exact letter digit

theorem count_colon_portPart (port : Option UInt16) :
    (portPart port).count ':' = if port.isSome then 1 else 0 := by
  cases port with
  | none => rfl
  | some port =>
    have digits : ':' ∉ Nat.toDigits 10 port.toNat := fun member =>
      absurd (Text.isDigit_of_mem_toDigits member) (by decide)
    rw [portPart, List.count_cons_self, List.count_eq_zero.mpr digits]
    rfl

theorem solid_of_mem_portPart (member : c ∈ portPart port) : Text.isBlank c = false := by
  rcases mem_portPart member with rfl | digit
  · decide
  · exact Text.not_blank_of_isDigit digit

theorem trimChars_append_portPart (host : List Char) (port : UInt16) :
    Text.trimChars (host ++ portPart (some port)) = Text.dropBlanks host ++ portPart (some port) := by
  have solid : ∀ c ∈ (host ++ portPart (some port)).getLast?, Text.isBlank c = false := by
    intro c last
    rw [List.getLast?_append_of_ne_nil host (by simp [portPart])] at last
    exact solid_of_mem_portPart (List.mem_of_getLast? last)
  rw [Text.trimChars_of_solid_end solid, Text.dropBlanks, List.dropWhile_append]
  split
  · rename_i blank
    rw [Text.dropBlanks, List.isEmpty_iff.mp blank]
    exact Text.dropBlanks_of_head (by decide)
  · rfl

theorem trimChars_bracketed (host : List Char) (port : Option UInt16) :
    Text.trimChars ('[' :: (host ++ ']' :: portPart port)) = '[' :: (host ++ ']' :: portPart port) := by
  rw [Text.trimChars_eq_self_iff, ← List.cons_append, List.getLast?_append_of_ne_nil _ (by simp)]
  constructor
  · intro c first
    obtain rfl : '[' = c := by simpa using first
    decide
  · intro c last
    rcases List.mem_cons.mp (List.mem_of_getLast? last) with rfl | member
    · decide
    · exact solid_of_mem_portPart member

theorem toList_display_plain (plain : ':' ∉ a.host.toList) :
    a.display.toList = a.host.toList ++ portPart a.port := by
  rw [toList_display, hostPart, if_neg plain]

theorem toList_display_bracketed (colon : ':' ∈ a.host.toList) :
    a.display.toList = '[' :: (a.host.toList ++ ']' :: portPart a.port) := by
  rw [toList_display, hostPart, if_pos colon, List.cons_append, List.append_assoc,
    List.singleton_append]

theorem closings_display_plain (plain : ':' ∉ a.host.toList) :
    a.display.toList.count ']' = a.host.toList.count ']' := by
  have closing : ']' ∉ portPart a.port := not_mem_portPart (by decide) (by decide) a.port
  rw [toList_display_plain plain, List.count_append, List.count_eq_zero.mpr closing, Nat.add_zero]

theorem port?_toDigits (port : UInt16) : port? (Nat.toDigits 10 port.toNat) = some port := by
  have within : port.toNat ≤ 0xFFFF := Nat.le_of_lt_succ port.toNat_lt
  rw [port?, Text.natural?_toDigits within, Option.map_some]
  exact congrArg some UInt16.ofNat_toNat

/-! ## Reading back -/

theorem Divided.closed (divided : Divided text host portText) (opened : text.head? = some '[') :
    ']' ∉ host := by
  cases divided with
  | bracketed closed => exact closed
  | bracketedPort closed => exact closed
  | port unopened => exact absurd opened unopened
  | whole unopened => exact absurd opened unopened

theorem Names.closed (names : Names defaultPort text a) (opened : text.head? = some '[') :
    ']' ∉ a.host.toList := by
  obtain ⟨divided, _, _⟩ := names
  simpa using divided.closed opened

theorem Names.named (names : Names defaultPort text a) : a.host.toList ≠ [] := by
  obtain ⟨_, named, _⟩ := names
  simpa using named

/-- Only a missing default leaves an address without a port. -/
theorem Names.portless (names : Names defaultPort text a) (portless : a.port = none) :
    defaultPort = none := by
  obtain ⟨_, _, ported⟩ := names
  cases ported with
  | default => exact portless
  | written => contradiction

/-- A port is written as its digits. -/
theorem Names.of_digits (named : a.host.toList ≠ [])
    (complete : a.port = none → defaultPort = none)
    (divided : Divided text a.host.toList (a.port.map fun port => Nat.toDigits 10 port.toNat)) :
    Names defaultPort text a := by
  obtain ⟨host, port⟩ := a
  have ported : Ported defaultPort (port.map fun port => Nat.toDigits 10 port.toNat) port := by
    cases port with
    | none =>
      obtain rfl := complete rfl
      exact .default
    | some port => exact .written (port?_eq_some_iff.mp (port?_toDigits port))
  simpa using Names.intro divided named ported

theorem divided_bracketed (closed : ']' ∉ host) (port : Option UInt16) :
    Divided ('[' :: (host ++ ']' :: portPart port)) host
      (port.map fun port => Nat.toDigits 10 port.toNat) := by
  cases port with
  | none => exact .bracketed closed
  | some port => exact .bracketedPort closed

theorem divided_plain (plain : ':' ∉ host) (unopened : host.head? ≠ some '[')
    (port : Option UInt16) : Divided (host ++ portPart port) host
      (port.map fun port => Nat.toDigits 10 port.toNat) := by
  have count : host.count ':' = 0 := List.count_eq_zero.mpr plain
  have total := count_colon_portPart port
  cases port with
  | none =>
    rw [portPart, List.append_nil]
    exact .whole unopened (by omega)
  | some port =>
    have once : (host ++ portPart (some port)).count ':' = 1 := by
      rw [List.count_append, count, total]
      rfl
    refine .port ?_ once
    cases host with
    | nil => simp
    | cons c rest => exact unopened

theorem ReadsBack.of_names (plain : ':' ∉ a.host.toList)
    (names : Names defaultPort (Text.trimChars a.display.toList) a) : ReadsBack a := by
  have closings := (Text.trimChars_sublist a.display.toList).count_le ']'
  have shape := toList_display_plain plain
  rw [closings_display_plain plain] at closings
  generalize trimmed : Text.trimChars a.display.toList = text at names closings
  obtain @⟨host, portText, port, divided, named, ported⟩ := names
  simp only [String.toList_ofList] at closings shape
  rw [String.toList_ofList] at plain
  rw [shape] at trimmed
  cases divided with
  -- trimming adds no closing bracket, so the host cannot have come out of brackets
  | bracketed closed =>
    rw [List.count_cons_of_ne (by decide), List.count_append, List.count_singleton_self] at closings
    omega
  | bracketedPort closed =>
    rw [List.count_cons_of_ne (by decide), List.count_append, List.count_cons_self] at closings
    omega
  | @port _ digits unopened once =>
    cases ported with
    | @written _ port read =>
      rw [trimChars_append_portPart] at trimmed
      have front : ':' ∉ Text.dropBlanks host := fun member =>
        plain ((List.dropWhile_suffix _).subset member)
      have cut := congrArg (Text.cut ':') trimmed
      rw [portPart, Text.cut_append front, Text.cut_append plain] at cut
      obtain ⟨same, -⟩ := Prod.mk.inj (Option.some.inj cut)
      refine .plain (by simpa using plain) ?_ ?_
      · obtain ⟨c, rest, rfl⟩ := List.exists_cons_of_ne_nil named
        simpa using unopened
      · rw [shape, trimChars_append_portPart, same]
  | whole unopened other =>
    refine .plain (by simpa using plain) (by simpa using unopened) ?_
    cases port with
    | none => rw [shape, trimmed, portPart, List.append_nil]
    | some port =>
      rw [trimChars_append_portPart] at trimmed
      exact absurd (trimmed ▸ by simp [portPart]) plain

theorem ReadsBack.parse_display (readsBack : ReadsBack a) (named : a.host.toList ≠ [])
    (complete : a.port = none → defaultPort = none) : parse a.display defaultPort = .ok a := by
  rw [parse_eq_ok_iff]
  refine .of_digits named complete ?_
  cases readsBack with
  | bracketed colon closed =>
    rw [toList_display_bracketed colon, trimChars_bracketed]
    exact divided_bracketed closed a.port
  | plain plain unopened trimmed =>
    rw [trimmed, toList_display_plain plain]
    exact divided_plain plain unopened a.port

/-- A bracketed host is read back unless a bracket inside it ends it too early, any other host unless
it starts like a bracketed one or blanks at an end of the written form are lost. -/
theorem parse_display_iff {written : String} (read : parse written defaultPort = .ok a) :
    parse a.display defaultPort = .ok a ↔ ReadsBack a := by
  have original := parse_eq_ok_iff.mp read
  constructor
  · intro again
    have names := parse_eq_ok_iff.mp again
    by_cases colon : ':' ∈ a.host.toList
    · rw [toList_display_bracketed colon, trimChars_bracketed] at names
      exact .bracketed colon (names.closed rfl)
    · exact .of_names colon names
  · intro readsBack
    exact readsBack.parse_display original.named original.portless

theorem parse_display_iff_bracketed : parse "[::1]:8080" none = .ok ⟨"::1", some 8080⟩ ∧
    parse (display ⟨"::1", some 8080⟩) none = .ok ⟨"::1", some 8080⟩ := by
  have read : parse "[::1]:8080" none = .ok ⟨"::1", some 8080⟩ := by decide +kernel
  exact ⟨read, (parse_display_iff read).mpr (.bracketed (by decide) (by decide))⟩

/-- The brackets around a host that is itself an opening bracket are not written again. -/
theorem opening_bracket_lost : parse "[[]" none = .ok ⟨"[", none⟩ ∧
    parse (display ⟨"[", none⟩) none = .error (.invalidHost "[" "unclosed '['") := by
  decide +kernel

end CommandVerbs.HostAddress
