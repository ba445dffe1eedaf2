import CommandVerbs.Proofs.Verb.MatchedValues

/-! What is seen of an option that is not given. Its default stands, a host text as the addresses that
it lists. A default that is a list of addresses already is the exception: it is not looked at. -/
namespace CommandVerbs

/-- The defaults of the type that options of a kind produce. -/
inductive OptionKind.Fits : OptionKind → Value → Prop
  | text (s : String) : Fits .text (.text s)
  | flag (b : Bool) : Fits .flag (.flag b)
  | integer (n : Int) : Fits .integer (.integer n)
  | hostText (min max : Nat) (defaultPort : Option UInt16) (s : String) :
      Fits (.hosts min max defaultPort) (.text s)
  | hostList (min max : Nat) (defaultPort : Option UInt16) (addresses : List HostAddress) :
      Fits (.hosts min max defaultPort) (.hosts addresses)

/-- What a default of an option says: a host text the addresses that it lists, any other value itself. -/
def OptionSpec.meaning (o : OptionSpec) (default : Value) : Except OptionFault Value :=
  match o.kind, default with
  | .hosts min max defaultPort, .text s =>
    (HostAddress.parseList o.dest s min max defaultPort).map .hosts
  | _, value => .ok value

namespace Matches

variable {m : Matches} {o : OptionSpec} {default : Value}

theorem contains_eq_false {id : String} :
    m.contains id = false ↔
      id ∉ m.raised ∧ m.integers.get? id = none ∧ m.texts.get? id = none := by
  simp [contains, KeyMap.contains, and_assoc]

theorem text?_absent {id : String} (absent : m.contains id = false) : m.text? id = none := by
  rw [text?, (contains_eq_false.mp absent).2.2, Option.bind_none]

theorem valueOf?_absent (absent : m.contains o.dest = false) (declared : o.default = some default)
    (fits : o.kind.Fits default) (other : ∀ addresses, default ≠ .hosts addresses) :
    m.valueOf? o = (o.meaning default).map some := by
  obtain ⟨lowered, unset, -⟩ := contains_eq_false.mp absent
  have silent := text?_absent absent
  generalize kind : o.kind = k at fits
  cases fits with
  | text s => simp [valueOf?, OptionSpec.meaning, kind, silent, declared, Except.map]
  | flag b =>
    have raised : (m.raised.contains o.dest || o.default == some (.flag true)) = b := by
      rw [declared]
      cases b <;> simp [lowered]
    simp only [valueOf?, OptionSpec.meaning, kind, raised, Except.map]
  | integer n => simp [valueOf?, OptionSpec.meaning, kind, unset, declared, Except.map]
  | hostText min max port s =>
    simp only [valueOf?, OptionSpec.meaning, kind, silent, defaultText?, declared, Option.none_or]
    cases HostAddress.parseList o.dest s min max port <;> rfl
  | hostList min max port addresses => exact absurd rfl (other addresses)

theorem valueOf?_absent_listed {addresses : List HostAddress} (absent : m.contains o.dest = false)
    (declared : o.default = some (.hosts addresses)) (fits : o.kind.Fits (.hosts addresses)) :
    m.valueOf? o = .ok none := by
  have silent := text?_absent absent
  generalize kind : o.kind = k at fits
  cases fits with
  | hostList => simp only [valueOf?, kind, silent, defaultText?, declared, Option.none_or]

end Matches

namespace Verb

variable {v : Verb} {m : Matches} {o : OptionSpec} {default : Value} {seen : Invocation}

/-- An invocation of a verb with distinct names sees the default of each option that is not given, a
host text as the addresses that it lists. Only a default that is a list of addresses is not seen. -/
theorem default_stands (distinct : (v.options.map (·.dest) ++ v.arguments.map (·.name)).Nodup)
    (member : o ∈ v.options) (declared : o.default = some default) (fits : o.kind.Fits default)
    (absent : m.contains o.dest = false) (read : (v.invocation m).2 = .ok seen) :
    ((∀ addresses, default ≠ .hosts addresses) →
      ∃ value, o.meaning default = .ok value ∧ seen.values.get? o.dest = some value) ∧
    ∀ addresses, default = .hosts addresses → seen.values.get? o.dest = none := by
  have sees := valueOf?_of_invocation distinct member read
  constructor
  · intro other
    rw [Matches.valueOf?_absent absent declared fits other] at sees
    cases meant : o.meaning default with
    | error refusal => simp [meant, Except.map] at sees
    | ok value => exact ⟨value, rfl, (Except.ok.inj (meant ▸ sees)).symm⟩
  · rintro addresses rfl
    rw [Matches.valueOf?_absent_listed absent declared fits] at sees
    exact (Except.ok.inj sees).symm

/-- A verb with defaults for all of its options. -/
def waiting : Verb where
  name := "wait"
  options :=
    [{ short := some 'c', long := none, dest := "count", help := none, kind := .integer,
        default := some (.integer 3) },
      { short := some 'H', long := none, dest := "host", help := none, kind := .hosts 1 1 none,
        default := some (.hosts [⟨"db1", some 21211⟩]) },
      { short := some 's', long := none, dest := "servers", help := none, kind := .hosts 1 2 (some 80),
        default := some (.text "a, b:81") }]

theorem default_stands_waiting :
    ∃ seen, (waiting.invocation {}).2 = .ok seen ∧ seen.values.get? "count" = some (.integer 3) ∧
      seen.values.get? "servers" = some (.hosts [⟨"a", some 80⟩, ⟨"b", some 81⟩]) ∧
      seen.values.get? "host" = none := by
  have distinct : (waiting.options.map (·.dest) ++ waiting.arguments.map (·.name)).Nodup := by decide
  have listed : (waiting.options[2]).meaning (.text "a, b:81") =
      .ok (.hosts [⟨"a", some 80⟩, ⟨"b", some 81⟩]) := by decide +kernel
  obtain ⟨seen, read⟩ := exists_invocation.mpr
    ⟨show ∀ o ∈ waiting.options, (Matches.valueOf? {} o).isOk by decide +kernel, fun _ => rfl⟩
  obtain ⟨count, meant, counted⟩ := (default_stands (o := waiting.options[0]) distinct
    (List.getElem_mem _) rfl (.integer 3) rfl read).1 (by simp)
  obtain ⟨servers, known, served⟩ := (default_stands (o := waiting.options[2]) distinct
    (List.getElem_mem _) rfl (.hostText 1 2 (some 80) "a, b:81") rfl read).1 (by simp)
  have unseen := (default_stands (o := waiting.options[1]) distinct (List.getElem_mem _) rfl
    (.hostList 1 1 none _) rfl read).2 _ rfl
  obtain rfl : .integer 3 = count := Except.ok.inj meant
  obtain rfl := Except.ok.inj (listed.symm.trans known)
  exact ⟨seen, read, counted, served, unseen⟩

/-- A valid verb with distinct names whose option has a list of addresses by default. Nothing is given,
and an invocation that succeeds sees nothing. -/
theorem listed_default_dropped :
    let o : OptionSpec :=
      { short := some 'H', long := some "host", dest := "host", help := some "", kind := .hosts 1 1 none,
        default := some (.hosts [⟨"db1", some 21211⟩]) }
    let v : Verb := { name := "pause", options := [o] }
    v.validate.2 = .ok () ∧ (v.options.map (·.dest) ++ v.arguments.map (·.name)).Nodup ∧
      o.kind.Fits (.hosts [⟨"db1", some 21211⟩]) ∧
      (v.invocation {}).2.toOption.map (·.values.toList) = some [] := by
  refine ⟨rfl, by decide, .hostList 1 1 none _, ?_⟩
  decide +kernel

end Verb

end CommandVerbs
