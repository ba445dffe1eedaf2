import CommandVerbs.Proofs.Host.ReadingBack

/-! Lists of addresses are read back from their written forms. Brackets keep the colons of a host
apart from the one before its port, so a host may hold any number of colons. -/
namespace CommandVerbs.HostAddress

/-- A host that can stand in a list: the commas and brackets around it are not its own. -/
structure Listable (host : String) : Prop where
  named : host ≠ ""
  trimmed : Text.trim host = host
  undivided : ',' ∉ host.toList
  unopened : '[' ∉ host.toList
  unclosed : ']' ∉ host.toList

/-- The pieces between commas spell out addresses: there are blanks around each written address,
and pieces of blanks only among them. -/
inductive Spelled : List HostAddress → List (List Char) → Prop
  | nil : Spelled [] []
  | blank {piece : List Char} {addresses : List HostAddress} {pieces : List (List Char)} :
      (∀ c ∈ piece, Text.isBlank c) → Spelled addresses pieces → Spelled addresses (piece :: pieces)
  | address (before after : List Char) {a : HostAddress} {addresses : List HostAddress}
      {pieces : List (List Char)} :
      (∀ c ∈ before, Text.isBlank c) → (∀ c ∈ after, Text.isBlank c) → Spelled addresses pieces →
      Spelled (a :: addresses) ((before ++ a.display.toList ++ after) :: pieces)

variable {a : HostAddress} {addresses : List HostAddress} {pieces : List (List Char)}
  {defaultPort : Option UInt16} {min max : Nat}

theorem Listable.toList_ne_nil (listable : Listable a.host) : a.host.toList ≠ [] :=
  fun empty => listable.named (String.toList_eq_nil_iff.mp empty)

/-- There is no blank at either end of a written address. -/
theorem trimChars_display (listable : Listable a.host) :
    Text.trimChars a.display.toList = a.display.toList := by
  by_cases colon : ':' ∈ a.host.toList
  · rw [toList_display_bracketed colon, trimChars_bracketed]
  have trimmed : Text.trimChars a.host.toList = a.host.toList := by
    simpa [Text.trim, ← String.toList_inj] using listable.trimmed
  rw [toList_display_plain colon]
  cases a.port with
  | none => rw [portPart, List.append_nil, trimmed]
  | some port =>
    obtain ⟨c, rest, shape⟩ := List.exists_cons_of_ne_nil listable.toList_ne_nil
    rw [shape] at trimmed ⊢
    rw [trimChars_append_portPart, Text.dropBlanks_of_head (Text.head_trimChars trimmed)]

theorem Listable.readsBack (listable : Listable a.host) : ReadsBack a := by
  by_cases colon : ':' ∈ a.host.toList
  · exact .bracketed colon listable.unclosed
  · refine .plain colon (fun opened => ?_) (trimChars_display listable)
    exact listable.unopened (List.mem_of_head? opened)

theorem parse_display (listable : Listable a.host) (complete : a.port = none → defaultPort = none) :
    parse a.display defaultPort = .ok a :=
  listable.readsBack.parse_display listable.toList_ne_nil complete

theorem undivided_display (listable : Listable a.host) : ',' ∉ a.display.toList := by
  have host : ',' ∉ hostPart a.host.toList := by
    unfold hostPart
    split <;> simp [listable.undivided]
  rw [toList_display, List.mem_append, not_or]
  exact ⟨host, not_mem_portPart (by decide) (by decide) a.port⟩

theorem display_ne_empty (listable : Listable a.host) : a.display ≠ "" := by
  intro empty
  have blank := (toList_display a).symm.trans (congrArg String.toList empty)
  have host : hostPart a.host.toList = [] := (List.append_eq_nil_iff.mp blank).1
  unfold hostPart at host
  split at host
  · contradiction
  · exact listable.toList_ne_nil host

theorem Spelled.undivided (spelled : Spelled addresses pieces)
    (listable : ∀ a ∈ addresses, Listable a.host) : ∀ piece ∈ pieces, ',' ∉ piece := by
  have solid : ∀ {blanks : List Char}, (∀ c ∈ blanks, Text.isBlank c) → ',' ∉ blanks :=
    fun blank member => absurd (blank _ member) (by decide)
  induction spelled with
  | nil => simp
  | blank blank _ ih => exact List.forall_mem_cons.mpr ⟨solid blank, ih listable⟩
  | address _ _ front back _ ih =>
    obtain ⟨first, listable⟩ := List.forall_mem_cons.mp listable
    refine List.forall_mem_cons.mpr ⟨?_, ih listable⟩
    simp [solid front, solid back, undivided_display first]

/-- What is left of the pieces are the written addresses. -/
theorem Spelled.filter_trim (spelled : Spelled addresses pieces)
    (listable : ∀ a ∈ addresses, Listable a.host) :
    ((pieces.map String.ofList).map Text.trim).filter (· != "") = addresses.map display := by
  induction spelled with
  | nil => rfl
  | @blank piece _ _ blank _ ih =>
    have gone : Text.trim (String.ofList piece) = "" := by
      rw [Text.trim, String.toList_ofList, Text.trimChars_blanks blank]
    simpa [gone] using ih listable
  | @address before after a _ _ front back _ ih =>
    obtain ⟨first, listable⟩ := List.forall_mem_cons.mp listable
    have kept : Text.trim (String.ofList (before ++ a.display.toList ++ after)) = a.display := by
      rw [Text.trim, String.toList_ofList, Text.trimChars_append_blanks _ back,
        Text.trimChars_blanks_append front, trimChars_display first, String.ofList_toList]
    rw [List.map_cons, List.map_cons, kept, List.filter_cons_of_pos (by simp [display_ne_empty first]),
      ih listable, List.map_cons]

theorem listed_join (spelled : Spelled addresses pieces)
    (listable : ∀ a ∈ addresses, Listable a.host) :
    listed (String.ofList ([','].intercalate pieces)) = addresses.map display := by
  rw [listed, Text.splitAt, String.toList_ofList, Text.segments_eq_splitOn]
  by_cases empty : pieces = []
  · subst empty
    cases spelled
    rfl
  · rw [List.splitOn_intercalate ',' (spelled.undivided listable) empty]
    exact spelled.filter_trim listable

theorem mapM_parse (listable : ∀ a ∈ addresses, Listable a.host)
    (complete : ∀ a ∈ addresses, a.port = none → defaultPort = none) :
    (addresses.map display).mapM (parse · defaultPort) = .ok addresses := by
  induction addresses with
  | nil => rfl
  | cons a rest ih =>
    obtain ⟨first, listable⟩ := List.forall_mem_cons.mp listable
    obtain ⟨whole, complete⟩ := List.forall_mem_cons.mp complete
    rw [List.map_cons, List.mapM_cons, parse_display first whole, ih listable complete]
    rfl

/-- Addresses that are written with commas between them, with any blanks around the commas and any
blank pieces, are read back in their order. An address without a port stays without one if there is
no default port. -/
theorem parseList_spelled (listable : ∀ a ∈ addresses, Listable a.host)
    (complete : ∀ a ∈ addresses, a.port = none → defaultPort = none)
    (spelled : Spelled addresses pieces) (dest : String) (enough : min ≤ addresses.length)
    (few : addresses.length ≤ max) :
    parseList dest (String.ofList ([','].intercalate pieces)) min max defaultPort =
      .ok addresses := by
  have fits : ¬(addresses.length < min ∨ max < addresses.length) := by omega
  have read := mapM_parse listable complete
  rw [parseList, listed_join spelled listable, read]
  simp only [bind, Except.bind, if_neg fits]
  rfl

theorem parseList_spelled_mixed :
    parseList "hosts" " db1:21211 ,,\t[::1]:8080, ,[fe80::1] ,a b" 1 4 none =
      .ok [⟨"db1", some 21211⟩, ⟨"::1", some 8080⟩, ⟨"fe80::1", none⟩, ⟨"a b", none⟩] := by
  have listable : ∀ a ∈ [(⟨"db1", some 21211⟩ : HostAddress), ⟨"::1", some 8080⟩, ⟨"fe80::1", none⟩,
      ⟨"a b", none⟩], Listable a.host := by
    simp only [List.forall_mem_cons]
    refine ⟨?_, ?_, ?_, ?_, by simp⟩ <;> constructor <;> decide +kernel
  have spelled : Spelled [⟨"db1", some 21211⟩, ⟨"::1", some 8080⟩, ⟨"fe80::1", none⟩, ⟨"a b", none⟩]
      [" db1:21211 ".toList, "".toList, "\t[::1]:8080".toList, " ".toList, "[fe80::1] ".toList,
        "a b".toList] := by
    have none : ∀ c ∈ ([] : List Char), Text.isBlank c := by simp
    have space : ∀ c ∈ [' '], Text.isBlank c := List.forall_mem_singleton.mpr (by decide)
    have tab : ∀ c ∈ ['\t'], Text.isBlank c := List.forall_mem_singleton.mpr (by decide)
    refine .address [' '] [' '] space space ?_
    refine .blank none ?_
    refine .address ['\t'] [] tab none ?_
    refine .blank space ?_
    refine .address [] [' '] none space ?_
    exact .address [] [] none none .nil
  exact parseList_spelled listable (fun _ _ _ => rfl) spelled "hosts" (by decide) (by decide)

end CommandVerbs.HostAddress
