import CommandVerbs.Config.Store
import CommandVerbs.Proofs.KeyMap
import CommandVerbs.Proofs.Text.Lines

/-! Filters as dotted prefixes. A key lies under a filter if its segments begin with those of the
filter, so filters are ordered as prefixes are, and a narrower filter selects some of the pairs that a
wider one does. -/
namespace CommandVerbs.Config

variable {key filter narrow wide : String} {store : Store}

theorem keyMatches_iff_segments :
    keyMatches key filter ↔ Text.splitAt '.' filter <+: Text.splitAt '.' key := by
  rw [Text.splitAt_prefix_iff, keyMatches, Bool.or_eq_true, beq_iff_eq, List.isPrefixOf_iff_prefix]

theorem keyMatches_refl (key : String) : keyMatches key key := by
  rw [keyMatches_iff_segments]

theorem keyMatches_antisymm (h : keyMatches key filter) (h' : keyMatches filter key) : key = filter := by
  rw [keyMatches_iff_segments] at h h'
  apply Text.splitAt_injective '.'
  exact h'.eq_of_length (le_antisymm h'.length_le h.length_le)

theorem keyMatches_trans (h : keyMatches key narrow) (h' : keyMatches narrow wide) :
    keyMatches key wide := by
  rw [keyMatches_iff_segments] at *
  exact h'.trans h

theorem mem_query_iff {filter : Option String} {pair : String × String} :
    pair ∈ store.query filter ↔
      store.get? pair.1 = some pair.2 ∧ ∀ name ∈ filter, keyMatches pair.1 name := by
  obtain ⟨key, value⟩ := pair
  rw [Store.query, List.mem_filter, KeyMap.mem_toList_iff, Store.get?]
  cases filter <;> simp [selected]

theorem ascending_query (store : Store) (filter : Option String) : Ascending (store.query filter) := by
  apply List.Pairwise.filter
  exact store.pairs.ascending

theorem query_sublist (h : keyMatches narrow wide) :
    (store.query (some narrow)).Sublist (store.query (some wide)) := by
  apply List.monotone_filter_right
  intro pair inside
  simp only [selected, Option.all_some] at inside ⊢
  exact keyMatches_trans inside h

/-- A key lies under the filters whose segments its own segments begin with, and under no others. So
filters are partially ordered, a store lists the pairs whose keys lie under a filter in key order, and
those under a narrower filter are among them. -/
theorem keyMatches_dotted_prefix :
    (∀ key filter, keyMatches key filter ↔ Text.splitAt '.' filter <+: Text.splitAt '.' key) ∧
    (∀ key, keyMatches key key) ∧
    (∀ key filter, keyMatches key filter → keyMatches filter key → key = filter) ∧
    (∀ key narrow wide, keyMatches key narrow → keyMatches narrow wide → keyMatches key wide) ∧
    ∀ store : Store,
      (∀ filter pair, pair ∈ store.query filter ↔
        store.get? pair.1 = some pair.2 ∧ ∀ name ∈ filter, keyMatches pair.1 name) ∧
      (∀ filter, Ascending (store.query filter)) ∧
      ∀ narrow wide, keyMatches narrow wide →
        (store.query (some narrow)).Sublist (store.query (some wide)) := by
  refine ⟨fun _ _ => keyMatches_iff_segments, keyMatches_refl, ?_, ?_, ?_⟩
  · intro key filter h h'
    exact keyMatches_antisymm h h'
  · intro key narrow wide h h'
    exact keyMatches_trans h h'
  · intro store
    refine ⟨fun _ _ => mem_query_iff, ascending_query store, ?_⟩
    intro narrow wide h
    exact query_sublist h

theorem keyMatches_dotted_prefix_doubled :
    let store : Store := .file ⟨"app.cfg", .ofList [("a", "1"), ("a..b", "2"), ("a.b", "3"), ("ab", "4")]⟩
    keyMatches "a..b" "a" ∧ ¬keyMatches "a.b" "a." ∧ ¬keyMatches "ab" "a" ∧
      ("a..b", "2") ∈ store.query (some "a.") ∧
      (store.query (some "a.")).Sublist (store.query (some "a")) := by
  intro store
  obtain ⟨segments, -, -, trans, listed⟩ := keyMatches_dotted_prefix
  obtain ⟨exact, -, narrower⟩ := listed store
  have inner : keyMatches "a..b" "a." := (segments _ _).mpr (by decide +kernel)
  have outer : keyMatches "a." "a" := (segments _ _).mpr (by decide +kernel)
  refine ⟨trans _ _ _ inner outer, ?_, ?_, ?_, narrower _ _ outer⟩
  · rw [segments]
    decide +kernel
  · rw [segments]
    decide +kernel
  · rw [exact]
    exact ⟨by decide +kernel, by simpa using inner⟩

end CommandVerbs.Config
