import CompositeObjects.Content
import CompositeObjects.Proofs.Table

namespace CompositeObjects.Content

/-- No key holds both a value and a kept entry, and no kept entry is a scalar. -/
structure WellFormed (c : Content) : Prop where
  values_sorted : c.values.Sorted
  kept_sorted : c.kept.Sorted
  apart : ∀ name, c.values.get? name = none ∨ c.kept.get? name = none
  kept_scalar : ∀ name value, c.kept.get? name = some value → scalarText? value = none

/-- The entries of the saved object. -/
def entries (c : Content) : Table Json := (c.values.mapValues .string).overlay c.kept

theorem toJson_eq (c : Content) : c.toJson = .object c.entries := rfl

theorem wellFormed_empty : empty.WellFormed :=
  ⟨Table.sorted_nil, Table.sorted_nil, fun _ => Or.inl rfl, fun _ _ h => by cases h⟩

theorem WellFormed.sorted_entries {c : Content} (h : c.WellFormed) : c.entries.Sorted :=
  Table.sorted_overlay (Table.sorted_mapValues _ h.values_sorted) _

theorem WellFormed.get?_entries {c : Content} (h : c.WellFormed) (name : String) :
    c.entries.get? name = (c.kept.get? name).or ((c.values.get? name).map .string) := by
  rw [entries, Table.get?_overlay _ h.kept_sorted, Table.get?_mapValues]

theorem get?_values_ofEntries {entries : Table Json} (sorted : entries.Sorted) (name : String) :
    (ofEntries entries).values.get? name = (entries.get? name).bind scalarText? :=
  Table.get?_filterMap sorted scalarText? name

theorem get?_kept_ofEntries {entries : Table Json} (sorted : entries.Sorted) (name : String) :
    (ofEntries entries).kept.get? name =
      (entries.get? name).filter fun value => (scalarText? value).isNone :=
  Table.get?_filter sorted (fun value => (scalarText? value).isNone) name

theorem wellFormed_ofEntries {entries : Table Json} (sorted : entries.Sorted) :
    (ofEntries entries).WellFormed := by
  refine ⟨Table.sorted_filterMap sorted _, Table.sorted_filter sorted _, fun name => ?_,
    fun name value => ?_⟩
  · rw [get?_values_ofEntries sorted, get?_kept_ofEntries sorted]
    cases entries.get? name with
    | none => exact Or.inl rfl
    | some value => cases hs : scalarText? value <;> simp [hs]
  · rw [get?_kept_ofEntries sorted, Option.filter_eq_some_iff]
    intro h
    simpa using h.2

/-- Entries that were written are read as the content they were written from. -/
theorem WellFormed.ofEntries_entries {c : Content} (h : c.WellFormed) :
    ofEntries c.entries = c := by
  have sorted := h.sorted_entries
  have again := wellFormed_ofEntries sorted
  have values : (ofEntries c.entries).values = c.values := by
    refine Table.eq_of_get?_eq again.values_sorted h.values_sorted fun name => ?_
    rw [get?_values_ofEntries sorted, h.get?_entries]
    cases hk : c.kept.get? name with
    | none => cases c.values.get? name <;> rfl
    | some value =>
      have absent := (h.apart name).resolve_right (by simp [hk])
      simp [h.kept_scalar name value hk, absent]
  have kept : (ofEntries c.entries).kept = c.kept := by
    refine Table.eq_of_get?_eq again.kept_sorted h.kept_sorted fun name => ?_
    rw [get?_kept_ofEntries sorted, h.get?_entries]
    cases hk : c.kept.get? name with
    | none => cases c.values.get? name <;> simp [scalarText?]
    | some value => simp [Option.filter, h.kept_scalar name value hk]
  exact congr (congrArg Content.mk values) kept

theorem WellFormed.set {c : Content} (h : c.WellFormed) (name value : String) :
    (c.set name value).WellFormed := by
  refine ⟨Table.sorted_insert _ _ h.values_sorted, Table.sorted_erase _ h.kept_sorted,
    fun other => ?_, fun other kept => ?_⟩
  · simp only [Content.set, Table.get?_insert, Table.get?_erase]
    split
    · exact Or.inr rfl
    · exact h.apart other
  · simp only [Content.set, Table.get?_erase]
    split
    · intro found
      cases found
    · exact h.kept_scalar other kept

end CompositeObjects.Content
