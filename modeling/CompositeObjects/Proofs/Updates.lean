import CompositeObjects.Proofs.ContentEdits
import CompositeObjects.Proofs.Views

namespace CompositeObjects

namespace Table

variable {α : Type u} {β : Type v}

/-- Only the entry under the key is touched. -/
theorem erase_insert (key : String) (value : α) (t : Table α) :
    (t.insert key value).erase key = t.erase key := by
  induction t with
  | nil => simp [insert, erase]
  | cons e rest ih =>
    obtain ⟨k, v⟩ := e
    by_cases hk : k = key
    · simp [insert, erase, hk]
    · by_cases hlt : key < k
      · simp [insert, erase, hk, hlt]
      · simpa [insert, erase, hk, hlt] using ih

theorem erase_erase (key : String) (t : Table α) : (t.erase key).erase key = t.erase key := by
  simp [erase, List.filter_filter]

theorem erase_append (key : String) (s t : Table α) :
    erase key (s ++ t) = s.erase key ++ t.erase key := List.filter_append ..

theorem erase_mapValues (f : α → β) (key : String) (t : Table α) :
    (t.mapValues f).erase key = (t.erase key).mapValues f := by
  simp [erase, mapValues, List.filter_map, Function.comp_def]

theorem mem_keys_iff {key : String} {t : Table α} :
    key ∈ t.keys ↔ ∃ value, t.get? key = some value := by
  rw [← Option.isSome_iff_exists, Option.isSome_iff_ne_none, Ne, get?_eq_none_iff,
    Decidable.not_not]
  rfl

end Table

namespace Content

variable (c : Content)

theorem set_set (name value value' : String) :
    (c.set name value).set name value' = c.set name value' := by
  simp [set, Table.insert_insert, Table.erase_erase]

theorem set_comm {c : Content} (sorted : c.values.Sorted) {name other : String} (hne : name ≠ other)
    (value value' : String) :
    (c.set name value).set other value' = (c.set other value').set name value := by
  simp [set, Table.insert_comm hne value value' sorted, Table.erase_comm name other]

/-- What is written of the other keys is the same, in the same order. -/
theorem erase_listed_set (name value : String) :
    (c.set name value).listed.erase name = c.listed.erase name := by
  simp [listed, set, Table.erase_append, Table.erase_mapValues, Table.erase_insert,
    Table.erase_erase]

end Content

namespace Property

variable (properties : List Property) (content : Content)

/-- The content after an update, which leaves it as it was where it is refused. -/
def afterUpdate (name value : String) : Content :=
  (update? properties content name value).getD content

variable {properties content} {name value : String}

theorem update?_eq_some_iff {after : Content} :
    update? properties content name value = some after ↔
      (∃ p ∈ properties, p.name = name) ∧ after = content.set name value := by
  have declared : (properties.any (·.name == name)) = true ↔ ∃ p ∈ properties, p.name = name := by
    simp
  rw [update?, ← declared]
  split
  · rename_i any
    simp [any, eq_comm]
  · rename_i none
    simp [none]

theorem update?_eq_none_iff :
    update? properties content name value = none ↔ ¬ ∃ p ∈ properties, p.name = name := by
  simp [update?]

theorem afterUpdate_of_declared (declared : ∃ p ∈ properties, p.name = name) (content : Content)
    (value : String) : afterUpdate properties content name value = content.set name value := by
  have done : update? properties content name value = some (content.set name value) :=
    update?_eq_some_iff.2 ⟨declared, rfl⟩
  rw [afterUpdate, done, Option.getD_some]

theorem afterUpdate_of_undeclared (undeclared : ¬ ∃ p ∈ properties, p.name = name)
    (content : Content) (value : String) : afterUpdate properties content name value = content := by
  rw [afterUpdate, update?_eq_none_iff.2 undeclared, Option.getD_none]

/-- Updates of one name: the later one counts. -/
theorem afterUpdate_afterUpdate (value' : String) :
    afterUpdate properties (afterUpdate properties content name value) name value' =
      afterUpdate properties content name value' := by
  by_cases declared : ∃ p ∈ properties, p.name = name
  · simp only [afterUpdate_of_declared declared, Content.set_set]
  · simp only [afterUpdate_of_undeclared declared]

/-- Updates of two names: the order does not count. -/
theorem afterUpdate_comm (sorted : content.values.Sorted) {other : String} (hne : name ≠ other)
    (value' : String) :
    afterUpdate properties (afterUpdate properties content name value) other value' =
      afterUpdate properties (afterUpdate properties content other value') name value := by
  by_cases declared : ∃ p ∈ properties, p.name = name
  · by_cases declared' : ∃ p ∈ properties, p.name = other
    · simp only [afterUpdate_of_declared declared, afterUpdate_of_declared declared',
        Content.set_comm sorted hne]
    · simp only [afterUpdate_of_undeclared declared']
  · simp only [afterUpdate_of_undeclared declared]

theorem exists_view_iff (properties : List Property) (content : Content) (name : String) :
    (∃ view, (views properties content).get? name = some view) ↔
      ∃ p ∈ properties, p.name = name := by
  rw [← Option.isSome_iff_exists, get?_views, Option.isSome_map, List.find?_isSome]
  simp

theorem get?_views_set_self (properties : List Property) (content : Content)
    (name value : String) :
    (views properties (content.set name value)).get? name =
      ((views properties content).get? name).map fun view => { view with value } := by
  rw [get?_views, get?_views, Content.get?_set_self, Option.map_map]
  rfl

theorem get?_views_set_of_ne {other : String} (hne : other ≠ name) (properties : List Property)
    (content : Content) (value : String) :
    (views properties (content.set name value)).get? other =
      (views properties content).get? other := by
  rw [get?_views, get?_views, Content.get?_set_of_ne hne]

/-- What an update that is done changes: one view in its value, and one key of what is saved. -/
structure Updated (properties : List Property) (content : Content) (name value : String)
    (after : Content) : Prop where
  view : ∃ view, (views properties content).get? name = some view ∧
    (views properties after).get? name = some { view with value }
  other_views : ∀ other, other ≠ name →
    (views properties after).get? other = (views properties content).get? other
  entry : after.entries.get? name = some (.string value)
  saved : after.toJson = .object after.entries ∧
    after.entries.erase name = content.entries.erase name
  /-- In the text the other keys keep their order too. -/
  written : after.written = (Json.object after.listed).compact ∧
    after.listed.get? name = some (.string value) ∧
    after.listed.erase name = content.listed.erase name

theorem updated_set (wellFormed : content.WellFormed)
    (declared : ∃ p ∈ properties, p.name = name) (value : String) :
    Updated properties content name value (content.set name value) := by
  obtain ⟨view, seen⟩ := (exists_view_iff properties content name).2 declared
  have after : (content.set name value).entries = content.entries.insert name (.string value) :=
    wellFormed.entries_set name value
  have entry : (content.set name value).entries.get? name = some (.string value) := by
    rw [after, Table.get?_insert_self]
  constructor
  · refine ⟨view, seen, ?_⟩
    rw [get?_views_set_self, seen, Option.map_some]
  · intro other hne
    exact get?_views_set_of_ne hne properties content value
  · exact entry
  · refine ⟨Content.toJson_eq _, ?_⟩
    rw [after, Table.erase_insert]
  · refine ⟨Content.written_eq _, ?_, Content.erase_listed_set content name value⟩
    have nodup := (wellFormed.set name value).nodup_listed
    rw [← Table.get?_ofList_of_nodup nodup,
      Content.ofList_listed _ (wellFormed.set name value).values_sorted, entry]

/-- The laws of views and updates, for any declarations: names may come twice, types may be unknown,
and the content may hold entries that are no values and keys that are not declared. -/
theorem views_of_updates (properties : List Property) {content : Content}
    (wellFormed : content.WellFormed) :
    (∀ name, name ∈ (views properties content).keys ↔ ∃ p ∈ properties, p.name = name) ∧
    (∀ name value,
      ((update? properties content name value).isSome ↔ ∃ p ∈ properties, p.name = name) ∧
      (update? properties content name value = none →
        afterUpdate properties content name value = content) ∧
      ∀ after, update? properties content name value = some after →
        afterUpdate properties content name value = after ∧ after.WellFormed ∧
        Updated properties content name value after) ∧
    (∀ name value value',
      afterUpdate properties (afterUpdate properties content name value) name value' =
        afterUpdate properties content name value') ∧
    ∀ name other value value', name ≠ other →
      afterUpdate properties (afterUpdate properties content name value) other value' =
        afterUpdate properties (afterUpdate properties content other value') name value := by
  refine ⟨?_, ?_, ?_, ?_⟩
  · intro name
    rw [Table.mem_keys_iff, exists_view_iff]
  · intro name value
    refine ⟨?_, ?_, ?_⟩
    · rw [Option.isSome_iff_ne_none, Ne, update?_eq_none_iff, Classical.not_not]
    · intro refused
      rw [afterUpdate, refused, Option.getD_none]
    · intro after done
      obtain ⟨declared, rfl⟩ := update?_eq_some_iff.1 done
      have set := wellFormed.set name value
      exact ⟨afterUpdate_of_declared declared content value, set,
        updated_set wellFormed declared value⟩
  · intro name value value'
    exact afterUpdate_afterUpdate value'
  · intro name other value value' hne
    exact afterUpdate_comm wellFormed.values_sorted hne value'

/-- The speed is declared twice, and the type of the label is not known. -/
def heroProperties : List Property := [
  { name := "speed", type := .number, value := "100" },
  { name := "label", type := .other "Behavior", value := "hero" },
  { name := "speed", type := .text, value := "fast", hidden := true }]

/-- The label is stored as `null`, and the tags are not declared. -/
theorem views_of_updates_hero :
    (Content.ofEntries Content.heroEntries).WellFormed ∧
      (views heroProperties (Content.ofEntries Content.heroEntries)).keys = ["label", "speed"] ∧
      update? heroProperties (Content.ofEntries Content.heroEntries) "tags" "x" = none ∧
      ∃ after, update? heroProperties (Content.ofEntries Content.heroEntries) "label" "knight" =
          some after ∧
        Updated heroProperties (Content.ofEntries Content.heroEntries) "label" "knight" after ∧
        afterUpdate heroProperties after "speed" "7" = afterUpdate heroProperties
          (afterUpdate heroProperties (Content.ofEntries Content.heroEntries) "speed" "7")
          "label" "knight" := by
  have wellFormed : (Content.ofEntries Content.heroEntries).WellFormed :=
    Content.wellFormed_ofEntries (by decide)
  obtain ⟨-, updates, -, commute⟩ := views_of_updates heroProperties wellFormed
  obtain ⟨-, -, done⟩ := updates "label" "knight"
  have declared : update? heroProperties (Content.ofEntries Content.heroEntries) "label" "knight" =
      some ((Content.ofEntries Content.heroEntries).set "label" "knight") := by decide
  obtain ⟨same, -, updated⟩ := done _ declared
  refine ⟨wellFormed, by decide, by decide, _, declared, updated, ?_⟩
  have swapped := commute "label" "speed" "knight" "7" (by decide)
  rwa [same] at swapped

end Property
end CompositeObjects
