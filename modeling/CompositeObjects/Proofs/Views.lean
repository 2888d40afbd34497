import CompositeObjects.Content
import CompositeObjects.Proofs.Table

namespace CompositeObjects

/-- Of several entries with the same key the last one is found. -/
theorem Table.get?_overlay_eq_find? {α : Type u} (t : Table α) (top : List (String × α))
    (key : String) :
    (t.overlay top).get? key = ((top.reverse.find? (·.1 == key)).map (·.2)).or (t.get? key) := by
  induction top generalizing t with
  | nil => rfl
  | cons e rest ih =>
    have step := ih (t.insert e.1 e.2)
    rw [get?_insert] at step
    rw [List.reverse_cons, List.find?_append]
    change ((t.insert e.1 e.2).overlay rest).get? key = _
    rw [step]
    cases rest.reverse.find? (·.1 == key) with
    | some last => rfl
    | none =>
      by_cases hk : e.1 = key
      · simp [hk]
      · simp [hk, Ne.symm hk]

namespace Property

variable (properties : List Property) (content : Content)

theorem sorted_views : (views properties content).Sorted := Table.sorted_ofList _

/-- A view is the last declaration of the name, with the stored value or else the default. -/
theorem get?_views (name : String) :
    (views properties content).get? name = (properties.reverse.find? (·.name == name)).map
      fun p => { p with value := (content.get? name).getD p.value } := by
  rw [views, Table.ofList, Table.get?_overlay_eq_find?, Table.get?_nil, Option.or_none,
    ← List.map_reverse, List.find?_map, Option.map_map]
  cases found : properties.reverse.find? (·.name == name) with
  | none =>
    have absent : List.find? ((fun e => e.1 == name) ∘ fun p : Property =>
        (p.name, { p with value := (content.get? p.name).getD p.value })) properties.reverse =
          none := found
    rw [absent]
    rfl
  | some p =>
    have present : List.find? ((fun e => e.1 == name) ∘ fun p : Property =>
        (p.name, { p with value := (content.get? p.name).getD p.value })) properties.reverse =
          some p := found
    have hname : p.name = name := by simpa using List.find?_some found
    rw [present]
    simp [hname]

theorem exists_property_of_mem_views {e : String × Property} (h : e ∈ views properties content) :
    ∃ p ∈ properties, p.name = e.1 := by
  have found := Table.get?_of_mem (Table.nodup_of_sorted (sorted_views properties content)) h
  rw [get?_views] at found
  obtain ⟨p, hp, -⟩ := Option.map_eq_some_iff.1 found
  exact ⟨p, List.mem_reverse.1 (List.mem_of_find?_eq_some hp), by simpa using List.find?_some hp⟩

end Property

namespace Content

/-- Stores values under names, one after the other. -/
def setAll (c : Content) (changes : List (String × String)) : Content :=
  changes.foldl (fun c e => c.set e.1 e.2) c

variable (c : Content) {changes : List (String × String)}

theorem values_setAll : (c.setAll changes).values = c.values.overlay changes := by
  induction changes generalizing c with
  | nil => rfl
  | cons e rest ih => exact ih (c.set e.1 e.2)

theorem get?_setAll (nodup : (changes.map (·.1)).Nodup) (name : String) :
    (c.setAll changes).get? name = (Table.get? name changes).or (c.get? name) := by
  rw [Content.get?, values_setAll, Table.get?_overlay_of_nodup _ nodup]
  rfl

theorem get?_kept_setAll (name : String) :
    (c.setAll changes).kept.get? name =
      if name ∈ changes.map (·.1) then none else c.kept.get? name := by
  induction changes generalizing c with
  | nil => rfl
  | cons e rest ih =>
    have step := ih (c.set e.1 e.2)
    change ((c.set e.1 e.2).setAll rest).kept.get? name = _
    have among : name ∈ (e :: rest).map (·.1) ↔ name = e.1 ∨ name ∈ rest.map (·.1) := List.mem_cons
    rw [step, Content.set, Table.get?_erase]
    by_cases hname : name = e.1
    · simp [hname]
    · simp only [among, hname, false_or, if_false]

/-- What is stored under a name, as it would be saved. -/
def stored? (name : String) : Option Json :=
  (c.kept.get? name).or ((c.values.get? name).map .string)

theorem stored?_setAll (nodup : (changes.map (·.1)).Nodup) (name : String) :
    (c.setAll changes).stored? name =
      ((Table.get? name changes).map Json.string).or (c.stored? name) := by
  rw [stored?, get?_kept_setAll, values_setAll, Table.get?_overlay_of_nodup _ nodup]
  cases found : Table.get? name changes with
  | none =>
    rw [if_neg (Table.get?_eq_none_iff.1 found)]
    rfl
  | some value =>
    have among : name ∈ changes.map (·.1) :=
      List.mem_map.2 ⟨(name, value), Table.mem_of_get? found, rfl⟩
    rw [if_pos among]
    rfl

end Content
end CompositeObjects
