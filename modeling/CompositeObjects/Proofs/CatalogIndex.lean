import CompositeObjects.Catalog
import CompositeObjects.Proofs.Table
import Mathlib.Data.List.Nodup
import Mathlib.Logic.Relation

namespace CompositeObjects.Catalog

/-- Each name is indexed under the one position where a type of that name is declared. -/
def Indexed (c : Catalog) : Prop :=
  ∀ name position, c.index.get? name = some position ↔ c.names[position]? = some name

theorem names_getElem? (c : Catalog) (position : Nat) :
    c.names[position]? = c.entries[position]?.map Entry.name := List.getElem?_map

theorem indexed_empty : empty.Indexed := by
  intro name position
  simp [empty, names]

theorem Indexed.position_unique {c : Catalog} (h : c.Indexed) {name : String} {p q : Nat}
    (hp : c.names[p]? = some name) (hq : c.names[q]? = some name) : p = q :=
  Option.some.inj (((h name p).2 hp).symm.trans ((h name q).2 hq))

theorem Indexed.nodup {c : Catalog} (h : c.Indexed) : c.names.Nodup := by
  rw [List.nodup_iff_injective_getElem]
  intro p q hpq
  apply Fin.ext
  have hp : c.names[p.1]? = some c.names[p] := List.getElem?_eq_getElem p.2
  have hq : c.names[q.1]? = some c.names[q] := List.getElem?_eq_getElem q.2
  exact h.position_unique hp (hq.trans (congrArg some hpq.symm))

theorem Indexed.entry?_eq_some_iff {c : Catalog} (h : c.Indexed) {name : String} {e : Entry} :
    c.entry? name = some e ↔ e ∈ c.entries ∧ e.name = name := by
  rw [ entry?, Option.bind_eq_bind, Option.bind_eq_some_iff]
  constructor
  · rintro ⟨position, hp, he⟩
    have hname := (h name position).1 hp
    rw [names_getElem?, he] at hname
    exact ⟨List.mem_of_getElem? he, Option.some.inj hname⟩
  · rintro ⟨he, rfl⟩
    obtain ⟨position, hp⟩ := List.mem_iff_getElem?.1 he
    refine ⟨position, (h e.name position).2 ?_, hp⟩
    rw [names_getElem?, hp]
    rfl

theorem Indexed.type?_eq_some_iff {c : Catalog} (h : c.Indexed) {name : String}
    {type : ObjectType} :
    c.type? name = some type ↔ ∃ e ∈ c.entries, e.name = name ∧ e.type = type := by
  rw [type?, Option.map_eq_some_iff]
  constructor
  · rintro ⟨e, he, rfl⟩
    obtain ⟨hmem, hname⟩ := h.entry?_eq_some_iff.1 he
    exact ⟨e, hmem, hname, rfl⟩
  · rintro ⟨e, hmem, hname, rfl⟩
    exact ⟨e, h.entry?_eq_some_iff.2 ⟨hmem, hname⟩, rfl⟩

theorem Indexed.type?_entry {c : Catalog} (h : c.Indexed) {e : Entry} (he : e ∈ c.entries) :
    c.type? e.name = some e.type := h.type?_eq_some_iff.2 ⟨e, he, rfl, rfl⟩

theorem insert_eq_ok {c c' : Catalog} {extension : String} {type : ObjectType}
    (h : c.insert extension type = .ok c') :
    c.index.get? (qualifiedName extension type.name) = none ∧
      c' = ⟨c.entries ++ [⟨extension, type⟩],
        c.index.insert (qualifiedName extension type.name) c.entries.length⟩ := by
  change (if c.index.contains (qualifiedName extension type.name) then
    Except.error (qualifiedName extension type.name) else .ok _) = .ok c' at h
  split at h
  · cases h
  · rename_i absent
    cases h
    exact ⟨by simpa [Table.contains] using absent, rfl⟩

theorem Indexed.exists_insert {c : Catalog} (h : c.Indexed) (extension : String)
    {type : ObjectType} (fresh : qualifiedName extension type.name ∉ c.names) :
    ∃ c', c.insert extension type = .ok c' := by
  have free : c.index.get? (qualifiedName extension type.name) = none := by
    rw [Option.eq_none_iff_forall_ne_some]
    intro position found
    exact fresh (List.mem_of_getElem? ((h _ position).1 found))
  refine ⟨_, if_neg ?_⟩
  rw [Table.contains, Entry.name, free]
  exact Bool.false_ne_true

theorem Indexed.insert_of_taken {c : Catalog} (h : c.Indexed) {extension : String}
    {type : ObjectType} (taken : qualifiedName extension type.name ∈ c.names) :
    c.insert extension type = .error (qualifiedName extension type.name) := by
  obtain ⟨position, there⟩ := List.mem_iff_getElem?.1 taken
  have known := (h _ position).2 there
  have contains : c.index.contains (Entry.name ⟨extension, type⟩) = true := by
    rw [Table.contains, Entry.name, known]
    rfl
  exact if_pos contains

/-- Adding a type under a free name keeps the index right. -/
theorem Indexed.insert {c c' : Catalog} (h : c.Indexed) {extension : String} {type : ObjectType}
    (added : c.insert extension type = .ok c') : c'.Indexed := by
  obtain ⟨free, rfl⟩ := insert_eq_ok added
  intro name position
  rw [Table.get?_insert, names_getElem?]
  rcases Nat.lt_trichotomy position c.entries.length with hlt | heq | hgt
  · rw [List.getElem?_append_left hlt, ← names_getElem?, ← h name position]
    split
    · rename_i hname
      rw [hname, free]
      simp [Nat.ne_of_gt hlt]
    · rfl
  · subst heq
    rw [List.getElem?_concat_length]
    split
    · rename_i hname
      simp [hname, Entry.name]
    · rename_i hname
      have none : c.index.get? name ≠ some c.entries.length := by
        rw [Ne, h name, names_getElem?, List.getElem?_eq_none (Nat.le_refl _)]
        simp
      simp [none, Entry.name, Ne.symm hname]
  · have beyond : c.names[position]? = none := by
      rw [names_getElem?, List.getElem?_eq_none (by omega)]
      rfl
    rw [List.getElem?_eq_none (by simp; omega)]
    split
    · simp [Nat.ne_of_lt hgt]
    · rw [h name position, beyond]
      rfl

theorem names_modify (c : Catalog) (name : String) {f : ObjectType → ObjectType}
    (keeps : ∀ type, (f type).name = type.name) : (c.modify name f).names = c.names := by
  unfold Catalog.modify
  split
  · rfl
  · rename_i position _
    apply List.ext_getElem?
    intro q
    rw [names_getElem?, names_getElem?, List.getElem?_modify]
    cases c.entries[q]? with
    | none => rfl
    | some e => by_cases hq : position = q <;> simp [hq, Entry.name, keeps]

/-- A change that keeps the name of the type keeps the index right. -/
theorem Indexed.modify {c : Catalog} (h : c.Indexed) (name : String) {f : ObjectType → ObjectType}
    (keeps : ∀ type, (f type).name = type.name) : (c.modify name f).Indexed := by
  have sameIndex : (c.modify name f).index = c.index := by
    unfold Catalog.modify
    split <;> rfl
  intro other q
  rw [sameIndex, c.names_modify name keeps]
  exact h other q

theorem Indexed.entry?_modify {c : Catalog} (h : c.Indexed) (name : String)
    (f : ObjectType → ObjectType) (other : String) :
    Catalog.entry? (c.modify name f) other =
      if other = name then (c.entry? other).map fun e => { e with type := f e.type }
      else c.entry? other := by
  cases found : c.index.get? name with
  | none =>
    have same : c.modify name f = c := by
      unfold Catalog.modify
      rw [found]
    rw [same]
    split
    · rename_i hname
      rw [hname, entry?, found]
      rfl
    · rfl
  | some position =>
    have changed : c.modify name f = { c with
        entries := c.entries.modify position fun e => { e with type := f e.type } } := by
      unfold Catalog.modify
      rw [found]
    rw [changed, entry?, entry?, Option.bind_eq_bind]
    cases other_found : c.index.get? other with
    | none => simp
    | some q =>
      simp only [Option.bind_some, List.getElem?_modify]
      have hq := (h other q).1 other_found
      have hp := (h name position).1 found
      by_cases heq : position = q
      · have hname : other = name := by
          rw [heq] at hp
          exact Option.some.inj (hq.symm.trans hp)
        cases c.entries[q]? <;> simp [heq, hname]
      · have hname : other ≠ name := by
          rintro rfl
          exact heq (h.position_unique hp hq)
        cases c.entries[q]? <;> simp [heq, hname]

theorem Indexed.type?_modify {c : Catalog} (h : c.Indexed) (name : String)
    (f : ObjectType → ObjectType) (other : String) :
    (c.modify name f).type? other =
      if other = name then (c.type? other).map f else c.type? other := by
  rw [type?, h.entry?_modify, type?]
  split
  · rw [Option.map_map, Option.map_map]
    rfl
  · rfl

/-- An index made anew is right where no name comes twice. -/
theorem indexed_indexOf {entries : List Entry} (nodup : (entries.map Entry.name).Nodup) :
    Indexed ⟨entries, indexOf entries⟩ := by
  have keys : ((entries.mapIdx fun position e => (e.name, position)).map (·.1)).Nodup := by
    have hmap : (entries.mapIdx fun position e => (e.name, position)).map (·.1) =
        entries.map Entry.name := by
      apply List.ext_getElem? 
      intro position
      simp [Function.comp_def]
    rw [hmap]
    exact nodup
  intro name position
  rw [indexOf, Table.get?_ofList_of_nodup keys, names_getElem?]
  constructor
  · intro found
    obtain ⟨q, hq, heq⟩ := List.mem_mapIdx.1 (Table.mem_of_get? found)
    cases heq
    rw [List.getElem?_eq_getElem hq]
    rfl
  · intro found
    obtain ⟨e, he, rfl⟩ := Option.map_eq_some_iff.1 found
    obtain ⟨hlt, heq⟩ := List.getElem?_eq_some_iff.1 he
    refine Table.get?_of_mem keys (List.mem_mapIdx.2 ⟨position, hlt, ?_⟩)
    rw [heq]

theorem remove_eq_some {c c' : Catalog} {name : String} {type : ObjectType}
    (h : c.remove name = some (type, c')) :
    ∃ position e, c.index.get? name = some position ∧ c.entries[position]? = some e ∧
      c' = ⟨c.entries.eraseIdx position, indexOf (c.entries.eraseIdx position)⟩ := by
  simp only [remove, Option.bind_eq_bind, Option.bind_eq_some_iff] at h
  obtain ⟨position, hp, e, he, h⟩ := h
  cases h
  exact ⟨position, e, hp, he, rfl⟩

theorem Indexed.remove {c c' : Catalog} (h : c.Indexed) {name : String} {type : ObjectType}
    (removed : c.remove name = some (type, c')) : c'.Indexed := by
  obtain ⟨position, e, -, -, rfl⟩ := remove_eq_some removed
  exact indexed_indexOf (h.nodup.sublist ((List.eraseIdx_sublist _ _).map _))

/-- Only the type that was taken out is no longer known. -/
theorem Indexed.type?_remove {c c' : Catalog} (h : c.Indexed) {name : String} {type : ObjectType}
    (removed : c.remove name = some (type, c')) (other : String) :
    c'.type? other = if other = name then none else c.type? other := by
  have h' := h.remove removed
  obtain ⟨position, e, hp, he, rfl⟩ := remove_eq_some removed
  have hname := (h name position).1 hp
  apply Option.ext
  intro t
  rw [h'.type?_eq_some_iff]
  constructor
  · rintro ⟨d, hd, rfl, rfl⟩
    obtain ⟨q, hq, hqd⟩ := List.mem_eraseIdx_iff_getElem?.1 hd
    have hne : d.name ≠ name := by
      intro heq
      have hname' : c.names[q]? = some name := by
        rw [names_getElem?, hqd, ← heq]
        rfl
      exact hq (h.position_unique hname' hname)
    rw [if_neg hne]
    exact h.type?_entry (List.mem_of_getElem? hqd)
  · intro found
    split at found
    · cases found
    · rename_i hne
      obtain ⟨d, hd, rfl, rfl⟩ := h.type?_eq_some_iff.1 found
      obtain ⟨q, hq⟩ := List.mem_iff_getElem?.1 hd
      refine ⟨d, List.mem_eraseIdx_iff_getElem?.2 ⟨q, ?_, hq⟩, rfl, rfl⟩
      rintro rfl
      rw [names_getElem?, hq] at hname
      exact hne (Option.some.inj hname)

/-- One type after another is taken out of the catalog. -/
def Removed : Catalog → Catalog → Prop :=
  Relation.ReflTransGen fun c c' => ∃ name type, c.remove name = some (type, c')

/-- What is still known after removals is as it was. -/
theorem Removed.type? {c c' : Catalog} (removed : Removed c c') (h : c.Indexed) :
    c'.Indexed ∧ ∀ name type, c'.type? name = some type → c.type? name = some type := by
  induction removed with
  | refl => exact ⟨h, fun _ _ found => found⟩
  | tail _ step ih =>
    obtain ⟨name, type, step⟩ := step
    refine ⟨ih.1.remove step, fun other t found => ?_⟩
    rw [ih.1.type?_remove step] at found
    split at found
    · cases found
    · exact ih.2 other t found

end CompositeObjects.Catalog
