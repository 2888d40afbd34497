import CompositeObjects.Proofs.CatalogIndex

namespace CompositeObjects

/-- A request to change a catalog. A type that is given out to be changed keeps its name. -/
inductive Edit where
  | insert (extension : String) (type : ObjectType)
  | remove (name : String)
  | change (name : String) (f : ObjectType → ObjectType)
      (keeps : ∀ type, (f type).name = type.name)

namespace Edit

/-- What an edit is answered: the name that is taken already, or else the type that it found. -/
abbrev Answer := Except String (Option ObjectType)

/-- Edits one after another: their answers, and what they make of the state. -/
def runAll {σ : Type} (edit : σ → Edit → Answer × σ) :
    List Edit → σ → List Answer × σ
  | [], s => ([], s)
  | e :: rest, s =>
    let (answer, s) := edit s e
    let (answers, s) := runAll edit rest s
    (answer :: answers, s)

/-- One of the edits takes out that name. -/
def removed (edits : List Edit) (name : String) : Bool :=
  edits.any fun
    | .remove other => other == name
    | _ => false

/-- The names that edits add to those that are there, in the order in which they are added, less
those that are taken out later on. -/
def standing : List String → List Edit → List String
  | _, [] => []
  | names, .insert extension type :: rest =>
    let name := qualifiedName extension type.name
    if name ∈ names then standing names rest
    else
      let later := standing (names ++ [name]) rest
      if removed rest name then later else name :: later
  | names, .remove name :: rest => standing (names.filter (· ≠ name)) rest
  | names, .change .. :: rest => standing names rest

end Edit

/-- The entries of a catalog, each under its name, in the order in which they were added. -/
abbrev Roster := List (String × Entry)

namespace Roster

def names (r : Roster) : List String := r.map (·.1)

/-- An entry is added behind the others where its name is free. Nothing else is asked of a roster
than to look through its entries. -/
def edit (r : Roster) : Edit → Edit.Answer × Roster
  | .insert extension type =>
    let entry : Entry := ⟨extension, type⟩
    if (Table.get? entry.name r).isSome then (.error entry.name, r)
    else (.ok none, r ++ [(entry.name, entry)])
  | .remove name => (.ok ((Table.get? name r).map Entry.type), r.filter (·.1 ≠ name))
  | .change name f _ =>
    (.ok ((Table.get? name r).map Entry.type),
      r.map fun (key, e) => (key, if key = name then { e with type := f e.type } else e))

theorem isSome_get?_iff (r : Roster) (name : String) :
    (Table.get? name r).isSome ↔ name ∈ r.names := by
  rw [Option.isSome_iff_ne_none, Ne, Table.get?_eq_none_iff, not_not]
  rfl

theorem names_insert (r : Roster) (extension : String) (type : ObjectType) :
    (r.edit (.insert extension type)).2.names =
      if qualifiedName extension type.name ∈ r.names then r.names
      else r.names ++ [qualifiedName extension type.name] := by
  have known := r.isSome_get?_iff (qualifiedName extension type.name)
  by_cases taken : qualifiedName extension type.name ∈ r.names
  · have present := known.2 taken
    simp [edit, Entry.name, present, taken]
  · have absent := mt known.1 taken
    rw [if_neg taken]
    simp [edit, Entry.name, absent, names]

theorem names_remove (r : Roster) (name : String) :
    (r.edit (.remove name)).2.names = r.names.filter (· ≠ name) := by
  rw [names, names, List.filter_map]
  rfl

theorem names_change (r : Roster) (name : String) (f : ObjectType → ObjectType)
    (keeps : ∀ type, (f type).name = type.name) :
    (r.edit (.change name f keeps)).2.names = r.names := by
  simp [edit, names]

/-- The names after a run: those that were there and those that were added, without the names that
were taken out later on. -/
theorem names_runAll (r : Roster) (edits : List Edit) :
    (Edit.runAll edit edits r).2.names =
      r.names.filter (fun name => !Edit.removed edits name) ++ Edit.standing r.names edits := by
  induction edits generalizing r with
  | nil => simp [Edit.runAll, Edit.removed, Edit.standing]
  | cons e rest ih =>
    have step := ih (r.edit e).2
    rw [Edit.runAll]
    cases e with
    | insert extension type =>
      rw [names_insert] at step
      have same (name : String) : Edit.removed (.insert extension type :: rest) name =
          Edit.removed rest name := by simp [Edit.removed]
      simp only [same, Edit.standing]
      by_cases taken : qualifiedName extension type.name ∈ r.names
      · simpa [taken] using step
      · by_cases gone : Edit.removed rest (qualifiedName extension type.name)
        · simpa [taken, gone] using step
        · simpa [taken, gone] using step
    | remove name =>
      rw [names_remove] at step
      have either (other : String) : Edit.removed (.remove name :: rest) other =
          (name == other || Edit.removed rest other) := by simp [Edit.removed]
      simp only [either, Edit.standing]
      rw [List.filter_filter] at step
      rw [step]
      congr 2
      funext other
      by_cases hname : other = name
      · simp [hname]
      · simp [hname, Ne.symm hname]
    | change name f keeps =>
      rw [names_change] at step
      have same (other : String) : Edit.removed (.change name f keeps :: rest) other =
          Edit.removed rest other := by simp [Edit.removed]
      simp only [same, Edit.standing]
      exact step

end Roster

namespace Catalog

/-- A refused edit leaves the catalog as it is. -/
def edit (c : Catalog) : Edit → Edit.Answer × Catalog
  | .insert extension type =>
    match c.insert extension type with
    | .ok c' => (.ok none, c')
    | .error name => (.error name, c)
  | .remove name =>
    match c.remove name with
    | some (type, c') => (.ok (some type), c')
    | none => (.ok none, c)
  | .change name f _ => (.ok (c.type? name), c.modify name f)

def roster (c : Catalog) : Roster := c.entries.map fun e => (e.name, e)

theorem names_roster (c : Catalog) : c.roster.names = c.names := by
  simp [Roster.names, roster, names]

/-- An indexed catalog finds what looking through its entries finds. -/
theorem Indexed.get?_roster {c : Catalog} (h : c.Indexed) (name : String) :
    Table.get? name c.roster = c.entry? name := by
  have nodup : (c.roster.map (·.1)).Nodup := by
    rw [← Roster.names, names_roster]
    exact h.nodup
  apply Option.ext
  intro e
  rw [h.entry?_eq_some_iff]
  constructor
  · intro found
    obtain ⟨e', he', heq⟩ := List.mem_map.1 (Table.mem_of_get? found)
    cases heq
    exact ⟨he', rfl⟩
  · rintro ⟨he, rfl⟩
    exact Table.get?_of_mem nodup (List.mem_map.2 ⟨e, he, rfl⟩)

theorem Indexed.contains_iff {c : Catalog} (h : c.Indexed) (name : String) :
    c.index.contains name = (c.entry? name).isSome := by
  rw [Table.contains, entry?]
  cases found : c.index.get? name with
  | none => rfl
  | some position =>
    have hname := (h name position).1 found
    rw [names_getElem?] at hname
    obtain ⟨e, he, -⟩ := Option.map_eq_some_iff.1 hname
    simp [he]

theorem Indexed.isSome_entry?_iff {c : Catalog} (h : c.Indexed) (name : String) :
    (c.entry? name).isSome ↔ name ∈ c.names := by
  rw [Option.isSome_iff_exists]
  simp only [h.entry?_eq_some_iff, names, List.mem_map]

theorem insert_eq_error {c : Catalog} {extension : String} {type : ObjectType} {name : String}
    (refused : c.insert extension type = .error name) :
    c.index.contains (Entry.name ⟨extension, type⟩) = true ∧
      Entry.name ⟨extension, type⟩ = name := by
  change (if c.index.contains (Entry.name ⟨extension, type⟩) then
    Except.error (Entry.name ⟨extension, type⟩) else .ok _) = .error name at refused
  split at refused
  · rename_i contains
    exact ⟨contains, Except.error.inj refused⟩
  · cases refused

/-- Where no name comes twice, taking out a position is taking out its name. -/
theorem eraseIdx_eq_filter {entries : List Entry} (nodup : (entries.map Entry.name).Nodup)
    {position : Nat} {e : Entry} (there : entries[position]? = some e) :
    entries.eraseIdx position = entries.filter (·.name ≠ e.name) := by
  induction entries generalizing position with
  | nil => simp at there
  | cons first rest ih =>
    obtain ⟨fresh, nodup⟩ := List.nodup_cons.1 nodup
    cases position with
    | zero =>
      have hfirst : first = e := by simpa using there
      have others : rest.filter (·.name ≠ e.name) = rest := by
        apply List.filter_eq_self.2
        intro d hd
        have hne : d.name ≠ e.name := by
          intro heq
          exact fresh (List.mem_map.2 ⟨d, hd, by rw [heq, hfirst]⟩)
        simpa using hne
      rw [List.eraseIdx_cons_zero, List.filter_cons_of_neg (by simp [hfirst]), others]
    | succ position =>
      have there : rest[position]? = some e := by simpa using there
      have hne : first.name ≠ e.name := by
        intro heq
        exact fresh (List.mem_map.2 ⟨e, List.mem_of_getElem? there, heq.symm⟩)
      rw [List.eraseIdx_cons_succ, List.filter_cons_of_pos (by simpa using hne), ih nodup there]

/-- Where no name comes twice, changing a position is changing what has its name. -/
theorem modify_eq_map {entries : List Entry} (nodup : (entries.map Entry.name).Nodup)
    {position : Nat} {e : Entry} (there : entries[position]? = some e) (g : Entry → Entry) :
    entries.modify position g = entries.map fun d => if d.name = e.name then g d else d := by
  induction entries generalizing position with
  | nil => simp at there
  | cons first rest ih =>
    obtain ⟨fresh, nodup⟩ := List.nodup_cons.1 nodup
    cases position with
    | zero =>
      have hfirst : first = e := by simpa using there
      have others : rest.map (fun d => if d.name = e.name then g d else d) = rest := by
        refine (List.map_congr_left fun d hd => if_neg fun heq => ?_).trans (List.map_id rest)
        exact fresh (List.mem_map.2 ⟨d, hd, by rw [heq, hfirst]⟩)
      rw [List.modify_zero_cons, List.map_cons, others, if_pos (by rw [hfirst])]
    | succ position =>
      have there : rest[position]? = some e := by simpa using there
      have hne : first.name ≠ e.name := by
        intro heq
        exact fresh (List.mem_map.2 ⟨e, List.mem_of_getElem? there, heq.symm⟩)
      rw [List.modify_succ_cons, List.map_cons, if_neg hne, ih nodup there]

/-- What one edit does to a catalog it does to the roster. -/
def Follows (c : Catalog) (e : Edit) : Prop :=
  (c.edit e).1 = (c.roster.edit e).1 ∧ (c.edit e).2.roster = (c.roster.edit e).2 ∧
    (c.edit e).2.Indexed

theorem Indexed.follows_insert {c : Catalog} (h : c.Indexed) (extension : String)
    (type : ObjectType) : c.Follows (.insert extension type) := by
  have taken := h.contains_iff (Entry.name ⟨extension, type⟩)
  rw [← h.get?_roster] at taken
  cases added : c.insert extension type with
  | ok c' =>
    have indexed := h.insert added
    obtain ⟨free, rfl⟩ := insert_eq_ok added
    have absent : (Table.get? (Entry.name ⟨extension, type⟩) c.roster).isSome = false := by
      rw [← taken, Table.contains]
      exact congrArg Option.isSome free
    refine ⟨?_, ?_, ?_⟩
    · simp [edit, added, Roster.edit, absent]
    · rw [edit, added, Roster.edit, absent]
      simp [roster]
    · simpa [edit, added] using indexed
  | error name =>
    obtain ⟨contains, rfl⟩ := insert_eq_error added
    rw [contains] at taken
    refine ⟨?_, ?_, ?_⟩
    · simp [edit, added, Roster.edit, ← taken]
    · simp [edit, added, Roster.edit, ← taken]
    · simpa [edit, added] using h

theorem Indexed.remove_of_absent {c : Catalog} (h : c.Indexed) {name : String}
    (absent : c.entry? name = none) : c.remove name = none := by
  have contains := h.contains_iff name
  rw [absent, Table.contains] at contains
  have unknown : c.index.get? name = none := by simpa using contains
  rw [Catalog.remove, unknown]
  rfl

/-- A type that is there can be taken out, and the other entries stay in their order. -/
theorem Indexed.remove_of_present {c : Catalog} (h : c.Indexed) {name : String} {e : Entry}
    (found : c.entry? name = some e) :
    ∃ c', c.remove name = some (e.type, c') ∧ c'.Indexed ∧
      c'.entries = c.entries.filter (·.name ≠ name) := by
  obtain ⟨position, hp, there⟩ := Option.bind_eq_some_iff.1 found
  have removed : c.remove name =
      some (e.type, ⟨c.entries.eraseIdx position, indexOf (c.entries.eraseIdx position)⟩) := by
    simp [Catalog.remove, hp, there]
  refine ⟨_, removed, h.remove removed, ?_⟩
  rw [eraseIdx_eq_filter h.nodup there, (h.entry?_eq_some_iff.1 found).2]

theorem Indexed.follows_remove {c : Catalog} (h : c.Indexed) (name : String) :
    c.Follows (.remove name) := by
  have lookup := h.get?_roster name
  cases found : c.entry? name with
  | none =>
    have absent := h.remove_of_absent found
    have unnamed : c.roster.filter (·.1 ≠ name) = c.roster := by
      apply List.filter_eq_self.2
      intro d hd
      have hne : d.1 ≠ name := by
        intro heq
        have key : name ∈ c.roster.map (·.1) := List.mem_map.2 ⟨d, hd, heq⟩
        exact Table.get?_eq_none_iff.1 (lookup.trans found) key
      simpa using hne
    refine ⟨?_, ?_, ?_⟩
    · simp [edit, absent, Roster.edit, lookup, found]
    · simp only [edit, absent, Roster.edit]
      exact unnamed.symm
    · simpa [edit, absent] using h
  | some e =>
    obtain ⟨c', removed, indexed, entries⟩ := h.remove_of_present found
    refine ⟨?_, ?_, ?_⟩
    · simp [edit, removed, Roster.edit, lookup, found]
    · simp only [edit, removed, Roster.edit]
      rw [roster, entries, roster, List.filter_map]
      rfl
    · simpa [edit, removed] using indexed

theorem Indexed.entries_modify {c : Catalog} (h : c.Indexed) (name : String)
    (f : ObjectType → ObjectType) :
    (c.modify name f).entries =
      c.entries.map fun e => if e.name = name then { e with type := f e.type } else e := by
  unfold Catalog.modify
  cases found : c.index.get? name with
  | none =>
    refine ((List.map_congr_left fun d hd => if_neg fun heq => ?_).trans
      (List.map_id c.entries)).symm
    have known : (c.entry? name).isSome :=
      (h.isSome_entry?_iff name).2 (List.mem_map.2 ⟨d, hd, heq⟩)
    rw [← h.contains_iff, Table.contains, found] at known
    simp at known
  | some position =>
    have hname := (h name position).1 found
    rw [names_getElem?] at hname
    obtain ⟨e, there, rfl⟩ := Option.map_eq_some_iff.1 hname
    exact modify_eq_map h.nodup there _

theorem Indexed.follows_change {c : Catalog} (h : c.Indexed) (name : String)
    (f : ObjectType → ObjectType) (keeps : ∀ type, (f type).name = type.name) :
    c.Follows (.change name f keeps) := by
  refine ⟨?_, ?_, h.modify name keeps⟩
  · simp [edit, Roster.edit, h.get?_roster, type?]
  · simp only [edit, Roster.edit]
    rw [roster, h.entries_modify, roster, List.map_map, List.map_map]
    refine List.map_congr_left fun e _ => ?_
    have sameName : Entry.name { e with type := f e.type } = e.name := by
      simp [Entry.name, keeps]
    by_cases hname : e.name = name
    · simp only [Function.comp_apply, if_pos hname, sameName]
    · simp only [Function.comp_apply, if_neg hname]

theorem Indexed.follows {c : Catalog} (h : c.Indexed) (e : Edit) : c.Follows e := by
  cases e with
  | insert extension type => exact h.follows_insert extension type
  | remove name => exact h.follows_remove name
  | change name f keeps => exact h.follows_change name f keeps

/-- A run of edits is answered as by the roster, and comes to the same entries. -/
theorem Indexed.runAll {c : Catalog} (h : c.Indexed) (edits : List Edit) :
    (Edit.runAll edit edits c).1 = (Edit.runAll Roster.edit edits c.roster).1 ∧
      (Edit.runAll edit edits c).2.roster = (Edit.runAll Roster.edit edits c.roster).2 ∧
      (Edit.runAll edit edits c).2.Indexed := by
  induction edits generalizing c with
  | nil => exact ⟨rfl, rfl, h⟩
  | cons e rest ih =>
    obtain ⟨answer, state, indexed⟩ := h.follows e
    obtain ⟨answers, states, indexed⟩ := ih indexed
    rw [state] at answers states
    refine ⟨?_, ?_, ?_⟩
    · simp only [Edit.runAll]
      rw [answer, answers]
    · simp only [Edit.runAll]
      exact states
    · simpa only [Edit.runAll] using indexed

/-- Taking out a name is no matter to any other name. -/
theorem Indexed.entry?_remove_of_ne {c : Catalog} (h : c.Indexed) {name other : String}
    (hne : other ≠ name) :
    Catalog.entry? (c.edit (.remove name)).2 other = c.entry? other := by
  obtain ⟨-, state, indexed⟩ := h.follows (.remove name)
  have others : Table.get? other (c.roster.edit (.remove name)).2 = Table.get? other c.roster :=
    Table.get?_erase_of_ne hne c.roster
  rw [← indexed.get?_roster, state, others, h.get?_roster]

/-- A catalog is a roster with an index: it holds the same names in the same order, finds under each
name what the roster has there, and its index leads to each entry and nowhere else. -/
structure Represents (c : Catalog) (r : Roster) : Prop where
  index : ∀ name position, c.index.get? name = some position ↔
    ∃ e, c.entries[position]? = some e ∧ e.name = name
  names : c.names = r.names
  nodup : c.names.Nodup
  types : ∀ name, c.type? name = (Table.get? name r).map Entry.type
  extensions : ∀ name, c.extension? name = (Table.get? name r).map Entry.extension
  known : ∀ name, (c.type? name).isSome ↔ name ∈ r.names

theorem Indexed.represents {c : Catalog} (h : c.Indexed) : c.Represents c.roster := by
  have same := c.names_roster
  refine ⟨?_, same.symm, h.nodup, ?_, ?_, ?_⟩
  · intro name position
    rw [h name position, names_getElem?, Option.map_eq_some_iff]
  · intro name
    rw [h.get?_roster, type?]
  · intro name
    rw [h.get?_roster, extension?]
  · intro name
    rw [type?, Option.isSome_map, h.isSome_entry?_iff, same]

/-- What a catalog does not do when it is edited: a name that is taken is refused and one that is
not there is not taken out, both without a change, and taking out a name leaves all others. -/
structure Steady (c : Catalog) : Prop where
  taken : ∀ extension type, qualifiedName extension type.name ∈ c.names →
    c.edit (.insert extension type) = (.error (qualifiedName extension type.name), c)
  absent : ∀ name, name ∉ c.names → c.edit (.remove name) = (.ok none, c)
  others : ∀ name other, other ≠ name →
    (c.edit (.remove name)).2.type? other = c.type? other ∧
      (c.edit (.remove name)).2.extension? other = c.extension? other

theorem Indexed.steady {c : Catalog} (h : c.Indexed) : c.Steady := by
  refine ⟨?_, ?_, ?_⟩
  · intro extension type taken
    have known := (h.isSome_entry?_iff (qualifiedName extension type.name)).2 taken
    rw [← h.contains_iff] at known
    cases added : c.insert extension type with
    | ok c' =>
      have free := (insert_eq_ok added).1
      simp [Table.contains, free] at known
    | error name =>
      obtain ⟨-, rfl⟩ := insert_eq_error added
      simp only [edit, added, Entry.name]
  · intro name absent
    have unknown : c.entry? name = none :=
      Option.not_isSome_iff_eq_none.1 (mt (h.isSome_entry?_iff name).1 absent)
    have missed := h.remove_of_absent unknown
    simp only [edit, missed]
  · intro name other hne
    have same := h.entry?_remove_of_ne hne
    rw [type?, type?, extension?, extension?, same]
    exact ⟨rfl, rfl⟩

end Catalog
end CompositeObjects
