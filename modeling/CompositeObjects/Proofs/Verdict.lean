import CompositeObjects.Proofs.Acceptance
import CompositeObjects.Proofs.Defaults

namespace CompositeObjects

namespace ProjectFile

variable {file : ProjectFile} {declared catalog : Catalog}

/-- The name is the first one in the list that stands there for the second time. -/
def FirstRepeated (names : List String) (name : String) : Prop :=
  ∃ before after, names = before ++ name :: after ∧ before.Nodup ∧ name ∈ before

/-- Behind names that are known already, the first one that is known is refused. -/
theorem foldlM_insert_eq_error_iff {f : TypeEntry → ObjectType} (named : ∀ t, (f t).name = t.name)
    {types : List (String × TypeEntry)} {start : Catalog} (h : start.Indexed) (name : String) :
    types.foldlM (fun catalog t => catalog.insert t.1 (f t.2)) start = .error name ↔
      ∃ before after, (types.map fun t => qualifiedName t.1 t.2.name) = before ++ name :: after ∧
        (start.names ++ before).Nodup ∧ name ∈ start.names ++ before := by
  induction types generalizing start with
  | nil =>
    refine iff_of_false (fun absurd => by cases absurd) ?_
    rintro ⟨before, after, split, -⟩
    simp at split
  | cons t rest ih =>
    rw [List.foldlM_cons, List.map_cons]
    by_cases taken : qualifiedName t.1 t.2.name ∈ start.names
    · have refused : start.insert t.1 (f t.2) = .error (qualifiedName t.1 t.2.name) := by
        have taken' : qualifiedName t.1 (f t.2).name ∈ start.names := by rwa [named]
        rw [h.insert_of_taken taken', named]
      rw [refused]
      constructor
      · intro same
        cases same
        refine ⟨[], rest.map fun t => qualifiedName t.1 t.2.name, rfl, ?_, ?_⟩
        · rw [List.append_nil]
          exact h.nodup
        · rwa [List.append_nil]
      · rintro ⟨before, after, split, nodup, -⟩
        cases before with
        | nil =>
          obtain ⟨same, -⟩ := List.cons.inj split
          rw [same]
          rfl
        | cons first before =>
          obtain ⟨same, -⟩ := List.cons.inj split
          rw [same] at taken
          exact absurd rfl ((List.nodup_append.1 nodup).2.2 _ taken _ List.mem_cons_self)
    · have free : qualifiedName t.1 (f t.2).name ∉ start.names := by rwa [named]
      obtain ⟨next, added⟩ := h.exists_insert t.1 free
      have names : next.names = start.names ++ [qualifiedName t.1 t.2.name] := by
        obtain ⟨-, rfl⟩ := Catalog.insert_eq_ok added
        simp [Catalog.names, Entry.name, named]
      rw [added]
      refine (ih (h.insert added)).trans ?_
      simp only [names, List.append_assoc, List.singleton_append]
      constructor
      · rintro ⟨before, after, split, nodup, among⟩
        exact ⟨_ :: before, after, congrArg (List.cons _) split, nodup, among⟩
      · rintro ⟨before, after, split, nodup, among⟩
        cases before with
        | nil =>
          obtain ⟨same, -⟩ := List.cons.inj split
          rw [List.append_nil, ← same] at among
          exact absurd among taken
        | cons first before =>
          obtain ⟨rfl, tail⟩ := List.cons.inj split
          exact ⟨before, after, tail, nodup, among⟩

/-- What is refused is the first name that comes twice. -/
theorem declare_eq_error_iff (file : ProjectFile) (name : String) :
    file.declare = .error name ↔ FirstRepeated file.typeNames name := by
  have known : Catalog.empty.names = [] := rfl
  rw [declare, foldlM_insert_eq_error_iff (fun _ => rfl) Catalog.indexed_empty, known]
  rfl

/-- A tree for a child of that type cannot be read, or a tree in it for a composite child that the
type declares in the file, or one in that, and so on. -/
inductive Malformed (file : ProjectFile) : String → Json → Prop where
  | here (typeName : String) {tree : Json} (faulty : tree.parts? = none) :
      Malformed file typeName tree
  | within {t : String × TypeEntry} (ht : t ∈ file.types) {c : ChildEntry}
      (hc : c ∈ t.2.children) (composite : c.typeName ∈ file.typeNames) {tree sub : Json}
      {content trees : Table Json} (parts : tree.parts? = some (content, trees))
      (there : trees.get? c.name = some sub) (inner : Malformed file c.typeName sub) :
      Malformed file (qualifiedName t.1 t.2.name) tree

theorem Malformed.exists_child {typeName : String} {tree : Json} {content trees : Table Json}
    (h : Malformed file typeName tree) (parts : tree.parts? = some (content, trees)) :
    ∃ t ∈ file.types, qualifiedName t.1 t.2.name = typeName ∧
      ∃ c ∈ t.2.children, c.typeName ∈ file.typeNames ∧
        ∃ sub, trees.get? c.name = some sub ∧ Malformed file c.typeName sub := by
  cases h with
  | here _ faulty =>
    rw [parts] at faulty
    cases faulty
  | within ht hc composite parts' there inner =>
    rw [parts] at parts'
    cases parts'
    exact ⟨_, ht, rfl, _, hc, composite, _, there, inner⟩

theorem type?_declared_iff (ok : file.declare = .ok declared) {name : String} {type : ObjectType} :
    declared.type? name = some type ↔ ∃ t ∈ file.types, qualifiedName t.1 t.2.name = name ∧
      type = declareType file.typeNames t.2 := by
  obtain ⟨indexed, entries⟩ := declare_eq_ok ok
  rw [indexed.type?_eq_some_iff, entries]
  constructor
  · rintro ⟨e, he, rfl, rfl⟩
    obtain ⟨t, ht, rfl⟩ := List.mem_map.1 he
    exact ⟨t, ht, rfl, rfl⟩
  · rintro ⟨t, ht, rfl, rfl⟩
    exact ⟨_, List.mem_map.2 ⟨t, ht, rfl⟩, rfl, rfl⟩

theorem exists_of_child?_declareType {names : List String} {t : TypeEntry} {name : String}
    {child : Child} (found : (declareType names t).child? name = some child) :
    ∃ c ∈ t.children, c.name = name ∧ child = declareChild names c := by
  obtain ⟨among, rfl⟩ := ObjectType.child?_eq_some found
  obtain ⟨c, hc, rfl⟩ := List.mem_map.1 among
  exact ⟨c, hc, rfl, rfl⟩

/-- An empty object takes over a tree among the declared types where the tree is not malformed. -/
theorem acceptable_iff_not_malformed (ok : file.declare = .ok declared)
    (distinct : ∀ t ∈ file.types, (t.2.children.map ChildEntry.name).Nodup) {tree : Json}
    (sorted : tree.Sorted) (typeName : String) :
    Configuration.Acceptable declared tree (.composite (.fresh typeName)) ↔
      ¬ Malformed file typeName tree := by
  induction tree using Json.induction_on_children generalizing typeName with
  | step tree ih =>
    cases parts : tree.parts? with
    | none =>
      refine iff_of_false (fun h => ?_) fun h => h (.here typeName parts)
      cases h with
      | composite parts' =>
        rw [parts] at parts'
        cases parts'
    | some both =>
      obtain ⟨content, trees⟩ := both
      obtain ⟨sortedTrees, sortedEach⟩ := sorted.children parts
      have below {c : ChildEntry} {sub : Json} (there : trees.get? c.name = some sub) :
          Configuration.Acceptable declared sub (.composite (.fresh c.typeName)) ↔
            ¬ Malformed file c.typeName sub := by
        have he := Table.mem_of_get? there
        exact ih content trees parts _ he (sortedEach _ he) c.typeName
      rw [Configuration.acceptable_composite_iff parts sortedTrees]
      constructor
      · intro each h
        obtain ⟨t, ht, rfl, c, hc, composite, sub, there, inner⟩ := h.exists_child parts
        have known := (type?_declared_iff ok).2 ⟨t, ht, rfl, rfl⟩
        have found := child?_declareType file.typeNames (distinct t ht) hc
        have start := each _ known c.name _ sub
          (Configuration.assigned?_eq_some_iff.2 ⟨found, there⟩)
        have empty : startingChild (Composite.fresh (qualifiedName t.1 t.2.name)).children
            (declareChild file.typeNames c) = .composite (.fresh c.typeName) :=
          (default_declareChild file.typeNames c).trans (if_pos composite)
        rw [empty] at start
        exact (below there).1 start inner
      · intro sound type known name declared' sub assigned
        obtain ⟨found, there⟩ := Configuration.assigned?_eq_some_iff.1 assigned
        obtain ⟨t, ht, rfl, rfl⟩ := (type?_declared_iff ok).1 known
        obtain ⟨c, hc, rfl, rfl⟩ := exists_of_child?_declareType found
        have default : startingChild (Composite.fresh (qualifiedName t.1 t.2.name)).children
            (declareChild file.typeNames c) = (declareChild file.typeNames c).default := rfl
        rw [default, default_declareChild]
        split
        · rename_i composite
          refine (below there).2 fun inner => sound ?_
          exact .within ht hc composite parts there inner
        · exact .verbatim ..

/-- The composite children of a file and the names of the types that declare them, in the order of
the file. -/
def composites (file : ProjectFile) : List (String × ChildEntry) :=
  file.types.flatMap fun t =>
    (t.2.children.filter fun c => file.typeNames.contains c.typeName).map fun c =>
      (qualifiedName t.1 t.2.name, c)

def PendingChild.ofComposite (p : String × ChildEntry) : PendingChild :=
  ⟨p.1, p.2.name, .object p.2.tree⟩

theorem pending_eq_map (file : ProjectFile) :
    file.pending = file.composites.map PendingChild.ofComposite := by
  simp only [pending, composites, List.map_flatMap, List.map_map]
  rfl

theorem mem_composites_iff {p : String × ChildEntry} :
    p ∈ file.composites ↔ ∃ t ∈ file.types, p.1 = qualifiedName t.1 t.2.name ∧
      p.2 ∈ t.2.children ∧ p.2.typeName ∈ file.typeNames := by
  simp only [composites, List.mem_flatMap, List.mem_map, List.mem_filter, List.contains_iff_mem]
  constructor
  · rintro ⟨t, ht, c, ⟨hc, composite⟩, rfl⟩
    exact ⟨t, ht, rfl, hc, composite⟩
  · rintro ⟨t, ht, owner, hc, composite⟩
    exact ⟨t, ht, p.2, ⟨hc, composite⟩, Prod.ext owner.symm rfl⟩

/-- No two composite children of a file have their owner and their name in common. -/
theorem nodup_composites (typeNames : file.typeNames.Nodup)
    (distinct : ∀ t ∈ file.types, (t.2.children.map ChildEntry.name).Nodup) :
    (file.composites.map fun p => (p.1, p.2.name)).Nodup := by
  rw [composites, List.map_flatMap, List.nodup_flatMap]
  constructor
  · intro t ht
    rw [List.map_map]
    have names : ((t.2.children.filter fun c => file.typeNames.contains c.typeName).map
        ChildEntry.name).Nodup :=
      (distinct t ht).sublist (List.filter_sublist.map _)
    refine List.Nodup.of_map Prod.snd ?_
    rw [List.map_map]
    exact names
  · refine (List.pairwise_map.1 typeNames).imp fun {t u} hne => ?_
    intro key here there
    simp only [List.mem_map, List.map_map] at here there
    obtain ⟨c, -, rfl⟩ := here
    obtain ⟨d, -, same⟩ := there
    exact hne (congrArg Prod.fst same).symm

/-- The default of a child is still empty, as it was declared. -/
def Awaits (catalog : Catalog) (p : String × ChildEntry) : Prop :=
  ∃ child, (catalog.type? p.1).bind (·.child? p.2.name) = some child ∧
    child.default = .composite (.fresh p.2.typeName)

theorem awaits_declared (ok : file.declare = .ok declared)
    (distinct : ∀ t ∈ file.types, (t.2.children.map ChildEntry.name).Nodup)
    {p : String × ChildEntry} (hp : p ∈ file.composites) : Awaits declared p := by
  obtain ⟨t, ht, owner, hc, composite⟩ := mem_composites_iff.1 hp
  have known := (type?_declared_iff ok).2 ⟨t, ht, rfl, rfl⟩
  refine ⟨declareChild file.typeNames p.2, ?_, ?_⟩
  · rw [owner, known]
    exact child?_declareType file.typeNames (distinct t ht) hc
  · rw [default_declareChild, if_pos composite]

/-- To fill a child leaves the others as they are. -/
theorem Awaits.modify (indexed : catalog.Indexed) {p q : String × ChildEntry}
    (h : Awaits catalog q) (apart : (p.1, p.2.name) ≠ (q.1, q.2.name)) (loaded : Configuration) :
    Awaits (catalog.modify p.1 (·.updateDefault p.2.name loaded)) q := by
  obtain ⟨child, found, empty⟩ := h
  refine ⟨child, ?_, empty⟩
  rw [indexed.type?_modify]
  by_cases owner : q.1 = p.1
  · have hne : q.2.name ≠ p.2.name := fun name => apart (Prod.ext owner.symm name.symm)
    rw [if_pos owner, Option.bind_map]
    simp only [Function.comp_def, ObjectType.child?_updateDefault, if_neg hne]
    exact found
  · rw [if_neg owner]
    exact found

theorem value_fill_cons {p : String × ChildEntry} (awaits : Awaits catalog p)
    (rest : List PendingChild) :
    (fill declared (.ofComposite p :: rest) catalog).value =
      match (Configuration.load declared (.composite (.fresh p.2.typeName))
        (.object p.2.tree)).value with
      | .error fault => .error (.invalidChild p.1 p.2.name fault)
      | .ok loaded => (fill declared rest
          (catalog.modify p.1 (·.updateDefault p.2.name loaded))).value := by
  obtain ⟨child, found, empty⟩ := awaits
  have found' : (catalog.type? (PendingChild.ofComposite p).owner).bind
      (·.child? (PendingChild.ofComposite p).child) = some child := found
  rw [fill, found']
  simp only [Traced.value_bind, empty, PendingChild.ofComposite]
  cases (Configuration.load declared (.composite (.fresh p.2.typeName))
    (.object p.2.tree)).value <;> rfl

/-- All children are filled, or the first one whose tree cannot be loaded is told of. -/
theorem fill_verdict (indexed : catalog.Indexed) {Faulty : String × ChildEntry → Prop}
    {composites : List (String × ChildEntry)}
    (loads : ∀ p ∈ composites, (∃ after, (Configuration.load declared
      (.composite (.fresh p.2.typeName)) (.object p.2.tree)).value = .ok after) ↔ ¬ Faulty p)
    (awaits : ∀ p ∈ composites, Awaits catalog p)
    (nodup : (composites.map fun p => (p.1, p.2.name)).Nodup) :
    ((∃ result, (fill declared (composites.map .ofComposite) catalog).value = .ok result) ∧
        ∀ p ∈ composites, ¬ Faulty p) ∨
      ∃ before p after fault, composites = before ++ p :: after ∧ (∀ q ∈ before, ¬ Faulty q) ∧
        Faulty p ∧ (fill declared (composites.map .ofComposite) catalog).value =
          .error (.invalidChild p.1 p.2.name fault) := by
  induction composites generalizing catalog with
  | nil => exact Or.inl ⟨⟨catalog, rfl⟩, by simp⟩
  | cons p rest ih =>
    obtain ⟨fresh, nodup⟩ := List.nodup_cons.1 nodup
    have first := loads p List.mem_cons_self
    rw [List.map_cons, value_fill_cons (awaits p List.mem_cons_self)]
    -- A child that is filled leaves the defaults of all others as empty as they were.
    cases ok : (Configuration.load declared (.composite (.fresh p.2.typeName))
        (.object p.2.tree)).value with
    | error fault =>
      have faulty : Faulty p := by
        by_contra sound
        obtain ⟨after, ok'⟩ := first.2 sound
        rw [ok] at ok'
        cases ok'
      exact Or.inr ⟨[], p, rest, fault, rfl, by simp, faulty, rfl⟩
    | ok loaded =>
      have sound := first.1 ⟨loaded, ok⟩
      have awaitsRest : ∀ q ∈ rest,
          Awaits (catalog.modify p.1 (·.updateDefault p.2.name loaded)) q := by
        intro q hq
        refine (awaits q (List.mem_cons_of_mem p hq)).modify indexed ?_ loaded
        exact fun same => fresh (List.mem_map.2 ⟨q, hq, same.symm⟩)
      have loadsRest := fun q hq => loads q (List.mem_cons_of_mem p hq)
      have indexedRest : Catalog.Indexed
          (catalog.modify p.1 (·.updateDefault p.2.name loaded)) :=
        indexed.modify p.1 fun _ => rfl
      rcases ih indexedRest loadsRest awaitsRest nodup with
        ⟨filled, others⟩ | ⟨before, q, after, fault, rfl, others, faulty, fails⟩
      · exact Or.inl ⟨filled, List.forall_mem_cons.2 ⟨sound, others⟩⟩
      · exact Or.inr ⟨p :: before, q, after, fault, rfl, List.forall_mem_cons.2 ⟨sound, others⟩,
          faulty, fails⟩

theorem catalog_of_refused {name : String} (refused : file.declare = .error name) :
    file.catalog.value = .error (.duplicateType name) := by
  rw [ProjectFile.catalog, refused]
  rfl

theorem catalog_of_declared (ok : file.declare = .ok declared) :
    file.catalog.value = (fill declared file.pending declared).value := by
  rw [ProjectFile.catalog, ok]
  simp only [Traced.value_bind]
  cases (fill declared file.pending declared).value <;> rfl

/-- The entries of a catalog are the types of a file, one by one, but for what is in the defaults of
their children. -/
def ListsTypes (file : ProjectFile) (catalog : Catalog) : Prop :=
  catalog.entries.length = file.types.length ∧
    ∀ (i : Nat) (t : String × TypeEntry), file.types[i]? = some t →
      ∃ children, catalog.entries[i]? = some
          ⟨t.1, ⟨t.2.name, t.2.fullName, t.2.properties, children, t.2.functions⟩⟩ ∧
        children.map Child.name = t.2.children.map ChildEntry.name

theorem listsTypes_of_catalog (ok : file.catalog.value = .ok catalog) :
    ListsTypes file catalog := by
  obtain ⟨declared, hdeclared, filled⟩ := catalog_eq_ok_iff.1 ok
  have names := names_catalog ok
  have typeNames : file.typeNames.Nodup := file.exists_declare_iff.1 ⟨declared, hdeclared⟩
  have length : catalog.entries.length = file.types.length := by
    have same := congrArg List.length names
    rw [Catalog.names, ProjectFile.typeNames, List.length_map, List.length_map] at same
    exact same
  refine ⟨length, fun i t here => ?_⟩
  obtain ⟨type, known, done⟩ := exists_fillType hdeclared filled (List.mem_of_getElem? here)
  obtain ⟨same, childNames⟩ := fillType_keeps done
  obtain ⟨position, -, there⟩ := Option.bind_eq_some_iff.1 known
  have typeName : type.name = t.2.name := by
    rw [same]
    rfl
  -- The name stands at one position only, so the entry of that name is the one at the position.
  have named : file.typeNames[position]? = file.typeNames[i]? := by
    have nameHere : file.typeNames[i]? = some (qualifiedName t.1 t.2.name) := by
      rw [ProjectFile.typeNames, List.getElem?_map, here, Option.map_some]
    rw [nameHere, ← names, Catalog.names_getElem?, there, Option.map_some, Entry.name, typeName]
  have inBounds : position < file.typeNames.length := by
    rw [← names, Catalog.names, List.length_map]
    exact (List.getElem?_eq_some_iff.1 there).1
  obtain rfl : position = i := (List.getElem?_inj inBounds typeNames).1 named
  refine ⟨type.children, ?_, ?_⟩
  · rw [there, same]
    rfl
  · rw [childNames, declareType, List.map_map]
    rfl

/-- What a loader has to say to a file. It is a name that comes twice if there is one, and then the
first one; else a composite child whose tree is malformed, and then the first one; and else it is
the catalog of the types of the file. A tree that can be read is malformed for the sake of a tree for
a declared composite child only, whatever other trees there are in it. -/
structure Judged (file : ProjectFile) (result : Except ProjectError Catalog) : Prop where
  repeated : (∃ name, result = .error (.duplicateType name)) ↔ ¬ file.typeNames.Nodup
  firstRepeated : ∀ name, result = .error (.duplicateType name) → FirstRepeated file.typeNames name
  invalid : file.typeNames.Nodup →
    ((∃ owner child fault, result = .error (.invalidChild owner child fault)) ↔
      ∃ p ∈ file.composites, Malformed file p.2.typeName (.object p.2.tree))
  firstInvalid : ∀ owner child fault, result = .error (.invalidChild owner child fault) →
    ∃ before c after, file.composites = before ++ (owner, c) :: after ∧ c.name = child ∧
      Malformed file c.typeName (.object c.tree) ∧
      ∀ p ∈ before, ¬ Malformed file p.2.typeName (.object p.2.tree)
  accepted : file.typeNames.Nodup →
    (∀ p ∈ file.composites, ¬ Malformed file p.2.typeName (.object p.2.tree)) →
      ∃ catalog, result = .ok catalog
  types : ∀ catalog, result = .ok catalog → ListsTypes file catalog
  cause : ∀ typeName tree content trees, Json.parts? tree = some (content, trees) →
    Malformed file typeName tree → ∃ t ∈ file.types, qualifiedName t.1 t.2.name = typeName ∧
      ∃ c ∈ t.2.children, c.typeName ∈ file.typeNames ∧
        ∃ sub, Table.get? c.name trees = some sub ∧ Malformed file c.typeName sub

theorem FirstRepeated.not_nodup {names : List String} {name : String}
    (h : FirstRepeated names name) : ¬ names.Nodup := by
  obtain ⟨before, after, rfl, -, among⟩ := h
  intro nodup
  exact (List.nodup_append.1 nodup).2.2 name among name List.mem_cons_self rfl

/-- What the loader says to a file whose types declare their children under distinct names. -/
theorem judged_catalog (read : file.Decoded)
    (distinct : ∀ t ∈ file.types, (t.2.children.map ChildEntry.name).Nodup) :
    Judged file file.catalog.value := by
  have cause (typeName : String) (tree : Json) (content trees : Table Json)
      (parts : tree.parts? = some (content, trees)) (h : Malformed file typeName tree) :=
    h.exists_child parts
  cases ok : file.declare with
  | error name =>
    have first := (file.declare_eq_error_iff name).1 ok
    have twice := first.not_nodup
    rw [catalog_of_refused ok]
    refine ⟨by simp [twice], ?_, fun typeNames => (twice typeNames).elim, by simp,
      fun typeNames => (twice typeNames).elim, by simp, cause⟩
    rintro _ ⟨⟩
    exact first
  | ok declared =>
    have typeNames := file.exists_declare_iff.1 ⟨declared, ok⟩
    have loads : ∀ p ∈ file.composites, (∃ after, (Configuration.load declared
        (.composite (.fresh p.2.typeName)) (.object p.2.tree)).value = .ok after) ↔
          ¬ Malformed file p.2.typeName (.object p.2.tree) := by
      intro p hp
      obtain ⟨t, ht, -, hc, -⟩ := mem_composites_iff.1 hp
      have sorted : (Json.object p.2.tree).Sorted := read.sorted.types t ht p.2 hc
      rw [Configuration.exists_load_iff_acceptable sorted,
        acceptable_iff_not_malformed ok distinct sorted]
    have filled := fill_verdict (declare_eq_ok ok).1 loads
      (fun p hp => awaits_declared ok distinct hp) (nodup_composites typeNames distinct)
    rw [← pending_eq_map, ← catalog_of_declared ok] at filled
    rcases filled with
      ⟨⟨catalog, made⟩, sound⟩ | ⟨before, p, after, fault, split, sound, faulty, fails⟩
    · have types := listsTypes_of_catalog made
      rw [made]
      refine ⟨by simp [typeNames], by simp, fun _ => ?_, by simp, fun _ _ => ⟨catalog, rfl⟩, ?_,
        cause⟩
      · refine iff_of_false (by simp) ?_
        rintro ⟨p, hp, faulty⟩
        exact sound p hp faulty
      · rintro _ ⟨⟩
        exact types
    · have among : p ∈ file.composites := by simp [split]
      rw [fails]
      refine ⟨by simp [typeNames], by simp, fun _ => ?_, ?_, fun _ all => (all p among faulty).elim,
        by simp, cause⟩
      · exact iff_of_true ⟨p.1, p.2.name, fault, rfl⟩ ⟨p, among, faulty⟩
      · rintro _ _ _ ⟨⟩
        exact ⟨before, p.2, after, split, rfl, faulty, sound⟩

/-- An ox and its cart once more, with a number for the content of the cart of the ox in the cart. -/
def brokenProject : Json := .object [("extensions", .array [.object [
  ("eventsBasedObjects", .array [
    .object [("name", .string "Ox"), ("objects", .array [.object [
      ("childrenContent", .object [("ox", .object [("childrenContent", .object [
        ("cart", .object [("content", .number (.integer 4))])])])]),
      ("name", .string "cart"), ("type", .string "Farm::Cart")]])],
    .object [("name", .string "Cart"), ("objects", .array [
      .object [("name", .string "ox"), ("type", .string "Farm::Ox")],
      .object [("childrenContent", .null), ("name", .string "load"), ("type", .string "Hay")]])]]),
  ("name", .string "Farm")]])]

def brokenFile : ProjectFile :=
  match decoder.fromJson brokenProject with
  | .ok file => file
  | .error _ => ⟨[]⟩

theorem decoded_brokenFile : brokenFile.Decoded := by
  have readable : (decoder.fromJson brokenProject).isOk = true := by decide +kernel
  obtain ⟨file, read⟩ := exists_of_isOk readable
  refine Or.inr ⟨brokenProject, ?_⟩
  rw [brokenFile, read]

theorem judged_catalog_broken :
    brokenFile.Decoded ∧
      (∀ t ∈ brokenFile.types, (t.2.children.map ChildEntry.name).Nodup) ∧
      Judged brokenFile brokenFile.catalog.value := by
  have distinct : ∀ t ∈ brokenFile.types, (t.2.children.map ChildEntry.name).Nodup := by
    decide +kernel
  exact ⟨decoded_brokenFile, distinct, judged_catalog decoded_brokenFile distinct⟩

/-- It is the cart of the ox that is told of; the hay may be anything. -/
example : (match brokenFile.catalog.value with
    | .error (.invalidChild owner child _) => some (owner, child)
    | _ => none) = some ("Farm::Ox", "cart") := by
  decide +kernel

end ProjectFile
end CompositeObjects
