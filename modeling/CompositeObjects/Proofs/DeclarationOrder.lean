import CompositeObjects.Proofs.Loader

namespace CompositeObjects

namespace Configuration

variable {catalog other : Catalog}

mutual

/-- Only what the names of types stand for counts. -/
theorem take_congr (same : ∀ name, catalog.type? name = other.type? name) (tree : Json)
    (saved : SavedTree) (c : Configuration) : take catalog tree saved c = take other tree saved c := by
  match c, saved with
  | .verbatim typeName old, saved => rw [take, take]
  | .composite node, .malformed kept fault => rw [take, take]
  | .composite node, .composite content trees =>
    rw [take, take, same]
    cases other.type? node.typeName with
    | none => rfl
    | some type =>
      dsimp only
      rw [takeChildren_congr same node.typeName type trees node.children]

theorem takeChildren_congr (same : ∀ name, catalog.type? name = other.type? name)
    (typeName : String) (type : ObjectType) (trees : List (String × Json × SavedTree))
    (children : Table Configuration) :
    takeChildren catalog typeName type trees children =
      takeChildren other typeName type trees children := by
  match trees with
  | [] => rw [takeChildren, takeChildren]
  | (name, tree, saved) :: rest =>
    have others := takeChildren_congr same typeName type rest
    rw [takeChildren, takeChildren]
    cases type.child? name with
    | none =>
      dsimp only
      rw [others]
    | some declared =>
      dsimp only
      rw [take_congr same tree saved]
      refine congrArg _ (funext fun result => ?_)
      cases result with
      | error fault => rfl
      | ok child => exact others _

end

theorem load_congr (same : ∀ name, catalog.type? name = other.type? name) (c : Configuration)
    (tree : Json) : c.load catalog tree = c.load other tree := take_congr same tree _ c

end Configuration

namespace ProjectFile

variable {declared catalog result : Catalog}

/-- Fills the children of one type, one after the other. -/
def fillType (declared : Catalog) : List PendingChild → ObjectType → Except ProjectError ObjectType
  | [], type => .ok type
  | next :: rest, type =>
    match type.child? next.child with
    | none => fillType declared rest type
    | some child =>
      match (child.default.load declared next.tree).value with
      | .error fault => .error (.invalidChild next.owner next.child fault)
      | .ok loaded => fillType declared rest (type.updateDefault next.child loaded)

def fillEntry (declared : Catalog) (pending : List PendingChild) (e : Entry) :
    Except ProjectError Entry :=
  (fillType declared pending e.type).map fun type => { e with type }

/-- The children that are to be filled in the type of that name. -/
def pendingIn (name : String) (pending : List PendingChild) : List PendingChild :=
  pending.filter (·.owner == name)

theorem pendingIn_cons (name : String) (next : PendingChild) (rest : List PendingChild) :
    pendingIn name (next :: rest) =
      if next.owner = name then next :: pendingIn name rest else pendingIn name rest := by
  by_cases h : next.owner = name <;> simp [pendingIn, h]

theorem fillType_congr {other : Catalog} (same : ∀ name, declared.type? name = other.type? name)
    (pending : List PendingChild) (type : ObjectType) :
    fillType declared pending type = fillType other pending type := by
  induction pending generalizing type with
  | nil => rfl
  | cons next rest ih =>
    rw [fillType, fillType]
    split
    · exact ih type
    · rw [Configuration.load_congr same]
      split
      · rfl
      · exact ih _

/-- A child that is filled is filled in its own type, and no other type sees it. -/
theorem fill_cons_of_ok (indexed : catalog.Indexed) {next : PendingChild} {child : Child}
    (found : (catalog.type? next.owner).bind (·.child? next.child) = some child)
    {loaded : Configuration} (ok : (child.default.load declared next.tree).value = .ok loaded)
    (rest : List PendingChild) (name : String) :
    ( Catalog.entry? (catalog.modify next.owner (·.updateDefault next.child loaded)) name).map
        (fillEntry declared (pendingIn name rest)) =
      (catalog.entry? name).map (fillEntry declared (pendingIn name (next :: rest))) := by
  rw [indexed.entry?_modify, pendingIn_cons]
  by_cases hname : name = next.owner
  · subst hname
    rw [if_pos rfl, if_pos rfl]
    cases here : catalog.entry? next.owner with
    | none => rfl
    | some e =>
      have found' : e.type.child? next.child = some child := by
        simpa [Catalog.type?, here] using found
      simp only [Option.map_some, fillEntry, fillType, found', ok]
  · rw [if_neg hname, if_neg (Ne.symm hname)]

theorem fill_cons_of_none {next : PendingChild}
    (absent : (catalog.type? next.owner).bind (·.child? next.child) = none)
    (rest : List PendingChild) (name : String) :
    (catalog.entry? name).map (fillEntry declared (pendingIn name rest)) =
      (catalog.entry? name).map (fillEntry declared (pendingIn name (next :: rest))) := by
  rw [pendingIn_cons]
  by_cases hname : next.owner = name
  · subst hname
    rw [if_pos rfl]
    cases here : catalog.entry? next.owner with
    | none => rfl
    | some e =>
      have absent' : e.type.child? next.child = none := by
        simpa [Catalog.type?, here] using absent
      simp only [Option.map_some, fillEntry, fillType, absent']
  · rw [if_neg hname]

/-- After filling, each type is what filling it alone makes of it. -/
theorem entry?_fill (indexed : catalog.Indexed) {pending : List PendingChild}
    (done : (fill declared pending catalog).value = .ok result) :
    result.names = catalog.names ∧ ∀ name, (result.entry? name).map .ok =
      (catalog.entry? name).map (fillEntry declared (pendingIn name pending)) := by
  induction pending generalizing catalog with
  | nil =>
    rw [fill] at done
    cases done
    refine ⟨rfl, fun name => ?_⟩
    cases result.entry? name <;> rfl
  | cons next rest ih =>
    rw [fill] at done
    split at done
    · rename_i absent
      obtain ⟨names, each⟩ := ih indexed done
      exact ⟨names, fun name => (each name).trans (fill_cons_of_none absent rest name)⟩
    · rename_i child found
      rw [Traced.value_bind] at done
      cases ok : (child.default.load declared next.tree).value with
      | error fault =>
        rw [ok] at done
        cases done
      | ok loaded =>
        rw [ok] at done
        have keeps (type : ObjectType) :
            (type.updateDefault next.child loaded).name = type.name := rfl
        obtain ⟨names, each⟩ := ih (indexed.modify next.owner keeps) done
        refine ⟨names.trans (catalog.names_modify next.owner keeps), fun name => ?_⟩
        exact (each name).trans (fill_cons_of_ok indexed found ok rest name)

/-- All types can be filled where each of them can be. -/
theorem exists_fill_iff (indexed : catalog.Indexed) (pending : List PendingChild) :
    (∃ result, (fill declared pending catalog).value = .ok result) ↔
      ∀ name, ∀ filled ∈ (catalog.entry? name).map (fillEntry declared (pendingIn name pending)),
        ∃ e, filled = .ok e := by
  induction pending generalizing catalog with
  | nil =>
    refine iff_of_true ⟨catalog, rfl⟩ fun name filled h => ?_
    obtain ⟨e, -, rfl⟩ := Option.map_eq_some_iff.1 h
    exact ⟨e, rfl⟩
  | cons next rest ih =>
    rw [fill]
    split
    · rename_i absent
      simp only [ih indexed, fill_cons_of_none absent rest]
    · rename_i child found
      cases ok : (child.default.load declared next.tree).value with
      | error fault =>
        refine iff_of_false ?_ fun each => ?_
        · rintro ⟨result, done⟩
          rw [Traced.value_bind, ok] at done
          cases done
        · obtain ⟨type, known, found'⟩ := Option.bind_eq_some_iff.1 found
          obtain ⟨e, here, rfl⟩ := Option.map_eq_some_iff.1 known
          have faulty : fillEntry declared (pendingIn next.owner (next :: rest)) e =
              .error (.invalidChild next.owner next.child fault) := by
            rw [pendingIn_cons, if_pos rfl, fillEntry, fillType]
            simp only [found', ok]
            rfl
          obtain ⟨filled, absurd⟩ := each next.owner _ (by rw [here]; rfl)
          rw [faulty] at absurd
          cases absurd
      | ok loaded =>
        rw [Traced.value_bind, ok]
        have keeps (type : ObjectType) :
            (type.updateDefault next.child loaded).name = type.name := rfl
        have step := ih (indexed.modify next.owner keeps)
        simp only [fill_cons_of_ok indexed found ok rest] at step
        exact step

/-- Types can be added to a catalog where no name would then come twice. -/
theorem exists_foldlM_insert_iff {f : TypeEntry → ObjectType}
    (named : ∀ t, (f t).name = t.name) {types : List (String × TypeEntry)} {start : Catalog}
    (h : start.Indexed) :
    (∃ result, types.foldlM (fun catalog t => catalog.insert t.1 (f t.2)) start = .ok result) ↔
      (start.names ++ types.map fun t => qualifiedName t.1 t.2.name).Nodup := by
  induction types generalizing start with
  | nil =>
    rw [List.map_nil, List.append_nil]
    exact iff_of_true ⟨start, rfl⟩ h.nodup
  | cons t rest ih =>
    rw [List.foldlM_cons, List.map_cons]
    cases added : start.insert t.1 (f t.2) with
    | error name =>
      refine iff_of_false (fun ⟨_, done⟩ => by cases done) fun nodup => ?_
      have fresh : qualifiedName t.1 t.2.name ∉ start.names := fun member =>
        (List.nodup_append.1 nodup).2.2 _ member _ List.mem_cons_self rfl
      obtain ⟨next, ok⟩ := h.exists_insert t.1 (named t.2 ▸ fresh)
      rw [added] at ok
      cases ok
    | ok next =>
      have names : next.names = start.names ++ [qualifiedName t.1 t.2.name] := by
        obtain ⟨-, rfl⟩ := Catalog.insert_eq_ok added
        simp [Catalog.names, Entry.name, named]
      have others := ih (h.insert added)
      rw [names, List.append_assoc] at others
      exact others

theorem exists_declare_iff (file : ProjectFile) :
    (∃ declared, file.declare = .ok declared) ↔ file.typeNames.Nodup := by
  have names : Catalog.empty.names = [] := rfl
  rw [declare, exists_foldlM_insert_iff (fun _ => rfl) Catalog.indexed_empty, names,
    List.nil_append]
  rfl

/-- The children of one type of the file that are to be filled. -/
def pendingOf (names : List String) (t : String × TypeEntry) : List PendingChild :=
  (t.2.children.filter fun child => names.contains child.typeName).map fun child =>
    ⟨qualifiedName t.1 t.2.name, child.name, .object child.tree⟩

theorem pendingIn_pendingOf (names : List String) (t : String × TypeEntry) (name : String) :
    pendingIn name (pendingOf names t) =
      if qualifiedName t.1 t.2.name = name then pendingOf names t else [] := by
  split
  · rename_i hname
    refine List.filter_eq_self.2 fun next member => ?_
    obtain ⟨child, -, rfl⟩ := List.mem_map.1 member
    simpa using hname
  · rename_i hname
    refine List.filter_eq_nil_iff.2 fun next member => ?_
    obtain ⟨child, -, rfl⟩ := List.mem_map.1 member
    simpa using hname

theorem pending_eq (file : ProjectFile) :
    file.pending = file.types.flatMap (pendingOf file.typeNames) := rfl

theorem pendingIn_flatMap (names : List String) (types : List (String × TypeEntry))
    (name : String) : pendingIn name (types.flatMap (pendingOf names)) =
      (types.filter fun t => qualifiedName t.1 t.2.name == name).flatMap (pendingOf names) := by
  rw [pendingIn, List.filter_flatMap]
  induction types with
  | nil => rfl
  | cons t rest ih =>
    rw [List.flatMap_cons, ih, ← pendingIn, pendingIn_pendingOf]
    by_cases hname : qualifiedName t.1 t.2.name = name <;> simp [hname]

/-- At most one entry of a file has that name, so there is only one order of those that have. -/
theorem filter_name_of_perm {types others : List (String × TypeEntry)}
    (reordered : types.Perm others)
    (nodup : (types.map fun t => qualifiedName t.1 t.2.name).Nodup) (name : String) :
    types.filter (fun t => qualifiedName t.1 t.2.name == name) =
      others.filter fun t => qualifiedName t.1 t.2.name == name := by
  have alone {entries : List (String × TypeEntry)}
      (nodup : (entries.map fun t => qualifiedName t.1 t.2.name).Nodup) :
      (entries.filter fun t => qualifiedName t.1 t.2.name == name).Pairwise fun _ _ => False := by
    refine ((List.pairwise_map.1 nodup).filter _).imp_of_mem fun {t u} ht hu hne => ?_
    have named : qualifiedName t.1 t.2.name = name := by simpa using (List.mem_filter.1 ht).2
    have named' : qualifiedName u.1 u.2.name = name := by simpa using (List.mem_filter.1 hu).2
    exact hne (named.trans named'.symm)
  have nodup' := (reordered.map fun t => qualifiedName t.1 t.2.name).nodup_iff.1 nodup
  exact (reordered.filter _).eq_of_pairwise (fun _ _ _ _ absurd => absurd.elim) (alone nodup)
    (alone nodup')

section Reordered

variable {file other : ProjectFile} {declared' catalog catalog' : Catalog}

theorem typeNames_perm (reordered : file.types.Perm other.types) :
    file.typeNames.Perm other.typeNames := reordered.map _

theorem declareType_of_reordered (reordered : file.types.Perm other.types) :
    declareType file.typeNames = declareType other.typeNames := by
  have same (name : String) : file.typeNames.contains name = other.typeNames.contains name :=
    (typeNames_perm reordered).contains_eq
  have children : declareChild file.typeNames = declareChild other.typeNames := by
    funext child
    rw [declareChild, declareChild, same]
  funext t
  rw [declareType, declareType, children]

/-- Before any child is filled, the catalogs differ in nothing but the order of their names. -/
theorem entry?_of_declared (reordered : file.types.Perm other.types)
    (ok : file.declare = .ok declared) (ok' : other.declare = .ok declared') (name : String) :
    declared.entry? name = declared'.entry? name := by
  obtain ⟨indexed, entries⟩ := declare_eq_ok ok
  obtain ⟨indexed', entries'⟩ := declare_eq_ok ok'
  have sameEntry : file.declaredEntry = other.declaredEntry := by
    funext t
    rw [declaredEntry, declaredEntry, declareType_of_reordered reordered]
  apply Option.ext
  intro e
  rw [indexed.entry?_eq_some_iff, indexed'.entry?_eq_some_iff, entries, entries', sameEntry,
    (reordered.map _).mem_iff]

theorem pendingIn_of_reordered (reordered : file.types.Perm other.types)
    (nodup : file.typeNames.Nodup) (name : String) :
    pendingIn name file.pending = pendingIn name other.pending := by
  have same : pendingOf file.typeNames = pendingOf other.typeNames := by
    funext t
    simp only [pendingOf, (typeNames_perm reordered).contains_eq]
  rw [pending_eq, pending_eq, pendingIn_flatMap, pendingIn_flatMap,
    filter_name_of_perm reordered nodup, same]

theorem fillEntry_of_reordered (reordered : file.types.Perm other.types)
    (ok : file.declare = .ok declared) (ok' : other.declare = .ok declared') (name : String) :
    (declared.entry? name).map (fillEntry declared (pendingIn name file.pending)) =
      (declared'.entry? name).map (fillEntry declared' (pendingIn name other.pending)) := by
  have nodup : file.typeNames.Nodup := file.exists_declare_iff.1 ⟨declared, ok⟩
  have sameEntry := entry?_of_declared reordered ok ok'
  have sameType (name : String) : declared.type? name = declared'.type? name := by
    rw [Catalog.type?, Catalog.type?, sameEntry]
  rw [sameEntry, pendingIn_of_reordered reordered nodup]
  refine congrArg (Option.map · _) (funext fun e => ?_)
  rw [fillEntry, fillEntry, fillType_congr sameType]

theorem exists_catalog_of_reordered (reordered : file.types.Perm other.types)
    (ok : ∃ catalog, file.catalog.value = .ok catalog) :
    ∃ catalog, other.catalog.value = .ok catalog := by
  obtain ⟨catalog, ok⟩ := ok
  obtain ⟨declared, hdeclared, filled⟩ := catalog_eq_ok_iff.1 ok
  have nodup : file.typeNames.Nodup := file.exists_declare_iff.1 ⟨declared, hdeclared⟩
  obtain ⟨declared', hdeclared'⟩ :=
    other.exists_declare_iff.2 ((typeNames_perm reordered).nodup_iff.1 nodup)
  have each := (exists_fill_iff (declare_eq_ok hdeclared).1 file.pending).1 ⟨catalog, filled⟩
  simp only [fillEntry_of_reordered reordered hdeclared hdeclared'] at each
  obtain ⟨catalog', filled'⟩ :=
    (exists_fill_iff (declare_eq_ok hdeclared').1 other.pending).2 each
  exact ⟨catalog', catalog_eq_ok_iff.2 ⟨declared', hdeclared', filled'⟩⟩

/-- The names of a catalog stand in the order of its file. -/
theorem names_catalog (ok : file.catalog.value = .ok catalog) :
    catalog.names = file.typeNames := by
  obtain ⟨declared, hdeclared, filled⟩ := catalog_eq_ok_iff.1 ok
  obtain ⟨indexed, entries⟩ := declare_eq_ok hdeclared
  obtain ⟨names, -⟩ := entry?_fill indexed filled
  rw [names, Catalog.names, entries, List.map_map]
  rfl

theorem entry?_of_reordered (reordered : file.types.Perm other.types)
    (ok : file.catalog.value = .ok catalog) (ok' : other.catalog.value = .ok catalog')
    (name : String) : catalog.entry? name = catalog'.entry? name := by
  obtain ⟨declared, hdeclared, filled⟩ := catalog_eq_ok_iff.1 ok
  obtain ⟨declared', hdeclared', filled'⟩ := catalog_eq_ok_iff.1 ok'
  have here := (entry?_fill (declare_eq_ok hdeclared).1 filled).2 name
  have there := (entry?_fill (declare_eq_ok hdeclared').1 filled').2 name
  rw [fillEntry_of_reordered reordered hdeclared hdeclared', ← there] at here
  exact Option.map_injective (fun _ _ => Except.ok.inj) here

/-- The order in which the types of a file stand, one before or after those that it names, is of no
account but for the order of the names. -/
theorem catalog_of_reordered (reordered : file.types.Perm other.types) :
    ((∃ catalog, file.catalog.value = .ok catalog) ↔
        ∃ catalog, other.catalog.value = .ok catalog) ∧
      ∀ catalog catalog', file.catalog.value = .ok catalog → other.catalog.value = .ok catalog' →
        (∀ name, catalog.type? name = catalog'.type? name ∧
          catalog.extension? name = catalog'.extension? name) ∧
        catalog.names = file.typeNames ∧ catalog'.names = other.typeNames := by
  refine ⟨⟨exists_catalog_of_reordered reordered, exists_catalog_of_reordered reordered.symm⟩,
    fun catalog catalog' ok ok' => ⟨fun name => ?_, names_catalog ok, names_catalog ok'⟩⟩
  have same := entry?_of_reordered reordered ok ok' name
  rw [Catalog.type?, Catalog.type?, Catalog.extension?, Catalog.extension?, same]
  exact ⟨rfl, rfl⟩

end Reordered

/-- Two types that hold one another, each with a tree for what the other one holds. -/
def oxAndCart : List TypeEntry := [
  ⟨"Ox", "", [], [⟨"cart", "Farm::Cart", [
    ("childrenContent", .object [("ox", .object [("content", .object [("age", .string "4")])])])]⟩],
    []⟩,
  ⟨"Cart", "", [], [⟨"ox", "Farm::Ox", [("content", .object [("age", .string "9")])]⟩], []⟩]

theorem catalog_of_reordered_oxAndCart :
    let file : ProjectFile := ⟨[⟨"Farm", oxAndCart⟩]⟩
    let other : ProjectFile := ⟨[⟨"Farm", oxAndCart.reverse⟩]⟩
    file.types.Perm other.types ∧ ∃ catalog catalog', file.catalog.value = .ok catalog ∧
      other.catalog.value = .ok catalog' ∧
      (∀ name, catalog.type? name = catalog'.type? name ∧
        catalog.extension? name = catalog'.extension? name) ∧
      catalog.names = ["Farm::Ox", "Farm::Cart"] ∧ catalog'.names = ["Farm::Cart", "Farm::Ox"] := by
  intro file other
  have reordered : file.types.Perm other.types := List.Perm.swap ..
  obtain ⟨both, same⟩ := catalog_of_reordered reordered
  have loads : file.catalog.value.isOk = true := by decide +kernel
  obtain ⟨catalog, ok⟩ := exists_of_isOk loads
  obtain ⟨catalog', ok'⟩ := both.1 ⟨catalog, ok⟩
  exact ⟨reordered, catalog, catalog', ok, ok', same catalog catalog' ok ok'⟩

end ProjectFile
end CompositeObjects
