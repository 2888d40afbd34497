import CompositeObjects.Proofs.CatalogIndex
import CompositeObjects.Proofs.Decoding
import CompositeObjects.Proofs.WellTyped

namespace CompositeObjects

open CompositeObjects.Configuration

/-- The loader makes this catalog of some project, given as a text or as a value. -/
def Catalog.Accepted (catalog : Catalog) : Prop :=
  (∃ text, (Catalog.ofText text).value = .ok catalog) ∨
    ∃ value, (Catalog.ofJson value).value = .ok catalog

namespace ProjectFile

variable {file : ProjectFile} {declared catalog : Catalog}

/-- The entry that a type of the file is declared as. -/
def declaredEntry (file : ProjectFile) (t : String × TypeEntry) : Entry :=
  ⟨t.1, declareType file.typeNames t.2⟩

theorem indexed_foldlM_insert {f : String × TypeEntry → ObjectType}
    {types : List (String × TypeEntry)} {start result : Catalog} (h : start.Indexed)
    (done : types.foldlM (fun catalog t => catalog.insert t.1 (f t)) start = .ok result) :
    result.Indexed ∧ result.entries = start.entries ++ types.map fun t => ⟨t.1, f t⟩ := by
  induction types generalizing start with
  | nil =>
    cases done
    simp [h]
  | cons t rest ih =>
    rw [List.foldlM_cons] at done
    cases added : start.insert t.1 (f t) with
    | error name =>
      rw [added] at done
      cases done
    | ok next =>
      rw [added] at done
      obtain ⟨indexed, entries⟩ := ih (h.insert added) done
      obtain ⟨-, rfl⟩ := Catalog.insert_eq_ok added
      exact ⟨indexed, by simpa using entries⟩

theorem declare_eq_ok (h : file.declare = .ok declared) :
    declared.Indexed ∧ declared.entries = file.types.map file.declaredEntry := by
  exact indexed_foldlM_insert Catalog.indexed_empty h

/-- A type that has been declared stands in the file. -/
theorem exists_of_declared (h : file.declare = .ok declared) {name : String} {type : ObjectType}
    (known : declared.type? name = some type) :
    ∃ t ∈ file.types, type = declareType file.typeNames t.2 := by
  obtain ⟨indexed, entries⟩ := declare_eq_ok h
  obtain ⟨e, he, -, rfl⟩ := indexed.type?_eq_some_iff.1 known
  rw [entries] at he
  obtain ⟨t, ht, rfl⟩ := List.mem_map.1 he
  exact ⟨t, ht, rfl⟩

theorem grown_declareChild (catalog : Catalog) (names : List String) (child : ChildEntry) :
    Grown catalog (declareChild names child).default.blank (declareChild names child).default := by
  unfold declareChild
  dsimp only
  split
  · exact grown_fresh catalog child.typeName
  · exact Grown.verbatim ..

theorem wellTyped_declareChild (catalog : Catalog) (names : List String) (child : ChildEntry) :
    WellTyped catalog (declareChild names child).default := by
  unfold declareChild
  dsimp only
  split
  · exact wellTyped_fresh catalog child.typeName
  · exact WellTyped.verbatim ..

theorem exists_of_declared_child (h : file.declare = .ok declared) {name : String}
    {type : ObjectType} (known : declared.type? name = some type) {c : Child}
    (hc : c ∈ type.children) : ∃ entry, c = declareChild file.typeNames entry := by
  obtain ⟨t, -, rfl⟩ := exists_of_declared h known
  obtain ⟨entry, -, rfl⟩ := List.mem_map.1 hc
  exact ⟨entry, rfl⟩

theorem grounded_declared (h : file.declare = .ok declared) : Grounded declared := by
  intro name type known c hc
  obtain ⟨entry, rfl⟩ := exists_of_declared_child h known hc
  exact (grown_declareChild declared file.typeNames entry).self_of_sameOutline fun _ => rfl

end ProjectFile

namespace ObjectType

theorem updateDefault_go_blank {children : List Child} {name : String} {first : Child}
    (found : children.find? (·.name == name) = some first) {default : Configuration}
    (same : default.blank = first.default.blank) :
    (updateDefault.go name default children).map Child.blank = children.map Child.blank := by
  induction children with
  | nil => cases found
  | cons c rest ih =>
    rw [updateDefault.go]
    split
    · rename_i hname
      rw [List.find?_cons_of_pos (by simpa using hname)] at found
      cases found
      simp [Child.blank, same]
    · rename_i hname
      rw [List.find?_cons_of_neg (by simpa using hname)] at found
      simp [ih found]

/-- A new default of the same kind leaves the outline of the type as it is. -/
theorem blank_updateDefault {type : ObjectType} {name : String} {first : Child}
    (found : type.child? name = some first) {default : Configuration}
    (same : default.blank = first.default.blank) :
    (type.updateDefault name default).blank = type.blank := by
  simp only [blank, updateDefault]
  rw [updateDefault_go_blank found same]

theorem mem_updateDefault_go {children : List Child} {name : String} {default : Configuration}
    {c : Child} (hc : c ∈ updateDefault.go name default children) :
    c ∈ children ∨ c.default = default := by
  induction children with
  | nil => cases hc
  | cons first rest ih =>
    rw [updateDefault.go] at hc
    split at hc
    · rcases List.mem_cons.1 hc with rfl | hc
      · exact Or.inr rfl
      · exact Or.inl (List.mem_cons_of_mem _ hc)
    · rcases List.mem_cons.1 hc with rfl | hc
      · exact Or.inl List.mem_cons_self
      · exact (ih hc).imp_left (List.mem_cons_of_mem _)

end ObjectType

namespace ProjectFile

variable {file : ProjectFile} {declared catalog : Catalog}

/-- What holds of the catalog while the declared defaults are filled one by one. -/
structure Filling (declared catalog : Catalog) : Prop where
  indexed : catalog.Indexed
  outline : declared.SameOutline catalog
  defaults : ∀ name type, catalog.type? name = some type → ∀ c ∈ type.children,
    Grown declared c.default.blank c.default ∧ WellTyped declared c.default

theorem filling_declared (h : file.declare = .ok declared) : Filling declared declared := by
  refine ⟨(declare_eq_ok h).1, fun _ => rfl, fun name type known c hc => ?_⟩
  obtain ⟨entry, rfl⟩ := exists_of_declared_child h known hc
  exact ⟨grown_declareChild .., wellTyped_declareChild ..⟩

/-- A default after one more has been filled is that one or was there before. -/
theorem default_of_modify (indexed : catalog.Indexed) {owner child : String}
    {loaded : Configuration} {name : String} {type : ObjectType}
    (known : (catalog.modify owner (·.updateDefault child loaded)).type? name = some type)
    {c : Child} (hc : c ∈ type.children) :
    c.default = loaded ∨ ∃ before, catalog.type? name = some before ∧ c ∈ before.children := by
  rw [indexed.type?_modify] at known
  split at known
  · rename_i hname
    obtain ⟨before, found, rfl⟩ := Option.map_eq_some_iff.1 known
    refine (ObjectType.mem_updateDefault_go hc).symm.imp_right fun hc => ?_
    exact ⟨before, hname ▸ found, hc⟩
  · exact Or.inr ⟨type, known, hc⟩

/-- One more default is filled. -/
theorem Filling.modify (h : Filling declared catalog) {owner child : String} {type : ObjectType}
    {first : Child} (known : catalog.type? owner = some type)
    (found : type.child? child = some first) {loaded : Configuration}
    (grown : Grown declared first.default.blank loaded) (wt : WellTyped declared loaded) :
    Filling declared (catalog.modify owner (·.updateDefault child loaded)) := by
  have same : loaded.blank = first.default.blank := by
    rw [grown.blank_eq, blank_blank]
  refine ⟨h.indexed.modify owner fun _ => rfl, fun name => ?_, fun name t ht c hc => ?_⟩
  · rw [h.indexed.type?_modify]
    split
    · rename_i hname
      rw [h.outline name, hname, known]
      exact congrArg some (ObjectType.blank_updateDefault found same).symm
    · exact h.outline name
  · rcases default_of_modify h.indexed ht hc with hnew | ⟨before, hbefore, hc⟩
    · rw [hnew, same]
      exact ⟨grown, wt⟩
    · exact h.defaults name before hbefore c hc

/-- What holds of a catalog while one default after the other is filled holds at the end. -/
theorem fill_keeps {P : Catalog → Prop} {pending : List PendingChild}
    (sorted : ∀ p ∈ pending, p.tree.Sorted)
    (keeps : ∀ catalog owner child type first tree loaded, P catalog →
      catalog.type? owner = some type → type.child? child = some first → tree.Sorted →
        (first.default.load declared tree).value = .ok loaded →
          P (catalog.modify owner (·.updateDefault child loaded)))
    (h : P catalog) {result : Catalog}
    (done : (fill declared pending catalog).value = .ok result) : P result := by
  induction pending generalizing catalog with
  | nil =>
    rw [fill] at done
    cases done
    exact h
  | cons next rest ih =>
    have others : ∀ p ∈ rest, p.tree.Sorted := fun p hp => sorted p (List.mem_cons_of_mem _ hp)
    rw [fill] at done
    split at done
    · exact ih others h done
    · rename_i first found
      obtain ⟨type, known, found⟩ := Option.bind_eq_some_iff.1 found
      rw [Traced.value_bind] at done
      cases ok : (first.default.load declared next.tree).value with
      | error fault =>
        rw [ok] at done
        cases done
      | ok loaded =>
        rw [ok] at done
        have tree := sorted next List.mem_cons_self
        exact ih others (keeps _ _ _ _ _ _ _ h known found tree ok) done

theorem filling_fill (ground : Grounded declared)
    (defaults : ∀ name type, declared.type? name = some type →
      ∀ c ∈ type.children, WellTyped declared c.default)
    {pending : List PendingChild} (sorted : ∀ p ∈ pending, p.tree.Sorted)
    (h : Filling declared catalog) {result : Catalog}
    (done : (fill declared pending catalog).value = .ok result) : Filling declared result := by
  refine fill_keeps sorted (fun catalog _ _ type first tree loaded h known found treeSorted ok => ?_)
    h done
  obtain ⟨grown, wt⟩ := h.defaults _ _ known first (ObjectType.child?_eq_some found).1
  have wf := SavedTree.wellFormed_ofJson treeSorted
  have after := grown_take ground wf grown ok
  have self := grown.self_of_sameOutline (fun _ => rfl : declared.SameOutline declared)
  have wtAfter := (grown_take ground wf self ok).wellTyped defaults wt
  exact h.modify known found after wtAfter

theorem pending_sorted (sorted : file.Sorted) : ∀ p ∈ file.pending, p.tree.Sorted := by
  intro p hp
  obtain ⟨t, ht, hp⟩ := List.mem_flatMap.1 hp
  obtain ⟨child, hchild, rfl⟩ := List.mem_map.1 hp
  exact sorted.types t ht child (List.mem_of_mem_filter hchild)

theorem catalog_eq_ok_iff : file.catalog.value = .ok catalog ↔
    ∃ declared, file.declare = .ok declared ∧
      (fill declared file.pending declared).value = .ok catalog := by
  unfold ProjectFile.catalog
  cases hdeclared : file.declare with
  | error name => exact iff_of_false (fun done => by cases done) fun ⟨_, h, _⟩ => by cases h
  | ok declared =>
    simp only [Except.ok.injEq, exists_eq_left', Traced.value_bind]
    cases filled : (fill declared file.pending declared).value with
    | error error => exact iff_of_false (fun done => by cases done) fun done => by cases done
    | ok result => exact Iff.rfl

/-- A catalog is filled from the declared types of its file. -/
theorem exists_filling (sorted : file.Sorted) (done : file.catalog.value = .ok catalog) :
    ∃ declared, Filling declared catalog := by
  obtain ⟨declared, hdeclared, filled⟩ := catalog_eq_ok_iff.1 done
  have start := filling_declared hdeclared
  exact ⟨declared, filling_fill (grounded_declared hdeclared)
    (fun name type known c hc => (start.defaults name type known c hc).2)
    (pending_sorted sorted) start filled⟩

/-- The file is read from a text or from a value. -/
def Decoded (file : ProjectFile) : Prop :=
  (∃ text, decoder.fromText text = .ok file) ∨ ∃ value, decoder.fromJson value = .ok file

theorem Decoded.sorted (h : file.Decoded) : file.Sorted := by
  rcases h with ⟨text, read⟩ | ⟨value, read⟩
  · obtain ⟨decoded, hdecoded, read⟩ := Decoder.exists_of_bind_eq_ok read
    split at read
    · cases read
    · cases read
      exact sorted_of_decoder hdecoded
  · exact sorted_of_decoder read

end ProjectFile

namespace Catalog

/-- What the types of a catalog have where it comes from a project. -/
structure Settled (catalog : Catalog) : Prop where
  indexed : catalog.Indexed
  grounded : Grounded catalog
  defaults : ∀ name type, catalog.type? name = some type →
    ∀ c ∈ type.children, WellTyped catalog c.default

theorem settled_of_filling {declared catalog : Catalog}
    (h : ProjectFile.Filling declared catalog) : catalog.Settled :=
  ⟨h.indexed,
    fun name type known c hc => (h.defaults name type known c hc).1.self_of_sameOutline h.outline,
    fun name type known c hc => (h.defaults name type known c hc).2.of_sameOutline h.outline⟩

theorem settled_of_catalogOf {read : Except Fault ProjectFile} {catalog : Catalog}
    (sorted : ∀ file, read = .ok file → file.Sorted)
    (done : (ProjectFile.catalogOf read).value = .ok catalog) : catalog.Settled := by
  cases read with
  | error fault => cases done
  | ok file =>
    obtain ⟨declared, h⟩ := ProjectFile.exists_filling (sorted file rfl) done
    exact settled_of_filling h

theorem Accepted.settled {catalog : Catalog} (h : catalog.Accepted) : catalog.Settled := by
  rcases h with ⟨text, done⟩ | ⟨value, done⟩
  · refine settled_of_catalogOf (fun file read => ?_) done
    exact ProjectFile.Decoded.sorted (Or.inl ⟨text, read⟩)
  · refine settled_of_catalogOf (fun file read => ?_) done
    exact ProjectFile.Decoded.sorted (Or.inr ⟨value, read⟩)

end Catalog

/-- A project with a knight, whose bag holds a coin with a face of its own, and with a banner. -/
def knightProject : Json := .object [("extensions", .array [.object [
  ("eventsBasedObjects", .array [
    .object [("name", .string "Knight"), ("objects", .array [
      .object [
        ("childrenContent", .object [
          ("coin", .object [("content", .object [("face", .string "king.png")])])]),
        ("name", .string "bag"), ("type", .string "Game::Bag")],
      .object [("name", .string "banner"), ("type", .string "Sprite")]])],
    .object [("name", .string "Bag"), ("objects", .array [
      .object [("name", .string "coin"), ("type", .string "Game::Coin")]])],
    .object [("name", .string "Coin"), ("properties", .array [
      .object [("extraInformation", .array [.string "image"]), ("name", .string "face"),
        ("type", .string "resource"), ("value", .string "coin.png")]])]]),
  ("name", .string "Game")]])]

def knightCatalog : Catalog :=
  match (Catalog.ofJson knightProject).value with
  | .ok catalog => catalog
  | .error _ => .empty

theorem exists_of_isOk {ε : Type u} {α : Type v} {result : Except ε α}
    (h : result.isOk = true) : ∃ a, result = .ok a := by
  cases result with
  | error error => cases h
  | ok a => exact ⟨a, rfl⟩

theorem accepted_knightCatalog : knightCatalog.Accepted := by
  refine Or.inr ⟨knightProject, ?_⟩
  have ok : (Catalog.ofJson knightProject).value.isOk = true := by decide +kernel
  obtain ⟨catalog, read⟩ := exists_of_isOk ok
  rw [knightCatalog, read]

end CompositeObjects
