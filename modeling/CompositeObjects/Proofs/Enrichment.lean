import CompositeObjects.Proofs.Defaults
import CompositeObjects.Proofs.Renewal

namespace CompositeObjects

namespace Configuration

variable {declared catalog : Catalog}

/-- How a configuration comes out of a load, as against what the same tree makes where nothing has
been made before. On each level that the tree reaches it is the bare one, which has no children but
those that the tree names; any other child that it started from it still has, as it was. -/
inductive Enriched (catalog : Catalog) :
    Json → Configuration → Configuration → Configuration → Prop where
  | verbatim (tree : Json) (typeName : String) (old : Json) :
      Enriched catalog tree (.verbatim typeName old) (.verbatim typeName tree)
        (.verbatim typeName tree)
  | composite {tree : Json} {content trees : Table Json}
      {start bare loaded : Composite Configuration}
      (parts : tree.parts? = some (content, trees))
      (level : loaded = { bare with children := loaded.children })
      (others : ∀ name, reached? catalog start.typeName trees name = none →
        bare.child? name = none ∧ loaded.child? name = start.child? name)
      (reached : ∀ name p, reached? catalog start.typeName trees name = some p →
        (bare.child? name).isSome ∧ (loaded.child? name).isSome)
      (enriched : ∀ name declared sub b child,
        reached? catalog start.typeName trees name = some (declared, sub) →
        bare.child? name = some b → loaded.child? name = some child →
        Enriched catalog sub (startingChild start.children declared) b child) :
      Enriched catalog tree (.composite start) (.composite bare) (.composite loaded)

/-- A tree names all children that are there to start from, on each level that it reaches. -/
inductive Covered (catalog : Catalog) : Json → Configuration → Prop where
  | verbatim (tree : Json) (typeName : String) (old : Json) :
      Covered catalog tree (.verbatim typeName old)
  | composite {tree : Json} {content trees : Table Json} {start : Composite Configuration}
      (parts : tree.parts? = some (content, trees))
      (others : ∀ name, reached? catalog start.typeName trees name = none →
        start.child? name = none)
      (deeper : ∀ name declared sub,
        reached? catalog start.typeName trees name = some (declared, sub) →
        Covered catalog sub (startingChild start.children declared)) :
      Covered catalog tree (.composite start)

theorem covered_composite_iff {tree : Json} {content trees : Table Json}
    {start : Composite Configuration} (parts : tree.parts? = some (content, trees)) :
    Covered catalog tree (.composite start) ↔
      (∀ name, reached? catalog start.typeName trees name = none → start.child? name = none) ∧
      ∀ name declared sub, reached? catalog start.typeName trees name = some (declared, sub) →
        Covered catalog sub (startingChild start.children declared) := by
  constructor
  · intro h
    cases h with
    | composite parts' others deeper =>
      rw [parts] at parts'
      cases parts'
      exact ⟨others, deeper⟩
  · rintro ⟨others, deeper⟩
    exact Covered.composite parts others deeper

/-- Nothing has been made of an object, as of a child when it is declared. -/
def Unmade : Configuration → Prop
  | .verbatim .. => True
  | .composite node => node = .fresh node.typeName

/-- What a load makes of a configuration, as against a load of the same tree into an unmade one. -/
structure EnrichedFrom (catalog : Catalog) (tree : Json) (start bare loaded : Configuration) :
    Prop where
  loads : (start.load catalog tree).value = .ok loaded
  enriched : Enriched catalog tree start bare loaded
  same : loaded = bare ↔ Covered catalog tree start

theorem enrichedFrom_of_unknown {tree : Json} {node : Composite Configuration}
    {content trees : Table Json} (parts : tree.parts? = some (content, trees))
    (unknown : catalog.type? node.typeName = none) (childless : node.children = []) :
    EnrichedFrom catalog tree (.composite node)
      (.composite ⟨node.typeName, .ofEntries content, [], trees⟩)
      (.composite { node with content := .ofEntries content, parked := trees }) := by
  have nothing {name : String} {p : Child × Json}
      (reached : reached? catalog node.typeName trees name = some p) : False := by
    rw [reached?_of_unknown unknown] at reached
    cases reached
  have noChild (name : String) : node.child? name = none := by
    rw [Composite.child?, childless]
    rfl
  refine ⟨load_of_unresolved parts unknown, ?_, ?_⟩
  · apply Enriched.composite parts rfl
    · intro name _
      exact ⟨rfl, rfl⟩
    · intro name p reached
      exact (nothing reached).elim
    · intro name declared sub b child reached
      exact (nothing reached).elim
  · refine iff_of_true (by rw [childless]) ((covered_composite_iff parts).2 ⟨?_, ?_⟩)
    · intro name _
      exact noChild name
    · intro name declared sub reached
      exact (nothing reached).elim

theorem enrichedFrom_of_known {tree : Json} {node : Composite Configuration}
    {content trees : Table Json} (parts : tree.parts? = some (content, trees))
    {type outline : ObjectType} (known : catalog.type? node.typeName = some type)
    (reads : ∀ name, assigned? outline trees name = none ↔ assigned? type trees name = none)
    (sorted : Table.Sorted node.children) {bares children : Table Configuration}
    (takenBare : TakenOver declared outline trees [] bares)
    (taken : TakenOver catalog type trees node.children children)
    (loads : ((Configuration.composite node).load catalog tree).value =
      .ok (.composite { node with content := .ofEntries content, children, parked := [] }))
    (below : ∀ name declared sub b child, assigned? type trees name = some (declared, sub) →
      bares.get? name = some b → children.get? name = some child →
      EnrichedFrom catalog sub (startingChild node.children declared) b child) :
    EnrichedFrom catalog tree (.composite node)
      (.composite ⟨node.typeName, .ofEntries content, bares, []⟩)
      (.composite { node with content := .ofEntries content, children, parked := [] }) := by
  have reached (name : String) :
      reached? catalog node.typeName trees name = assigned? type trees name :=
    reached?_of_known known trees name
  have bareOthers (name : String) (none : assigned? type trees name = none) :
      bares.get? name = .none := takenBare.others name ((reads name).2 none)
  have made {name : String} {p : Child × Json} (h : assigned? type trees name = some p) :
      ∃ b child, bares.get? name = some b ∧ children.get? name = some child := by
    obtain ⟨child, hchild, -⟩ := taken.loaded name p.1 p.2 h
    cases read : assigned? outline trees name with
    | none =>
      rw [(reads name).1 read] at h
      cases h
    | some q =>
      obtain ⟨b, hb, -⟩ := takenBare.loaded name q.1 q.2 read
      exact ⟨b, child, hb, hchild⟩
  refine ⟨loads, ?_, ?_⟩
  · apply Enriched.composite parts rfl
    · intro name none
      rw [reached] at none
      exact ⟨bareOthers name none, taken.others name none⟩
    · intro name p some
      rw [reached] at some
      obtain ⟨b, child, hb, hchild⟩ := made some
      exact ⟨Option.isSome_of_eq_some hb, Option.isSome_of_eq_some hchild⟩
    · intro name declared sub b child some hb hchild
      rw [reached] at some
      exact (below name declared sub b child some hb hchild).enriched
  · rw [covered_composite_iff parts]
    simp only [reached]
    have level : Configuration.composite
          { node with content := .ofEntries content, children, parked := [] } =
        .composite ⟨node.typeName, .ofEntries content, bares, []⟩ ↔ children = bares := by
      simp
    rw [level]
    constructor
    · rintro rfl
      constructor
      · intro name none
        exact (taken.others name none).symm.trans (bareOthers name none)
      · intro name declared sub some
        obtain ⟨b, child, hb, hchild⟩ := made some
        obtain rfl : b = child := Option.some.inj (hb.symm.trans hchild)
        exact (below name declared sub b b some hb hchild).same.1 rfl
    · rintro ⟨others, deeper⟩
      refine Table.eq_of_get?_eq (taken.sorted sorted) (takenBare.sorted Table.sorted_nil) ?_
      intro name
      cases h : assigned? type trees name with
      | none =>
        rw [taken.others name h, bareOthers name h]
        exact others name h
      | some p =>
        obtain ⟨b, child, hb, hchild⟩ := made h
        have covered := deeper name p.1 p.2 h
        rw [hb, hchild, (below name p.1 p.2 b child h hb hchild).same.2 covered]

/-- Two outlines of a type that are the same read the same trees. -/
theorem exists_assigned?_of_blank_eq {type outline : ObjectType} (same : outline.blank = type.blank)
    {trees : Table Json} {name : String} {child : Child} {sub : Json}
    (h : assigned? type trees name = some (child, sub)) :
    ∃ other, assigned? outline trees name = some (other, sub) ∧
      other.default.blank = child.default.blank := by
  obtain ⟨found, there⟩ := assigned?_eq_some_iff.1 h
  obtain ⟨other, hother, kind⟩ := ObjectType.exists_child?_of_blank_eq same.symm found
  exact ⟨other, assigned?_eq_some_iff.2 ⟨hother, there⟩, kind⟩

theorem assigned?_eq_none_iff_of_blank_eq {type outline : ObjectType}
    (same : outline.blank = type.blank) (trees : Table Json) (name : String) :
    assigned? outline trees name = none ↔ assigned? type trees name = none := by
  constructor
  · intro none
    cases h : assigned? type trees name with
    | none => rfl
    | some p =>
      obtain ⟨other, read, -⟩ := exists_assigned?_of_blank_eq same h
      rw [none] at read
      cases read
  · intro none
    cases h : assigned? outline trees name with
    | none => rfl
    | some p =>
      obtain ⟨other, read, -⟩ := exists_assigned?_of_blank_eq same.symm h
      rw [none] at read
      cases read

/-- An object of a known type loads a tree where each child that the tree names loads its own. -/
theorem exists_enriched_of_known {tree : Json} {node : Composite Configuration}
    {content trees : Table Json} (parts : tree.parts? = some (content, trees))
    (sortedTrees : trees.Sorted) {type outline : ObjectType}
    (known : catalog.type? node.typeName = some type) (blanks : outline.blank = type.blank)
    (sorted : Table.Sorted node.children) {bares : Table Configuration}
    (takenBare : TakenOver declared outline trees [] bares)
    (below : ∀ name child sub, assigned? type trees name = some (child, sub) →
      ∃ b loaded, bares.get? name = some b ∧
        EnrichedFrom catalog sub (startingChild node.children child) b loaded) :
    ∃ loaded, EnrichedFrom catalog tree (.composite node)
      (.composite ⟨node.typeName, .ofEntries content, bares, []⟩) loaded := by
  have each (name : String) (child : Child) (sub : Json)
      (assigned : assigned? type trees name = some (child, sub)) :
      ∃ loaded, ((startingChild node.children child).load catalog sub).value = .ok loaded := by
    obtain ⟨b, loaded, -, enriched⟩ := below name child sub assigned
    exact ⟨loaded, enriched.loads⟩
  obtain ⟨after, loads⟩ := exists_load parts sortedTrees known each
  obtain ⟨made, rfl, taken⟩ := exists_of_load parts sortedTrees known loads
  refine ⟨_, enrichedFrom_of_known parts known (assigned?_eq_none_iff_of_blank_eq blanks trees)
    sorted takenBare taken loads fun name child sub b loaded assigned hb hloaded => ?_⟩
  obtain ⟨b', loaded', hb', enriched⟩ := below name child sub assigned
  obtain ⟨loaded'', there, loads'⟩ := taken.loaded name child sub assigned
  obtain rfl : b' = b := Option.some.inj (hb'.symm.trans hb)
  obtain rfl : loaded'' = loaded := Option.some.inj (there.symm.trans hloaded)
  obtain rfl : loaded' = loaded'' := Except.ok.inj (enriched.loads.symm.trans loads')
  exact enriched

/-- A tree that loads into an unmade configuration where all declared defaults are unmade loads also
where they are not, into what is of the same kind. -/
theorem exists_enriched (unmade : ∀ name type, declared.type? name = some type →
      ∀ c ∈ type.children, Unmade c.default)
    (outline : catalog.SameOutline declared) (settled : catalog.Settled)
    {tree : Json} (sorted : tree.Sorted) {empty start bare : Configuration} (h : Unmade empty)
    (kind : start.blank = empty.blank) (grown : Grown catalog start start)
    (wt : WellTyped catalog start) (ok : (empty.load declared tree).value = .ok bare) :
    ∃ loaded, EnrichedFrom catalog tree start bare loaded := by
  induction tree using Json.induction_on_children generalizing empty start bare with
  | step tree ih =>
    cases start with
    | verbatim typeName old =>
      cases empty with
      | composite e => cases kind
      | verbatim typeName' old' =>
        obtain rfl : typeName = typeName' := congrArg Configuration.typeName kind
        rw [load_verbatim] at ok
        cases ok
        exact ⟨_, load_verbatim .., .verbatim .., iff_of_true rfl (.verbatim ..)⟩
    | composite node =>
      obtain rfl : empty = .composite (.fresh node.typeName) := by
        cases empty with
        | verbatim typeName old => cases kind
        | composite e =>
          have sameName : node.typeName = e.typeName := congrArg Configuration.typeName kind
          rw [sameName]
          exact congrArg Configuration.composite h
      cases parts : tree.parts? with
      | none =>
        obtain ⟨fault, fails⟩ := load_of_no_parts declared (.fresh node.typeName) parts
        rw [fails] at ok
        cases ok
      | some both =>
        obtain ⟨content, trees⟩ := both
        obtain ⟨sortedTrees, sortedEach⟩ := sorted.children parts
        cases known : catalog.type? node.typeName with
        | none =>
          have unknown : declared.type? (Composite.fresh node.typeName).typeName = none :=
            outline.type?_eq_none known
          rw [load_of_unresolved parts unknown] at ok
          cases ok
          obtain ⟨-, -, -, childless⟩ := (grown_composite_iff_of_unknown known).1 grown
          exact ⟨_, enrichedFrom_of_unknown parts known childless⟩
        | some type =>
          obtain ⟨other, knownBare, blanks⟩ := outline.exists_type? known
          have knownFresh : declared.type? (Composite.fresh node.typeName).typeName = some other :=
            knownBare
          obtain ⟨bares, rfl, takenBare⟩ := exists_of_load parts sortedTrees knownFresh ok
          obtain ⟨-, -, -, sortedChildren, children⟩ := (grown_composite_iff known).1 grown
          refine exists_enriched_of_known parts sortedTrees known blanks.symm sortedChildren
            takenBare fun name child sub assigned => ?_
          -- A child starts in both from something of one kind, and unmade in the one.
          obtain ⟨child', read, kinds⟩ := exists_assigned?_of_blank_eq blanks.symm assigned
          obtain ⟨b, hb, loads⟩ := takenBare.loaded name child' sub read
          obtain ⟨found, there⟩ := assigned?_eq_some_iff.1 assigned
          have he := Table.mem_of_get? there
          have hc := (ObjectType.child?_eq_some found).1
          have hc' := (ObjectType.child?_eq_some (assigned?_eq_some_iff.1 read).1).1
          have begins := children.start found (settled.grounded _ _ known child hc)
          obtain ⟨typed, blank⟩ := wt.start known found (settled.defaults _ _ known child hc)
          obtain ⟨loaded, enriched⟩ := ih content trees parts _ he (sortedEach _ he)
            (unmade _ _ knownBare child' hc') (blank.trans kinds.symm) begins typed loads
          exact ⟨b, loaded, hb, enriched⟩

end Configuration

namespace ProjectFile

open CompositeObjects.Configuration

variable {file : ProjectFile} {declared catalog : Catalog}

theorem unmade_declared (ok : file.declare = .ok declared) {name : String} {type : ObjectType}
    (known : declared.type? name = some type) {c : Child} (hc : c ∈ type.children) :
    Unmade c.default := by
  obtain ⟨entry, rfl⟩ := exists_of_declared_child ok known hc
  unfold declareChild
  dsimp only
  split
  · exact rfl
  · exact trivial

/-- The tree of a composite child also loads into a new object of the project that the file makes.
The default that the project keeps for the child is what comes out of this but for children that
defaults further down start with and that the tree does not name. The two are the same exactly where
there are none of these. -/
theorem default_enriched (decoded : file.Decoded) (ok : file.catalog.value = .ok catalog)
    {t : String × TypeEntry} (ht : t ∈ file.types)
    (distinct : (t.2.children.map ChildEntry.name).Nodup) {c : ChildEntry}
    (hc : c ∈ t.2.children) (composite : c.typeName ∈ file.typeNames) :
    ∃ type child loaded, catalog.type? (qualifiedName t.1 t.2.name) = some type ∧
      type.child? c.name = some child ∧
      ((Configuration.composite (.fresh c.typeName)).load catalog (.object c.tree)).value =
        .ok loaded ∧
      Enriched catalog (.object c.tree) (.composite (.fresh c.typeName)) child.default loaded ∧
      (loaded = child.default ↔
        Covered catalog (.object c.tree) (.composite (.fresh c.typeName))) := by
  obtain ⟨declared, hdeclared, filled⟩ := catalog_eq_ok_iff.1 ok
  have start := filling_declared hdeclared
  have filling := filling_fill (grounded_declared hdeclared)
    (fun name type known c hc => (start.defaults name type known c hc).2)
    (pending_sorted decoded.sorted) start filled
  obtain ⟨type, child, known, found, loads⟩ :=
    exists_default hdeclared filled ht distinct hc composite
  have outline : catalog.SameOutline declared := fun name => (filling.outline name).symm
  have sorted : (Json.object c.tree).Sorted := decoded.sorted.types t ht c hc
  have empty : Unmade (.composite (.fresh c.typeName)) := rfl
  obtain ⟨loaded, enriched⟩ := exists_enriched
    (fun name type known c hc => unmade_declared hdeclared known hc) outline
    (Catalog.settled_of_filling filling) sorted empty rfl (grown_fresh catalog c.typeName)
    (wellTyped_fresh catalog c.typeName) loads
  exact ⟨type, child, loaded, known, found, enriched.loads, enriched.enriched, enriched.same⟩

/-- A knight's bag comes with a plain coin, while the coin of any other bag comes with a stamp. -/
def stampProject : Json := .object [("extensions", .array [.object [
  ("eventsBasedObjects", .array [
    .object [("name", .string "Knight"), ("objects", .array [.object [
      ("childrenContent", .object [("coin", .object [])]),
      ("name", .string "bag"), ("type", .string "Game::Bag")]])],
    .object [("name", .string "Bag"), ("objects", .array [.object [
      ("childrenContent", .object [
        ("stamp", .object [("content", .object [("year", .string "900")])])]),
      ("name", .string "coin"), ("type", .string "Game::Coin")]])],
    .object [("name", .string "Coin"), ("objects", .array [
      .object [("name", .string "stamp"), ("type", .string "Game::Stamp")]])],
    .object [("name", .string "Stamp"), ("properties", .array [.object [
      ("name", .string "year"), ("type", .string "Number"), ("value", .string "800")]])]]),
  ("name", .string "Game")]])]

def bagEntry : ChildEntry :=
  ⟨"bag", "Game::Bag", [("childrenContent", .object [("coin", .object [])])]⟩

def knightEntry : TypeEntry := ⟨"Knight", "", [], [bagEntry], []⟩

def stampFile : ProjectFile := ⟨[⟨"Game", [
  knightEntry,
  ⟨"Bag", "", [], [⟨"coin", "Game::Coin", [("childrenContent", .object [
    ("stamp", .object [("content", .object [("year", .string "900")])])])]⟩], []⟩,
  ⟨"Coin", "", [], [⟨"stamp", "Game::Stamp", []⟩], []⟩,
  ⟨"Stamp", "", [{ name := "year", type := .number, value := "800" }], [], []⟩]⟩]⟩

def stampCatalog : Catalog :=
  match stampFile.catalog.value with
  | .ok catalog => catalog
  | .error _ => .empty

theorem decoded_stampFile : stampFile.Decoded :=
  Or.inr ⟨stampProject, by decide +kernel⟩

theorem catalog_stampFile : stampFile.catalog.value = .ok stampCatalog := by
  have ok : stampFile.catalog.value.isOk = true := by decide +kernel
  obtain ⟨catalog, made⟩ := exists_of_isOk ok
  rw [stampCatalog, made]

theorem default_enriched_bag :
    stampFile.Decoded ∧ ("Game", knightEntry) ∈ stampFile.types ∧
      (knightEntry.children.map ChildEntry.name).Nodup ∧ bagEntry ∈ knightEntry.children ∧
      "Game::Bag" ∈ stampFile.typeNames ∧
      ∃ type child loaded, stampCatalog.type? "Game::Knight" = some type ∧
        type.child? "bag" = some child ∧
        ((Configuration.composite (.fresh "Game::Bag")).load stampCatalog
          (.object bagEntry.tree)).value = .ok loaded ∧
        Enriched stampCatalog (.object bagEntry.tree) (.composite (.fresh "Game::Bag"))
          child.default loaded := by
  have ht : ("Game", knightEntry) ∈ stampFile.types := List.mem_cons_self ..
  have distinct : (knightEntry.children.map ChildEntry.name).Nodup := by decide
  have hc : bagEntry ∈ knightEntry.children := List.mem_cons_self ..
  have composite : bagEntry.typeName ∈ stampFile.typeNames := by decide +kernel
  obtain ⟨type, child, loaded, known, found, loads, enriched, -⟩ :=
    default_enriched decoded_stampFile catalog_stampFile ht distinct hc composite
  exact ⟨decoded_stampFile, ht, distinct, hc, composite, type, child, loaded, known, found, loads,
    enriched⟩

/-- The knight's coin has no stamp, and a coin of the same tree in a new bag has one. -/
theorem default_ne_load_bag :
    stampFile.Decoded ∧ stampFile.catalog.value = .ok stampCatalog ∧
      (∀ t ∈ stampFile.types, (t.2.children.map ChildEntry.name).Nodup) ∧
      ("Game", knightEntry) ∈ stampFile.types ∧ bagEntry ∈ knightEntry.children ∧
      bagEntry.typeName ∈ stampFile.typeNames ∧
      ∃ type child loaded, stampCatalog.type? "Game::Knight" = some type ∧
        type.child? bagEntry.name = some child ∧
        ((Configuration.composite (.fresh bagEntry.typeName)).load stampCatalog
          (.object bagEntry.tree)).value = .ok loaded ∧
        child.default ≠ loaded := by
  have there : ((stampCatalog.type? "Game::Knight").bind (·.child? bagEntry.name)).isSome := by
    decide +kernel
  have loads : ((Configuration.composite (.fresh bagEntry.typeName)).load stampCatalog
      (.object bagEntry.tree)).value.isOk = true := by
    decide +kernel
  have differ : ((stampCatalog.type? "Game::Knight").bind (·.child? bagEntry.name)).map
        (·.default.save) ≠
      ((Configuration.composite (.fresh bagEntry.typeName)).load stampCatalog
        (.object bagEntry.tree)).value.toOption.map save := by
    decide +kernel
  obtain ⟨child, there⟩ := Option.isSome_iff_exists.1 there
  obtain ⟨type, known, found⟩ := Option.bind_eq_some_iff.1 there
  obtain ⟨loaded, ok⟩ := exists_of_isOk loads
  rw [there, ok] at differ
  refine ⟨decoded_stampFile, catalog_stampFile, by decide +kernel, List.mem_cons_self ..,
    List.mem_cons_self .., by decide +kernel, type, child, loaded, known, found, ok, ?_⟩
  intro same
  exact differ (congrArg (fun c : Configuration => some c.save) same)

end ProjectFile
end CompositeObjects
