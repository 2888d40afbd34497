import CompositeObjects.Proofs.Reachable
import CompositeObjects.Proofs.Takeover

namespace CompositeObjects.Configuration

variable {catalog : Catalog}

/-- The tree that is loaded into a child of an object of that type. Where the type is not known
there is none. -/
def reached? (catalog : Catalog) (typeName : String) (trees : Table Json) (name : String) :
    Option (Child × Json) :=
  (catalog.type? typeName).bind fun type => assigned? type trees name

theorem reached?_of_known {typeName : String} {type : ObjectType}
    (known : catalog.type? typeName = some type) (trees : Table Json) (name : String) :
    reached? catalog typeName trees name = assigned? type trees name := by
  rw [reached?, known, Option.bind_some]

theorem reached?_of_unknown {typeName : String} (unknown : catalog.type? typeName = none)
    (trees : Table Json) (name : String) : reached? catalog typeName trees name = none := by
  rw [reached?, unknown, Option.bind_none]

/-- How a configuration comes out of a load, as against what the same tree makes of a new one. A
level that the tree reaches is the new one but for the children that it does not name there, and
these are as they were before. -/
inductive Renewed (catalog : Catalog) :
    Json → Configuration → Configuration → Configuration → Prop where
  | verbatim (tree : Json) (typeName : String) (old : Json) :
      Renewed catalog tree (.verbatim typeName old) (.verbatim typeName tree)
        (.verbatim typeName tree)
  | composite {tree : Json} {content trees : Table Json}
      {before anew after : Composite Configuration}
      (parts : tree.parts? = some (content, trees))
      (level : after = { anew with children := after.children })
      (others : ∀ name, reached? catalog before.typeName trees name = none →
        after.child? name = before.child? name)
      (reached : ∀ name p, reached? catalog before.typeName trees name = some p →
        (anew.child? name).isSome ∧ (after.child? name).isSome)
      (renewed : ∀ name declared sub new child,
        reached? catalog before.typeName trees name = some (declared, sub) →
        anew.child? name = some new → after.child? name = some child →
        Renewed catalog sub (startingChild before.children declared) new child) :
      Renewed catalog tree (.composite before) (.composite anew) (.composite after)

/-- Nothing that a load leaves as it was has been made or changed: on each level that the tree
reaches, the children that it does not name are written as those of the base. -/
inductive Untouched (catalog : Catalog) : Json → Configuration → Configuration → Prop where
  | verbatim (tree : Json) (typeName : String) (old new : Json) :
      Untouched catalog tree (.verbatim typeName old) (.verbatim typeName new)
  | composite {tree : Json} {content trees : Table Json} {base before : Composite Configuration}
      (parts : tree.parts? = some (content, trees))
      (others : ∀ name, reached? catalog before.typeName trees name = none →
        (before.child? name).map save = (base.child? name).map save)
      (deeper : ∀ name declared sub,
        reached? catalog before.typeName trees name = some (declared, sub) →
        Untouched catalog sub (startingChild base.children declared)
          (startingChild before.children declared)) :
      Untouched catalog tree (.composite base) (.composite before)

theorem untouched_composite_iff {tree : Json} {content trees : Table Json}
    {base before : Composite Configuration} (parts : tree.parts? = some (content, trees)) :
    Untouched catalog tree (.composite base) (.composite before) ↔
      (∀ name, reached? catalog before.typeName trees name = none →
        (before.child? name).map save = (base.child? name).map save) ∧
      ∀ name declared sub, reached? catalog before.typeName trees name = some (declared, sub) →
        Untouched catalog sub (startingChild base.children declared)
          (startingChild before.children declared) := by
  constructor
  · intro h
    cases h with
    | composite parts' others deeper =>
      rw [parts] at parts'
      cases parts'
      exact ⟨others, deeper⟩
  · rintro ⟨others, deeper⟩
    exact Untouched.composite parts others deeper

/-- Objects that keep nothing aside are written alike where their children are. -/
theorem save_eq_iff_of_children (typeName typeName' : String) (content : Content)
    {children children' : Table Configuration} (sorted : children.Sorted)
    (sorted' : children'.Sorted) :
    (Configuration.composite ⟨typeName, content, children, []⟩).save =
        (Configuration.composite ⟨typeName', content, children', []⟩).save ↔
      ∀ name, (children.get? name).map save = (children'.get? name).map save := by
  rw [save_eq_save_iff typeName children [] ⟨typeName', content, children', []⟩,
    overlay_nil_saveChildren sorted, overlay_nil_saveChildren sorted']
  constructor
  · intro same name
    rw [← get?_saveChildren, same, get?_saveChildren]
  · intro alike
    refine Table.eq_of_get?_eq (sorted_saveChildren sorted) (sorted_saveChildren sorted') ?_
    intro name
    rw [get?_saveChildren, get?_saveChildren, alike]

/-- What a load makes of a child, as against what the same tree makes of the child's base. -/
structure RenewedFrom (catalog : Catalog) (tree : Json) (base before anew after : Configuration) :
    Prop where
  loads : (base.load catalog tree).value = .ok anew
  renewed : Renewed catalog tree before anew after
  shows : after.save = anew.save ↔ Untouched catalog tree base before

theorem renewedFrom_of_unknown {tree : Json} {b node : Composite Configuration}
    {content trees : Table Json} (parts : tree.parts? = some (content, trees))
    (unknown : catalog.type? node.typeName = none) (same : node.typeName = b.typeName)
    (bare : b.children = []) (childless : node.children = []) :
    RenewedFrom catalog tree (.composite b) (.composite node)
      (.composite { b with content := .ofEntries content, parked := trees })
      (.composite { node with content := .ofEntries content, parked := trees }) := by
  have nothing {name : String} {p : Child × Json}
      (reached : reached? catalog node.typeName trees name = some p) : False := by
    rw [reached?_of_unknown unknown] at reached
    cases reached
  have noChildren : node.children = b.children := childless.trans bare.symm
  have level : ({ node with content := .ofEntries content, parked := trees } : Composite _) =
      { b with content := .ofEntries content, parked := trees } := by
    rw [same, noChildren]
  refine ⟨load_of_unresolved parts (same ▸ unknown), ?_, ?_⟩
  · refine Renewed.composite parts ?_ (fun name _ => rfl) (fun name p reached => ?_)
      fun name declared sub new child reached => ?_
    · rw [level]
    · exact (nothing reached).elim
    · exact (nothing reached).elim
  · refine iff_of_true (by rw [level]) ((untouched_composite_iff parts).2 ⟨fun name _ => ?_, ?_⟩)
    · rw [Composite.child?, Composite.child?, noChildren]
    · exact fun name declared sub reached => (nothing reached).elim

theorem renewedFrom_of_known {tree : Json} {b node : Composite Configuration}
    {content trees : Table Json} (parts : tree.parts? = some (content, trees)) {type : ObjectType}
    (known : catalog.type? node.typeName = some type) (same : node.typeName = b.typeName)
    (sortedBase : Table.Sorted b.children) (sorted : Table.Sorted node.children)
    {news children : Table Configuration}
    (takenBase : TakenOver catalog type trees b.children news)
    (taken : TakenOver catalog type trees node.children children)
    (loads : ((Configuration.composite b).load catalog tree).value =
      .ok (.composite { b with content := .ofEntries content, children := news, parked := [] }))
    (below : ∀ name declared sub new child, assigned? type trees name = some (declared, sub) →
      news.get? name = some new → children.get? name = some child →
      RenewedFrom catalog sub (startingChild b.children declared)
        (startingChild node.children declared) new child) :
    RenewedFrom catalog tree (.composite b) (.composite node)
      (.composite { b with content := .ofEntries content, children := news, parked := [] })
      (.composite { node with content := .ofEntries content, children, parked := [] }) := by
  have made {name : String} {p : Child × Json} (h : assigned? type trees name = some p) :
      ∃ new child, news.get? name = some new ∧ children.get? name = some child := by
    obtain ⟨new, hnew, -⟩ := takenBase.loaded name p.1 p.2 h
    obtain ⟨child, hchild, -⟩ := taken.loaded name p.1 p.2 h
    exact ⟨new, child, hnew, hchild⟩
  have reached (name : String) :
      reached? catalog node.typeName trees name = assigned? type trees name :=
    reached?_of_known known trees name
  refine ⟨loads, ?_, ?_⟩
  · refine Renewed.composite parts ?_ (fun name none => ?_) (fun name p some => ?_)
      fun name declared sub new child some hnew hchild => ?_
    · rw [same]
    · rw [reached] at none
      exact taken.others name none
    · rw [reached] at some
      obtain ⟨new, child, hnew, hchild⟩ := made some
      exact ⟨Option.isSome_of_eq_some hnew, Option.isSome_of_eq_some hchild⟩
    · rw [reached] at some
      exact (below name declared sub new child some hnew hchild).renewed
  · rw [save_eq_iff_of_children _ _ _ (taken.sorted sorted) (takenBase.sorted sortedBase),
      untouched_composite_iff parts]
    simp only [reached]
    constructor
    · intro alike
      refine ⟨fun name none => ?_, fun name declared sub some => ?_⟩
      · have here := alike name
        rw [taken.others name none, takenBase.others name none] at here
        exact here
      · obtain ⟨new, child, hnew, hchild⟩ := made some
        have here := alike name
        rw [hnew, hchild] at here
        exact (below name declared sub new child some hnew hchild).shows.1 (Option.some.inj here)
    · rintro ⟨others, deeper⟩ name
      cases h : assigned? type trees name with
      | none =>
        rw [taken.others name h, takenBase.others name h]
        exact others name h
      | some p =>
        obtain ⟨new, child, hnew, hchild⟩ := made h
        have untouched := deeper name p.1 p.2 h
        rw [hnew, hchild]
        exact congrArg some ((below name p.1 p.2 new child h hnew hchild).shows.2 untouched)

/-- A tree that loads into what has grown from a base loads into the base too. -/
theorem exists_renewedFrom (ground : Grounded catalog) {tree : Json} (sorted : tree.Sorted)
    {base c after : Configuration} (h : Grown catalog base c)
    (ok : (c.load catalog tree).value = .ok after) :
    ∃ anew, RenewedFrom catalog tree base c anew after := by
  induction tree using Json.induction_on_children generalizing base c after with
  | step tree ih =>
    cases c with
    | verbatim typeName old =>
      rw [load_verbatim] at ok
      cases ok
      cases h with
      | verbatim typeName start =>
        exact ⟨_, load_verbatim .., .verbatim .., iff_of_true rfl (.verbatim ..)⟩
    | composite node =>
      cases parts : tree.parts? with
      | none =>
        obtain ⟨fault, fails⟩ := load_of_no_parts catalog node parts
        rw [fails] at ok
        cases ok
      | some both =>
        obtain ⟨content, trees⟩ := both
        obtain ⟨sortedTrees, sortedEach⟩ := sorted.children parts
        obtain ⟨b, rfl, -⟩ := h.exists_base
        cases known : catalog.type? node.typeName with
        | none =>
          obtain ⟨same, -, bare, childless⟩ := (grown_composite_iff_of_unknown known).1 h
          rw [load_of_unresolved parts known] at ok
          cases ok
          exact ⟨_, renewedFrom_of_unknown parts known same bare childless⟩
        | some type =>
          obtain ⟨same, -, -, sortedBase, grown⟩ := (grown_composite_iff known).1 h
          obtain ⟨children, rfl, taken⟩ := exists_of_load parts sortedTrees known ok
          -- Below, a child and what it has grown from are what the induction is about.
          have below (name : String) (declared : Child) (sub : Json)
              (assigned : assigned? type trees name = some (declared, sub)) :
              ∃ new child, Table.get? name children = some child ∧
                RenewedFrom catalog sub (startingChild b.children declared)
                  (startingChild node.children declared) new child := by
            obtain ⟨found, there⟩ := assigned?_eq_some_iff.1 assigned
            obtain ⟨child, hchild, loads⟩ := taken.loaded name declared sub assigned
            have he := Table.mem_of_get? there
            have start := grown.start found
              (ground _ _ known declared (ObjectType.child?_eq_some found).1)
            obtain ⟨new, renewed⟩ := ih content trees parts _ he (sortedEach _ he) start loads
            exact ⟨new, child, hchild, renewed⟩
          have knownBase : catalog.type? b.typeName = some type := same ▸ known
          have each (name : String) (declared : Child) (sub : Json)
              (assigned : assigned? type trees name = some (declared, sub)) :
              ∃ new, ((startingChild b.children declared).load catalog sub).value = .ok new := by
            obtain ⟨new, child, -, renewed⟩ := below name declared sub assigned
            exact ⟨new, renewed.loads⟩
          obtain ⟨anew, loads⟩ := exists_load parts sortedTrees knownBase each
          obtain ⟨news, rfl, takenBase⟩ := exists_of_load parts sortedTrees knownBase loads
          refine ⟨_, renewedFrom_of_known parts known same sortedBase grown.sorted takenBase taken
            loads fun name declared sub new child assigned hnew hchild => ?_⟩
          obtain ⟨new', child', hchild', renewed⟩ := below name declared sub assigned
          obtain ⟨new'', hnew'', loads'⟩ := takenBase.loaded name declared sub assigned
          obtain rfl : new'' = new := Option.some.inj (hnew''.symm.trans hnew)
          obtain rfl : child' = child := Option.some.inj (hchild'.symm.trans hchild)
          obtain rfl : new' = new'' := Except.ok.inj (renewed.loads.symm.trans loads')
          exact renewed

/-- A tree that loads into what operations have made loads into a new object of the type. The two
then differ only in children that had been made before and that the tree does not name. They are
written alike exactly where none of these had been made, or changed from its default. -/
theorem load_renews (accepted : catalog.Accepted) {typeName : String} {c : Configuration}
    (run : Reachable catalog (.composite (.fresh typeName)) c) {tree : Json}
    (sorted : tree.Sorted) {after : Configuration} (ok : (c.load catalog tree).value = .ok after) :
    ∃ anew, ((Configuration.composite (.fresh typeName)).load catalog tree).value = .ok anew ∧
      Renewed catalog tree c anew after ∧
      (after.save = anew.save ↔ Untouched catalog tree (.composite (.fresh typeName)) c) := by
  have grown := grown_of_accepted accepted run
  obtain ⟨anew, loads, renewed, shows⟩ := exists_renewedFrom accepted.settled.grounded sorted grown ok
  exact ⟨anew, loads, renewed, shows⟩

/-- A new state for a knight, with a bag, but nothing about the coin in it. -/
def plainBag : Json := .object [("childrenContent", .object [("bag", .object [])])]

theorem load_renews_gildedKnight :
    knightCatalog.Accepted ∧
      Reachable knightCatalog (.composite (.fresh "Game::Knight")) gildedKnight ∧
      plainBag.Sorted ∧ ∃ after anew, (gildedKnight.load knightCatalog plainBag).value = .ok after ∧
        ((Configuration.composite (.fresh "Game::Knight")).load knightCatalog plainBag).value =
          .ok anew ∧
        Renewed knightCatalog plainBag gildedKnight anew after ∧
        (after.save = anew.save ↔
          Untouched knightCatalog plainBag (.composite (.fresh "Game::Knight")) gildedKnight) := by
  have sorted : plainBag.Sorted := by decide
  have loads : (gildedKnight.load knightCatalog plainBag).value.isOk = true := by decide +kernel
  obtain ⟨after, ok⟩ := exists_of_isOk loads
  obtain ⟨anew, loads, renewed, shows⟩ :=
    load_renews accepted_knightCatalog reachable_gildedKnight sorted ok
  exact ⟨accepted_knightCatalog, reachable_gildedKnight, sorted, after, anew, ok, loads, renewed,
    shows⟩

/-- A knight keeps the gilded coin through a load that says nothing about it. -/
theorem save_load_ne_fresh :
    knightCatalog.Accepted ∧
      Reachable knightCatalog (.composite (.fresh "Game::Knight")) gildedKnight ∧
      ∃ after anew, (gildedKnight.load knightCatalog plainBag).value = .ok after ∧
        ((Configuration.composite (.fresh "Game::Knight")).load knightCatalog plainBag).value =
          .ok anew ∧
        after.save ≠ anew.save := by
  have differ : (gildedKnight.load knightCatalog plainBag).value.toOption.map save ≠
      ((Configuration.composite (.fresh "Game::Knight")).load knightCatalog
        plainBag).value.toOption.map save := by
    decide +kernel
  have loads : (gildedKnight.load knightCatalog plainBag).value.isOk = true := by decide +kernel
  have loadsAnew : ((Configuration.composite (.fresh "Game::Knight")).load knightCatalog
      plainBag).value.isOk = true := by
    decide +kernel
  obtain ⟨after, ok⟩ := exists_of_isOk loads
  obtain ⟨anew, okAnew⟩ := exists_of_isOk loadsAnew
  rw [ok, okAnew] at differ
  exact ⟨accepted_knightCatalog, reachable_gildedKnight, after, anew, ok, okAnew,
    fun same => differ (congrArg some same)⟩

end CompositeObjects.Configuration
