import CompositeObjects.Proofs.RoundTrip

namespace CompositeObjects.Configuration

variable {catalog smaller : Catalog}

/-- The children that a configuration has made so far. -/
def made : Configuration → Table Configuration
  | .verbatim .. => []
  | .composite node => node.children

mutual

/-- Nothing of a configuration is hidden by what it is loaded into. Where a type is missing, the
trees of the children are kept aside, behind the children that are there from the start: each of
those has to be written as the child of that name is. Where the type is known, the same holds of
each child. -/
def Unshadowed (catalog : Catalog) : Configuration → Configuration → Prop
  | _, .verbatim .. => True
  | base, .composite ⟨typeName, _, children, _⟩ =>
    match catalog.type? typeName with
    | none => ∀ name start, base.made.get? name = some start →
        ∃ child, Table.get? name children = some child ∧ child.save = start.save
    | some type => UnshadowedChildren catalog type base.made children

def UnshadowedChildren (catalog : Catalog) (type : ObjectType) (base : Table Configuration) :
    List (String × Configuration) → Prop
  | [] => True
  | (name, child) :: rest =>
    (∀ declared, type.child? name = some declared →
        Unshadowed catalog (startingChild base declared) child) ∧
      UnshadowedChildren catalog type base rest

end

theorem unshadowed_of_unknown {base : Configuration} {node : Composite Configuration}
    (unknown : catalog.type? node.typeName = none) :
    Unshadowed catalog base (.composite node) ↔
      ∀ name start, base.made.get? name = some start →
        ∃ child, node.child? name = some child ∧ child.save = start.save := by
  rw [Unshadowed, unknown]
  rfl

theorem unshadowed_of_known {base : Configuration} {node : Composite Configuration}
    {type : ObjectType} (known : catalog.type? node.typeName = some type) :
    Unshadowed catalog base (.composite node) ↔
      UnshadowedChildren catalog type base.made node.children := by
  rw [Unshadowed, known]

/-- Children on top of the trees kept aside change nothing where they are written the same. -/
theorem overlay_saveChildren_eq_iff {base children : Table Configuration} (sortedBase : base.Sorted)
    (sorted : children.Sorted) :
    Table.overlay (saveChildren children) (saveChildren base) = saveChildren children ↔
      ∀ name start, base.get? name = some start →
        ∃ child, children.get? name = some child ∧ child.save = start.save := by
  have shown (name : String) :
      Table.get? name (Table.overlay (saveChildren children) (saveChildren base)) =
        ((base.get? name).map save).or ((children.get? name).map save) := by
    rw [Table.get?_overlay _ (sorted_saveChildren sortedBase), get?_saveChildren, get?_saveChildren]
  constructor
  · intro same name start begins
    have written := shown name
    rw [same, get?_saveChildren, begins] at written
    exact Option.map_eq_some_iff.1 written
  · intro alike
    have sortedTrees := sorted_saveChildren sorted
    refine Table.eq_of_get?_eq (Table.sorted_overlay sortedTrees _) sortedTrees fun name => ?_
    rw [shown, get?_saveChildren]
    cases begins : base.get? name with
    | none => simp
    | some start =>
      obtain ⟨child, found, same⟩ := alike name start begins
      simp [found, same]

/-- A child comes back and is written as before exactly where nothing of it is hidden. -/
def Returns (catalog : Catalog) (type : ObjectType) (base : Table Configuration)
    (e m : String × Configuration) : Prop :=
  ComesBack catalog type base e m ∧ ∀ declared, type.child? e.1 = some declared →
    (m.2.save = e.2.save ↔ Unshadowed catalog (startingChild base declared) e.2)

theorem exists_returns {type : ObjectType} {base : Table Configuration}
    {children : List (String × Configuration)}
    (each : ∀ e ∈ children, ∃ m, Returns catalog type base e m) :
    ∃ others, List.Forall₂ (Returns catalog type base) children others := by
  induction children with
  | nil => exact ⟨[], List.Forall₂.nil⟩
  | cons e rest ih =>
    obtain ⟨m, first⟩ := each e List.mem_cons_self
    obtain ⟨others, hothers⟩ := ih fun d hd => each d (List.mem_cons_of_mem _ hd)
    exact ⟨m :: others, List.Forall₂.cons first hothers⟩

theorem saveChildren_eq_iff_of_returns {type : ObjectType} {base : Table Configuration}
    {children others : List (String × Configuration)}
    (h : List.Forall₂ (Returns catalog type base) children others) :
    saveChildren others = saveChildren children ↔
      UnshadowedChildren catalog type base children := by
  induction h with
  | nil => simp [saveChildren, UnshadowedChildren]
  | @cons e m rest others first _ ih =>
    obtain ⟨⟨hname, declared, found, -⟩, alike⟩ := first
    have only : (∀ d, type.child? e.1 = some d →
        Unshadowed catalog (startingChild base d) e.2) ↔
        Unshadowed catalog (startingChild base declared) e.2 := by
      simp [found]
    rw [saveChildren, saveChildren, UnshadowedChildren, only, ← ih, ← alike declared found, ← hname]
    simp

/-- With fewer types known, a saved configuration can still be loaded into what it has grown from,
and it is written as before exactly where nothing of it is hidden. -/
theorem exists_load_save (fewer : ∀ name type, smaller.type? name = some type →
      catalog.type? name = some type)
    {base c : Configuration} (h : Grown catalog base c) :
    ∃ loaded, (base.load smaller c.save).value = .ok loaded ∧
      (loaded.save = c.save ↔ Unshadowed smaller base c) := by
  induction h with
  | verbatim typeName old new =>
    exact ⟨.verbatim typeName new, take_verbatim .., by simp [Unshadowed]⟩
  | @unresolved base node same unknown content bare childless =>
    have missing : smaller.type? base.typeName = none := by
      cases found : smaller.type? base.typeName with
      | none => rfl
      | some type =>
        rw [fewer _ _ found] at unknown
        cases unknown
    refine ⟨_, load_of_unknown missing content, ?_⟩
    rw [save_eq_save_iff, unshadowed_of_unknown (same ▸ missing), made, bare]
    refine iff_of_true rfl fun name start begins => ?_
    cases begins
  | @resolved base node type same known content unparked sortedBase sorted kept declared _ ih =>
    have trees := overlay_nil_saveChildren sorted
    cases found : smaller.type? base.typeName with
    | none =>
      -- The trees of the children are kept aside, behind the children that the base has.
      refine ⟨_, load_of_unknown found content, ?_⟩
      rw [save_eq_save_iff, unparked, trees, overlay_saveChildren_eq_iff sortedBase sorted,
        unshadowed_of_unknown (same ▸ found)]
      rfl
    | some other =>
      obtain rfl : other = type := by
        rw [fewer _ _ found] at known
        exact Option.some.inj known
      have each : ∀ e ∈ node.children, ∃ m, Returns smaller other base.children e m := by
        intro e he
        have made : node.child? e.1 = some e.2 :=
          Table.get?_of_mem (Table.nodup_of_sorted sorted) he
        obtain ⟨d, hd⟩ := declared _ _ made
        obtain ⟨loaded, ok, alike⟩ := ih _ _ d made hd
        refine ⟨(e.1, loaded), ⟨rfl, d, hd, ok⟩, fun d' hd' => ?_⟩
        rw [hd] at hd'
        cases hd'
        exact alike
      -- Each child comes back by itself; what all of them look like decides about the whole.
      obtain ⟨others, returns⟩ := exists_returns each
      have back := returns.imp fun _ _ h => h.1
      have treesBack := overlay_nil_saveChildren (sorted_of_comesBack back sorted)
      refine ⟨_, load_of_comesBack found content unparked sortedBase sorted kept back, ?_⟩
      rw [save_eq_save_iff, unparked, trees, treesBack, unshadowed_of_known (same ▸ found)]
      exact saveChildren_eq_iff_of_returns returns

/-- A configuration that operations have made is saved, and loaded again when any types have been
taken out of the project. That never fails, and what is then saved is the same exactly where no tree
that is kept aside is hidden by a child that its parent's default came with. -/
theorem save_load_iff_of_removed (accepted : catalog.Accepted) {typeName : String}
    {c : Configuration} (run : Reachable catalog (.composite (.fresh typeName)) c)
    (removed : catalog.Removed smaller) :
    ∃ loaded, (load smaller (.composite (.fresh typeName)) c.save).value = .ok loaded ∧
      (loaded.save = c.save ↔ Unshadowed smaller (.composite (.fresh typeName)) c) :=
  exists_load_save (removed.type? accepted.settled.indexed).2 (grown_of_accepted accepted run)

/-- The catalog of knights from which the type of their bags has been taken out. -/
def baglessCatalog : Catalog :=
  ((knightCatalog.remove "Game::Bag").map (·.2)).getD knightCatalog

theorem removed_baglessCatalog : knightCatalog.Removed baglessCatalog := by
  cases h : knightCatalog.remove "Game::Bag" with
  | none =>
    rw [baglessCatalog, h]
    exact Relation.ReflTransGen.refl
  | some found =>
    rw [baglessCatalog, h]
    exact Relation.ReflTransGen.single ⟨"Game::Bag", found.1, h⟩

theorem save_load_iff_gildedKnight :
    knightCatalog.Accepted ∧
      Reachable knightCatalog (.composite (.fresh "Game::Knight")) gildedKnight ∧
      knightCatalog.Removed baglessCatalog ∧
      ∃ loaded, (load baglessCatalog (.composite (.fresh "Game::Knight")) gildedKnight.save).value =
          .ok loaded ∧
        (loaded.save = gildedKnight.save ↔
          Unshadowed baglessCatalog (.composite (.fresh "Game::Knight")) gildedKnight) :=
  ⟨accepted_knightCatalog, reachable_gildedKnight, removed_baglessCatalog,
    save_load_iff_of_removed accepted_knightCatalog reachable_gildedKnight removed_baglessCatalog⟩

/-- Without the type of the bag, the coin that the knight's bag comes with hides the gilded one. -/
theorem save_load_ne_gildedKnight :
    knightCatalog.Accepted ∧
      Reachable knightCatalog (.composite (.fresh "Game::Knight")) gildedKnight ∧
      knightCatalog.Removed baglessCatalog ∧
      ∃ loaded, (load baglessCatalog (.composite (.fresh "Game::Knight")) gildedKnight.save).value =
          .ok loaded ∧
        loaded.save ≠ gildedKnight.save := by
  have fewer := (removed_baglessCatalog.type? accepted_knightCatalog.settled.indexed).2
  have grown := grown_of_accepted accepted_knightCatalog reachable_gildedKnight
  obtain ⟨loaded, ok, -⟩ := exists_load_save fewer grown
  have lost : (load baglessCatalog (.composite (.fresh "Game::Knight"))
      gildedKnight.save).value.toOption.map save ≠ some gildedKnight.save := by
    decide +kernel
  refine ⟨accepted_knightCatalog, reachable_gildedKnight, removed_baglessCatalog, loaded, ok, ?_⟩
  intro same
  rw [ok] at lost
  exact lost (congrArg some same)

end CompositeObjects.Configuration
