import CompositeObjects.Proofs.MissingTypes
import CompositeObjects.Proofs.Ordered

namespace CompositeObjects.Configuration

variable {catalog : Catalog} {type : ObjectType} {trees : Table Json}
  {before after later : Table Configuration}

/-- A child that has taken over its tree is what the next tree for it is loaded into. -/
theorem TakenOver.start_again (taken : TakenOver catalog type trees before after) {name : String}
    {declared : Child} {sub : Json} (assigned : assigned? type trees name = some (declared, sub)) :
    after.get? name = some (startingChild after declared) ∧
      ((startingChild before declared).load catalog sub).value =
        .ok (startingChild after declared) := by
  obtain ⟨found, -⟩ := assigned?_eq_some_iff.1 assigned
  obtain ⟨child, made, loads⟩ := taken.loaded name declared sub assigned
  have begins : startingChild after declared = child := by
    rw [startingChild_of_child? found, made, Option.getD_some]
  rw [begins]
  exact ⟨made, loads⟩

/-- Children that take over the same trees again stay as they are, where each of them does. -/
theorem TakenOver.eq_of_again (taken : TakenOver catalog type trees before after)
    (again : TakenOver catalog type trees after later) (sorted : before.Sorted)
    (each : ∀ name declared sub, assigned? type trees name = some (declared, sub) →
      ((startingChild after declared).load catalog sub).value =
        .ok (startingChild after declared)) : later = after := by
  have sortedAfter := taken.sorted sorted
  refine Table.eq_of_get?_eq (again.sorted sortedAfter) sortedAfter fun name => ?_
  cases assigned : assigned? type trees name with
  | none => exact again.others name assigned
  | some p =>
    obtain ⟨declared, sub⟩ := p
    obtain ⟨made, -⟩ := taken.start_again assigned
    obtain ⟨child, madeAgain, loads⟩ := again.loaded name declared sub assigned
    have same := each name declared sub assigned
    rw [loads] at same
    rw [made, madeAgain, Except.ok.inj same]

/-- A tree that has been loaded can be loaded once more, and nothing changes by it, whatever the
configuration was before. -/
theorem load_again (ordered : catalog.Ordered) {tree : Json} (sorted : tree.Sorted)
    {c loaded : Configuration} (h : c.Ordered) (ok : (c.load catalog tree).value = .ok loaded) :
    (loaded.load catalog tree).value = .ok loaded := by
  -- The first load may make a child of its default, which the second one finds made.
  induction tree using Json.induction_on_children generalizing c loaded with
  | step tree ih =>
    cases c with
    | verbatim typeName old =>
      rw [load_verbatim] at ok
      cases ok
      exact load_verbatim ..
    | composite node =>
      obtain ⟨content, trees, parts, ⟨unknown, rfl⟩ | ⟨type, children, known, done, rfl⟩⟩ :=
        load_eq_ok ok
      · have unknownLoaded : catalog.type? ({ node with
            content := .ofEntries content, parked := trees } : Composite _).typeName = none :=
          unknown
        exact load_of_unresolved parts unknownLoaded
      · obtain ⟨sortedTrees, sortedEach⟩ := sorted.children parts
        have taken := takenOver_of_takeChildren _ (Table.nodup_of_sorted sortedTrees) done
        have knownLoaded : catalog.type? ({ node with
            content := .ofEntries content, children, parked := [] } : Composite _).typeName =
              some type := known
        have each (name : String) (declared : Child) (sub : Json)
            (assigned : assigned? type trees name = some (declared, sub)) :
            ((startingChild children declared).load catalog sub).value =
              .ok (startingChild children declared) := by
          obtain ⟨found, there⟩ := assigned?_eq_some_iff.1 assigned
          obtain ⟨-, loads⟩ := taken.start_again assigned
          have member := Table.mem_of_get? there
          have default := ordered _ _ known declared (ObjectType.child?_eq_some found).1
          exact ih content trees parts _ member (sortedEach _ member) (h.start default) loads
        obtain ⟨result, okAgain⟩ := exists_load parts sortedTrees knownLoaded
          fun name declared sub assigned => ⟨_, each name declared sub assigned⟩
        obtain ⟨children', rfl, again⟩ := exists_of_load parts sortedTrees knownLoaded okAgain
        obtain rfl : children' = children := taken.eq_of_again again h.sorted each
        exact okAgain

/-- A new state for a knight, with a banner, and with a coin in the bag. -/
def bagWithCoin : Json := .object [("childrenContent", .object [
  ("bag", .object [("childrenContent", .object [
    ("coin", .object [("content", .object [("face", .string "queen.png")])])])]),
  ("banner", .object [("image", .string "lion.png")])])]

/-- The knight's bag, whose type is not known, holds a coin that was made when it was. -/
theorem load_again_gildedKnight :
    baglessCatalog.Ordered ∧ bagWithCoin.Sorted ∧ gildedKnight.Ordered ∧
      ∃ loaded, (gildedKnight.load baglessCatalog bagWithCoin).value = .ok loaded ∧
        (loaded.load baglessCatalog bagWithCoin).value = .ok loaded := by
  have fewer := (removed_baglessCatalog.type? accepted_knightCatalog.settled.indexed).2
  have ordered : baglessCatalog.Ordered := accepted_knightCatalog.ordered.of_fewer fewer
  have sorted : bagWithCoin.Sorted := by decide
  have start : gildedKnight.Ordered :=
    (kept_ordered accepted_knightCatalog.ordered).reachable (i := ()) (ordered_fresh _)
      reachable_gildedKnight
  have loads : (gildedKnight.load baglessCatalog bagWithCoin).value.isOk = true := by
    decide +kernel
  obtain ⟨loaded, ok⟩ := exists_of_isOk loads
  exact ⟨ordered, sorted, start, loaded, ok, load_again ordered sorted start ok⟩

/-- The tree of the coin is kept aside, and the coin that was made stays. -/
example : (gildedKnight.load baglessCatalog bagWithCoin).value.toOption.bind (fun loaded =>
    (loaded.find? ["bag"]).toOption.join.bind fun bag => bag.node?.map fun node =>
      (node.children.map (·.1), node.parked.map (·.1))) = some (["coin"], ["coin"]) := by
  decide +kernel

end CompositeObjects.Configuration
