import CompositeObjects.Proofs.Loader

namespace CompositeObjects.Configuration

variable {catalog : Catalog}

/-- Every configuration that operations make from nothing has grown from nothing. -/
theorem grown_of_accepted (accepted : catalog.Accepted) {typeName : String} {c : Configuration}
    (run : Reachable catalog (.composite (.fresh typeName)) c) :
    Grown catalog (.composite (.fresh typeName)) c :=
  (kept_grown accepted.settled.grounded).reachable (grown_fresh catalog typeName) run

theorem wellTyped_of_run (accepted : catalog.Accepted) {typeName : String} {c : Configuration}
    (run : Reachable catalog (.composite (.fresh typeName)) c) : WellTyped catalog c :=
  (grown_of_accepted accepted run).wellTyped accepted.settled.defaults
    (wellTyped_fresh catalog typeName)

/-- In a project that the loader makes, all declared defaults are well-typed, and so is every
configuration that operations make from nothing, whatever its type. -/
theorem wellTyped_of_accepted (accepted : catalog.Accepted) :
    (∀ e ∈ catalog.entries, ∀ declared ∈ e.type.children, WellTyped catalog declared.default) ∧
      ∀ typeName c, Reachable catalog (.composite (.fresh typeName)) c → WellTyped catalog c := by
  refine ⟨fun e he declared hd => ?_, fun typeName c run => wellTyped_of_run accepted run⟩
  have known := accepted.settled.indexed.type?_entry he
  exact accepted.settled.defaults e.name e.type known declared hd

/-- A knight whose coin has been given a new face. -/
def gildedKnight : Configuration :=
  (actAt knightCatalog (fun c => pure (c.afterUpdate knightCatalog "face" "gold.png", ()))
    ["bag", "coin"] (.composite (.fresh "Game::Knight"))).value.1

theorem reachable_gildedKnight :
    Reachable knightCatalog (.composite (.fresh "Game::Knight")) gildedKnight :=
  reachable_actAt (fun c => Relation.ReflTransGen.single (Step.update c "face" "gold.png")) _ _

example : gildedKnight.save = .object [
    ("childrenContent", .object [("bag", .object [
      ("childrenContent", .object [("coin", .object [
        ("childrenContent", .object []), ("content", .object [("face", .string "gold.png")])])]),
      ("content", .object [])])]),
    ("content", .object [])] := by
  decide +kernel

theorem wellTyped_gildedKnight :
    knightCatalog.Accepted ∧
      Reachable knightCatalog (.composite (.fresh "Game::Knight")) gildedKnight ∧
      WellTyped knightCatalog gildedKnight :=
  ⟨accepted_knightCatalog, reachable_gildedKnight,
    (wellTyped_of_accepted accepted_knightCatalog).2 _ _ reachable_gildedKnight⟩

end CompositeObjects.Configuration
