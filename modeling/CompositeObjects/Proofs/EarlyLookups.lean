import CompositeObjects.Proofs.Healing
import CompositeObjects.Proofs.Runs
import CompositeObjects.Proofs.Termination

namespace CompositeObjects

namespace Configuration

variable {catalog : Catalog} {σ : Type} {walker : Walker σ}

/-- A child that is walked like the one it was given out for makes no difference to a walk of all
children. -/
theorem walkChildren_putBack {step : Configuration → σ → Option (Traced (Configuration × σ))}
    {declared : List Child} {node : Composite Configuration} {name : String}
    {child child' : Configuration} (sorted : Table.Sorted node.children)
    (given : node.giveOut catalog name = .ok child) (among : name ∈ declared.map Child.name)
    (alike : ∀ s, (step child' s).map Traced.value = (step child s).map Traced.value) (s : σ) :
    (walkChildren catalog step declared (node.putBack name child') s).map Traced.value =
      (walkChildren catalog step declared node s).map Traced.value := by
  induction declared generalizing node s with
  | nil => cases among
  | cons d rest ih =>
    rw [value_walkChildren_cons, value_walkChildren_cons]
    by_cases hname : d.name = name
    · -- The child itself: what is put back hides which of the two was walked.
      rw [hname, given, Composite.giveOut_putBack_self given child']
      simp only [alike, Composite.putBack_putBack]
    · have among' : name ∈ rest.map Child.name :=
        (List.mem_cons.1 among).resolve_left (Ne.symm hname)
      rw [Composite.giveOut_putBack_of_ne catalog hname]
      cases node.giveOut catalog d.name with
      | error error => exact ih sorted given among' s
      | ok first =>
        refine congrArg (Option.bind _) (funext fun r => ?_)
        rw [Composite.putBack_comm sorted hname]
        refine ih (Table.sorted_insert _ _ sorted) ?_ among' r.2
        rwa [Composite.giveOut_putBack_of_ne catalog (Ne.symm hname)]

/-- Every walk does the same to both, as far as it is let go down. -/
def WalkedAlike (catalog : Catalog) (c c' : Configuration) : Prop :=
  ∀ (σ : Type) (walker : Walker σ) (levels : Nat) (s : σ),
    (walkWithin catalog walker levels c s).map Traced.value =
      (walkWithin catalog walker levels c' s).map Traced.value

theorem WalkedAlike.refl (c : Configuration) : WalkedAlike catalog c c := fun _ _ _ _ => rfl

theorem WalkedAlike.trans {c c' c'' : Configuration} (h : WalkedAlike catalog c c')
    (h' : WalkedAlike catalog c' c'') : WalkedAlike catalog c c'' :=
  fun σ walker levels s => (h σ walker levels s).trans (h' σ walker levels s)

/-- A walk makes nothing of whether a child has been given out before. -/
theorem walkedAlike_putBack {node : Composite Configuration} {name : String}
    {child child' : Configuration} (sorted : Table.Sorted node.children)
    (given : node.giveOut catalog name = .ok child) (alike : WalkedAlike catalog child' child) :
    WalkedAlike catalog (.composite (node.putBack name child')) (.composite node) := by
  intro σ walker levels s
  cases levels with
  | zero => rw [walkWithin, walkWithin]
  | succ levels =>
    obtain ⟨type, declared, known, found⟩ := Composite.exists_of_giveOut given
    obtain ⟨hd, rfl⟩ := ObjectType.child?_eq_some found
    have knownAfter : catalog.type? (node.putBack declared.name child').typeName = some type :=
      known
    have among : declared.name ∈ type.children.map Child.name := List.mem_map.2 ⟨_, hd, rfl⟩
    rw [value_walkWithin_composite known, value_walkWithin_composite knownAfter]
    refine congrArg (Option.map _) ?_
    -- The own resources are read and stored beside the children.
    let answered := node.answered (walker.replies (ownVisits catalog (.composite node)) s)
    have sortedAnswered : Table.Sorted answered.children := sorted
    have givenAnswered : answered.giveOut catalog declared.name = .ok child := by
      rw [Composite.giveOut_eq] at given ⊢
      exact given
    exact walkChildren_putBack sortedAnswered givenAnswered among (alike σ walker levels) _

namespace Operation

/-- The operation is a lookup, or one that is made on a child. -/
def Looks : Operation → Prop
  | .lookup _ => True
  | .within _ operation => operation.Looks
  | _ => False

theorem Looks.proper {operation : Operation} (looks : operation.Looks) : operation.Proper := by
  induction operation with
  | within name operation ih => exact ih looks
  | load => exact looks.elim
  | lookup | update | walk => trivial

theorem Looks.exists_apply (ordered : catalog.Ordered) {operation : Operation}
    (looks : operation.Looks) {c : Configuration} (h : c.Ordered) :
    ∃ later, operation.apply catalog c = some later ∧ WalkedAlike catalog later c := by
  induction operation generalizing c with
  | lookup name =>
    cases c with
    | verbatim typeName tree => exact ⟨_, rfl, .refl _⟩
    | composite node =>
      refine ⟨_, rfl, ?_⟩
      cases found : (node.lookup catalog name).value with
      | error error =>
        rw [Composite.afterLookup, found]
        exact .refl _
      | ok pair =>
        obtain ⟨child, node'⟩ := pair
        obtain ⟨given, -⟩ := Composite.giveOut_of_lookup found
        rw [Composite.afterLookup_eq h.sorted found]
        exact walkedAlike_putBack h.sorted given (.refl child)
  | within name operation ih =>
    cases c with
    | verbatim typeName tree => exact ⟨_, rfl, .refl _⟩
    | composite node =>
      rw [apply]
      cases found : (node.lookup catalog name).value with
      | error error => exact ⟨_, rfl, .refl _⟩
      | ok pair =>
        obtain ⟨child, node'⟩ := pair
        obtain ⟨-, -, hchild, -⟩ := (kept_ordered ordered).lookup () _ _ _ _ h found
        obtain ⟨later, applied, alike⟩ := ih looks hchild
        obtain ⟨given, back⟩ := Composite.giveOut_of_lookup found
        refine ⟨.composite (node.putBack name later), ?_,
          walkedAlike_putBack h.sorted given alike⟩
        simp only [applied, Option.map_some, back]
  | update | load | walk => exact looks.elim

end Operation

theorem exists_run_of_looks (ordered : catalog.Ordered) {lookups : List Operation}
    (looks : ∀ operation ∈ lookups, operation.Looks) {c : Configuration} (h : c.Ordered) :
    ∃ later, run (lookups.map fun operation => (catalog, operation)) c = some later ∧
      later.Ordered ∧ WalkedAlike catalog later c := by
  induction lookups generalizing c with
  | nil => exact ⟨c, rfl, h, .refl c⟩
  | cons operation rest ih =>
    have first := looks operation List.mem_cons_self
    obtain ⟨next, applied, alike⟩ := first.exists_apply ordered h
    have step := Operation.step_of_apply first.proper applied
    have orderedNext := (kept_ordered ordered).step (i := ()) h step
    obtain ⟨later, ran, orderedLater, alikeRest⟩ :=
      ih (fun operation among => looks operation (List.mem_cons_of_mem _ among)) orderedNext
    refine ⟨later, ?_, orderedLater, alikeRest.trans alike⟩
    rw [List.map_cons, run_cons, applied]
    exact ran

/-- Walks that do the same at every depth do the same as a whole, though one may be given more
levels than the other. -/
theorem WalkedAlike.walk (settled : catalog.Settled) (acyclic : catalog.Acyclic)
    {c c' : Configuration} (h : c.Ordered) (h' : c'.Ordered) (alike : WalkedAlike catalog c c')
    (walker : Walker σ) (s : σ) :
    (c.walk catalog walker s).map Traced.value = (c'.walk catalog walker s).map Traced.value := by
  obtain ⟨after, last, ends⟩ := exists_walk settled acyclic h walker s
  obtain ⟨after', last', ends'⟩ := exists_walk settled acyclic h' walker s
  have deep := value_walkWithin_mono (Nat.le_max_left _ (depthBound catalog c')) ends
  have deep' := value_walkWithin_mono (Nat.le_max_right (depthBound catalog c) _) ends'
  rw [ends, ends', ← deep, ← deep']
  exact alike _ walker _ s

/-- Whatever a configuration has been through, lookups that come before a walk have no part in what
the walk does: what the walker is asked, the state it ends in and the configuration that is left. -/
theorem walk_after_lookups (accepted : catalog.Accepted) (acyclic : catalog.Acyclic)
    {start c : Configuration} (h : start.Ordered) {operations : List (Catalog × Operation)}
    (orderly : Orderly operations) (ran : run operations start = some c)
    {lookups : List Operation} (looks : ∀ operation ∈ lookups, operation.Looks)
    (walker : Walker σ) (s : σ) : ∃ later after s' calls,
      run (lookups.map fun operation => (catalog, operation)) c = some later ∧
        WalksTo catalog walker c s after s' calls ∧
        WalksTo catalog walker later s after s' calls := by
  have hc := h.run orderly ran
  obtain ⟨after, s', calls, walks⟩ := exists_walksTo accepted.settled acyclic hc walker s
  obtain ⟨later, looked, hlater, alike⟩ := exists_run_of_looks accepted.ordered looks hc
  refine ⟨later, after, s', calls, looked, walks, ?_, ?_⟩
  · rw [alike.walk accepted.settled acyclic hlater hc]
    exact walks.ends
  · rw [alike.walk accepted.settled acyclic hlater hc]
    exact walks.calls

/-- The game before there were bags, when the banner of a knight was a coin. -/
def earlyCatalog : Catalog := ⟨
  [⟨"Game", ⟨"Knight", "", [], [
    ⟨"bag", .composite (.fresh "Game::Bag")⟩, ⟨"banner", .composite (.fresh "Game::Coin")⟩], []⟩⟩],
  [("Game::Knight", 0)]⟩

theorem ordered_earlyCatalog : earlyCatalog.Ordered := by
  refine Catalog.ordered_of_entries fun e he d hd => ?_
  cases List.mem_singleton.1 he
  rcases List.mem_pair.1 hd with rfl | rfl
  · exact ordered_fresh "Game::Bag"
  · exact ordered_fresh "Game::Coin"

/-- A bag is loaded and a banner is looked up at that time. -/
def earlyOperations : List (Catalog × Operation) := [
  (earlyCatalog, .load (.object [("childrenContent", .object [("bag", bagWithPurse)])])),
  (earlyCatalog, .lookup "banner")]

theorem orderly_earlyOperations : Orderly earlyOperations := by
  have sorted : (Json.object [("childrenContent", .object [("bag", bagWithPurse)])]).Sorted := by
    decide
  intro p hp
  rcases List.mem_pair.1 hp with rfl | rfl
  · exact ⟨ordered_earlyCatalog, sorted⟩
  · exact ⟨ordered_earlyCatalog, trivial⟩

/-- Lookups of a coin that was kept aside, of nothing, and of what the type of a coin does not have. -/
def knightLookups : List Operation :=
  [.within "bag" (.lookup "coin"), .lookup "ghost", .within "banner" (.lookup "coin")]

theorem walk_after_lookups_knight :
    knightCatalog.Accepted ∧ knightCatalog.Acyclic ∧
      (Configuration.composite (.fresh "Game::Knight")).Ordered ∧ Orderly earlyOperations ∧
      (∀ operation ∈ knightLookups, operation.Looks) ∧
      ∃ c, run earlyOperations (.composite (.fresh "Game::Knight")) = some c ∧
        ∃ later after s' calls,
          run (knightLookups.map fun operation => (knightCatalog, operation)) c = some later ∧
          WalksTo knightCatalog ⟨fun _ name count => ("art/" ++ name, count + 1)⟩ c 0 after s'
            calls ∧
          WalksTo knightCatalog ⟨fun _ name count => ("art/" ++ name, count + 1)⟩ later 0 after s'
            calls := by
  have looks : ∀ operation ∈ knightLookups, operation.Looks := by
    simp [knightLookups, Operation.Looks]
  have ends : (run earlyOperations (.composite (.fresh "Game::Knight"))).isSome = true := by
    decide +kernel
  obtain ⟨c, ran⟩ := Option.isSome_iff_exists.1 ends
  exact ⟨accepted_knightCatalog, acyclic_knightCatalog, ordered_fresh _, orderly_earlyOperations,
    looks, c, ran, walk_after_lookups accepted_knightCatalog acyclic_knightCatalog (ordered_fresh _)
      orderly_earlyOperations ran looks _ 0⟩

/-- The coin that was kept aside is visited, and so is the one that is no longer declared. -/
example : ((run earlyOperations (.composite (.fresh "Game::Knight"))).bind fun c =>
    c.walk knightCatalog (Walker.recording ⟨fun _ name count => ("art/" ++ name, count + 1)⟩)
      (0, [])).map (·.value.2) = some (2, [(.image, "queen.png"), (.image, "coin.png")]) := by
  decide +kernel

end Configuration
end CompositeObjects
