import CompositeObjects.Proofs.Persistence

namespace CompositeObjects

namespace Composite

variable {catalog : Catalog} {node node' later last : Composite Configuration} {name other : String}
  {child : Configuration}

/-- Two objects that differ at most in what they have under one name. -/
structure AlikeBut (name : String) (node node' : Composite Configuration) : Prop where
  typeName : node'.typeName = node.typeName
  content : node'.content = node.content
  child : ∀ other, other ≠ name → node'.child? other = node.child? other
  parked : ∀ other, other ≠ name → Table.get? other node'.parked = Table.get? other node.parked

theorem AlikeBut.refl (name : String) (node : Composite Configuration) : AlikeBut name node node :=
  ⟨rfl, rfl, fun _ _ => rfl, fun _ _ => rfl⟩

/-- What the later object has under a name is what the earlier one had, but that a load may do away
with the tree that is kept aside. -/
structure Spares (name : String) (loads : Prop) (node later : Composite Configuration) : Prop where
  typeName : later.typeName = node.typeName
  sorted : Table.Sorted node.children → Table.Sorted later.children
  child : later.child? name = node.child? name
  parked : ¬ loads → Table.get? name later.parked = Table.get? name node.parked

theorem Spares.refl (name : String) (loads : Prop) (node : Composite Configuration) :
    Spares name loads node node :=
  ⟨rfl, id, rfl, fun _ => rfl⟩

theorem Spares.trans {loads loadsLater : Prop} (h : Spares name loads node later)
    (h' : Spares name loadsLater later last) : Spares name (loads ∨ loadsLater) node last where
  typeName := h'.typeName.trans h.typeName
  sorted sorted := h'.sorted (h.sorted sorted)
  child := h'.child.trans h.child
  parked none := by
    obtain ⟨first, second⟩ := not_or.1 none
    exact (h'.parked second).trans (h.parked first)

theorem Spares.mono {loads more : Prop} (imp : loads → more) (h : Spares name loads node later) :
    Spares name more node later :=
  ⟨h.typeName, h.sorted, h.child, fun none => h.parked fun loads => none (imp loads)⟩

theorem spares_putBack (hne : name ≠ other) (child : Configuration) :
    Spares name False node (node.putBack other child) where
  typeName := rfl
  sorted := Table.sorted_insert other child
  child := child?_putBack_of_ne hne
  parked _ := parked_putBack_of_ne hne

theorem spares_withChild (hne : name ≠ other) (child : Configuration) :
    Spares name False node (node.withChild other child) where
  typeName := rfl
  sorted := Table.sorted_insert other child
  child := Table.get?_insert_of_ne hne child node.children
  parked _ := rfl

/-- A name that is looked up with success is not one that is not declared. -/
theorem ne_of_giveOut (undeclared : ¬ catalog.Declares node.typeName name)
    (given : node.giveOut catalog other = .ok child) : name ≠ other := by
  rintro rfl
  exact undeclared (exists_of_giveOut given)

theorem spares_of_lookup (undeclared : ¬ catalog.Declares node.typeName name)
    (found : (node.lookup catalog other).value = .ok (child, node')) :
    name ≠ other ∧ Spares name False node node' := by
  obtain ⟨type, declared, known, hd, made⟩ := lookup_eq_ok found
  have hne : name ≠ other := by
    rintro rfl
    exact undeclared ⟨type, declared, known, hd⟩
  refine ⟨hne, ?_⟩
  rcases made with ⟨-, rfl⟩ | ⟨-, -, rfl⟩
  · exact .refl name False node'
  · exact ⟨rfl, Table.sorted_insert other child, Table.get?_insert_of_ne hne child node.children,
      fun _ => Table.get?_erase_of_ne hne node.parked⟩

/-- A lookup sees nothing of what is under a name that is not declared. -/
theorem AlikeBut.giveOut (alike : AlikeBut name node node')
    (undeclared : ¬ catalog.Declares node.typeName name) (other : String) :
    node'.giveOut catalog other = node.giveOut catalog other := by
  rw [giveOut_eq, giveOut_eq, alike.typeName]
  cases known : catalog.type? node.typeName with
  | none => rfl
  | some type =>
    dsimp only
    cases found : type.child? other with
    | none => rfl
    | some declared =>
      have hne : other ≠ name := by
        rintro rfl
        exact undeclared ⟨type, declared, known, found⟩
      rw [alike.child other hne, alike.parked other hne]

theorem AlikeBut.putBack (alike : AlikeBut name node node') (hne : name ≠ other)
    (child : Configuration) : AlikeBut name (node.putBack other child) (node'.putBack other child) where
  typeName := alike.typeName
  content := alike.content
  child asked apart := by
    by_cases hname : asked = other
    · rw [hname]
      exact (Table.get?_insert_self ..).trans (Table.get?_insert_self ..).symm
    · rw [child?_putBack_of_ne hname, child?_putBack_of_ne hname, alike.child asked apart]
  parked asked apart := by
    by_cases hname : asked = other
    · subst hname
      simp only [Composite.putBack, alike.child asked apart]
      split
      · exact alike.parked asked apart
      · rw [Table.get?_erase_self, Table.get?_erase_self]
    · rw [parked_putBack_of_ne hname, parked_putBack_of_ne hname, alike.parked asked apart]

theorem AlikeBut.answered (alike : AlikeBut name node node') (replies : List (Visit × String)) :
    AlikeBut name (node.answered replies) (node'.answered replies) where
  typeName := alike.typeName
  content := congrArg (Content.setAll · (changes [] replies)) alike.content
  child := alike.child
  parked := alike.parked

theorem spares_answered (name : String) (node : Composite Configuration)
    (replies : List (Visit × String)) : Spares name False node (node.answered replies) :=
  ⟨rfl, id, rfl, fun _ => rfl⟩

theorem AlikeBut.ownVisits (alike : AlikeBut name node node') (catalog : Catalog) :
    Configuration.ownVisits catalog (.composite node') =
      Configuration.ownVisits catalog (.composite node) := by
  have views : Configuration.views catalog (.composite node') =
      Configuration.views catalog (.composite node) := by
    rw [Configuration.views, Configuration.views, Composite.views, Composite.views, alike.typeName,
      alike.content]
  rw [Configuration.ownVisits, Configuration.ownVisits, views]

end Composite

namespace Configuration

open Composite

variable {catalog : Catalog} {σ : Type} {walker : Walker σ} {node node' : Composite Configuration}
  {name : String}

/-- Objects between which lookups make no difference are walked alike, and the walk makes no
difference between them that giving back a child does not make. -/
theorem rel_walkChildren {R : Composite Configuration → Composite Configuration → Prop}
    (gives : ∀ node node' name, R node node' →
      node'.giveOut catalog name = node.giveOut catalog name)
    (puts : ∀ node node' name child child', R node node' →
      node.giveOut catalog name = .ok child →
        R (node.putBack name child') (node'.putBack name child'))
    (step : Configuration → σ → Option (Traced (Configuration × σ))) (declared : List Child)
    (h : R node node') (s : σ) :
    Option.Rel (fun r r' => r.2 = r'.2 ∧ R r.1 r'.1)
      ((walkChildren catalog step declared node s).map Traced.value)
      ((walkChildren catalog step declared node' s).map Traced.value) := by
  induction declared generalizing node node' s with
  | nil => exact Option.Rel.some ⟨rfl, h⟩
  | cons d rest ih =>
    rw [value_walkChildren_cons, value_walkChildren_cons, gives node node' d.name h]
    cases given : node.giveOut catalog d.name with
    | error error => exact ih h s
    | ok child =>
      dsimp only
      cases (step child s).map Traced.value with
      | none => exact Option.Rel.none
      | some walked =>
        have back := puts node node' d.name child walked.1 h given
        exact ih back walked.2

/-- A walk does not come to what is under a name that is not declared: it does the same to an object
that has something else there, and leaves there what it finds. -/
theorem rel_walkWithin_of_alikeBut (undeclared : ¬ catalog.Declares node.typeName name)
    (alike : AlikeBut name node node') (walker : Walker σ) (levels : Nat) (s : σ) :
    Option.Rel (fun r r' => r.2 = r'.2 ∧ ∃ later, r.1 = .composite later ∧
        Spares name False node later)
      ((walkWithin catalog walker levels (.composite node) s).map Traced.value)
      ((walkWithin catalog walker levels (.composite node') s).map Traced.value) := by
  cases levels with
  | zero =>
    rw [walkWithin, walkWithin]
    exact Option.Rel.none
  | succ levels =>
    cases known : catalog.type? node.typeName with
    | none =>
      have unknown : catalog.type? node'.typeName = none := alike.typeName ▸ known
      rw [walkWithin_unresolved known, walkWithin_unresolved unknown]
      exact Option.Rel.some ⟨rfl, node, rfl, .refl name False node⟩
    | some type =>
      have known' : catalog.type? node'.typeName = some type := alike.typeName ▸ known
      rw [value_walkWithin_composite known, value_walkWithin_composite known',
        alike.ownVisits catalog]
      -- What has been given back so far is the same in both, and nothing of it under the name.
      have gives (x x' : Composite Configuration) (asked : String)
          (h : AlikeBut name x x' ∧ Spares name False node x) :
          x'.giveOut catalog asked = x.giveOut catalog asked := by
        rw [← h.2.typeName] at undeclared
        exact h.1.giveOut undeclared asked
      have puts (x x' : Composite Configuration) (asked : String) (child child' : Configuration)
          (h : AlikeBut name x x' ∧ Spares name False node x)
          (given : x.giveOut catalog asked = .ok child) :
          AlikeBut name (x.putBack asked child') (x'.putBack asked child') ∧
            Spares name False node (x.putBack asked child') := by
        rw [← h.2.typeName] at undeclared
        have hne := ne_of_giveOut undeclared given
        have spared := h.2.trans (spares_putBack hne child')
        exact ⟨h.1.putBack hne child', spared.mono (by simp)⟩
      have children := rel_walkChildren gives puts (walkWithin catalog walker levels) type.children
        ⟨alike.answered (walker.replies (ownVisits catalog (.composite node)) s),
          spares_answered name node _⟩ (walker.final (ownVisits catalog (.composite node)) s)
      exact rel_map (fun r r' h => ⟨h.1, r.1, rfl, h.2.2⟩) children

/-- Where a name is not declared, nothing is loaded into the child of that name. -/
theorem spares_of_takeChildren {typeName : String} {type : ObjectType}
    {trees : List (String × Json × SavedTree)} {before after : Table Configuration}
    (undeclared : type.child? name = none)
    (ok : (takeChildren catalog typeName type trees before).value = .ok after) :
    after.get? name = before.get? name ∧ (before.Sorted → after.Sorted) := by
  induction trees generalizing before with
  | nil =>
    rw [takeChildren_nil] at ok
    cases ok
    exact ⟨rfl, id⟩
  | cons e rest ih =>
    obtain ⟨other, tree, saved⟩ := e
    cases found : type.child? other with
    | none =>
      rw [takeChildren_undeclared typeName found] at ok
      exact ih ok
    | some declared =>
      rw [takeChildren_declared typeName found] at ok
      have hne : name ≠ other := by
        rintro rfl
        rw [undeclared] at found
        cases found
      cases done : (take catalog tree saved (startingChild before declared)).value with
      | error fault =>
        rw [done] at ok
        cases ok
      | ok child =>
        rw [done] at ok
        obtain ⟨same, sorted⟩ := ih ok
        exact ⟨same.trans (Table.get?_insert_of_ne hne child before),
          fun before => sorted (Table.sorted_insert other child before)⟩

theorem spares_of_load (undeclared : ¬ catalog.Declares node.typeName name) {tree : Json}
    {after : Configuration}
    (ok : ((Configuration.composite node).load catalog tree).value = .ok after) :
    ∃ later, after = .composite later ∧ Spares name True node later := by
  obtain ⟨content, trees, -, ⟨-, rfl⟩ | ⟨type, children, known, taken, rfl⟩⟩ := load_eq_ok ok
  · exact ⟨_, rfl, rfl, id, rfl, fun none => (none trivial).elim⟩
  · have unnamed : type.child? name = none := by
      cases found : type.child? name with
      | none => rfl
      | some declared => exact absurd ⟨type, declared, known, found⟩ undeclared
    obtain ⟨same, sorted⟩ := spares_of_takeChildren unnamed taken
    exact ⟨_, rfl, rfl, sorted, same, fun none => (none trivial).elim⟩

/-- The operation is a load that succeeds. -/
def Operation.Loads (catalog : Catalog) (c : Configuration) : Operation → Prop
  | .load tree => ∃ after, (c.load catalog tree).value = .ok after
  | _ => False

/-- Every operation leaves alone what is under a name that is not declared. -/
theorem spares_of_apply (undeclared : ¬ catalog.Declares node.typeName name) {operation : Operation}
    {c : Configuration} (applied : operation.apply catalog (.composite node) = some c) :
    ∃ later, c = .composite later ∧
      Spares name (operation.Loads catalog (.composite node)) node later := by
  cases operation with
  | lookup asked =>
    cases applied
    refine ⟨_, rfl, ?_⟩
    unfold afterLookup
    split
    · rename_i found
      exact (spares_of_lookup undeclared found).2
    · exact .refl name _ node
  | update property value =>
    cases applied
    rw [afterUpdate, update?]
    cases done : node.update? catalog property value with
    | none => exact ⟨node, rfl, .refl name _ node⟩
    | some node' =>
      obtain ⟨type, -, -, rfl⟩ := update?_eq_some done
      exact ⟨_, rfl, rfl, id, rfl, fun _ => rfl⟩
  | load tree =>
    cases applied
    rw [afterLoad]
    cases ok : ((Configuration.composite node).load catalog tree).value with
    | error fault => exact ⟨node, rfl, .refl name _ node⟩
    | ok after =>
      obtain ⟨later, rfl, spared⟩ := spares_of_load undeclared ok
      exact ⟨later, rfl, spared.mono fun _ => ⟨_, ok⟩⟩
  | walk walker s levels =>
    obtain ⟨r, ends, rfl⟩ := Option.map_eq_some_iff.1 applied
    have walked := rel_walkWithin_of_alikeBut undeclared (.refl name node) walker levels s
    rw [ends] at walked
    cases walked with
    | some h => exact h.2
  | within asked operation =>
    rw [Operation.apply] at applied
    split at applied
    · cases applied
      exact ⟨node, rfl, .refl name _ node⟩
    · rename_i child node' found
      obtain ⟨child', -, rfl⟩ := Option.map_eq_some_iff.1 applied
      obtain ⟨hne, spared⟩ := spares_of_lookup undeclared found
      exact ⟨_, rfl, (spared.trans (spares_withChild hne child')).mono (by simp)⟩

/-- One of the operations is a load that succeeds. -/
def LoadsWithin : List (Catalog × Operation) → Configuration → Prop
  | [], _ => False
  | p :: rest, c => p.2.Loads p.1 c ∨ ∃ next, p.2.apply p.1 c = some next ∧ LoadsWithin rest next

variable {operations : List (Catalog × Operation)} {c : Configuration}

theorem spares_of_run (undeclared : ∀ p ∈ operations, ¬ p.1.Declares node.typeName name)
    (ran : run operations (.composite node) = some c) :
    ∃ later, c = .composite later ∧
      Spares name (LoadsWithin operations (.composite node)) node later := by
  induction operations generalizing node with
  | nil =>
    cases ran
    exact ⟨node, rfl, .refl name _ node⟩
  | cons p rest ih =>
    rw [run_cons] at ran
    obtain ⟨next, applied, ran⟩ := Option.bind_eq_some_iff.1 ran
    obtain ⟨mid, rfl, first⟩ := spares_of_apply (undeclared p List.mem_cons_self) applied
    have others : ∀ q ∈ rest, ¬ q.1.Declares mid.typeName name := by
      rw [first.typeName]
      exact fun q hq => undeclared q (List.mem_cons_of_mem p hq)
    obtain ⟨later, rfl, last⟩ := ih others ran
    exact ⟨later, rfl, (first.trans last).mono (Or.imp_right fun loads => ⟨_, applied, loads⟩)⟩

/-- What is under a name that is not declared, after a run of operations. The child is in the state
it was in, and there is none if there was none; the tree that is kept aside is the one that was kept,
unless a load has succeeded; the child, or else the tree, is what is saved; and no walk comes to it,
or else it would make a difference what is there. As long as the type is not known, no child of any
name is made, nothing is shown and nothing is updated. -/
structure Inert (name : String) (operations : List (Catalog × Operation))
    (node later : Composite Configuration) : Prop where
  child : later.child? name = node.child? name
  parked : ¬ LoadsWithin operations (.composite node) →
    Table.get? name later.parked = Table.get? name node.parked
  saved : ∃ trees, later.save = .object [
      ("childrenContent", .object trees), ("content", later.content.toJson)] ∧
    Table.get? name trees = ((node.child? name).map save).or (Table.get? name later.parked)
  unvisited : ∀ (σ : Type) (catalog : Catalog) (walker : Walker σ) (levels : Nat) (s : σ) other,
    ¬ catalog.Declares node.typeName name → AlikeBut name later other →
      (walkWithin catalog walker.recording levels (.composite other) (s, [])).map (·.value.2) =
        (walkWithin catalog walker.recording levels (.composite later) (s, [])).map (·.value.2)
  childless : (∀ p ∈ operations, p.1.type? node.typeName = none) → later.children = node.children
  empty : ∀ catalog : Catalog, catalog.type? node.typeName = none → later.views catalog = []
  refused : ∀ (catalog : Catalog) property value, catalog.type? node.typeName = none →
    (Configuration.composite later).update? catalog property value = none ∧
      (Configuration.composite later).afterUpdate catalog property value = .composite later

theorem update?_of_unresolved (unknown : catalog.type? node.typeName = none)
    (property value : String) :
    (Configuration.composite node).update? catalog property value = none := by
  rw [update?, Composite.update?, unknown]
  rfl

/-- As long as a type is not known, nothing at all is made. -/
theorem children_of_run_unresolved (sorted : Table.Sorted node.children)
    (unknown : ∀ p ∈ operations, p.1.type? node.typeName = none) {later : Composite Configuration}
    (ran : run operations (.composite node) = some (.composite later)) :
    later.children = node.children := by
  have spared (name : String) :
      Spares name (LoadsWithin operations (.composite node)) node later := by
    have undeclared : ∀ p ∈ operations, ¬ p.1.Declares node.typeName name := by
      rintro p hp ⟨type, declared, known, -⟩
      rw [unknown p hp] at known
      cases known
    obtain ⟨reached, same, spared⟩ := spares_of_run undeclared ran
    cases same
    exact spared
  exact Table.eq_of_get?_eq ((spared "").sorted sorted) sorted fun name => (spared name).child

/-- Whatever is done to an object while a name is not declared, what is under the name is left alone
and saved again. -/
theorem inert_of_undeclared (sorted : Table.Sorted node.children)
    (undeclared : ∀ p ∈ operations, ¬ p.1.Declares node.typeName name)
    (ran : run operations (.composite node) = some c) :
    ∃ later, c = .composite later ∧ Inert name operations node later := by
  obtain ⟨later, rfl, spared⟩ := spares_of_run undeclared ran
  refine ⟨later, rfl, spared.child, spared.parked, ?_, ?_, ?_, ?_, ?_⟩
  · refine ⟨_, save_composite later, ?_⟩
    rw [Table.get?_overlay _ (sorted_saveChildren (spared.sorted sorted)), get?_saveChildren,
      ← spared.child]
    rfl
  · intro σ catalog walker levels s other undeclaredNow alike
    rw [← spared.typeName] at undeclaredNow
    have walked := rel_walkWithin_of_alikeBut undeclaredNow alike walker.recording levels (s, [])
    revert walked
    cases walkWithin catalog walker.recording levels (.composite later) (s, []) <;>
      cases walkWithin catalog walker.recording levels (.composite other) (s, []) <;>
      intro walked <;> cases walked
    · rfl
    · rename_i h
      exact congrArg some h.1.symm
  · exact fun unknown => children_of_run_unresolved sorted unknown ran
  · intro catalog unknown
    rw [Composite.views, spared.typeName, unknown]
  · intro catalog property value unknown
    rw [← spared.typeName] at unknown
    have none := update?_of_unresolved unknown property value
    exact ⟨none, by rw [afterUpdate, none, Option.getD_none]⟩

/-- A bag from the time when there was a purse in it. -/
def purseBag : Composite Configuration :=
  ⟨"Game::Bag", .empty, [("purse", .verbatim "Purse" (.string "leather"))], parkedBag.parked⟩

/-- What is done to the bag when there are no purses any more, and when there are no bags. -/
def purselessOperations : List (Catalog × Operation) := [
  (knightCatalog, .lookup "purse"), (knightCatalog, .lookup "coin"),
  (knightCatalog, .walk ⟨fun _ name count => ("art/" ++ name, count + 1)⟩ 0 3),
  (baglessCatalog, .update "size" "3"), (baglessCatalog, .load .null)]

theorem inert_of_undeclared_purseBag :
    Table.Sorted purseBag.children ∧
      (∀ p ∈ purselessOperations, ¬ p.1.Declares purseBag.typeName "purse") ∧
      ∃ c later, run purselessOperations (.composite purseBag) = some c ∧ c = .composite later ∧
        Inert "purse" purselessOperations purseBag later := by
  have sorted : Table.Sorted purseBag.children := by decide
  have undeclared : ∀ p ∈ purselessOperations, ¬ p.1.Declares purseBag.typeName "purse" := by
    decide +kernel
  have ends : (run purselessOperations (.composite purseBag)).isSome = true := by decide +kernel
  obtain ⟨c, ran⟩ := Option.isSome_iff_exists.1 ends
  obtain ⟨later, same, inert⟩ := inert_of_undeclared sorted undeclared ran
  exact ⟨sorted, undeclared, c, later, ran, same, inert⟩

/-- The purse is still there, in front of its tree, and the coin has been made of its own tree. -/
example : ((run purselessOperations (.composite purseBag)).bind (·.node?)).map (fun node =>
    (node.children.map (·.1), node.parked.map (·.1))) = some (["coin", "purse"], ["purse"]) := by
  decide +kernel

end Configuration
end CompositeObjects
