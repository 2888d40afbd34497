import CompositeObjects.Proofs.Acceptance
import CompositeObjects.Proofs.Healing
import CompositeObjects.Proofs.Runs
import CompositeObjects.Proofs.WalkSteps

namespace CompositeObjects

/-- The type of that name is known and declares a child of that name. -/
def Catalog.Declares (catalog : Catalog) (typeName name : String) : Prop :=
  ∃ type declared, catalog.type? typeName = some type ∧ type.child? name = some declared

theorem Catalog.declares_iff {catalog : Catalog} {typeName name : String} :
    catalog.Declares typeName name ↔
      ((catalog.type? typeName).bind (·.child? name)).isSome = true := by
  simp only [Declares, Option.isSome_iff_exists, Option.bind_eq_some_iff]
  constructor
  · rintro ⟨type, declared, known, found⟩
    exact ⟨declared, type, known, found⟩
  · rintro ⟨declared, type, known, found⟩
    exact ⟨type, declared, known, found⟩

instance (catalog : Catalog) (typeName name : String) :
    Decidable (catalog.Declares typeName name) :=
  decidable_of_iff _ Catalog.declares_iff.symm

namespace Composite

variable {catalog : Catalog} {node node' : Composite Configuration} {name : String}
  {child other : Configuration}

theorem lookup_fails_iff : (∃ error, (node.lookup catalog name).value = .error error) ↔
    ¬ catalog.Declares node.typeName name := by
  constructor
  · rintro ⟨error, refused⟩ ⟨type, declared, known, found⟩
    cases made : node.child? name with
    | none =>
      rw [lookup_new known found made] at refused
      cases refused
    | some child =>
      rw [lookup_made known found made] at refused
      cases refused
  · intro undeclared
    cases found : (node.lookup catalog name).value with
    | error error => exact ⟨error, rfl⟩
    | ok pair =>
      obtain ⟨type, declared, known, hd, -⟩ := lookup_eq_ok found
      exact absurd ⟨type, declared, known, hd⟩ undeclared

/-- A child that has been made is found as it is. -/
theorem eq_of_lookup_made (made : node.child? name = some other)
    (found : (node.lookup catalog name).value = .ok (child, node')) :
    child = other ∧ node' = node := by
  obtain ⟨type, declared, -, -, ⟨made', rfl⟩ | ⟨fresh, -⟩⟩ := lookup_eq_ok found
  · rw [made] at made'
    exact ⟨(Option.some.inj made').symm, rfl⟩
  · rw [made] at fresh
    cases fresh

/-- Nothing is said about the child itself where another one is looked up. -/
theorem child?_of_lookup (made : node.child? name = some other) {asked : String}
    (found : (node.lookup catalog asked).value = .ok (child, node')) :
    node'.child? name = some other := by
  obtain ⟨type, declared, -, -, ⟨-, rfl⟩ | ⟨fresh, -, rfl⟩⟩ := lookup_eq_ok found
  · exact made
  · have hne : name ≠ asked := by
      rintro rfl
      rw [made] at fresh
      cases fresh
    rw [← made]
    exact Table.get?_insert_of_ne hne child node.children

theorem giveOut_of_made (made : node.child? name = some other)
    (given : node.giveOut catalog name = .ok child) : child = other := by
  obtain ⟨type, declared, known, found⟩ := exists_of_giveOut given
  rw [giveOut_eq, known, made] at given
  simp only [found, Option.getD_some, Except.ok.injEq] at given
  exact given.symm

end Composite

namespace Configuration

namespace Operation

/-- What an operation on an object of that type comes down to on a child that has been made: the
operations on the child, in their order. -/
inductive Inner (catalog : Catalog) (typeName name : String) : Operation → List Operation → Prop where
  | none (operation : Operation) : Inner catalog typeName name operation []
  | load (declares : catalog.Declares typeName name) {tree sub : Json} {content trees : Table Json}
      (parts : tree.parts? = some (content, trees)) (names : trees.get? name = some sub) :
      Inner catalog typeName name (.load tree) [.load sub]
  | walk (declares : catalog.Declares typeName name) {σ : Type} (walker : Walker σ) (s : σ)
      (levels : Nat) (states : List σ) : Inner catalog typeName name (.walk walker s (levels + 1))
        (states.map fun s => .walk walker s levels)
  | within (declares : catalog.Declares typeName name) (operation : Operation) :
      Inner catalog typeName name (.within name operation) [operation]

/-- The operation is on the child, loads a tree that names it, or walks the object, and the child is
declared meanwhile. -/
def Concerns (catalog : Catalog) (typeName name : String) : Operation → Prop
  | .load tree => catalog.Declares typeName name ∧ ∃ content trees sub,
      tree.parts? = some (content, trees) ∧ Table.get? name trees = some sub
  | .walk .. => catalog.Declares typeName name
  | .within other _ => catalog.Declares typeName name ∧ other = name
  | _ => False

theorem Inner.eq_nil {catalog : Catalog} {typeName name : String} {operation : Operation}
    {inner : List Operation} (h : Inner catalog typeName name operation inner)
    (apart : ¬ operation.Concerns catalog typeName name) : inner = [] := by
  cases h with
  | none => rfl
  | load declares parts names => exact absurd ⟨declares, _, _, _, parts, names⟩ apart
  | walk declares => exact absurd declares apart
  | within declares => exact absurd ⟨declares, rfl⟩ apart

end Operation

/-- What a run comes down to on a child. -/
inductive InnerRun (typeName name : String) :
    List (Catalog × Operation) → List (Catalog × Operation) → Prop where
  | nil : InnerRun typeName name [] []
  | cons {p : Catalog × Operation} {inner : List Operation}
      {operations others : List (Catalog × Operation)}
      (first : Operation.Inner p.1 typeName name p.2 inner)
      (rest : InnerRun typeName name operations others) :
      InnerRun typeName name (p :: operations) (inner.map (fun op => (p.1, op)) ++ others)

theorem InnerRun.eq_nil {typeName name : String} {operations inner : List (Catalog × Operation)}
    (h : InnerRun typeName name operations inner)
    (apart : ∀ p ∈ operations, ¬ p.2.Concerns p.1 typeName name) : inner = [] := by
  induction h with
  | nil => rfl
  | cons first _ ih =>
    rw [first.eq_nil (apart _ List.mem_cons_self), ih fun p hp => apart p (List.mem_cons_of_mem _ hp)]
    rfl

variable {catalog : Catalog} {node : Composite Configuration} {name : String}
  {child : Configuration}

/-- An operation leaves the child of an object where it is: what becomes of the child is what the
operation comes down to. -/
def LeavesInPlace (catalog : Catalog) (node : Composite Configuration) (name : String)
    (child : Configuration) (operation : Operation) (c : Configuration) : Prop :=
  ∃ later child' inner, c = .composite later ∧ later.typeName = node.typeName ∧
    later.child? name = some child' ∧ operation.Inner catalog node.typeName name inner ∧
    run (inner.map fun op => (catalog, op)) child = some child'

theorem leavesInPlace_of_untouched {operation : Operation} {later : Composite Configuration}
    (typeName : later.typeName = node.typeName) (made : later.child? name = some child) :
    LeavesInPlace catalog node name child operation (.composite later) :=
  ⟨later, child, [], rfl, typeName, made, .none operation, rfl⟩

theorem run_singleton {operation : Operation} {c c' : Configuration}
    (applied : operation.apply catalog c = some c') :
    run ([operation].map fun op => (catalog, op)) c = some c' := by
  rw [List.map_singleton, run_cons, applied]
  rfl

theorem leavesInPlace_of_lookup (made : node.child? name = some child) (asked : String) :
    LeavesInPlace catalog node name child (.lookup asked)
      (.composite (node.afterLookup catalog asked)) := by
  unfold Composite.afterLookup
  split
  · rename_i found
    exact leavesInPlace_of_untouched (Composite.typeName_of_lookup found)
      (Composite.child?_of_lookup made found)
  · exact leavesInPlace_of_untouched rfl made

theorem leavesInPlace_of_update (made : node.child? name = some child) (property value : String) :
    LeavesInPlace catalog node name child (.update property value)
      ((Configuration.composite node).afterUpdate catalog property value) := by
  rw [afterUpdate, update?]
  cases done : node.update? catalog property value with
  | none => exact leavesInPlace_of_untouched rfl made
  | some node' =>
    obtain ⟨type, -, -, rfl⟩ := Composite.update?_eq_some done
    exact leavesInPlace_of_untouched rfl made

theorem leavesInPlace_of_load {tree : Json} (sorted : tree.Sorted)
    (made : node.child? name = some child) :
    LeavesInPlace catalog node name child (.load tree)
      ((Configuration.composite node).afterLoad catalog tree) := by
  rw [afterLoad]
  cases ok : ((Configuration.composite node).load catalog tree).value with
  | error fault => exact leavesInPlace_of_untouched rfl made
  | ok after =>
    obtain ⟨content, trees, parts, ⟨-, rfl⟩ | ⟨type, children, known, done, rfl⟩⟩ := load_eq_ok ok
    · exact leavesInPlace_of_untouched rfl made
    · have sortedTrees := (Json.Sorted.children sorted parts).1
      have taken := takenOver_of_takeChildren _ (Table.nodup_of_sorted sortedTrees) done
      cases assigned : assigned? type trees name with
      | none => exact leavesInPlace_of_untouched rfl ((taken.others name assigned).trans made)
      | some p =>
        obtain ⟨declared, sub⟩ := p
        obtain ⟨found, there⟩ := assigned?_eq_some_iff.1 assigned
        obtain ⟨child', madeLater, loads⟩ := taken.loaded name declared sub assigned
        have begins : startingChild node.children declared = child := by
          rw [startingChild_of_child? found]
          exact congrArg (Option.getD · declared.default) made
        have applied : (Operation.load sub).apply catalog child = some child' := by
          rw [Operation.apply, afterLoad, ← begins, loads]
        exact ⟨_, child', _, rfl, rfl, madeLater,
          .load ⟨type, declared, known, found⟩ parts there, run_singleton applied⟩

/-- While the declared children are walked, the child is walked as often as it is declared. -/
theorem exists_states_of_walkChildren {σ : Type} {walker : Walker σ} {levels : Nat}
    {declared : List Child} (made : node.child? name = some child) {s : σ}
    {result : Composite Configuration × σ}
    (ends : (walkChildren catalog (walkWithin catalog walker levels) declared node s).map
      Traced.value = some result) :
    ∃ (states : List σ) (child' : Configuration),
      (states = [] ∨ catalog.Declares node.typeName name) ∧
      result.1.typeName = node.typeName ∧ result.1.child? name = some child' ∧
      run (states.map fun s => (catalog, .walk walker s levels)) child = some child' := by
  induction declared generalizing node child s with
  | nil =>
    cases ends
    exact ⟨[], child, Or.inl rfl, rfl, made, rfl⟩
  | cons d rest ih =>
    rw [value_walkChildren_cons] at ends
    cases given : node.giveOut catalog d.name with
    | error error =>
      rw [given] at ends
      exact ih made ends
    | ok other =>
      rw [given] at ends
      obtain ⟨⟨walked, s'⟩, here, there⟩ := Option.bind_eq_some_iff.1 ends
      by_cases hname : d.name = name
      · rw [hname] at given there
        obtain rfl := Composite.giveOut_of_made made given
        have again : (node.putBack name walked).child? name = some walked :=
          Table.get?_insert_self ..
        obtain ⟨states, child', -, typeName, madeLater, ran⟩ := ih again there
        obtain ⟨r, ends', value⟩ := Option.map_eq_some_iff.1 here
        have applied : (Operation.walk walker s levels).apply catalog other = some walked := by
          rw [Operation.apply, ends', Option.map_some, value]
        refine ⟨s :: states, child', Or.inr (Composite.exists_of_giveOut given), typeName,
          madeLater, ?_⟩
        rw [List.map_cons, run_cons, applied]
        exact ran
      · have beside : (node.putBack d.name walked).child? name = some child := by
          rw [Composite.child?_putBack_of_ne (Ne.symm hname), made]
        obtain ⟨states, child', declares, typeName, madeLater, ran⟩ := ih beside there
        exact ⟨states, child', declares, typeName, madeLater, ran⟩

theorem leavesInPlace_of_walk {σ : Type} {walker : Walker σ} {levels : Nat} {s : σ}
    {r : Traced (Configuration × σ)} (made : node.child? name = some child)
    (ends : walkWithin catalog walker levels (.composite node) s = some r) :
    LeavesInPlace catalog node name child (.walk walker s levels) r.value.1 := by
  cases levels with
  | zero =>
    rw [walkWithin] at ends
    cases ends
  | succ levels =>
    cases known : catalog.type? node.typeName with
    | none =>
      rw [walkWithin_unresolved known] at ends
      cases ends
      exact leavesInPlace_of_untouched rfl made
    | some type =>
      have value := congrArg (Option.map Traced.value) ends
      rw [value_walkWithin_composite known] at value
      obtain ⟨walked, children, hwalked⟩ := Option.map_eq_some_iff.1 value
      have answered : (node.answered
        (walker.replies (ownVisits catalog (.composite node)) s)).child? name = some child := made
      obtain ⟨states, child', declares, typeName, madeLater, ran⟩ :=
        exists_states_of_walkChildren answered children
      rw [← hwalked]
      rcases declares with rfl | declares
      · cases ran
        exact leavesInPlace_of_untouched typeName madeLater
      · refine ⟨walked.1, child', _, rfl, typeName, madeLater,
          .walk declares walker s levels states, ?_⟩
        rw [List.map_map]
        exact ran

theorem leavesInPlace_of_within (made : node.child? name = some child) {asked : String}
    {operation : Operation} {c : Configuration}
    (applied : (Operation.within asked operation).apply catalog (.composite node) = some c) :
    LeavesInPlace catalog node name child (.within asked operation) c := by
  rw [Operation.apply] at applied
  split at applied
  · cases applied
    exact leavesInPlace_of_untouched rfl made
  · rename_i other node' found
    obtain ⟨other', inner, rfl⟩ := Option.map_eq_some_iff.1 applied
    have typeName := Composite.typeName_of_lookup found
    by_cases hname : name = asked
    · subst hname
      obtain ⟨rfl, rfl⟩ := Composite.eq_of_lookup_made made found
      obtain ⟨type, declared, known, hd, -⟩ := Composite.lookup_eq_ok found
      refine ⟨_, other', _, rfl, typeName, ?_,
        .within ⟨type, declared, known, hd⟩ operation, run_singleton inner⟩
      rw [Composite.child?_withChild, if_pos rfl]
    · refine leavesInPlace_of_untouched typeName ?_
      rw [Composite.child?_withChild, if_neg hname]
      exact Composite.child?_of_lookup made found

/-- Every operation leaves a child that has been made where it is. -/
theorem leavesInPlace_of_apply {operation : Operation} (proper : operation.Proper)
    (made : node.child? name = some child) {c : Configuration}
    (applied : operation.apply catalog (.composite node) = some c) :
    LeavesInPlace catalog node name child operation c := by
  cases operation with
  | lookup asked =>
    cases applied
    exact leavesInPlace_of_lookup made asked
  | update property value =>
    cases applied
    exact leavesInPlace_of_update made property value
  | load tree =>
    cases applied
    exact leavesInPlace_of_load proper made
  | walk walker s levels =>
    obtain ⟨r, ends, rfl⟩ := Option.map_eq_some_iff.1 applied
    exact leavesInPlace_of_walk made ends
  | within asked operation => exact leavesInPlace_of_within made applied

/-- A run leaves the child where it is, and what becomes of it is what the run comes down to. -/
theorem exists_innerRun {operations : List (Catalog × Operation)} (orderly : Orderly operations)
    (made : node.child? name = some child) {c : Configuration}
    (ran : run operations (.composite node) = some c) :
    ∃ later child' inner, c = .composite later ∧ later.child? name = some child' ∧
      InnerRun node.typeName name operations inner ∧ run inner child = some child' := by
  induction operations generalizing node child with
  | nil =>
    cases ran
    exact ⟨node, child, [], rfl, made, .nil, rfl⟩
  | cons p rest ih =>
    obtain ⟨-, proper, others⟩ := orderly.cons
    rw [run_cons] at ran
    obtain ⟨next, applied, ran⟩ := Option.bind_eq_some_iff.1 ran
    obtain ⟨mid, child', inner, rfl, typeName, madeMid, first, ranFirst⟩ :=
      leavesInPlace_of_apply proper made applied
    obtain ⟨later, child'', innerRest, rfl, madeLater, runRest, ranRest⟩ := ih others madeMid ran
    rw [typeName] at runRest
    refine ⟨later, child'', _, rfl, madeLater, .cons first runRest, ?_⟩
    rw [run_append, ranFirst]
    exact ranRest

/-- A child that a lookup has made: the declared default, into which the tree that was kept aside is
loaded if the default can take it over. Nothing else of the object has changed. -/
structure MadeNew (catalog : Catalog) (declared : Child) (name : String)
    (node : Composite Configuration) (child : Configuration) (node' : Composite Configuration) :
    Prop where
  loaded : ∀ tree, Table.get? name node.parked = some tree →
    Acceptable catalog tree declared.default →
      (declared.default.load catalog tree).value = .ok child
  pristine : (∀ tree, Table.get? name node.parked = some tree →
    ¬ Acceptable catalog tree declared.default) → child = declared.default
  made : Composite.Made name child node node'

theorem madeNew_of_lookup (h : Ordered (.composite node)) {node' : Composite Configuration}
    (found : (node.lookup catalog name).value = .ok (child, node'))
    (fresh : node.child? name = none) :
    ∃ type declared, catalog.type? node.typeName = some type ∧ type.child? name = some declared ∧
      MadeNew catalog declared name node child node' := by
  obtain ⟨type, declared, known, hd, ⟨made, -⟩ | ⟨-, new, -⟩⟩ := Composite.lookup_eq_ok found
  · rw [made] at fresh
    cases fresh
  refine ⟨type, declared, known, hd, fun tree parked acceptable => ?_, fun refused => ?_,
    .of_lookup found (Or.inl fresh)⟩
  · obtain ⟨after, ok⟩ := (exists_load_iff_acceptable (h.tree parked) declared.default).2 acceptable
    rw [new, parked, value_newChild ok, ok]
  · cases parked : Table.get? name node.parked with
    | none =>
      rw [new, parked]
      rfl
    | some tree =>
      have faulty := refused tree parked
      rw [← exists_load_iff_acceptable (h.tree parked)] at faulty
      rw [new, parked, newChild]
      cases ok : (declared.default.load catalog tree).value with
      | error fault =>
        simp only [Traced.value_bind, ok]
        rfl
      | ok after => exact absurd ⟨after, ok⟩ faulty

/-- From here on the child is there whatever is done. It changes by what is done to it, by loads of
trees that name it and by walks, while it is declared, and any lookup that finds it finds it so. -/
def Stays (node : Composite Configuration) (name : String) (child : Configuration) : Prop :=
  ∀ operations c, Orderly operations → run operations (.composite node) = some c →
    ∃ later child', c = .composite later ∧ later.child? name = some child' ∧
      (∃ inner, InnerRun node.typeName name operations inner ∧ run inner child = some child') ∧
      ((∀ p ∈ operations, ¬ p.2.Concerns p.1 node.typeName name) → child' = child) ∧
      ∀ catalog found next, (later.lookup catalog name).value = .ok (found, next) →
        found = child' ∧ next = later

theorem stays_of_made (made : node.child? name = some child) : Stays node name child := by
  intro operations c orderly ran
  obtain ⟨later, child', inner, rfl, madeLater, innerRun, ranInner⟩ :=
    exists_innerRun orderly made ran
  refine ⟨later, child', rfl, madeLater, ⟨inner, innerRun, ranInner⟩, fun apart => ?_,
    fun catalog found next given => Composite.eq_of_lookup_made madeLater given⟩
  rw [innerRun.eq_nil apart] at ranInner
  exact (Option.some.inj ranInner).symm

/-- What lookups of a child come to. They fail where the child is not declared, and then change
nothing. A child that is found has been made by the lookup or was there, and it stays. -/
structure MakesOnce (catalog : Catalog) (node : Composite Configuration) (name : String) : Prop where
  fails : (∃ error, (node.lookup catalog name).value = .error error) ↔
    ¬ catalog.Declares node.typeName name
  refused : ∀ error, (node.lookup catalog name).value = .error error →
    (Operation.lookup name).apply catalog (.composite node) = some (.composite node)
  found : ∀ child node', (node.lookup catalog name).value = .ok (child, node') →
    (Operation.lookup name).apply catalog (.composite node) = some (.composite node')
  makes : ∀ child node', (node.lookup catalog name).value = .ok (child, node') →
    node.child? name = none → ∃ type declared, catalog.type? node.typeName = some type ∧
      type.child? name = some declared ∧ MadeNew catalog declared name node child node'
  keeps : ∀ child node', (node.lookup catalog name).value = .ok (child, node') →
    ∀ made, node.child? name = some made → child = made ∧ node' = node
  stays : ∀ child node', (node.lookup catalog name).value = .ok (child, node') →
    Stays node' name child

/-- Whatever has been done to an object, a child is made once, by the first lookup or load or walk
that comes to it, and is never lost, whatever becomes of the types. -/
theorem lookup_makes_once {start : Configuration} (h : start.Ordered)
    {operations : List (Catalog × Operation)} (orderly : Orderly operations)
    (ran : run operations start = some (.composite node)) (catalog : Catalog) (name : String) :
    MakesOnce catalog node name where
  fails := Composite.lookup_fails_iff
  refused error refused := by
    rw [Operation.apply, Composite.afterLookup, refused]
  found child node' found := by
    rw [Operation.apply, Composite.afterLookup, found]
  makes child node' found := madeNew_of_lookup (h.run orderly ran) found
  keeps child node' found made there := Composite.eq_of_lookup_made there found
  stays child node' found := by
    refine stays_of_made ?_
    obtain ⟨type, declared, -, -, ⟨made, rfl⟩ | ⟨-, -, rfl⟩⟩ := Composite.lookup_eq_ok found
    · exact made
    · exact Table.get?_insert_self ..

/-- A bag that was loaded when bags were not known, with the trees of a coin and of a purse. -/
def parkedBag : Composite Configuration := ⟨"Game::Bag", .empty, [], [
  ("coin", .object [("content", .object [("face", .string "queen.png")])]),
  ("purse", .object [("content", .object [("size", .string "2")])])]⟩

theorem lookup_makes_once_parkedBag :
    Ordered (.composite (.fresh "Game::Bag")) ∧
      Orderly [(baglessCatalog, .load bagWithPurse)] ∧
      run [(baglessCatalog, .load bagWithPurse)] (.composite (.fresh "Game::Bag")) =
        some (.composite parkedBag) ∧
      MakesOnce knightCatalog parkedBag "coin" := by
  have ordered : baglessCatalog.Ordered := accepted_knightCatalog.ordered.of_fewer
    (removed_baglessCatalog.type? accepted_knightCatalog.settled.indexed).2
  have sorted : bagWithPurse.Sorted := by decide
  have orderly : Orderly [(baglessCatalog, .load bagWithPurse)] := fun p hp => by
    cases List.mem_singleton.1 hp
    exact ⟨ordered, sorted⟩
  have unknown : baglessCatalog.type? "Game::Bag" = none := by
    rw [← Option.isNone_iff_eq_none]
    decide +kernel
  have ran : run [(baglessCatalog, .load bagWithPurse)] (.composite (.fresh "Game::Bag")) =
      some (.composite parkedBag) := by
    have parts : bagWithPurse.parts? = some ([], parkedBag.parked) := rfl
    have loads := @load_of_unresolved baglessCatalog (.fresh "Game::Bag") _ _ _ parts unknown
    rw [run_cons, Operation.apply, afterLoad, loads]
    rfl
  exact ⟨ordered_fresh _, orderly, ran,
    lookup_makes_once (ordered_fresh _) orderly ran knightCatalog "coin"⟩

/-- The coin is made of its tree. Where bags are not known, a load leaves it as it is. -/
example : (run [(knightCatalog, .lookup "coin"),
      (baglessCatalog, .load (.object [("childrenContent", .object [("coin", .object [])])]))]
    (.composite parkedBag)).map (fun c => (c.find? ["coin"]).toOption.map (·.map save)) =
      some (some (some (.object [("childrenContent", .object []),
        ("content", .object [("face", .string "queen.png")])]))) := by
  decide +kernel

end Configuration
end CompositeObjects
