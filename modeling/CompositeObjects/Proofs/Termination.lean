import CompositeObjects.Proofs.Exposure
import CompositeObjects.Proofs.Ordered
import CompositeObjects.Proofs.WalkSteps

namespace CompositeObjects.Configuration

/-- The ways down through children, as they are given out, have no more than so many levels. -/
def Ends (catalog : Catalog) : Nat → Configuration → Prop
  | _, .verbatim .. => True
  | 0, .composite _ => False
  | levels + 1, .composite node => ∀ name child, node.giveOut catalog name = .ok child →
      Ends catalog levels child

variable {catalog : Catalog} {σ : Type} {walker : Walker σ}

theorem ends_verbatim (levels : Nat) (typeName : String) (tree : Json) :
    Ends catalog levels (.verbatim typeName tree) := by
  cases levels <;> trivial

theorem Ends.mono {levels more : Nat} (hle : levels ≤ more) {c : Configuration}
    (h : Ends catalog levels c) : Ends catalog more c := by
  induction levels generalizing more c with
  | zero =>
    cases c with
    | verbatim typeName tree => exact ends_verbatim ..
    | composite node => exact h.elim
  | succ levels ih =>
    obtain ⟨more, rfl⟩ : ∃ n, more = n + 1 := ⟨more - 1, by omega⟩
    cases c with
    | verbatim typeName tree => exact ends_verbatim ..
    | composite node => exact fun name child given => ih (by omega) (h name child given)

/-- Where each child can be walked and ends as before, all of them can. -/
theorem exists_walkChildren {levels : Nat}
    {step : Configuration → σ → Option (Traced (Configuration × σ))}
    (steps : ∀ child s, Ends catalog levels child → ∃ child' s',
      (step child s).map Traced.value = some (child', s') ∧ Ends catalog levels child')
    (declared : List Child) {node : Composite Configuration}
    (h : Ends catalog (levels + 1) (.composite node)) (s : σ) : ∃ node' s',
      (walkChildren catalog step declared node s).map Traced.value = some (node', s') ∧
        Ends catalog (levels + 1) (.composite node') := by
  induction declared generalizing node s with
  | nil => exact ⟨node, s, rfl, h⟩
  | cons d rest ih =>
    rw [value_walkChildren_cons]
    cases given : node.giveOut catalog d.name with
    | error error => exact ih h s
    | ok child =>
      obtain ⟨child', s', walked, ends⟩ := steps child s (h d.name child given)
      have back : Ends catalog (levels + 1) (.composite (node.putBack d.name child')) := by
        intro name other given'
        by_cases hname : name = d.name
        · rw [hname, Composite.giveOut_putBack_self given] at given'
          cases given'
          exact ends
        · rw [Composite.giveOut_putBack_of_ne catalog hname] at given'
          exact h name other given'
      obtain ⟨node', final, others, endsAfter⟩ := ih back s'
      refine ⟨node', final, ?_, endsAfter⟩
      simp only [walked, Option.bind_some, others]

theorem Ends.exists_walkWithin {levels : Nat} {c : Configuration} (h : Ends catalog levels c)
    (walker : Walker σ) (s : σ) : ∃ after s',
      (walkWithin catalog walker levels c s).map Traced.value = some (after, s') ∧
        Ends catalog levels after := by
  induction levels generalizing c s with
  | zero =>
    cases c with
    | verbatim typeName tree => exact ⟨_, s, rfl, h⟩
    | composite node => exact h.elim
  | succ levels ih =>
    cases c with
    | verbatim typeName tree => exact ⟨_, s, rfl, h⟩
    | composite node =>
      cases known : catalog.type? node.typeName with
      | none =>
        rw [walkWithin_unresolved known]
        exact ⟨_, s, rfl, h⟩
      | some type =>
        have answered : Ends catalog (levels + 1) (.composite
            (node.answered (walker.replies (ownVisits catalog (.composite node)) s))) := by
          intro name child given
          refine h name child ?_
          rw [Composite.giveOut_eq] at given ⊢
          exact given
        obtain ⟨node', s', walked, ends⟩ := exists_walkChildren
          (fun child s ends => ih ends s) type.children answered
          (walker.final (ownVisits catalog (.composite node)) s)
        refine ⟨.composite node', s', ?_, ends⟩
        rw [value_walkWithin_composite known, walked, Option.map_some]

/-- What is given out is as the child begins, and well-typed. -/
theorem WellTyped.exists_start (defaults : ∀ name type, catalog.type? name = some type →
      ∀ declared ∈ type.children, WellTyped catalog declared.default)
    {node : Composite Configuration} (wt : WellTyped catalog (.composite node)) {name : String}
    {child : Configuration} (given : node.giveOut catalog name = .ok child) :
    ∃ type declared, catalog.type? node.typeName = some type ∧ declared ∈ type.children ∧
      child = startingChild node.children declared ∧ WellTyped catalog child ∧
      child.blank = declared.default.blank := by
  obtain ⟨type, declared, known, found⟩ := Composite.exists_of_giveOut given
  have hd := (ObjectType.child?_eq_some found).1
  obtain ⟨wtChild, kind⟩ := wt.start known found (defaults _ _ known declared hd)
  have begins : child = startingChild node.children declared := by
    rw [Composite.giveOut_eq, known, wt.unparked known] at given
    simp only [found, Except.ok.injEq] at given
    rw [startingChild_of_child? found, ← given]
    rfl
  rw [← begins] at wtChild kind
  exact ⟨type, declared, known, hd, begins, wtChild, kind⟩

theorem ends_of_wellTyped (defaults : ∀ name type, catalog.type? name = some type →
      ∀ declared ∈ type.children, WellTyped catalog declared.default)
    {levels : Nat} {c : Configuration} (wt : WellTyped catalog c) (fits : Fits catalog levels c) :
    Ends catalog levels c := by
  induction levels generalizing c with
  | zero =>
    cases c with
    | verbatim typeName tree => trivial
    | composite node => exact fits.elim
  | succ levels ih =>
    cases c with
    | verbatim typeName tree => trivial
    | composite node =>
      intro name child given
      obtain ⟨type, declared, known, hd, begins, wtChild, kind⟩ := wt.exists_start defaults given
      refine ih wtChild ?_
      rw [begins] at kind ⊢
      exact fits.start known hd kind

/-- A child that is made for a type of the project is well-typed, whatever tree was kept aside. -/
theorem wellTyped_newChild (settled : catalog.Settled) {name : String} {type : ObjectType}
    (known : catalog.type? name = some type) {declared : Child} (among : declared ∈ type.children)
    {parked : Option Json} (sorted : ∀ tree, parked = some tree → tree.Sorted) :
    WellTyped catalog (newChild catalog declared parked).value := by
  have default := settled.defaults name type known declared among
  cases parked with
  | none => exact default
  | some tree =>
    have grown := settled.grounded name type known declared among
    simp only [newChild, Traced.value_bind]
    cases ok : (declared.default.load catalog tree).value with
    | error fault => exact default
    | ok child =>
      have loaded := (kept_grown settled.grounded).load _ _ tree child (sorted tree rfl) grown ok
      exact loaded.wellTyped settled.defaults default

theorem weight_le_weights {children : List (String × Configuration)}
    {e : String × Configuration} (he : e ∈ children) : e.2.weight ≤ weights children := by
  induction children with
  | nil => cases he
  | cons first rest ih =>
    rw [weights]
    rcases List.mem_cons.1 he with rfl | he
    · exact Nat.le_add_right ..
    · exact Nat.le_trans (ih he) (Nat.le_add_left ..)

/-- The way down follows children that are there, whatever they are, and from the first one on that
is made it is within the types of the project. -/
theorem ends_of_ordered (settled : catalog.Settled) {levels : Nat}
    (spans : ∀ name, catalog.Spans levels name) {c : Configuration} (h : c.Ordered) :
    Ends catalog (c.weight + levels) c := by
  induction h with
  | verbatim typeName tree => exact ends_verbatim ..
  | @composite node _ _ trees _ ih =>
    have size : (Configuration.composite node).weight =
        1 + weights node.children + treeWeights node.parked := by
      rw [weight]
    obtain ⟨below, hbelow⟩ : ∃ n, (Configuration.composite node).weight + levels = n + 1 :=
      ⟨weights node.children + treeWeights node.parked + levels, by omega⟩
    rw [hbelow]
    intro name child given
    obtain ⟨type, declared, known, found⟩ := Composite.exists_of_giveOut given
    rw [Composite.giveOut_eq, known] at given
    simp only [found, Except.ok.injEq] at given
    cases made : node.child? name with
    | some other =>
      rw [made, Option.getD_some] at given
      rw [← given]
      have among := Table.mem_of_get? made
      have light := weight_le_weights among
      exact (ih _ among).mono (by omega)
    | none =>
      rw [made, Option.getD_none] at given
      rw [← given]
      have wt := wellTyped_newChild settled known (ObjectType.child?_eq_some found).1
        fun tree (parked : Table.get? name node.parked = some tree) =>
          trees _ (Table.mem_of_get? parked)
      exact (ends_of_wellTyped settled.defaults wt (fits_of_spans spans _)).mono (by omega)

/-- Every configuration that is found within a well-typed one is well-typed. -/
theorem WellTyped.at? (defaults : ∀ name type, catalog.type? name = some type →
      ∀ declared ∈ type.children, WellTyped catalog declared.default)
    {path : List String} {c inner : Configuration} (wt : WellTyped catalog c)
    (found : c.at? catalog path = some inner) : WellTyped catalog inner := by
  induction path generalizing c with
  | nil =>
    rw [at?_nil] at found
    cases found
    exact wt
  | cons name path ih =>
    cases c with
    | verbatim typeName tree => cases found
    | composite node =>
      cases looked : (node.lookup catalog name).value with
      | error error =>
        rw [at?_cons_of_error looked] at found
        cases found
      | ok pair =>
        obtain ⟨child, node'⟩ := pair
        rw [at?_cons_of_ok looked] at found
        have given := (Composite.giveOut_of_lookup looked).1
        obtain ⟨-, -, -, -, -, wtChild, -⟩ := wt.exists_start defaults given
        exact ih wtChild found

/-- A walk comes to its end where no type is within itself of those that it can come to. -/
theorem exists_walk_of_wellTyped (settled : catalog.Settled) {c : Configuration}
    (wt : WellTyped catalog c) (acyclic : catalog.AcyclicFrom c.typeName) (walker : Walker σ)
    (s : σ) : ∃ r, c.walk catalog walker s = some r := by
  obtain ⟨levels, spans, room⟩ := exists_spans settled.indexed c
  have fits : Fits catalog levels c := by
    cases c with
    | verbatim typeName tree => trivial
    | composite node => exact spans node.typeName acyclic
  have below : levels ≤ depthBound catalog c := by omega
  have ends := (ends_of_wellTyped settled.defaults wt fits).mono below
  obtain ⟨after, s', walked, -⟩ := ends.exists_walkWithin walker s
  obtain ⟨r, result, -⟩ := Option.map_eq_some_iff.1 walked
  exact ⟨r, result⟩

/-- In a project without a type that is within itself every walk comes to its end. -/
theorem exists_walk (settled : catalog.Settled) (acyclic : catalog.Acyclic) {c : Configuration}
    (h : c.Ordered) (walker : Walker σ) (s : σ) :
    ∃ after s', (c.walk catalog walker s).map Traced.value = some (after, s') := by
  obtain ⟨levels, spans, room⟩ := exists_spans settled.indexed c
  have everywhere : ∀ name, catalog.Spans levels name :=
    fun name => spans name (acyclic.acyclicFrom name)
  obtain ⟨after, s', ends, -⟩ :=
    ((ends_of_ordered settled everywhere h).mono room).exists_walkWithin walker s
  exact ⟨after, s', ends⟩

theorem exists_walksTo (settled : catalog.Settled) (acyclic : catalog.Acyclic) {c : Configuration}
    (h : c.Ordered) (walker : Walker σ) (s : σ) :
    ∃ after s' calls, WalksTo catalog walker c s after s' calls := by
  obtain ⟨after, ⟨s', calls⟩, recorded⟩ := exists_walk settled acyclic h walker.recording (s, [])
  exact ⟨after, s', calls, walksTo_of_recorded recorded⟩

end CompositeObjects.Configuration
