import CompositeObjects.Proofs.Ordered

namespace CompositeObjects.Configuration

/-- What can be done to a configuration, or to a child that is looked up for it. A walk may go down
so many levels. -/
inductive Operation : Type 1 where
  | lookup (name : String)
  | update (name value : String)
  | load (tree : Json)
  | walk {σ : Type} (walker : Walker σ) (s : σ) (levels : Nat)
  | within (name : String) (operation : Operation)

namespace Operation

/-- The configuration after it, which is as it was where nothing is found, refused or faulty. There
is none after a walk that goes deeper. -/
def apply (catalog : Catalog) : Operation → Configuration → Option Configuration
  | .lookup _, .verbatim typeName tree => some (.verbatim typeName tree)
  | .lookup name, .composite node => some (.composite (node.afterLookup catalog name))
  | .update name value, c => some (c.afterUpdate catalog name value)
  | .load tree, c => some (c.afterLoad catalog tree)
  | .walk walker s levels, c =>
    (walkWithin catalog walker levels c s).map fun r => r.value.1
  | .within _ _, .verbatim typeName tree => some (.verbatim typeName tree)
  | .within name operation, .composite node =>
    match (node.lookup catalog name).value with
    | .error _ => some (.composite node)
    | .ok (child, node) =>
      (operation.apply catalog child).map fun child => .composite (node.withChild name child)

/-- The trees that are loaded have their keys in order, as all trees that are read. -/
def Proper : Operation → Prop
  | .load tree => tree.Sorted
  | .within _ operation => operation.Proper
  | _ => True

theorem step_of_apply {catalog : Catalog} {operation : Operation} (proper : operation.Proper)
    {c c' : Configuration} (applied : operation.apply catalog c = some c') :
    Step catalog c c' := by
  induction operation generalizing c c' with
  | lookup name =>
    cases c with
    | verbatim typeName tree =>
      cases applied
      exact step_self _
    | composite node =>
      cases applied
      exact Step.lookup node name
  | update name value =>
    cases applied
    exact Step.update c name value
  | load tree =>
    cases applied
    exact Step.load c proper
  | walk walker s levels =>
    obtain ⟨result, ends, rfl⟩ := Option.map_eq_some_iff.1 applied
    exact Step.walk ends
  | within name operation ih =>
    cases c with
    | verbatim typeName tree =>
      cases applied
      exact step_self _
    | composite node =>
      rw [apply] at applied
      split at applied
      · cases applied
        exact step_self _
      · rename_i found
        obtain ⟨child', inner, rfl⟩ := Option.map_eq_some_iff.1 applied
        exact Step.within found (ih proper inner)

end Operation

/-- One operation after the other, each under a catalog of its own. -/
def run (operations : List (Catalog × Operation)) (c : Configuration) : Option Configuration :=
  operations.foldlM (fun c p => p.2.apply p.1 c) c

/-- The tables of all catalogs and trees are in order. -/
def Orderly (operations : List (Catalog × Operation)) : Prop :=
  ∀ p ∈ operations, p.1.Ordered ∧ p.2.Proper

variable {operations : List (Catalog × Operation)} {c c' : Configuration}

theorem run_cons (p : Catalog × Operation) (rest : List (Catalog × Operation))
    (c : Configuration) : run (p :: rest) c = (p.2.apply p.1 c).bind (run rest) := rfl

theorem run_append (operations others : List (Catalog × Operation)) (c : Configuration) :
    run (operations ++ others) c = (run operations c).bind (run others) :=
  List.foldlM_append

theorem Orderly.cons {p : Catalog × Operation} (h : Orderly (p :: operations)) :
    p.1.Ordered ∧ p.2.Proper ∧ Orderly operations :=
  ⟨(h p List.mem_cons_self).1, (h p List.mem_cons_self).2,
    fun q hq => h q (List.mem_cons_of_mem p hq)⟩

theorem Ordered.run (h : c.Ordered) (orderly : Orderly operations)
    (ran : run operations c = some c') : c'.Ordered := by
  induction operations generalizing c with
  | nil =>
    cases ran
    exact h
  | cons p rest ih =>
    obtain ⟨ordered, proper, others⟩ := orderly.cons
    rw [run_cons] at ran
    obtain ⟨next, applied, ran⟩ := Option.bind_eq_some_iff.1 ran
    have step := Operation.step_of_apply proper applied
    exact ih ((kept_ordered ordered).step (i := ()) h step) others ran

end CompositeObjects.Configuration
