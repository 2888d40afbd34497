import CompositeObjects.Configuration.Path
import CompositeObjects.Configuration.Walk
import CompositeObjects.Proofs.Load
import Mathlib.Logic.Relation

namespace CompositeObjects

namespace Composite

variable {catalog : Catalog}

theorem lookup_unresolved {node : Composite Configuration}
    (unknown : catalog.type? node.typeName = none) (name : String) :
    (node.lookup catalog name).value = .error (.unresolvedType node.typeName) := by
  simp only [lookup, makeChild, unknown]
  rfl

theorem lookup_undeclared {node : Composite Configuration} {type : ObjectType} {name : String}
    (known : catalog.type? node.typeName = some type) (undeclared : type.child? name = none) :
    (node.lookup catalog name).value = .error (.undeclaredChild node.typeName name) := by
  simp only [lookup, makeChild, known, undeclared]
  rfl

/-- A child that has been made is given out as it is. -/
theorem lookup_made {node : Composite Configuration} {type : ObjectType} {name : String}
    {declared : Child} {child : Configuration}
    (known : catalog.type? node.typeName = some type) (h : type.child? name = some declared)
    (made : node.child? name = some child) :
    (node.lookup catalog name).value = .ok (child, node) := by
  simp only [lookup, makeChild, known, h, made]
  rfl

theorem lookup_new {node : Composite Configuration} {type : ObjectType} {name : String}
    {declared : Child} (known : catalog.type? node.typeName = some type)
    (h : type.child? name = some declared) (fresh : node.child? name = none) :
    (node.lookup catalog name).value =
      .ok ((newChild catalog declared (Table.get? name node.parked)).value,
        { node with
          children := Table.insert name
            (newChild catalog declared (Table.get? name node.parked)).value node.children
          parked := Table.erase name node.parked }) := by
  simp only [lookup, makeChild, known, h, fresh]
  rfl

/-- All that a lookup can do. -/
theorem lookup_eq_ok {node node' : Composite Configuration} {name : String}
    {child : Configuration} (found : (node.lookup catalog name).value = .ok (child, node')) :
    ∃ type declared, catalog.type? node.typeName = some type ∧
      type.child? name = some declared ∧
      (node.child? name = some child ∧ node' = node ∨
        node.child? name = none ∧
        child = (newChild catalog declared (Table.get? name node.parked)).value ∧
        node' = { node with
          children := Table.insert name child node.children
          parked := Table.erase name node.parked }) := by
  cases known : catalog.type? node.typeName with
  | none =>
    rw [lookup_unresolved known] at found
    cases found
  | some type =>
    cases h : type.child? name with
    | none =>
      rw [lookup_undeclared known h] at found
      cases found
    | some declared =>
      refine ⟨type, declared, rfl, h, ?_⟩
      cases made : node.child? name with
      | some other =>
        rw [lookup_made known h made] at found
        cases found
        exact Or.inl ⟨rfl, rfl⟩
      | none =>
        rw [lookup_new known h made] at found
        cases found
        exact Or.inr ⟨rfl, rfl, rfl⟩

theorem typeName_of_lookup {node node' : Composite Configuration} {name : String}
    {child : Configuration} (found : (node.lookup catalog name).value = .ok (child, node')) :
    node'.typeName = node.typeName := by
  obtain ⟨type, declared, -, -, made⟩ := lookup_eq_ok found
  rcases made with ⟨-, rfl⟩ | ⟨-, -, rfl⟩ <;> rfl

/-- The object after it was asked for a child, successfully or not. -/
def afterLookup (catalog : Catalog) (node : Composite Configuration) (name : String) :
    Composite Configuration :=
  match (node.lookup catalog name).value with
  | .ok (_, node) => node
  | .error _ => node

theorem update?_of_known {node : Composite Configuration} {type : ObjectType}
    (known : catalog.type? node.typeName = some type) (name value : String) :
    node.update? catalog name value =
      (Property.update? type.properties node.content name value).map fun content =>
        { node with content } := by
  rw [update?, known, Option.bind_eq_bind, Option.bind_some]
  cases Property.update? type.properties node.content name value <;> rfl

theorem update?_eq_some {node node' : Composite Configuration} {name value : String}
    (h : node.update? catalog name value = some node') :
    ∃ type, catalog.type? node.typeName = some type ∧
      (∃ p ∈ type.properties, p.name = name) ∧
      node' = { node with content := node.content.set name value } := by
  simp only [update?, Option.bind_eq_bind, Option.bind_eq_some_iff, Property.update?] at h
  obtain ⟨type, known, content, declared, made⟩ := h
  split at declared
  · rename_i any
    cases declared
    cases made
    obtain ⟨p, hp, hname⟩ := List.any_eq_true.1 any
    exact ⟨type, known, ⟨p, hp, by simpa using hname⟩, rfl⟩
  · cases declared

/-- What updates keep, visits of resource properties keep. -/
theorem visitViews_keeps {σ : Type} {walker : Walker σ} {Q : Composite Configuration → Prop}
    (keeps : ∀ node name value node', Q node →
      Composite.update? catalog node name value = some node' → Q node')
    (views : Table Property) {node : Composite Configuration} (h : Q node) (s : σ) :
    Q (visitViews catalog walker views node s).value.1 := by
  induction views generalizing node s with
  | nil => exact h
  | cons e rest ih =>
    obtain ⟨name, view⟩ := e
    rw [visitViews]
    split
    · exact ih h s
    · split
      · exact ih h s
      · rename_i kind _
        dsimp only
        split
        · exact ih h _
        · refine ih ?_ _
          cases done : node.update? catalog name (walker.visit kind view.value s).1 with
          | none => exact h
          | some node' => exact keeps _ _ _ _ h done

theorem child?_withChild (node : Composite Configuration) (name other : String)
    (child : Configuration) :
    (node.withChild name child).child? other =
      if other = name then some child else node.child? other :=
  Table.get?_insert name other child node.children

theorem withChild_withChild (node : Composite Configuration) (name : String)
    (child child' : Configuration) :
    (node.withChild name child).withChild name child' = node.withChild name child' := by
  simp only [withChild, Table.insert_insert]

end Composite

namespace Configuration

/-- The configuration after a load, which leaves it as it was where it fails. -/
def afterLoad (catalog : Catalog) (c : Configuration) (tree : Json) : Configuration :=
  match (c.load catalog tree).value with
  | .ok loaded => loaded
  | .error _ => c

/-- The configuration after an update, which leaves it as it was where it is refused. -/
def afterUpdate (catalog : Catalog) (c : Configuration) (name value : String) : Configuration :=
  (c.update? catalog name value).getD c

/-- What one operation makes of a configuration: a lookup, an update, a load, a walk that comes to
its end, or any of them on a child that is looked up for it. A tree has its keys in order, as every
tree that is read. -/
inductive Step (catalog : Catalog) : Configuration → Configuration → Prop where
  | lookup (node : Composite Configuration) (name : String) :
      Step catalog (.composite node) (.composite (node.afterLookup catalog name))
  | update (c : Configuration) (name value : String) :
      Step catalog c (c.afterUpdate catalog name value)
  | load (c : Configuration) {tree : Json} (sorted : tree.Sorted) :
      Step catalog c (c.afterLoad catalog tree)
  | walk {σ : Type} {walker : Walker σ} {depth : Nat} {c : Configuration} {s : σ}
      {result : Traced (Configuration × σ)}
      (ends : walkWithin catalog walker depth c s = some result) : Step catalog c result.value.1
  | within {node node' : Composite Configuration} {name : String} {child child' : Configuration}
      (found : (node.lookup catalog name).value = .ok (child, node'))
      (step : Step catalog child child') :
      Step catalog (.composite node) (.composite (node'.withChild name child'))

/-- What any finite run of operations makes of a configuration. -/
def Reachable (catalog : Catalog) : Configuration → Configuration → Prop :=
  Relation.ReflTransGen (Step catalog)

variable {catalog : Catalog}

/-- What is left to do where a child is found: it is walked, put back, and the others follow. -/
theorem walkChildren_cons_of_ok {σ : Type}
    {step : Configuration → σ → Option (Traced (Configuration × σ))} {declared : Child}
    {rest : List Child} {node node' : Composite Configuration} {s : σ} {child : Configuration}
    (found : (node.lookup catalog declared.name).value = .ok (child, node'))
    {result : Traced (Composite Configuration × σ)}
    (ends : walkChildren catalog step (declared :: rest) node s = some result) :
    ∃ walked others, step child s = some walked ∧
      walkChildren catalog step rest (node'.withChild declared.name walked.value.1)
        walked.value.2 = some others ∧ result.value = others.value := by
  rw [walkChildren] at ends
  simp only [found, Option.bind_eq_some_iff, Option.map_eq_some_iff] at ends
  obtain ⟨walked, hwalked, others, hothers, rfl⟩ := ends
  exact ⟨walked, others, hwalked, hothers, rfl⟩

theorem walkChildren_cons_of_error {σ : Type}
    {step : Configuration → σ → Option (Traced (Configuration × σ))} {declared : Child}
    {rest : List Child} {node : Composite Configuration} {s : σ} {error : LookupError}
    (refused : (node.lookup catalog declared.name).value = .error error)
    {result : Traced (Composite Configuration × σ)}
    (ends : walkChildren catalog step (declared :: rest) node s = some result) :
    ∃ others, walkChildren catalog step rest node s = some others ∧
      result.value = others.value := by
  rw [walkChildren] at ends
  simp only [refused, Option.map_eq_some_iff] at ends
  obtain ⟨others, hothers, rfl⟩ := ends
  exact ⟨others, hothers, rfl⟩

/-- What updates, lookups and loads keep. A child that is looked up has a like property, and may be
replaced by anything that has the same one. -/
structure Kept {ι : Type} (catalog : Catalog) (P : ι → Configuration → Prop) : Prop where
  update : ∀ i node name value node', P i (.composite node) →
    Composite.update? catalog node name value = some node' → P i (.composite node')
  lookup : ∀ i node name child node', P i (.composite node) →
    (Composite.lookup catalog node name).value = .ok (child, node') →
      P i (.composite node') ∧
        ∃ j, P j child ∧ ∀ child', P j child' → P i (.composite (node'.withChild name child'))
  load : ∀ i c tree after, tree.Sorted → P i c → (c.load catalog tree).value = .ok after → P i after

section Kept

variable {ι : Type} {P : ι → Configuration → Prop} {i : ι}

theorem Kept.walkChildren (kept : Kept catalog P) {σ : Type}
    {step : Configuration → σ → Option (Traced (Configuration × σ))}
    (steps : ∀ i c s walked, P i c → step c s = some walked → P i walked.value.1)
    (declared : List Child) {node : Composite Configuration} {s : σ}
    {result : Traced (Composite Configuration × σ)} (h : P i (.composite node))
    (ends : walkChildren catalog step declared node s = some result) :
    P i (.composite result.value.1) := by
  induction declared generalizing node s result with
  | nil =>
    rw [Configuration.walkChildren] at ends
    cases ends
    exact h
  | cons first rest ih =>
    cases found : (node.lookup catalog first.name).value with
    | error error =>
      obtain ⟨others, hothers, same⟩ := walkChildren_cons_of_error found ends
      rw [same]
      exact ih h hothers
    | ok pair =>
      obtain ⟨child, node'⟩ := pair
      obtain ⟨walked, others, hwalked, hothers, same⟩ := walkChildren_cons_of_ok found ends
      obtain ⟨-, j, hchild, rebuild⟩ := kept.lookup _ _ _ _ _ h found
      rw [same]
      exact ih (rebuild _ (steps _ _ _ _ hchild hwalked)) hothers

theorem Kept.walk (kept : Kept catalog P) {σ : Type} {walker : Walker σ} (depth : Nat)
    {c : Configuration} {s : σ} {result : Traced (Configuration × σ)} (h : P i c)
    (ends : walkWithin catalog walker depth c s = some result) : P i result.value.1 := by
  induction depth generalizing i c s result with
  | zero =>
    cases c with
    | verbatim typeName tree =>
      rw [walkWithin] at ends
      cases ends
      exact h
    | composite node =>
      rw [walkWithin] at ends
      cases ends
  | succ depth ih =>
    cases c with
    | verbatim typeName tree =>
      rw [walkWithin] at ends
      cases ends
      exact h
    | composite node =>
      rw [walkWithin] at ends
      have visited : P i (.composite
          (Composite.visitViews catalog walker (node.views catalog) node s).value.1) :=
        Composite.visitViews_keeps (kept.update i) _ h s
      dsimp only at ends
      split at ends
      · cases ends
        exact visited
      · obtain ⟨walked, hwalked, rfl⟩ := Option.map_eq_some_iff.1 ends
        exact kept.walkChildren (fun _ _ _ _ => ih) _ visited hwalked

/-- What updates, lookups and loads keep, every operation keeps. -/
theorem Kept.step (kept : Kept catalog P) {c c' : Configuration} (h : P i c)
    (step : Step catalog c c') : P i c' := by
  induction step generalizing i with
  | lookup node name =>
    unfold Composite.afterLookup
    split
    · rename_i found
      exact (kept.lookup _ _ _ _ _ h found).1
    · exact h
  | update c name value =>
    unfold afterUpdate
    cases c with
    | verbatim typeName tree => exact h
    | composite node =>
      cases done : node.update? catalog name value with
      | none => simpa [update?, done] using h
      | some node' => simpa [update?, done] using kept.update _ _ _ _ _ h done
  | load c sorted =>
    unfold afterLoad
    split
    · rename_i after ok
      exact kept.load _ _ _ _ sorted h ok
    · exact h
  | walk ends => exact kept.walk _ h ends
  | within found _ ih =>
    obtain ⟨-, j, hchild, rebuild⟩ := kept.lookup _ _ _ _ _ h found
    exact rebuild _ (ih hchild)

theorem Kept.reachable (kept : Kept catalog P) {c c' : Configuration} (h : P i c)
    (run : Reachable catalog c c') : P i c' := by
  induction run with
  | refl => exact h
  | tail _ step ih => exact kept.step ih step

end Kept

/-- A request that is refused is a step that changes nothing. -/
theorem step_self (c : Configuration) : Step catalog c c := by
  cases c with
  | verbatim typeName tree => exact Step.update (.verbatim typeName tree) "" ""
  | composite node =>
    have refused : (Configuration.composite node).afterLoad catalog .null = .composite node := by
      have malformed : SavedTree.ofJson .null =
          .malformed [] (.wrongShape .null (.record SavedTree.recordName)) := rfl
      rw [afterLoad, load, malformed, take_malformed]
    have sorted : Json.null.Sorted := trivial
    have step : Step catalog (.composite node)
        ((Configuration.composite node).afterLoad catalog .null) := Step.load _ sorted
    rw [refused] at step
    exact step

/-- What a run makes of a child that was looked up is a run of the object that holds it. -/
theorem reachable_within {node node' : Composite Configuration} {name : String}
    {child child' : Configuration} (found : (node.lookup catalog name).value = .ok (child, node'))
    (run : Reachable catalog child child') :
    Reachable catalog (.composite node) (.composite (node'.withChild name child')) := by
  induction run with
  | refl => exact Relation.ReflTransGen.single (Step.within found (step_self child))
  | tail _ step ih =>
    rename_i mid last _
    obtain ⟨type, declared, known, h, -⟩ := Composite.lookup_eq_ok found
    have sameType := Composite.typeName_of_lookup found
    have again : ((node'.withChild name mid).lookup catalog name).value =
        .ok (mid, node'.withChild name mid) := by
      refine Composite.lookup_made (sameType ▸ known) h ?_
      rw [Composite.child?_withChild, if_pos rfl]
    have next := Step.within again step
    rw [Composite.withChild_withChild] at next
    exact ih.tail next

/-- Acting under a path of child names is a run where the act itself is one. -/
theorem reachable_actAt {α : Type} {act : Configuration → Traced (Configuration × α)}
    (acts : ∀ c, Reachable catalog c (act c).value.1) (path : List String) (c : Configuration) :
    Reachable catalog c (actAt catalog act path c).value.1 := by
  induction path generalizing c with
  | nil => exact acts c
  | cons name path ih =>
    cases c with
    | verbatim typeName tree => exact Relation.ReflTransGen.refl
    | composite node =>
      rw [actAt]
      cases found : (node.lookup catalog name).value with
      | error error =>
        simp only [Traced.value_bind, found]
        exact Relation.ReflTransGen.refl
      | ok pair =>
        obtain ⟨child, node'⟩ := pair
        simp only [Traced.value_bind, found]
        exact reachable_within found (ih child)

end Configuration
end CompositeObjects
