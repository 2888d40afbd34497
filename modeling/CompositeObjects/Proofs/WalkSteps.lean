import CompositeObjects.Proofs.Walk

namespace CompositeObjects

namespace Composite

/-- The child that a lookup gives out. -/
def giveOut (catalog : Catalog) (node : Composite Configuration) (name : String) :
    Except LookupError Configuration :=
  (node.lookup catalog name).value.map (·.1)

/-- The object with a child put back that was given out. What was kept aside for it is gone when it
has been made. -/
def putBack (node : Composite Configuration) (name : String) (child : Configuration) :
    Composite Configuration :=
  { node with
    children := Table.insert name child node.children
    parked := if (node.child? name).isSome then node.parked else Table.erase name node.parked }

variable {catalog : Catalog} {node node' : Composite Configuration} {name other : String}
  {child : Configuration}

theorem giveOut_eq (catalog : Catalog) (node : Composite Configuration) (name : String) :
    node.giveOut catalog name = match catalog.type? node.typeName with
      | none => .error (.unresolvedType node.typeName)
      | some type => match type.child? name with
        | none => .error (.undeclaredChild node.typeName name)
        | some declared => .ok ((node.child? name).getD
            (newChild catalog declared (Table.get? name node.parked)).value) := by
  rw [giveOut]
  cases known : catalog.type? node.typeName with
  | none =>
    rw [lookup_unresolved known]
    rfl
  | some type =>
    dsimp only
    cases found : type.child? name with
    | none =>
      rw [lookup_undeclared known found]
      rfl
    | some declared =>
      cases made : node.child? name with
      | none =>
        rw [lookup_new known found made]
        rfl
      | some child =>
        rw [lookup_made known found made]
        rfl

theorem exists_of_giveOut (given : node.giveOut catalog name = .ok child) :
    ∃ type declared, catalog.type? node.typeName = some type ∧
      type.child? name = some declared := by
  rw [giveOut_eq] at given
  split at given
  · cases given
  · rename_i type known
    split at given
    · cases given
    · rename_i declared found
      exact ⟨type, declared, known, found⟩

theorem giveOut_of_lookup (found : (node.lookup catalog name).value = .ok (child, node')) :
    node.giveOut catalog name = .ok child ∧
      ∀ child', node'.withChild name child' = node.putBack name child' := by
  refine ⟨by rw [giveOut, found]; rfl, fun child' => ?_⟩
  obtain ⟨type, declared, -, -, made⟩ := lookup_eq_ok found
  rcases made with ⟨made, rfl⟩ | ⟨fresh, -, rfl⟩
  · simp [withChild, putBack, made]
  · simp [withChild, putBack, fresh, Table.insert_insert]

theorem putBack_putBack (node : Composite Configuration) (name : String)
    (child child' : Configuration) :
    (node.putBack name child).putBack name child' = node.putBack name child' := by
  simp [putBack, child?, Table.get?_insert_self, Table.insert_insert]

theorem child?_putBack_of_ne (hne : other ≠ name) :
    (node.putBack name child).child? other = node.child? other :=
  Table.get?_insert_of_ne hne child node.children

theorem parked_putBack_of_ne (hne : other ≠ name) :
    Table.get? other (node.putBack name child).parked = Table.get? other node.parked := by
  rw [putBack]
  dsimp only
  split
  · rfl
  · exact Table.get?_erase_of_ne hne node.parked

theorem putBack_comm (sorted : Table.Sorted node.children) (hne : other ≠ name)
    (child child' : Configuration) :
    (node.putBack name child).putBack other child' =
      (node.putBack other child').putBack name child := by
  have here : (node.putBack name child).child? other = node.child? other :=
    child?_putBack_of_ne hne
  have there : (node.putBack other child').child? name = node.child? name :=
    child?_putBack_of_ne (Ne.symm hne)
  have children := Table.insert_comm (Ne.symm hne) child child' sorted
  rw [putBack, here, putBack.eq_1 (node.putBack other child'), there]
  simp only [putBack, children]
  cases (node.child? name).isSome <;> cases (node.child? other).isSome <;>
    simp [Table.erase_comm name other]

theorem giveOut_putBack_of_ne (catalog : Catalog) (hne : other ≠ name) :
    (node.putBack name child).giveOut catalog other = node.giveOut catalog other := by
  rw [giveOut_eq, giveOut_eq, child?_putBack_of_ne hne, parked_putBack_of_ne hne]
  rfl

theorem giveOut_putBack_self (given : node.giveOut catalog name = .ok child)
    (child' : Configuration) : (node.putBack name child').giveOut catalog name = .ok child' := by
  obtain ⟨type, declared, known, found⟩ := exists_of_giveOut given
  have knownAfter : catalog.type? (node.putBack name child').typeName = some type := known
  have made : (node.putBack name child').child? name = some child' := Table.get?_insert_self ..
  rw [giveOut_eq, knownAfter]
  simp only [found, made, Option.getD_some]

theorem afterLookup_eq (sorted : Table.Sorted node.children)
    (found : (node.lookup catalog name).value = .ok (child, node')) :
    node.afterLookup catalog name = node.putBack name child := by
  obtain ⟨type, declared, -, -, made⟩ := lookup_eq_ok found
  rw [afterLookup, found]
  rcases made with ⟨made, rfl⟩ | ⟨fresh, -, rfl⟩
  · have same := Table.insert_eq_self sorted made
    simp [putBack, made, same]
  · simp [putBack, fresh]

end Composite

namespace Configuration

variable {catalog : Catalog} {σ : Type} {walker : Walker σ}

theorem value_walkChildren_cons
    (step : Configuration → σ → Option (Traced (Configuration × σ))) (d : Child)
    (rest : List Child) (node : Composite Configuration) (s : σ) :
    (walkChildren catalog step (d :: rest) node s).map Traced.value =
      match node.giveOut catalog d.name with
      | .error _ => (walkChildren catalog step rest node s).map Traced.value
      | .ok child => ((step child s).map Traced.value).bind fun r =>
          (walkChildren catalog step rest (node.putBack d.name r.1) r.2).map Traced.value := by
  rw [walkChildren]
  cases found : (node.lookup catalog d.name).value with
  | error error =>
    have refused : node.giveOut catalog d.name = .error error := by
      rw [Composite.giveOut, found]
      rfl
    simp only [refused, Option.map_map, Function.comp_def]
  | ok pair =>
    obtain ⟨child, node'⟩ := pair
    obtain ⟨given, back⟩ := Composite.giveOut_of_lookup found
    simp only [given, back, Option.map_bind, Option.bind_map, Option.map_map, Function.comp_def]

theorem value_walkWithin_composite {node : Composite Configuration} {type : ObjectType}
    (known : catalog.type? node.typeName = some type) (levels : Nat) (s : σ) :
    (walkWithin catalog walker (levels + 1) (.composite node) s).map Traced.value =
      ((walkChildren catalog (walkWithin catalog walker levels) type.children
        (node.answered (walker.replies (ownVisits catalog (.composite node)) s))
        (walker.final (ownVisits catalog (.composite node)) s)).map Traced.value).map
          fun r => (.composite r.1, r.2) := by
  have declared : ∀ e ∈ node.views catalog, ∃ p ∈ type.properties, p.name = e.1 := by
    rw [Composite.views, known]
    exact fun e he => Property.exists_property_of_mem_views _ _ he
  have own : (Composite.visitViews catalog walker (node.views catalog) node s).value =
      (node.answered (walker.replies (ownVisits catalog (.composite node)) s),
        walker.final (ownVisits catalog (.composite node)) s) :=
    Composite.visitViews_value known declared s
  have knownAnswered : catalog.type? (node.answered
      (walker.replies (ownVisits catalog (.composite node)) s)).typeName = some type := known
  rw [walkWithin]
  simp only [own, knownAnswered, Option.map_map, Function.comp_def]

/-- More levels than are needed make no difference. -/
theorem value_walkChildren_mono
    {step more : Configuration → σ → Option (Traced (Configuration × σ))}
    (steps : ∀ c s r, (step c s).map Traced.value = some r → (more c s).map Traced.value = some r)
    {declared : List Child} {node : Composite Configuration} {s : σ}
    {r : Composite Configuration × σ}
    (ends : (walkChildren catalog step declared node s).map Traced.value = some r) :
    (walkChildren catalog more declared node s).map Traced.value = some r := by
  induction declared generalizing node s with
  | nil => exact ends
  | cons d rest ih =>
    rw [value_walkChildren_cons] at ends ⊢
    cases given : node.giveOut catalog d.name with
    | error error =>
      rw [given] at ends
      exact ih ends
    | ok child =>
      rw [given] at ends
      obtain ⟨walked, here, there⟩ := Option.bind_eq_some_iff.1 ends
      exact Option.bind_eq_some_iff.2 ⟨walked, steps _ _ _ here, ih there⟩

theorem value_walkWithin_mono {levels more : Nat} (hle : levels ≤ more) {c : Configuration} {s : σ}
    {r : Configuration × σ}
    (ends : (walkWithin catalog walker levels c s).map Traced.value = some r) :
    (walkWithin catalog walker more c s).map Traced.value = some r := by
  induction levels generalizing more c s r with
  | zero =>
    cases c with
    | verbatim typeName tree => rwa [walkWithin_verbatim] at ends ⊢
    | composite node =>
      rw [walkWithin] at ends
      cases ends
  | succ levels ih =>
    obtain ⟨more, rfl⟩ : ∃ n, more = n + 1 := ⟨more - 1, by omega⟩
    cases c with
    | verbatim typeName tree => rwa [walkWithin_verbatim] at ends ⊢
    | composite node =>
      cases known : catalog.type? node.typeName with
      | none => rwa [walkWithin_unresolved known] at ends ⊢
      | some type =>
        rw [value_walkWithin_composite known] at ends ⊢
        obtain ⟨walked, children, rfl⟩ := Option.map_eq_some_iff.1 ends
        have deeper := value_walkChildren_mono
          (fun _ _ _ here => @ih more (by omega) _ _ _ here) children
        rw [deeper, Option.map_some]

/-- What is left of a recorded walk when the record is dropped. -/
def unrecorded {α : Type} (r : α × σ × List (ResourceKind × String)) : α × σ := (r.1, r.2.1)

theorem walkChildren_recording
    {step : Configuration → σ → Option (Traced (Configuration × σ))}
    {recorded : Configuration → σ × List (ResourceKind × String) →
      Option (Traced (Configuration × σ × List (ResourceKind × String)))}
    (steps : ∀ c s, ((recorded c s).map Traced.value).map unrecorded =
      (step c s.1).map Traced.value) (declared : List Child) (node : Composite Configuration)
    (s : σ × List (ResourceKind × String)) :
    ((walkChildren catalog recorded declared node s).map Traced.value).map unrecorded =
      (walkChildren catalog step declared node s.1).map Traced.value := by
  induction declared generalizing node s with
  | nil => rfl
  | cons d rest ih =>
    rw [value_walkChildren_cons, value_walkChildren_cons]
    cases node.giveOut catalog d.name with
    | error error => exact ih node s
    | ok child =>
      dsimp only
      rw [← steps child s]
      cases recorded child s with
      | none => rfl
      | some walked => exact ih (node.putBack d.name walked.value.1) walked.value.2

/-- To write down what is asked changes nothing about a walk. -/
theorem walkWithin_recording (walker : Walker σ) (levels : Nat) (c : Configuration)
    (s : σ × List (ResourceKind × String)) :
    ((walkWithin catalog walker.recording levels c s).map Traced.value).map unrecorded =
      (walkWithin catalog walker levels c s.1).map Traced.value := by
  induction levels generalizing c s with
  | zero => cases c <;> rfl
  | succ levels ih =>
    cases c with
    | verbatim typeName tree => rfl
    | composite node =>
      cases known : catalog.type? node.typeName with
      | none =>
        rw [walkWithin_unresolved known, walkWithin_unresolved known]
        rfl
      | some type =>
        have children := @walkChildren_recording catalog σ _ _ ih type.children
          (node.answered (walker.replies (ownVisits catalog (.composite node)) s.1))
          (walker.recording.final (ownVisits catalog (.composite node)) s)
        rw [walker.final_recording] at children
        rw [value_walkWithin_composite known, value_walkWithin_composite known, ← children,
          walker.replies_recording, walker.final_recording]
        simp only [Option.map_map]
        rfl

/-- The walk comes to its end with that configuration, that state of the walker and those calls. -/
structure WalksTo (catalog : Catalog) (walker : Walker σ) (before : Configuration) (s : σ)
    (after : Configuration) (s' : σ) (calls : List (ResourceKind × String)) : Prop where
  ends : (before.walk catalog walker s).map Traced.value = some (after, s')
  calls : (before.walk catalog walker.recording (s, [])).map Traced.value = some (after, s', calls)

theorem WalksTo.reachable {before after : Configuration} {s s' : σ}
    {calls : List (ResourceKind × String)} (h : WalksTo catalog walker before s after s' calls) :
    Reachable catalog before after := by
  obtain ⟨r, ends, value⟩ := Option.map_eq_some_iff.1 h.ends
  have step : Step catalog before r.value.1 := Step.walk ends
  rw [value] at step
  exact Relation.ReflTransGen.single step

theorem walksTo_of_recorded {before after : Configuration} {s s' : σ}
    {calls : List (ResourceKind × String)}
    (recorded : (before.walk catalog walker.recording (s, [])).map Traced.value =
      some (after, s', calls)) : WalksTo catalog walker before s after s' calls := by
  have same := @walkWithin_recording catalog σ walker (depthBound catalog before) before (s, [])
  refine ⟨?_, recorded⟩
  rw [walk] at recorded ⊢
  rw [← same, recorded]
  rfl

end Configuration
end CompositeObjects
