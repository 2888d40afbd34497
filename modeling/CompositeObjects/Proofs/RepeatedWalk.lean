import CompositeObjects.Proofs.Termination

namespace CompositeObjects.Configuration

variable {catalog : Catalog} {σ : Type} {walker : Walker σ}

/-- After a walk of children each one that is given out has been walked, or is none of them and is
given out as before. -/
theorem giveOut_of_walkChildren {P : Configuration → Prop}
    {step : Configuration → σ → Option (Traced (Configuration × σ))}
    (steps : ∀ child s r, (step child s).map Traced.value = some r → P r.1)
    {declared : List Child} {node : Composite Configuration} {s : σ}
    {r : Composite Configuration × σ}
    (ends : (walkChildren catalog step declared node s).map Traced.value = some r) :
    r.1.typeName = node.typeName ∧ ∀ name child, r.1.giveOut catalog name = .ok child →
      P child ∨ ((∀ d ∈ declared, d.name ≠ name) ∧ node.giveOut catalog name = .ok child) := by
  induction declared generalizing node s with
  | nil =>
    cases ends
    refine ⟨rfl, fun name child given => Or.inr ⟨?_, given⟩⟩
    intro d hd
    cases hd
  | cons d rest ih =>
    rw [value_walkChildren_cons] at ends
    cases here : node.giveOut catalog d.name with
    | error error =>
      rw [here] at ends
      obtain ⟨typeName, others⟩ := ih ends
      refine ⟨typeName, fun name child given => ?_⟩
      rcases others name child given with walked | ⟨absent, before⟩
      · exact Or.inl walked
      · have hne : d.name ≠ name := by
          rintro rfl
          rw [here] at before
          cases before
        exact Or.inr ⟨List.forall_mem_cons.2 ⟨hne, absent⟩, before⟩
    | ok first =>
      rw [here] at ends
      obtain ⟨walked, done, ends⟩ := Option.bind_eq_some_iff.1 ends
      obtain ⟨typeName, others⟩ := ih ends
      refine ⟨typeName, fun name child given => ?_⟩
      rcases others name child given with inner | ⟨absent, before⟩
      · exact Or.inl inner
      · by_cases hname : name = d.name
        · rw [hname, Composite.giveOut_putBack_self here] at before
          cases before
          exact Or.inl (steps first s walked done)
        · rw [Composite.giveOut_putBack_of_ne catalog hname] at before
          exact Or.inr ⟨List.forall_mem_cons.2 ⟨Ne.symm hname, absent⟩, before⟩

/-- What a walk that has come to its end leaves behind ends within the levels that it was given. -/
theorem ends_of_walkWithin {levels : Nat} {c : Configuration} {s : σ} {r : Configuration × σ}
    (ends : (walkWithin catalog walker levels c s).map Traced.value = some r) :
    Ends catalog levels r.1 := by
  induction levels generalizing c s r with
  | zero =>
    cases c with
    | verbatim typeName tree =>
      cases ends
      exact ends_verbatim ..
    | composite node =>
      rw [walkWithin] at ends
      cases ends
  | succ levels ih =>
    cases c with
    | verbatim typeName tree =>
      cases ends
      exact ends_verbatim ..
    | composite node =>
      cases known : catalog.type? node.typeName with
      | none =>
        rw [walkWithin_unresolved known] at ends
        cases ends
        intro name child given
        obtain ⟨type, -, resolved, -⟩ := Composite.exists_of_giveOut given
        rw [known] at resolved
        cases resolved
      | some type =>
        rw [value_walkWithin_composite known] at ends
        obtain ⟨⟨after, final⟩, children, rfl⟩ := Option.map_eq_some_iff.1 ends
        obtain ⟨typeName, walked⟩ :=
          giveOut_of_walkChildren (fun _ _ _ done => ih done) children
        intro name child given
        rcases walked name child given with inner | ⟨absent, -⟩
        · exact inner
        · -- A child that is given out is declared, and so it has been walked.
          obtain ⟨type', declared, known', found⟩ := Composite.exists_of_giveOut given
          have same : type' = type := by
            rw [typeName] at known'
            exact Option.some.inj (known'.symm.trans known)
          rw [same] at found
          obtain ⟨among, named⟩ := ObjectType.child?_eq_some found
          exact absurd named (absent declared among)

theorem depthBound_mono {c after : Configuration} (heavier : c.weight ≤ after.weight) :
    depthBound catalog c ≤ depthBound catalog after := by
  dsimp only [depthBound]
  generalize weights _ = defaults
  have total : c.weight + defaults + 1 ≤ after.weight + defaults + 1 := by omega
  have squares := Nat.mul_le_mul total (Nat.add_le_add_left total 1)
  exact Nat.mul_le_mul (Nat.add_le_add_left squares 1)
    (Nat.add_le_add_right (Nat.mul_le_mul_left 2 total) 2)

/-- A walk that has come to its end can be made again, by any walker, where it has made the
configuration no lighter. -/
theorem exists_walk_again {c : Configuration} {s : σ} {r : Traced (Configuration × σ)}
    (walked : c.walk catalog walker s = some r) (heavier : c.weight ≤ r.value.1.weight)
    {τ : Type} (other : Walker τ) (t : τ) :
    ∃ again, r.value.1.walk catalog other t = some again := by
  have value : (walkWithin catalog walker (depthBound catalog c) c s).map Traced.value =
      some r.value := by
    rw [walk] at walked
    rw [walked, Option.map_some]
  have ends := (ends_of_walkWithin value).mono (depthBound_mono heavier)
  obtain ⟨after, t', done, -⟩ := ends.exists_walkWithin other t
  obtain ⟨again, result, -⟩ := Option.map_eq_some_iff.1 done
  exact ⟨again, result⟩

/-- There is nothing lighter than a composite object that nothing has been done to. -/
theorem weight_fresh_le (typeName : String) (c : Configuration) :
    (composite (.fresh typeName)).weight ≤ c.weight :=
  one_le_weight c

end CompositeObjects.Configuration
