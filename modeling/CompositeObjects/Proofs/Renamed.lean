import CompositeObjects.Proofs.Census
import CompositeObjects.Proofs.Exposure
import CompositeObjects.Proofs.WalkSteps

namespace CompositeObjects

namespace Renaming

/-- The new name that the last pair for a name gives it. A name without a pair stays. -/
def newName (pairs : List (String × String)) (name : String) : String :=
  ((pairs.reverse.find? (·.1 == name)).map (·.2)).getD name

theorem get?_ofPairs (pairs : List (String × String)) (name : String) :
    (ofPairs pairs).table.get? name = (pairs.reverse.find? (·.1 == name)).map (·.2) := by
  rw [ofPairs, Table.ofList, Table.get?_overlay_eq_find?, Table.get?_nil, Option.or_none]

theorem isSome_get?_ofPairs (pairs : List (String × String)) (name : String) :
    ((ofPairs pairs).table.get? name).isSome = pairs.any (·.1 == name) := by
  rw [get?_ofPairs, Option.isSome_map, List.isSome_find?, List.any_reverse]

/-- The answers do not depend on what has been answered before. -/
theorem replies_walker (visits : List Visit) (r : Renaming) :
    walker.replies visits r = visits.map fun v => (v, (r.table.get? v.value).getD v.value) := by
  induction visits generalizing r with
  | nil => rfl
  | cons v rest ih =>
    have step : walker.replies (v :: rest) r =
        (v, (r.rename v.value).1) :: walker.replies rest (r.rename v.value).2 := rfl
    rw [step, ih, List.map_cons, rename]
    cases r.table.get? v.value <;> rfl

theorem final_walker (visits : List Visit) (r : Renaming) :
    walker.final visits r = { r with
      rewritten := r.rewritten + visits.countP fun v => (r.table.get? v.value).isSome } := by
  induction visits generalizing r with
  | nil => rfl
  | cons v rest ih =>
    have step : walker.final (v :: rest) r = walker.final rest (r.rename v.value).2 := rfl
    rw [step, ih, rename, List.countP_cons]
    cases r.table.get? v.value with
    | none => rfl
    | some name => simp only [Option.isSome_some, if_true, Nat.add_assoc, Nat.add_comm 1]

end Renaming

/-- The same visit when values have been stored under the paths. -/
def Visit.after (stored : List String → List (String × String)) (v : Visit) : Visit :=
  { v with value := (Table.get? v.name (stored v.path)).getD v.value }

namespace Configuration

variable {catalog : Catalog}

theorem childNames_level (c : Configuration) : c.level.childNames catalog = c.childNames catalog := by
  cases c <;> rfl

theorem childNames_store (changes : List (String × String)) (c : Configuration) :
    (c.store changes).childNames catalog = c.childNames catalog := by
  cases c <;> rfl

theorem views_store (c : Configuration) {changes : List (String × String)}
    (nodup : (changes.map (·.1)).Nodup) :
    (c.store changes).views catalog = (c.views catalog).map fun e =>
      (e.1, { e.2 with value := (Table.get? e.1 changes).getD e.2.value }) := by
  let shown (name : String) (view : Property) : Property :=
    { view with value := (Table.get? name changes).getD view.value }
  have sorted : Table.Sorted ((c.views catalog).map fun e => (e.1, shown e.1 e.2)) :=
    Table.sorted_map_key shown (sorted_views c)
  refine Table.eq_of_get?_eq (sorted_views _) sorted fun name => ?_
  rw [get?_views_store c nodup, Table.get?_map_key shown]

theorem ownVisits_store (c : Configuration) {stored : List String → List (String × String)}
    (nodup : ((stored []).map (·.1)).Nodup) :
    (c.store (stored [])).ownVisits catalog = (c.ownVisits catalog).map (Visit.after stored) := by
  rw [ownVisits, ownVisits, views_store c nodup, Visit.ofViews, Visit.ofViews, List.filterMap_map,
    List.map_filterMap]
  refine List.filterMap_congr fun e _ => ?_
  rw [Option.map_map]
  rfl

/-- Where values have been stored and all else shows the same, the visits are the same but for
what has been stored. -/
theorem visits_of_stored {levels : Nat} {stored : List String → List (String × String)}
    (nodup : ∀ path, ((stored path).map (·.1)).Nodup) {before after : Configuration}
    (same : ∀ path, (after.at? catalog path).map level =
      (before.at? catalog path).map fun c => (c.store (stored path)).level) :
    visits catalog levels after = (visits catalog levels before).map (Visit.after stored) := by
  induction levels generalizing stored before after with
  | zero => rfl
  | succ levels ih =>
    have here : after.level = (before.store (stored [])).level := Option.some.inj (same [])
    have names : after.childNames catalog = before.childNames catalog := by
      rw [← childNames_level after, here, childNames_level, childNames_store]
    have own : after.ownVisits catalog = (before.ownVisits catalog).map (Visit.after stored) := by
      rw [← ownVisits_store before (nodup []), ownVisits, ← views_level after, here, views_level]
      rfl
    rw [visits, visits, names, own, List.map_append, List.map_flatMap]
    congr 1
    refine List.flatMap_congr fun name _ => ?_
    have below := same [name]
    cases hbefore : before.at? catalog [name] with
    | none =>
      rw [hbefore] at below
      rw [Option.map_eq_none_iff.1 below]
      rfl
    | some child =>
      rw [hbefore] at below
      obtain ⟨child', hafter, -⟩ := Option.map_eq_some_iff.1 below
      have sameChild : ∀ path, (child'.at? catalog path).map level =
          (child.at? catalog path).map fun c => (c.store (stored (name :: path))).level := by
        intro path
        have deeper := same (name :: path)
        rw [at?_cons name path after, at?_cons name path before, hbefore, hafter] at deeper
        exact deeper
      rw [hafter, Option.elim_some, Option.elim_some, ih (fun path => nodup (name :: path)) sameChild,
        List.map_map, List.map_map]
      rfl

/-- What a second walk comes to: each resource shows what the first one answered. -/
theorem Walked.visits_eq {levels : Nat} {replies : List (Visit × String)}
    {before after : Configuration} (h : Walked catalog replies before after)
    (once : (replies.map fun r => r.1.site).Nodup)
    (all : replies.map (·.1) = visits catalog levels before) :
    visits catalog levels after = replies.map fun r => { r.1 with value := r.2 } := by
  rw [visits_of_stored (fun path => nodup_changes once path) h.stored, ← all, List.map_map]
  refine List.map_congr_left fun r hr => ?_
  rw [Function.comp_apply, Visit.after, get?_changes_of_mem once hr]
  by_cases old : r.2 = r.1.value
  · rw [if_pos old, Option.getD_none, old]
  · rw [if_neg old, Option.getD_some]

theorem exists_walksTo_tour {σ : Type} (settled : catalog.Settled) (acyclic : catalog.Acyclic)
    (distinct : catalog.DistinctChildren) {c : Configuration} (wt : WellTyped catalog c)
    (walker : Walker σ) (s : σ) : ∃ after,
      WalksTo catalog walker c s after (walker.final (c.tour catalog) s)
        ((c.tour catalog).map fun v => (v.kind, v.value)) ∧
      Walked catalog (walker.replies (c.tour catalog) s) c after := by
  obtain ⟨r, ends, final, walked⟩ :=
    walk_tours settled acyclic distinct wt walker.recording (s, [])
  rw [walker.replies_recording] at walked
  rw [walker.final_recording, List.nil_append] at final
  refine ⟨r.value.1, walksTo_of_recorded ?_, walked⟩
  rw [ends, Option.map_some, ← final]

/-- All resources show their new names after a walk that renames. -/
theorem tour_of_renamed (distinct : catalog.DistinctChildren) {pairs : List (String × String)}
    {before after : Configuration}
    (walked : Walked catalog (Renaming.walker.replies (before.tour catalog) (.ofPairs pairs)) before
      after) :
    after.tour catalog = (before.tour catalog).map fun v =>
      { v with value := Renaming.newName pairs v.value } := by
  have once := nodup_sites_replies distinct before Renaming.walker (.ofPairs pairs)
  rw [tour, walked.visits_eq once (Renaming.walker.map_fst_replies ..), Renaming.replies_walker,
    List.map_map]
  refine List.map_congr_left fun v _ => ?_
  rw [Function.comp_apply, Renaming.get?_ofPairs]
  rfl

/-- A new object is walked to rename its resources and then to count them. What would have been come
to without the renaming is come to under the new names, each taken once from the pairs. -/
theorem census_after_renaming (accepted : catalog.Accepted) (acyclic : catalog.Acyclic)
    (distinct : catalog.DistinctChildren) (typeName : String) (pairs : List (String × String)) :
    ∃ references alone counted renamed renamer last census,
      WalksTo catalog Census.walker (.composite (.fresh typeName)) .empty alone counted references ∧
      WalksTo catalog Renaming.walker (.composite (.fresh typeName)) (.ofPairs pairs) renamed
        renamer references ∧
      WalksTo catalog Census.walker renamed .empty last census
        (references.map fun r => (r.1, Renaming.newName pairs r.2)) ∧
      renamer.rewritten = references.countP (fun r => pairs.any (·.1 == r.2)) ∧
      census.visits = references.length ∧
      ∀ kind, census.names kind = (Census.namesOf kind
        (references.map fun r => (r.1, Renaming.newName pairs r.2))).eraseDups := by
  let fresh : Configuration := .composite (.fresh typeName)
  have settled := accepted.settled
  have wt : WellTyped catalog fresh := wellTyped_fresh catalog typeName
  obtain ⟨alone, first, -⟩ := exists_walksTo_tour settled acyclic distinct wt Census.walker .empty
  obtain ⟨renamed, renames, walked⟩ :=
    exists_walksTo_tour settled acyclic distinct wt Renaming.walker (.ofPairs pairs)
  -- Operations have made the renamed object, so it is walked like any other.
  have wtRenamed := wellTyped_of_run accepted renames.reachable
  obtain ⟨last, second, -⟩ :=
    exists_walksTo_tour settled acyclic distinct wtRenamed Census.walker .empty
  have calls : (renamed.tour catalog).map (fun v => (v.kind, v.value)) =
      ((fresh.tour catalog).map fun v => (v.kind, v.value)).map
        fun r => (r.1, Renaming.newName pairs r.2) := by
    rw [tour_of_renamed distinct walked, List.map_map, List.map_map]
    rfl
  have keys : (fun v : Visit => ((Renaming.ofPairs pairs).table.get? v.value).isSome) =
      fun v => pairs.any (·.1 == v.value) :=
    funext fun v => Renaming.isSome_get?_ofPairs pairs v.value
  have counts := Census.counts_final (renamed.tour catalog)
  rw [calls] at counts second
  refine ⟨_, alone, _, renamed, _, last, _, first, renames, second, ?_, ?_, counts.names⟩
  · rw [Renaming.final_walker, keys, List.countP_map]
    exact Nat.zero_add _
  · rw [counts.visits, List.length_map]

theorem census_after_renaming_knight :
    knightCatalog.Accepted ∧ knightCatalog.Acyclic ∧ knightCatalog.DistinctChildren ∧
    ∃ references alone counted renamed renamer last census,
      WalksTo knightCatalog Census.walker (.composite (.fresh "Game::Knight")) .empty alone counted
        references ∧
      WalksTo knightCatalog Renaming.walker (.composite (.fresh "Game::Knight"))
        (.ofPairs [("king.png", "coin.png"), ("coin.png", "queen.png")]) renamed renamer references ∧
      WalksTo knightCatalog Census.walker renamed .empty last census (references.map fun r =>
        (r.1, Renaming.newName [("king.png", "coin.png"), ("coin.png", "queen.png")] r.2)) ∧
      renamer.rewritten = references.countP (fun r =>
        [("king.png", "coin.png"), ("coin.png", "queen.png")].any (·.1 == r.2)) ∧
      census.visits = references.length ∧
      ∀ kind, census.names kind = (Census.namesOf kind (references.map fun r =>
        (r.1, Renaming.newName [("king.png", "coin.png"), ("coin.png", "queen.png")]
          r.2))).eraseDups :=
  ⟨accepted_knightCatalog, acyclic_knightCatalog, distinctChildren_knightCatalog,
    census_after_renaming accepted_knightCatalog acyclic_knightCatalog
      distinctChildren_knightCatalog "Game::Knight" _⟩

/-- The new name of the king has a new name itself, which is not taken for the king. -/
example : (((Configuration.composite (.fresh "Game::Knight")).walk knightCatalog Renaming.walker
      (.ofPairs [("king.png", "coin.png"), ("coin.png", "queen.png")])).bind fun renamed =>
        renamed.value.1.walk knightCatalog Census.walker .empty).map (·.value.2) =
    some ⟨[(.image, ["coin.png"])], 1⟩ := by
  decide +kernel

end Configuration
end CompositeObjects
