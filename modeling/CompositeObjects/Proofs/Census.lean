import CompositeObjects.Proofs.Replies
import CompositeObjects.Resource.Census
import CompositeObjects.Resource.Renaming
import Mathlib.Data.List.Induction

namespace CompositeObjects

theorem ResourceKind.position_injective : Function.Injective ResourceKind.position := by
  intro kind other same
  cases kind <;> cases other <;> first | rfl | cases same

namespace Census

variable {kinds : List (ResourceKind × List String)} {kind other : ResourceKind} {name : String}

/-- The kinds are listed in their order. -/
def Sorted (kinds : List (ResourceKind × List String)) : Prop :=
  kinds.Pairwise (·.1.position < ·.1.position)

theorem mem_addTo {e : ResourceKind × List String} (h : e ∈ addTo kind name kinds) :
    e.1 = kind ∨ e ∈ kinds := by
  induction kinds with
  | nil =>
    cases List.mem_singleton.1 h
    exact Or.inl rfl
  | cons d rest ih =>
    obtain ⟨k, names⟩ := d
    rw [addTo] at h
    split at h
    · rename_i same
      rcases List.mem_cons.1 h with rfl | h
      · exact Or.inl same
      · exact Or.inr (List.mem_cons_of_mem _ h)
    · split at h
      · rcases List.mem_cons.1 h with rfl | h
        · exact Or.inl rfl
        · exact Or.inr h
      · rcases List.mem_cons.1 h with rfl | h
        · exact Or.inr List.mem_cons_self
        · exact (ih h).imp_right (List.mem_cons_of_mem _)

theorem sorted_addTo (sorted : Sorted kinds) : Sorted (addTo kind name kinds) := by
  induction kinds with
  | nil => exact List.pairwise_singleton ..
  | cons d rest ih =>
    obtain ⟨k, names⟩ := d
    obtain ⟨first, others⟩ := List.pairwise_cons.1 sorted
    rw [addTo]
    split
    · exact List.pairwise_cons.2 ⟨first, others⟩
    · rename_i differs
      split
      · rename_i before
        refine List.pairwise_cons.2 ⟨fun e he => ?_, sorted⟩
        rcases List.mem_cons.1 he with rfl | he
        · exact before
        · exact Nat.lt_trans before (first e he)
      · rename_i notBefore
        refine List.pairwise_cons.2 ⟨fun e he => ?_, ih others⟩
        rcases mem_addTo he with rfl | he
        · have apart : k.position ≠ e.1.position :=
            fun same => differs (ResourceKind.position_injective same)
          dsimp only
          omega
        · exact first e he

theorem lookup_cons (other kind : ResourceKind) (names : List String)
    (rest : List (ResourceKind × List String)) :
    List.lookup other ((kind, names) :: rest) =
      if other = kind then some names else rest.lookup other := by
  rw [List.lookup_cons]
  by_cases same : other = kind
  · simp [same]
  · simp [same, beq_eq_false_iff_ne.2 same]

theorem lookup_eq_none (below : ∀ e ∈ kinds, kind.position < e.1.position) :
    kinds.lookup kind = none := by
  induction kinds with
  | nil => rfl
  | cons e rest ih =>
    have lt := below e List.mem_cons_self
    have apart : kind ≠ e.1 := by
      rintro rfl
      exact Nat.lt_irrefl _ lt
    rw [lookup_cons, if_neg apart]
    exact ih fun d hd => below d (List.mem_cons_of_mem _ hd)

theorem lookup_addTo (sorted : Sorted kinds) (kind other : ResourceKind) (name : String) :
    (addTo kind name kinds).lookup other =
      if other = kind then some (addName ((kinds.lookup kind).getD []) name)
      else kinds.lookup other := by
  induction kinds with
  | nil => rw [addTo, lookup_cons, List.lookup_nil, List.lookup_nil, Option.getD_none]
  | cons d rest ih =>
    obtain ⟨k, names⟩ := d
    obtain ⟨first, others⟩ := List.pairwise_cons.1 sorted
    rw [addTo]
    split
    · rename_i here
      rw [lookup_cons, lookup_cons, lookup_cons, here, if_pos rfl, Option.getD_some]
      split <;> rfl
    · rename_i differs
      split
      · rename_i before
        have new : List.lookup kind ((k, names) :: rest) = none := lookup_eq_none fun e he => by
          rcases List.mem_cons.1 he with rfl | he
          · exact before
          · exact Nat.lt_trans before (first e he)
        rw [new, lookup_cons, Option.getD_none]
      · rw [lookup_cons, lookup_cons, lookup_cons, if_neg (Ne.symm differs), ih others]
        by_cases here : other = k
        · rw [if_pos here, if_pos here, if_neg (here ▸ differs)]
        · rw [if_neg here, if_neg here]

/-- The names of one kind that are called for, without the empty ones. -/
def namesOf (kind : ResourceKind) (calls : List (ResourceKind × String)) : List String :=
  (calls.filter fun call => call.1 = kind ∧ call.2 ≠ "").map (·.2)

theorem addName_eraseDups (names : List String) (name : String) :
    addName names.eraseDups name = (names ++ [name].filter (· ≠ "")).eraseDups := by
  rw [addName, List.eraseDups_append]
  by_cases empty : name = ""
  · simp [empty, List.removeAll]
  · by_cases among : name ∈ names <;> simp [empty, among, List.removeAll, List.eraseDups_cons]

/-- What a census says of calls. -/
structure Counts (census : Census) (calls : List (ResourceKind × String)) : Prop where
  sorted : Sorted census.kinds
  visits : census.visits = calls.length
  names : ∀ kind, census.names kind = (namesOf kind calls).eraseDups

theorem counts_empty : Counts empty [] := ⟨List.Pairwise.nil, rfl, fun _ => rfl⟩

theorem Counts.record {census : Census} {calls : List (ResourceKind × String)}
    (h : Counts census calls) (kind : ResourceKind) (name : String) :
    Counts (census.record kind name) (calls ++ [(kind, name)]) := by
  refine ⟨sorted_addTo h.sorted, ?_, fun other => ?_⟩
  · rw [Census.record, h.visits, List.length_append]
    rfl
  · have before := h.names other
    rw [Census.names] at before ⊢
    rw [Census.record, lookup_addTo h.sorted, namesOf, List.filter_append, List.map_append]
    by_cases same : other = kind
    · subst same
      rw [if_pos rfl, Option.getD_some, before, addName_eraseDups]
      by_cases hempty : name = "" <;> simp [namesOf, hempty]
    · simp [Ne.symm same, same, before, namesOf]

/-- The census of calls that come one after the other. -/
def ofCalls (calls : List (ResourceKind × String)) : Census :=
  calls.foldl (fun census call => (walker.visit call.1 call.2 census).2) empty

theorem ofCalls_append_singleton (calls : List (ResourceKind × String))
    (call : ResourceKind × String) :
    ofCalls (calls ++ [call]) = (ofCalls calls).record call.1 call.2 := by
  rw [ofCalls, List.foldl_append]
  rfl

theorem counts_ofCalls (calls : List (ResourceKind × String)) : Counts (ofCalls calls) calls := by
  induction calls using List.reverseRecOn with
  | nil => exact counts_empty
  | append_singleton calls call ih =>
    rw [ofCalls_append_singleton]
    exact ih.record call.1 call.2

theorem counts_final (visits : List Visit) :
    Counts (walker.final visits empty) (visits.map fun v => (v.kind, v.value)) := by
  have calls : walker.final visits empty = ofCalls (visits.map fun v => (v.kind, v.value)) := by
    rw [ofCalls, List.foldl_map]
    rfl
  rw [calls]
  exact counts_ofCalls _

end Census

end CompositeObjects
