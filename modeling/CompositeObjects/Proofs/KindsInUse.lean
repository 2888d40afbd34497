import CompositeObjects.Proofs.Census

namespace CompositeObjects.Census

variable {census : Census} {calls : List (ResourceKind × String)} {kind other : ResourceKind}
  {name : String}

/-- Where kinds are sorted, what is listed of a kind is what is found for it. -/
theorem mem_iff_lookup {kinds : List (ResourceKind × List String)} (sorted : Sorted kinds)
    {names : List String} : (kind, names) ∈ kinds ↔ kinds.lookup kind = some names := by
  induction kinds with
  | nil => simp
  | cons e rest ih =>
    obtain ⟨first, others⟩ := List.pairwise_cons.1 sorted
    rw [List.mem_cons, lookup_cons]
    by_cases here : kind = e.1
    · rw [if_pos here, Option.some.injEq]
      constructor
      · rintro (rfl | later)
        · rfl
        · exact absurd (first _ later) (by rw [here]; exact Nat.lt_irrefl _)
      · rintro rfl
        exact Or.inl (Prod.ext here rfl)
    · rw [if_neg here, ← ih others]
      exact or_iff_right fun same => here (congrArg Prod.fst same)

theorem isSome_lookup_record (sorted : Sorted census.kinds) (kind other : ResourceKind)
    (name : String) :
    ((census.record kind name).kinds.lookup other).isSome ↔
      other = kind ∨ (census.kinds.lookup other).isSome := by
  rw [record, lookup_addTo sorted]
  by_cases same : other = kind <;> simp [same]

theorem names_record (sorted : Sorted census.kinds) (kind other : ResourceKind) (name : String) :
    (census.record kind name).names other =
      if other = kind then addName (census.names kind) name else census.names other := by
  rw [names, record, lookup_addTo sorted]
  by_cases same : other = kind <;> simp [same, names]

theorem mem_namesOf_iff : name ∈ namesOf kind calls ↔ name ≠ "" ∧ (kind, name) ∈ calls := by
  rw [namesOf, List.mem_map]
  constructor
  · rintro ⟨call, among, rfl⟩
    obtain ⟨called, same⟩ := List.mem_filter.1 among
    obtain ⟨rfl, nonempty⟩ := of_decide_eq_true same
    exact ⟨nonempty, called⟩
  · rintro ⟨nonempty, called⟩
    exact ⟨(kind, name), List.mem_filter.2 ⟨called, decide_eq_true ⟨rfl, nonempty⟩⟩, rfl⟩

theorem mem_names_ofCalls_iff :
    name ∈ (ofCalls calls).names kind ↔ name ≠ "" ∧ (kind, name) ∈ calls := by
  rw [(counts_ofCalls calls).names kind, List.mem_eraseDups, mem_namesOf_iff]

/-- A kind is listed from its first call on, whatever the name. -/
theorem isSome_lookup_ofCalls_iff :
    ((ofCalls calls).kinds.lookup kind).isSome ↔ ∃ name, (kind, name) ∈ calls := by
  induction calls using List.reverseRecOn with
  | nil => simp [ofCalls, empty]
  | append_singleton calls call ih =>
    rw [ofCalls_append_singleton, isSome_lookup_record (counts_ofCalls calls).sorted, ih]
    constructor
    · rintro (rfl | ⟨name, called⟩)
      · exact ⟨call.2, List.mem_append_right _ (List.mem_singleton_self _)⟩
      · exact ⟨name, List.mem_append_left _ called⟩
    · rintro ⟨name, called⟩
      rcases List.mem_append.1 called with called | last
      · exact Or.inr ⟨name, called⟩
      · exact Or.inl (congrArg Prod.fst (List.mem_singleton.1 last))

/-- The first call of one name of a kind comes before the first call of another one. -/
def CalledBefore (calls : List (ResourceKind × String)) (kind : ResourceKind) (a b : String) :
    Prop :=
  calls.idxOf (kind, a) < calls.idxOf (kind, b)

theorem CalledBefore.append {a b : String} (before : CalledBefore calls kind a b)
    (call : ResourceKind × String) (ha : (kind, a) ∈ calls) (hb : (kind, b) ∈ calls) :
    CalledBefore (calls ++ [call]) kind a b := by
  rw [CalledBefore, List.idxOf_append_of_mem ha, List.idxOf_append_of_mem hb]
  exact before

theorem calledBefore_last {a : String} (ha : (kind, a) ∈ calls) (new : (kind, name) ∉ calls) :
    CalledBefore (calls ++ [(kind, name)]) kind a name := by
  rw [CalledBefore, List.idxOf_append_of_mem ha, List.idxOf_append_of_notMem new]
  exact Nat.lt_of_lt_of_le (List.idxOf_lt_length_of_mem ha) (Nat.le_add_right ..)

/-- The names of a kind stand in the order in which they were first called. -/
theorem pairwise_names_ofCalls (calls : List (ResourceKind × String)) (kind : ResourceKind) :
    ((ofCalls calls).names kind).Pairwise (CalledBefore calls kind) := by
  induction calls using List.reverseRecOn with
  | nil => exact List.Pairwise.nil
  | append_singleton calls call ih =>
    have called : ∀ a ∈ (ofCalls calls).names kind, (kind, a) ∈ calls :=
      fun a ha => (mem_names_ofCalls_iff.1 ha).2
    have kept : ((ofCalls calls).names kind).Pairwise (CalledBefore (calls ++ [call]) kind) :=
      ih.imp_of_mem fun ha hb before => before.append call (called _ ha) (called _ hb)
    rw [ofCalls_append_singleton, names_record (counts_ofCalls calls).sorted]
    split
    · rename_i here
      subst here
      rw [addName]
      split
      · exact kept
      · rename_i fresh
        obtain ⟨nonempty, new⟩ := not_or.1 fresh
        refine List.pairwise_append.2 ⟨kept, List.pairwise_singleton .., fun a ha b hb => ?_⟩
        rw [List.mem_singleton.1 hb]
        exact calledBefore_last (called a ha) fun old =>
          new (mem_names_ofCalls_iff.2 ⟨nonempty, old⟩)
    · exact kept

theorem CalledBefore.ne {a b : String} (before : CalledBefore calls kind a b) : a ≠ b := by
  rintro rfl
  exact Nat.lt_irrefl _ before

/-- What is listed after calls. A kind is there if it has been called at all. -/
structure Lists (census : Census) (calls : List (ResourceKind × String)) : Prop where
  sorted : Sorted census.kinds
  kinds : ∀ kind names, (kind, names) ∈ census.kinds ↔
    (∃ name, (kind, name) ∈ calls) ∧ names = census.names kind
  among : ∀ kind name, name ∈ census.names kind ↔ name ≠ "" ∧ (kind, name) ∈ calls
  distinct : ∀ kind, (census.names kind).Nodup
  order : ∀ kind, (census.names kind).Pairwise (CalledBefore calls kind)
  visits : census.visits = calls.length

theorem mem_kinds_ofCalls_iff {names : List String} : (kind, names) ∈ (ofCalls calls).kinds ↔
    (∃ name, (kind, name) ∈ calls) ∧ names = (ofCalls calls).names kind := by
  rw [mem_iff_lookup (counts_ofCalls calls).sorted, ← isSome_lookup_ofCalls_iff, Census.names]
  cases (ofCalls calls).kinds.lookup kind <;> simp [eq_comm]

theorem lists_ofCalls (calls : List (ResourceKind × String)) : Lists (ofCalls calls) calls where
  sorted := (counts_ofCalls calls).sorted
  kinds _ _ := mem_kinds_ofCalls_iff
  among _ _ := mem_names_ofCalls_iff
  distinct kind := (pairwise_names_ofCalls calls kind).imp CalledBefore.ne
  order := pairwise_names_ofCalls calls
  visits := (counts_ofCalls calls).visits

/-- A kind has a name where it has been called with one. -/
theorem Lists.names_ne_nil_iff (h : Lists census calls) (kind : ResourceKind) :
    census.names kind ≠ [] ↔ ∃ name, name ≠ "" ∧ (kind, name) ∈ calls := by
  constructor
  · intro named
    obtain ⟨name, hname⟩ := List.exists_mem_of_ne_nil _ named
    exact ⟨name, (h.among kind name).1 hname⟩
  · rintro ⟨name, called⟩
    exact List.ne_nil_of_mem ((h.among kind name).2 called)

/-- Just the kinds with a name are listed, each with its names. -/
def ListsInUse (census : Census) : Prop :=
  ∀ kind names, (kind, names) ∈ census.kinds ↔ names ≠ [] ∧ names = census.names kind

theorem Lists.listsInUse_iff (h : Lists census calls) : ListsInUse census ↔
    ∀ kind name, (kind, name) ∈ calls → ∃ other, other ≠ "" ∧ (kind, other) ∈ calls := by
  constructor
  · intro inUse kind name called
    obtain ⟨named, -⟩ := (inUse kind _).1 ((h.kinds kind _).2 ⟨⟨name, called⟩, rfl⟩)
    exact (h.names_ne_nil_iff kind).1 named
  · intro named kind names
    rw [h.kinds]
    refine and_congr_left ?_
    rintro rfl
    rw [h.names_ne_nil_iff]
    constructor
    · rintro ⟨name, called⟩
      exact named kind name called
    · rintro ⟨name, -, called⟩
      exact ⟨name, called⟩

/-- The kinds that have been called are listed in their order, each with the distinct names that it
was called with, without the empty one, in the order of their first calls; the other kinds have no
names. The entries with a name are just the kinds in use, and these are all entries exactly where
each kind that was called was called with a name that is not empty. -/
theorem lists_of_calls (calls : List (ResourceKind × String)) :
    Lists (ofCalls calls) calls ∧
    (∀ kind, (∀ names, (kind, names) ∉ (ofCalls calls).kinds) → (ofCalls calls).names kind = []) ∧
    (∀ kind names, (kind, names) ∈ (ofCalls calls).kinds.filter (fun k => !k.2.isEmpty) ↔
      names ≠ [] ∧ names = (ofCalls calls).names kind) ∧
    (ListsInUse (ofCalls calls) ↔
      ∀ kind name, (kind, name) ∈ calls → ∃ other, other ≠ "" ∧ (kind, other) ∈ calls) := by
  have lists := lists_ofCalls calls
  have listed : ∀ kind, (ofCalls calls).names kind ≠ [] →
      (kind, (ofCalls calls).names kind) ∈ (ofCalls calls).kinds := by
    intro kind named
    obtain ⟨name, -, called⟩ := (lists.names_ne_nil_iff kind).1 named
    exact (lists.kinds kind _).2 ⟨⟨name, called⟩, rfl⟩
  refine ⟨lists, fun kind absent => ?_, fun kind names => ?_, lists.listsInUse_iff⟩
  · by_contra named
    exact absent _ (listed kind named)
  · rw [List.mem_filter]
    constructor
    · rintro ⟨among, named⟩
      exact ⟨by simpa using named, ((lists.kinds kind names).1 among).2⟩
    · rintro ⟨named, rfl⟩
      exact ⟨listed kind named, by simpa using named⟩

/-- A picture that is visited twice, a sound, and a picture without a name. -/
def heroCalls : List (ResourceKind × String) :=
  [(.audio, "jump.wav"), (.image, "hero.png"), (.image, ""), (.image, "bag.png"),
    (.image, "hero.png")]

theorem lists_of_calls_hero :
    (∀ kind name, (kind, name) ∈ heroCalls → ∃ other, other ≠ "" ∧ (kind, other) ∈ heroCalls) ∧
      ListsInUse (ofCalls heroCalls) ∧
      (ofCalls heroCalls).kinds =
        [(.image, ["hero.png", "bag.png"]), (.audio, ["jump.wav"])] ∧
      (∀ names, (.font, names) ∉ (ofCalls heroCalls).kinds) ∧
      (ofCalls heroCalls).names .font = [] := by
  obtain ⟨-, unlisted, -, inUse⟩ := lists_of_calls heroCalls
  have named : ∀ call ∈ heroCalls, ∃ named ∈ heroCalls, named.2 ≠ "" ∧ named.1 = call.1 := by
    decide
  have called : ∀ kind name, (kind, name) ∈ heroCalls →
      ∃ other, other ≠ "" ∧ (kind, other) ∈ heroCalls := by
    intro kind name among
    obtain ⟨⟨_, other⟩, hother, nonempty, rfl⟩ := named _ among
    exact ⟨other, nonempty, hother⟩
  have kinds : (ofCalls heroCalls).kinds =
      [(.image, ["hero.png", "bag.png"]), (.audio, ["jump.wav"])] := by
    decide
  have absent : ∀ names, (.font, names) ∉ (ofCalls heroCalls).kinds := by
    rw [kinds]
    simp
  exact ⟨called, inUse.2 called, kinds, absent, unlisted .font absent⟩

/-- A picture without a name, and nothing else, is listed as a kind that has no names. -/
theorem not_listsInUse_unnamed :
    (ofCalls [(.image, "")]).kinds = [(.image, [])] ∧ ¬ ListsInUse (ofCalls [(.image, "")]) := by
  refine ⟨rfl, fun inUse => ?_⟩
  exact ((inUse .image []).1 List.mem_cons_self).1 rfl

end CompositeObjects.Census
