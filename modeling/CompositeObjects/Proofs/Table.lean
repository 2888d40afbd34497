import CompositeObjects.Table

namespace CompositeObjects.Table

variable {α : Type u} {β : Type v}

theorem get?_insert (key key' : String) (value : α) (t : Table α) :
    (t.insert key value).get? key' = if key' = key then some value else t.get? key' := by
  split
  · rename_i h
    rw [h, get?_insert_self]
  · rename_i h
    exact get?_insert_of_ne h value t

theorem get?_erase (key key' : String) (t : Table α) :
    (t.erase key).get? key' = if key' = key then none else t.get? key' := by
  split
  · rename_i h
    rw [h, get?_erase_self]
  · rename_i h
    exact get?_erase_of_ne h t

theorem insert_insert (key : String) (value value' : α) (t : Table α) :
    (t.insert key value).insert key value' = t.insert key value' := by
  induction t with
  | nil => simp [insert]
  | cons e rest ih =>
    obtain ⟨k, v⟩ := e
    by_cases hk : k = key
    · simp [insert, hk]
    · by_cases hlt : key < k
      · simp [insert, hk, hlt]
      · simp [insert, hk, hlt, ih]

theorem insert_comm {key key' : String} (hne : key ≠ key') (value value' : α) {t : Table α}
    (h : t.Sorted) :
    (t.insert key value).insert key' value' = (t.insert key' value').insert key value := by
  refine eq_of_get?_eq (sorted_insert _ _ (sorted_insert _ _ h))
    (sorted_insert _ _ (sorted_insert _ _ h)) fun other => ?_
  rw [get?_insert, get?_insert, get?_insert, get?_insert]
  by_cases hother : other = key
  · rw [if_pos hother, if_pos hother, if_neg (hother ▸ hne)]
  · rw [if_neg hother, if_neg hother]

theorem insert_eq_self {key : String} {value : α} {t : Table α}
    (sorted : t.Sorted) (h : t.get? key = some value) : t.insert key value = t := by
  refine eq_of_get?_eq (sorted_insert _ _ sorted) sorted fun other => ?_
  rw [get?_insert]
  split
  · rename_i same
    rw [same, h]
  · rfl

theorem erase_comm (key key' : String) (t : Table α) :
    (t.erase key).erase key' = (t.erase key').erase key := by
  simp only [erase, List.filter_filter, Bool.and_comm]

theorem mem_of_get? {key : String} {value : α} {t : Table α} (h : t.get? key = some value) :
    (key, value) ∈ t := by
  induction t with
  | nil => simp at h
  | cons e rest ih =>
    obtain ⟨k, v⟩ := e
    rw [get?] at h
    split at h
    · rename_i hk
      rw [hk, Option.some.inj h]
      exact List.mem_cons_self
    · exact List.mem_cons_of_mem _ (ih h)

theorem nodup_of_sorted {t : Table α} (sorted : t.Sorted) : (t.map (·.1)).Nodup := by
  refine List.pairwise_map.2 (sorted.imp fun {a b} hlt heq => ?_)
  rw [heq] at hlt
  exact String.lt_irrefl b.1 hlt

/-- What stands under a key is found there where each key stands once. -/
theorem get?_of_mem {key : String} {value : α} {t : Table α} (nodup : (t.map (·.1)).Nodup)
    (h : (key, value) ∈ t) : t.get? key = some value := by
  induction t with
  | nil => cases h
  | cons e rest ih =>
    obtain ⟨fresh, nodup⟩ := List.nodup_cons.1 nodup
    rcases List.mem_cons.1 h with rfl | h
    · simp [get?]
    · have hne : e.1 ≠ key := fun he => fresh (List.mem_map.2 ⟨(key, value), h, he.symm⟩)
      rw [get?, if_neg hne]
      exact ih nodup h

theorem sorted_iff_keys {t : Table α} : t.Sorted ↔ (t.map (·.1)).Pairwise (· < ·) :=
  List.pairwise_map.symm

theorem get?_eq_none_iff {key : String} {t : Table α} :
    t.get? key = none ↔ key ∉ t.map (·.1) := by
  induction t with
  | nil => simp
  | cons e rest ih =>
    rw [get?, List.map_cons, List.mem_cons, not_or, ← ih]
    by_cases hk : e.1 = key
    · simp [hk]
    · simp [hk, Ne.symm hk]

theorem eq_nil_of_get?_eq_none {t : Table α} (h : ∀ key, t.get? key = none) : t = [] := by
  cases t with
  | nil => rfl
  | cons e rest => simpa [get?] using h e.1

theorem get?_cons_of_ne {key : String} {e : String × α} {rest : Table α} (h : e.1 ≠ key) :
    get? key (e :: rest) = get? key rest := by
  rw [get?, if_neg h]

/-- Without keys that come twice, the entries on top win and show all of themselves. -/
theorem get?_overlay_of_nodup (t : Table α) {top : List (String × α)}
    (nodup : (top.map (·.1)).Nodup) (key : String) :
    (t.overlay top).get? key = (get? key top).or (t.get? key) := by
  induction top generalizing t with
  | nil => rfl
  | cons e rest ih =>
    obtain ⟨fresh, nodup⟩ := List.nodup_cons.1 nodup
    have step := ih (t.insert e.1 e.2) nodup
    rw [get?_insert] at step
    by_cases hk : e.1 = key
    · have absent : get? key rest = none := get?_eq_none_iff.2 (hk ▸ fresh)
      rw [if_pos hk.symm, absent] at step
      simpa [overlay, get?, hk] using step
    · rw [if_neg (Ne.symm hk)] at step
      simpa [overlay, get?, hk] using step

theorem get?_ofList_of_nodup {entries : List (String × α)} (nodup : (entries.map (·.1)).Nodup)
    (key : String) : (ofList entries).get? key = get? key entries := by
  rw [ofList, get?_overlay_of_nodup [] nodup, get?_nil, Option.or_none]

/-- Entries that cover all keys below hide the table below. -/
theorem overlay_eq_top {t top : Table α} (ht : t.Sorted) (htop : top.Sorted)
    (covers : ∀ key, top.get? key = none → t.get? key = none) : t.overlay top = top := by
  refine eq_of_get?_eq (sorted_overlay ht top) htop fun key => ?_
  rw [get?_overlay t htop]
  cases h : top.get? key with
  | none => simp [covers key h]
  | some v => rfl

theorem sorted_filter {t : Table α} (h : t.Sorted) (p : String × α → Bool) :
    Table.Sorted (t.filter p) := h.filter p

theorem get?_filter_key (t : Table α) (p : String → Bool) (key : String) :
    get? key (t.filter fun e => p e.1) = if p key then t.get? key else none := by
  induction t with
  | nil => simp
  | cons e rest ih =>
    by_cases hk : e.1 = key
    · by_cases hp : p key <;> simp [get?, hk, hp, ih]
    · rw [get?_cons_of_ne hk, ← ih]
      by_cases hp : p e.1 <;> simp [get?, hk, hp]

theorem get?_filter {t : Table α} (h : t.Sorted) (p : α → Bool) (key : String) :
    get? key (t.filter fun e => p e.2) = (t.get? key).filter p := by
  induction t with
  | nil => rfl
  | cons e rest ih =>
    obtain ⟨first, others⟩ := List.pairwise_cons.1 h
    have step := ih others
    by_cases hk : e.1 = key
    · have absent : get? key rest = none := get?_of_lt (hk ▸ first)
      rw [absent] at step
      by_cases hp : p e.2 <;> simp [get?, hk, hp, step, Option.filter]
    · rw [get?_cons_of_ne hk, ← step]
      by_cases hp : p e.2 <;> simp [get?, hk, hp]

theorem sorted_map_key (f : String → α → β) {t : Table α} (h : t.Sorted) :
    Table.Sorted (t.map fun e => (e.1, f e.1 e.2)) :=
  List.pairwise_map.2 h

theorem get?_map_key (f : String → α → β) (key : String) (t : Table α) :
    get? key (t.map fun e => (e.1, f e.1 e.2)) = (t.get? key).map (f key) := by
  induction t with
  | nil => rfl
  | cons e rest ih =>
    by_cases hk : e.1 = key
    · simp [get?, hk]
    · simpa [get?, hk] using ih

theorem sorted_filterMap {t : Table α} (h : t.Sorted) (f : α → Option β) :
    Table.Sorted (t.filterMap fun e => (f e.2).map fun v => (e.1, v)) := by
  refine List.pairwise_filterMap.2 (h.imp fun {a b} hlt c hc d hd => ?_)
  obtain ⟨v, -, rfl⟩ := Option.map_eq_some_iff.1 hc
  obtain ⟨w, -, rfl⟩ := Option.map_eq_some_iff.1 hd
  exact hlt

theorem get?_filterMap {t : Table α} (h : t.Sorted) (f : α → Option β) (key : String) :
    get? key (t.filterMap fun e => (f e.2).map fun v => (e.1, v)) = (t.get? key).bind f := by
  induction t with
  | nil => rfl
  | cons e rest ih =>
    obtain ⟨first, others⟩ := List.pairwise_cons.1 h
    have step := ih others
    by_cases hk : e.1 = key
    · have absent : get? key rest = none := get?_of_lt (hk ▸ first)
      rw [absent] at step
      cases hf : f e.2 <;> simp [get?, hk, hf, step]
    · rw [get?_cons_of_ne hk, ← step]
      cases hf : f e.2 <;> simp [get?, hk, hf]

/-- Where no key comes twice, only one item has the key of an item. -/
theorem filter_key_eq_singleton {key : α → String} {xs : List α}
    (nodup : (xs.map key).Nodup) {x : α} (hx : x ∈ xs) :
    xs.filter (key · == key x) = [x] := by
  induction xs with
  | nil => cases hx
  | cons first rest ih =>
    obtain ⟨fresh, nodup⟩ := List.nodup_cons.1 nodup
    rcases List.mem_cons.1 hx with rfl | hx
    · have others : rest.filter (key · == key x) = [] := by
        refine List.filter_eq_nil_iff.2 fun other ho heq => ?_
        have same : key other = key x := by simpa using heq
        exact fresh (List.mem_map.2 ⟨other, ho, same⟩)
      rw [List.filter_cons_of_pos (by simp), others]
    · have hne : key first ≠ key x := by
        intro heq
        exact fresh (List.mem_map.2 ⟨x, hx, heq.symm⟩)
      rw [List.filter_cons_of_neg (by simpa using hne), ih nodup hx]

theorem find?_key_eq_some {key : α → String} {xs : List α}
    (nodup : (xs.map key).Nodup) {x : α} (hx : x ∈ xs) :
    xs.find? (key · == key x) = some x := by
  rw [← List.head?_filter, filter_key_eq_singleton nodup hx, List.head?_cons]

/-- A new key adds its entry and moves no other. -/
theorem insert_perm {key : String} {t : Table α} (absent : ∀ e ∈ t, e.1 ≠ key) (value : α) :
    (t.insert key value).Perm ((key, value) :: t) := by
  induction t with
  | nil => exact List.Perm.refl _
  | cons e rest ih =>
    obtain ⟨different, absent⟩ := List.forall_mem_cons.1 absent
    rw [insert, if_neg different]
    split
    · exact List.Perm.refl _
    · exact ((ih absent).cons e).trans (List.Perm.swap ..)

/-- Where no key comes twice, a table has the entries that it is made from. -/
theorem overlay_perm {top : List (String × α)} {t : Table α}
    (nodup : ((t ++ top).map (·.1)).Nodup) : (t.overlay top).Perm (t ++ top) := by
  induction top generalizing t with
  | nil => rw [List.append_nil]; exact List.Perm.refl _
  | cons e rest ih =>
    have absent : ∀ d ∈ t, d.1 ≠ e.1 := by
      rw [List.map_append, List.nodup_append] at nodup
      exact fun d hd => nodup.2.2 _ (List.mem_map_of_mem hd) _ (List.mem_cons_self ..)
    have moved : (t.insert e.1 e.2 ++ rest).Perm (t ++ e :: rest) :=
      ((insert_perm absent e.2).append_right rest).trans List.perm_middle.symm
    exact (ih ((moved.map (·.1)).nodup_iff.2 nodup)).trans moved

theorem ofList_perm {entries : List (String × α)} (nodup : (entries.map (·.1)).Nodup) :
    (ofList entries).Perm entries := overlay_perm nodup

end CompositeObjects.Table
