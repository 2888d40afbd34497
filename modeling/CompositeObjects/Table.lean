namespace CompositeObjects

/-- Entries under text keys; the operations keep them in increasing key order. -/
abbrev Table (α : Type u) := List (String × α)

namespace Table

variable {α : Type u} {β : Type v}

/-- The keys increase strictly. -/
def Sorted (t : Table α) : Prop := t.Pairwise (·.1 < ·.1)

instance (t : Table α) : Decidable t.Sorted :=
  inferInstanceAs (Decidable (t.Pairwise (·.1 < ·.1)))

def get? (key : String) : Table α → Option α
  | [] => none
  | (k, v) :: rest => if k = key then some v else get? key rest

def contains (t : Table α) (key : String) : Bool := (t.get? key).isSome

/-- A key that is already there gets the new value; a new key goes to its place in the order. -/
def insert (key : String) (value : α) : Table α → Table α
  | [] => [(key, value)]
  | (k, v) :: rest =>
    if k = key then (key, value) :: rest
    else if key < k then (key, value) :: (k, v) :: rest
    else (k, v) :: insert key value rest

def erase (key : String) (t : Table α) : Table α := t.filter (·.1 ≠ key)

/-- The entries of `top` over those of `t`, one by one. -/
def overlay (t top : Table α) : Table α := top.foldl (fun t e => t.insert e.1 e.2) t

/-- Of two entries with the same key the later one stays. -/
def ofList (entries : List (String × α)) : Table α := overlay [] entries

def keys (t : Table α) : List String := t.map (·.1)

def mapValues (f : α → β) (t : Table α) : Table β := t.map fun e => (e.1, f e.2)

@[simp] theorem get?_nil (key : String) : get? key ([] : Table α) = none := rfl

theorem get?_insert_self (key : String) (value : α) (t : Table α) :
    (t.insert key value).get? key = some value := by
  induction t with
  | nil => simp [insert, get?]
  | cons e rest ih =>
    obtain ⟨k, v⟩ := e
    by_cases h : k = key
    · simp [insert, get?, h]
    · by_cases hlt : key < k
      · simp [insert, get?, h, hlt]
      · simp [insert, get?, h, hlt, ih]

theorem get?_insert_of_ne {key key' : String} (hne : key' ≠ key) (value : α) (t : Table α) :
    (t.insert key value).get? key' = t.get? key' := by
  induction t with
  | nil => simp [insert, get?, Ne.symm hne]
  | cons e rest ih =>
    obtain ⟨k, v⟩ := e
    by_cases h : k = key
    · simp [insert, get?, h, Ne.symm hne]
    · by_cases hlt : key < k
      · simp [insert, get?, h, hlt, Ne.symm hne]
      · simp [insert, get?, h, hlt, ih]

theorem get?_erase_self (key : String) (t : Table α) : (t.erase key).get? key = none := by
  induction t with
  | nil => rfl
  | cons e rest ih =>
    obtain ⟨k, v⟩ := e
    by_cases h : k = key
    · simpa [erase, h] using ih
    · simpa [erase, get?, h] using ih

theorem get?_erase_of_ne {key key' : String} (hne : key' ≠ key) (t : Table α) :
    (t.erase key).get? key' = t.get? key' := by
  induction t with
  | nil => rfl
  | cons e rest ih =>
    obtain ⟨k, v⟩ := e
    by_cases h : k = key
    · simpa [erase, get?, h, Ne.symm hne] using ih
    · by_cases h' : k = key'
      · simp [erase, get?, h', hne]
      · simpa [erase, get?, h, h'] using ih

theorem mem_insert {key : String} {value : α} {t : Table α} {e : String × α}
    (h : e ∈ t.insert key value) : e = (key, value) ∨ e ∈ t := by
  induction t with
  | nil => simpa [insert] using h
  | cons d rest ih =>
    obtain ⟨k, v⟩ := d
    rw [insert] at h
    split at h
    · simp only [List.mem_cons] at h ⊢
      exact h.imp_right Or.inr
    · split at h
      · simpa using h
      · simp only [List.mem_cons] at h ⊢
        rcases h with h | h
        · exact Or.inr (Or.inl h)
        · exact (ih h).imp_right Or.inr

theorem mem_overlay {t : Table α} {top : List (String × α)} {e : String × α}
    (h : e ∈ t.overlay top) : e ∈ t ∨ e ∈ top := by
  induction top generalizing t with
  | nil => exact Or.inl h
  | cons d rest ih =>
    rcases ih h with h | h
    · exact (mem_insert h).elim (fun h => Or.inr (by simp [h])) Or.inl
    · exact Or.inr (List.mem_cons_of_mem _ h)

theorem sorted_nil : Sorted ([] : Table α) := List.Pairwise.nil

theorem sorted_insert (key : String) (value : α) {t : Table α} (h : t.Sorted) :
    (t.insert key value).Sorted := by
  induction t with
  | nil => simp [insert, Sorted]
  | cons e rest ih =>
    obtain ⟨k, v⟩ := e
    obtain ⟨first, others⟩ := List.pairwise_cons.1 h
    rw [insert]
    split
    · rename_i hk
      exact List.pairwise_cons.2 ⟨hk ▸ first, others⟩
    · rename_i hk
      split
      · rename_i hlt
        refine List.pairwise_cons.2 ⟨fun e he => ?_, h⟩
        rcases List.mem_cons.1 he with rfl | he
        · exact hlt
        · exact String.lt_trans hlt (first e he)
      · rename_i hlt
        refine List.pairwise_cons.2 ⟨fun e he => ?_, ih others⟩
        rcases mem_insert he with rfl | he
        · exact String.not_le.1 fun hle => hk (String.le_antisymm (String.not_lt.1 hlt) hle)
        · exact first e he

theorem sorted_erase (key : String) {t : Table α} (h : t.Sorted) : (t.erase key).Sorted :=
  h.filter _

theorem sorted_overlay {t : Table α} (h : t.Sorted) (top : List (String × α)) :
    (t.overlay top).Sorted := by
  induction top generalizing t with
  | nil => exact h
  | cons e rest ih => exact ih (sorted_insert e.1 e.2 h)

theorem sorted_ofList (entries : List (String × α)) : (ofList entries).Sorted :=
  sorted_overlay sorted_nil entries

theorem sorted_mapValues (f : α → β) {t : Table α} (h : t.Sorted) : (t.mapValues f).Sorted :=
  List.pairwise_map.2 h

theorem get?_mapValues (f : α → β) (key : String) (t : Table α) :
    (t.mapValues f).get? key = (t.get? key).map f := by
  induction t with
  | nil => rfl
  | cons e rest ih =>
    by_cases h : e.1 = key
    · simp [mapValues, get?, h]
    · simpa [mapValues, get?, h] using ih

/-- Below the first key there is nothing. -/
theorem get?_of_lt {key : String} {t : Table α} (h : ∀ e ∈ t, key < e.1) : t.get? key = none := by
  induction t with
  | nil => rfl
  | cons e rest ih =>
    have hne : e.1 ≠ key := fun he => String.lt_irrefl key (by simpa [he] using h e (by simp))
    simpa [get?, hne] using ih fun d hd => h d (by simp [hd])

/-- Sorted tables that answer alike are the same. -/
theorem eq_of_get?_eq {s t : Table α} (hs : s.Sorted) (ht : t.Sorted)
    (h : ∀ key, s.get? key = t.get? key) : s = t := by
  induction s generalizing t with
  | nil =>
    cases t with
    | nil => rfl
    | cons e rest => simpa [get?] using h e.1
  | cons d s ih =>
    cases t with
    | nil => simpa [get?] using h d.1
    | cons e t =>
      obtain ⟨firstS, hs⟩ := List.pairwise_cons.1 hs
      obtain ⟨firstT, ht⟩ := List.pairwise_cons.1 ht
      have notLess {a b : String × α} {r : Table α} (hab : a.1 < b.1) (hr : ∀ c ∈ r, b.1 < c.1) :
          get? a.1 (b :: r) = none := by
        apply get?_of_lt
        intro c hc
        rcases List.mem_cons.1 hc with rfl | hc
        · exact hab
        · exact String.lt_trans hab (hr c hc)
      have hkey : d.1 = e.1 := by
        apply String.le_antisymm
        · refine String.not_lt.1 fun hlt => ?_
          have := h e.1
          rw [notLess hlt firstS] at this
          simp [get?] at this
        · refine String.not_lt.1 fun hlt => ?_
          have := h d.1
          rw [notLess hlt firstT] at this
          simp [get?] at this
      have hvalue : d.2 = e.2 := by simpa [get?, hkey] using h d.1
      have hrest : s = t := by
        refine ih hs ht fun key => ?_
        by_cases hk : d.1 = key
        · rw [get?_of_lt (hk ▸ firstS), get?_of_lt (by rw [← hk, hkey]; exact firstT)]
        · have := h key
          simpa [get?, hk, hkey ▸ hk] using this
      rw [Prod.ext hkey hvalue, hrest]

theorem get?_overlay (t : Table α) {top : Table α} (h : top.Sorted) (key : String) :
    (t.overlay top).get? key = (top.get? key).or (t.get? key) := by
  induction top generalizing t with
  | nil => rfl
  | cons e rest ih =>
    obtain ⟨first, hrest⟩ := List.pairwise_cons.1 h
    have step := ih (t.insert e.1 e.2) hrest
    by_cases hk : e.1 = key
    · have absent : get? key rest = none := get?_of_lt (hk ▸ first)
      rw [absent, ← hk, get?_insert_self] at step
      simpa [overlay, get?, hk] using step
    · rw [get?_insert_of_ne (Ne.symm hk)] at step
      simpa [overlay, get?, hk] using step

theorem ofList_of_sorted {t : Table α} (h : t.Sorted) : ofList t = t :=
  eq_of_get?_eq (sorted_ofList t) h fun key => by simp [ofList, get?_overlay [] h key]

end Table
end CompositeObjects
