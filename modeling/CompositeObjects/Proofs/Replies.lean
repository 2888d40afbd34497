import CompositeObjects.Proofs.Tour

namespace CompositeObjects

namespace Walker

variable {σ : Type} (walker : Walker σ)

/-- What a walker answers to each visit, one after the other. -/
def replies : List Visit → σ → List (Visit × String)
  | [], _ => []
  | v :: rest, s =>
    (v, (walker.visit v.kind v.value s).1) :: replies rest (walker.visit v.kind v.value s).2

/-- The state of a walker after all the visits. -/
def final (visits : List Visit) (s : σ) : σ :=
  visits.foldl (fun s v => (walker.visit v.kind v.value s).2) s

theorem map_fst_replies (visits : List Visit) (s : σ) :
    (walker.replies visits s).map (·.1) = visits := by
  induction visits generalizing s with
  | nil => rfl
  | cons v rest ih => rw [replies, List.map_cons, ih]

theorem mem_of_mem_replies {visits : List Visit} {s : σ} {r : Visit × String}
    (h : r ∈ walker.replies visits s) : r.1 ∈ visits := by
  rw [← walker.map_fst_replies visits s]
  exact List.mem_map.2 ⟨r, h, rfl⟩

theorem replies_append (visits others : List Visit) (s : σ) :
    walker.replies (visits ++ others) s =
      walker.replies visits s ++ walker.replies others (walker.final visits s) := by
  induction visits generalizing s with
  | nil => rfl
  | cons v rest ih =>
    rw [List.cons_append, replies, replies, ih]
    rfl

theorem final_append (visits others : List Visit) (s : σ) :
    walker.final (visits ++ others) s = walker.final others (walker.final visits s) :=
  List.foldl_append

/-- Where a resource stands makes no difference to the walker. -/
theorem replies_under (name : String) (visits : List Visit) (s : σ) :
    walker.replies (visits.map (Visit.under name)) s =
      (walker.replies visits s).map fun r => (r.1.under name, r.2) := by
  induction visits generalizing s with
  | nil => rfl
  | cons v rest ih =>
    rw [List.map_cons, replies, replies, List.map_cons]
    exact congrArg _ (ih _)

theorem final_under (name : String) (visits : List Visit) (s : σ) :
    walker.final (visits.map (Visit.under name)) s = walker.final visits s :=
  List.foldl_map

/-- A walker that writes down what it is asked. -/
def recording : Walker (σ × List (ResourceKind × String)) where
  visit kind value s :=
    ((walker.visit kind value s.1).1, (walker.visit kind value s.1).2, s.2 ++ [(kind, value)])

theorem replies_recording (visits : List Visit) (s : σ × List (ResourceKind × String)) :
    walker.recording.replies visits s = walker.replies visits s.1 := by
  induction visits generalizing s with
  | nil => rfl
  | cons v rest ih =>
    rw [replies, replies, ih]
    rfl

theorem final_recording (visits : List Visit) (s : σ × List (ResourceKind × String)) :
    walker.recording.final visits s =
      (walker.final visits s.1, s.2 ++ visits.map fun v => (v.kind, v.value)) := by
  induction visits generalizing s with
  | nil => simp [final]
  | cons v rest ih =>
    have step := ih (walker.recording.visit v.kind v.value s).2
    rw [recording, List.append_assoc] at step
    exact step

end Walker

/-- The names and answers that are stored at a path. An answer that is the old value is not. -/
def changes (path : List String) (replies : List (Visit × String)) : List (String × String) :=
  replies.filterMap fun r =>
    if r.1.path = path ∧ r.2 ≠ r.1.value then some (r.1.name, r.2) else none

/-- The replies to what is under the child of that name, as seen from the child. -/
def within (name : String) (replies : List (Visit × String)) : List (Visit × String) :=
  replies.filterMap fun r =>
    match r.1.path with
    | [] => none
    | first :: path => if first = name then some ({ r.1 with path }, r.2) else none

variable {replies others : List (Visit × String)}

theorem mem_changes_iff {path : List String} {e : String × String} :
    e ∈ changes path replies ↔ ∃ r ∈ replies, r.1.path = path ∧ r.2 ≠ r.1.value ∧
      e = (r.1.name, r.2) := by
  rw [changes, List.mem_filterMap]
  constructor
  · rintro ⟨r, hr, made⟩
    split at made
    · rename_i here
      exact ⟨r, hr, here.1, here.2, (Option.some.inj made).symm⟩
    · cases made
  · rintro ⟨r, hr, hpath, hne, rfl⟩
    exact ⟨r, hr, if_pos ⟨hpath, hne⟩⟩

theorem changes_cons_of_new (v : Visit) {answer : String} (new : answer ≠ v.value)
    (others : List (Visit × String)) :
    changes v.path ((v, answer) :: others) = (v.name, answer) :: changes v.path others :=
  List.filterMap_cons_some (if_pos ⟨rfl, new⟩)

theorem changes_cons_of_old (path : List String) (v : Visit) {answer : String}
    (old : answer = v.value) (others : List (Visit × String)) :
    changes path ((v, answer) :: others) = changes path others :=
  List.filterMap_cons_none (if_neg fun h => h.2 old)

theorem changes_append (path : List String) :
    changes path (replies ++ others) = changes path replies ++ changes path others :=
  List.filterMap_append

theorem within_append (name : String) :
    within name (replies ++ others) = within name replies ++ within name others :=
  List.filterMap_append

theorem changes_cons (name : String) (path : List String) (replies : List (Visit × String)) :
    changes (name :: path) replies = changes path (within name replies) := by
  rw [changes, changes, within, List.filterMap_filterMap]
  refine List.filterMap_congr fun r _ => ?_
  cases hpath : r.1.path with
  | nil => simp
  | cons first rest =>
    by_cases hname : first = name
    · simp [hname]
    · simp [hname]

/-- What is under a child has no part in what is stored in the object that holds it. -/
theorem changes_nil_of_deeper (deeper : ∀ r ∈ replies, r.1.path ≠ []) :
    changes [] replies = [] := by
  refine List.filterMap_eq_nil_iff.2 fun r hr => ?_
  exact if_neg fun here => deeper r hr here.1

theorem within_of_head?_ne {name : String} (elsewhere : ∀ r ∈ replies, r.1.path.head? ≠ some name) :
    within name replies = [] := by
  refine List.filterMap_eq_nil_iff.2 fun r hr => ?_
  have hne := elsewhere r hr
  cases hpath : r.1.path with
  | nil => rfl
  | cons first path =>
    rw [hpath, List.head?_cons] at hne
    exact if_neg fun hname => hne (congrArg some hname)

theorem within_under_of_ne {name other : String} (hne : other ≠ name)
    (replies : List (Visit × String)) :
    within name (replies.map fun r => (r.1.under other, r.2)) = [] := by
  refine within_of_head?_ne fun r hr => ?_
  obtain ⟨inner, -, rfl⟩ := List.mem_map.1 hr
  exact fun same => hne (Option.some.inj same)

theorem within_under_self (name : String) (replies : List (Visit × String)) :
    within name (replies.map fun r => (r.1.under name, r.2)) = replies := by
  rw [within, List.filterMap_map]
  refine (List.filterMap_congr fun r _ => ?_).trans List.filterMap_some
  simp [Visit.under]

/-- A resource that is come to once is stored once. -/
theorem nodup_changes (once : (replies.map fun r => r.1.site).Nodup) (path : List String) :
    ((changes path replies).map (·.1)).Nodup := by
  refine List.pairwise_map.2 (List.pairwise_filterMap.2 ?_)
  refine (List.pairwise_map.1 once).imp fun {r r'} hne e he e' he' same => ?_
  split at he
  · rename_i here
    split at he'
    · rename_i here'
      cases he
      cases he'
      exact hne (Prod.ext (here.1.trans here'.1.symm) same)
    · cases he'
  · cases he

/-- What is stored for a visited resource is the answer, if that is a new one. -/
theorem get?_changes_of_mem (once : (replies.map fun r => r.1.site).Nodup) {r : Visit × String}
    (hr : r ∈ replies) :
    Table.get? r.1.name (changes r.1.path replies) =
      if r.2 = r.1.value then none else some r.2 := by
  split
  · rename_i kept
    rw [Table.get?_eq_none_iff, List.mem_map]
    rintro ⟨e, he, hname⟩
    obtain ⟨r', hr', hpath, hne, rfl⟩ := mem_changes_iff.1 he
    have same : r' = r := List.inj_on_of_nodup_map once hr' hr (Prod.ext hpath hname)
    rw [same] at hne
    exact hne kept
  · rename_i changed
    exact Table.get?_of_mem (nodup_changes once _) (mem_changes_iff.2 ⟨r, hr, rfl, changed, rfl⟩)

end CompositeObjects
