import CompositeObjects.ProjectFile

namespace CompositeObjects

namespace Decoder

variable {α β σ : Type}

theorem exists_of_map_eq_ok {f : α → β} {x : Except Fault α} {y : β} (h : f <$> x = .ok y) :
    ∃ z, x = .ok z ∧ f z = y := by
  cases x with
  | error fault => cases h
  | ok z => exact ⟨z, rfl, Except.ok.inj h⟩

theorem exists_of_mapM_eq_ok {f : α → Except Fault β} {xs : List α} {ys : List β}
    (h : xs.mapM f = .ok ys) : ∀ y ∈ ys, ∃ x ∈ xs, f x = .ok y := by
  induction xs generalizing ys with
  | nil =>
    cases h
    intro y hy
    cases hy
  | cons x xs ih =>
    rw [List.mapM_cons] at h
    obtain ⟨z, hz, h⟩ := exists_of_bind_eq_ok h
    obtain ⟨zs, hzs, h⟩ := exists_of_bind_eq_ok h
    cases h
    intro y hy
    rcases List.mem_cons.1 hy with rfl | hy
    · exact ⟨x, List.mem_cons_self, hz⟩
    · obtain ⟨x', hx', hy'⟩ := ih hzs y hy
      exact ⟨x', List.mem_cons_of_mem _ hx', hy'⟩

/-- Each item of a list has been read by the decoder of items. -/
theorem exists_of_list {item : Decoder α} {place : Place} {draft : Draft} {xs : List α}
    (h : list item place draft = .ok xs) : ∀ x ∈ xs, ∃ place draft, item place draft = .ok x := by
  cases draft with
  | array items ending =>
    rw [list] at h
    obtain ⟨inner, -, h⟩ := exists_of_bind_eq_ok h
    obtain ⟨values, hvalues, h⟩ := exists_of_bind_eq_ok h
    rw [← close_eq_ok h]
    intro x hx
    obtain ⟨draft, -, hdraft⟩ := exists_of_mapM_eq_ok hvalues x hx
    exact ⟨inner, draft, hdraft⟩
  | _ => cases h

/-- What a field keeps of the record that is built up. -/
def Field.Keeps (Q : σ → Prop) (field : Field σ) : Prop :=
  ∀ s place draft s', Q s → field.read s place draft = .ok s' → Q s'

theorem Field.keeps_of {Q : σ → Prop} {key : String} {required : Bool} {decoder : Decoder α}
    {set : σ → α → σ}
    (h : ∀ s place draft x, Q s → decoder place draft = .ok x → Q (set s x)) :
    (Field.of key required decoder set).Keeps Q := by
  intro s place draft s' hs read
  obtain ⟨x, hx, rfl⟩ := exists_of_map_eq_ok read
  exact h s place draft x hs hx

/-- What has been done with the first entry: it has been passed over, or its field has been read. -/
theorem exists_of_fieldsFromEntries_cons {fields : List (Field σ)} {place : Place}
    {front : Except Fault String} {draft : Draft} {rest : List (Except Fault String × Draft)}
    {seen : List String} {s : σ} {result : List String × σ}
    (h : fieldsFromEntries fields place seen s ((front, draft) :: rest) = .ok result) :
    ∃ key, front = .ok key ∧
      (fields.find? (·.key == key) = none ∧
          fieldsFromEntries fields place seen s rest = .ok result ∨
        ∃ field s', fields.find? (·.key == key) = some field ∧ key ∉ seen ∧
          field.read s place draft = .ok s' ∧
          fieldsFromEntries fields place (key :: seen) s' rest = .ok result) := by
  rw [fieldsFromEntries] at h
  obtain ⟨key, hkey, h⟩ := exists_of_bind_eq_ok h
  refine ⟨key, hkey, ?_⟩
  split at h
  · rename_i missing
    split at h
    · cases h
    · exact .inl ⟨missing, h⟩
  · rename_i field found
    split at h
    · cases h
    · rename_i once
      obtain ⟨s', read, h⟩ := exists_of_bind_eq_ok h
      exact .inr ⟨field, s', found, by simpa using once, read, h⟩

theorem fieldsFromEntries_keeps {Q : σ → Prop} {fields : List (Field σ)} {place : Place}
    (keeps : ∀ field ∈ fields, field.Keeps Q) {seen : List String} {s : σ}
    {entries : List (Except Fault String × Draft)} {result : List String × σ} (hs : Q s)
    (h : fieldsFromEntries fields place seen s entries = .ok result) : Q result.2 := by
  induction entries generalizing seen s with
  | nil =>
    rw [fieldsFromEntries] at h
    cases h
    exact hs
  | cons e rest ih =>
    obtain ⟨front, draft⟩ := e
    obtain ⟨key, -, ⟨-, later⟩ | ⟨field, s', found, -, read, later⟩⟩ :=
      exists_of_fieldsFromEntries_cons h
    · exact ih hs later
    · exact ih (keeps field (List.mem_of_find?_eq_some found) _ _ _ _ hs read) later

theorem fieldsFromItems_keeps {Q : σ → Prop} {name : String} {size : Nat} {place : Place}
    {ending : Ending} {fields : List (Field σ)} (keeps : ∀ field ∈ fields, field.Keeps Q) {s : σ}
    {items : List Draft} {result : σ × List Draft} (hs : Q s)
    (h : fieldsFromItems name size place ending fields s items = .ok result) : Q result.1 := by
  induction fields generalizing s items with
  | nil =>
    rw [fieldsFromItems] at h
    cases h
    exact hs
  | cons field fields ih =>
    have others : ∀ field ∈ fields, field.Keeps Q :=
      fun field hfield => keeps field (List.mem_cons_of_mem _ hfield)
    cases items with
    | cons item items =>
      rw [fieldsFromItems] at h
      obtain ⟨s', read, h⟩ := exists_of_bind_eq_ok h
      exact ih others (keeps field List.mem_cons_self _ _ _ _ hs read) h
    | nil =>
      rw [fieldsFromItems] at h
      split at h
      · cases h
      · split at h
        · cases h
        · exact ih others hs h

/-- A record that has been read has what the record it began as had, where each field keeps it. -/
theorem record_keeps {Q : σ → Prop} {name : String} {fields : List (Field σ)} {start : σ}
    (keeps : ∀ field ∈ fields, field.Keeps Q) (hstart : Q start) {place : Place} {draft : Draft}
    {s : σ} (h : record name fields start place draft = .ok s) : Q s := by
  cases draft with
  | object entries ending =>
    rw [record] at h
    obtain ⟨inner, -, h⟩ := exists_of_bind_eq_ok h
    obtain ⟨⟨seen, read⟩, hread, h⟩ := exists_of_bind_eq_ok h
    obtain ⟨closed, hclosed, h⟩ := exists_of_bind_eq_ok h
    have kept : Q read := fieldsFromEntries_keeps keeps hstart hread
    rw [close_eq_ok hclosed] at kept
    split at h
    · cases h
    · cases h
      exact kept
  | array items ending =>
    rw [record] at h
    obtain ⟨inner, -, h⟩ := exists_of_bind_eq_ok h
    obtain ⟨⟨read, left⟩, hread, h⟩ := exists_of_bind_eq_ok h
    have kept : Q read := fieldsFromItems_keeps keeps hstart hread
    dsimp only at h
    split at h
    · rw [close_eq_ok h] at kept
      exact kept
    · cases h
    · cases h
  | _ => cases h

end Decoder

/-- The trees of all children are sorted. -/
def TypeEntry.Sorted (t : TypeEntry) : Prop := ∀ c ∈ t.children, (Json.object c.tree).Sorted

def ExtensionEntry.Sorted (e : ExtensionEntry) : Prop := ∀ t ∈ e.types, t.Sorted

def ProjectFile.Sorted (file : ProjectFile) : Prop := ∀ e ∈ file.extensions, e.Sorted

theorem ProjectFile.Sorted.types {file : ProjectFile} (h : file.Sorted) :
    ∀ t ∈ file.types, t.2.Sorted := by
  intro t ht
  obtain ⟨e, he, ht⟩ := List.mem_flatMap.1 ht
  obtain ⟨t', ht', rfl⟩ := List.mem_map.1 ht
  exact h e he t' ht'

namespace ChildEntry

theorem readEntries_sorted {place : Place} {entries : List (Except Fault String × Draft)}
    {parts result : Parts} (hparts : Json.SortedEntries parts.tree)
    (h : readEntries place parts entries = .ok result) : Json.SortedEntries result.tree := by
  induction entries generalizing parts with
  | nil =>
    rw [readEntries] at h
    cases h
    exact hparts
  | cons e rest ih =>
    obtain ⟨key, draft⟩ := e
    rw [readEntries] at h
    obtain ⟨key, -, h⟩ := Decoder.exists_of_bind_eq_ok h
    split at h
    · split at h
      · cases h
      · obtain ⟨name, -, h⟩ := Decoder.exists_of_bind_eq_ok h
        refine ih ?_ h
        exact hparts
    · split at h
      · split at h
        · cases h
        · obtain ⟨typeName, -, h⟩ := Decoder.exists_of_bind_eq_ok h
          refine ih ?_ h
          exact hparts
      · obtain ⟨value, hvalue, h⟩ := Decoder.exists_of_bind_eq_ok h
        refine ih (Json.sortedEntries_iff.2 fun e he => ?_) h
        rcases List.mem_append.1 he with he | he
        · exact Json.sortedEntries_iff.1 hparts e he
        · rw [List.mem_singleton.1 he]
          exact Decoder.sorted_of_json hvalue

theorem sorted_of_decoder {place : Place} {draft : Draft} {child : ChildEntry}
    (h : decoder place draft = .ok child) : (Json.object child.tree).Sorted := by
  cases draft with
  | object entries ending =>
    rw [decoder] at h
    obtain ⟨inner, -, h⟩ := Decoder.exists_of_bind_eq_ok h
    obtain ⟨parts, hparts, h⟩ := Decoder.exists_of_bind_eq_ok h
    obtain ⟨closed, hclosed, h⟩ := Decoder.exists_of_bind_eq_ok h
    have start : Json.SortedEntries (Parts.tree {}) := trivial
    have sorted := Json.sortedEntries_iff.1 (readEntries_sorted start hparts)
    rw [Decoder.close_eq_ok hclosed] at sorted
    split at h
    · cases h
    · cases h
    · cases h
      refine ⟨Table.sorted_ofList _, Json.sortedEntries_iff.2 fun e he => ?_⟩
      exact sorted e ((Table.mem_overlay he).resolve_left (by simp))
  | _ => cases h

end ChildEntry

theorem TypeEntry.sorted_of_decoder {place : Place} {draft : Draft} {t : TypeEntry}
    (h : decoder place draft = .ok t) : t.Sorted := by
  refine Decoder.record_keeps (fun field hfield => ?_) (fun c hc => by cases hc) h
  simp only [List.mem_cons, List.not_mem_nil, or_false] at hfield
  rcases hfield with rfl | rfl | rfl | rfl | rfl
  · exact Decoder.Field.keeps_of fun _ _ _ _ hs _ => hs
  · exact Decoder.Field.keeps_of fun _ _ _ _ hs _ => hs
  · exact Decoder.Field.keeps_of fun _ _ _ _ hs _ => hs
  · refine Decoder.Field.keeps_of fun _ _ _ children _ read c hc => ?_
    obtain ⟨place, draft, hc⟩ := Decoder.exists_of_list read c hc
    exact ChildEntry.sorted_of_decoder hc
  · exact Decoder.Field.keeps_of fun _ _ _ _ hs _ => hs

theorem ExtensionEntry.sorted_of_decoder {place : Place} {draft : Draft} {e : ExtensionEntry}
    (h : decoder place draft = .ok e) : e.Sorted := by
  refine Decoder.record_keeps (fun field hfield => ?_) (fun t ht => by cases ht) h
  simp only [List.mem_cons, List.not_mem_nil, or_false] at hfield
  rcases hfield with rfl | rfl
  · exact Decoder.Field.keeps_of fun _ _ _ _ hs _ => hs
  · refine Decoder.Field.keeps_of fun _ _ _ types _ read t ht => ?_
    obtain ⟨place, draft, ht⟩ := Decoder.exists_of_list read t ht
    exact TypeEntry.sorted_of_decoder ht

/-- A project file that has been read holds sorted trees only. -/
theorem ProjectFile.sorted_of_decoder {place : Place} {draft : Draft} {file : ProjectFile}
    (h : decoder place draft = .ok file) : file.Sorted := by
  refine Decoder.record_keeps (fun field hfield => ?_) (fun e he => by cases he) h
  rw [List.mem_singleton.1 hfield]
  refine Decoder.Field.keeps_of fun _ _ _ extensions _ read e he => ?_
  obtain ⟨place, draft, he⟩ := Decoder.exists_of_list read e he
  exact ExtensionEntry.sorted_of_decoder he

end CompositeObjects
