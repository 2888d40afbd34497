import CompositeObjects.Proofs.Decoding
import CompositeObjects.Proofs.Table

namespace CompositeObjects.Decoder

variable {σ : Type} {fields : List (Field σ)} {place inner : Place}

theorem list_text (room : place.enter = .ok inner) (texts : List String) :
    list text place (Draft.ofJson (.array (texts.map .string))) = .ok texts := by
  have items : (Draft.ofItems (texts.map .string)).mapM (text inner) = .ok texts := by
    induction texts with
    | nil => rfl
    | cons t rest ih =>
      rw [List.map_cons, Draft.ofItems, List.mapM_cons, ih]
      rfl
  rw [Draft.ofJson, list, room]
  change ((Draft.ofItems (texts.map .string)).mapM (text inner) >>= fun items => .ok items) = _
  rw [items]
  rfl

/-- An entry of a field that is new goes to its field. -/
theorem fieldsFromEntries_cons {key : String} {draft : Draft} {field : Field σ} {seen : List String}
    {s s' : σ} (found : fields.find? (·.key == key) = some field) (new : key ∉ seen)
    (read : field.read s place draft = .ok s') (rest : List (Except Fault String × Draft)) :
    fieldsFromEntries fields place seen s ((.ok key, draft) :: rest) =
      fieldsFromEntries fields place (key :: seen) s' rest := by
  have once : seen.contains key = false := by simpa using new
  rw [fieldsFromEntries]
  simp only [bind, Except.bind, found, once, read, Bool.false_eq_true, if_false]

/-- The entries of an object fill the fields of a record, whatever their order. -/
theorem fieldsFromEntries_ofEntries {put : σ → String → σ} {entries : List (String × Json)}
    (each : ∀ e ∈ entries, ∃ field, fields.find? (·.key == e.1) = some field ∧
      ∀ s, field.read s place (Draft.ofJson e.2) = .ok (put s e.1))
    (nodup : (entries.map (·.1)).Nodup) {seen : List String} (fresh : ∀ e ∈ entries, e.1 ∉ seen)
    (s : σ) : fieldsFromEntries fields place seen s (Draft.ofEntries entries) =
      .ok ((entries.map (·.1)).reverse ++ seen, (entries.map (·.1)).foldl put s) := by
  induction entries generalizing seen s with
  | nil => rfl
  | cons e rest ih =>
    obtain ⟨key, value⟩ := e
    obtain ⟨⟨field, found, read⟩, each⟩ := List.forall_mem_cons.1 each
    obtain ⟨new, nodup⟩ := List.nodup_cons.1 nodup
    obtain ⟨unseen, fresh⟩ := List.forall_mem_cons.1 fresh
    have later : ∀ e ∈ rest, e.1 ∉ key :: seen := by
      intro e he among
      rcases List.mem_cons.1 among with same | among
      · exact new (List.mem_map.2 ⟨e, he, same⟩)
      · exact fresh e he among
    rw [Draft.ofEntries, fieldsFromEntries_cons found unseen (read s), ih each nodup later,
      List.map_cons, List.reverse_cons, List.append_assoc]
    rfl

/-- A record that is read from an object with exactly its fields, whatever their order. -/
theorem record_ofJson_object {name : String} (put : σ → String → σ)
    {entries : List (String × Json)} (room : place.enter = .ok inner)
    (each : ∀ e ∈ entries, ∃ field, fields.find? (·.key == e.1) = some field ∧
      ∀ s, field.read s inner (Draft.ofJson e.2) = .ok (put s e.1))
    (nodup : (entries.map (·.1)).Nodup)
    (complete : ∀ field ∈ fields, field.key ∈ entries.map (·.1)) (start : σ) :
    record name fields start place (Draft.ofJson (.object entries)) =
      .ok ((entries.map (·.1)).foldl put start) := by
  let keys := entries.map (·.1)
  have filled := fieldsFromEntries_ofEntries each nodup (fun _ _ => List.not_mem_nil) start
  have nothing : fields.find? (fun field => field.required &&
      !(keys.reverse ++ []).contains field.key) = none := by
    rw [List.find?_eq_none]
    intro field hfield
    have among : (keys.reverse ++ []).contains field.key := by
      rw [List.contains_iff_mem, List.append_nil, List.mem_reverse]
      exact complete field hfield
    rw [among]
    simp
  rw [Draft.ofJson, record, room]
  simp only [bind, Except.bind, filled, close, Ending.objectFault]
  rw [nothing]

/-- The reader of a text takes nothing but a text. -/
theorem eq_string_of_text {draft : Draft} {s : String} (h : text place draft = .ok s) :
    draft = .string (.ok s) := by
  cases draft with
  | string value => rw [show value = .ok s from h]
  | _ => cases h

/-- What stands in a draft of a record for one of the fields: under its key in an object, in its
place in a list. -/
def Holds (key : String) (index : Nat) (value : Draft) : Draft → Prop
  | .object entries _ => (.ok key, value) ∈ entries
  | .array items _ => items[index]? = some value
  | _ => False

/-- What a record shows of one field is written as it was read, and no other field changes it. -/
structure Shows {β : Type} (fields : List (Field σ)) (own : Field σ) (shown : σ → β)
    (write : β → Draft) : Prop where
  reads : ∀ s place draft s', own.read s place draft = .ok s' → draft = write (shown s')
  others : ∀ field ∈ fields, field.key ≠ own.key → ∀ s place draft s',
    field.read s place draft = .ok s' → shown s' = shown s

section Shown

variable {β : Type} {own : Field σ} {shown : σ → β} {write : β → Draft} {s s' : σ}

theorem Shows.tail {field : Field σ} (shows : Shows (field :: fields) own shown write) :
    Shows fields own shown write :=
  ⟨shows.reads, fun other hother => shows.others other (List.mem_cons_of_mem _ hother)⟩

/-- The record shows what stands under the key of the field, and nothing else stands there. -/
theorem mem_entries_iff_of_fieldsFromEntries
    (found : fields.find? (·.key == own.key) = some own)
    (shows : Shows fields own shown write)
    {entries : List (Except Fault String × Draft)} {seen seen' : List String}
    (h : fieldsFromEntries fields place seen s entries = .ok (seen', s')) :
    (own.key ∈ seen → (∀ value, (.ok own.key, value) ∉ entries) ∧ shown s' = shown s) ∧
    (own.key ∉ seen → own.key ∈ seen' →
      ∀ value, (.ok own.key, value) ∈ entries ↔ value = write (shown s')) := by
  -- Before and after its entry: once the key has been seen, it does not come again.
  induction entries generalizing seen s with
  | nil =>
    rw [fieldsFromEntries] at h
    cases h
    exact ⟨fun _ => ⟨fun _ => List.not_mem_nil, rfl⟩, fun new among => absurd among new⟩
  | cons e rest ih =>
    obtain ⟨front, draft⟩ := e
    obtain ⟨key, rfl, step⟩ := exists_of_fieldsFromEntries_cons h
    by_cases same : key = own.key
    · subst same
      obtain ⟨missing, -⟩ | ⟨field, s₁, hfield, new, read, later⟩ := step
      · rw [found] at missing
        cases missing
      · obtain rfl : own = field := Option.some.inj (found.symm.trans hfield)
        obtain ⟨noneLeft, kept⟩ := (ih later).1 List.mem_cons_self
        refine ⟨fun among => absurd among new, fun _ _ value => ?_⟩
        rw [List.mem_cons, or_iff_left (noneLeft value), kept, ← shows.reads s place draft s₁ read]
        simp
    · have passed (value : Draft) : (.ok own.key, value) ∈ (.ok key, draft) :: rest ↔
          (.ok own.key, value) ∈ rest := by
        simp [Ne.symm same]
      simp only [passed]
      obtain ⟨-, later⟩ | ⟨field, s₁, hfield, -, read, later⟩ := step
      · exact ih later
      · have named : field.key = key := by simpa using List.find?_some hfield
        have kept := shows.others field (List.mem_of_find?_eq_some hfield) (named ▸ same) s place
          draft s₁ read
        have later := ih later
        simp only [List.mem_cons, Ne.symm same, false_or, kept] at later
        exact later

theorem getElem?_items_of_fieldsFromItems {name : String} {size : Nat} {ending : Ending}
    {index : Nat} (placed : fields[index]? = some own) (required : own.required = true)
    (nodup : (fields.map (·.key)).Nodup)
    (shows : Shows fields own shown write)
    {items left : List Draft}
    (h : fieldsFromItems name size place ending fields s items = .ok (s', left)) :
    items[index]? = some (write (shown s')) := by
  induction fields generalizing index s items with
  | nil => cases placed
  | cons field fields ih =>
    obtain ⟨new, nodup⟩ := List.nodup_cons.1 nodup
    cases index with
    | zero =>
      obtain rfl : field = own := Option.some.inj placed
      cases items with
      | nil =>
        rw [fieldsFromItems, required] at h
        split at h
        · cases h
        · cases h
      | cons item items =>
        rw [fieldsFromItems] at h
        obtain ⟨s₁, read, h⟩ := exists_of_bind_eq_ok h
        have apart : ∀ other ∈ fields, other.key ≠ field.key :=
          fun other hother same => new (List.mem_map.2 ⟨other, hother, same⟩)
        have kept : shown s' = shown s₁ := by
          refine fieldsFromItems_keeps (Q := (shown · = shown s₁))
            (fun other hother s place draft s' hs read => ?_) rfl h
          exact (shows.tail.others other hother (apart other hother) s place draft s' read).trans hs
        rw [List.getElem?_cons_zero, kept, ← shows.reads s place item s₁ read]
    | succ index =>
      cases items with
      | nil =>
        rw [fieldsFromItems] at h
        split at h
        · cases h
        · split at h
          · cases h
          · exact absurd (ih placed nodup shows.tail h) (by simp)
      | cons item items =>
        rw [fieldsFromItems] at h
        obtain ⟨s₁, -, h⟩ := exists_of_bind_eq_ok h
        exact ih placed nodup shows.tail h

/-- A required field is there once, with the value that the record has for it. -/
theorem holds_iff_of_record {name : String} {start : σ} {index : Nat} {draft : Draft}
    (own : Field σ) (shown : σ → β) (write : β → Draft)
    (placed : fields[index]? = some own) (required : own.required = true)
    (nodup : (fields.map (·.key)).Nodup) (shows : Shows fields own shown write)
    (h : record name fields start place draft = .ok s) (value : Draft) :
    Holds own.key index value draft ↔ value = write (shown s) := by
  have found : fields.find? (·.key == own.key) = some own :=
    Table.find?_key_eq_some nodup (List.mem_of_getElem? placed)
  cases draft with
  | object entries ending =>
    rw [record] at h
    obtain ⟨inner, -, h⟩ := exists_of_bind_eq_ok h
    obtain ⟨⟨seen, read⟩, hread, h⟩ := exists_of_bind_eq_ok h
    obtain ⟨closed, hclosed, h⟩ := exists_of_bind_eq_ok h
    obtain rfl := close_eq_ok hclosed
    split at h
    · cases h
    · rename_i complete
      cases h
      have present : own.key ∈ seen := by
        simpa [required] using List.find?_eq_none.1 complete own (List.mem_of_find?_eq_some found)
      exact (mem_entries_iff_of_fieldsFromEntries found shows hread).2 List.not_mem_nil
        present value
  | array items ending =>
    rw [record] at h
    obtain ⟨inner, -, h⟩ := exists_of_bind_eq_ok h
    obtain ⟨⟨read, left⟩, hread, h⟩ := exists_of_bind_eq_ok h
    have first := getElem?_items_of_fieldsFromItems placed required nodup shows hread
    dsimp only at h
    split at h
    · obtain rfl := close_eq_ok h
      rw [Holds, first, Option.some_inj, eq_comm]
    · cases h
    · cases h
  | _ => cases h

end Shown

end CompositeObjects.Decoder
