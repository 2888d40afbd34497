import CompositeObjects.Proofs.ContentCodec

namespace CompositeObjects

namespace Decoder

mutual

/-- A sorted value is read as it is. -/
theorem json_ofJson {value : Json} (sorted : value.Sorted) :
    json .value (Draft.ofJson value) = .ok value := by
  cases value with
  | null => rfl
  | bool b => rfl
  | number n => rfl
  | string s => rfl
  | array items =>
    have read := jsonItems_ofItems sorted
    rw [Draft.ofJson, json, Place.enter]
    change (jsonItems .value (Draft.ofItems items) >>= fun items =>
      close (Json.array items) none) = _
    rw [read]
    rfl
  | object entries =>
    have read := jsonEntries_ofEntries sorted.2
    rw [Draft.ofJson, json, Place.enter]
    change (jsonEntries .value (Draft.ofEntries entries) >>= fun entries =>
      close (Json.object (Table.ofList entries)) none) = _
    rw [read]
    change Except.ok (Json.object (Table.ofList entries)) = _
    rw [Table.ofList_of_sorted sorted.1]

theorem jsonItems_ofItems {items : List Json} (sorted : Json.SortedItems items) :
    jsonItems .value (Draft.ofItems items) = .ok items := by
  cases items with
  | nil => rfl
  | cons item rest =>
    rw [Draft.ofItems, jsonItems, json_ofJson sorted.1, jsonItems_ofItems sorted.2]
    rfl

theorem jsonEntries_ofEntries {entries : List (String × Json)}
    (sorted : Json.SortedEntries entries) :
    jsonEntries .value (Draft.ofEntries entries) = .ok entries := by
  cases entries with
  | nil => rfl
  | cons e rest =>
    obtain ⟨key, value⟩ := e
    have first : json .value (Draft.ofJson value) = .ok value := json_ofJson sorted.1
    rw [Draft.ofEntries, jsonEntries, first, jsonEntries_ofEntries sorted.2]
    rfl

end

/-- A table is read from the same places as a value that is an object. -/
theorem table_eq_ok_iff {place : Place} {draft : Draft} {t : Table Json} :
    table place draft = .ok t ↔ json place draft = .ok (.object t) := by
  cases draft with
  | object entries ending =>
    rw [table, json]
    cases place.enter with
    | error fault => exact iff_of_false (fun h => by cases h) fun h => by cases h
    | ok place =>
      change (jsonEntries place entries >>= fun entries =>
          close (Table.ofList entries) ending.objectFault) = .ok t ↔
        (jsonEntries place entries >>= fun entries =>
          close (Json.object (Table.ofList entries)) ending.objectFault) = .ok (.object t)
      cases jsonEntries place entries with
      | error fault => exact iff_of_false (fun h => by cases h) fun h => by cases h
      | ok entries =>
        change close _ _ = _ ↔ close _ _ = _
        cases ending.objectFault with
        | none => simp [close]
        | some fault => simp [close]
  | array items ending =>
    refine iff_of_false (fun h => by cases h) fun h => ?_
    rw [json] at h
    obtain ⟨inner, -, h⟩ := exists_of_bind_eq_ok h
    obtain ⟨items, -, h⟩ := exists_of_bind_eq_ok h
    cases close_eq_ok h
  | number n =>
    refine iff_of_false (fun h => by cases h) fun h => ?_
    cases n <;> rw [json] at h <;> cases h
  | string s =>
    refine iff_of_false (fun h => by cases h) fun h => ?_
    cases s <;> rw [json] at h <;> cases h
  | _ =>
    refine iff_of_false (fun h => by cases h) fun h => ?_
    rw [json] at h
    cases h

end Decoder

namespace Json

/-- A scalar becomes its text, anything else stays as it is. -/
def asText : Json → Json
  | .number n => .string n.text
  | .bool b => .string (if b then "true" else "false")
  | value => value

end Json

namespace Content

theorem decoder_eq_ok_iff {place : Place} {draft : Draft} {c : Content} :
    decoder place draft = .ok c ↔
      ∃ entries, Decoder.json place draft = .ok (.object entries) ∧ ofEntries entries = c := by
  have table (entries : Table Json) :
      Decoder.json place draft = .ok (.object entries) ↔
        Decoder.table place draft = .ok entries := Decoder.table_eq_ok_iff.symm
  simp only [table]
  rw [decoder, Decoder.map]
  cases Decoder.table place draft with
  | error fault => exact iff_of_false (fun h => by cases h) fun ⟨_, h, _⟩ => by cases h
  | ok entries =>
    change Except.ok (ofEntries entries) = _ ↔ _
    simp

/-- A content is read from the values that are objects. -/
theorem value_ofJson_eq_ok_iff {value : Json} {c : Content} :
    (ofJson value).value = .ok c ↔
      ∃ entries, Decoder.fromJson Decoder.json value = .ok (.object entries) ∧
        ofEntries entries = c := by
  have read : (ofJson value).value = .ok c ↔ Decoder.fromJson decoder value = .ok c := by
    rw [ofJson]
    cases Decoder.fromJson decoder value <;> exact Iff.rfl
  rw [read, Decoder.fromJson, decoder_eq_ok_iff]
  rfl

/-- A content is read from the texts that are objects. -/
theorem value_ofText_eq_ok_iff {text : String} {c : Content} :
    (ofText text).value = .ok c ↔
      ∃ entries, Decoder.fromText Decoder.json text = .ok (.object entries) ∧
        ofEntries entries = c := by
  have read : (ofText text).value = .ok c ↔
      decoder (.text Place.levels) (Document.ofText text).draft = .ok c ∧
        (Document.ofText text).isFollowed = false := by
    rw [ofText]
    cases decoder (.text Place.levels) (Document.ofText text).draft with
    | error fault => exact iff_of_false (fun h => by cases h) fun h => by cases h.1
    | ok content => cases (Document.ofText text).isFollowed <;> simp
  have whole (value : Json) : Decoder.fromText Decoder.json text = .ok value ↔
      Decoder.json (.text Place.levels) (Document.ofText text).draft = .ok value ∧
        (Document.ofText text).isFollowed = false := by
    rw [Decoder.fromText]
    cases Decoder.json (.text Place.levels) (Document.ofText text).draft with
    | error fault => exact iff_of_false (fun h => by cases h) fun h => by cases h.1
    | ok value =>
      change (if _ then _ else _) = _ ↔ _
      cases (Document.ofText text).isFollowed <;> simp
  rw [read, decoder_eq_ok_iff]
  simp only [whole]
  constructor
  · rintro ⟨⟨entries, object, rfl⟩, closed⟩
    exact ⟨entries, ⟨object, closed⟩, rfl⟩
  · rintro ⟨entries, ⟨object, closed⟩, rfl⟩
    exact ⟨⟨entries, object, rfl⟩, closed⟩

/-- A content that begins as nothing, with pairs, or as an object that is read, and in which values
have been set and entries erased since. -/
inductive Built : Content → Prop where
  | empty : Built .empty
  | ofPairs (pairs : List (String × String)) : Built (.ofPairs pairs)
  | ofJson {value : Json} {c : Content} (read : (Content.ofJson value).value = .ok c) : Built c
  | ofText {text : String} {c : Content} (read : (Content.ofText text).value = .ok c) : Built c
  | set {c : Content} (h : Built c) (name value : String) : Built (c.set name value)
  | erase {c : Content} (h : Built c) (name : String) : Built (c.erase name)

/-- The kept entries are sorted at every depth, as all values are that have been read. -/
structure Sound (c : Content) : Prop extends c.WellFormed where
  kept_deep : ∀ e ∈ c.kept, e.2.Sorted

theorem wellFormed_ofPairs (pairs : List (String × String)) : (ofPairs pairs).WellFormed :=
  ⟨Table.sorted_ofList _, Table.sorted_nil, fun _ => Or.inr rfl, fun _ _ h => by cases h⟩

theorem WellFormed.erase {c : Content} (h : c.WellFormed) (name : String) :
    (c.erase name).WellFormed := by
  refine ⟨Table.sorted_erase _ h.values_sorted, Table.sorted_erase _ h.kept_sorted,
    fun other => ?_, fun other kept => ?_⟩
  · simp only [Content.erase, Table.get?_erase]
    split
    · exact Or.inl rfl
    · exact h.apart other
  · simp only [Content.erase, Table.get?_erase]
    split
    · intro found
      cases found
    · exact h.kept_scalar other kept

theorem sound_ofEntries {entries : Table Json} (sorted : (Json.object entries).Sorted) :
    (ofEntries entries).Sound := by
  refine ⟨wellFormed_ofEntries sorted.1, fun e he => ?_⟩
  exact Json.sortedEntries_iff.1 sorted.2 e (List.mem_filter.1 he).1

theorem Built.sound {c : Content} (h : Built c) : c.Sound := by
  induction h with
  | empty => exact ⟨wellFormed_empty, fun e he => by cases he⟩
  | ofPairs pairs => exact ⟨wellFormed_ofPairs pairs, fun e he => by cases he⟩
  | ofJson read =>
    obtain ⟨entries, object, rfl⟩ := value_ofJson_eq_ok_iff.1 read
    exact sound_ofEntries (Decoder.sorted_of_json object)
  | ofText read =>
    obtain ⟨entries, object, rfl⟩ := value_ofText_eq_ok_iff.1 read
    obtain ⟨value, read, closed⟩ := Decoder.exists_of_bind_eq_ok object
    split at closed
    · cases closed
    · cases closed
      exact sound_ofEntries (Decoder.sorted_of_json read)
  | set _ name value ih =>
    exact ⟨ih.toWellFormed.set name value, fun e he => ih.kept_deep e (List.mem_filter.1 he).1⟩
  | erase _ name ih =>
    exact ⟨ih.toWellFormed.erase name, fun e he => ih.kept_deep e (List.mem_filter.1 he).1⟩

/-- What a content is saved as is sorted at every depth. -/
theorem Sound.sorted {c : Content} (h : c.Sound) : (Json.object c.entries).Sorted := by
  refine ⟨h.sorted_entries, Json.sortedEntries_iff.2 fun e he => ?_⟩
  rcases Table.mem_overlay he with he | he
  · obtain ⟨d, -, rfl⟩ := List.mem_map.1 he
    exact trivial
  · exact h.kept_deep e he

/-- A saved content is read back as it was. -/
theorem Sound.ofJson_toJson {c : Content} (h : c.Sound) : (ofJson c.toJson).value = .ok c :=
  value_ofJson_eq_ok_iff.2 ⟨c.entries, Decoder.json_ofJson h.sorted, h.ofEntries_entries⟩

theorem entries_ofEntries {entries : Table Json} (sorted : entries.Sorted) :
    (ofEntries entries).entries = entries.mapValues Json.asText := by
  have made := wellFormed_ofEntries sorted
  refine Table.eq_of_get?_eq made.sorted_entries (Table.sorted_mapValues _ sorted) fun name => ?_
  rw [made.get?_entries, get?_values_ofEntries sorted, get?_kept_ofEntries sorted,
    Table.get?_mapValues]
  cases entries.get? name with
  | none => rfl
  | some value => cases value <;> rfl

/-- Setting a value sets it in the saved object, whatever stood there. -/
theorem WellFormed.entries_set {c : Content} (h : c.WellFormed) (name value : String) :
    (c.set name value).entries = c.entries.insert name (.string value) := by
  refine Table.eq_of_get?_eq (h.set name value).sorted_entries
    (Table.sorted_insert _ _ h.sorted_entries) fun other => ?_
  rw [(h.set name value).get?_entries, Table.get?_insert, h.get?_entries]
  simp only [Content.set, Table.get?_insert, Table.get?_erase]
  split <;> rfl

/-- Erasing an entry erases it from the saved object, whatever stood there. -/
theorem WellFormed.entries_erase {c : Content} (h : c.WellFormed) (name : String) :
    (c.erase name).entries = c.entries.erase name := by
  refine Table.eq_of_get?_eq (h.erase name).sorted_entries
    (Table.sorted_erase _ h.sorted_entries) fun other => ?_
  rw [(h.erase name).get?_entries, Table.get?_erase, h.get?_entries]
  simp only [Content.erase, Table.get?_erase]
  split <;> rfl

theorem scalarText?_eq_none_iff {value : Json} :
    scalarText? value = none ↔
      value = .null ∨ (∃ items, value = .array items) ∨ ∃ entries, value = .object entries := by
  cases value <;> simp [scalarText?]

/-- The entries in the order in which they are written: all values, then all kept entries. -/
def listed (c : Content) : Table Json := c.values.mapValues .string ++ c.kept

theorem written_eq (c : Content) : c.written = (Json.object c.listed).compact := rfl

theorem keys_listed (c : Content) :
    c.listed.map (·.1) = c.values.map (·.1) ++ c.kept.map (·.1) := by
  rw [listed, List.map_append, Table.mapValues, List.map_map]
  rfl

theorem WellFormed.nodup_listed {c : Content} (h : c.WellFormed) :
    (c.listed.map (·.1)).Nodup := by
  rw [keys_listed]
  refine List.nodup_append.2
    ⟨Table.nodup_of_sorted h.values_sorted, Table.nodup_of_sorted h.kept_sorted, ?_⟩
  rintro name stored other kept rfl
  rcases h.apart name with absent | absent
  · exact Table.get?_eq_none_iff.1 absent stored
  · exact Table.get?_eq_none_iff.1 absent kept

/-- The written entries make up the saved object. -/
theorem ofList_listed (c : Content) (sorted : c.values.Sorted) :
    Table.ofList c.listed = c.entries := by
  rw [listed, Table.ofList, Table.overlay, List.foldl_append]
  change Table.overlay (Table.ofList (c.values.mapValues .string)) c.kept = _
  rw [Table.ofList_of_sorted (Table.sorted_mapValues _ sorted)]
  rfl

/-- Values and kept entries are one object between them, from which both can be told. -/
structure Codec (c : Content) : Prop where
  apart : ∀ name, c.get? name = none ∨ c.kept.get? name = none
  shapes : ∀ name value, c.kept.get? name = some value →
    value = .null ∨ (∃ items, value = .array items) ∨ ∃ entries, value = .object entries
  saved : c.toJson = .object c.entries ∧ c.entries.Sorted
  /-- The text lists each key once, and what it lists is the saved object. -/
  written : c.written = (Json.object c.listed).compact ∧ (c.listed.map (·.1)).Nodup ∧
    Table.ofList c.listed = c.entries
  read_back : (ofJson c.toJson).value = .ok c
  after_set : ∀ name value, (c.set name value).get? name = some value ∧
    (∀ other, other ≠ name → (c.set name value).get? other = c.get? other) ∧
    (c.set name value).toJson = .object (c.entries.insert name (.string value))
  after_erase : ∀ name, (c.erase name).get? name = none ∧
    (∀ other, other ≠ name → (c.erase name).get? other = c.get? other) ∧
    (c.erase name).toJson = .object (c.entries.erase name)

theorem Sound.codec {c : Content} (h : c.Sound) : c.Codec where
  apart := h.apart
  shapes name value kept := scalarText?_eq_none_iff.1 (h.kept_scalar name value kept)
  saved := ⟨c.toJson_eq, h.sorted_entries⟩
  written := ⟨c.written_eq, h.nodup_listed, ofList_listed c h.values_sorted⟩
  read_back := h.ofJson_toJson
  after_set name value := ⟨get?_set_self .., fun other hne => get?_set_of_ne hne .., by
    rw [toJson_eq, h.entries_set]⟩
  after_erase name := ⟨Table.get?_erase_self .., fun other hne => Table.get?_erase_of_ne hne .., by
    rw [toJson_eq, h.entries_erase]⟩

/-- Every content that can be built is read back from what it is saved as. An object, read as content
and saved, has its scalars at the top replaced by their texts, and that is all: it is then read as the
same content and saved as it is. -/
theorem codec_of_built :
    (∀ c, Built c → c.Codec) ∧
    ∀ entries : Table Json, (Json.object entries).Sorted →
      (ofJson (.object entries)).value = .ok (ofEntries entries) ∧
      (∀ text, Decoder.fromText Decoder.json text = .ok (.object entries) →
        (ofText text).value = .ok (ofEntries entries)) ∧
      (ofEntries entries).toJson = .object (entries.mapValues Json.asText) ∧
      (ofJson (.object (entries.mapValues Json.asText))).value = .ok (ofEntries entries) := by
  refine ⟨fun c built => built.sound.codec, fun entries sorted => ?_⟩
  have saved : (ofEntries entries).toJson = .object (entries.mapValues Json.asText) := by
    rw [toJson_eq, entries_ofEntries sorted.1]
  refine ⟨value_ofJson_eq_ok_iff.2 ⟨entries, Decoder.json_ofJson sorted, rfl⟩, fun text read => ?_,
    saved, ?_⟩
  · exact value_ofText_eq_ok_iff.2 ⟨entries, read, rfl⟩
  · rw [← saved]
    exact (sound_ofEntries sorted).ofJson_toJson

/-- The stored content of a hero as an older release wrote it. -/
def heroEntries : Table Json :=
  [("label", .null), ("speed", .number (.integer 5)), ("tags", .array [.bool true])]

/-- The label is set in place of the kept `null`, and the speed is erased. -/
theorem codec_of_built_hero :
    ∃ c, Built c ∧ c = ((ofEntries heroEntries).set "label" "hero").erase "speed" ∧
      (Json.object heroEntries).Sorted ∧
      (ofEntries heroEntries).toJson =
        .object [("label", .null), ("speed", .string "5"), ("tags", .array [.bool true])] ∧
      c.toJson = .object [("label", .string "hero"), ("tags", .array [.bool true])] ∧
      (ofJson c.toJson).value = .ok c := by
  have sorted : (Json.object heroEntries).Sorted := by decide
  obtain ⟨read, -, saved, -⟩ := codec_of_built.2 heroEntries sorted
  have built := ((Built.ofJson read).set "label" "hero").erase "speed"
  exact ⟨_, built, rfl, sorted, saved, by decide, (codec_of_built.1 _ built).read_back⟩

end Content
end CompositeObjects
