import CompositeObjects.Json.Reader

namespace CompositeObjects

/-- Where a draft is read: in a text, where so many levels are left, or in a value, which may be as
deep as it is. -/
inductive Place where
  | text (room : Nat)
  | value
deriving DecidableEq, Repr

namespace Place

/-- A text may hold one container less than this within each other. -/
def levels : Nat := 128

def enter : Place → Except Fault Place
  | .value => .ok .value
  | .text (room + 2) => .ok (.text (room + 1))
  | .text _ => .error .tooDeep

end Place

/-- A reader of one kind of thing from a draft. -/
abbrev Decoder (α : Type) := Place → Draft → Except Fault α

namespace Decoder

variable {α β σ : Type}

def map (f : α → β) (decoder : Decoder α) : Decoder β :=
  fun place draft => f <$> decoder place draft

def close (x : α) : Option Fault → Except Fault α
  | none => .ok x
  | some fault => .error fault

def text : Decoder String
  | _, .string value => value
  | _, draft => .error (draft.mismatch .text)

def flag : Decoder Bool
  | _, .bool value => .ok value
  | _, draft => .error (draft.mismatch .flag)

def list (item : Decoder α) : Decoder (List α)
  | place, .array items ending => do
    let place ← place.enter
    let items ← items.mapM (item place)
    close items ending.listFault
  | _, draft => .error (draft.mismatch .list)

mutual

/-- Any value. Of two entries with the same key the later one stays. -/
def json : Place → Draft → Except Fault Json
  | _, .null => .ok .null
  | _, .bool b => .ok (.bool b)
  | _, .number (some n) => .ok (.number n)
  | _, .number none => .error .numberTooLarge
  | _, .string value => .string <$> value
  | place, .array items ending => do
    let place ← place.enter
    let items ← jsonItems place items
    close (.array items) ending.listFault
  | place, .object entries ending => do
    let place ← place.enter
    let entries ← jsonEntries place entries
    close (.object (Table.ofList entries)) ending.objectFault
  | _, .broken breach => .error breach.read

def jsonItems : Place → List Draft → Except Fault (List Json)
  | _, [] => .ok []
  | place, item :: rest => do
    let item ← json place item
    let rest ← jsonItems place rest
    .ok (item :: rest)

def jsonEntries : Place → List (Except Fault String × Draft) → Except Fault (List (String × Json))
  | _, [] => .ok []
  | place, (key, item) :: rest => do
    let key ← key
    let item ← json place item
    let rest ← jsonEntries place rest
    .ok ((key, item) :: rest)

end

theorem close_eq_ok {x y : α} {fault : Option Fault} (h : close x fault = .ok y) : x = y := by
  cases fault with
  | none => exact Except.ok.inj h
  | some fault => cases h

/-- What succeeds has succeeded at its first step. -/
theorem exists_of_bind_eq_ok {x : Except Fault α} {f : α → Except Fault β} {y : β}
    (h : x >>= f = .ok y) : ∃ z, x = .ok z ∧ f z = .ok y := by
  cases x with
  | error fault => cases h
  | ok z => exact ⟨z, rfl, h⟩

mutual

/-- A value that has been read is sorted throughout. -/
theorem sorted_of_json {place : Place} {draft : Draft} {value : Json}
    (h : json place draft = .ok value) : value.Sorted := by
  cases draft with
  | null => rw [json] at h; cases h; trivial
  | bool b => rw [json] at h; cases h; trivial
  | number n =>
    cases n with
    | none => rw [json] at h; cases h
    | some n => rw [json] at h; cases h; trivial
  | string s =>
    cases s with
    | error fault => rw [json] at h; cases h
    | ok s => rw [json] at h; cases h; trivial
  | array items ending =>
    rw [json] at h
    obtain ⟨inner, _, h⟩ := exists_of_bind_eq_ok h
    obtain ⟨values, hvalues, h⟩ := exists_of_bind_eq_ok h
    rw [← close_eq_ok h]
    exact sorted_of_jsonItems hvalues
  | object entries ending =>
    rw [json] at h
    obtain ⟨inner, _, h⟩ := exists_of_bind_eq_ok h
    obtain ⟨values, hvalues, h⟩ := exists_of_bind_eq_ok h
    rw [← close_eq_ok h]
    have each := Json.sortedEntries_iff.1 (sorted_of_jsonEntries hvalues)
    exact ⟨Table.sorted_ofList _, Json.sortedEntries_iff.2 fun e he =>
      each e ((Table.mem_overlay he).resolve_left (by simp))⟩
  | broken breach => rw [json] at h; cases h

theorem sorted_of_jsonItems {place : Place} {drafts : List Draft} {items : List Json}
    (h : jsonItems place drafts = .ok items) : Json.SortedItems items := by
  cases drafts with
  | nil => rw [jsonItems] at h; cases h; trivial
  | cons draft rest =>
    rw [jsonItems] at h
    obtain ⟨item, hitem, h⟩ := exists_of_bind_eq_ok h
    obtain ⟨others, hothers, h⟩ := exists_of_bind_eq_ok h
    cases h
    exact ⟨sorted_of_json hitem, sorted_of_jsonItems hothers⟩

theorem sorted_of_jsonEntries {place : Place} {drafts : List (Except Fault String × Draft)}
    {entries : List (String × Json)} (h : jsonEntries place drafts = .ok entries) :
    Json.SortedEntries entries := by
  cases drafts with
  | nil => rw [jsonEntries] at h; cases h; trivial
  | cons d rest =>
    obtain ⟨key, draft⟩ := d
    rw [jsonEntries] at h
    obtain ⟨name, _, h⟩ := exists_of_bind_eq_ok h
    obtain ⟨item, hitem, h⟩ := exists_of_bind_eq_ok h
    obtain ⟨others, hothers, h⟩ := exists_of_bind_eq_ok h
    cases h
    exact ⟨sorted_of_json hitem, sorted_of_jsonEntries hothers⟩

end

/-- An object of any values. -/
def table : Decoder (Table Json)
  | place, .object entries ending => do
    let place ← place.enter
    let entries ← jsonEntries place entries
    close (Table.ofList entries) ending.objectFault
  | _, draft => .error (draft.mismatch .map)

/-- A field of a record that is built up as a `σ`. -/
structure Field (σ : Type) where
  key : String
  required : Bool
  read : σ → Decoder σ

/-- A field whose value goes to its place in the record by `set`. -/
def Field.of (key : String) (required : Bool) (decoder : Decoder α) (set : σ → α → σ) : Field σ :=
  ⟨key, required, fun s place draft => set s <$> decoder place draft⟩

/-- The entries in order. An entry that is no field is passed over, a field may come once. -/
def fieldsFromEntries (fields : List (Field σ)) (place : Place) :
    List String → σ → List (Except Fault String × Draft) → Except Fault (List String × σ)
  | seen, s, [] => .ok (seen, s)
  | seen, s, (key, draft) :: rest => do
    let key ← key
    match fields.find? (·.key == key) with
    | none =>
      match draft.skippedFault with
      | some fault => .error fault
      | none => fieldsFromEntries fields place seen s rest
    | some field =>
      if seen.contains key then .error (.duplicateField key)
      else
        let s ← field.read s place draft
        fieldsFromEntries fields place (key :: seen) s rest

/-- The items in the order of the fields, and the items that are left. -/
def fieldsFromItems (name : String) (size : Nat) (place : Place) (ending : Ending) :
    List (Field σ) → σ → List Draft → Except Fault (σ × List Draft)
  | [], s, items => .ok (s, items)
  | field :: fields, s, item :: items => do
    let s ← field.read s place item
    fieldsFromItems name size place ending fields s items
  | field :: fields, s, [] =>
    match ending.listFault with
    | some fault => .error fault
    | none =>
      if field.required then .error (.tooShort (size - (fields.length + 1)) name size)
      else fieldsFromItems name size place ending fields s []

/-- A record: an object with its fields, or the list of its fields in order, of which the last ones
may be left out where they are not required. `start` holds what an absent field is. -/
def record (name : String) (fields : List (Field σ)) (start : σ) : Decoder σ
  | place, .object entries ending => do
    let place ← place.enter
    let (seen, s) ← fieldsFromEntries fields place [] start entries
    let s ← close s ending.objectFault
    match fields.find? fun field => field.required && !seen.contains field.key with
    | some field => .error (.missingField field.key)
    | none => .ok s
  | place, .array items ending => do
    let inner ← place.enter
    let (s, left) ← fieldsFromItems name fields.length inner ending fields start items
    match place, left with
    | _, [] => close s ending.recordFault
    | .value, _ => .error (.tooLong items.length)
    | .text _, _ => .error .trailingCharacters
  | _, draft => .error (draft.mismatch (.record name))

/-- Reads a value. -/
def fromJson (decoder : Decoder α) (value : Json) : Except Fault α :=
  decoder .value (Draft.ofJson value)

/-- Reads a text that holds a value and nothing behind it. -/
def fromText (decoder : Decoder α) (text : String) : Except Fault α := do
  let document := Document.ofText text
  let x ← decoder (.text Place.levels) document.draft
  if document.isFollowed then .error .trailingCharacters else .ok x

end Decoder
end CompositeObjects
