import CompositeObjects.Json.Decoder
import CompositeObjects.Json.Writer
import Mathlib.Algebra.Order.BigOperators.Group.List

namespace CompositeObjects

namespace Reader

open Json (hexDigit escapeChar)

theorem hexValue_hexDigit : ∀ n < 16, hexValue (hexDigit n) = some n := by decide

theorem utf8Size_hexDigit : ∀ n < 16, (hexDigit n).utf8Size = 1 := by decide

/-- The escape of a control character is read as its code. -/
theorem hexUnit_controlCode {n : Nat} (h : n < 0x20) (text : List Char) :
    hexUnit ('0' :: '0' :: hexDigit (n / 16) :: hexDigit (n % 16) :: text) = .ok n := by
  have high : n / 16 < 16 := by omega
  have low : n % 16 < 16 := Nat.mod_lt n (by decide)
  have zero : hexValue '0' = some 0 ∧ '0'.utf8Size = 1 := by decide
  have code : n / 16 * 16 + n % 16 = n := Nat.div_add_mod' n 16
  simp [hexUnit, zero, hexValue_hexDigit _ high, hexValue_hexDigit _ low, utf8Size_hexDigit _ high,
    utf8Size_hexDigit _ low, code]

/-- A written character takes one step of the scan, whatever follows. -/
theorem scanString_escapeChar (c : Char) (fuel : Nat) (text seen : List Char) :
    scanString (fuel + 1) ((escapeChar c).toList ++ text) (.ok seen) =
      scanString fuel text (.ok (c :: seen)) := by
  unfold escapeChar
  split
  · rfl
  · rfl
  · rfl
  · rfl
  · rfl
  · rfl
  · rfl
  · rename_i quote backslash backspace feed newline carriage tab
    split
    · rename_i control
      have letters : ("\\u00" ++
          String.ofList [hexDigit (c.toNat / 16), hexDigit (c.toNat % 16)]).toList =
          ['\\', 'u', '0', '0', hexDigit (c.toNat / 16), hexDigit (c.toNat % 16)] := by
        simp
      have whole : isLowSurrogate c.toNat = false ∧ isHighSurrogate c.toNat = false := by
        simp [isLowSurrogate, isHighSurrogate]
        omega
      rw [letters]
      simp [scanString, hexUnit_controlCode control, whole, Except.map]
    · rename_i plain
      rw [Char.toString_eq_singleton, String.toList_singleton, List.singleton_append]
      rw [scanString.eq_7 _ _ _ _ quote (fun h _ => backslash h) (fun _ h _ => backslash h)
        (fun _ _ h _ => backslash h), if_neg plain]
      rfl

/-- The scan of a written text, behind what has been seen of it. -/
theorem scanString_flatMap_escapeChar (s rest seen : List Char) {fuel : Nat}
    (enough : s.length < fuel) :
    scanString fuel (s.flatMap (fun c => (escapeChar c).toList) ++ '"' :: rest) (.ok seen) =
      ⟨.ok (String.ofList (seen.reverse ++ s)), .ok rest⟩ := by
  induction s generalizing fuel seen with
  | nil =>
    cases fuel with
    | zero => exact absurd enough (Nat.lt_irrefl 0)
    | succ fuel =>
      rw [List.append_nil]
      rfl
  | cons c s ih =>
    cases fuel with
    | zero => exact absurd enough (Nat.not_lt_zero _)
    | succ fuel =>
      rw [List.flatMap_cons, List.append_assoc, scanString_escapeChar,
        ih (c :: seen) (Nat.lt_of_succ_lt_succ enough), List.reverse_cons, List.append_assoc]
      rfl

theorem one_le_length_escapeChar (c : Char) : 1 ≤ (escapeChar c).toList.length := by
  unfold escapeChar
  split
  all_goals first | exact Nat.succ_le_succ (Nat.zero_le _) | skip
  split
  · simp
  · simp

theorem length_le_escaped (s : List Char) :
    s.length ≤ (s.flatMap fun c => (escapeChar c).toList).length := by
  rw [List.length_flatMap]
  refine (List.length_map ..).symm.trans_le (List.length_le_sum_of_one_le _ fun n hn => ?_)
  obtain ⟨c, -, rfl⟩ := List.mem_map.1 hn
  exact one_le_length_escapeChar c

theorem toList_quoted (s : String) : (Json.quoted s).toList =
    '"' :: (s.toList.flatMap (fun c => (escapeChar c).toList) ++ ['"']) := by
  simp [Json.quoted, List.flatMap_map]

/-- A text that was written in quotes is read behind the first of them. -/
theorem string_quoted (s : String) (rest : List Char) :
    string (s.toList.flatMap (fun c => (escapeChar c).toList) ++ '"' :: rest) =
      ⟨.ok s, .ok rest⟩ := by
  have enough : s.toList.length <
      (s.toList.flatMap (fun c => (escapeChar c).toList) ++ '"' :: rest).length + 1 := by
    have escaped := length_le_escaped s.toList
    rw [List.length_append]
    omega
  rw [string, scanString_flatMap_escapeChar _ _ _ enough]
  simp

theorem skipBlanks_cons {c : Char} (solid : isBlank c = false) (text : List Char) :
    skipBlanks (c :: text) = c :: text := by
  rw [skipBlanks, List.dropWhile_cons_of_neg (by simp [solid])]

/-- A text whose first character is neither a blank nor the end of a list. -/
def OpensValue (text : List Char) : Prop :=
  ∃ c rest, text = c :: rest ∧ isBlank c = false ∧ c ≠ ']'

theorem OpensValue.append {text : List Char} (h : OpensValue text) (more : List Char) :
    OpensValue (text ++ more) := by
  obtain ⟨c, rest, rfl, solid, notEnd⟩ := h
  exact ⟨c, rest ++ more, rfl, solid, notEnd⟩

theorem OpensValue.intercalate {text : List Char} (h : OpensValue text) (sign : List Char)
    (texts : List (List Char)) : OpensValue (sign.intercalate (text :: texts)) := by
  cases texts with
  | nil => rwa [List.intercalate_singleton]
  | cons second texts =>
    rw [List.intercalate_cons_cons, List.append_assoc]
    exact h.append _

/-- A text with the draft that it is read as, whatever stands behind it. -/
structure ReadsAs (text : List Char) (draft : Draft) : Prop where
  opens : OpensValue text
  read : ∀ rest fuel, 2 * text.length ≤ fuel → value fuel (text ++ rest) = (draft, some rest)

theorem readsAs_quoted (s : String) : ReadsAs (Json.quoted s).toList (.string (.ok s)) := by
  refine ⟨⟨'"', _, toList_quoted s, by decide, by decide⟩, fun rest fuel enough => ?_⟩
  rw [toList_quoted] at enough ⊢
  cases fuel with
  | zero => cases enough
  | succ fuel =>
    rw [List.cons_append, List.append_assoc, List.singleton_append, value,
      skipBlanks_cons (by decide)]
    simp only [string_quoted]

theorem readsAs_null : ReadsAs Json.null.compact.toList .null := by
  refine ⟨⟨'n', _, rfl, by decide, by decide⟩, fun rest fuel enough => ?_⟩
  cases fuel with
  | zero => cases enough
  | succ fuel => rfl

theorem readsAs_flag (b : Bool) : ReadsAs (Json.bool b).compact.toList (.bool b) := by
  cases b with
  | false =>
    refine ⟨⟨'f', _, rfl, by decide, by decide⟩, fun rest fuel enough => ?_⟩
    cases fuel with
    | zero => cases enough
    | succ fuel => rfl
  | true =>
    refine ⟨⟨'t', _, rfl, by decide, by decide⟩, fun rest fuel enough => ?_⟩
    cases fuel with
    | zero => cases enough
    | succ fuel => rfl

theorem items_last {text rest : List Char} {item : Draft} {fuel : Nat}
    (h : value fuel text = (item, some (']' :: rest))) :
    items (fuel + 1) text = ([item], .closed, some rest) := by
  rw [items, h]
  rfl

theorem items_more {text rest : List Char} {item : Draft} {fuel : Nat}
    (h : value fuel text = (item, some (',' :: rest))) (opens : OpensValue rest) :
    items (fuel + 1) text = (item :: (items fuel rest).1, (items fuel rest).2) := by
  obtain ⟨c, tail, rfl, solid, notEnd⟩ := opens
  rw [items, h]
  dsimp only
  rw [skipBlanks_cons (by decide)]
  simp only [skipBlanks_cons solid]
  split
  · contradiction
  · rename_i same
    exact absurd (List.cons.inj same).1 notEnd
  · rfl

/-- The items of a list up to its closing bracket. -/
theorem items_of_readsAs {text : List Char} {draft : Draft} (first : ReadsAs text draft)
    {texts : List (List Char)} {drafts : List Draft} (others : List.Forall₂ ReadsAs texts drafts)
    (rest : List Char) {fuel : Nat}
    (enough : 2 * ([','].intercalate (text :: texts)).length < fuel) :
    items fuel ([','].intercalate (text :: texts) ++ ']' :: rest) =
      (draft :: drafts, .closed, some rest) := by
  induction others generalizing text draft fuel with
  | nil =>
    cases fuel with
    | zero => cases enough
    | succ fuel =>
      rw [List.intercalate_singleton] at enough ⊢
      exact items_last (first.read _ fuel (Nat.le_of_lt_succ enough))
  | @cons second next texts drafts reads others ih =>
    cases fuel with
    | zero => cases enough
    | succ fuel =>
      rw [List.intercalate_cons_cons, List.length_append, List.length_append,
        List.length_singleton] at enough
      rw [List.intercalate_cons_cons, List.append_assoc, List.append_assoc, List.singleton_append,
        items_more (first.read _ fuel (by omega)) ((reads.opens.intercalate ..).append _),
        ih reads (by omega)]

theorem value_bracket {text : List Char} (opens : OpensValue text) (fuel : Nat) :
    value (fuel + 1) ('[' :: text) =
      (.array (items fuel text).1 (items fuel text).2.1, (items fuel text).2.2) := by
  obtain ⟨c, tail, rfl, solid, notEnd⟩ := opens
  rw [value, skipBlanks_cons (by decide)]
  simp only [skipBlanks_cons solid]
  split
  · contradiction
  · rename_i same
    exact absurd (List.cons.inj same).1 notEnd
  · rfl

theorem readsAs_list {texts : List (List Char)} {drafts : List Draft}
    (each : List.Forall₂ ReadsAs texts drafts) :
    ReadsAs ('[' :: ([','].intercalate texts ++ [']'])) (.array drafts .closed) := by
  refine ⟨⟨'[', _, rfl, by decide, by decide⟩, fun rest fuel enough => ?_⟩
  cases fuel with
  | zero => cases enough
  | succ fuel =>
    rw [List.cons_append, List.append_assoc, List.singleton_append]
    cases each with
    | nil =>
      rw [value, skipBlanks_cons (by decide)]
      rfl
    | cons first others =>
      rw [List.length_cons, List.length_append, List.length_singleton] at enough
      rw [value_bracket ((first.opens.intercalate ..).append _),
        items_of_readsAs first others rest (by omega)]

/-- An entry of an object: its key, and behind it the text of its value. -/
def entryText (key : String) (text : List Char) : List Char :=
  (Json.quoted key).toList ++ ':' :: text

theorem entryText_append (key : String) (text more : List Char) :
    entryText key text ++ more = entryText key (text ++ more) := by
  rw [entryText, List.append_assoc]
  rfl

theorem entryText_eq (key : String) (text : List Char) : entryText key text =
    '"' :: (key.toList.flatMap (fun c => (escapeChar c).toList) ++ '"' :: ':' :: text) := by
  rw [entryText, toList_quoted, List.cons_append, List.append_assoc]
  rfl

theorem entries_last {key : String} {text rest : List Char} {item : Draft} {fuel : Nat}
    (h : value fuel text = (item, some ('\x7d' :: rest))) :
    entries (fuel + 1) (entryText key text) = ([(.ok key, item)], .closed, some rest) := by
  rw [entryText_eq, entries, string_quoted]
  dsimp only
  rw [skipBlanks_cons (by decide)]
  simp only [h]
  rfl

theorem entries_more {key key' : String} {text rest : List Char} {item : Draft} {fuel : Nat}
    (h : value fuel text = (item, some (',' :: entryText key' rest))) :
    entries (fuel + 1) (entryText key text) =
      ((.ok key, item) :: (entries fuel (entryText key' rest)).1,
        (entries fuel (entryText key' rest)).2) := by
  rw [entryText_eq key, entries, string_quoted]
  dsimp only
  rw [skipBlanks_cons (by decide)]
  simp only [h]
  rw [skipBlanks_cons (by decide), entryText_eq key']
  simp only [skipBlanks_cons (show isBlank '"' = false by decide)]
  rfl

theorem exists_intercalate_entryText (key : String) (text : List Char)
    (others : List (List Char)) :
    ∃ tail, [','].intercalate (entryText key text :: others) = entryText key (text ++ tail) := by
  cases others with
  | nil => exact ⟨[], by rw [List.intercalate_singleton, List.append_nil]⟩
  | cons second others =>
    refine ⟨',' :: [','].intercalate (second :: others), ?_⟩
    rw [List.intercalate_cons_cons, ← entryText_append, List.append_assoc]
    rfl

/-- The entries of an object up to its closing brace. -/
theorem entries_of_readsAs {key : String} {text : List Char} {draft : Draft}
    (first : ReadsAs text draft) {written : List (String × List Char)}
    {drafts : List (String × Draft)}
    (others : List.Forall₂ (fun e d => e.1 = d.1 ∧ ReadsAs e.2 d.2) written drafts)
    (rest : List Char) {fuel : Nat}
    (enough : 2 * ([','].intercalate (entryText key text ::
      written.map fun e => entryText e.1 e.2)).length < fuel) :
    entries fuel ([','].intercalate (entryText key text ::
        written.map fun e => entryText e.1 e.2) ++ '\x7d' :: rest) =
      ((.ok key, draft) :: drafts.map fun d => (.ok d.1, d.2), .closed, some rest) := by
  induction others generalizing key text draft fuel with
  | nil =>
    cases fuel with
    | zero => cases enough
    | succ fuel =>
      rw [List.map_nil, List.intercalate_singleton] at enough ⊢
      rw [entryText, List.length_append, List.length_cons] at enough
      rw [entryText_append]
      exact entries_last (first.read _ fuel (by omega))
  | @cons second next written drafts alike others ih =>
    cases fuel with
    | zero => cases enough
    | succ fuel =>
      obtain ⟨sameKey, reads⟩ := alike
      rw [List.map_cons, List.intercalate_cons_cons] at enough ⊢
      rw [List.length_append, List.length_append, entryText, List.length_append, List.length_cons,
        List.length_singleton] at enough
      obtain ⟨tail, begins⟩ := exists_intercalate_entryText second.1 second.2
        (written.map fun e => entryText e.1 e.2)
      have later := ih reads (show 2 * ([','].intercalate (entryText second.1 second.2 ::
        written.map fun e => entryText e.1 e.2)).length < fuel by omega)
      rw [begins, entryText_append] at later
      rw [begins, List.append_assoc, List.append_assoc, entryText_append, List.singleton_append,
        entryText_append, entries_more (first.read _ fuel (by omega)), later, List.map_cons,
        sameKey]

theorem value_brace (key : String) (text : List Char) (fuel : Nat) :
    value (fuel + 1) ('\x7b' :: entryText key text) =
      (.object (entries fuel (entryText key text)).1 (entries fuel (entryText key text)).2.1,
        (entries fuel (entryText key text)).2.2) := by
  rw [value, skipBlanks_cons (by decide), entryText_eq]
  simp only [skipBlanks_cons (show isBlank '"' = false by decide)]
  rfl

/-- An object with its entries, in the order in which they are written. -/
theorem readsAs_object {written : List (String × List Char)} {drafts : List (String × Draft)}
    (each : List.Forall₂ (fun e d => e.1 = d.1 ∧ ReadsAs e.2 d.2) written drafts) :
    ReadsAs ('\x7b' :: ([','].intercalate (written.map fun e => entryText e.1 e.2) ++ ['\x7d']))
      (.object (drafts.map fun d => (.ok d.1, d.2)) .closed) := by
  refine ⟨⟨'\x7b', _, rfl, by decide, by decide⟩, fun rest fuel enough => ?_⟩
  cases fuel with
  | zero => cases enough
  | succ fuel =>
    rw [List.cons_append, List.append_assoc, List.singleton_append]
    cases each with
    | nil =>
      rw [value, skipBlanks_cons (by decide)]
      rfl
    | @cons first draft written drafts alike others =>
      obtain ⟨sameKey, reads⟩ := alike
      rw [List.length_cons, List.length_append, List.length_singleton, List.map_cons] at enough
      obtain ⟨tail, begins⟩ := exists_intercalate_entryText first.1 first.2
        (written.map fun e => entryText e.1 e.2)
      have inside := entries_of_readsAs reads others rest
        (show 2 * ([','].intercalate (entryText first.1 first.2 ::
          written.map fun e => entryText e.1 e.2)).length < fuel by omega)
      rw [begins, entryText_append] at inside
      rw [List.map_cons, begins, entryText_append, value_brace, inside, List.map_cons, sameKey]

end Reader

namespace Json

mutual

/-- No number occurs anywhere in the value. -/
def Numberless : Json → Prop
  | .number _ => False
  | .array items => NumberlessItems items
  | .object entries => NumberlessEntries entries
  | .null | .bool _ | .string _ => True

def NumberlessItems : List Json → Prop
  | [] => True
  | item :: rest => Numberless item ∧ NumberlessItems rest

def NumberlessEntries : List (String × Json) → Prop
  | [] => True
  | (_, value) :: rest => Numberless value ∧ NumberlessEntries rest

end

theorem compactEntries_eq_map (entries : List (String × Json)) : (compactEntries entries).map
    String.toList = (entries.map fun e => (e.1, e.2.compact.toList)).map fun e =>
      Reader.entryText e.1 e.2 := by
  induction entries with
  | nil => rfl
  | cons e rest ih =>
    obtain ⟨key, value⟩ := e
    rw [compactEntries, List.map_cons, ih]
    simp [Reader.entryText]

theorem ofEntries_eq_map (entries : List (String × Json)) : Draft.ofEntries entries =
    (entries.map fun e => (e.1, Draft.ofJson e.2)).map fun d => (.ok d.1, d.2) := by
  induction entries with
  | nil => rfl
  | cons e rest ih =>
    obtain ⟨key, value⟩ := e
    rw [Draft.ofEntries, ih]
    rfl

open Reader (ReadsAs)

mutual

/-- A written value is read as it was, whatever stands behind it. -/
theorem readsAs_compact : (value : Json) → value.Numberless →
    ReadsAs value.compact.toList (Draft.ofJson value)
  | .null, _ => Reader.readsAs_null
  | .bool b, _ => Reader.readsAs_flag b
  | .string s, _ => Reader.readsAs_quoted s
  | .array items, h => by
    have each := readsAs_compactItems items h
    have letters : (Json.array items).compact.toList =
        '[' :: ([','].intercalate ((compactItems items).map String.toList) ++ [']']) := by
      simp [compact, String.toList_intercalate]
    rw [letters, Draft.ofJson]
    exact Reader.readsAs_list each
  | .object entries, h => by
    have each := readsAs_compactEntries entries h
    have letters : (Json.object entries).compact.toList = '\x7b' ::
        ([','].intercalate ((compactEntries entries).map String.toList) ++ ['\x7d']) := by
      simp [compact, String.toList_intercalate]
    rw [letters, compactEntries_eq_map, Draft.ofJson, ofEntries_eq_map]
    exact Reader.readsAs_object each

theorem readsAs_compactItems : (items : List Json) → NumberlessItems items →
    List.Forall₂ ReadsAs ((compactItems items).map String.toList) (Draft.ofItems items)
  | [], _ => .nil
  | item :: rest, h => .cons (readsAs_compact item h.1) (readsAs_compactItems rest h.2)

theorem readsAs_compactEntries : (entries : List (String × Json)) → NumberlessEntries entries →
    List.Forall₂ (fun e d => e.1 = d.1 ∧ ReadsAs e.2 d.2)
      (entries.map fun e => (e.1, e.2.compact.toList))
      (entries.map fun e => (e.1, Draft.ofJson e.2))
  | [], _ => .nil
  | (_, value) :: rest, h =>
    .cons ⟨rfl, readsAs_compact value h.1⟩ (readsAs_compactEntries rest h.2)

end

/-- A written value is the whole of its text. -/
theorem ofText_compact {value : Json} (h : value.Numberless) :
    Document.ofText value.compact = ⟨Draft.ofJson value, false⟩ := by
  have enough : 2 * value.compact.toList.length ≤ 3 * value.compact.length + 3 := by
    rw [String.length_toList]
    omega
  have read := (readsAs_compact value h).read [] _ enough
  rw [List.append_nil] at read
  rw [Document.ofText, read]
  rfl

end Json
end CompositeObjects
