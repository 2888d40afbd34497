import CompositeObjects.CommandLine.Pair
import Mathlib.Data.List.TakeWhile

namespace CompositeObjects.CommandLine

/-- What may stand in front of the equals sign. -/
def IsKey (key : String) : Prop := key ≠ "" ∧ '=' ∉ key.toList

/-- A pair as it is written. The value may be empty, and may hold equals signs of its own. -/
def pairText (pair : String × String) : String := pair.1 ++ "=" ++ pair.2

/-- A text with an equals sign, but not at its beginning. -/
def IsPair (text : String) : Prop := '=' ∈ text.toList ∧ text.toList.head? ≠ some '='

variable {text : String} {pair : String × String} {texts : List String}
  {pairs : List (String × String)}

theorem toList_pairText (pair : String × String) :
    (pairText pair).toList = pair.1.toList ++ '=' :: pair.2.toList := by
  rw [pairText, String.toList_append, String.toList_append, List.append_assoc]
  rfl

/-- The first equals sign ends the key, whatever the value contains. -/
theorem splitPair?_pairText (key : IsKey pair.1) : splitPair? (pairText pair) = some pair := by
  obtain ⟨nonempty, unsigned⟩ := key
  have goesOn : ∀ c ∈ pair.1.toList, decide (c ≠ '=') = true := fun c hc =>
    decide_eq_true fun sign => unsigned (sign ▸ hc)
  have front : (pairText pair).toList.takeWhile (· ≠ '=') = pair.1.toList := by
    rw [toList_pairText, List.takeWhile_append_of_pos goesOn]
    simp
  have back : (pairText pair).toList.dropWhile (· ≠ '=') = '=' :: pair.2.toList := by
    rw [toList_pairText, List.dropWhile_append_of_pos goesOn]
    simp
  have written : ¬ pair.1.toList.isEmpty = true := by
    rw [List.isEmpty_iff]
    exact fun empty => nonempty (String.toList_eq_nil_iff.1 empty)
  rw [splitPair?, back]
  dsimp only
  rw [front, if_neg written, String.ofList_toList, String.ofList_toList]

theorem isPair_iff : IsPair text ↔ ∃ pair, IsKey pair.1 ∧ text = pairText pair := by
  constructor
  · rintro ⟨signed, later⟩
    obtain ⟨key, value, split, unsigned⟩ := List.eq_append_cons_of_mem signed
    refine ⟨(String.ofList key, String.ofList value), ⟨?_, ?_⟩, ?_⟩
    · intro empty
      have nil : key = [] := by simpa using congrArg String.toList empty
      rw [split, nil] at later
      exact later rfl
    · rwa [String.toList_ofList]
    · refine String.toList_injective ?_
      rw [toList_pairText, String.toList_ofList, String.toList_ofList, split]
  · rintro ⟨pair, ⟨nonempty, unsigned⟩, rfl⟩
    rw [IsPair, toList_pairText]
    refine ⟨by simp, ?_⟩
    cases letters : pair.1.toList with
    | nil => exact absurd (String.toList_eq_nil_iff.1 letters) nonempty
    | cons c rest =>
      rw [letters] at unsigned
      rintro ⟨⟩
      exact unsigned List.mem_cons_self

theorem splitPair?_eq_none (unpaired : ¬ IsPair text) : splitPair? text = none := by
  by_cases signed : '=' ∈ text.toList
  · have atOnce : text.toList.head? = some '=' := by simpa [IsPair, signed] using unpaired
    obtain ⟨value, letters⟩ := List.head?_eq_some_iff.1 atOnce
    simp [splitPair?, letters]
  · have back : text.toList.dropWhile (· ≠ '=') = [] :=
      List.dropWhile_eq_nil_iff.2 fun c hc => decide_eq_true fun sign => signed (sign ▸ hc)
    rw [splitPair?, back]

/-- Splitting accepts exactly what is written as a pair. -/
theorem splitPair?_eq_some_iff :
    splitPair? text = some pair ↔ IsKey pair.1 ∧ text = pairText pair := by
  constructor
  · intro found
    by_cases paired : IsPair text
    · obtain ⟨pair', key, rfl⟩ := isPair_iff.1 paired
      rw [splitPair?_pairText key] at found
      obtain rfl := Option.some.inj found
      exact ⟨key, rfl⟩
    · rw [splitPair?_eq_none paired] at found
      cases found
  · rintro ⟨key, rfl⟩
    exact splitPair?_pairText key

theorem splitPair?_eq_none_iff : splitPair? text = none ↔ ¬ IsPair text := by
  refine ⟨fun missing paired => ?_, splitPair?_eq_none⟩
  obtain ⟨pair, key, rfl⟩ := isPair_iff.1 paired
  rw [splitPair?_pairText key] at missing
  cases missing

theorem splitPairs_cons_of_none (missing : splitPair? text = none) (rest : List String) :
    splitPairs (text :: rest) = .error text := by
  rw [splitPairs, missing]

theorem splitPairs_cons_of_some (found : splitPair? text = some pair) (rest : List String) :
    splitPairs (text :: rest) = (splitPairs rest).map (pair :: ·) := by
  rw [splitPairs, found]

/-- A list is split into the pairs that it is written from, in their order. -/
theorem splitPairs_eq_ok_iff :
    splitPairs texts = .ok pairs ↔ (∀ pair ∈ pairs, IsKey pair.1) ∧ texts = pairs.map pairText := by
  induction texts generalizing pairs with
  | nil =>
    rw [splitPairs, eq_comm (a := []), List.map_eq_nil_iff, Except.ok.injEq, eq_comm]
    exact ⟨fun none => ⟨by simp [none], none⟩, And.right⟩
  | cons text rest ih =>
    constructor
    · intro read
      cases found : splitPair? text with
      | none =>
        rw [splitPairs_cons_of_none found] at read
        cases read
      | some first =>
        rw [splitPairs_cons_of_some found] at read
        cases others : splitPairs rest with
        | error text => rw [others] at read; cases read
        | ok more =>
          rw [others] at read
          obtain rfl := Except.ok.inj read
          obtain ⟨key, rfl⟩ := splitPair?_eq_some_iff.1 found
          obtain ⟨keys, rfl⟩ := ih.1 others
          exact ⟨List.forall_mem_cons.2 ⟨key, keys⟩, rfl⟩
    · rintro ⟨keys, written⟩
      cases pairs with
      | nil => cases written
      | cons first more =>
        obtain ⟨key, keys⟩ := List.forall_mem_cons.1 keys
        obtain ⟨rfl, rfl⟩ := List.cons.inj written
        rw [splitPairs_cons_of_some (splitPair?_pairText key), ih.2 ⟨keys, rfl⟩]
        rfl

/-- The first text that is no pair is given back. -/
theorem splitPairs_eq_error_iff : splitPairs texts = .error text ↔
    ∃ before after, texts = before ++ text :: after ∧ (∀ t ∈ before, IsPair t) ∧ ¬ IsPair text := by
  induction texts with
  | nil => simp [splitPairs]
  | cons first rest ih =>
    cases found : splitPair? first with
    | none =>
      rw [splitPairs_cons_of_none found]
      have unpaired := splitPair?_eq_none_iff.1 found
      constructor
      · rintro ⟨⟩
        exact ⟨[], rest, rfl, by simp, unpaired⟩
      · rintro ⟨before, after, split, paired, -⟩
        cases before with
        | nil => rw [(List.cons.inj split).1]
        | cons t before =>
          obtain ⟨rfl, -⟩ := List.cons.inj split
          exact absurd (paired first List.mem_cons_self) unpaired
    | some pair =>
      have paired : IsPair first := isPair_iff.2 ⟨pair, splitPair?_eq_some_iff.1 found⟩
      have later : splitPairs (first :: rest) = .error text ↔ splitPairs rest = .error text := by
        rw [splitPairs_cons_of_some found]
        cases splitPairs rest <;> simp [Except.map]
      rw [later, ih]
      constructor
      · rintro ⟨before, after, rfl, others, unpaired⟩
        exact ⟨first :: before, after, rfl, List.forall_mem_cons.2 ⟨paired, others⟩, unpaired⟩
      · rintro ⟨before, after, split, others, unpaired⟩
        cases before with
        | nil =>
          obtain ⟨rfl, -⟩ := List.cons.inj split
          exact absurd paired unpaired
        | cons t before =>
          obtain ⟨rfl, rfl⟩ := List.cons.inj split
          exact ⟨before, after, rfl, (List.forall_mem_cons.1 others).2, unpaired⟩

theorem exists_splitPairs_iff :
    (∃ pairs, splitPairs texts = .ok pairs) ↔ ∀ text ∈ texts, IsPair text := by
  constructor
  · rintro ⟨pairs, read⟩ text among
    obtain ⟨keys, rfl⟩ := splitPairs_eq_ok_iff.1 read
    obtain ⟨pair, hpair, rfl⟩ := List.mem_map.1 among
    exact isPair_iff.2 ⟨pair, keys pair hpair, rfl⟩
  · intro paired
    cases read : splitPairs texts with
    | ok pairs => exact ⟨pairs, rfl⟩
    | error text =>
      obtain ⟨before, after, rfl, -, unpaired⟩ := splitPairs_eq_error_iff.1 read
      exact absurd (paired text (by simp)) unpaired

/-- A list of texts is read exactly where each has an equals sign that is not its first character,
and it fails with the first text that has none. What is read are the keys and values that the texts
are put together from, each in its place, and pairs that are written are read as they were. -/
theorem pairs_of_texts (texts : List String) :
    ((∃ pairs, splitPairs texts = .ok pairs) ↔
      ∀ text ∈ texts, '=' ∈ text.toList ∧ text.toList.head? ≠ some '=') ∧
    (∀ text, splitPairs texts = .error text ↔ ∃ before after, texts = before ++ text :: after ∧
      (∀ t ∈ before, IsPair t) ∧ ¬ IsPair text) ∧
    (∀ pairs, splitPairs texts = .ok pairs → pairs.length = texts.length ∧
      ∀ (i : Nat) text, texts[i]? = some text → ∃ key value, pairs[i]? = some (key, value) ∧
        key ≠ "" ∧ '=' ∉ key.toList ∧ key ++ "=" ++ value = text) ∧
    ∀ pairs : List (String × String), (∀ pair ∈ pairs, pair.1 ≠ "" ∧ '=' ∉ pair.1.toList) →
      splitPairs (pairs.map fun pair => pair.1 ++ "=" ++ pair.2) = .ok pairs := by
  refine ⟨exists_splitPairs_iff, fun text => splitPairs_eq_error_iff, fun pairs read => ?_,
    fun pairs keys => splitPairs_eq_ok_iff.2 ⟨keys, rfl⟩⟩
  obtain ⟨keys, rfl⟩ := splitPairs_eq_ok_iff.1 read
  refine ⟨(List.length_map ..).symm, fun i text at_i => ?_⟩
  rw [List.getElem?_map] at at_i
  obtain ⟨⟨key, value⟩, found, rfl⟩ := Option.map_eq_some_iff.1 at_i
  obtain ⟨nonempty, unsigned⟩ := keys _ (List.mem_of_getElem? found)
  exact ⟨key, value, found, nonempty, unsigned, rfl⟩

/-- A value with an equals sign of its own, and a value that is empty. -/
def labelPairs : List (String × String) := [("speed", "42"), ("label", "a=b"), ("note", "")]

def labelTexts : List String := ["speed=42", "label=a=b", "note="]

theorem pairs_of_texts_label :
    (∀ pair ∈ labelPairs, pair.1 ≠ "" ∧ '=' ∉ pair.1.toList) ∧
      splitPairs labelTexts = .ok labelPairs ∧ labelTexts[1]? = some "label=a=b" ∧
      (∃ key value, labelPairs[1]? = some (key, value) ∧ key ≠ "" ∧ '=' ∉ key.toList ∧
        key ++ "=" ++ value = "label=a=b") ∧
      (∀ t ∈ ["speed=42"], IsPair t) ∧ ¬ IsPair "=1" ∧
      splitPairs ["speed=42", "=1", "label"] = .error "=1" := by
  have keys : ∀ pair ∈ labelPairs, pair.1 ≠ "" ∧ '=' ∉ pair.1.toList := by decide
  have written : (labelPairs.map fun pair => pair.1 ++ "=" ++ pair.2) = labelTexts := by decide
  have read : splitPairs labelTexts = .ok labelPairs := by
    rw [← written]
    exact (pairs_of_texts []).2.2.2 labelPairs keys
  have paired : ∀ t ∈ ["speed=42"], IsPair t := by
    rw [List.forall_mem_singleton, IsPair]
    decide
  have unpaired : ¬ IsPair "=1" := by
    rw [IsPair]
    decide
  exact ⟨keys, read, rfl, ((pairs_of_texts labelTexts).2.2.1 labelPairs read).2 1 _ rfl, paired,
    unpaired, ((pairs_of_texts ["speed=42", "=1", "label"]).2.1 "=1").2
      ⟨["speed=42"], ["label"], rfl, paired, unpaired⟩⟩

end CompositeObjects.CommandLine
