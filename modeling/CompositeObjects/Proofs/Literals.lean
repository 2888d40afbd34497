import CompositeObjects.Proofs.Fragments
import Mathlib.Data.List.Basic

namespace CompositeObjects.Script

/-- What characters within a string literal stand for: an escape for what is meant by it, and any
character but a quote, a backslash and the breaks of a line for itself. -/
inductive StandsFor : List Char → List Char → Prop where
  | nil : StandsFor [] []
  | escape {c meant : Char} {body s : List Char} (known : escaped? c = some meant)
      (rest : StandsFor body s) : StandsFor ('\\' :: c :: body) (meant :: s)
  | plain {c : Char} {body s : List Char} (quote : c ≠ '"') (backslash : c ≠ '\\')
      (carriage : c ≠ '\r') (feed : c ≠ '\n') (rest : StandsFor body s) :
      StandsFor (c :: body) (c :: s)

theorem readQuoted_escape (c : Char) (text : List Char) :
    readQuoted ('\\' :: c :: text) =
      (escaped? c).bind fun c => (readQuoted text).map fun r => (c :: r.1, r.2) := by
  rw [readQuoted]

theorem readQuoted_plain {c : Char} (quote : c ≠ '"') (backslash : c ≠ '\\') (text : List Char) :
    readQuoted (c :: text) = if c = '\r' ∨ c = '\n' then none
      else (readQuoted text).map fun r => (c :: r.1, r.2) :=
  readQuoted.eq_5 c text quote (fun h _ => backslash h) (fun _ _ h _ => backslash h)

/-- A literal is read to its end, where what stands in it is an escape or stands for itself. -/
theorem StandsFor.readQuoted {body s : List Char} (h : StandsFor body s) (rest : List Char) :
    readQuoted (body ++ '"' :: rest) = some (s, rest) := by
  induction h with
  | nil => rfl
  | @escape c meant body s known _ ih =>
    rw [List.cons_append, List.cons_append, readQuoted_escape, known, ih]
    rfl
  | @plain c body s quote backslash carriage feed _ ih =>
    have noBreak : ¬ (c = '\r' ∨ c = '\n') := by
      simp [carriage, feed]
    rw [List.cons_append, readQuoted_plain quote backslash, if_neg noBreak, ih]
    rfl

theorem not_backslash {c : Char} {text : List Char} (single : c = '\\' → text = [] → False)
    (pair : ∀ d rest, c = '\\' → text = d :: rest → False) : c ≠ '\\' := by
  intro backslash
  cases text with
  | nil => exact single backslash rfl
  | cons d rest => exact pair d rest backslash rfl

/-- What is read is all that stands in front of the first quote that is not escaped. -/
theorem exists_standsFor_of_readQuoted {text s rest : List Char}
    (h : readQuoted text = some (s, rest)) :
    ∃ body, text = body ++ '"' :: rest ∧ StandsFor body s := by
  induction text using readQuoted.induct generalizing s rest with
  | case1 => cases h
  | case2 text =>
    rw [readQuoted] at h
    obtain ⟨rfl, rfl⟩ := Prod.mk.inj (Option.some.inj h)
    exact ⟨[], rfl, .nil⟩
  | case3 => cases h
  | case4 c text ih =>
    rw [readQuoted_escape] at h
    obtain ⟨meant, known, h⟩ := Option.bind_eq_some_iff.1 h
    obtain ⟨⟨behind, left⟩, read, same⟩ := Option.map_eq_some_iff.1 h
    obtain ⟨rfl, rfl⟩ := Prod.mk.inj same
    obtain ⟨body, rfl, stands⟩ := ih read
    exact ⟨'\\' :: c :: body, rfl, .escape known stands⟩
  | case5 c text quote single pair breaks =>
    have backslash : c ≠ '\\' := not_backslash single pair
    rw [readQuoted_plain quote backslash, if_pos breaks] at h
    cases h
  | case6 c text quote single pair stays ih =>
    have backslash : c ≠ '\\' := not_backslash single pair
    rw [readQuoted_plain quote backslash, if_neg stays] at h
    obtain ⟨⟨behind, left⟩, read, same⟩ := Option.map_eq_some_iff.1 h
    obtain ⟨rfl, rfl⟩ := Prod.mk.inj same
    obtain ⟨carriage, feed⟩ := not_or.1 stays
    obtain ⟨body, rfl, stands⟩ := ih read
    exact ⟨c :: body, rfl, .plain quote backslash carriage feed stands⟩

/-- Reads a string literal, its opening quote included. -/
def readLiteral : List Char → Option (List Char × List Char)
  | '"' :: text => readQuoted text
  | _ => none

theorem readLiteral_eq_some_iff {text s rest : List Char} :
    readLiteral text = some (s, rest) ↔
      ∃ body, text = '"' :: (body ++ '"' :: rest) ∧ StandsFor body s := by
  constructor
  · intro h
    unfold readLiteral at h
    split at h
    · obtain ⟨body, rfl, stands⟩ := exists_standsFor_of_readQuoted h
      exact ⟨body, rfl, stands⟩
    · cases h
  · rintro ⟨body, rfl, stands⟩
    exact stands.readQuoted rest

theorem readLiteral_quoted (s : String) (rest : List Char) :
    readLiteral ((quoted s).toList ++ rest) = some (s.toList, rest) := by
  have text : (quoted s).toList ++ rest = '"' :: (s.toList.flatMap escapeChar ++ '"' :: rest) := by
    simp [quoted]
  rw [text, readLiteral]
  exact readQuoted_flatMap_escapeChar s.toList rest

theorem quoted_injective : Function.Injective quoted := by
  intro s t h
  have first := readLiteral_quoted s []
  have second := readLiteral_quoted t []
  rw [h, second] at first
  have same : t.toList = s.toList := by
    simpa using first
  exact (String.toList_injective same).symm

/-- Reads the default value of a property that is stored as a text: a string literal, or the number
that one is read as. -/
def readDefault (text : List Char) : Option (List Char × List Char) :=
  match "Number(".toList.isPrefixOf? text with
  | none => readLiteral text
  | some literal => do
    let (value, rest) ← readLiteral literal
    some (value, ← ") || 0".toList.isPrefixOf? rest)

theorem readDefault_text (value : String) (rest : List Char) :
    readDefault ((Literal.text value).code.toList ++ rest) = some (value.toList, rest) := by
  have noNumber : "Number(".toList.isPrefixOf? ((quoted value).toList ++ rest) = none := by
    simp [quoted, List.isPrefixOf?]
  rw [Literal.code, readDefault, noNumber]
  exact readLiteral_quoted value rest

theorem readDefault_number (value : String) (rest : List Char) :
    readDefault ((Literal.number value).code.toList ++ rest) = some (value.toList, rest) := by
  have text : (Literal.number value).code.toList ++ rest =
      "Number(".toList ++ ((quoted value).toList ++ (") || 0".toList ++ rest)) := by
    simp only [Literal.code, String.toList_append, List.append_assoc]
  have front (word text : List Char) : word.isPrefixOf? (word ++ text) = some text :=
    List.isPrefixOf?_eq_some_iff_append_eq.2 rfl
  rw [text, readDefault, front]
  have inner := readLiteral_quoted value (") || 0".toList ++ rest)
  simp only [inner, front, Option.bind_eq_bind, Option.bind_some]

/-- No text can end its literal early or reach into what follows, so that two texts never have the
same literal, and the default value of a property that is stored as a text is read back as it was
declared: as that text, or as the number that it is read as. -/
theorem literals_recover_texts :
    (∀ s rest, readLiteral ((quoted s).toList ++ rest) = some (s.toList, rest)) ∧
    (∀ text s rest, readLiteral text = some (s, rest) ↔
      ∃ body, text = '"' :: (body ++ '"' :: rest) ∧ StandsFor body s) ∧
    Function.Injective quoted ∧
    ∀ p : Property, p.type ∈ [.text, .choice, .color, .number] →
      (∀ rest, readDefault ((Literal.ofProperty p).code.toList ++ rest) =
        some (p.value.toList, rest)) ∧
      termOf? (Literal.ofProperty p).code = some (if p.type = .number
        then .either (.toNumber (.text p.value)) (.number "0") else .text p.value) := by
  refine ⟨readLiteral_quoted, fun _ _ _ => readLiteral_eq_some_iff, quoted_injective, ?_⟩
  intro p stored
  by_cases number : p.type = .number
  · have default : Literal.ofProperty p = .number p.value := by
      simp [Literal.ofProperty, number]
    rw [default, termOf?_literal, if_pos number]
    exact ⟨readDefault_number p.value, rfl⟩
  · have default : Literal.ofProperty p = .text p.value := by
      simp only [List.mem_cons, List.not_mem_nil, number, or_false] at stored
      obtain type | type | type := stored <;> simp [Literal.ofProperty, type]
    rw [default, termOf?_literal, if_neg number]
    exact ⟨readDefault_text p.value, rfl⟩

/-- A property whose value has all that is escaped, and ends with a backslash. -/
def awkwardProperty : Property :=
  { name := "Path", type := .number, value := "C:\\\r\n\"new\\\"\\" }

theorem literals_recover_awkwardProperty :
    awkwardProperty.type ∈ [.text, .choice, .color, .number] ∧
    ∃ body, quoted awkwardProperty.value = String.ofList ('"' :: (body ++ ['"'])) ∧
      StandsFor body awkwardProperty.value.toList ∧
    readDefault ((Literal.ofProperty awkwardProperty).code.toList ++ [';']) =
      some (awkwardProperty.value.toList, [';']) := by
  have stored : awkwardProperty.type ∈ [ValueType.text, .choice, .color, .number] := by decide
  obtain ⟨reads, spelled, -, recovers⟩ := literals_recover_texts
  have read := reads awkwardProperty.value []
  obtain ⟨body, text, stands⟩ := (spelled _ _ _).1 read
  rw [List.append_nil] at text
  refine ⟨stored, body, ?_, stands, (recovers awkwardProperty stored).1 [';']⟩
  rw [← text, String.ofList_toList]

end CompositeObjects.Script
