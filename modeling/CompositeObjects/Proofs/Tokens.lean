import CompositeObjects.Script.Literal
import CompositeObjects.Text.Blank

namespace CompositeObjects.Script

/-- What the text of a script is made of, without blanks and comments. -/
inductive Token where
  | word (name : String)
  | number (digits : String)
  | text (value : String)
  | sign (name : String)
deriving DecidableEq, Repr

/-- Letters, digits, `_` and `$`, and all beyond them that leaves no blank. -/
def isNameChar (c : Char) : Bool :=
  c.isAlphanum || c == '_' || c == '$' ||
    (0x80 ≤ c.toNat && !Text.isBlank c && c != '\ufeff')

/-- A name of which no part can be taken for anything else. -/
def isIdentifier (name : String) : Bool :=
  match name.toList with
  | [] => false
  | c :: rest => isNameChar c && !c.isDigit && rest.all isNameChar

/-- The characters that stand together in one sign. -/
def isOperatorChar (c : Char) : Bool := "=!|&<>?:+-*%^~".toList.contains c

/-- The characters each of which is a sign. -/
def isMark (c : Char) : Bool := "()\x7b\x7d[],;.".toList.contains c

/-- The characters that end a comment at the end of a line. -/
def isLineEnd (c : Char) : Bool := "\n\r\u2028\u2029".toList.contains c

/-- A word, or a number where it begins with a digit. -/
def Token.ofName (name : List Char) : Token :=
  if name.head?.any Char.isDigit then .number (String.ofList name) else .word (String.ofList name)

/-- What is being read, with what has been seen of it. -/
inductive Mode where
  | blank
  | name (seen : List Char)
  | operator (seen : List Char)
  | slash
  | text (seen : List Char)
  | escape (seen : List Char)
  | lineComment
  | blockComment (star : Bool)
deriving DecidableEq, Repr

namespace Mode

/-- What begins with a character. -/
def start (c : Char) : Option (List Token × Mode) :=
  if isNameChar c then some ([], .name [c])
  else if Text.isBlank c then some ([], .blank)
  else if c = '"' then some ([], .text [])
  else if c = '/' then some ([], .slash)
  else if isOperatorChar c then some ([], .operator [c])
  else if isMark c then some ([.sign c.toString], .blank)
  else none

/-- What a character ends, and what is being read behind it. -/
def step : Mode → Char → Option (List Token × Mode)
  | .blank, c => start c
  | .name seen, c =>
    if isNameChar c then some ([], .name (seen ++ [c]))
    else (start c).map fun r => (Token.ofName seen :: r.1, r.2)
  | .operator seen, c =>
    if isOperatorChar c then some ([], .operator (seen ++ [c]))
    else (start c).map fun r => (.sign (String.ofList seen) :: r.1, r.2)
  | .slash, c =>
    if c = '/' then some ([], .lineComment)
    else if c = '*' then some ([], .blockComment false)
    else none
  | .text seen, c =>
    if c = '"' then some ([.text (String.ofList seen)], .blank)
    else if c = '\\' then some ([], .escape seen)
    else if c = '\n' ∨ c = '\r' then none
    else some ([], .text (seen ++ [c]))
  | .escape seen, c => (escaped? c).map fun c => ([], .text (seen ++ [c]))
  | .lineComment, c => some ([], if isLineEnd c then .blank else .lineComment)
  | .blockComment star, c =>
    some ([], if star ∧ c = '/' then .blank else .blockComment (c == '*'))

/-- What the end of the text ends. -/
def ending : Mode → Option (List Token)
  | .blank | .lineComment => some []
  | .name seen => some [Token.ofName seen]
  | .operator seen => some [.sign (String.ofList seen)]
  | _ => none

end Mode

/-- The tokens that end within a text, and what is being read behind it. -/
def scan : Mode → List Char → Option (List Token × Mode)
  | m, [] => some ([], m)
  | m, c :: rest => do
    let (ended, next) ← m.step c
    let (tokens, last) ← scan next rest
    some (ended ++ tokens, last)

def tokens? (text : String) : Option (List Token) := do
  let (tokens, last) ← scan .blank text.toList
  let ended ← last.ending
  some (tokens ++ ended)

theorem scan_cons (m : Mode) (c : Char) (rest : List Char) :
    scan m (c :: rest) = (m.step c).bind fun first =>
      (scan first.2 rest).map fun r => (first.1 ++ r.1, r.2) := by
  rw [scan]
  cases m.step c with
  | none => rfl
  | some first =>
    obtain ⟨ended, next⟩ := first
    cases h : scan next rest with
    | none => simp [h]
    | some r => simp [h]

/-- A text is read from where the text before it has been left. -/
theorem scan_append (m : Mode) (front back : List Char) :
    scan m (front ++ back) = (scan m front).bind fun first =>
      (scan first.2 back).map fun r => (first.1 ++ r.1, r.2) := by
  induction front generalizing m with
  | nil => simp [scan]
  | cons c rest ih =>
    rw [List.cons_append, scan_cons, scan_cons]
    cases m.step c with
    | none => rfl
    | some first =>
      rw [Option.bind_some, Option.bind_some, ih]
      cases scan first.2 rest with
      | none => rfl
      | some more => simp [Function.comp_def]

theorem scan_append_of_eq {m next : Mode} {front back : List Char} {tokens : List Token}
    (h : scan m front = some (tokens, next)) :
    scan m (front ++ back) = (scan next back).map fun r => (tokens ++ r.1, r.2) := by
  rw [scan_append, h, Option.bind_some]

/-- A text of which nothing is open at its end. -/
def Closed (text : List Char) (tokens : List Token) : Prop :=
  scan .blank text = some (tokens, .blank)

/-- A text that reads as tokens in front of anything that cannot go on with its last name. -/
def Reads (text : List Char) (tokens : List Token) : Prop :=
  ∀ c rest, isNameChar c = false →
    scan .blank (text ++ c :: rest) =
      (scan .blank (c :: rest)).map fun r => (tokens ++ r.1, r.2)

instance (text : List Char) (tokens : List Token) : Decidable (Closed text tokens) :=
  inferInstanceAs (Decidable (scan .blank text = some (tokens, .blank)))

/-- A text in front of which every name ends. -/
def breaksName (text : List Char) : Bool := text.head?.any fun c => !isNameChar c

theorem breaksName_append {front : List Char} (h : breaksName front = true) (back : List Char) :
    breaksName (front ++ back) = true := by
  cases front with
  | nil => cases h
  | cons c rest => exact h

theorem exists_of_breaksName {text : List Char} (h : breaksName text = true) :
    ∃ c rest, text = c :: rest ∧ isNameChar c = false := by
  cases text with
  | nil => cases h
  | cons c rest => exact ⟨c, rest, rfl, by simpa [breaksName] using h⟩

theorem closed_nil : Closed [] [] := rfl

section Reads

variable {front back : List Char} {tokens others : List Token}

theorem Closed.append (h : Closed front tokens) (h' : Closed back others) :
    Closed (front ++ back) (tokens ++ others) := by
  rw [Closed, scan_append_of_eq h, h']
  rfl

theorem Closed.reads (h : Closed front tokens) : Reads front tokens :=
  fun _ _ _ => scan_append_of_eq h

theorem Closed.append_reads (h : Closed front tokens) (h' : Reads back others) :
    Reads (front ++ back) (tokens ++ others) := by
  intro c rest hc
  rw [List.append_assoc, scan_append_of_eq h, h' c rest hc, Option.map_map]
  simp [Function.comp_def]

/-- A text ends with a name, which nothing goes on with. -/
theorem reads_of_name {seen : List Char} (h : scan .blank front = some (tokens, .name seen)) :
    Reads front (tokens ++ [Token.ofName seen]) := by
  intro c rest hc
  have same : scan (.name seen) (c :: rest) =
      (scan .blank (c :: rest)).map fun r => (Token.ofName seen :: r.1, r.2) := by
    rw [scan_cons, scan_cons, Mode.step, Mode.step, hc, if_neg Bool.false_ne_true]
    cases Mode.start c with
    | none => rfl
    | some first => cases h : scan first.2 rest <;> simp [h]
  rw [scan_append_of_eq h, same, Option.map_map]
  simp [Function.comp_def]

theorem Reads.closed (h : Reads front tokens) (breaks : breaksName back = true)
    (h' : Closed back others) : Closed (front ++ back) (tokens ++ others) := by
  obtain ⟨c, rest, rfl, hc⟩ := exists_of_breaksName breaks
  rw [Closed, h c rest hc, h']
  rfl

theorem Reads.append (h : Reads front tokens) (breaks : breaksName back = true)
    (h' : Reads back others) : Reads (front ++ back) (tokens ++ others) := by
  obtain ⟨c, rest, rfl, hc⟩ := exists_of_breaksName breaks
  intro d more hd
  rw [List.append_assoc, List.cons_append, h c _ hc, ← List.cons_append, h' d more hd,
    Option.map_map]
  simp [Function.comp_def]

end Reads

/-- The end of a text ends what a blank behind it ends. -/
theorem Mode.ending_of_step {m : Mode} {ended : List Token}
    (h : m.step ' ' = some (ended, .blank)) : m.ending = some ended := by
  cases m with
  | blank | name | operator =>
    obtain ⟨rfl, -⟩ := Prod.mk.inj (Option.some.inj h)
    rfl
  | lineComment =>
    have goesOn := (Prod.mk.inj (Option.some.inj h)).2
    cases goesOn
  | slash | text | escape | blockComment => simp [Mode.step, escaped?] at h

theorem tokens?_of_reads {text : String} {tokens : List Token} (h : Reads text.toList tokens) :
    tokens? text = some tokens := by
  have behind := h ' ' [] (by decide)
  have blank : scan .blank [' '] = some ([], .blank) := by decide
  rw [scan_append, blank, Option.map_some, List.append_nil] at behind
  obtain ⟨⟨front, m⟩, hscan, behind⟩ := Option.bind_eq_some_iff.1 behind
  obtain ⟨⟨ended, last⟩, hlast, behind⟩ := Option.map_eq_some_iff.1 behind
  obtain ⟨rfl, rfl⟩ := Prod.mk.inj behind
  rw [scan_cons] at hlast
  obtain ⟨⟨first, next⟩, hstep, hlast⟩ := Option.bind_eq_some_iff.1 hlast
  obtain ⟨rfl, rfl⟩ : first = ended ∧ next = .blank := by simpa [scan] using hlast
  rw [tokens?, hscan]
  simp [Mode.ending_of_step hstep]

theorem scan_name {seen rest : List Char} (h : ∀ c ∈ rest, isNameChar c = true) :
    scan (.name seen) rest = some ([], .name (seen ++ rest)) := by
  induction rest generalizing seen with
  | nil => simp [scan]
  | cons c rest ih =>
    have step : Mode.step (.name seen) c = some ([], .name (seen ++ [c])) := by
      rw [Mode.step, if_pos (h c List.mem_cons_self)]
    rw [scan_cons, step, Option.bind_some, ih fun d hd => h d (List.mem_cons_of_mem _ hd)]
    simp

/-- An identifier is read as a word. -/
theorem reads_identifier {name : String} (h : isIdentifier name = true) :
    Reads name.toList [.word name] := by
  rw [isIdentifier] at h
  split at h
  · cases h
  · rename_i c rest hname
    simp only [Bool.and_eq_true, Bool.not_eq_true', List.all_eq_true] at h
    obtain ⟨⟨hc, letter⟩, hrest⟩ := h
    have first : Mode.step .blank c = some ([], .name [c]) := by
      rw [Mode.step, Mode.start, if_pos hc]
    have whole : scan .blank (c :: rest) = some ([], .name (c :: rest)) := by
      rw [scan_cons, first, Option.bind_some, scan_name hrest]
      rfl
    have word : Token.ofName (c :: rest) = .word name := by
      rw [Token.ofName, List.head?_cons, Option.any_some, letter, if_neg Bool.false_ne_true,
        ← hname, String.ofList_toList]
    rw [hname, ← word]
    exact reads_of_name whole

/-- A character within a literal is read as it was meant. -/
theorem scan_escapeChar (c : Char) (seen : List Char) :
    scan (.text seen) (escapeChar c) = some ([], .text (seen ++ [c])) := by
  unfold escapeChar
  split
  · rfl
  · rfl
  · rfl
  · rfl
  · rename_i backslash carriage feed quote
    have step : Mode.step (.text seen) c = some ([], .text (seen ++ [c])) := by
      rw [Mode.step, if_neg quote, if_neg backslash, if_neg fun h => h.elim feed carriage]
    rw [scan_cons, step]
    rfl

theorem scan_flatMap_escapeChar (s seen : List Char) :
    scan (.text seen) (s.flatMap escapeChar) = some ([], .text (seen ++ s)) := by
  induction s generalizing seen with
  | nil => simp [scan]
  | cons c rest ih =>
    rw [List.flatMap_cons, scan_append_of_eq (scan_escapeChar c seen), ih]
    simp

/-- A quoted text is read as what it stands for. -/
theorem closed_quoted (s : String) : Closed (quoted s).toList [.text s] := by
  have within := scan_flatMap_escapeChar s.toList []
  have opening : scan .blank ['"'] = some ([], .text []) := by decide
  have closing : scan (.text ([] ++ s.toList)) ['"'] =
      some ([.text (String.ofList s.toList)], .blank) := rfl
  have text : (quoted s).toList = ['"'] ++ (s.toList.flatMap escapeChar ++ ['"']) := by
    rw [quoted, String.toList_ofList, List.cons_append, List.singleton_append]
  rw [Closed, text, scan_append_of_eq opening, scan_append_of_eq within, closing, String.ofList_toList]
  rfl

end CompositeObjects.Script
