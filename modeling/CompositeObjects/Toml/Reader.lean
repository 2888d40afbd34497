import CompositeObjects.Toml.Scalar

namespace CompositeObjects.TomlText

/-- Values are nested less deep than this, and keys have fewer parts. -/
def levels : Nat := 80

/-- The parts of a key, with blanks around each of them. -/
def scanKey : Nat → List Char → Option (List String × List Char)
  | 0, _ => none
  | fuel + 1, text => do
    let (part, rest) ← scanKeyPart (skipBlanks text)
    match skipBlanks rest with
    | '.' :: rest => do
      let (parts, rest) ← scanKey fuel rest
      some (part :: parts, rest)
    | rest => some ([part], rest)

def key (text : List Char) : Option (List String × List Char) := do
  let (parts, rest) ← scanKey (text.length + 1) text
  if parts.length < levels then some (parts, rest) else none

/-- Defines a value under the parts of a key. -/
def defineAt (parts : List String) (value : Toml) (entries : Toml.Entries) : Option Toml.Entries :=
  match parts.getLast? with
  | none => none
  | some last => Toml.define value parts.dropLast last entries

mutual

/-- The value at the start of the text, below so many levels. -/
def value : Nat → Nat → List Char → Option (Toml × List Char)
  | 0, _, _ => none
  | fuel + 1, depth, text =>
    match text with
    | '"' :: _ | '\'' :: _ => (scanText text).map fun (s, rest) => (.text s, rest)
    | '[' :: rest =>
      if depth + 1 ≥ levels then none
      else match skipLines (rest.length + 1) rest with
        | ']' :: rest => some (.array [], rest)
        | rest => (arrayItems fuel (depth + 1) rest).map fun (items, rest) => (.array items, rest)
    | '\x7b' :: rest =>
      if depth + 1 ≥ levels then none
      else match skipBlanks rest with
        | '\x7d' :: rest => some (.table .inline [], rest)
        | rest => (tableEntries fuel (depth + 1) [] rest).map fun (entries, rest) =>
            (.table .inline entries, rest)
    | 't' :: 'r' :: 'u' :: 'e' :: rest => some (.flag true, rest)
    | 'f' :: 'a' :: 'l' :: 's' :: 'e' :: rest => some (.flag false, rest)
    | _ =>
      match scanMoment text with
      | some (moment, rest) => some (.moment moment, rest)
      | none => (scanNumber text).map fun rest => (.number, rest)

/-- The items of an array up to its closing bracket. A comma may follow the last one. -/
def arrayItems : Nat → Nat → List Char → Option (List Toml × List Char)
  | 0, _, _ => none
  | fuel + 1, depth, text => do
    let (item, rest) ← value fuel depth text
    match skipLines (rest.length + 1) rest with
    | ']' :: rest => some ([item], rest)
    | ',' :: rest =>
      match skipLines (rest.length + 1) rest with
      | ']' :: rest => some ([item], rest)
      | rest => do
        let (items, rest) ← arrayItems fuel depth rest
        some (item :: items, rest)
    | _ => none

/-- The entries of a table in braces up to the closing one. No comma follows the last one. -/
def tableEntries : Nat → Nat → Toml.Entries → List Char → Option (Toml.Entries × List Char)
  | 0, _, _, _ => none
  | fuel + 1, depth, entries, text => do
    let (parts, rest) ← key text
    let rest ← expect '=' rest
    let (item, rest) ← value fuel depth (skipBlanks rest)
    let entries ← defineAt parts item entries
    match skipBlanks rest with
    | '\x7d' :: rest => some (entries, rest)
    | ',' :: rest => tableEntries fuel depth entries rest
    | _ => none

end

/-- The root table and the header under which entries are defined at the moment. -/
structure State where
  root : Toml.Entries
  header : List String

/-- Defines an entry in the table of the current header. -/
def State.define (s : State) (parts : List String) (value : Toml) : Option State :=
  let root :=
    if s.header.isEmpty then defineAt parts value s.root
    else Toml.descend (Toml.within (defineAt parts value)) s.header s.root
  root.map fun root => { s with root }

/-- Blanks, a comment, a header or an entry, with its line break. -/
def statement (s : State) (text : List Char) : Option (State × List Char) :=
  match text with
  | '#' :: _ | '\n' :: _ | '\r' :: _ => (endLine text).map fun rest => (s, rest)
  | '[' :: '[' :: rest => do
    let (header, rest) ← key rest
    let rest ← expect ']' rest
    let rest ← expect ']' rest
    let root ← Toml.descend Toml.openRow header s.root
    let rest ← endLine rest
    some (⟨root, header⟩, rest)
  | '[' :: rest => do
    let (header, rest) ← key rest
    let rest ← expect ']' rest
    let root ← Toml.descend Toml.openTable header s.root
    let rest ← endLine rest
    some (⟨root, header⟩, rest)
  | _ => do
    let (parts, rest) ← key text
    let rest ← expect '=' rest
    let (item, rest) ← value (2 * rest.length + 2) 0 (skipBlanks rest)
    let s ← s.define parts item
    let rest ← endLine rest
    some (s, rest)

def statements : Nat → State → List Char → Option State
  | 0, _, _ => none
  | fuel + 1, s, text =>
    match skipBlanks text with
    | [] => some s
    | text => do
      let (s, rest) ← statement s text
      statements fuel s rest

/-- The root table of a text, or nothing where the text is no TOML. A byte order mark is skipped. -/
def root? (text : String) : Option Toml.Entries :=
  let text := match text.toList with
    | '\uFEFF' :: rest => rest
    | text => text
  (statements (text.length + 1) ⟨[], []⟩ text).map State.root

end CompositeObjects.TomlText
