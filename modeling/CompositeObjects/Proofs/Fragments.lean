import CompositeObjects.Proofs.Commands

namespace CompositeObjects.Script

def Record.tokens : Record → List Token
  | .live => [.word "this", .sign ".", .word "_objectData", .sign ".", .word "content"]
  | .given => [.word "objectData", .sign ".", .word "content"]
  | .old => [.word "oldObjectData", .sign ".", .word "content"]
  | .new => [.word "newObjectData", .sign ".", .word "content"]

def fieldTokens (record : Record) (name : String) : List Token :=
  record.tokens ++ [Token.sign ".", Token.word name]

namespace Literal

def tokens : Literal → List Token
  | .text value => [.text value]
  | .number value =>
    [.word "Number", .sign "(", .text value, .sign ")", .sign "||", .number "0"]
  | .flag value => [.word (if value then "true" else "false")]
  | .unrecognized => [.number "0"]

def term : Literal → Term
  | .text value => .text value
  | .number value => .either (.toNumber (.text value)) (.number "0")
  | .flag value => .flag value
  | .unrecognized => .number "0"

end Literal

namespace Expression

/-- The names of its fields are identifiers. -/
def Named : Expression → Prop
  | .field _ name | .fieldOr _ name _ => isIdentifier name = true
  | .literal _ | .argument => True

def tokens : Expression → List Token
  | .field record name => fieldTokens record name
  | .literal value => value.tokens
  | .fieldOr record name default =>
    fieldTokens record name ++ Token.sign "!==" :: Token.word "undefined" :: Token.sign "?" ::
      (fieldTokens record name ++ Token.sign ":" :: default.tokens)
  | .argument => [.word "newValue"]

def term : Expression → Term
  | .field record name => .field record name
  | .literal value => value.term
  | .fieldOr record name default =>
    .choice (.differ (.field record name) .undefined) (.field record name) default.term
  | .argument => .argument

end Expression

namespace Statement

/-- The names of its fields are identifiers. -/
def Named : Statement → Prop
  | .assign name value => isIdentifier name = true ∧ value.Named
  | .assignChanged name => isIdentifier name = true
  | .updateBase => True

/-- The tokens without the semicolon at the end. -/
def tokens : Statement → List Token
  | .assign name value => fieldTokens .live name ++ Token.sign "=" :: value.tokens
  | .assignChanged name =>
    Token.word "if" :: Token.sign "(" :: (fieldTokens .old name ++ Token.sign "!==" ::
      (fieldTokens .new name ++ Token.sign ")" :: (fieldTokens .live name ++ Token.sign "=" ::
        fieldTokens .new name)))
  | .updateBase => [.word "super", .sign ".", .word "updateFromObjectData", .sign "(",
      .word "oldObjectData", .sign ",", .word "newObjectData", .sign ")"]

def command : Statement → Command
  | .assign name value => .assign ⟨.live, name, value.term⟩
  | .assignChanged name =>
    .assignWhen (.differ (.field .old name) (.field .new name)) ⟨.live, name, .field .new name⟩
  | .updateBase => .call ["super", "updateFromObjectData"]
      [.word "oldObjectData", .sign ",", .word "newObjectData"]

end Statement

theorem reads_field (record : Record) {name : String} (h : isIdentifier name = true) :
    Reads (fieldCode record name).toList (fieldTokens record name) := by
  have front : Closed (record.code ++ ".").toList (record.tokens ++ [Token.sign "."]) := by
    cases record <;> decide +kernel
  have text : (fieldCode record name).toList = (record.code ++ ".").toList ++ name.toList := by
    rw [fieldCode, String.toList_append]
  have tokens : fieldTokens record name =
      (record.tokens ++ [Token.sign "."]) ++ [Token.word name] := by
    rw [fieldTokens, List.append_assoc, List.singleton_append]
  rw [text, tokens]
  exact front.append_reads (reads_identifier h)

theorem reads_literal (value : Literal) : Reads value.code.toList value.tokens := by
  cases value with
  | text value => exact (closed_quoted value).reads
  | number value =>
    have front : Closed "Number(".toList [.word "Number", .sign "("] := by decide +kernel
    have zero : scan .blank ") || 0".toList =
      some ([.sign ")", .sign "||"], .name ['0']) := by decide +kernel
    have back : Reads ") || 0".toList ([Token.sign ")", Token.sign "||"] ++ [.number "0"]) :=
      reads_of_name zero
    have text : (Literal.number value).code.toList =
        "Number(".toList ++ ((quoted value).toList ++ ") || 0".toList) := by
      rw [Literal.code, String.toList_append, String.toList_append, List.append_assoc]
    rw [text]
    exact front.append_reads ((closed_quoted value).append_reads back)
  | flag value =>
    cases value with
    | true =>
      have word : Reads "true".toList [.word "true"] := reads_identifier (by decide)
      exact word
    | false =>
      have word : Reads "false".toList [.word "false"] := reads_identifier (by decide)
      exact word
  | unrecognized =>
    have closed : Closed Literal.unrecognized.code.toList [.number "0"] := by decide +kernel
    exact closed.reads

theorem reads_expression {e : Expression} (h : e.Named) : Reads e.code.toList e.tokens := by
  cases e with
  | field record name => exact reads_field record h
  | literal value => exact reads_literal value
  | argument =>
    have word : Reads "newValue".toList [.word "newValue"] := reads_identifier (by decide)
    exact word
  | fieldOr record name default =>
    have field : Reads (fieldCode record name).toList (fieldTokens record name) :=
      reads_field record h
    have test : Closed " !== undefined ? ".toList
        [.sign "!==", .word "undefined", .sign "?"] := by decide +kernel
    have otherwise : Closed " : ".toList [.sign ":"] := by decide +kernel
    have second := field.append (breaksName_append (by decide) _)
      (otherwise.append_reads (reads_literal default))
    have whole := field.append (breaksName_append (by decide) _) (test.append_reads second)
    simpa only [Expression.code, Expression.tokens, String.toList_append, List.append_assoc,
      List.cons_append, List.nil_append] using whole

theorem closed_statement {s : Statement} (h : s.Named) :
    Closed s.code.toList (s.tokens ++ [Token.sign ";"]) := by
  have semicolon : Closed ";".toList [.sign ";"] := by decide +kernel
  have equals : Closed " = ".toList [.sign "="] := by decide +kernel
  -- The equations of `Statement.code` are slow to make, as one of them begins with a literal.
  cases s with
  | assign name value =>
    have text : (Statement.assign name value).code =
        fieldCode .live name ++ " = " ++ value.code ++ ";" := rfl
    have whole := (reads_field .live h.1).closed (breaksName_append (by decide) _)
      (equals.append ((reads_expression h.2).closed (by decide) semicolon))
    rw [text]
    simpa only [Statement.tokens, String.toList_append, List.append_assoc,
      List.cons_append, List.nil_append] using whole
  | assignChanged name =>
    have opening : Closed "if (".toList [.word "if", .sign "("] := by decide +kernel
    have differ : Closed " !== ".toList [.sign "!=="] := by decide +kernel
    have closing : Closed ")\n      ".toList [.sign ")"] := by decide +kernel
    have field (record : Record) :
        Reads (fieldCode record name).toList (fieldTokens record name) := reads_field record h
    have set := (field .live).closed (breaksName_append (by decide) _)
      (equals.append ((field .new).closed (by decide) semicolon))
    have text : (Statement.assignChanged name).code =
        "if (" ++ fieldCode .old name ++ " !== " ++ fieldCode .new name ++ ")\n      " ++
          fieldCode .live name ++ " = " ++ fieldCode .new name ++ ";" := rfl
    have guarded := (field .new).closed (breaksName_append (by decide) _) (closing.append set)
    have whole := opening.append
      ((field .old).closed (breaksName_append (by decide) _) (differ.append guarded))
    rw [text]
    simpa only [Statement.tokens, String.toList_append, List.append_assoc,
      List.cons_append, List.nil_append] using whole
  | updateBase => decide +kernel

theorem sign_notMem_fieldTokens {sign : String} (h : sign ≠ ".") (record : Record)
    (name : String) : .sign sign ∉ fieldTokens record name := by
  cases record <;> simp [fieldTokens, Record.tokens, h]

theorem path?_field (record : Record) (name : String) :
    (path? (fieldTokens record name)).bind field? = some (record, name) := by
  cases record <;> rfl

theorem disjunction?_field (record : Record) (name : String) :
    disjunction? (fieldTokens record name) = some (.field record name) := by
  cases record <;> rfl

theorem disjunction?_literal (value : Literal) :
    disjunction? value.tokens = some value.term := by
  cases value with
  | text value => rfl
  | number value => rfl
  | flag value => cases value <;> rfl
  | unrecognized => rfl

theorem term?_eq_disjunction? {tokens : List Token} (h : .sign "?" ∉ tokens) :
    term? tokens = disjunction? tokens := by
  rw [term?, cut_eq_none h]

/-- A literal has none of the signs that expressions are put together with, but for `||`. -/
theorem sign_notMem_literal {sign : String} (h : sign ≠ "(" ∧ sign ≠ ")" ∧ sign ≠ "||")
    (value : Literal) : .sign sign ∉ value.tokens := by
  cases value <;> simp [Literal.tokens, h]

theorem term?_literal (value : Literal) : term? value.tokens = some value.term := by
  rw [term?_eq_disjunction? (sign_notMem_literal (by decide) value), disjunction?_literal]

/-- The text of a literal by itself. -/
theorem termOf?_literal (value : Literal) : termOf? value.code = some value.term := by
  rw [termOf?, tokens?_of_reads (reads_literal value), Option.bind_some, term?_literal]

theorem term?_expression (e : Expression) : term? e.tokens = some e.term := by
  cases e with
  | field record name =>
    rw [Expression.tokens, term?_eq_disjunction? (sign_notMem_fieldTokens (by decide) record name),
      disjunction?_field]
    rfl
  | literal value => exact term?_literal value
  | argument => rfl
  | fieldOr record name default =>
    have test : disjunction?
        (fieldTokens record name ++ [Token.sign "!==", Token.word "undefined"]) =
          some (.differ (.field record name) .undefined) := by
      cases record <;> rfl
    have unquestioned :
        Token.sign "?" ∉ fieldTokens record name ++ [Token.sign "!==", Token.word "undefined"] := by
      simp [sign_notMem_fieldTokens]
    have shape : (Expression.fieldOr record name default).tokens =
        (fieldTokens record name ++ [Token.sign "!==", Token.word "undefined"]) ++
          Token.sign "?" :: (fieldTokens record name ++ Token.sign ":" :: default.tokens) := by
      rw [Expression.tokens, List.append_assoc]
      rfl
    rw [shape, term?, cut_append unquestioned]
    dsimp only
    rw [cut_append (sign_notMem_fieldTokens (by decide) record name), test, Expression.term]
    simp [disjunction?_field, disjunction?_literal]

theorem assignment?_of_term (name : String) {tokens : List Token} {value : Term}
    (h : term? tokens = some value) :
    assignment? (fieldTokens .live name ++ Token.sign "=" :: tokens) =
      some ⟨.live, name, value⟩ := by
  rw [assignment?, cut_append (sign_notMem_fieldTokens (by decide) .live name)]
  simp [path?_field, h]

/-- The text of a statement is read as its command. -/
theorem command?_statement (s : Statement) : command? s.tokens = some s.command := by
  cases s with
  | updateBase => rfl
  | assign name value =>
    have target : cut "=" (fieldTokens .live name ++ Token.sign "=" :: value.tokens) =
        some (fieldTokens .live name, value.tokens) :=
      cut_append (sign_notMem_fieldTokens (by decide) .live name) value.tokens
    have assigned := assignment?_of_term name (term?_expression value)
    have branch : command? (fieldTokens .live name ++ Token.sign "=" :: value.tokens) =
        if (cut "=" (fieldTokens .live name ++ Token.sign "=" :: value.tokens)).isSome then
          (assignment? (fieldTokens .live name ++ Token.sign "=" :: value.tokens)).map .assign
        else call? (fieldTokens .live name ++ Token.sign "=" :: value.tokens) := rfl
    rw [Statement.tokens, branch, target, assigned]
    rfl
  | assignChanged name =>
    have condition : term? (fieldTokens .old name ++ Token.sign "!==" :: fieldTokens .new name) =
        some (.differ (.field .old name) (.field .new name)) := rfl
    have open' :
        .sign ")" ∉ fieldTokens .old name ++ Token.sign "!==" :: fieldTokens .new name := by
      simp [sign_notMem_fieldTokens]
    have assigned := assignment?_of_term name (term?_expression (.field .new name))
    have guarded := cut_append open'
      (fieldTokens .live name ++ Token.sign "=" :: fieldTokens .new name)
    rw [List.append_assoc, List.cons_append] at guarded
    have branch (rest : List Token) : command? (Token.word "if" :: Token.sign "(" :: rest) =
        (cut ")" rest).bind fun r => (term? r.1).bind fun condition =>
          (assignment? r.2).bind fun a => some (.assignWhen condition a) := rfl
    rw [Statement.tokens, branch, guarded, Option.bind_some, condition, Option.bind_some]
    change (assignment? (fieldTokens .live name ++ Token.sign "=" ::
      (Expression.field .new name).tokens)).bind _ = _
    rw [assigned]
    rfl

/-- No expression has one of the signs by which commands and methods are told apart. -/
theorem sign_notMem_expression {sign : String} (h : sign = ";" ∨ sign = "\x7d")
    (e : Expression) : .sign sign ∉ e.tokens := by
  rcases h with rfl | rfl <;>
    cases e <;> simp [Expression.tokens, sign_notMem_fieldTokens, sign_notMem_literal]

theorem sign_notMem_statement {sign : String} (h : sign = ";" ∨ sign = "\x7d") (s : Statement) :
    .sign sign ∉ s.tokens := by
  have expression := sign_notMem_expression h
  rcases h with rfl | rfl <;>
    cases s <;> simp [Statement.tokens, sign_notMem_fieldTokens, expression]

theorem commands?_statement (s : Statement) :
    commands? (s.tokens ++ [Token.sign ";"]) = some [s.command] :=
  sentences?_one (sign_notMem_statement (Or.inl rfl) s) (command?_statement s)

theorem commands?_statements (statements : List Statement) :
    commands? (statements.flatMap fun s => s.tokens ++ [Token.sign ";"]) =
      some (statements.map Statement.command) := by
  rw [List.map_eq_flatMap]
  exact sentences?_flatMap fun s _ => commands?_statement s

/-- Texts of which each is closed are closed one after another. -/
theorem closed_join {α : Type} {text : α → String} {tokens : α → List Token} {xs : List α}
    (h : ∀ x ∈ xs, Closed (text x).toList (tokens x)) :
    Closed (String.join (xs.map text)).toList (xs.flatMap tokens) := by
  induction xs with
  | nil => exact closed_nil
  | cons x rest ih =>
    have others := ih fun y hy => h y (List.mem_cons_of_mem _ hy)
    rw [List.map_cons, String.join_cons, String.toList_append, List.flatMap_cons]
    exact (h x List.mem_cons_self).append others

theorem closed_lineBreak : Closed lineBreak.toList [] := by decide +kernel

/-- A statement on a line of its own. -/
theorem closed_line {s : Statement} (h : s.Named) :
    Closed (lineBreak ++ s.code).toList (s.tokens ++ [Token.sign ";"]) := by
  rw [String.toList_append]
  exact closed_lineBreak.append (closed_statement h)

theorem intercalate_cons (separator first : String) (rest : List String) :
    separator.intercalate (first :: rest) =
      first ++ String.join (rest.map (separator ++ ·)) := by
  induction rest generalizing first with
  | nil => simp
  | cons second rest ih =>
    rw [String.intercalate_cons_cons, ih, List.map_cons, String.join_cons, String.append_assoc,
      String.append_assoc]

section Commands

variable {properties : List Property}

/-- What the constructor does with the fields. -/
theorem commandsOf?_initializationCode
    (named : ∀ p ∈ properties, isIdentifier p.name = true) :
    commandsOf? (initializationCode properties) =
      some ((initializations properties).map Statement.command) := by
  have names (s : Statement) (hs : s ∈ initializations properties) : s.Named := by
    obtain ⟨p, hp, rfl⟩ := List.mem_map.1 hs
    have name := named p hp
    unfold initialization
    split
    · exact ⟨name, trivial⟩
    · exact ⟨name, name⟩
  have closed := closed_join fun s hs => closed_line (names s hs)
  rw [commandsOf?, initializationCode, tokens?_of_reads closed.reads]
  exact commands?_statements _

theorem closed_updateCode (named : ∀ p ∈ properties, isIdentifier p.name = true) :
    Closed (updateCode properties).toList
      ((updates properties).flatMap fun s => s.tokens ++ [Token.sign ";"]) := by
  have lines := closed_join fun p (hp : p ∈ properties) =>
    closed_line (s := .assignChanged p.name) (named p hp)
  have first : Closed Statement.updateBase.code.toList
    (Statement.updateBase.tokens ++ [Token.sign ";"]) := closed_statement trivial
  rw [updateCode, updates, List.map_cons, intercalate_cons, String.toList_append, List.map_map,
    List.map_map, List.flatMap_cons, List.flatMap_map]
  exact first.append lines

/-- What a change of the data does to the fields. -/
theorem commandsOf?_updateCode (named : ∀ p ∈ properties, isIdentifier p.name = true) :
    commandsOf? (updateCode properties) = some ((updates properties).map Statement.command) := by
  rw [commandsOf?, tokens?_of_reads (closed_updateCode named).reads]
  exact commands?_statements _

end Commands

/-- The tokens of a method without the brace at the end. -/
def methodTokens (name : String) (words body : List Token) : List Token :=
  Token.word name :: Token.sign "(" :: (words ++ Token.sign ")" :: Token.sign "\x7b" :: body)

/-- A method is read by its parts: its name, its parameters and its body. -/
theorem method?_eq {name : String} (words : List Token) {body : List Token}
    {parameters : List String} {commands : List Command} (parenthesis : .sign ")" ∉ words)
    (hparameters : parameters? words = some parameters) (hbody : commands? body = some commands) :
    method? (methodTokens name words body) = some ⟨name, parameters, commands⟩ := by
  rw [methodTokens, method?, cut_append parenthesis]
  simp [hparameters, hbody]

def getterTokens (p : Property) : List Token :=
  methodTokens (Property.getterName p.name) []
    (Token.word "return" :: ((getter p).tokens ++ [Token.sign ";"]))

def setterTokens (p : Property) : List Token :=
  methodTokens (Property.setterName p.name) [.word "newValue"]
    ((setter p).tokens ++ [Token.sign ";"])

def getterMethod (p : Property) : Method :=
  ⟨Property.getterName p.name, [], [.giveBack (getter p).term]⟩

def setterMethod (p : Property) : Method :=
  ⟨Property.setterName p.name, ["newValue"], [(setter p).command]⟩

def accessorMethods (p : Property) : List Method := [getterMethod p, setterMethod p]

theorem isIdentifier_append {front name : String} (h : isIdentifier front = true)
    (h' : isIdentifier name = true) : isIdentifier (front ++ name) = true := by
  rw [isIdentifier] at h h' ⊢
  rw [String.toList_append]
  cases hfront : front.toList with
  | nil => simp [hfront] at h
  | cons c rest =>
    cases hname : name.toList with
    | nil => simp [hname] at h'
    | cons d more =>
      simp only [hfront, hname, Bool.and_eq_true, List.cons_append, List.all_append,
        List.all_cons] at h h' ⊢
      exact ⟨h.1, h.2, h'.1.1, h'.2⟩

/-- The text of both accessors of a property. -/
theorem closed_accessorCode {p : Property} (named : isIdentifier p.name = true) :
    Closed (accessorCode p).toList
      ((getterTokens p ++ [Token.sign "\x7d"]) ++ (setterTokens p ++ [Token.sign "\x7d"])) := by
  have indent : Closed "\n  ".toList [] := by decide +kernel
  have getterHead : Closed "() \x7b\n    return ".toList
    [.sign "(", .sign ")", .sign "\x7b", .word "return"] := by decide +kernel
  have getterEnd : Closed ";\n  \x7d".toList [.sign ";", .sign "\x7d"] := by decide +kernel
  have setterHead : Closed "(newValue) \x7b\n    ".toList
    [.sign "(", .word "newValue", .sign ")", .sign "\x7b"] := by decide +kernel
  have setterEnd : Closed "\n  \x7d".toList [.sign "\x7d"] := by decide +kernel
  have getterName : Reads (Property.getterName p.name).toList
      [.word (Property.getterName p.name)] :=
    reads_identifier (isIdentifier_append (by decide) named)
  have setterName : Reads (Property.setterName p.name).toList
      [.word (Property.setterName p.name)] :=
    reads_identifier (isIdentifier_append (by decide) named)
  have value : Reads (getter p).code.toList (getter p).tokens := reads_expression named
  have write : Closed (setter p).code.toList ((setter p).tokens ++ [Token.sign ";"]) :=
    closed_statement ⟨named, trivial⟩
  have second := indent.append (setterName.closed (breaksName_append (by decide) _)
    (setterHead.append (write.append setterEnd)))
  have first := indent.append (getterName.closed (breaksName_append (by decide) _)
    (getterHead.append (value.closed (by decide) getterEnd)))
  have whole := first.append second
  delta accessorCode
  simpa only [getterTokens, setterTokens, methodTokens, String.toList_append, List.append_assoc,
    List.cons_append, List.nil_append] using whole

theorem methods?_accessors (p : Property) :
    methods? ((getterTokens p ++ [Token.sign "\x7d"]) ++ (setterTokens p ++ [Token.sign "\x7d"])) =
      some (accessorMethods p) := by
  have value : commands? (Token.word "return" :: ((getter p).tokens ++ [Token.sign ";"])) =
      some [.giveBack (getter p).term] := by
    have semicolon : Token.sign ";" ∉ Token.word "return" :: (getter p).tokens := by
      simpa using sign_notMem_expression (Or.inl rfl) (getter p)
    refine sentences?_one semicolon ?_
    rw [command?, term?_expression]
    rfl
  have first : method? (getterTokens p) = some (getterMethod p) :=
    method?_eq [] (by simp) rfl value
  have second : method? (setterTokens p) = some (setterMethod p) :=
    method?_eq [.word "newValue"] (by simp) rfl (commands?_statement (setter p))
  have openGetter : .sign "\x7d" ∉ getterTokens p := by
    simpa [getterTokens, methodTokens] using sign_notMem_expression (Or.inr rfl) (getter p)
  have openSetter : .sign "\x7d" ∉ setterTokens p := by
    simpa [setterTokens, methodTokens] using sign_notMem_statement (Or.inr rfl) (setter p)
  exact sentences?_append (sentences?_one openGetter first) (sentences?_one openSetter second)

/-- The methods that the properties of a class are read and written by. -/
theorem methodsOf?_accessorsCode {properties : List Property}
    (named : ∀ p ∈ properties, isIdentifier p.name = true) :
    methodsOf? (accessorsCode properties) = some (properties.flatMap accessorMethods) := by
  have closed := closed_join fun p hp => closed_accessorCode (named p hp)
  rw [methodsOf?, accessorsCode, tokens?_of_reads closed.reads]
  exact sentences?_flatMap fun p _ => methods?_accessors p

end CompositeObjects.Script
