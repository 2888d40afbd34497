import CompositeObjects.Proofs.Members
import CompositeObjects.Proofs.Tokens
import Mathlib.Data.List.Infix

namespace CompositeObjects.Script

/-- What a character of a script is part of, as far as comments are concerned. -/
inductive Part where
  | code
  /-- Behind a slash that may begin a comment. -/
  | slash
  | literal (double : Bool)
  /-- Behind the backslash of an escape. -/
  | escape (double : Bool)
  | lineComment
  | blockComment (star : Bool)
deriving DecidableEq, Repr

namespace Part

/-- What is kept in code at a character, and what the next one is part of. -/
def inCode (c : Char) : List Char × Part :=
  if c = '/' then ([], slash)
  else if c = '"' then ([c], literal true)
  else if c = '\x27' then ([c], literal false)
  else ([c], code)

/-- A literal ends at its quote, and with its line unless a backslash carries it on. -/
def step : Part → Char → List Char × Part
  | code, c => inCode c
  | slash, c =>
    if c = '*' then ([], blockComment false)
    else if c = '/' then (['/', '/'], lineComment)
    else ('/' :: (inCode c).1, (inCode c).2)
  | literal double, c =>
    if c = (if double then '"' else '\x27') ∨ c = '\n' ∨ c = '\r' then ([c], code)
    else if c = '\\' then ([c], escape double)
    else ([c], literal double)
  | escape double, c => ([c], literal double)
  | lineComment, c => ([c], if isLineEnd c then code else lineComment)
  | blockComment star, c => ([], if star ∧ c = '/' then code else blockComment (c == '*'))

/-- What the end of the text leaves of it. -/
def ending : Part → List Char
  | slash => ['/']
  | _ => []

/-- The characters of a text that are not within block comments, and what follows is part of. -/
def keep : Part → List Char → List Char × Part
  | p, [] => ([], p)
  | p, c :: rest => ((p.step c).1 ++ (keep (p.step c).2 rest).1, (keep (p.step c).2 rest).2)

theorem keep_append (p : Part) (front back : List Char) :
    p.keep (front ++ back) =
      ((p.keep front).1 ++ ((p.keep front).2.keep back).1, ((p.keep front).2.keep back).2) := by
  induction front generalizing p with
  | nil => rfl
  | cons c front ih => simp only [List.cons_append, keep, ih, List.append_assoc]

end Part

/-- A text without its block comments. -/
def withoutComments (text : String) : List Char :=
  (Part.code.keep text.toList).1 ++ (Part.code.keep text.toList).2.ending

/-- The name is within the comment that it stands in to its end: what it closes it opens again, and
nothing is left in between. -/
def StaysComment (name : String) : Prop :=
  ∃ star, (Part.blockComment false).keep name.toList = ([], .blockComment star)

theorem keep_blockComment {star : Bool} {text : List Char}
    (h : ¬ ['*', '/'] <:+: if star then '*' :: text else text) :
    ∃ last, (Part.blockComment star).keep text = ([], .blockComment last) := by
  induction text generalizing star with
  | nil => exact ⟨star, rfl⟩
  | cons c text ih =>
    have stays : ¬ (star ∧ c = '/') := by
      rintro ⟨rfl, rfl⟩
      exact h ⟨[], text, rfl⟩
    have later : ¬ ['*', '/'] <:+: if (c == '*') = true then '*' :: text else text := by
      intro found
      apply h
      have within : ['*', '/'] <:+: c :: text := by
        split at found
        · rename_i same
          rwa [eq_of_beq same]
        · exact List.infix_cons found
      split
      · exact List.infix_cons within
      · exact within
    obtain ⟨last, kept⟩ := ih later
    refine ⟨last, ?_⟩
    simp [Part.keep, Part.step, stays, kept]

/-- A name that holds no end of a comment. -/
theorem staysComment_of_notInfix {name : String} (h : ¬ ['*', '/'] <:+: name.toList) :
    StaysComment name :=
  keep_blockComment (by simpa using h)

/-- Behind this text the header comment is open, whatever stands before it. -/
theorem keep_opening (p : Part) :
    (p.keep " || \x7b\x7d;\n\n/**\n * Object generated from ".toList).2 = .blockComment false := by
  cases p with
  | literal double => cases double <;> rfl
  | escape double => cases double <;> rfl
  | blockComment star => cases star <;> rfl
  | _ => rfl

theorem keep_closing_blockComment (star : Bool) :
    (Part.blockComment star).keep "\n */\n".toList = (['\n'], .code) := by
  cases star <;> rfl

/-- Where the comment has been left before its end, this end is code. -/
theorem keep_closing {p : Part} (h : ∀ star, p ≠ .blockComment star) :
    (p.keep "\n */\n".toList).2 = .code ∧ 1 < (p.keep "\n */\n".toList).1.length := by
  cases p with
  | literal double => cases double <;> decide
  | escape double => cases double <;> decide
  | blockComment star => exact absurd rfl (h star)
  | _ => decide

/-- What a name keeps, and what the end of its comment keeps behind it. -/
def keptInHeader (name : String) : List Char :=
  ((Part.blockComment false).keep name.toList).1 ++
    (((Part.blockComment false).keep name.toList).2.keep "\n */\n".toList).1

theorem keptInHeader_eq {name : String} {kept : List Char} {star : Bool}
    (h : (Part.blockComment false).keep name.toList = (kept, .blockComment star)) :
    keptInHeader name = kept ++ ['\n'] := by
  rw [keptInHeader, h, keep_closing_blockComment]

theorem keptInHeader_eq_iff (name : String) : keptInHeader name = ['\n'] ↔ StaysComment name := by
  constructor
  · intro bare
    obtain ⟨kept, last, left⟩ :
        ∃ kept last, (Part.blockComment false).keep name.toList = (kept, last) := ⟨_, _, rfl⟩
    by_cases within : ∃ star, last = .blockComment star
    · obtain ⟨star, rfl⟩ := within
      rw [keptInHeader_eq left] at bare
      have none : kept = [] := by simpa using bare
      rw [none] at left
      exact ⟨star, left⟩
    · have outside : ∀ star, last ≠ .blockComment star := fun star h => within ⟨star, h⟩
      have long := (keep_closing outside).2
      have short := congrArg List.length bare
      simp only [keptInHeader, left, List.length_append, List.length_singleton] at short
      omega
  · rintro ⟨star, left⟩
    exact keptInHeader_eq left

/-- A text with a name in an open comment, which ends behind it. -/
theorem withoutComments_around {before : String}
    (opens : (Part.code.keep before.toList).2 = .blockComment false) (name body : String) :
    withoutComments (before ++ (name ++ ("\n */\n" ++ body))) =
      (Part.code.keep before.toList).1 ++ (keptInHeader name ++ withoutComments body) := by
  have closes : (((Part.blockComment false).keep name.toList).2.keep "\n */\n".toList).2 =
      .code := by
    by_cases within : ∃ star, ((Part.blockComment false).keep name.toList).2 = .blockComment star
    · obtain ⟨star, last⟩ := within
      rw [last, keep_closing_blockComment]
    · exact (keep_closing fun star h => within ⟨star, h⟩).1
  simp only [withoutComments, String.toList_append, Part.keep_append, opens, closes, keptInHeader,
    List.append_assoc]

/-- The pieces of a class up to its display name, and those behind the header comment. -/
def openingLayout : List Piece := [
  .text "\n", .slot .namespaceName, .text " = ", .slot .namespaceName,
  .text " || \x7b\x7d;\n\n/**\n * Object generated from "]

def bodyLayout : List Piece := classLayout.drop 7

theorem classLayout_eq_around :
    classLayout = openingLayout ++ .slot .fullName :: .text "\n */\n" :: bodyLayout := rfl

theorem render_fullName {pieces : List Piece} (absent : .slot .fullName ∉ pieces) (f : Fragments)
    (name : String) : render pieces { f with fullName := name } = render pieces f := by
  have same : ∀ piece ∈ pieces, piece.code { f with fullName := name } = piece.code f := by
    intro piece member
    cases piece with
    | text value => rfl
    | slot place =>
      cases place with
      | fullName => exact absurd member absent
      | _ => rfl
  rw [render, render, List.map_congr_left same]

theorem keep_openingLayout (f : Fragments) :
    (Part.code.keep (render openingLayout f).toList).2 = .blockComment false := by
  have shape : openingLayout = openingLayout.take 4 ++
      [.text " || \x7b\x7d;\n\n/**\n * Object generated from "] := rfl
  rw [shape, render_append, String.toList_append, Part.keep_append]
  have last : render [.text " || \x7b\x7d;\n\n/**\n * Object generated from "] f =
      " || \x7b\x7d;\n\n/**\n * Object generated from " := by
    simp [render, Piece.code]
  rw [last]
  dsimp only
  exact keep_opening _

/-- What is written for a type does not tell its display name. -/
def MethodCompiler.IgnoresFullName {σ : Type} (compiler : MethodCompiler σ) : Prop :=
  ∀ (q : MethodRequest) (name : String) (s : σ),
    compiler.compile { q with type := { q.type with fullName := name } } s = compiler.compile q s

theorem ignoresFullName_shell (includes : List String) :
    (MethodCompiler.shell includes).IgnoresFullName := fun _ _ _ => rfl

def ClassRequest.withFullName (r : ClassRequest) (name : String) : ClassRequest :=
  { r with type := { r.type with fullName := name } }

section Named

variable {σ : Type} {compiler : MethodCompiler σ} (ignores : compiler.IgnoresFullName)

include ignores

theorem compileAll_withFullName (r : ClassRequest) (name : String) (s : σ) :
    compileAll compiler (r.withFullName name).methodRequests s =
      compileAll compiler r.methodRequests s := by
  have requests : (r.withFullName name).methodRequests = r.methodRequests.map fun q =>
      { q with type := { q.type with fullName := name } } := by
    simp only [ClassRequest.methodRequests, List.map_map]
    rfl
  rw [requests]
  generalize r.methodRequests = requests
  induction requests generalizing s with
  | nil => rfl
  | cons q rest ih => simp only [List.map_cons, compileAll, ignores q name s, ih]

theorem generate_withFullName (r : ClassRequest) (name : String) (s : σ) :
    (generate compiler (r.withFullName name) s).value =
      (render openingLayout (r.fragments "") ++ (name ++ ("\n */\n" ++
        render bodyLayout (r.fragments (compileAll compiler r.methodRequests s).1))),
        (compileAll compiler r.methodRequests s).2) := by
  rw [value_generate, compileAll_withFullName ignores]
  generalize compileAll compiler r.methodRequests s = compiled
  have fragments : (r.withFullName name).fragments compiled.1 =
      { r.fragments compiled.1 with fullName := name } := rfl
  have absent : Piece.slot .fullName ∉ openingLayout ∧ Piece.slot .fullName ∉ bodyLayout := by
    decide
  rw [fragments, classLayout_eq_around, render_append, render_cons, render_cons,
    render_fullName absent.1, render_fullName absent.2]
  rfl

/-- Outside block comments a class is the same text but for what its display name keeps there. -/
theorem exists_withoutComments_generate (r : ClassRequest) (s : σ) :
    ∃ front behind : List Char, ∀ name,
      withoutComments (generate compiler (r.withFullName name) s).value.1 =
        front ++ (keptInHeader name ++ behind) := by
  let before := render openingLayout (r.fragments "")
  let body := render bodyLayout (r.fragments (compileAll compiler r.methodRequests s).1)
  refine ⟨(Part.code.keep before.toList).1, withoutComments body, ?_⟩
  intro name
  rw [generate_withFullName ignores]
  exact withoutComments_around (keep_openingLayout _) name _

theorem withoutComments_generate_inj {r : ClassRequest} {s : σ} {name other : String} :
    withoutComments (generate compiler (r.withFullName name) s).value.1 =
        withoutComments (generate compiler (r.withFullName other) s).value.1 ↔
      keptInHeader name = keptInHeader other := by
  obtain ⟨front, behind, stripped⟩ := exists_withoutComments_generate ignores r s
  rw [stripped, stripped, List.append_cancel_left_eq, List.append_cancel_right_eq]

/-- The display name of a class makes no difference outside its header comment exactly where it
stays within that comment, as each name does that does not hold the end of one. What a name holds
behind such an end is code. -/
theorem sameCode_iff_staysComment (r : ClassRequest) (s : σ) :
    (∀ name other, StaysComment name →
      (withoutComments (generate compiler (r.withFullName other) s).value.1 =
        withoutComments (generate compiler (r.withFullName name) s).value.1 ↔
          StaysComment other)) ∧
    (∀ name : String, ¬ ['*', '/'] <:+: name.toList → StaysComment name) ∧
    ∃ front behind : List Char, ∀ (name : String) (kept : List Char) (star : Bool),
      (Part.blockComment false).keep name.toList = (kept, .blockComment star) →
        withoutComments (generate compiler (r.withFullName name) s).value.1 =
          front ++ (kept ++ behind) := by
  refine ⟨?_, fun _ => staysComment_of_notInfix, ?_⟩
  · intro name other stays
    have bare : keptInHeader name = ['\n'] := (keptInHeader_eq_iff name).2 stays
    rw [withoutComments_generate_inj ignores, bare, keptInHeader_eq_iff]
  · obtain ⟨front, behind, stripped⟩ := exists_withoutComments_generate ignores r s
    refine ⟨front, ['\n'] ++ behind, ?_⟩
    intro name kept star left
    rw [stripped, keptInHeader_eq left, List.append_assoc]

end Named

theorem sameCode_iff_staysComment_hero :
    (MethodCompiler.shell ["tools.js"]).IgnoresFullName ∧
    StaysComment "Hero /* of the realm" ∧ ¬ StaysComment "Hero */ of the realm" ∧
    withoutComments (generate (.shell ["tools.js"])
        ((heroRequest ["jump"]).withFullName "Hero */ of the realm") []).value.1 ≠
      withoutComments (generate (.shell ["tools.js"])
        ((heroRequest ["jump"]).withFullName "Hero /* of the realm") []).value.1 := by
  have ignores := ignoresFullName_shell ["tools.js"]
  obtain ⟨same, stays, -⟩ := sameCode_iff_staysComment ignores (heroRequest ["jump"]) []
  have inside : StaysComment "Hero /* of the realm" := stays _ (by decide)
  have outside : ¬ StaysComment "Hero */ of the realm" := by
    rintro ⟨star, left⟩
    have last := congrArg Prod.snd left
    exact absurd last (by cases star <;> decide)
  exact ⟨ignores, inside, outside, fun h => outside ((same _ _ inside).1 h)⟩

/-- A display name that ends the comment, calls, and begins another comment. -/
theorem code_of_fullName :
    withoutComments
        (generate (.shell []) ((heroRequest []).withFullName "*/ alert(1); /*") []).value.1 ≠
      withoutComments (generate (.shell []) ((heroRequest []).withFullName "") []).value.1 := by
  intro same
  have kept := (withoutComments_generate_inj (ignoresFullName_shell [])).1 same
  exact absurd kept (by decide)

end CompositeObjects.Script
