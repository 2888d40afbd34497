import CompositeObjects.Proofs.Registration
import CompositeObjects.Proofs.RepeatedWalk

namespace CompositeObjects.CommandLine

namespace Run

variable {α β : Type}

instance : LawfulMonad Run := LawfulMonad.mk' Run
  (by
    intro α ⟨result, printed, events, written⟩
    cases result <;> simp [Functor.map])
  (by
    intro α β a f
    simp [bind, pure])
  (by
    intro α β γ ⟨result, printed, events, written⟩ f g
    cases result with
    | error report => rfl
    | ok a => cases ends : (f a).result <;> simp [bind, ends, String.append_assoc])

/-- A course that fails has printed nothing. -/
structure SilentOnFailure (x : Run α) : Prop where
  printed_of_error : ∀ report, x.result = .error report → x.printed = ""

theorem silentOnFailure_of_printed {x : Run α} (silent : x.printed = "") : x.SilentOnFailure :=
  ⟨fun _ _ => silent⟩

theorem silentOnFailure_of_ends {x : Run α} {a : α} (ends : x.result = .ok a) :
    x.SilentOnFailure := by
  refine ⟨fun report failed => ?_⟩
  rw [ends] at failed
  cases failed

/-- What comes first may fail as long as it prints nothing. -/
theorem SilentOnFailure.after {x : Run α} {f : α → Run β} (silent : x.printed = "")
    (others : ∀ a, x.result = .ok a → (f a).SilentOnFailure) : (x >>= f).SilentOnFailure := by
  refine ⟨fun report failed => ?_⟩
  cases ends : x.result with
  | error first =>
    simp only [bind, ends]
    exact silent
  | ok a =>
    simp only [bind, ends] at failed ⊢
    rw [silent, String.empty_append]
    exact (others a ends).printed_of_error report failed

/-- What comes last may print as long as it does not fail. -/
theorem SilentOnFailure.before {x : Run α} {f : α → Run β} (first : x.SilentOnFailure)
    (others : ∀ a, x.result = .ok a → ∃ b, (f a).result = .ok b) : (x >>= f).SilentOnFailure := by
  refine ⟨fun report failed => ?_⟩
  cases ends : x.result with
  | error other =>
    simp only [bind, ends]
    exact first.printed_of_error other ends
  | ok a =>
    obtain ⟨b, done⟩ := others a ends
    simp only [bind, ends] at failed
    rw [done] at failed
    cases failed

theorem exists_bind {x : Run α} {f : α → Run β} {a : α} {b : β} (first : x.result = .ok a)
    (second : (f a).result = .ok b) : (x >>= f).result = .ok b := by
  simp only [bind, first, second]

end Run

theorem printLines_ends (coloured : Bool) (lines : List (List Span)) :
    (printLines coloured lines).result = .ok () := by
  induction lines with
  | nil => rfl
  | cons line rest ih =>
    have first : (Run.printLine coloured line).result = .ok () := rfl
    exact Run.exists_bind (f := fun _ => printLines coloured rest) first ih

theorem printed_readPairs (texts : List String) : (readPairs texts).printed = "" := by
  rw [readPairs]
  split <;> rfl

theorem printed_loadSettings (files : Files) (config : Option String) :
    (loadSettings files config).printed = "" := by
  cases config with
  | none => rfl
  | some path =>
    rw [loadSettings]
    refine Run.printed_bind rfl fun content => ?_
    cases content with
    | error error => rfl
    | ok text =>
      dsimp only
      cases Settings.ofText? text <;> rfl

theorem printed_setAll (catalog : Catalog) (typeName : String) (updates : List (String × String))
    (object : Composite Configuration) :
    (setAll catalog typeName updates object).printed = "" := by
  induction updates generalizing object with
  | nil => rfl
  | cons update rest ih =>
    obtain ⟨name, value⟩ := update
    rw [setAll]
    cases object.update? catalog name value with
    | none => rfl
    | some object => exact ih object

theorem printed_makeAll (catalog : Catalog) (names : List String)
    (object : Composite Configuration) : (makeAll catalog names object).printed = "" := by
  induction names generalizing object with
  | nil => rfl
  | cons name rest ih =>
    rw [makeAll]
    refine Run.printed_bind rfl fun found => ?_
    cases found with
    | error error => rfl
    | ok found => exact ih found.2

section Walks

variable {σ : Type} {catalog : Catalog} {walker : Walker σ} {object : Configuration} {s : σ}

theorem printed_walkObject (catalog : Catalog) (walker : Walker σ) (object : Configuration)
    (s : σ) : (walkObject catalog walker object s).printed = "" := by
  unfold walkObject
  split <;> rfl

theorem walkObject_eq_ok {walked : Configuration × σ}
    (done : (walkObject catalog walker object s).result = .ok walked) :
    ∃ r, object.walk catalog walker s = some r ∧ r.value = walked := by
  unfold walkObject at done
  split at done
  · rename_i r ends
    cases done
    exact ⟨r, ends, rfl⟩
  · cases done

theorem walkObject_of_walk {r : Traced (Configuration × σ)}
    (ends : object.walk catalog walker s = some r) :
    (walkObject catalog walker object s).result = .ok r.value := by
  rw [walkObject, ends]
  rfl

end Walks

/-- The object whose resources are listed: it is renamed first if that is asked for. -/
def renameFirst (catalog : Catalog) (coloured : Bool) (renames : List (String × String))
    (fresh : Configuration) : Run Configuration :=
  if renames.isEmpty then pure fresh else do
    let (object, renamed) ← walkObject catalog Renaming.walker fresh (.ofPairs renames)
    Run.printLine coloured
      [(.done, "Renamed"), (.plain, " " ++ toString renamed.rewritten ++ " references")]
    pure object

/-- Lists what a walk finds, however often the object has been walked before. -/
def listResources (catalog : Catalog) (coloured : Bool) (object : Configuration) : Run Unit := do
  let (_, census) ← walkObject catalog Census.walker object .empty
  printLines coloured (censusLines census)

theorem resources_eq (files : Files) (coloured : Bool) (project typeName : String)
    (renames : List String) :
    resources files coloured project typeName renames =
      loadCatalog files project >>= fun catalog =>
      findEntry catalog typeName >>= fun _ =>
      readPairs renames >>= fun renames =>
      renameFirst catalog coloured renames (.composite (.fresh typeName)) >>= fun object =>
      listResources catalog coloured object := by
  unfold resources renameFirst listResources
  refine congrArg (loadCatalog files project >>= ·) (funext fun catalog => ?_)
  refine congrArg (findEntry catalog typeName >>= ·) (funext fun _ => ?_)
  refine congrArg (readPairs renames >>= ·) (funext fun renames => ?_)
  cases renames.isEmpty with
  | true => rfl
  | false => simp [bind_assoc]

theorem silentOnFailure_renameFirst (catalog : Catalog) (coloured : Bool)
    (renames : List (String × String)) (fresh : Configuration) :
    (renameFirst catalog coloured renames fresh).SilentOnFailure := by
  rw [renameFirst]
  split
  · exact Run.silentOnFailure_of_printed rfl
  · refine Run.SilentOnFailure.after (printed_walkObject ..) fun walked _ => ?_
    exact Run.silentOnFailure_of_ends rfl

/-- What is listed after a renaming has been walked before, and so it can be walked again. -/
theorem listResources_ends {catalog : Catalog} {coloured : Bool}
    {renames : List (String × String)} (some : renames.isEmpty = false) {typeName : String}
    {object : Configuration}
    (renamed : (renameFirst catalog coloured renames (.composite (.fresh typeName))).result =
      .ok object) : (listResources catalog coloured object).result = .ok () := by
  rw [renameFirst, if_neg (by simp [some])] at renamed
  obtain ⟨walked, done, renamed⟩ := Run.exists_of_bind renamed
  obtain ⟨r, ends, rfl⟩ := walkObject_eq_ok done
  cases renamed
  obtain ⟨again, ends⟩ := Configuration.exists_walk_again ends
    (Configuration.weight_fresh_le typeName _) Census.walker .empty
  exact Run.exists_bind (walkObject_of_walk ends) (printLines_ends coloured _)

theorem silentOnFailure_listResources (catalog : Catalog) (coloured : Bool)
    (object : Configuration) : (listResources catalog coloured object).SilentOnFailure := by
  refine Run.SilentOnFailure.after (printed_walkObject ..) fun walked _ => ?_
  exact Run.silentOnFailure_of_ends (printLines_ends coloured _)

theorem silentOnFailure_types (files : Files) (coloured : Bool) (project : String) :
    (types files coloured project).SilentOnFailure := by
  refine Run.SilentOnFailure.after (printed_loadCatalog files project) fun catalog _ => ?_
  split
  · exact Run.silentOnFailure_of_ends rfl
  · exact Run.silentOnFailure_of_ends (printLines_ends coloured _)

theorem silentOnFailure_deliver (files : Files) (coloured : Bool) (typeName code : String)
    (output : Option String) : (deliver files coloured typeName code output).SilentOnFailure := by
  cases output with
  | none => exact Run.silentOnFailure_of_ends rfl
  | some path =>
    cases obstacle : files.obstacle path with
    | some error =>
      -- Nothing has been written either.
      have refused : Run.write files path code = pure (.error error) := by
        rw [Run.write, obstacle]
      rw [deliver, refused]
      exact Run.silentOnFailure_of_printed rfl
    | none =>
      have done : (Run.write files path code).result = .ok (.ok ()) := by
        rw [Run.write, obstacle]
        dsimp only
        split <;> rfl
      exact Run.silentOnFailure_of_ends (Run.exists_bind done rfl)

theorem silentOnFailure_generate (files : Files) (coloured : Bool) (settings : Settings)
    (project typeName : String) (namespaceName : Option String) (editor : Bool)
    (output : Option String) :
    (generate files coloured settings project typeName namespaceName editor
      output).SilentOnFailure := by
  rw [generate_eq]
  refine Run.SilentOnFailure.after (printed_loadCatalog files project) fun catalog _ => ?_
  refine Run.SilentOnFailure.after (printed_findEntry catalog typeName) fun entry _ => ?_
  refine Run.SilentOnFailure.after rfl fun written _ => ?_
  refine Run.SilentOnFailure.after rfl fun _ _ => ?_
  exact silentOnFailure_deliver files coloured typeName written.1 output

theorem silentOnFailure_inspect (files : Files) (project typeName : String)
    (updates children : List String) :
    (inspect files project typeName updates children).SilentOnFailure := by
  refine Run.SilentOnFailure.after (printed_loadCatalog files project) fun catalog _ => ?_
  refine Run.SilentOnFailure.after (printed_findEntry catalog typeName) fun entry _ => ?_
  refine Run.SilentOnFailure.after (printed_readPairs updates) fun pairs _ => ?_
  refine Run.SilentOnFailure.after (printed_setAll ..) fun object _ => ?_
  refine Run.SilentOnFailure.after (printed_makeAll ..) fun object _ => ?_
  exact Run.silentOnFailure_of_ends rfl

theorem silentOnFailure_resources (files : Files) (coloured : Bool) (project typeName : String)
    (renames : List String) :
    (resources files coloured project typeName renames).SilentOnFailure := by
  rw [resources_eq]
  refine Run.SilentOnFailure.after (printed_loadCatalog files project) fun catalog _ => ?_
  refine Run.SilentOnFailure.after (printed_findEntry catalog typeName) fun entry _ => ?_
  refine Run.SilentOnFailure.after (printed_readPairs renames) fun pairs _ => ?_
  cases nothing : pairs.isEmpty with
  | true =>
    refine Run.SilentOnFailure.after ?_ fun object _ => ?_
    · rw [renameFirst, if_pos nothing]
      rfl
    · exact silentOnFailure_listResources catalog coloured object
  | false =>
    -- The count of the renaming has been printed when the list is made, which cannot fail then.
    refine Run.SilentOnFailure.before
      (silentOnFailure_renameFirst catalog coloured pairs _) fun object renamed => ?_
    exact ⟨(), listResources_ends nothing renamed⟩

theorem silentOnFailure_perform (s : Surroundings) (i : Invocation) :
    (perform s i).SilentOnFailure := by
  refine Run.SilentOnFailure.after (printed_loadSettings s.files i.config) fun settings _ => ?_
  cases i.command with
  | types project => exact silentOnFailure_types ..
  | generate project typeName namespaceName editor output => exact silentOnFailure_generate ..
  | inspect project typeName updates children => exact silentOnFailure_inspect ..
  | resources project typeName renames => exact silentOnFailure_resources ..

/-- A command that ends in a failure has printed nothing, whatever the files and the arguments are
and wherever it fails. -/
theorem printed_of_failed (s : Surroundings) (args : List String) (failed : (run s args).code ≠ 0) :
    (run s args).printed = "" := by
  unfold run at failed ⊢
  cases read : Invocation.ofArguments args with
  | error stop =>
    rw [read] at failed
    cases stop with
    | misuse => rfl
    | help => exact absurd rfl failed
    | version => exact absurd rfl failed
  | ok i =>
    rw [read] at failed
    cases result : (perform s i).result with
    | ok done =>
      simp only [result] at failed
      exact absurd rfl failed
    | error report =>
      simp only [result]
      exact (silentOnFailure_perform s i).printed_of_error report result

/-- A place where every file holds a project with one type, which has a colour and a tail, and where
nothing can be written. -/
def lockedFarm : Surroundings where
  files := {
    read _ := .ok <|
      "\x7b\"extensions\":[\x7b\"name\":\"Farm\",\"eventsBasedObjects\":[" ++
      "\x7b\"name\":\"Ox\",\"properties\":[\x7b\"name\":\"color\",\"type\":\"String\"\x7d]," ++
      "\"objects\":[\x7b\"name\":\"tail\",\"type\":\"Sprite\"\x7d]\x7d]\x7d]\x7d"
    obstacle _ := some .noSpace
    isOutput _ := false }
  noColor := false
  terminal := none
  wanted := none

def undeclaredAge : Outcome :=
  run lockedFarm ["inspect", "farm.json", "Farm::Ox", "--set", "color=red", "--set", "age=7"]

def unwritten : Outcome := run lockedFarm ["generate", "farm.json", "Farm::Ox", "-o", "ox.js"]

/-- There is no output from what went well before the failure. -/
theorem printed_of_failed_lockedFarm :
    (undeclaredAge.errorLines = ["Error: `Farm::Ox` has no property `age`"] ∧
      undeclaredAge.code ≠ 0 ∧ undeclaredAge.printed = "") ∧
    unwritten.errorLines.head? = some "Error: Failed to write ox.js" ∧
      unwritten.code ≠ 0 ∧ unwritten.printed = "" := by
  obtain ⟨age, ageLines⟩ : undeclaredAge.code = 1 ∧
      undeclaredAge.errorLines = ["Error: `Farm::Ox` has no property `age`"] := by
    decide +kernel
  obtain ⟨file, fileLines⟩ : unwritten.code = 1 ∧
      unwritten.errorLines.head? = some "Error: Failed to write ox.js" := by
    decide +kernel
  have ageFailed : undeclaredAge.code ≠ 0 := by omega
  have fileFailed : unwritten.code ≠ 0 := by omega
  exact ⟨⟨ageLines, ageFailed, printed_of_failed lockedFarm _ ageFailed⟩,
    fileLines, fileFailed, printed_of_failed lockedFarm _ fileFailed⟩

end CompositeObjects.CommandLine
