import CompositeObjects.CommandLine.Commands
import CompositeObjects.Proofs.Loader
import CompositeObjects.Proofs.Members
import CompositeObjects.Proofs.Roster

namespace CompositeObjects

namespace Script

/-- The text of a class ends with its registration. -/
theorem exists_generate_eq (r : ClassRequest) (includes : List String) (files : FileSet) :
    ∃ front, (generate (.shell includes) r files).value.1 =
      front ++ registration (qualifiedName r.extension r.type.name) r.classPath := by
  refine ⟨render headLayout (r.fragments "") ++ (r.constructorMember.code ++
    (r.updateMember.code ++ ("  // Properties:\n  " ++ (membersCode r.accessors ++
      ("\n\x7d\n\n// Methods:\n" ++ membersCode r.methods))))), ?_⟩
  rw [r.text_eq includes files, ClassRequest.membersText]
  simp only [String.append_assoc]

end Script

namespace CommandLine

namespace Run

variable {α β : Type}

/-- A course of two parts comes to its end where both do. -/
theorem exists_of_bind {x : Run α} {f : α → Run β} {b : β} (done : (x >>= f).result = .ok b) :
    ∃ a, x.result = .ok a ∧ (f a).result = .ok b := by
  cases ends : x.result with
  | error report =>
    simp only [bind, ends] at done
    cases done
  | ok a =>
    simp only [bind, ends] at done
    exact ⟨a, rfl, done⟩

/-- A text is put out: it is the first that is printed, or what is written to a file. -/
def Emits (x : Run α) (text : String) : Prop :=
  (∃ rest, x.printed = text ++ rest) ∨ ∃ path, (path, text) ∈ x.written

theorem printed_bind {x : Run α} {f : α → Run β} (first : x.printed = "")
    (others : ∀ a, (f a).printed = "") : (x >>= f).printed = "" := by
  simp only [bind]
  split
  · exact first
  · simp [first, others]

/-- What is put out behind a silent part is put out by the whole. -/
theorem Emits.of_bind {x : Run α} {f : α → Run β} {a : α} (ends : x.result = .ok a)
    (silent : x.printed = "") {text : String} (h : (f a).Emits text) : (x >>= f).Emits text := by
  have printed : (x >>= f).printed = (f a).printed := by
    simp [bind, ends, silent]
  have written : (x >>= f).written = x.written ++ (f a).written := by
    simp only [bind, ends]
  rcases h with ⟨rest, h⟩ | ⟨path, h⟩
  · exact Or.inl ⟨rest, printed.trans h⟩
  · refine Or.inr ⟨path, ?_⟩
    rw [written]
    exact List.mem_append_right _ h

end Run

theorem accepted_of_loadCatalog {files : Files} {path : String} {catalog : Catalog}
    (done : (loadCatalog files path).result = .ok catalog) : catalog.Accepted := by
  rw [loadCatalog] at done
  obtain ⟨content, -, done⟩ := Run.exists_of_bind done
  cases content with
  | error error => cases done
  | ok text =>
    obtain ⟨read, ok, done⟩ := Run.exists_of_bind done
    cases read with
    | error error => cases done
    | ok other =>
      cases done
      exact Or.inl ⟨text, Except.ok.inj ok⟩

theorem printed_loadCatalog (files : Files) (path : String) :
    (loadCatalog files path).printed = "" := by
  rw [loadCatalog]
  refine Run.printed_bind rfl fun content => ?_
  cases content with
  | error error => rfl
  | ok text =>
    refine Run.printed_bind rfl fun read => ?_
    cases read <;> rfl

theorem printed_findEntry (catalog : Catalog) (typeName : String) :
    (findEntry catalog typeName).printed = "" := by
  unfold findEntry
  split <;> rfl

theorem findEntry_eq_ok {catalog : Catalog} {typeName : String} {entry : Entry}
    (done : (findEntry catalog typeName).result = .ok entry) :
    catalog.entry? typeName = some entry := by
  unfold findEntry at done
  split at done
  · rename_i found
    cases done
    exact found
  · cases done

theorem name_of_findEntry {catalog : Catalog} (accepted : catalog.Accepted) {typeName : String}
    {entry : Entry} (done : (findEntry catalog typeName).result = .ok entry) :
    qualifiedName entry.extension entry.type.name = typeName :=
  (accepted.settled.indexed.entry?_eq_some_iff.1 (findEntry_eq_ok done)).2

/-- What is done with the text of a class: it is printed, or written to a file, of which a line
tells. -/
def deliver (files : Files) (coloured : Bool) (typeName code : String) :
    Option String → Run Unit
  | none => Run.print code
  | some path => do
    match ← Run.write files path code with
    | .error error => Run.fail ("Failed to write " ++ path) [error.message]
    | .ok () =>
      Run.printLine coloured [(.done, "Generated"), (.plain, " " ++ typeName ++ " → " ++ path)]

theorem emits_deliver {files : Files} {coloured : Bool} {typeName code : String}
    {output : Option String}
    (done : (deliver files coloured typeName code output).result = .ok ()) :
    (deliver files coloured typeName code output).Emits code := by
  cases output with
  | none => exact Or.inl ⟨"", by simp [deliver, Run.print]⟩
  | some path =>
    rw [deliver] at done ⊢
    obtain ⟨written, ends, -⟩ := Run.exists_of_bind done
    cases obstacle : files.obstacle path with
    | some error =>
      simp only [Run.write, obstacle, bind, pure] at done
      cases done
    | none =>
      by_cases isOutput : files.isOutput path
      · refine Or.inl ⟨(Run.printLine coloured
          [(.done, "Generated"), (.plain, " " ++ typeName ++ " → " ++ path)]).printed, ?_⟩
        simp only [Run.write, obstacle, isOutput, bind, if_true]
      · refine Or.inr ⟨path, ?_⟩
        simp [Run.write, obstacle, isOutput, bind]

/-- The class that is written for an entry. -/
def classRequest (settings : Settings) (namespaceName : Option String) (editor : Bool)
    (entry : Entry) : Script.ClassRequest where
  extension := entry.extension
  type := entry.type
  namespaceName := (namespaceName.orElse fun _ => settings.namespaceName).getD
    (Script.defaultNamespace entry.extension entry.type.name)
  methodNames := (Script.identityNames entry.type).overlay settings.methodNames
  forRuntime := settings.forRuntime && !editor

theorem generate_eq (files : Files) (coloured : Bool) (settings : Settings)
    (project typeName : String) (namespaceName : Option String) (editor : Bool)
    (output : Option String) :
    generate files coloured settings project typeName namespaceName editor output =
      loadCatalog files project >>= fun catalog =>
      findEntry catalog typeName >>= fun entry =>
      Run.ofTraced (Script.generate (.shell []) (classRequest settings namespaceName editor entry)
        []) >>= fun written =>
      Run.ofTraced ⟨(), written.2.keys.map .includedFile⟩ >>= fun _ =>
      deliver files coloured typeName written.1 output := by
  unfold generate deliver
  refine congrArg (loadCatalog files project >>= ·) (funext fun catalog => ?_)
  refine congrArg (findEntry catalog typeName >>= ·) (funext fun entry => ?_)
  refine congrArg (Run.ofTraced _ >>= ·) (funext fun written => ?_)
  refine congrArg (Run.ofTraced _ >>= ·) (funext fun _ => ?_)
  cases output with
  | none => rfl
  | some path => rfl

/-- The class that is put out is that of the entry with the name that was asked for, and it is
registered under this name. -/
theorem emits_registration {files : Files} {coloured : Bool} {settings : Settings}
    {project typeName : String} {namespaceName : Option String} {editor : Bool}
    {output : Option String}
    (done : (generate files coloured settings project typeName namespaceName editor
      output).result = .ok ()) :
    ∃ catalog entry front, (loadCatalog files project).result = .ok catalog ∧
      (findEntry catalog typeName).result = .ok entry ∧
      (generate files coloured settings project typeName namespaceName editor output).Emits
        (front ++ Script.registration typeName
          (classRequest settings namespaceName editor entry).classPath) := by
  rw [generate_eq] at done ⊢
  obtain ⟨catalog, loaded, done⟩ := Run.exists_of_bind done
  obtain ⟨entry, found, done⟩ := Run.exists_of_bind done
  obtain ⟨written, generated, done⟩ := Run.exists_of_bind done
  obtain ⟨⟨⟩, told, done⟩ := Run.exists_of_bind done
  have named := name_of_findEntry (accepted_of_loadCatalog loaded) found
  obtain ⟨front, registers⟩ :=
    Script.exists_generate_eq (classRequest settings namespaceName editor entry) [] []
  have code : written.1 = front ++ Script.registration typeName
      (classRequest settings namespaceName editor entry).classPath := by
    rw [← named]
    exact (congrArg Prod.fst (Except.ok.inj generated)).symm.trans registers
  refine ⟨catalog, entry, front, loaded, found, ?_⟩
  rw [← code]
  -- Nothing is printed before the text of the class.
  have delivered := emits_deliver done
  refine Run.Emits.of_bind loaded (printed_loadCatalog files project) ?_
  refine Run.Emits.of_bind found (printed_findEntry catalog typeName) ?_
  refine Run.Emits.of_bind generated rfl ?_
  exact Run.Emits.of_bind told rfl delivered

/-- After any edits an empty catalog holds and answers what an association list does under the same
edits. So the entry that is found under a name in a loaded project has that name, and a class that
is generated is registered under the name that was asked for. -/
theorem catalog_represents_roster (edits : List Edit) :
    (Edit.runAll Catalog.edit edits .empty).1 = (Edit.runAll Roster.edit edits []).1 ∧
      (Edit.runAll Catalog.edit edits .empty).2.Represents (Edit.runAll Roster.edit edits []).2 ∧
      (Edit.runAll Catalog.edit edits .empty).2.names = Edit.standing [] edits ∧
      (Edit.runAll Catalog.edit edits .empty).2.Steady ∧
      (∀ files path catalog typeName entry,
        (loadCatalog files path).result = .ok catalog →
        (findEntry catalog typeName).result = .ok entry →
        qualifiedName entry.extension entry.type.name = typeName) ∧
      ∀ files coloured settings project typeName namespaceName editor output,
        (generate files coloured settings project typeName namespaceName editor
          output).result = .ok () →
        ∃ catalog entry front, (loadCatalog files project).result = .ok catalog ∧
          (findEntry catalog typeName).result = .ok entry ∧
          (generate files coloured settings project typeName namespaceName editor output).Emits
            (front ++ Script.registration typeName
              (classRequest settings namespaceName editor entry).classPath) := by
  have indexed : Catalog.empty.Indexed := Catalog.indexed_empty
  obtain ⟨answers, roster, indexed⟩ := indexed.runAll edits
  refine ⟨answers, ?_, ?_, indexed.steady, ?_, ?_⟩
  · have represents := indexed.represents
    rw [roster] at represents
    exact represents
  · rw [← Catalog.names_roster, roster]
    exact Roster.names_runAll [] edits
  · intro files path catalog typeName entry loaded found
    exact name_of_findEntry (accepted_of_loadCatalog loaded) found
  · intro files coloured settings project typeName namespaceName editor output done
    exact emits_registration done

/-- A place where every file holds a project with one type. -/
def farmFiles : Files where
  read _ := .ok <|
    "\x7b\"extensions\": [\x7b\"name\": \"Farm\", " ++
    "\"eventsBasedObjects\": [\x7b\"name\": \"Ox\"\x7d]\x7d]\x7d"
  obstacle _ := none
  isOutput _ := false

theorem generate_farmFiles :
    (generate farmFiles false {} "farm.json" "Farm::Ox" none false none).result = .ok () := by
  have ends : (generate farmFiles false {} "farm.json" "Farm::Ox" none false none).result.isOk =
      true := by decide +kernel
  obtain ⟨⟨⟩, done⟩ := exists_of_isOk ends
  exact done

/-- The names `A::B` in `C` and `B::C` in `A` are one, so that the second type is refused; a type
that was taken out comes back behind the others. -/
def farmEdits : List Edit := [
  .insert "A::B" (.empty "C"), .insert "A" (.empty "B::C"), .insert "Farm" (.empty "Ox"),
  .remove "A::B::C", .insert "A" (.empty "B::C")]

theorem catalog_represents_roster_farm :
    (generate farmFiles false {} "farm.json" "Farm::Ox" none false none).result = .ok () ∧
      (Edit.runAll Catalog.edit farmEdits .empty).2.names = ["Farm::Ox", "A::B::C"] ∧
      ∃ catalog entry front, (loadCatalog farmFiles "farm.json").result = .ok catalog ∧
        (findEntry catalog "Farm::Ox").result = .ok entry ∧
        (generate farmFiles false {} "farm.json" "Farm::Ox" none false none).Emits
          (front ++ Script.registration "Farm::Ox"
            (classRequest {} none false entry).classPath) := by
  obtain ⟨-, -, names, -, -, registered⟩ := catalog_represents_roster farmEdits
  have standing : Edit.standing [] farmEdits = ["Farm::Ox", "A::B::C"] := by decide +kernel
  refine ⟨generate_farmFiles, names.trans standing, ?_⟩
  exact registered _ _ _ _ _ _ _ _ generate_farmFiles

end CommandLine
end CompositeObjects
