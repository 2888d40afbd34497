import CompositeObjects.CommandLine.Report
import CompositeObjects.Proofs.Members

namespace CompositeObjects.Script

/-- The lines of a function, up to the brace that closes it. A text that is no function has none. -/
def bodyLines (definition : String) : List String :=
  match CommandLine.Report.linesOf definition with
  | [] => []
  | head :: rest =>
    if " = function(".toList.isPrefixOf head.toList then
      (rest.takeWhile fun line => line.toList.head? ≠ some '\x7d').map fun line =>
        String.ofList (line.toList.dropWhile (· = ' '))
    else []

/-- The function that a member is defined as comes to the statement before it returns. -/
def Member.Runs (m : Member) (statement : String) : Prop :=
  statement ∈ (bodyLines m.definition).takeWhile (· ≠ "return;")

namespace ClassRequest

/-- The identifier that settings give to a function; without a setting it is the own name. -/
def identifier (settings : MethodNames) (name : String) : String :=
  (settings.get? name).getD name

/-- What a name of the prototype is assigned last. -/
def lastAssigned? (r : ClassRequest) (name : String) : Option Member :=
  (r.methods.filter (·.name = name)).getLast?

/-- What is called on each frame starts a new frame of the triggers. -/
def AdvancesTriggers (r : ClassRequest) : Prop :=
  ∃ m, r.lastAssigned? frameHook = some m ∧ m.Runs frameBefore

/-- The method of a function, without its context object. -/
def method (r : ClassRequest) (f : EventFunction) : Member :=
  ⟨r.classPath ++ ".prototype.", r.methodName f, (r.methodRequest f).definition⟩

/-- Each of these members is assigned to the prototype of the class. -/
theorem before_of_mem_methods {r : ClassRequest} {m : Member} (h : m ∈ r.methods) :
    m.before = r.classPath ++ ".prototype." ∨
      m.before = "\n" ++ (r.classPath ++ ".prototype.") := by
  rcases List.mem_append.1 h with h | h
  · obtain ⟨f, -, h⟩ := List.mem_flatMap.1 h
    rcases List.mem_cons.1 h with rfl | h
    · exact Or.inr rfl
    · rw [List.mem_singleton.1 h]
      exact Or.inl rfl
  · unfold hookMembers at h
    split at h
    · cases h
    · rw [List.mem_singleton.1 h]
      exact Or.inr rfl

theorem methodName_overlay {r : ClassRequest} {settings : MethodNames}
    (sorted : settings.Sorted) (made : r.methodNames = (identityNames r.type).overlay settings)
    (nodup : (r.type.functions.map EventFunction.name).Nodup) {f : EventFunction}
    (hf : f ∈ r.type.functions) : r.methodName f = identifier settings f.name := by
  rw [methodName, made, Table.get?_overlay _ sorted, get?_identityNames nodup hf, identifier]
  cases settings.get? f.name <;> rfl

/-- The method of the frame hook starts a new frame, and no other method does. -/
theorem runs_method_iff (r : ClassRequest) (f : EventFunction) :
    (r.method f).Runs frameBefore ↔ f.name = frameHook := by
  have definition : (r.method f).definition = String.join [
      " = function(parentEventsFunctionContext) \x7b\n", "var that = this;\n",
      if r.forRuntime then "" else "// Editor preview\n",
      wholeLines (if f.name = frameHook then frameBefore else ""),
      wholeLines (if f.name = creationHook then creationAfter else ""), "return;\n\x7d\n"] := rfl
  rw [Member.Runs, definition]
  by_cases frame : f.name = frameHook
  · have other : f.name ≠ creationHook := by
      rw [frame]
      decide
    rw [if_pos frame, if_neg other]
    refine iff_of_true ?_ frame
    cases r.forRuntime <;> decide +kernel
  · rw [if_neg frame]
    refine iff_of_false ?_ frame
    by_cases creation : f.name = creationHook
    · rw [if_pos creation]
      cases r.forRuntime <;> decide +kernel
    · rw [if_neg creation]
      cases r.forRuntime <;> decide +kernel

/-- No context object is called like the frame hook. -/
theorem filter_methodMembers (r : ClassRequest) (f : EventFunction) :
    (r.methodMembers f).filter (·.name = frameHook) =
      if r.methodName f = frameHook then [r.method f] else [] := by
  have context : contextName (r.methodName f) ≠ frameHook := contextName_ne (by decide) _
  rw [methodMembers, List.filter_cons_of_neg (by simpa using context), List.filter_singleton]
  by_cases same : r.methodName f = frameHook
  · simp [same, method]
  · simp [same]

theorem filter_flatMap_methodMembers (r : ClassRequest) (functions : List EventFunction) :
    (functions.flatMap r.methodMembers).filter (·.name = frameHook) =
      (functions.filter (r.methodName · = frameHook)).map r.method := by
  induction functions with
  | nil => rfl
  | cons f rest ih =>
    rw [List.flatMap_cons, List.filter_append, ih, filter_methodMembers]
    by_cases same : r.methodName f = frameHook <;> simp [same]

/-- The hook that is made for a type that declares none is assigned last, and starts a new frame. -/
theorem advancesTriggers_of_undeclared {r : ClassRequest}
    (undeclared : r.type.function? frameHook = none) : r.AdvancesTriggers := by
  have made : r.hookMembers = [⟨"\n" ++ (r.classPath ++ ".prototype."), frameHook,
      " = function() \x7b\n  " ++ (frameBefore ++ "\n\x7d;\n")⟩] := by
    rw [hookMembers, undeclared]
    rfl
  refine ⟨⟨"\n" ++ (r.classPath ++ ".prototype."), frameHook,
    " = function() \x7b\n  " ++ (frameBefore ++ "\n\x7d;\n")⟩, ?_, ?_⟩
  · rw [lastAssigned?, methods, made, List.filter_append, List.getLast?_append,
      List.filter_cons_of_pos (by simp)]
    rfl
  · change frameBefore ∈ (bodyLines (" = function() \x7b\n  " ++ (frameBefore ++ "\n\x7d;\n"))).takeWhile
      (· ≠ "return;")
    decide +kernel

/-- A declared hook is called on each frame where it keeps its name and no later function takes that
name. -/
theorem advancesTriggers_of_declared {r : ClassRequest}
    (declared : (r.type.function? frameHook).isSome) :
    r.AdvancesTriggers ↔ ∃ front f back, r.type.functions = front ++ f :: back ∧
      f.name = frameHook ∧ r.methodName f = frameHook ∧
        ∀ g ∈ back, r.methodName g ≠ frameHook := by
  have none : r.hookMembers = [] := by
    rw [hookMembers, if_pos declared]
  have last : r.lastAssigned? frameHook =
      ((r.type.functions.filter (r.methodName · = frameHook)).getLast?).map r.method := by
    rw [lastAssigned?, methods, none, List.append_nil, filter_flatMap_methodMembers,
      List.getLast?_map]
  constructor
  · rintro ⟨m, found, runs⟩
    rw [last] at found
    obtain ⟨f, hf, rfl⟩ := Option.map_eq_some_iff.1 found
    rw [List.getLast?_filter] at hf
    obtain ⟨named, back, front, split, others⟩ := List.find?_eq_some_iff_append.1 hf
    have functions : r.type.functions = front.reverse ++ f :: back.reverse := by
      rw [← List.reverse_reverse r.type.functions, split]
      simp
    refine ⟨front.reverse, f, back.reverse, functions, (r.runs_method_iff f).1 runs,
      by simpa using named, fun g hg => ?_⟩
    simpa using others g (List.mem_reverse.1 hg)
  · rintro ⟨front, f, back, functions, hname, named, others⟩
    have none : back.filter (r.methodName · = frameHook) = [] :=
      List.filter_eq_nil_iff.2 fun g hg => by simpa using others g hg
    refine ⟨r.method f, ?_, (r.runs_method_iff f).2 hname⟩
    rw [last, functions, List.filter_append, List.filter_cons_of_pos (by simpa using named), none,
      List.getLast?_append]
    rfl

/-- The settings leave the declared hook its name, and give that name to no function behind it. -/
def KeepsFrameHook (settings : MethodNames) (functions : List EventFunction) : Prop :=
  ∃ front hook back, functions = front ++ hook :: back ∧ hook.name = frameHook ∧
    identifier settings hook.name = frameHook ∧
      ∀ later ∈ back, identifier settings later.name ≠ frameHook

/-- With the identifiers that settings give to functions, a class advances its triggers on each frame
where its type declares no frame hook, or where the settings keep the hook that it declares. Nowhere
else is the last thing that is assigned to the name of the hook a function that does so. -/
theorem advancesTriggers_iff {r : ClassRequest} {settings : MethodNames}
    (sorted : settings.Sorted) (made : r.methodNames = (identityNames r.type).overlay settings)
    (nodup : (r.type.functions.map EventFunction.name).Nodup)
    (includes : List String) (files : FileSet) :
    (generate (.shell includes) r files).value.1 = r.membersText ∧
      (∀ m ∈ r.methods, m.before = r.classPath ++ ".prototype." ∨
        m.before = "\n" ++ (r.classPath ++ ".prototype.")) ∧
      (r.AdvancesTriggers ↔ frameHook ∉ r.type.functions.map EventFunction.name ∨
        KeepsFrameHook settings r.type.functions) := by
  refine ⟨r.text_eq includes files, fun m => before_of_mem_methods, ?_⟩
  have name (f : EventFunction) (hf : f ∈ r.type.functions) :
      r.methodName f = identifier settings f.name := methodName_overlay sorted made nodup hf
  cases found : r.type.function? frameHook with
  | none =>
    refine iff_of_true (advancesTriggers_of_undeclared found) (Or.inl fun declared => ?_)
    obtain ⟨f, hf, hname⟩ := List.mem_map.1 declared
    exact List.find?_eq_none.1 found f hf (by simpa using hname)
  | some hook =>
    have declared : frameHook ∈ r.type.functions.map EventFunction.name :=
      List.mem_map.2 ⟨hook, List.mem_of_find?_eq_some found, by simpa using List.find?_some found⟩
    rw [advancesTriggers_of_declared (by rw [found]; rfl), or_iff_right (not_not.2 declared)]
    refine exists_congr fun front => exists_congr fun f => exists_congr fun back => ?_
    refine and_congr_right fun functions => and_congr_right fun _ => ?_
    have hf : f ∈ r.type.functions := by simp [functions]
    have behind (g : EventFunction) (hg : g ∈ back) : g ∈ r.type.functions := by
      simp [functions, hg]
    rw [name f hf]
    refine and_congr_right fun _ => forall₂_congr fun g hg => ?_
    rw [name g (behind g hg)]

/-- A hero with functions of given names, to which settings give identifiers. -/
def renamedHero (functions : List String) (settings : MethodNames) : ClassRequest :=
  { heroRequest functions with
    methodNames := (identityNames (heroRequest functions).type).overlay settings }

/-- The function `jump` takes the name of the hook, but the hook behind it takes it back. -/
theorem advancesTriggers_hero :
    ∃ r settings, r = renamedHero ["jump", "doStepPreEvents", "land"] settings ∧
      settings = [("jump", "doStepPreEvents"), ("land", "land_1")] ∧ Table.Sorted settings ∧
      r.methodNames = (identityNames r.type).overlay settings ∧
      (r.type.functions.map EventFunction.name).Nodup ∧ r.AdvancesTriggers := by
  let settings : MethodNames := [("jump", "doStepPreEvents"), ("land", "land_1")]
  let r := renamedHero ["jump", "doStepPreEvents", "land"] settings
  have sorted : settings.Sorted := by decide
  have nodup : (r.type.functions.map EventFunction.name).Nodup := by decide
  have kept : KeepsFrameHook settings r.type.functions :=
    ⟨[.empty "jump"], .empty "doStepPreEvents", [.empty "land"], rfl, by decide, by decide,
      by decide⟩
  have advances : r.AdvancesTriggers :=
    (advancesTriggers_iff sorted rfl nodup [] []).2.2.2 (Or.inr kept)
  exact ⟨r, settings, rfl, rfl, sorted, rfl, nodup, advances⟩

/-- Settings that rename the hook leave its name without a function. -/
theorem not_advancesTriggers_hero :
    ((renamedHero ["doStepPreEvents"] [("doStepPreEvents", "step")]).type.functions.map
        EventFunction.name).Nodup ∧
      ¬ (renamedHero ["doStepPreEvents"] [("doStepPreEvents", "step")]).AdvancesTriggers := by
  refine ⟨by decide, ?_⟩
  rintro ⟨m, found, -⟩
  have nothing : ((renamedHero ["doStepPreEvents"] [("doStepPreEvents", "step")]).lastAssigned?
      frameHook).isNone := by
    decide +kernel
  rw [found] at nothing
  cases nothing

end ClassRequest
end CompositeObjects.Script
