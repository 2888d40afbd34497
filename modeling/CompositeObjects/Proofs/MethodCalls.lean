import CompositeObjects.Proofs.Members
import CompositeObjects.Proofs.Views
import Mathlib.Data.List.Forall2

namespace CompositeObjects.Script

variable {σ : Type}

/-- One call of a compiler. -/
structure MethodCall (σ : Type) where
  request : MethodRequest
  before : σ
  code : String
  after : σ

/-- A compiler that also keeps a list of its calls. -/
def MethodCompiler.recording (compiler : MethodCompiler σ) :
    MethodCompiler (σ × List (MethodCall σ)) :=
  ⟨fun r s =>
    let result := compiler.compile r s.1
    (result.1, result.2, s.2 ++ [⟨r, s.1, result.1, result.2⟩])⟩

/-- Each call starts with what the calls before it have gathered. -/
def Threads (compiler : MethodCompiler σ) : σ → List (MethodCall σ) → σ → Prop
  | s, [], gathered => gathered = s
  | s, call :: rest, gathered =>
    call.before = s ∧ compiler.compile call.request s = (call.code, call.after) ∧
      Threads compiler call.after rest gathered

theorem compileAll_cons (compiler : MethodCompiler σ) (r : MethodRequest)
    (rest : List MethodRequest) (s : σ) :
    compileAll compiler (r :: rest) s =
      ((compiler.compile r s).1 ++ (compileAll compiler rest (compiler.compile r s).2).1,
        (compileAll compiler rest (compiler.compile r s).2).2) := rfl

/-- There is one call for each request, in order, and their texts are what is written. To keep a list
of the calls changes nothing else. -/
theorem exists_calls (compiler : MethodCompiler σ) (requests : List MethodRequest) (s : σ)
    (earlier : List (MethodCall σ)) :
    ∃ calls, compileAll compiler.recording requests (s, earlier) =
        ((compileAll compiler requests s).1, (compileAll compiler requests s).2,
          earlier ++ calls) ∧
      calls.map MethodCall.request = requests ∧
      Threads compiler s calls (compileAll compiler requests s).2 ∧
      (compileAll compiler requests s).1 = String.join (calls.map MethodCall.code) := by
  induction requests generalizing s earlier with
  | nil => exact ⟨[], by rw [List.append_nil]; rfl, rfl, rfl, rfl⟩
  | cons r rest ih =>
    let result := compiler.compile r s
    let call : MethodCall σ := ⟨r, s, result.1, result.2⟩
    obtain ⟨calls, recorded, requests, threads, texts⟩ := ih result.2 (earlier ++ [call])
    have all : compileAll compiler.recording (r :: rest) (s, earlier) =
        (result.1 ++ (compileAll compiler rest result.2).1,
          (compileAll compiler rest result.2).2, earlier ++ call :: calls) := by
      rw [compileAll_cons]
      change (result.1 ++ (compileAll compiler.recording rest (result.2, earlier ++ [call])).1,
        (compileAll compiler.recording rest (result.2, earlier ++ [call])).2) = _
      rw [recorded, List.append_assoc, List.singleton_append]
    refine ⟨call :: calls, all, by rw [List.map_cons, requests], ⟨rfl, rfl, threads⟩, ?_⟩
    rw [compileAll_cons, List.map_cons, String.join_cons, ← texts]

/-- The frame hook that a class gets whose type declares none. -/
def madeHook (classPath : String) : String :=
  "\n" ++ classPath ++ ".prototype." ++ frameHook ++ " = function() \x7b\n  " ++ frameBefore ++
    "\n\x7d;\n"

namespace ClassRequest

/-- What a compiler is asked for a function of a class. -/
structure Asks (r : ClassRequest) (f : EventFunction) (q : MethodRequest) : Prop where
  subject : q.type = r.type ∧ q.function = f ∧ q.forRuntime = r.forRuntime
  triggers : q.triggers = triggersCode
  paths : ∃ identifier, (r.methodNames.get? f.name = some identifier ∨
      r.methodNames.get? f.name = none ∧ identifier = unknownMethod) ∧
    q.methodPath = r.namespaceName ++ "." ++ r.type.name ++ ".prototype." ++ identifier ∧
    q.contextPath = q.methodPath ++ "Context"
  before : (q.before = frameBefore ↔ f.name = frameHook) ∧ (q.before = "" ↔ f.name ≠ frameHook)
  after : (q.after = creationAfter ↔ f.name = creationHook) ∧
    (q.after = "" ↔ f.name ≠ creationHook)

theorem asks_methodRequest (r : ClassRequest) (f : EventFunction) :
    r.Asks f (r.methodRequest f) where
  subject := ⟨rfl, rfl, rfl⟩
  triggers := rfl
  paths := by
    refine ⟨r.methodName f, ?_, rfl, rfl⟩
    rw [methodName]
    cases r.methodNames.get? f.name with
    | none => exact Or.inr ⟨rfl, rfl⟩
    | some identifier => exact Or.inl rfl
  before := by
    have code : frameBefore ≠ "" := by decide
    by_cases hook : f.name = frameHook <;> simp [methodRequest, hook, code, code.symm]
  after := by
    have code : creationAfter ≠ "" := by decide
    by_cases hook : f.name = creationHook <;> simp [methodRequest, hook, code, code.symm]

theorem frameHookCode_eq (r : ClassRequest) :
    r.frameHookCode =
      if frameHook ∈ r.type.functions.map EventFunction.name then "" else madeHook r.classPath := by
  rw [frameHookCode]
  exact if_congr r.isSome_frameHook_iff rfl rfl

theorem fragments_eq (r : ClassRequest) (methods : String) :
    r.fragments methods =
      { r.fragments "" with methods := methods ++ r.frameHookCode } := rfl

/-- Where no two functions have one name, the frame is started once. -/
theorem countP_before (r : ClassRequest) (nodup : (r.type.functions.map EventFunction.name).Nodup) :
    (r.methodRequests.countP fun q => q.before = frameBefore) +
      (if frameHook ∈ r.type.functions.map EventFunction.name then 0 else 1) = 1 := by
  have named : (r.methodRequests.countP fun q => q.before = frameBefore) =
      (r.type.functions.map EventFunction.name).count frameHook := by
    rw [methodRequests, List.countP_map, List.count, List.countP_map]
    refine List.countP_congr fun f _ => ?_
    simpa using (r.asks_methodRequest f).before.1
  rw [named]
  split
  · rename_i declared
    rw [List.count_eq_one_of_mem nodup declared]
  · rename_i undeclared
    rw [List.count_eq_zero_of_not_mem undeclared]

/-- The class depends on its table of identifiers by what stands there under its functions. -/
theorem generate_congr (compiler : MethodCompiler σ) (r : ClassRequest) {names : MethodNames}
    (same : ∀ f ∈ r.type.functions, names.get? f.name = r.methodNames.get? f.name) (s : σ) :
    generate compiler { r with methodNames := names } s = generate compiler r s := by
  have requests : ({ r with methodNames := names } : ClassRequest).methodRequests =
      r.methodRequests := by
    refine List.map_congr_left fun f hf => ?_
    have name : ({ r with methodNames := names } : ClassRequest).methodName f = r.methodName f := by
      rw [methodName, methodName, same f hf]
    simp only [methodRequest, name, classPath]
  have events : ({ r with methodNames := names } : ClassRequest).events = r.events := by
    have missing : (r.type.functions.filter fun f => !names.contains f.name) =
        r.type.functions.filter fun f => !r.methodNames.contains f.name := by
      refine List.filter_congr fun f hf => ?_
      rw [Table.contains, Table.contains, same f hf]
    rw [ClassRequest.events, ClassRequest.events, missing]
  unfold generate
  rw [requests, events]
  rfl

end ClassRequest

/-- Without settings every function is there under its name, with that name, and nothing else is. -/
theorem get?_identityNames_eq_some_iff {type : ObjectType} {name identifier : String} :
    (identityNames type).get? name = some identifier ↔
      identifier = name ∧ name ∈ type.functions.map EventFunction.name := by
  rw [identityNames, Table.ofList, Table.get?_overlay_eq_find?, Table.get?_nil, Option.or_none,
    Option.map_eq_some_iff]
  constructor
  · rintro ⟨e, found, rfl⟩
    obtain ⟨f, hf, rfl⟩ := List.mem_map.1 (List.mem_reverse.1 (List.mem_of_find?_eq_some found))
    have same : f.name = name := by simpa using List.find?_some found
    exact ⟨same, List.mem_map.2 ⟨f, hf, same⟩⟩
  · rintro ⟨rfl, declared⟩
    obtain ⟨f, hf, hname⟩ := List.mem_map.1 declared
    have found : ((type.functions.map fun f => (f.name, f.name)).reverse.find?
        (·.1 == identifier)).isSome :=
      List.find?_isSome.2
        ⟨(f.name, f.name), List.mem_reverse.2 (List.mem_map.2 ⟨f, hf, rfl⟩), by simpa using hname⟩
    obtain ⟨e, he⟩ := Option.isSome_iff_exists.1 found
    obtain ⟨g, -, rfl⟩ := List.mem_map.1 (List.mem_reverse.1 (List.mem_of_find?_eq_some he))
    exact ⟨_, he, by simpa using List.find?_some he⟩

/-- A compiler is called once for each function, in order of declaration, and each call goes on with
what the last one has gathered. The methods of the class are the texts of the calls, with a frame
hook behind them where none is declared. -/
theorem calls_of_generate (compiler : MethodCompiler σ) (r : ClassRequest) (s : σ) :
    ∃ calls text gathered,
      (generate compiler.recording r (s, [])).value = (text, gathered, calls) ∧
      (generate compiler r s).value = (text, gathered) ∧
      List.Forall₂ (fun f call => r.Asks f call.request) r.type.functions calls ∧
      Threads compiler s calls gathered ∧
      text = render classLayout { r.fragments "" with
        methods := String.join (calls.map MethodCall.code) ++
          if frameHook ∈ r.type.functions.map EventFunction.name then ""
          else madeHook r.classPath } ∧
      ((r.type.functions.map EventFunction.name).Nodup →
        (calls.countP fun call => call.request.before = frameBefore) +
          (if frameHook ∈ r.type.functions.map EventFunction.name then 0 else 1) = 1) ∧
      (∀ names : MethodNames,
        (∀ f ∈ r.type.functions, names.get? f.name = r.methodNames.get? f.name) →
          generate compiler { r with methodNames := names } s = generate compiler r s) ∧
      (r.methodNames = identityNames r.type →
        (∀ f ∈ r.type.functions, r.methodNames.get? f.name = some f.name) ∧
          (generate compiler r s).events =
            [.generatedClass r.type.name r.type.functions.length]) := by
  obtain ⟨calls, recorded, requests, threads, texts⟩ :=
    exists_calls compiler r.methodRequests s []
  have asked : List.Forall₂ (fun f call => r.Asks f call.request) r.type.functions calls := by
    have each : List.Forall₂ (r.Asks · ·) r.type.functions (calls.map MethodCall.request) := by
      rw [requests, ClassRequest.methodRequests, List.forall₂_map_right_iff, List.forall₂_same]
      exact fun f _ => r.asks_methodRequest f
    exact List.forall₂_map_right_iff.1 each
  obtain ⟨text, gathered, hvalue⟩ :
      ∃ text gathered, (generate compiler r s).value = (text, gathered) := ⟨_, _, rfl⟩
  obtain ⟨written, collected⟩ := Prod.mk.inj ((value_generate compiler r s).symm.trans hvalue)
  refine ⟨calls, text, gathered, ?_, hvalue, asked, ?_, ?_, fun nodup => ?_,
    fun names same => r.generate_congr compiler same s, fun identity => ?_⟩
  · rw [value_generate, recorded, ← written, ← collected, List.nil_append]
  · rw [← collected]
    exact threads
  · rw [← written, texts, r.fragments_eq, r.frameHookCode_eq]
  · have counted := r.countP_before nodup
    rw [← requests, List.countP_map] at counted
    exact counted
  · have named (f : EventFunction) (hf : f ∈ r.type.functions) :
        r.methodNames.get? f.name = some f.name := by
      rw [identity]
      exact get?_identityNames_eq_some_iff.2 ⟨rfl, List.mem_map_of_mem hf⟩
    have all : (r.type.functions.filter fun f => !r.methodNames.contains f.name) = [] := by
      refine List.filter_eq_nil_iff.2 fun f hf => ?_
      simp [Table.contains, named f hf]
    refine ⟨named, ?_⟩
    change r.events = _
    rw [ClassRequest.events, all]
    rfl

/-- A hero who jumps starts a frame by its own hook, and an identifier for a function that it does not
have changes nothing. -/
theorem calls_of_generate_hero :
    ∃ r : ClassRequest, r = heroRequest ["jump", "doStepPreEvents"] ∧
      (r.type.functions.map EventFunction.name).Nodup ∧
      r.methodNames = identityNames r.type ∧
      (∃ calls text gathered,
        (generate (MethodCompiler.shell ["jump.js"]).recording r ([], [])).value =
          (text, gathered, calls) ∧
        (calls.countP fun call => call.request.before = frameBefore) = 1) ∧
      (generate (.shell ["jump.js"]) { r with methodNames := r.methodNames.insert "land" "fall" }
        []) = generate (.shell ["jump.js"]) r [] := by
  let r := heroRequest ["jump", "doStepPreEvents"]
  have nodup : (r.type.functions.map EventFunction.name).Nodup := by decide
  have declared : frameHook ∈ r.type.functions.map EventFunction.name := by decide
  obtain ⟨calls, text, gathered, recorded, -, -, -, -, once, congruent, -⟩ :=
    calls_of_generate (.shell ["jump.js"]) r []
  have counted := once nodup
  rw [if_pos declared] at counted
  refine ⟨r, rfl, nodup, rfl, ⟨calls, text, gathered, recorded, counted⟩, congruent _ ?_⟩
  decide

end CompositeObjects.Script
