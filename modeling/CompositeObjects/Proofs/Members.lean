import CompositeObjects.Proofs.Table
import CompositeObjects.Script.ObjectClass
import Mathlib.Data.List.Nodup
import Mathlib.Data.List.Perm.Basic

namespace CompositeObjects.Script

/-- A member that a class defines on its prototype: its name within the text that defines it. -/
structure Member where
  before : String
  name : String
  definition : String
deriving DecidableEq, Repr

def Member.code (m : Member) : String := m.before ++ (m.name ++ m.definition)

/-- The texts of members one after another. -/
def membersCode (members : List Member) : String := String.join (members.map Member.code)

theorem membersCode_append (front behind : List Member) :
    membersCode (front ++ behind) = membersCode front ++ membersCode behind := by
  rw [membersCode, List.map_append, String.join_append, ← membersCode, ← membersCode]

theorem membersCode_flatMap {α : Type} (f : α → List Member) (xs : List α) :
    membersCode (xs.flatMap f) = String.join (xs.map fun x => membersCode (f x)) := by
  induction xs with
  | nil => rfl
  | cons x rest ih =>
    rw [List.flatMap_cons, membersCode_append, ih, List.map_cons, String.join_cons]

/-- The call that registers a class under a name. -/
def registration (name classPath : String) : String :=
  String.join ["\n\ngdjs.registerObject(\"", name, "\", ", classPath, ");\n"]

/-- The pieces of the class that the registration is made of. -/
def registrationLayout : List Piece := [
  .text "\n\ngdjs.registerObject(\"", .slot .extensionName, .text "::", .slot .className,
  .text "\", ", .slot .namespaceName, .text ".", .slot .className, .text ");\n"]

/-- The pieces of a class before its first member. -/
def headLayout : List Piece := [
  .text "\n", .slot .namespaceName, .text " = ", .slot .namespaceName,
  .text " || \x7b\x7d;\n\n/**\n * Object generated from ", .slot .fullName, .text "\n */\n",
  .slot .namespaceName, .text ".", .slot .className, .text " = class ", .slot .className,
  .text " extends gdjs.CustomRuntimeObject \x7b\n"]

/-- The pieces of the constructor behind its first line. -/
def constructorLayout : List Piece := [
  .text "    super(runtimeScene, objectData);\n",
  .text "    this._runtimeScene = runtimeScene;\n\n",
  .text "    this._onceTriggers = new gdjs.OnceTriggers();\n",
  .text "    this._behaviorData = \x7b\x7d;\n",
  .text "    ", .slot .initialization, .text "\n  \x7d\n\n"]

/-- The pieces of the update behind its first line. -/
def updateLayout : List Piece := [
  .text "    ", .slot .update,
  .text "\n\n    this.onHotReloading(this.getInstanceContainer());\n",
  .text "    return true;\n", .text "  \x7d\n\n"]

theorem classLayout_eq : classLayout =
    headLayout ++ (.text "  constructor(runtimeScene, objectData) \x7b\n" :: constructorLayout ++
      (.text "  // Hot-reload:\n" ::
        .text "  updateFromObjectData(oldObjectData, newObjectData) \x7b\n" :: updateLayout ++
        (.text "  // Properties:\n  " :: .slot .accessors :: .text "\n\x7d\n\n// Methods:\n" ::
          .slot .methods :: registrationLayout))) := by
  decide +kernel

/-- The getter and the setter of a property. -/
def accessorMembers (p : Property) : List Member := [
  ⟨"\n  ", Property.getterName p.name,
    "() \x7b\n    return " ++ ((getter p).code ++ ";\n  \x7d")⟩,
  ⟨"\n  ", Property.setterName p.name,
    "(newValue) \x7b\n    " ++ ((setter p).code ++ "\n  \x7d")⟩]

theorem membersCode_accessorMembers (p : Property) :
    membersCode (accessorMembers p) = accessorCode p := by
  -- The equation of a text that begins with a literal is slow to make.
  delta accessorCode
  simp only [membersCode, accessorMembers, List.map_cons, List.map_nil, Member.code,
    String.join_cons, String.join_nil, String.append_empty, String.append_assoc]

/-- The text of a method behind its name. -/
def MethodRequest.definition (r : MethodRequest) : String :=
  String.join [" = function(parentEventsFunctionContext) \x7b\n", "var that = this;\n",
    if r.forRuntime then "" else "// Editor preview\n", wholeLines r.before, wholeLines r.after,
    "return;\n\x7d\n"]

theorem compileAll_shell (includes : List String) (requests : List MethodRequest)
    (files : FileSet) :
    (compileAll (.shell includes) requests files).1 = String.join (requests.map shellCode) := by
  induction requests generalizing files with
  | nil => rfl
  | cons r rest ih =>
    rw [compileAll, List.map_cons, String.join_cons, ← ih (files.addAll includes)]
    rfl

theorem render_append (front behind : List Piece) (f : Fragments) :
    render (front ++ behind) f = render front f ++ render behind f := by
  rw [render, List.map_append, String.join_append, ← render, ← render]

theorem render_registrationLayout (f : Fragments) :
    render registrationLayout f =
      registration (qualifiedName f.extensionName f.className)
        (f.namespaceName ++ "." ++ f.className) := by
  rw [render, registrationLayout, registration, qualifiedName]
  simp only [List.map_cons, List.map_nil, Piece.code, Fragments.at, String.join_cons,
    String.join_nil, String.append_assoc]

theorem value_generate {σ : Type} (compiler : MethodCompiler σ) (r : ClassRequest) (s : σ) :
    (generate compiler r s).value =
      (render classLayout (r.fragments (compileAll compiler r.methodRequests s).1),
        (compileAll compiler r.methodRequests s).2) := by
  unfold generate
  rfl

theorem render_cons (piece : Piece) (rest : List Piece) (f : Fragments) :
    render (piece :: rest) f = piece.code f ++ render rest f := by
  rw [render, List.map_cons, String.join_cons, ← render]

/-- The name of the context object of a method. -/
def contextName (name : String) : String := name ++ "Context"

namespace ClassRequest

def constructorMember (r : ClassRequest) : Member where
  before := "  "
  name := "constructor"
  definition := "(runtimeScene, objectData) \x7b\n" ++ render constructorLayout (r.fragments "")

def updateMember (r : ClassRequest) : Member where
  before := "  // Hot-reload:\n  "
  name := "updateFromObjectData"
  definition := "(oldObjectData, newObjectData) \x7b\n" ++ render updateLayout (r.fragments "")

/-- The context object of a function and its method. -/
def methodMembers (r : ClassRequest) (f : EventFunction) : List Member := [
  ⟨"\n" ++ (r.classPath ++ ".prototype."), contextName (r.methodName f), " = \x7b\x7d;\n"⟩,
  ⟨r.classPath ++ ".prototype.", r.methodName f, (r.methodRequest f).definition⟩]

/-- The frame hook of a type that declares none. -/
def hookMembers (r : ClassRequest) : List Member :=
  if (r.type.function? frameHook).isSome then []
  else [⟨"\n" ++ (r.classPath ++ ".prototype."), frameHook,
    " = function() \x7b\n  " ++ (frameBefore ++ "\n\x7d;\n")⟩]

def accessors (r : ClassRequest) : List Member := r.type.properties.flatMap accessorMembers

def methods (r : ClassRequest) : List Member :=
  r.type.functions.flatMap r.methodMembers ++ r.hookMembers

/-- All that a class defines on its prototype, in the order of its text. -/
def members (r : ClassRequest) : List Member :=
  r.constructorMember :: r.updateMember :: (r.accessors ++ r.methods)

theorem membersCode_accessors (r : ClassRequest) :
    membersCode r.accessors = accessorsCode r.type.properties := by
  rw [accessors, membersCode_flatMap, accessorsCode]
  exact congrArg String.join (List.map_congr_left fun p _ => membersCode_accessorMembers p)

theorem membersCode_methodMembers (r : ClassRequest) (f : EventFunction) :
    membersCode (r.methodMembers f) = shellCode (r.methodRequest f) := by
  delta shellCode
  simp only [membersCode, methodMembers, List.map_cons, List.map_nil, Member.code, methodRequest,
    MethodRequest.definition, contextName, String.join_cons, String.join_nil,
    String.append_empty, String.append_assoc]

theorem membersCode_hookMembers (r : ClassRequest) :
    membersCode r.hookMembers = r.frameHookCode := by
  rw [hookMembers, frameHookCode]
  split
  · rfl
  · simp only [membersCode, List.map_cons, List.map_nil, Member.code, String.join_cons,
      String.join_nil, String.append_empty, String.append_assoc]

theorem membersCode_methods (r : ClassRequest) (includes : List String) (files : FileSet) :
    membersCode r.methods =
      (compileAll (.shell includes) r.methodRequests files).1 ++ r.frameHookCode := by
  rw [methods, membersCode_append, membersCode_flatMap, membersCode_hookMembers, compileAll_shell,
    methodRequests, List.map_map]
  have texts : (r.type.functions.map fun f => membersCode (r.methodMembers f)) =
      r.type.functions.map (shellCode ∘ r.methodRequest) :=
    List.map_congr_left fun f _ => r.membersCode_methodMembers f
  rw [texts]

theorem code_constructorMember (r : ClassRequest) (methods : String) :
    render (.text "  constructor(runtimeScene, objectData) \x7b\n" :: constructorLayout)
      (r.fragments methods) = r.constructorMember.code := by
  have line : "  constructor(runtimeScene, objectData) \x7b\n" =
      "  " ++ ("constructor" ++ "(runtimeScene, objectData) \x7b\n") := by decide +kernel
  have others : render constructorLayout (r.fragments methods) =
      render constructorLayout (r.fragments "") := rfl
  rw [render_cons, Piece.code, others, line, String.append_assoc, String.append_assoc]
  rfl

theorem code_updateMember (r : ClassRequest) (methods : String) :
    render (.text "  // Hot-reload:\n" ::
        .text "  updateFromObjectData(oldObjectData, newObjectData) \x7b\n" :: updateLayout)
      (r.fragments methods) = r.updateMember.code := by
  have line : "  // Hot-reload:\n" ++
      "  updateFromObjectData(oldObjectData, newObjectData) \x7b\n" =
      "  // Hot-reload:\n  " ++ ("updateFromObjectData" ++
        "(oldObjectData, newObjectData) \x7b\n") := by decide +kernel
  have others : render updateLayout (r.fragments methods) =
      render updateLayout (r.fragments "") := rfl
  rw [render_cons, Piece.code, render_cons, Piece.code, others, ← String.append_assoc, line,
    String.append_assoc, String.append_assoc]
  rfl

/-- The members of a class in its text. -/
def membersText (r : ClassRequest) : String :=
  render headLayout (r.fragments "") ++ (r.constructorMember.code ++ (r.updateMember.code ++
    ("  // Properties:\n  " ++ (membersCode r.accessors ++ ("\n\x7d\n\n// Methods:\n" ++
      (membersCode r.methods ++
        registration (qualifiedName r.extension r.type.name) r.classPath))))))

/-- The text of a class consists of its members, with fixed text before and between them. -/
theorem text_eq (r : ClassRequest) (includes : List String) (files : FileSet) :
    (generate (.shell includes) r files).value.1 = r.membersText := by
  rw [value_generate, membersText, r.membersCode_methods includes files, membersCode_accessors]
  generalize (compileAll (.shell includes) r.methodRequests files).1 = methods
  have head : render headLayout (r.fragments methods) = render headLayout (r.fragments "") := rfl
  rw [classLayout_eq, render_append, render_append, render_append, head, code_constructorMember,
    code_updateMember, render_cons, render_cons, render_cons, render_cons,
    render_registrationLayout]
  rfl

end ClassRequest

theorem getterName_injective : Function.Injective Property.getterName := by
  intro a b heq
  exact (String.append_right_inj "_get").1 heq

theorem setterName_injective : Function.Injective Property.setterName := by
  intro a b heq
  exact (String.append_right_inj "_set").1 heq

theorem contextName_injective : Function.Injective contextName := by
  intro a b heq
  exact (String.append_left_inj "Context").1 heq

theorem toList_getterName (name : String) :
    (Property.getterName name).toList = '_' :: 'g' :: 'e' :: 't' :: name.toList :=
  String.toList_append

theorem toList_setterName (name : String) :
    (Property.setterName name).toList = '_' :: 's' :: 'e' :: 't' :: name.toList :=
  String.toList_append

theorem getterName_ne_setterName (name other : String) :
    Property.getterName name ≠ Property.setterName other := by
  intro heq
  have texts := congrArg String.toList heq
  rw [toList_getterName, toList_setterName] at texts
  simp at texts

theorem contextName_ne {s : String} (h : s.toList.getLast? ≠ some 't') (name : String) :
    contextName name ≠ s := by
  rintro rfl
  refine h ?_
  rw [contextName, String.toList_append, List.getLast?_append]
  rfl

/-- The names of the members that every class has. -/
def fixedNames : List String := ["constructor", "updateFromObjectData"]

/-- The names of the accessors that properties of given names have. -/
def accessorNames (properties : List String) : List String :=
  properties.map Property.getterName ++ properties.map Property.setterName

/-- The names that functions of given names take up. -/
def functionNames (functions : List String) : List String :=
  functions.map contextName ++ functions

/-- The hook that a type has which declares none. -/
def hookNames (functions : List String) : List String :=
  if frameHook ∈ functions then [] else [frameHook]

theorem head?_of_mem_accessorNames {properties : List String} {name : String}
    (h : name ∈ accessorNames properties) : name.toList.head? = some '_' := by
  rcases List.mem_append.1 h with h | h
  · obtain ⟨property, -, rfl⟩ := List.mem_map.1 h
    rw [toList_getterName, List.head?_cons]
  · obtain ⟨property, -, rfl⟩ := List.mem_map.1 h
    rw [toList_setterName, List.head?_cons]

theorem nodup_accessorNames {properties : List String} (nodup : properties.Nodup) :
    (accessorNames properties).Nodup := by
  refine List.nodup_append.2
    ⟨nodup.map getterName_injective, nodup.map setterName_injective, ?_⟩
  intro getter hg setter hs
  obtain ⟨p, -, rfl⟩ := List.mem_map.1 hg
  obtain ⟨q, -, rfl⟩ := List.mem_map.1 hs
  exact getterName_ne_setterName p q

theorem nodup_functionNames_iff {functions : List String} (nodup : functions.Nodup) :
    (functionNames functions).Nodup ↔ ∀ f ∈ functions, ∀ g ∈ functions, f ≠ contextName g := by
  rw [functionNames, List.nodup_append]
  constructor
  · rintro ⟨-, -, apart⟩ f hf g hg heq
    exact apart _ (List.mem_map_of_mem hg) f hf heq.symm
  · intro apart
    refine ⟨nodup.map contextName_injective, nodup, ?_⟩
    intro context hc f hf heq
    obtain ⟨g, hg, rfl⟩ := List.mem_map.1 hc
    exact apart f hf g hg heq.symm

/-- No function takes a name that is taken: none is called like a fixed member or an accessor, or
like another function with the ending of its context, and no context is called like an accessor. -/
structure Apart (properties functions : List String) : Prop where
  fixed : ∀ f ∈ functions, f ∉ fixedNames
  accessors : ∀ f ∈ functions, f ∉ accessorNames properties
  contexts : ∀ f ∈ functions, contextName f ∉ accessorNames properties
  functions : ∀ f ∈ functions, ∀ g ∈ functions, f ≠ contextName g

/-- The names of all members for properties and functions of given names. -/
def memberNames (properties functions : List String) : List String :=
  fixedNames ++ (accessorNames properties ++ (functionNames functions ++ hookNames functions))

/-- The hook that is made for a type is in the way of nothing. -/
theorem hookNames_apart (properties functions : List String) :
    ∀ hook ∈ hookNames functions, hook ∉ fixedNames ∧ hook ∉ accessorNames properties ∧
      hook ∉ functionNames functions := by
  intro hook hh
  have undeclared : frameHook ∉ functions := by
    intro declared
    simp [hookNames, declared] at hh
  have named : hook = frameHook := by simpa [hookNames, undeclared] using hh
  subst named
  refine ⟨by decide, ?_, ?_⟩
  · intro h
    have head := head?_of_mem_accessorNames h
    exact absurd head (by decide)
  · intro h
    rcases List.mem_append.1 h with h | h
    · obtain ⟨f, -, heq⟩ := List.mem_map.1 h
      exact contextName_ne (by decide) f heq
    · exact undeclared h

theorem fixedNames_apart (properties : List String) {functions : List String}
    (apart : ∀ f ∈ functions, f ∉ fixedNames) :
    ∀ name ∈ fixedNames, name ∉ accessorNames properties ∧ name ∉ functionNames functions := by
  intro name hn
  have shape : name.toList.head? ≠ some '_' ∧ name.toList.getLast? ≠ some 't' := by
    have every : ∀ name ∈ fixedNames,
      name.toList.head? ≠ some '_' ∧ name.toList.getLast? ≠ some 't' := by decide
    exact every name hn
  constructor
  · intro h
    exact shape.1 (head?_of_mem_accessorNames h)
  · intro h
    rcases List.mem_append.1 h with h | h
    · obtain ⟨f, -, heq⟩ := List.mem_map.1 h
      exact contextName_ne shape.2 f heq
    · exact apart name h hn

theorem nodup_memberNames_iff {properties functions : List String}
    (hproperties : properties.Nodup) (hfunctions : functions.Nodup) :
    (memberNames properties functions).Nodup ↔ Apart properties functions := by
  have hooks := hookNames_apart properties functions
  rw [memberNames, List.nodup_append, List.nodup_append, List.nodup_append,
    nodup_functionNames_iff hfunctions]
  constructor
  · rintro ⟨-, ⟨-, ⟨contexts, -, -⟩, accessors⟩, fixed⟩
    refine ⟨?_, ?_, ?_, contexts⟩
    · intro f hf h
      exact fixed f h f (by simp [functionNames, hf]) rfl
    · intro f hf h
      exact accessors f h f (by simp [functionNames, hf]) rfl
    · intro f hf h
      have member : contextName f ∈ functionNames functions :=
        List.mem_append_left _ (List.mem_map_of_mem hf)
      exact accessors _ h (contextName f) (List.mem_append_left _ member) rfl
  · intro apart
    have fixed := fixedNames_apart properties apart.fixed
    refine ⟨by decide, ⟨nodup_accessorNames hproperties, ⟨apart.functions, ?_, ?_⟩, ?_⟩, ?_⟩
    · unfold hookNames
      split <;> simp
    · intro name hn hook hh heq
      exact (hooks hook hh).2.2 (heq ▸ hn)
    · intro accessor ha name hn heq
      subst heq
      rcases List.mem_append.1 hn with hn | hn
      · rcases List.mem_append.1 hn with hn | hn
        · obtain ⟨f, hf, rfl⟩ := List.mem_map.1 hn
          exact apart.contexts f hf ha
        · exact apart.accessors accessor hn ha
      · exact (hooks accessor hn).2.1 ha
    · intro name hf other ho heq
      subst heq
      rcases List.mem_append.1 ho with ho | ho
      · exact (fixed name hf).1 ho
      · rcases List.mem_append.1 ho with ho | ho
        · exact (fixed name hf).2 ho
        · exact (hooks name ho).1 hf

theorem get?_identityNames {type : ObjectType}
    (nodup : (type.functions.map EventFunction.name).Nodup) {f : EventFunction}
    (hf : f ∈ type.functions) : (identityNames type).get? f.name = some f.name := by
  have names : (type.functions.map fun f => (f.name, f.name)).map (·.1) =
      type.functions.map EventFunction.name := by
    rw [List.map_map]
    rfl
  have distinct := names ▸ nodup
  have found := Table.get?_of_mem distinct (List.mem_map.2 ⟨f, hf, rfl⟩)
  rw [identityNames, Table.get?_ofList_of_nodup distinct, found]

theorem methodName_identity {r : ClassRequest} (identity : r.methodNames = identityNames r.type)
    (nodup : (r.type.functions.map EventFunction.name).Nodup) {f : EventFunction}
    (hf : f ∈ r.type.functions) : r.methodName f = f.name := by
  rw [ClassRequest.methodName, identity, get?_identityNames nodup hf, Option.getD_some]

theorem ClassRequest.isSome_frameHook_iff (r : ClassRequest) :
    (r.type.function? frameHook).isSome ↔ frameHook ∈ r.type.functions.map EventFunction.name := by
  rw [ObjectType.function?, List.find?_isSome]
  simp

theorem names_hookMembers (r : ClassRequest) :
    r.hookMembers.map Member.name = hookNames (r.type.functions.map EventFunction.name) := by
  by_cases h : frameHook ∈ r.type.functions.map EventFunction.name
  · have known := r.isSome_frameHook_iff.2 h
    rw [ClassRequest.hookMembers, hookNames, if_pos known, if_pos h]
    rfl
  · have unknown := mt r.isSome_frameHook_iff.1 h
    rw [ClassRequest.hookMembers, hookNames, if_neg unknown, if_neg h]
    rfl

/-- Two names for each of several things are, in another order, all first and then all second
ones. -/
theorem flatMap_pair_perm {α β : Type} (first second : α → β) (xs : List α) :
    (xs.flatMap fun x => [first x, second x]).Perm (xs.map first ++ xs.map second) := by
  have each := List.flatMap_append_perm xs (fun x => [first x]) (fun x => [second x])
  rw [← List.map_eq_flatMap, ← List.map_eq_flatMap] at each
  exact each.symm

/-- The members of a class have the names that its properties and functions give to them. -/
theorem names_members_perm {r : ClassRequest} (identity : r.methodNames = identityNames r.type)
    (nodup : (r.type.functions.map EventFunction.name).Nodup) :
    (r.members.map Member.name).Perm
      (memberNames (r.type.properties.map Property.name)
        (r.type.functions.map EventFunction.name)) := by
  have accessors : (r.accessors.map Member.name).Perm
      (accessorNames (r.type.properties.map Property.name)) := by
    rw [ClassRequest.accessors, List.map_flatMap, accessorNames, List.map_map, List.map_map]
    exact flatMap_pair_perm ..
  have methods : ((r.type.functions.flatMap r.methodMembers).map Member.name).Perm
      (functionNames (r.type.functions.map EventFunction.name)) := by
    have names : (r.type.functions.flatMap r.methodMembers).map Member.name =
        r.type.functions.flatMap fun f => [contextName f.name, f.name] := by
      rw [List.map_flatMap]
      refine List.flatMap_congr fun f hf => ?_
      simp only [ClassRequest.methodMembers, List.map_cons, List.map_nil,
        methodName_identity identity nodup hf]
    rw [names, functionNames, List.map_map]
    exact flatMap_pair_perm ..
  have all : r.members.map Member.name = fixedNames ++ (r.accessors.map Member.name ++
      ((r.type.functions.flatMap r.methodMembers).map Member.name ++
        r.hookMembers.map Member.name)) := by
    simp [ClassRequest.members, ClassRequest.methods, fixedNames, ClassRequest.constructorMember,
      ClassRequest.updateMember]
  rw [all, names_hookMembers, memberNames]
  exact (accessors.append (methods.append_right _)).append_left _

/-- With their own names as identifiers of functions, the members in the text of a class are all
different where the names of functions stay apart from the others, and only there. -/
theorem nodup_members_iff {r : ClassRequest} (identity : r.methodNames = identityNames r.type)
    (properties : (r.type.properties.map Property.name).Nodup)
    (functions : (r.type.functions.map EventFunction.name).Nodup)
    (includes : List String) (files : FileSet) :
    (generate (.shell includes) r files).value.1 = r.membersText ∧
      ((r.members.map Member.name).Nodup ↔
        Apart (r.type.properties.map Property.name) (r.type.functions.map EventFunction.name)) := by
  refine ⟨r.text_eq includes files, ?_⟩
  rw [(names_members_perm identity functions).nodup_iff]
  exact nodup_memberNames_iff properties functions

/-- A hero with a speed and with functions of given names. -/
def heroRequest (functions : List String) : ClassRequest where
  extension := "Game"
  type := { ObjectType.empty "Hero" with
    properties := [{ name := "speed", type := .number, value := "100" }]
    functions := functions.map .empty }
  namespaceName := "ns"
  methodNames := identityNames
    { ObjectType.empty "Hero" with functions := functions.map .empty }
  forRuntime := true

theorem nodup_members_hero :
    (heroRequest ["jump", "land"]).methodNames =
        identityNames (heroRequest ["jump", "land"]).type ∧
      ((heroRequest ["jump", "land"]).type.properties.map Property.name).Nodup ∧
      ((heroRequest ["jump", "land"]).type.functions.map EventFunction.name).Nodup ∧
      ((heroRequest ["jump", "land"]).members.map Member.name).Nodup := by
  have properties :
      ((heroRequest ["jump", "land"]).type.properties.map Property.name).Nodup := by decide
  have functions :
      ((heroRequest ["jump", "land"]).type.functions.map EventFunction.name).Nodup := by decide
  have apart : Apart ["speed"] ["jump", "land"] :=
    ⟨by decide, by decide +kernel, by decide +kernel, by decide +kernel⟩
  exact ⟨rfl, properties, functions,
    (nodup_members_iff rfl properties functions [] []).2.2 apart⟩

/-- The method `jumpContext` has the name of the context of `jump`. -/
theorem not_nodup_members_hero :
    (heroRequest ["jump", "jumpContext"]).methodNames =
        identityNames (heroRequest ["jump", "jumpContext"]).type ∧
      ((heroRequest ["jump", "jumpContext"]).type.properties.map Property.name).Nodup ∧
      ((heroRequest ["jump", "jumpContext"]).type.functions.map EventFunction.name).Nodup ∧
      ¬ ((heroRequest ["jump", "jumpContext"]).members.map Member.name).Nodup := by
  refine ⟨rfl, by decide, by decide, ?_⟩
  decide +kernel

end CompositeObjects.Script
