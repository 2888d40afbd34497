import CompositeObjects.Proofs.Construction

namespace CompositeObjects.Script

/-- A field follows its data where the data differ. -/
def followChange (name : String) : Command :=
  .assignWhen (.differ (.field .old name) (.field .new name)) ⟨.live, name, .field .new name⟩

def dataTokens : List Token := [.word "oldObjectData", .sign ",", .word "newObjectData"]

/-- The base class gets both data. -/
def baseUpdate : Command := .call ["super", "updateFromObjectData"] dataTokens

/-- What a change of the data does to the properties of an object. -/
def followChanges (properties : List Property) : List Command :=
  baseUpdate :: properties.map fun p => followChange p.name

/-- The object is told that its data have changed. -/
def changeNotice : Command :=
  .call ["this", "onHotReloading"]
    [.word "this", .sign ".", .word "getInstanceContainer", .sign "(", .sign ")"]

def noticeTokens : List Token :=
  [.word "this", .sign ".", .word "onHotReloading", .sign "(", .word "this", .sign ".",
    .word "getInstanceContainer", .sign "(", .sign ")", .sign ")"]

/-- The method that a class is told a change of its data by. -/
def updateMethod (properties : List Property) : Method where
  name := "updateFromObjectData"
  parameters := ["oldObjectData", "newObjectData"]
  body := followChanges properties ++ [changeNotice, .giveBack (.flag true)]

theorem map_command_updates (properties : List Property) :
    (updates properties).map Statement.command = followChanges properties := by
  rw [updates, List.map_cons, List.map_map]
  rfl

theorem commandsOf?_followChanges {properties : List Property}
    (named : ∀ p ∈ properties, isIdentifier p.name = true) :
    commandsOf? (updateCode properties) = some (followChanges properties) := by
  rw [← map_command_updates]
  exact commandsOf?_updateCode named

section Text

def resultTokens : List Token := [.word "return", .word "true"]

/-- The tokens of the method without the brace at the end. -/
def updateTokens (properties : List Property) : List Token :=
  methodTokens "updateFromObjectData" dataTokens
    ((updates properties).flatMap (fun s => s.tokens ++ [Token.sign ";"]) ++
      ((noticeTokens ++ [Token.sign ";"]) ++ (resultTokens ++ [Token.sign ";"])))

variable (r : ClassRequest)

theorem code_updateMember_eq : r.updateMember.code =
    "  // Hot-reload:\n  updateFromObjectData(oldObjectData, newObjectData) \x7b\n    " ++
      (updateCode r.type.properties ++
        ("\n\n    this.onHotReloading(this.getInstanceContainer());\n" ++
          ("    return true;\n" ++ "  \x7d\n\n"))) := by
  have head :
      "  // Hot-reload:\n  updateFromObjectData(oldObjectData, newObjectData) \x7b\n    " =
        "  // Hot-reload:\n  " ++ ("updateFromObjectData" ++
          ("(oldObjectData, newObjectData) \x7b\n" ++ "    ")) := by decide +kernel
  rw [head, Member.code, ClassRequest.updateMember, render, updateLayout]
  simp only [List.map_cons, List.map_nil, Piece.code, Fragments.at, ClassRequest.fragments,
    String.join_cons, String.join_nil, String.append_empty, String.append_assoc]

variable {r} (named : ∀ p ∈ r.type.properties, isIdentifier p.name = true)

include named

theorem closed_updateMember :
    Closed r.updateMember.code.toList (updateTokens r.type.properties ++ [Token.sign "\x7d"]) := by
  have head : Closed
      ("  // Hot-reload:\n  updateFromObjectData(oldObjectData, newObjectData) \x7b\n    ").toList
      [.word "updateFromObjectData", .sign "(", .word "oldObjectData", .sign ",",
        .word "newObjectData", .sign ")", .sign "\x7b"] := by decide +kernel
  have notice : Closed "\n\n    this.onHotReloading(this.getInstanceContainer());\n".toList
    (noticeTokens ++ [Token.sign ";"]) := by decide +kernel
  have result : Closed "    return true;\n".toList
    (resultTokens ++ [Token.sign ";"]) := by decide +kernel
  have brace : Closed "  \x7d\n\n".toList [.sign "\x7d"] := by decide +kernel
  have whole := head.append
    ((closed_updateCode named).append (notice.append (result.append brace)))
  rw [code_updateMember_eq]
  simpa only [updateTokens, methodTokens, dataTokens, String.toList_append, List.append_assoc,
    List.cons_append, List.nil_append] using whole

theorem methodsOf?_updateMember :
    methodsOf? r.updateMember.code = some [updateMethod r.type.properties] := by
  have changes := commands?_statements (updates r.type.properties)
  have notice : commands? (noticeTokens ++ [Token.sign ";"]) = some [changeNotice] :=
    sentences?_one (by decide) rfl
  have result : commands? (resultTokens ++ [Token.sign ";"]) = some [.giveBack (.flag true)] :=
    sentences?_one (by decide) rfl
  have body := sentences?_append changes (sentences?_append notice result)
  rw [map_command_updates] at body
  have method : method? (updateTokens r.type.properties) = some (updateMethod r.type.properties) :=
    method?_eq _ (by decide) rfl body
  have brace : .sign "\x7d" ∉ updateTokens r.type.properties := by
    simp [updateTokens, methodTokens, dataTokens, noticeTokens, resultTokens,
      sign_notMem_statement]
  rw [methodsOf?, tokens?_of_reads (closed_updateMember named).reads]
  exact sentences?_one brace method

end Text

/-- The method stands in the text of the class, whatever the methods of its events are compiled
to. -/
theorem exists_text_updateMember {σ : Type} (compiler : MethodCompiler σ) (r : ClassRequest)
    (s : σ) : ∃ front behind,
      (generate compiler r s).value.1 = front ++ (r.updateMember.code ++ behind) := by
  rw [value_generate, classLayout_eq, render_append, render_append, render_append,
    ClassRequest.code_updateMember]
  exact ⟨_, _, (String.append_assoc ..).symm⟩

section Run

variable {V : Type} (host : Host V)

/-- A field of the running object follows the data where they differ. -/
theorem field_followChange (name : String) (rest : List Command) (m : Memory V) :
    ∃ m', run host none (followChange name :: rest) m = run host none rest m' ∧
      m'.object = m.object ∧ ∀ record field, m'.field record field =
        if m.object record = m.object .live ∧ field = name ∧
            host.differ (m.field .old name) (m.field .new name) = true then
          m.field .new name
        else m.field record field := by
  have holds : host.holds ((Term.differ (.field .old name) (.field .new name)).value host none m) =
      host.differ (m.field .old name) (m.field .new name) := host.isTruthy_flag _
  rw [followChange, run, holds]
  by_cases differ : host.differ (m.field .old name) (m.field .new name) = true
  · refine ⟨m.set .live name (m.field .new name), by rw [if_pos differ]; rfl, rfl, ?_⟩
    intro record field
    simp only [differ, and_true]
    exact m.field_set ..
  · refine ⟨m, by rw [if_neg differ], rfl, ?_⟩
    intro record field
    rw [if_neg fun h => differ h.2.2]

/-- Each field follows its data by itself. A name that is declared again, or records that are one
object, make no difference: what a field has followed once it does not leave again. -/
theorem field_followChanges (names : List String) (m : Memory V) :
    (run host none (names.map followChange) m).1.object = m.object ∧
      ∀ record field, (run host none (names.map followChange) m).1.field record field =
        if m.object record = m.object .live ∧ field ∈ names ∧
            host.differ (m.field .old field) (m.field .new field) = true then
          m.field .new field
        else m.field record field := by
  induction names generalizing m with
  | nil => simp [run]
  | cons name rest ih =>
    obtain ⟨m', first, objects, fields⟩ := field_followChange host name (rest.map followChange) m
    obtain ⟨others, each⟩ := ih m'
    rw [List.map_cons, first]
    refine ⟨others.trans objects, fun record field => ?_⟩
    rw [each, objects]
    by_cases follows : field = name ∧ host.differ (m.field .old field) (m.field .new field) = true
    · obtain ⟨rfl, differ⟩ := follows
      have new : m'.field .new field = m.field .new field := by
        rw [fields]
        exact ite_self _
      by_cases live : m.object record = m.object .live
      · have value : m'.field record field = m.field .new field := by
          rw [fields, if_pos ⟨live, rfl, differ⟩]
        rw [new, value, ite_self, if_pos ⟨live, List.mem_cons_self, differ⟩]
      · rw [if_neg fun h => live h.1, if_neg fun h => live h.1, fields,
          if_neg fun h => live h.1]
    · have same (record : Record) : m'.field record field = m.field record field := by
        rw [fields, if_neg]
        rintro ⟨-, rfl, differ⟩
        exact follows ⟨rfl, differ⟩
      simp only [same, List.mem_cons]
      refine if_congr ?_ rfl rfl
      constructor
      · rintro ⟨live, among, differ⟩
        exact ⟨live, Or.inr among, differ⟩
      · rintro ⟨live, rfl | among, differ⟩
        · exact absurd ⟨rfl, differ⟩ follows
        · exact ⟨live, among, differ⟩

theorem run_map_followChange_append (names : List String) (rest : List Command) (m : Memory V) :
    run host none (names.map followChange ++ rest) m =
      run host none rest (run host none (names.map followChange) m).1 := by
  induction names generalizing m with
  | nil => rfl
  | cons name names ih =>
    rw [List.map_cons, List.cons_append, followChange, run, run]
    exact ih _

/-- The base class comes first, and then each field follows what it has left. -/
theorem run_followChanges (properties : List Property) (m : Memory V) :
    run host none (followChanges properties) m =
      run host none ((properties.map Property.name).map followChange)
        (run host none [baseUpdate] m).1 := by
  rw [followChanges, List.map_map]
  rfl

/-- The method of the class text that gets a change of the data first calls the base class once.
Then each declared field follows the data where they differ, and stays as the running object has it
where they do not. No other field is touched, and neither are data that are not the fields of the
object itself. At last the object is told. -/
theorem fields_of_reload {σ : Type} (compiler : MethodCompiler σ) {r : ClassRequest}
    (named : ∀ p ∈ r.type.properties, isIdentifier p.name = true) (s : σ) :
    (∃ front behind,
      (generate compiler r s).value.1 = front ++ (r.updateMember.code ++ behind)) ∧
    methodsOf? r.updateMember.code = some [updateMethod r.type.properties] ∧
    commandsOf? (updateCode r.type.properties) = some (followChanges r.type.properties) ∧
    ∀ m base : Memory V, (run host none [baseUpdate] m).1 = base →
      ∃ m', (run host none (followChanges r.type.properties) m).1 = m' ∧
        run host none (updateMethod r.type.properties).body m =
          ((run host none [changeNotice] m').1, some (host.flag true)) ∧
        (∀ p ∈ r.type.properties, m'.field .live p.name =
          if host.differ (base.field .old p.name) (base.field .new p.name) = true then
            base.field .new p.name
          else base.field .live p.name) ∧
        (∀ record, ∀ name ∉ r.type.properties.map Property.name,
          m'.field record name = base.field record name) ∧
        ∀ record, base.object record ≠ base.object .live → ∀ name,
          m'.field record name = base.field record name := by
  refine ⟨exists_text_updateMember compiler r s, methodsOf?_updateMember named,
    commandsOf?_followChanges named, ?_⟩
  rintro m base rfl
  have names : (r.type.properties.map fun p => followChange p.name) =
      (r.type.properties.map Property.name).map followChange := by
    rw [List.map_map]
    rfl
  have fields := (field_followChanges host (r.type.properties.map Property.name)
    (run host none [baseUpdate] m).1).2
  rw [run_followChanges]
  refine ⟨_, rfl, ?_, ?_, ?_, ?_⟩
  · rw [updateMethod, followChanges, names, List.cons_append, baseUpdate, run,
      run_map_followChange_append]
    rfl
  · intro p hp
    have field := fields .live p.name
    simpa only [true_and, List.mem_map_of_mem hp] using field
  · intro record name undeclared
    rw [fields, if_neg fun h => undeclared h.2.1]
  · intro record apart name
    rw [fields, if_neg fun h => apart h.1]

end Run

/-- A class with both properties of a hero. -/
def reloadRequest : ClassRequest where
  extension := "Game"
  type := { ObjectType.empty "Hero" with properties := heroProperties }
  namespaceName := "ns"
  methodNames := []
  forRuntime := true

/-- A hero whose speed changes in its data while it runs. -/
def reloadMemory : Memory Literal where
  object
    | .live => 0
    | .given | .old => 1
    | .new => 2
  cells
    | 0, _ => some (.number "7")
    | 1, name => heroData name
    | _, name => if name = "speed" then some (.number "130") else heroData name

theorem fields_of_reload_hero :
    (∀ p ∈ reloadRequest.type.properties, isIdentifier p.name = true) ∧
      ∃ m', (run literalHost none (followChanges heroProperties) reloadMemory).1 = m' ∧
        m'.field .live "speed" = some (.number "130") ∧
        m'.field .live "secret" = some (.number "7") := by
  have named : ∀ p ∈ reloadRequest.type.properties, isIdentifier p.name = true :=
    isIdentifier_heroProperties
  obtain ⟨-, -, -, runs⟩ := fields_of_reload literalHost (.shell []) named []
  obtain ⟨m', result, -, fields, -⟩ := runs reloadMemory reloadMemory rfl
  have speed := fields heroProperties[0] (List.getElem_mem (by decide))
  have secret := fields heroProperties[1] (List.getElem_mem (by decide))
  exact ⟨named, m', result, speed.trans (by decide +kernel), secret.trans (by decide +kernel)⟩

end CompositeObjects.Script
