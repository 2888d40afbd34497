import CompositeObjects.Proofs.HotReload

namespace CompositeObjects.Script

/-- New data are got from a property whose data have changed. -/
theorem gets_followChanges {V : Type} (host : Host V) {properties : List Property}
    (nodup : (properties.map Property.name).Nodup) {p : Property} (hp : p ∈ properties)
    {m : Memory V}
    (changed : host.differ ((run host none [baseUpdate] m).1.field .old p.name)
      ((run host none [baseUpdate] m).1.field .new p.name) = true) :
    Gets host (properties.flatMap accessorMethods) p.name
      (run host none (followChanges properties) m).1
      (((run host none [baseUpdate] m).1.field .new p.name).getD
        ((Literal.ofProperty p).value host)) := by
  have field : (run host none (followChanges properties) m).1.field .live p.name =
      (run host none [baseUpdate] m).1.field .new p.name := by
    rw [run_followChanges, (field_followChanges ..).2,
      if_pos ⟨rfl, List.mem_map_of_mem hp, changed⟩]
  have value := gets_field host nodup hp (run host none (followChanges properties) m).1
  rwa [field] at value

/-- The texts of the change, of the constructor and of the accessors agree. Once an object has been
told of new data, the getter of a property whose data changed returns what they have for it, or the
default where they have nothing, whatever the object was before. A new object that is constructed
with these data returns the same, except for a hidden property to which they give another value than
its default. -/
theorem got_reloaded {V : Type} (host : Host V) {properties : List Property}
    (named : ∀ p ∈ properties, isIdentifier p.name = true)
    (nodup : (properties.map Property.name).Nodup) :
    ∃ construction reload methods,
      commandsOf? (initializationCode properties) = some construction ∧
      commandsOf? (updateCode properties) = some reload ∧
      methodsOf? (accessorsCode properties) = some methods ∧
      ∀ p ∈ properties, ∃ term default,
        termOf? (Literal.ofProperty p).code = some term ∧
        (∀ argument (m : Memory V), term.value host argument m = some default) ∧
        ∀ m base : Memory V, (run host none [baseUpdate] m).1 = base →
          host.differ (base.field .old p.name) (base.field .new p.name) = true →
          Gets host methods p.name (run host none reload m).1
            ((base.field .new p.name).getD default) ∧
          ∀ fresh : Memory V, fresh.field .given p.name = base.field .new p.name →
            ∃ constructed,
              Gets host methods p.name (run host none construction fresh).1 constructed ∧
              ((base.field .new p.name).getD default = constructed ↔
                p.hidden = false ∨ base.field .new p.name = none ∨
                  base.field .new p.name = some default) := by
  refine ⟨_, _, _, commandsOf?_initializationCode named, commandsOf?_followChanges named,
    methodsOf?_accessorsCode named, ?_⟩
  intro p hp
  refine ⟨_, _, termOf?_literal _, fun argument m => value_literal host argument _ m, ?_⟩
  rintro m base rfl changed
  refine ⟨gets_followChanges host nodup hp changed, fun fresh sameData => ?_⟩
  have start := gets_initializations host nodup hp fresh
  rw [sameData] at start
  exact ⟨_, start, getD_eq_initialValue_iff host p _⟩

/-- A hero whose data were empty and come to give both properties another value than their default.
A new hero is given the same data. -/
def changedMemory : Memory Literal where
  object
    | .live => 0
    | .old => 1
    | .given | .new => 2
  cells
    | 0, _ => some (.number "7")
    | 1, name => noData name
    | _, name => heroData name

theorem got_reloaded_hero :
    (∀ p ∈ heroProperties, isIdentifier p.name = true) ∧
      (heroProperties.map Property.name).Nodup ∧
      literalHost.differ (changedMemory.field .old "speed") (changedMemory.field .new "speed") =
        true ∧
      ∃ construction reload methods,
        commandsOf? (initializationCode heroProperties) = some construction ∧
        commandsOf? (updateCode heroProperties) = some reload ∧
        methodsOf? (accessorsCode heroProperties) = some methods ∧
        Gets literalHost methods "speed" (run literalHost none reload changedMemory).1
          (.number "120") ∧
        Gets literalHost methods "speed" (run literalHost none construction changedMemory).1
          (.number "120") := by
  have named := isIdentifier_heroProperties
  have nodup := nodup_heroProperties
  have changed : literalHost.differ (changedMemory.field .old "speed")
      (changedMemory.field .new "speed") = true := by decide
  obtain ⟨construction, reload, methods, hconstruction, hreload, hmethods, each⟩ :=
    got_reloaded literalHost named nodup
  obtain ⟨_, default, -, -, agree⟩ := each heroProperties[0] (List.getElem_mem (by decide))
  obtain ⟨reloaded, fresh⟩ := agree changedMemory changedMemory rfl changed
  obtain ⟨constructed, start, same⟩ := fresh changedMemory rfl
  obtain rfl : Literal.number "120" = constructed := same.2 (Or.inl rfl)
  exact ⟨named, nodup, changed, construction, reload, methods, hconstruction, hreload, hmethods,
    reloaded, start⟩

/-- The data of a hidden property reach a running object but no new one. -/
theorem got_reloaded_ne_constructed :
    (∀ p ∈ heroProperties, isIdentifier p.name = true) ∧
      (heroProperties.map Property.name).Nodup ∧
      literalHost.differ (changedMemory.field .old "secret") (changedMemory.field .new "secret") =
        true ∧
      changedMemory.field .given = changedMemory.field .new ∧
      ∃ construction reload methods,
        commandsOf? (initializationCode heroProperties) = some construction ∧
        commandsOf? (updateCode heroProperties) = some reload ∧
        methodsOf? (accessorsCode heroProperties) = some methods ∧
        Gets literalHost methods "secret" (run literalHost none reload changedMemory).1
          (.text "y") ∧
        Gets literalHost methods "secret" (run literalHost none construction changedMemory).1
          (.text "x") ∧
        Literal.text "y" ≠ .text "x" := by
  have named := isIdentifier_heroProperties
  have nodup := nodup_heroProperties
  have secret : heroProperties[1] ∈ heroProperties := List.getElem_mem (by decide)
  have changed : literalHost.differ (changedMemory.field .old "secret")
      (changedMemory.field .new "secret") = true := by decide
  exact ⟨named, nodup, changed, rfl, _, _, _, commandsOf?_initializationCode named,
    commandsOf?_followChanges named, methodsOf?_accessorsCode named,
    gets_followChanges literalHost nodup secret changed,
    gets_initializations literalHost nodup secret changedMemory, by decide⟩

end CompositeObjects.Script
