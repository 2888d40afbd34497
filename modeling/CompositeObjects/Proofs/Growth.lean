import CompositeObjects.Proofs.Operations

namespace CompositeObjects

theorem ObjectType.child?_eq_some {type : ObjectType} {name : String} {declared : Child}
    (h : type.child? name = some declared) : declared ∈ type.children ∧ declared.name = name :=
  ⟨List.mem_of_find?_eq_some h, by simpa using List.find?_some h⟩

theorem startingChild_of_child? {type : ObjectType} {name : String} {declared : Child}
    (h : type.child? name = some declared) (children : Table Configuration) :
    startingChild children declared = (children.get? name).getD declared.default := by
  rw [startingChild, (ObjectType.child?_eq_some h).2]

theorem startingChild_insert_of_ne {name : String} {declared : Child} (hne : declared.name ≠ name)
    (child : Configuration) (children : Table Configuration) :
    startingChild (children.insert name child) declared = startingChild children declared := by
  rw [startingChild, startingChild, Table.get?_insert_of_ne hne]

namespace Configuration

/-- A configuration that operations have made of another one: no child has been lost, and each
child has grown from the child that was there or else from the declared default. -/
inductive Grown (catalog : Catalog) : Configuration → Configuration → Prop where
  | verbatim (typeName : String) (old new : Json) :
      Grown catalog (.verbatim typeName old) (.verbatim typeName new)
  | unresolved {base node : Composite Configuration} (same : node.typeName = base.typeName)
      (unknown : catalog.type? base.typeName = none) (content : node.content.WellFormed)
      (bare : base.children = []) (childless : node.children = []) :
      Grown catalog (.composite base) (.composite node)
  | resolved {base node : Composite Configuration} {type : ObjectType}
      (same : node.typeName = base.typeName) (known : catalog.type? base.typeName = some type)
      (content : node.content.WellFormed) (unparked : node.parked = [])
      (sortedBase : Table.Sorted base.children) (sorted : Table.Sorted node.children)
      (kept : ∀ name, node.child? name = none → base.child? name = none)
      (declared : ∀ name child, node.child? name = some child →
        ∃ declared, type.child? name = some declared)
      (grown : ∀ name child declared, node.child? name = some child →
        type.child? name = some declared →
        Grown catalog (startingChild base.children declared) child) :
      Grown catalog (.composite base) (.composite node)

/-- The children that an object of a known type has made, as against those it began with. -/
structure GrownChildren (catalog : Catalog) (type : ObjectType)
    (base children : Table Configuration) : Prop where
  sorted : children.Sorted
  kept : ∀ name, children.get? name = none → base.get? name = none
  declared : ∀ name child, children.get? name = some child →
    ∃ declared, type.child? name = some declared
  grown : ∀ name child declared, children.get? name = some child →
    type.child? name = some declared → Grown catalog (startingChild base declared) child

/-- The declared defaults of a catalog have grown from themselves. -/
def Grounded (catalog : Catalog) : Prop :=
  ∀ name type, catalog.type? name = some type →
    ∀ declared ∈ type.children, Grown catalog declared.default declared.default

variable {catalog : Catalog} {type : ObjectType} {base children : Table Configuration}

theorem GrownChildren.insert (h : GrownChildren catalog type base children) {name : String}
    {declared : Child} (found : type.child? name = some declared) {child : Configuration}
    (grown : Grown catalog (startingChild base declared) child) :
    GrownChildren catalog type base (children.insert name child) := by
  refine ⟨Table.sorted_insert _ _ h.sorted, fun other none => ?_, fun other c made => ?_,
    fun other c d made hd => ?_⟩
  · rw [Table.get?_insert] at none
    split at none
    · cases none
    · exact h.kept other none
  · rw [Table.get?_insert] at made
    split at made
    · rename_i same
      exact ⟨declared, same ▸ found⟩
    · exact h.declared other c made
  · rw [Table.get?_insert] at made
    split at made
    · rename_i same
      cases made
      rw [same, found] at hd
      cases hd
      exact grown
    · exact h.grown other c d made hd

/-- What a child starts from has itself grown from what it was to begin with. -/
theorem GrownChildren.start (h : GrownChildren catalog type base children) {name : String}
    {declared : Child} (found : type.child? name = some declared)
    (ground : Grown catalog declared.default declared.default) :
    Grown catalog (startingChild base declared) (startingChild children declared) := by
  rw [startingChild_of_child? found children]
  cases made : children.get? name with
  | some child => exact h.grown name child declared made found
  | none =>
    rw [startingChild_of_child? found base, h.kept name made]
    exact ground

theorem grown_fresh (catalog : Catalog) (typeName : String) :
    Grown catalog (.composite (.fresh typeName)) (.composite (.fresh typeName)) := by
  cases known : catalog.type? typeName with
  | none => exact Grown.unresolved rfl known Content.wellFormed_empty rfl rfl
  | some type =>
    refine Grown.resolved rfl known Content.wellFormed_empty rfl Table.sorted_nil Table.sorted_nil
      (fun _ _ => rfl) (fun _ _ made => ?_) (fun _ _ _ made => ?_)
    · cases made
    · cases made

theorem Grown.exists_base {base : Configuration} {node : Composite Configuration}
    (h : Grown catalog base (.composite node)) :
    ∃ b : Composite Configuration, base = .composite b ∧ node.typeName = b.typeName ∧
      node.content.WellFormed := by
  cases h with
  | unresolved same _ content => exact ⟨_, rfl, same, content⟩
  | resolved same _ content => exact ⟨_, rfl, same, content⟩

/-- An object of a known type has grown exactly where its children have. -/
theorem grown_composite_iff {b node : Composite Configuration} {type : ObjectType}
    (known : catalog.type? node.typeName = some type) :
    Grown catalog (.composite b) (.composite node) ↔
      node.typeName = b.typeName ∧ node.content.WellFormed ∧ node.parked = [] ∧
        Table.Sorted b.children ∧ GrownChildren catalog type b.children node.children := by
  constructor
  · intro h
    cases h with
    | unresolved same unknown => rw [← same, known] at unknown; cases unknown
    | resolved same known' content unparked sortedBase sorted kept declared grown =>
      rw [← same, known] at known'
      cases known'
      exact ⟨same, content, unparked, sortedBase, sorted, kept, declared, grown⟩
  · rintro ⟨same, content, unparked, sortedBase, h⟩
    exact Grown.resolved same (same ▸ known) content unparked sortedBase h.sorted h.kept
      h.declared h.grown

/-- An object of an unknown type makes no children. -/
theorem grown_composite_iff_of_unknown {b node : Composite Configuration}
    (unknown : catalog.type? node.typeName = none) :
    Grown catalog (.composite b) (.composite node) ↔
      node.typeName = b.typeName ∧ node.content.WellFormed ∧ b.children = [] ∧
        node.children = [] := by
  constructor
  · intro h
    cases h with
    | unresolved same _ content bare childless => exact ⟨same, content, bare, childless⟩
    | resolved same known => rw [← same, unknown] at known; cases known
  · rintro ⟨same, content, bare, childless⟩
    exact Grown.unresolved same (same ▸ unknown) content bare childless

/-- The content is no matter for what the children have grown from. -/
theorem Grown.withContent {base : Configuration} {node : Composite Configuration}
    (h : Grown catalog base (.composite node)) {content : Content} (wf : content.WellFormed) :
    Grown catalog base (.composite { node with content }) := by
  cases h with
  | unresolved same unknown _ bare childless => exact .unresolved same unknown wf bare childless
  | resolved same known _ unparked sortedBase sorted kept declared grown =>
    exact .resolved same known wf unparked sortedBase sorted kept declared grown

mutual

/-- Loading a tree goes on growing. -/
theorem grown_take (ground : Grounded catalog) {tree : Json} {saved : SavedTree}
    (wf : saved.WellFormed) {base c loaded : Configuration} (h : Grown catalog base c)
    (ok : (take catalog tree saved c).value = .ok loaded) : Grown catalog base loaded := by
  match c, saved with
  | .verbatim typeName old, saved =>
    rw [take_verbatim] at ok
    cases ok
    cases h
    exact Grown.verbatim ..
  | .composite node, .malformed kept fault =>
    rw [take_malformed] at ok
    cases ok
  | .composite node, .composite content trees =>
    obtain ⟨b, rfl, -⟩ := h.exists_base
    cases known : catalog.type? node.typeName with
    | none =>
      rw [take_unresolved _ _ _ known] at ok
      cases ok
      obtain ⟨same, -, bare, childless⟩ := (grown_composite_iff_of_unknown known).1 h
      refine (grown_composite_iff_of_unknown ?_).2 ⟨same, wf.1, bare, childless⟩
      exact known
    | some type =>
      rw [take_resolved _ _ _ known] at ok
      obtain ⟨same, -, -, sortedBase, before⟩ := (grown_composite_iff known).1 h
      cases done : (takeChildren catalog node.typeName type trees node.children).value with
      | error fault =>
        rw [done] at ok
        cases ok
      | ok children =>
        rw [done] at ok
        cases ok
        have after := grown_takeChildren ground known wf.2 before done
        refine (grown_composite_iff ?_).2 ⟨same, wf.1, rfl, sortedBase, after⟩
        exact known

theorem grown_takeChildren (ground : Grounded catalog) {typeName : String} {type : ObjectType}
    (known : catalog.type? typeName = some type) {trees : List (String × Json × SavedTree)}
    (wf : SavedTree.WellFormedChildren trees) {base children loaded : Table Configuration}
    (h : GrownChildren catalog type base children)
    (ok : (takeChildren catalog typeName type trees children).value = .ok loaded) :
    GrownChildren catalog type base loaded := by
  match trees with
  | [] =>
    rw [takeChildren_nil] at ok
    cases ok
    exact h
  | (name, tree, saved) :: rest =>
    cases found : type.child? name with
    | none =>
      rw [takeChildren_undeclared typeName found] at ok
      exact grown_takeChildren ground known wf.2 h ok
    | some declared =>
      rw [takeChildren_declared typeName found] at ok
      cases done : (take catalog tree saved (startingChild children declared)).value with
      | error fault =>
        rw [done] at ok
        cases ok
      | ok child =>
        rw [done] at ok
        have start := h.start found
          (ground _ _ known declared (ObjectType.child?_eq_some found).1)
        have grown := grown_take ground wf.1 start done
        exact grown_takeChildren ground known wf.2 (h.insert found grown) ok

end

/-- A child that was looked up has grown from something from which whatever takes its place may
grow as well. -/
theorem grown_lookup (ground : Grounded catalog) {base : Configuration}
    {node node' : Composite Configuration} {name : String} {child : Configuration}
    (h : Grown catalog base (.composite node))
    (found : (node.lookup catalog name).value = .ok (child, node')) :
    Grown catalog base (.composite node') ∧ ∃ start, Grown catalog start child ∧
      ∀ child', Grown catalog start child' →
        Grown catalog base (.composite (node'.withChild name child')) := by
  obtain ⟨type, declared, known, hd, made⟩ := Composite.lookup_eq_ok found
  obtain ⟨b, rfl, -⟩ := h.exists_base
  obtain ⟨same, content, unparked, sortedBase, before⟩ := (grown_composite_iff known).1 h
  have rebuild {children : Table Configuration}
      (after : GrownChildren catalog type b.children children) :
      Grown catalog (.composite b) (.composite { node with children, parked := [] }) := by
    refine (grown_composite_iff ?_).2 ⟨same, content, rfl, sortedBase, after⟩
    exact known
  have start := before.start hd (ground _ _ known declared (ObjectType.child?_eq_some hd).1)
  rcases made with ⟨made, rfl⟩ | ⟨fresh, made, rfl⟩
  · refine ⟨h, startingChild b.children declared, before.grown name child declared made hd,
      fun child' h' => ?_⟩
    have after := rebuild (before.insert hd h')
    rw [← unparked] at after
    exact after
  · have isDefault : child = declared.default := by
      rw [made, unparked]
      rfl
    have noChild : Table.get? name node.children = none := fresh
    rw [startingChild_of_child? hd node.children, noChild, Option.getD_none,
      ← isDefault] at start
    have after := before.insert hd start
    rw [unparked]
    exact ⟨rebuild after, startingChild b.children declared, start,
      fun child' h' => rebuild (after.insert hd h')⟩

theorem grown_update_node {base : Configuration} {node node' : Composite Configuration}
    {name value : String} (h : Grown catalog base (.composite node))
    (done : node.update? catalog name value = some node') :
    Grown catalog base (.composite node') := by
  obtain ⟨type, -, -, rfl⟩ := Composite.update?_eq_some done
  obtain ⟨-, -, -, wf⟩ := h.exists_base
  exact h.withContent (wf.set name value)

/-- Whatever is done to a configuration, it goes on growing. -/
theorem kept_grown (ground : Grounded catalog) : Kept catalog (Grown catalog) where
  update _ _ _ _ _ h done := grown_update_node h done
  lookup _ _ _ _ _ h found := grown_lookup ground h found
  load _ _ _ _ sorted h ok := grown_take ground (SavedTree.wellFormed_ofJson sorted) h ok

end Configuration
end CompositeObjects
