import CompositeObjects.Proofs.Loader
import CompositeObjects.Proofs.Takeover

namespace CompositeObjects

open CompositeObjects.Configuration

namespace Configuration

/-- At every depth the children and the trees kept aside are in the order of their names, and so are
the entries of these trees. No other configuration can be built where tables are ordered maps. -/
inductive Ordered : Configuration → Prop where
  | verbatim (typeName : String) (tree : Json) : Ordered (.verbatim typeName tree)
  | composite {node : Composite Configuration} (sorted : Table.Sorted node.children)
      (sortedParked : Table.Sorted node.parked) (trees : ∀ e ∈ node.parked, e.2.Sorted)
      (children : ∀ e ∈ node.children, Ordered e.2) : Ordered (.composite node)

theorem ordered_fresh (typeName : String) : Ordered (.composite (.fresh typeName)) :=
  .composite Table.sorted_nil Table.sorted_nil (fun e he => by cases he) fun e he => by cases he

theorem Ordered.sorted {node : Composite Configuration} (h : Ordered (.composite node)) :
    Table.Sorted node.children := by
  cases h
  assumption

theorem Ordered.tree {node : Composite Configuration} (h : Ordered (.composite node))
    {name : String} {tree : Json} (parked : Table.get? name node.parked = some tree) :
    tree.Sorted := by
  cases h with
  | composite _ _ trees => exact trees _ (Table.mem_of_get? parked)

theorem Ordered.child {node : Composite Configuration} (h : Ordered (.composite node))
    {name : String} {child : Configuration} (made : node.child? name = some child) :
    Ordered child := by
  cases h with
  | composite _ _ _ children => exact children _ (Table.mem_of_get? made)

end Configuration

/-- The declared defaults of a catalog are in order. -/
def Catalog.Ordered (catalog : Catalog) : Prop :=
  ∀ name type, catalog.type? name = some type →
    ∀ declared ∈ type.children, declared.default.Ordered

theorem Catalog.ordered_of_entries {catalog : Catalog}
    (each : ∀ e ∈ catalog.entries, ∀ d ∈ e.type.children, d.default.Ordered) :
    catalog.Ordered := by
  intro name type known d hd
  obtain ⟨e, found, rfl⟩ := Option.map_eq_some_iff.1 known
  obtain ⟨position, -, at'⟩ := Option.bind_eq_some_iff.1 found
  exact each e (List.mem_of_getElem? at') d hd

theorem Catalog.Ordered.of_fewer {catalog smaller : Catalog} (ordered : catalog.Ordered)
    (fewer : ∀ name type, smaller.type? name = some type → catalog.type? name = some type) :
    smaller.Ordered :=
  fun name type known => ordered name type (fewer name type known)

namespace Configuration

variable {catalog : Catalog}

theorem Ordered.start {node : Composite Configuration} (h : Ordered (.composite node))
    {declared : Child} (default : declared.default.Ordered) :
    (startingChild node.children declared).Ordered := by
  rw [startingChild]
  cases made : Table.get? declared.name node.children with
  | none => exact default
  | some child => exact h.child made

theorem ordered_load (ordered : catalog.Ordered) {tree : Json} (sorted : tree.Sorted)
    {c after : Configuration} (h : c.Ordered) (ok : (c.load catalog tree).value = .ok after) :
    after.Ordered := by
  induction tree using Json.induction_on_children generalizing c after with
  | step tree ih =>
    cases c with
    | verbatim typeName old =>
      rw [load_verbatim] at ok
      cases ok
      exact .verbatim ..
    | composite node =>
      have sortedChildren := h.sorted
      obtain ⟨content, trees, parts, ⟨-, rfl⟩ | ⟨type, children, known, done, rfl⟩⟩ := load_eq_ok ok
      · obtain ⟨sortedTrees, sortedEach⟩ := sorted.children parts
        cases h with
        | composite _ _ _ children =>
          exact .composite sortedChildren sortedTrees sortedEach children
      · obtain ⟨sortedTrees, sortedEach⟩ := sorted.children parts
        have taken := takenOver_of_takeChildren _ (Table.nodup_of_sorted sortedTrees) done
        have sortedAfter := taken.sorted sortedChildren
        refine .composite sortedAfter Table.sorted_nil (fun e he => by cases he) fun e he => ?_
        have made := Table.get?_of_mem (Table.nodup_of_sorted sortedAfter) he
        cases assigned : assigned? type trees e.1 with
        | none =>
          rw [taken.others e.1 assigned] at made
          exact h.child made
        | some p =>
          obtain ⟨declared, sub⟩ := p
          obtain ⟨found, there⟩ := assigned?_eq_some_iff.1 assigned
          obtain ⟨child, made', loads⟩ := taken.loaded e.1 declared sub assigned
          rw [made] at made'
          cases made'
          have default := ordered _ _ known declared (ObjectType.child?_eq_some found).1
          have member := Table.mem_of_get? there
          exact ih content trees parts _ member (sortedEach _ member) (h.start default) loads

theorem ordered_newChild (ordered : catalog.Ordered) {declared : Child}
    (default : declared.default.Ordered) {parked : Option Json}
    (sorted : ∀ tree, parked = some tree → tree.Sorted) :
    (newChild catalog declared parked).value.Ordered := by
  cases parked with
  | none => exact default
  | some tree =>
    simp only [newChild, Traced.value_bind]
    cases ok : (declared.default.load catalog tree).value with
    | error fault => exact default
    | ok child => exact ordered_load ordered (sorted tree rfl) default ok

theorem Ordered.insert {node : Composite Configuration} (h : Ordered (.composite node))
    {child : Configuration} (hchild : child.Ordered) (name : String) {parked : Table Json}
    (sorted : parked.Sorted) (among : ∀ e ∈ parked, e ∈ node.parked) :
    Ordered (.composite { node with children := Table.insert name child node.children, parked }) := by
  cases h with
  | composite sortedChildren _ trees children =>
    refine .composite (Table.sorted_insert _ _ sortedChildren) sorted
      (fun e he => trees e (among e he)) fun e he => ?_
    rcases Table.mem_insert he with rfl | he
    · exact hchild
    · exact children e he

/-- Every operation under a catalog whose defaults are in order keeps the order. -/
theorem kept_ordered (ordered : catalog.Ordered) : Kept catalog fun _ : Unit => Ordered where
  update _ node name value node' h done := by
    obtain ⟨type, -, -, rfl⟩ := Composite.update?_eq_some done
    cases h with
    | composite sorted sortedParked trees children =>
      exact .composite sorted sortedParked trees children
  lookup _ node name child node' h found := by
    have sortedParked : Table.Sorted node.parked := by
      cases h
      assumption
    obtain ⟨type, declared, known, hd, made⟩ := Composite.lookup_eq_ok found
    rcases made with ⟨made, rfl⟩ | ⟨fresh, rfl, rfl⟩
    · exact ⟨h, (), h.child made, fun child' h' => h.insert h' name sortedParked fun _ => id⟩
    · have default := ordered _ _ known declared (ObjectType.child?_eq_some hd).1
      have new := ordered_newChild ordered default
        fun tree (parked : Table.get? name node.parked = some tree) => h.tree parked
      have erased : ∀ e ∈ Table.erase name node.parked, e ∈ node.parked :=
        fun e he => List.mem_of_mem_filter he
      have after := fun child' (h' : Ordered child') =>
        h.insert h' name (Table.sorted_erase name sortedParked) erased
      refine ⟨after _ new, (), new, fun child' h' => ?_⟩
      rw [Composite.withChild, Table.insert_insert]
      exact after child' h'
  load _ c tree after sorted h ok := ordered_load ordered sorted h ok

end Configuration

namespace ProjectFile

variable {file : ProjectFile} {declared catalog : Catalog}

theorem ordered_declareChild (names : List String) (child : ChildEntry) :
    (declareChild names child).default.Ordered := by
  unfold declareChild
  dsimp only
  split
  · exact ordered_fresh child.typeName
  · exact .verbatim ..

theorem ordered_declared (h : file.declare = .ok declared) : declared.Ordered := by
  intro name type known c hc
  obtain ⟨entry, rfl⟩ := exists_of_declared_child h known hc
  exact ordered_declareChild ..

theorem ordered_fill (ordered : declared.Ordered) {pending : List PendingChild}
    (sorted : ∀ p ∈ pending, p.tree.Sorted) (indexed : catalog.Indexed) (h : catalog.Ordered)
    {result : Catalog} (done : (fill declared pending catalog).value = .ok result) :
    result.Ordered := by
  refine (fill_keeps sorted (P := fun catalog => catalog.Indexed ∧ catalog.Ordered) ?_
    ⟨indexed, h⟩ done).2
  rintro catalog owner child type first tree loaded ⟨indexed, h⟩ known found treeSorted ok
  refine ⟨indexed.modify owner fun _ => rfl, fun name t ht c hc => ?_⟩
  rcases default_of_modify indexed ht hc with hnew | ⟨before, hbefore, hc⟩
  · have default := h _ _ known first (ObjectType.child?_eq_some found).1
    rw [hnew]
    exact ordered_load ordered treeSorted default ok
  · exact h name before hbefore c hc

theorem ordered_catalog (sorted : file.Sorted) (done : file.catalog.value = .ok catalog) :
    catalog.Ordered := by
  obtain ⟨declared, hdeclared, filled⟩ := catalog_eq_ok_iff.1 done
  have ordered := ordered_declared hdeclared
  exact ordered_fill ordered (pending_sorted sorted) (declare_eq_ok hdeclared).1 ordered filled

end ProjectFile

/-- The defaults of a project that the loader accepts are in order. -/
theorem Catalog.Accepted.ordered {catalog : Catalog} (h : catalog.Accepted) : catalog.Ordered := by
  have of_catalogOf {read : Except Fault ProjectFile}
      (sorted : ∀ file, read = .ok file → file.Sorted)
      (done : (ProjectFile.catalogOf read).value = .ok catalog) : catalog.Ordered := by
    cases read with
    | error fault => cases done
    | ok file => exact ProjectFile.ordered_catalog (sorted file rfl) done
  rcases h with ⟨text, done⟩ | ⟨value, done⟩
  · exact of_catalogOf (fun file read => ProjectFile.Decoded.sorted (Or.inl ⟨text, read⟩)) done
  · exact of_catalogOf (fun file read => ProjectFile.Decoded.sorted (Or.inr ⟨value, read⟩)) done

end CompositeObjects
