import CompositeObjects.Proofs.Reachable
import CompositeObjects.Proofs.Takeover

namespace CompositeObjects.Configuration

variable {catalog : Catalog}

/-- A tree that a configuration can take over. Any tree will do for one that is held as it is. A
composite object needs a tree with both parts, in which each declared child of a known type can take
over its own tree, as it has been made or else as it is declared. -/
inductive Acceptable (catalog : Catalog) : Json → Configuration → Prop where
  | verbatim (tree : Json) (typeName : String) (old : Json) :
      Acceptable catalog tree (.verbatim typeName old)
  | composite {tree : Json} {node : Composite Configuration} {content trees : Table Json}
      (parts : tree.parts? = some (content, trees))
      (children : ∀ type, catalog.type? node.typeName = some type →
        ∀ e ∈ trees, ∀ declared, type.child? e.1 = some declared →
          Acceptable catalog e.2 ((node.child? e.1).getD declared.default)) :
      Acceptable catalog tree (.composite node)

theorem acceptable_composite_iff {tree : Json} {node : Composite Configuration}
    {content trees : Table Json} (parts : tree.parts? = some (content, trees))
    (sorted : trees.Sorted) :
    Acceptable catalog tree (.composite node) ↔
      ∀ type, catalog.type? node.typeName = some type →
        ∀ name declared sub, assigned? type trees name = some (declared, sub) →
          Acceptable catalog sub (startingChild node.children declared) := by
  constructor
  · intro h type known name declared sub assigned
    obtain ⟨found, there⟩ := assigned?_eq_some_iff.1 assigned
    cases h with
    | composite parts' children =>
      rw [parts] at parts'
      cases parts'
      rw [startingChild_of_child? found]
      exact children type known (name, sub) (Table.mem_of_get? there) declared found
  · intro each
    refine Acceptable.composite parts fun type known e he declared found => ?_
    have there := Table.get?_of_mem (Table.nodup_of_sorted sorted) he
    have start := each type known e.1 declared e.2 (assigned?_eq_some_iff.2 ⟨found, there⟩)
    rw [startingChild_of_child? found] at start
    exact start

/-- The trees that a configuration takes over are those that are acceptable. -/
theorem exists_load_iff_acceptable {tree : Json} (sorted : tree.Sorted) (c : Configuration) :
    (∃ after, (c.load catalog tree).value = .ok after) ↔ Acceptable catalog tree c := by
  induction tree using Json.induction_on_children generalizing c with
  | step tree ih =>
    cases c with
    | verbatim typeName old => exact iff_of_true ⟨_, load_verbatim ..⟩ (.verbatim ..)
    | composite node =>
      cases parts : tree.parts? with
      | none =>
        obtain ⟨fault, fails⟩ := load_of_no_parts catalog node parts
        rw [fails]
        refine iff_of_false (fun ⟨_, absurd⟩ => by cases absurd) fun h => ?_
        cases h with
        | composite parts' =>
          rw [parts] at parts'
          cases parts'
      | some both =>
        obtain ⟨content, trees⟩ := both
        obtain ⟨sortedTrees, sortedEach⟩ := sorted.children parts
        rw [acceptable_composite_iff parts sortedTrees]
        -- A tree below is taken over by what its child starts from where it is acceptable to it.
        have below {type : ObjectType} {name : String} {declared : Child} {sub : Json}
            (assigned : assigned? type trees name = some (declared, sub)) (start : Configuration) :
            (∃ after, (start.load catalog sub).value = .ok after) ↔
              Acceptable catalog sub start := by
          have he := Table.mem_of_get? (assigned?_eq_some_iff.1 assigned).2
          exact ih content trees parts _ he (sortedEach _ he) start
        cases known : catalog.type? node.typeName with
        | none =>
          refine iff_of_true ⟨_, load_of_unresolved parts known⟩ fun type absurd => ?_
          cases absurd
        | some type =>
          constructor
          · rintro ⟨after, ok⟩ other same name declared sub assigned
            obtain rfl := Option.some.inj same
            obtain ⟨children, -, taken⟩ := exists_of_load parts sortedTrees known ok
            obtain ⟨child, -, loads⟩ := taken.loaded name declared sub assigned
            exact (below assigned _).1 ⟨child, loads⟩
          · intro each
            refine exists_load parts sortedTrees known fun name declared sub assigned => ?_
            exact (below assigned _).2 (each type rfl name declared sub assigned)

mutual

/-- Takes over a tree in place, one part after the other. A fault ends it halfway, with all that has
been changed by then. -/
def overwrite (catalog : Catalog) (tree : Json) (saved : SavedTree) :
    Configuration → Configuration × Option Fault
  | .verbatim typeName _ => (.verbatim typeName tree, none)
  | .composite node =>
    match saved with
    | .malformed _ fault => (.composite node, some fault)
    | .composite content trees =>
      match catalog.type? node.typeName with
      | none => (.composite { node with content, parked := trees.map fun t => (t.1, t.2.1) }, none)
      | some type =>
        let (children, fault) := overwriteChildren catalog type trees node.children
        (.composite { node with content, children, parked := [] }, fault)

/-- Each declared child is made and takes over its tree. The one whose tree has a fault is put back
as it was made, and those before it keep their trees. -/
def overwriteChildren (catalog : Catalog) (type : ObjectType) :
    List (String × Json × SavedTree) → Table Configuration → Table Configuration × Option Fault
  | [], children => (children, none)
  | (name, tree, saved) :: rest, children =>
    match type.child? name with
    | none => overwriteChildren catalog type rest children
    | some declared =>
      let start := startingChild children declared
      match overwrite catalog tree saved start with
      | (_, some fault) => (children.insert name start, some fault)
      | (child, none) => overwriteChildren catalog type rest (children.insert name child)

end

/-- Takes over a tree in a copy, which is put in place of the configuration if there is no fault. -/
def loadInPlace (catalog : Catalog) (tree : Json) (c : Configuration) :
    Configuration × Option Fault :=
  match overwrite catalog tree (.ofJson tree) c with
  | (copy, none) => (copy, none)
  | (_, some fault) => (c, some fault)

/-- What is known of a change that has been made in place or ended by a fault. -/
def ending {α : Type} : α × Option Fault → Except Fault α
  | (after, none) => .ok after
  | (_, some fault) => .error fault

mutual

theorem ending_overwrite (tree : Json) (saved : SavedTree) (c : Configuration) :
    ending (overwrite catalog tree saved c) = (take catalog tree saved c).value := by
  match c, saved with
  | .verbatim typeName old, saved => rw [overwrite, take_verbatim, ending]
  | .composite node, .malformed kept fault => rw [overwrite, take_malformed, ending]
  | .composite node, .composite content trees =>
    rw [overwrite]
    cases known : catalog.type? node.typeName with
    | none => rw [take_unresolved _ _ _ known, ending]
    | some type =>
      have children := ending_overwriteChildren node.typeName type trees node.children
      rw [take_resolved _ _ _ known, ← children]
      dsimp only
      cases overwriteChildren catalog type trees node.children with
      | mk made fault => cases fault <;> rfl

theorem ending_overwriteChildren (typeName : String) (type : ObjectType)
    (trees : List (String × Json × SavedTree)) (children : Table Configuration) :
    ending (overwriteChildren catalog type trees children) =
      (takeChildren catalog typeName type trees children).value := by
  match trees with
  | [] => rw [overwriteChildren, takeChildren_nil, ending]
  | (name, tree, saved) :: rest =>
    rw [overwriteChildren]
    cases found : type.child? name with
    | none =>
      rw [takeChildren_undeclared typeName found]
      exact ending_overwriteChildren typeName type rest children
    | some declared =>
      rw [takeChildren_declared typeName found, ← ending_overwrite tree saved]
      dsimp only
      cases overwrite catalog tree saved (startingChild children declared) with
      | mk child fault =>
        cases fault with
        | some fault => rfl
        | none => exact ending_overwriteChildren typeName type rest (children.insert name child)

end

theorem loadInPlace_eq (tree : Json) (c : Configuration) :
    c.loadInPlace catalog tree = match (c.load catalog tree).value with
      | .ok after => (after, none)
      | .error fault => (c, some fault) := by
  have same : ending (overwrite catalog tree (.ofJson tree) c) = (c.load catalog tree).value :=
    ending_overwrite tree (.ofJson tree) c
  rw [loadInPlace, ← same]
  cases overwrite catalog tree (.ofJson tree) c with
  | mk copy fault => cases fault <;> rfl

/-- A tree that is not acceptable is refused, whatever is wrong with it and however deep, and no
other tree is. Where it is refused, the configuration is as it was. -/
theorem load_fails_iff {tree : Json} (sorted : tree.Sorted) (c : Configuration) :
    ((∃ fault, (c.load catalog tree).value = .error fault) ↔ ¬ Acceptable catalog tree c) ∧
      (∀ fault, (c.load catalog tree).value = .error fault →
        c.loadInPlace catalog tree = (c, some fault)) ∧
      ∀ after, (c.load catalog tree).value = .ok after →
        c.loadInPlace catalog tree = (after, none) := by
  refine ⟨?_, fun fault fails => ?_, fun after ok => ?_⟩
  · rw [← exists_load_iff_acceptable sorted c]
    cases (c.load catalog tree).value with
    | error fault => exact iff_of_true ⟨fault, rfl⟩ fun ⟨_, absurd⟩ => by cases absurd
    | ok after => exact iff_of_false (fun ⟨_, absurd⟩ => by cases absurd) fun h => h ⟨after, rfl⟩
  · rw [loadInPlace_eq, fails]
  · rw [loadInPlace_eq, ok]

/-- A new state for a knight, in which the coin of the bag has a list in place of its content. -/
def tornBag : Json := .object [
  ("childrenContent", .object [
    ("bag", .object [
      ("childrenContent", .object [("coin", .object [("content", .array [])])]),
      ("content", .object [("size", .string "9")])])]),
  ("content", .object [("motto", .string "none")])]

theorem load_fails_tornBag :
    tornBag.Sorted ∧ ¬ Acceptable knightCatalog tornBag gildedKnight ∧
      ∃ fault, (gildedKnight.load knightCatalog tornBag).value = .error fault ∧
        gildedKnight.loadInPlace knightCatalog tornBag = (gildedKnight, some fault) := by
  have sorted : tornBag.Sorted := by decide
  have refused : (gildedKnight.load knightCatalog tornBag).value.isOk = false := by
    decide +kernel
  obtain ⟨faulty, unchanged, -⟩ := @load_fails_iff knightCatalog tornBag sorted gildedKnight
  cases fails : (gildedKnight.load knightCatalog tornBag).value with
  | ok after =>
    rw [fails] at refused
    cases refused
  | error fault => exact ⟨sorted, faulty.1 ⟨fault, fails⟩, fault, rfl, unchanged fault fails⟩

/-- The copy that is given up has the new content already, and the old coin still. -/
example : (overwrite knightCatalog tornBag (.ofJson tornBag) gildedKnight).1.save = .object [
    ("childrenContent", .object [("bag", .object [
      ("childrenContent", .object [("coin", .object [
        ("childrenContent", .object []), ("content", .object [("face", .string "gold.png")])])]),
      ("content", .object [])])]),
    ("content", .object [("motto", .string "none")])] := by
  decide +kernel

end CompositeObjects.Configuration
