import CompositeObjects.Proofs.Growth

namespace CompositeObjects

namespace Json

/-- The two sections of a saved composite object, each of which may be left out: the entries of an
object, or the items of a list. -/
def sections? : Json → Option (Option Json × Option Json)
  | .object entries => some (Table.get? "content" entries, Table.get? "childrenContent" entries)
  | .array [] => some (none, none)
  | .array [content] => some (some content, none)
  | .array [content, children] => some (some content, some children)
  | _ => none

/-- A section that is there has to be an object. -/
def sectionEntries? : Option Json → Option (Table Json)
  | none => some []
  | some (.object entries) => some entries
  | some _ => none

/-- The entries of the content and the trees of the children, where both sections can be read. -/
def parts? (tree : Json) : Option (Table Json × Table Json) := do
  let (content, children) ← tree.sections?
  some (← sectionEntries? content, ← sectionEntries? children)

theorem parts?_eq_some_iff {tree : Json} {content children : Table Json} :
    tree.parts? = some (content, children) ↔ ∃ first second,
      tree.sections? = some (first, second) ∧ sectionEntries? first = some content ∧
        sectionEntries? second = some children := by
  simp only [parts?, Option.bind_eq_bind, Option.bind_eq_some_iff, Option.some.injEq,
    Prod.mk.injEq, Prod.exists]
  constructor
  · rintro ⟨first, second, hsections, _, hfirst, _, hsecond, rfl, rfl⟩
    exact ⟨first, second, hsections, hfirst, hsecond⟩
  · rintro ⟨first, second, hsections, hfirst, hsecond⟩
    exact ⟨first, second, hsections, content, hfirst, children, hsecond, rfl, rfl⟩

theorem sectionEntries?_eq_some {part : Option Json} {entries : Table Json}
    (h : sectionEntries? part = some entries) :
    part = none ∧ entries = [] ∨ part = some (.object entries) := by
  cases part with
  | none => exact Or.inl ⟨rfl, (Option.some.inj h).symm⟩
  | some value =>
    cases value with
    | object others => exact Or.inr (congrArg (some ∘ object) (Option.some.inj h))
    | _ => cases h

/-- A section that is there stands in the tree. -/
theorem exists_of_section {tree : Json} {first second : Option Json}
    (h : tree.sections? = some (first, second)) {part : Json}
    (here : first = some part ∨ second = some part) :
    (∃ entries key, tree = .object entries ∧ (key, part) ∈ entries) ∨
      ∃ items, tree = .array items ∧ part ∈ items := by
  unfold sections? at h
  split at h
  · rename_i entries
    cases h
    rcases here with here | here
    · exact Or.inl ⟨entries, _, rfl, Table.mem_of_get? here⟩
    · exact Or.inl ⟨entries, _, rfl, Table.mem_of_get? here⟩
  · cases h
    simp at here
  · cases h
    refine Or.inr ⟨_, rfl, ?_⟩
    simp_all
  · cases h
    refine Or.inr ⟨_, rfl, ?_⟩
    simp only [Option.some.injEq] at here
    simpa [eq_comm] using here
  · cases h

theorem section_lt {tree : Json} {first second : Option Json}
    (h : tree.sections? = some (first, second)) {part : Json}
    (here : first = some part ∨ second = some part) : sizeOf part < sizeOf tree := by
  rcases exists_of_section h here with ⟨entries, key, rfl, member⟩ | ⟨items, rfl, member⟩
  · have smaller := List.sizeOf_lt_of_mem member
    simp only [Prod.mk.sizeOf_spec, object.sizeOf_spec] at smaller ⊢
    omega
  · have smaller := List.sizeOf_lt_of_mem member
    simp only [array.sizeOf_spec]
    omega

theorem child_lt {tree : Json} {content children : Table Json}
    (h : tree.parts? = some (content, children)) {e : String × Json} (he : e ∈ children) :
    sizeOf e.2 < sizeOf tree := by
  obtain ⟨first, second, hsections, -, hsecond⟩ := parts?_eq_some_iff.1 h
  rcases sectionEntries?_eq_some hsecond with ⟨-, rfl⟩ | there
  · cases he
  · have smaller := section_lt hsections (Or.inr there)
    have inner := List.sizeOf_lt_of_mem he
    obtain ⟨name, value⟩ := e
    simp only [Prod.mk.sizeOf_spec, object.sizeOf_spec] at smaller inner ⊢
    omega

/-- Induction on a tree by way of the trees of its children. -/
theorem induction_on_children {P : Json → Prop}
    (step : ∀ tree, (∀ content children, tree.parts? = some (content, children) →
      ∀ e ∈ children, P e.2) → P tree) (tree : Json) : P tree := by
  refine step tree fun _ _ parts e he => ?_
  have smaller : sizeOf e.2 < sizeOf tree := child_lt parts he
  exact induction_on_children step e.2
termination_by sizeOf tree

theorem SortedItems.of_mem {items : List Json} (sorted : SortedItems items) {item : Json}
    (h : item ∈ items) : item.Sorted := by
  induction items with
  | nil => cases h
  | cons first rest ih =>
    rcases List.mem_cons.1 h with rfl | h
    · exact sorted.1
    · exact ih sorted.2 h

/-- The trees of the children are in order where the tree is. -/
theorem Sorted.children {tree : Json} (sorted : tree.Sorted) {content children : Table Json}
    (h : tree.parts? = some (content, children)) :
    children.Sorted ∧ ∀ e ∈ children, e.2.Sorted := by
  obtain ⟨first, second, hsections, -, hsecond⟩ := parts?_eq_some_iff.1 h
  rcases sectionEntries?_eq_some hsecond with ⟨-, rfl⟩ | there
  · exact ⟨Table.sorted_nil, fun e he => by cases he⟩
  · have inner : (object children).Sorted := by
      rcases exists_of_section hsections (Or.inr there) with
        ⟨entries, key, rfl, member⟩ | ⟨items, rfl, member⟩
      · exact sortedEntries_iff.1 sorted.2 _ member
      · exact SortedItems.of_mem sorted member
    exact ⟨inner.1, sortedEntries_iff.1 inner.2⟩

end Json

namespace SavedTree

/-- What a section says, where what its entries say is known. A section left out has no entries. -/
def readSection {α : Type} (f : Table Json → α) : Option Json → Except Fault α
  | none => .ok (f [])
  | some (.object entries) => .ok (f entries)
  | some tree => .error (.wrongShape (.ofJson tree) .map)

theorem readSection_of_entries {α : Type} (f : Table Json → α) {part : Option Json}
    {entries : Table Json} (h : Json.sectionEntries? part = some entries) :
    readSection f part = .ok (f entries) := by
  rcases Json.sectionEntries?_eq_some h with ⟨rfl, rfl⟩ | rfl <;> rfl

theorem readSection_faulty {α : Type} (f : Table Json → α) {part : Option Json}
    (h : Json.sectionEntries? part = none) : ∃ fault, readSection f part = .error fault := by
  cases part with
  | none => cases h
  | some tree =>
    cases tree with
    | object entries => cases h
    | _ => exact ⟨_, rfl⟩

theorem contentOf_eq (tree : Json) : contentOf tree = readSection .ofEntries (some tree) := by
  cases tree <;> rfl

theorem childrenOf_eq (tree : Json) : childrenOf tree = readSection childTrees (some tree) := by
  cases tree <;> rfl

theorem childrenEntry_eq (entries : List (String × Json)) :
    childrenEntry entries = readSection childTrees (Table.get? "childrenContent" entries) := by
  induction entries with
  | nil => rfl
  | cons e rest ih =>
    obtain ⟨key, tree⟩ := e
    rw [childrenEntry, Table.get?]
    split
    · exact childrenOf_eq tree
    · exact ih

theorem contentEntry_eq (part : Option Json) :
    (part.map contentOf).getD (.ok .empty) = readSection .ofEntries part := by
  cases part with
  | none => rfl
  | some tree => exact contentOf_eq tree

/-- A list is read item by item, as far as it goes. -/
theorem ofJson_array {content : Json} {rest : List Json} :
    ofJson (.array (content :: rest)) = ofItems (readSection .ofEntries (some content))
      (readSection childTrees rest.head?) (rest.length + 1) := by
  cases rest with
  | nil =>
    rw [ofJson, contentOf_eq]
    rfl
  | cons children more =>
    rw [ofJson, contentOf_eq, childrenOf_eq]
    rfl

theorem ofJson_object (entries : List (String × Json)) :
    ofJson (.object entries) = ofParts (readSection .ofEntries (Table.get? "content" entries))
      (readSection childTrees (Table.get? "childrenContent" entries)) := by
  rw [ofJson, contentEntry_eq, childrenEntry_eq]

theorem ofParts_faulty {content : Except Fault Content}
    {children : Except Fault (List (String × Json × SavedTree))}
    (h : (∃ fault, content = .error fault) ∨ ∃ fault, children = .error fault) :
    ∃ kept fault, ofParts content children = .malformed kept fault := by
  cases children with
  | error fault => exact ⟨_, _, rfl⟩
  | ok trees =>
    obtain ⟨fault, rfl⟩ := h.resolve_right (by simp)
    exact ⟨_, _, rfl⟩

theorem ofItems_faulty {content : Except Fault Content}
    {children : Except Fault (List (String × Json × SavedTree))} {length : Nat}
    (h : (∃ fault, content = .error fault) ∨ (∃ fault, children = .error fault) ∨ 2 < length) :
    ∃ kept fault, ofItems content children length = .malformed kept fault := by
  cases content with
  | error fault => exact ⟨_, _, rfl⟩
  | ok c =>
    cases children with
    | error fault => exact ⟨_, _, rfl⟩
    | ok trees =>
      have tooLong : length > 2 := by simpa using h
      exact ⟨c.kept.keys, .tooLong length, if_pos tooLong⟩

/-- A tree with both parts says what they say. -/
theorem ofJson_of_parts {tree : Json} {content children : Table Json}
    (h : tree.parts? = some (content, children)) :
    ofJson tree = .composite (.ofEntries content) (childTrees children) := by
  obtain ⟨first, second, hsections, hfirst, hsecond⟩ := Json.parts?_eq_some_iff.1 h
  have readFirst := readSection_of_entries Content.ofEntries hfirst
  have readSecond := readSection_of_entries childTrees hsecond
  unfold Json.sections? at hsections
  split at hsections
  · cases hsections
    rw [ofJson_object, readFirst, readSecond]
    rfl
  · cases hsections
    cases hfirst
    cases hsecond
    rfl
  · cases hsections
    rw [ofJson_array, readFirst, List.head?_nil, readSecond]
    rfl
  · cases hsections
    rw [ofJson_array, readFirst, List.head?_cons, readSecond]
    rfl
  · cases hsections

theorem readSection_faulty_of_no_parts {tree : Json} (h : tree.parts? = none)
    {first second : Option Json} (hsections : tree.sections? = some (first, second)) :
    (∃ fault, readSection Content.ofEntries first = .error fault) ∨
      ∃ fault, readSection childTrees second = .error fault := by
  cases hfirst : Json.sectionEntries? first with
  | none => exact Or.inl (readSection_faulty _ hfirst)
  | some content =>
    cases hsecond : Json.sectionEntries? second with
    | none => exact Or.inr (readSection_faulty _ hsecond)
    | some children =>
      have both := Json.parts?_eq_some_iff.2 ⟨first, second, hsections, hfirst, hsecond⟩
      rw [h] at both
      cases both

/-- Any other tree has a fault. -/
theorem ofJson_of_no_parts {tree : Json} (h : tree.parts? = none) :
    ∃ kept fault, ofJson tree = .malformed kept fault := by
  match tree with
  | .object entries =>
    rw [ofJson_object]
    exact ofParts_faulty (readSection_faulty_of_no_parts h rfl)
  | .array [] => cases h
  | .array [content] =>
    rw [ofJson_array]
    exact ofItems_faulty ((readSection_faulty_of_no_parts h rfl).imp_right Or.inl)
  | .array [content, children] =>
    rw [ofJson_array]
    exact ofItems_faulty ((readSection_faulty_of_no_parts h rfl).imp_right Or.inl)
  | .array (content :: children :: third :: rest) =>
    rw [ofJson_array]
    exact ofItems_faulty (Or.inr (Or.inr (by simp)))
  | .null | .bool _ | .number _ | .string _ => exact ⟨_, _, rfl⟩

end SavedTree

namespace Configuration

variable {catalog : Catalog}

theorem load_verbatim (typeName : String) (old tree : Json) :
    ((Configuration.verbatim typeName old).load catalog tree).value =
      .ok (.verbatim typeName tree) := take_verbatim ..

theorem load_of_no_parts (catalog : Catalog) (node : Composite Configuration) {tree : Json}
    (h : tree.parts? = none) :
    ∃ fault, ((Configuration.composite node).load catalog tree).value = .error fault := by
  obtain ⟨kept, fault, malformed⟩ := SavedTree.ofJson_of_no_parts h
  rw [load, malformed]
  exact ⟨fault, take_malformed ..⟩

theorem load_of_unresolved {node : Composite Configuration} {tree : Json}
    {content children : Table Json} (h : tree.parts? = some (content, children))
    (unknown : catalog.type? node.typeName = none) :
    ((Configuration.composite node).load catalog tree).value =
      .ok (.composite { node with content := .ofEntries content, parked := children }) := by
  rw [load, SavedTree.ofJson_of_parts h, take_unresolved _ _ _ unknown, SavedTree.map_childTrees]

theorem load_of_resolved {node : Composite Configuration} {type : ObjectType} {tree : Json}
    {content children : Table Json} (h : tree.parts? = some (content, children))
    (known : catalog.type? node.typeName = some type) :
    ((Configuration.composite node).load catalog tree).value =
      (takeChildren catalog node.typeName type (SavedTree.childTrees children)
        node.children).value.map fun made =>
          .composite { node with content := .ofEntries content, children := made, parked := [] } := by
  rw [load, SavedTree.ofJson_of_parts h, take_resolved _ _ _ known]

/-- All that a load can do to a composite object. -/
theorem load_eq_ok {node : Composite Configuration} {tree : Json} {after : Configuration}
    (ok : ((Configuration.composite node).load catalog tree).value = .ok after) :
    ∃ content trees, tree.parts? = some (content, trees) ∧
      (catalog.type? node.typeName = none ∧
          after = .composite { node with content := .ofEntries content, parked := trees } ∨
        ∃ type children, catalog.type? node.typeName = some type ∧
          (takeChildren catalog node.typeName type (SavedTree.childTrees trees)
            node.children).value = .ok children ∧
          after = .composite { node with content := .ofEntries content, children, parked := [] }) := by
  cases parts : tree.parts? with
  | none =>
    obtain ⟨fault, fails⟩ := load_of_no_parts catalog node parts
    rw [fails] at ok
    cases ok
  | some both =>
    obtain ⟨content, trees⟩ := both
    refine ⟨content, trees, rfl, ?_⟩
    cases known : catalog.type? node.typeName with
    | none =>
      rw [load_of_unresolved parts known] at ok
      cases ok
      exact Or.inl ⟨rfl, rfl⟩
    | some type =>
      rw [load_of_resolved parts known] at ok
      cases taken : (takeChildren catalog node.typeName type (SavedTree.childTrees trees)
          node.children).value with
      | error fault =>
        rw [taken] at ok
        cases ok
      | ok children =>
        rw [taken] at ok
        cases ok
        exact Or.inr ⟨type, children, rfl, taken, rfl⟩

/-- The tree that is loaded into a child, and how the type declares the child: there has to be a
tree under the name, and a declaration. -/
def assigned? (type : ObjectType) (trees : Table Json) (name : String) : Option (Child × Json) := do
  let declared ← type.child? name
  let tree ← trees.get? name
  some (declared, tree)

theorem assigned?_eq_some_iff {type : ObjectType} {trees : Table Json} {name : String}
    {declared : Child} {tree : Json} :
    assigned? type trees name = some (declared, tree) ↔
      type.child? name = some declared ∧ trees.get? name = some tree := by
  simp [assigned?, Option.bind_eq_some_iff]

/-- What loading trees makes of the children of an object. -/
structure TakenOver (catalog : Catalog) (type : ObjectType) (trees : Table Json)
    (before after : Table Configuration) : Prop where
  sorted : before.Sorted → after.Sorted
  others : ∀ name, assigned? type trees name = none → after.get? name = before.get? name
  loaded : ∀ name declared tree, assigned? type trees name = some (declared, tree) →
    ∃ child, after.get? name = some child ∧
      ((startingChild before declared).load catalog tree).value = .ok child

theorem assigned?_cons (type : ObjectType) (e : String × Json) (rest : Table Json)
    (name : String) : assigned? type (e :: rest) name =
      if e.1 = name then (type.child? name).map (·, e.2) else assigned? type rest name := by
  by_cases h : e.1 = name <;> cases found : type.child? name <;>
    simp [assigned?, found, Table.get?, h]

/-- A child is made without touching what the others start from. -/
theorem startingChild_of_assigned {type : ObjectType} {rest : Table Json} {name other : String}
    {tree : Json} {declared : Child} (fresh : name ∉ rest.map (·.1))
    (h : assigned? type rest other = some (declared, tree)) (child : Configuration)
    (children : Table Configuration) :
    startingChild (children.insert name child) declared = startingChild children declared := by
  obtain ⟨found, there⟩ := assigned?_eq_some_iff.1 h
  refine startingChild_insert_of_ne ?_ child children
  rw [(ObjectType.child?_eq_some found).2]
  rintro rfl
  exact fresh (List.mem_map.2 ⟨_, Table.mem_of_get? there, rfl⟩)

theorem assigned?_eq_none_of_fresh (type : ObjectType) {rest : Table Json} {name : String}
    (fresh : name ∉ rest.map (·.1)) : assigned? type rest name = none := by
  have absent : rest.get? name = none := Table.get?_eq_none_iff.2 fresh
  cases found : type.child? name <;> simp [assigned?, found, absent]

theorem takenOver_of_takeChildren (typeName : String) {type : ObjectType} {trees : Table Json}
    (nodup : (trees.map (·.1)).Nodup) {before after : Table Configuration}
    (ok : (takeChildren catalog typeName type (SavedTree.childTrees trees) before).value =
      .ok after) : TakenOver catalog type trees before after := by
  induction trees generalizing before with
  | nil =>
    rw [SavedTree.childTrees, takeChildren_nil] at ok
    cases ok
    exact ⟨id, fun _ _ => rfl, fun name declared tree h => by simp [assigned?] at h⟩
  | cons e rest ih =>
    obtain ⟨name, tree⟩ := e
    obtain ⟨fresh, nodup⟩ := List.nodup_cons.1 nodup
    have unassigned := assigned?_eq_none_of_fresh type fresh
    rw [SavedTree.childTrees] at ok
    cases found : type.child? name with
    | none =>
      rw [takeChildren_undeclared typeName found] at ok
      have h := ih nodup ok
      have same (other : String) :
          assigned? type ((name, tree) :: rest) other = assigned? type rest other := by
        rw [assigned?_cons]
        split
        · rename_i hname
          rw [← hname, found, unassigned]
          rfl
        · rfl
      refine ⟨h.sorted, fun other none => ?_, fun other declared sub some => ?_⟩
      · exact h.others other (same other ▸ none)
      · exact h.loaded other declared sub (same other ▸ some)
    | some declared =>
      rw [takeChildren_declared typeName found] at ok
      cases done : (take catalog tree (.ofJson tree) (startingChild before declared)).value with
      | error fault =>
        rw [done] at ok
        cases ok
      | ok child =>
        rw [done] at ok
        have h := ih nodup ok
        refine ⟨fun sorted => h.sorted (Table.sorted_insert _ _ sorted), fun other none => ?_,
          fun other d sub some => ?_⟩
        · rw [assigned?_cons] at none
          split at none
          · rename_i hname
            rw [← hname, found] at none
            cases none
          · rename_i hname
            rw [h.others other none, Table.get?_insert_of_ne (Ne.symm hname)]
        · rw [assigned?_cons] at some
          split at some
          · rename_i hname
            rw [← hname, found] at some
            cases some
            refine ⟨child, ?_, done⟩
            rw [← hname, h.others name unassigned, Table.get?_insert_self]
          · obtain ⟨made, there, loads⟩ := h.loaded other d sub some
            rw [startingChild_of_assigned fresh some] at loads
            exact ⟨made, there, loads⟩

/-- The children take over their trees where each tree loads into what its child starts from. -/
theorem exists_takeChildren (typeName : String) {type : ObjectType} {trees : Table Json}
    (nodup : (trees.map (·.1)).Nodup) {before : Table Configuration}
    (each : ∀ name declared tree, assigned? type trees name = some (declared, tree) →
      ∃ child, ((startingChild before declared).load catalog tree).value = .ok child) :
    ∃ after, (takeChildren catalog typeName type (SavedTree.childTrees trees) before).value =
      .ok after := by
  induction trees generalizing before with
  | nil => exact ⟨before, takeChildren_nil ..⟩
  | cons e rest ih =>
    obtain ⟨name, tree⟩ := e
    obtain ⟨fresh, nodup⟩ := List.nodup_cons.1 nodup
    have deeper (other : String) (p : Child × Json) (h : assigned? type rest other = some p) :
        assigned? type ((name, tree) :: rest) other = some p := by
      have hne : name ≠ other := by
        rintro rfl
        rw [assigned?_eq_none_of_fresh type fresh] at h
        cases h
      rw [assigned?_cons, if_neg hne]
      exact h
    rw [SavedTree.childTrees]
    cases found : type.child? name with
    | none =>
      rw [takeChildren_undeclared typeName found]
      exact ih nodup fun other d sub h => each other d sub (deeper other (d, sub) h)
    | some declared =>
      have first : assigned? type ((name, tree) :: rest) name = some (declared, tree) := by
        rw [assigned?_cons, if_pos rfl, found]
        rfl
      obtain ⟨child, done⟩ := each name declared tree first
      have taken : (take catalog tree (.ofJson tree) (startingChild before declared)).value =
          .ok child := done
      rw [takeChildren_declared typeName found, taken]
      refine ih nodup fun other d sub h => ?_
      rw [startingChild_of_assigned fresh h]
      exact each other d sub (deeper other (d, sub) h)

/-- An object of a known type that has taken over a tree: its content is that of the tree, nothing
is kept aside, and its children have taken over their trees. -/
theorem exists_of_load {node : Composite Configuration} {type : ObjectType} {tree : Json}
    {content trees : Table Json} (parts : tree.parts? = some (content, trees))
    (sorted : trees.Sorted) (known : catalog.type? node.typeName = some type)
    {after : Configuration} (ok : ((Configuration.composite node).load catalog tree).value =
      .ok after) :
    ∃ children, after = .composite { node with
        content := .ofEntries content, children, parked := [] } ∧
      TakenOver catalog type trees node.children children := by
  obtain ⟨content', trees', parts', ⟨unknown, -⟩ | ⟨type', children, known', done, rfl⟩⟩ :=
    load_eq_ok ok
  · rw [known] at unknown
    cases unknown
  · rw [parts] at parts'
    cases parts'
    rw [known] at known'
    cases known'
    exact ⟨children, rfl, takenOver_of_takeChildren _ (Table.nodup_of_sorted sorted) done⟩

/-- Nothing else is needed for a tree to be taken over. -/
theorem exists_load {node : Composite Configuration} {type : ObjectType} {tree : Json}
    {content trees : Table Json} (parts : tree.parts? = some (content, trees))
    (sorted : trees.Sorted) (known : catalog.type? node.typeName = some type)
    (each : ∀ name declared sub, assigned? type trees name = some (declared, sub) →
      ∃ child, ((startingChild node.children declared).load catalog sub).value = .ok child) :
    ∃ after, ((Configuration.composite node).load catalog tree).value = .ok after := by
  obtain ⟨children, done⟩ := exists_takeChildren node.typeName (Table.nodup_of_sorted sorted) each
  rw [load_of_resolved parts known, done]
  exact ⟨_, rfl⟩

end Configuration
end CompositeObjects
