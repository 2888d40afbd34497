import CompositeObjects.ProjectFile
import CompositeObjects.Proofs.Termination

namespace CompositeObjects

namespace Traced

variable {α β : Type}

/-- One call after the other, where either of them may have no end. -/
def andThen (x : Option (Traced α)) (f : α → Option (Traced β)) : Option (Traced β) :=
  x.bind fun t => (f t.value).map fun u => ⟨u.value, t.events ++ u.events⟩

theorem andThen_eq {t : Traced α} {f : α → Option (Traced β)} {g : α → Traced β}
    (h : f t.value = some (g t.value)) : andThen (some t) f = some (t >>= g) := by
  rw [andThen, Option.bind_some, h]
  rfl

theorem andThen_pure (x : α) (f : α → Option (Traced β)) : andThen (some (pure x)) f = f x := by
  simp [andThen]

end Traced

open Traced (andThen)

/-- A way to load trees that may have no end. -/
abbrev Loading := Configuration → Json → Option (Traced (Except Fault Configuration))

/-- A new child, for which trees are loaded in the given way. -/
def newChildBy (load : Loading) (declared : Child) (parked : Option Json) :
    Option (Traced Configuration) :=
  match parked with
  | none => some (pure declared.default)
  | some tree => andThen (load declared.default tree) fun
    | .ok child => some (pure child)
    | .error fault => some do
      Traced.tell (.droppedTree declared.name fault)
      pure declared.default

namespace Composite

/-- Makes a child, for which trees are loaded in the given way. -/
def makeChildBy (load : Loading) (catalog : Catalog) (c : Composite Configuration)
    (name : String) : Option (Traced (Except LookupError (Configuration × Composite Configuration))) :=
  match catalog.type? c.typeName with
  | none => some (pure (.error (.unresolvedType c.typeName)))
  | some type =>
    match type.child? name with
    | none => some (pure (.error (.undeclaredChild c.typeName name)))
    | some declared =>
      match c.child? name with
      | some child => some (pure (.ok (child, c)))
      | none => andThen (newChildBy load declared (Table.get? name c.parked)) fun child =>
        some (pure (.ok (child, { c with
          children := Table.insert name child c.children
          parked := Table.erase name c.parked })))

/-- Gives out a child, for which trees are loaded in the given way. -/
def lookupBy (load : Loading) (catalog : Catalog) (c : Composite Configuration) (name : String) :
    Option (Traced (Except LookupError (Configuration × Composite Configuration))) :=
  andThen (c.makeChildBy load catalog name) fun
    | .ok found => some (pure (.ok found))
    | .error error => some do
      Traced.tell (.failedLookup error)
      pure (.error error)

/-- Each tree is loaded into the child of its name in the given way, once that child is made. -/
def loadChildrenBy (load : Loading) (catalog : Catalog) :
    List (String × Json) → Composite Configuration →
      Option (Traced (Except Fault (Composite Configuration)))
  | [], node => some (pure (.ok node))
  | (name, tree) :: rest, node => andThen (node.makeChildBy load catalog name) fun
    | .error error => andThen (some (Traced.tell (.ignoredChild error))) fun _ =>
      loadChildrenBy load catalog rest node
    | .ok (child, node) => andThen (load child tree) fun
      | .error fault => some (pure (.error fault))
      | .ok child => loadChildrenBy load catalog rest (node.withChild name child)

end Composite

namespace Configuration

/-- A load that goes no deeper than so many calls of itself: for the trees of the children, and for
trees that were kept aside for children that are made on the way. -/
def loadWithin (catalog : Catalog) : Nat → Loading
  | _, .verbatim typeName _, tree => some (pure (.ok (.verbatim typeName tree)))
  | 0, .composite _, _ => none
  | depth + 1, .composite node, tree =>
    match SavedTree.ofJson tree with
    | .malformed kept fault => some ⟨.error fault, kept.map .keptEntry⟩
    | .composite content trees => andThen (some ⟨(), content.keptEvents⟩) fun _ =>
      let trees := trees.map fun t => (t.1, t.2.1)
      match catalog.type? node.typeName with
      | none => some do
        Traced.tell (.parkedChildren trees.length node.typeName)
        pure (.ok (.composite { node with content, parked := trees }))
      | some _ => andThen (Composite.loadChildrenBy (loadWithin catalog depth) catalog trees
          { node with content, parked := [] }) fun node => some (pure (node.map .composite))

end Configuration

theorem newChildBy_eq {load : Loading} {catalog : Catalog} {declared : Child} {parked : Option Json}
    (loads : ∀ tree, parked = some tree →
      load declared.default tree = some (declared.default.load catalog tree)) :
    newChildBy load declared parked = some (newChild catalog declared parked) := by
  cases parked with
  | none => rfl
  | some tree =>
    rw [newChildBy, loads tree rfl, newChild]
    refine Traced.andThen_eq ?_
    cases (declared.default.load catalog tree).value <;> rfl

namespace Composite

variable {load : Loading} {catalog : Catalog} {node : Composite Configuration}

theorem makeChildBy_eq {name : String} (loads : ∀ c tree, Table.get? name node.parked = some tree →
      load c tree = some (c.load catalog tree)) :
    node.makeChildBy load catalog name = some (node.makeChild catalog name) := by
  cases known : catalog.type? node.typeName with
  | none => simp only [makeChildBy, makeChild, known]
  | some type =>
    cases found : type.child? name with
    | none => simp only [makeChildBy, makeChild, known, found]
    | some declared =>
      cases made : node.child? name with
      | some child => simp only [makeChildBy, makeChild, known, found, made]
      | none =>
        have new : newChildBy load declared (Table.get? name node.parked) =
            some (newChild catalog declared (Table.get? name node.parked)) :=
          newChildBy_eq (loads declared.default)
        simp only [makeChildBy, makeChild, known, found, made, new]
        refine Traced.andThen_eq ?_
        rfl

theorem lookupBy_eq {name : String} (loads : ∀ c tree, Table.get? name node.parked = some tree →
      load c tree = some (c.load catalog tree)) :
    node.lookupBy load catalog name = some (node.lookup catalog name) := by
  rw [lookupBy, makeChildBy_eq loads, lookup]
  refine Traced.andThen_eq ?_
  cases (node.makeChild catalog name).value <;> rfl

/-- Where nothing is kept aside, a child is made of its default alone. -/
theorem exists_makeChild {type : ObjectType} (known : catalog.type? node.typeName = some type)
    (unparked : node.parked = []) {name : String} {declared : Child}
    (found : type.child? name = some declared) : ∃ node', node.makeChild catalog name =
        pure (.ok (startingChild node.children declared, node')) ∧
      ∀ child, node'.withChild name child = node.withChild name child := by
  rw [startingChild_of_child? found]
  cases made : node.child? name with
  | some child =>
    have there : Table.get? name node.children = some child := made
    refine ⟨node, ?_, fun _ => rfl⟩
    simp only [makeChild, known, found, made, there, Option.getD_some]
  | none =>
    have absent : Table.get? name node.children = none := made
    refine ⟨{ node with
      children := Table.insert name declared.default node.children
      parked := [] }, ?_, fun child => ?_⟩
    · simp only [makeChild, known, found, made, absent, Option.getD_none, unparked]
      rfl
    · simp only [withChild, Table.insert_insert, unparked]

/-- Where nothing is kept aside, the trees of the children are all that is loaded. -/
theorem loadChildrenBy_eq {type : ObjectType} (known : catalog.type? node.typeName = some type)
    (unparked : node.parked = []) {trees : List (String × Json)}
    (loads : ∀ e ∈ trees, ∀ c, load c e.2 = some (c.load catalog e.2)) :
    loadChildrenBy load catalog trees node =
      some ((Except.map fun children => { node with children }) <$>
        takeChildren catalog node.typeName type (SavedTree.childTrees trees) node.children) := by
  induction trees generalizing node with
  | nil => rfl
  | cons e rest ih =>
    obtain ⟨name, tree⟩ := e
    have others := fun e he => loads e (List.mem_cons_of_mem _ he)
    have makes : node.makeChildBy load catalog name = some (node.makeChild catalog name) := by
      refine makeChildBy_eq fun c tree parked => ?_
      rw [unparked] at parked
      cases parked
    rw [loadChildrenBy, makes, SavedTree.childTrees, takeChildren]
    cases found : type.child? name with
    | none =>
      have refused : node.makeChild catalog name =
          pure (.error (.undeclaredChild node.typeName name)) := by
        simp only [makeChild, known, found]
      rw [refused, Traced.andThen_pure, map_bind]
      refine Traced.andThen_eq ?_
      exact ih known unparked others
    | some declared =>
      obtain ⟨node', made, back⟩ : ∃ node', node.makeChild catalog name =
          pure (.ok (startingChild node.children declared, node')) ∧
            ∀ child, node'.withChild name child = node.withChild name child :=
        exists_makeChild known unparked found
      rw [made, Traced.andThen_pure]
      dsimp only
      rw [loads (name, tree) List.mem_cons_self, map_bind]
      refine Traced.andThen_eq ?_
      dsimp only [Configuration.load]
      cases (Configuration.take catalog tree (.ofJson tree)
          (startingChild node.children declared)).value with
      | error fault => rfl
      | ok child =>
        dsimp only
        rw [back child]
        exact @ih (node.withChild name child) known unparked others

end Composite

namespace Configuration

theorem treeWeight_object (entries : List (String × Json)) :
    treeWeight (.object entries) = 1 + treeWeights entries := by
  rw [treeWeight]

theorem treeWeight_array (items : List Json) :
    treeWeight (.array items) = 1 + itemWeights items := by
  rw [treeWeight]

theorem one_le_treeWeight (tree : Json) : 1 ≤ treeWeight tree := by
  cases tree with
  | object entries => rw [treeWeight_object]; omega
  | array items => rw [treeWeight_array]; omega
  | _ => exact Nat.le_refl 1

theorem treeWeight_le_treeWeights {entries : List (String × Json)} {e : String × Json}
    (he : e ∈ entries) : treeWeight e.2 ≤ treeWeights entries := by
  induction entries with
  | nil => cases he
  | cons first rest ih =>
    rw [treeWeights]
    rcases List.mem_cons.1 he with rfl | he
    · exact Nat.le_add_right ..
    · exact Nat.le_trans (ih he) (Nat.le_add_left ..)

theorem treeWeight_le_itemWeights {items : List Json} {item : Json} (h : item ∈ items) :
    treeWeight item ≤ itemWeights items := by
  induction items with
  | nil => cases h
  | cons first rest ih =>
    rw [itemWeights]
    rcases List.mem_cons.1 h with rfl | h
    · exact Nat.le_add_right ..
    · exact Nat.le_trans (ih h) (Nat.le_add_left ..)

/-- The tree of a child has fewer nodes than the one in which it stands. -/
theorem treeWeight_child_lt {tree : Json} {content children : Table Json}
    (h : tree.parts? = some (content, children)) {e : String × Json} (he : e ∈ children) :
    treeWeight e.2 < treeWeight tree := by
  obtain ⟨first, second, hsections, -, hsecond⟩ := Json.parts?_eq_some_iff.1 h
  rcases Json.sectionEntries?_eq_some hsecond with ⟨-, rfl⟩ | there
  · cases he
  · have inner : treeWeight e.2 ≤ treeWeights children := treeWeight_le_treeWeights he
    have around := treeWeight_object children
    have outer : treeWeight (.object children) < treeWeight tree := by
      rcases Json.exists_of_section hsections (Or.inr there) with
        ⟨entries, key, rfl, member⟩ | ⟨items, rfl, member⟩
      · have part := treeWeight_le_treeWeights member
        rw [treeWeight_object entries]
        dsimp only at part
        omega
      · have part := treeWeight_le_itemWeights member
        rw [treeWeight_array]
        omega
    omega

variable {catalog : Catalog}

/-- No load goes deeper than its tree has nodes, whatever the defaults are that it makes children
of. -/
theorem loadWithin_eq {depth : Nat} {tree : Json} (deep : treeWeight tree ≤ depth)
    (c : Configuration) : loadWithin catalog depth c tree = some (c.load catalog tree) := by
  induction depth generalizing tree c with
  | zero =>
    have one := one_le_treeWeight tree
    omega
  | succ depth ih =>
    cases c with
    | verbatim typeName old =>
      rw [loadWithin, load, take]
    | composite node =>
      cases h : tree.parts? with
      | none =>
        obtain ⟨kept, fault, malformed⟩ := SavedTree.ofJson_of_no_parts h
        simp only [loadWithin, load, take, malformed]
      | some parts =>
        obtain ⟨content, children⟩ := parts
        have read := SavedTree.ofJson_of_parts h
        have loads : ∀ e ∈ children, ∀ c, loadWithin catalog depth c e.2 =
            some (c.load catalog e.2) := by
          intro e he c
          have lighter := treeWeight_child_lt h he
          exact ih (by omega) c
        rw [loadWithin, load, read, take]
        dsimp only
        rw [SavedTree.map_childTrees]
        refine Traced.andThen_eq ?_
        cases known : catalog.type? node.typeName with
        | none =>
          have count : (SavedTree.childTrees children).length = children.length := by
            rw [SavedTree.childTrees_eq_map, List.length_map]
          dsimp only
          rw [count]
        | some type =>
          let bare : Composite Configuration :=
            { node with content := .ofEntries content, parked := [] }
          have knownBare : catalog.type? bare.typeName = some type := known
          have made := Composite.loadChildrenBy_eq knownBare rfl loads
          have composed (r : Except Fault (Table Configuration)) :
              (r.map fun children => { bare with children }).map composite =
                r.map fun children => .composite { bare with children } := by
            cases r <;> rfl
          dsimp only
          rw [made]
          refine (@Traced.andThen_eq _ _ _ _ (fun node => pure (node.map composite)) rfl).trans ?_
          rw [bind_map_left]
          simp only [composed]
          rfl

end Configuration

namespace ProjectFile

open CompositeObjects.Configuration

/-- The second pass of the loader, where no load goes deeper than so many calls. -/
def fillWithin (depth : Nat) (declared : Catalog) :
    List PendingChild → Catalog → Option (Traced (Except ProjectError Catalog))
  | [], catalog => some (pure (.ok catalog))
  | next :: rest, catalog =>
    match (catalog.type? next.owner).bind (·.child? next.child) with
    | none => fillWithin depth declared rest catalog
    | some child => andThen (loadWithin declared depth child.default next.tree) fun
      | .error fault => some (pure (.error (.invalidChild next.owner next.child fault)))
      | .ok loaded => fillWithin depth declared rest
          (catalog.modify next.owner (·.updateDefault next.child loaded))

/-- The catalog of a file, where no load goes deeper than so many calls. -/
def catalogWithin (file : ProjectFile) (depth : Nat) :
    Option (Traced (Except ProjectError Catalog)) :=
  match file.declare with
  | .error name => some (pure (.error (.duplicateType name)))
  | .ok declared => andThen (fillWithin depth declared file.pending declared) fun
    | .error error => some (pure (.error error))
    | .ok catalog => some do
      Traced.tell (.loadedProject catalog.entries.length)
      pure (.ok catalog)

theorem fillWithin_eq {depth : Nat} {declared : Catalog} {pending : List PendingChild}
    (deep : ∀ p ∈ pending, treeWeight p.tree ≤ depth) (catalog : Catalog) :
    fillWithin depth declared pending catalog = some (fill declared pending catalog) := by
  induction pending generalizing catalog with
  | nil => rfl
  | cons next rest ih =>
    have others : ∀ p ∈ rest, treeWeight p.tree ≤ depth :=
      fun p hp => deep p (List.mem_cons_of_mem _ hp)
    rw [fillWithin, fill]
    cases (catalog.type? next.owner).bind (·.child? next.child) with
    | none => exact ih others catalog
    | some child =>
      dsimp only
      rw [loadWithin_eq (deep next List.mem_cons_self)]
      refine Traced.andThen_eq ?_
      cases (child.default.load declared next.tree).value with
      | error fault => rfl
      | ok loaded => exact ih others _

theorem catalogWithin_eq {file : ProjectFile} {depth : Nat}
    (deep : ∀ p ∈ file.pending, treeWeight p.tree ≤ depth) :
    file.catalogWithin depth = some file.catalog := by
  rw [catalogWithin, catalog]
  cases file.declare with
  | error name => rfl
  | ok declared =>
    dsimp only
    rw [fillWithin_eq deep]
    refine Traced.andThen_eq ?_
    cases (fill declared file.pending declared).value <;> rfl

end ProjectFile

namespace Configuration

/-- The lookup of a child, where no load goes deeper than so many calls. -/
def lookupWithin (catalog : Catalog) (depth : Nat) (node : Composite Configuration)
    (name : String) : Option (Traced (Except LookupError
      (Configuration × Composite Configuration))) :=
  node.lookupBy (loadWithin catalog depth) catalog name

/-- To load a tree, to look up a child, for which a tree that was kept aside is used up, and to load
a project takes no more calls within each other than the trees have nodes, also where types are
within themselves. A walk of a configuration that operations make, or of one within it, comes to its
end where no type is within itself of those that it can come to. -/
theorem operations_end :
    (∀ (catalog : Catalog) (c : Configuration) (tree : Json) (depth : Nat),
      treeWeight tree ≤ depth → loadWithin catalog depth c tree = some (c.load catalog tree)) ∧
    (∀ (catalog : Catalog) (node : Composite Configuration) (name : String) (depth : Nat),
      treeWeights node.parked ≤ depth →
        lookupWithin catalog depth node name = some (node.lookup catalog name)) ∧
    (∀ (file : ProjectFile) (depth : Nat), (∀ p ∈ file.pending, treeWeight p.tree ≤ depth) →
      file.catalogWithin depth = some file.catalog) ∧
    ∀ catalog : Catalog, catalog.Accepted → ∀ (typeName : String) (c : Configuration),
      Reachable catalog (.composite (.fresh typeName)) c →
      ∀ (path : List String) (inner : Configuration), c.at? catalog path = some inner →
        catalog.AcyclicFrom inner.typeName →
        ∀ {σ : Type} (walker : Walker σ) (s : σ), ∃ r, inner.walk catalog walker s = some r := by
  refine ⟨fun catalog c tree depth deep => loadWithin_eq deep c, ?_,
    fun file depth deep => ProjectFile.catalogWithin_eq deep, ?_⟩
  · intro catalog node name depth deep
    refine Composite.lookupBy_eq fun c tree parked => ?_
    have among : treeWeight tree ≤ treeWeights node.parked :=
      treeWeight_le_treeWeights (Table.mem_of_get? parked)
    exact loadWithin_eq (Nat.le_trans among deep) c
  · intro catalog accepted typeName c run path inner found acyclic σ walker s
    have settled := accepted.settled
    have wt : WellTyped catalog inner :=
      (wellTyped_of_run accepted run).at? settled.defaults found
    exact exists_walk_of_wellTyped settled wt acyclic walker s

/-- A project with nests, each of which holds a nest and an egg, and with eggs that have a shell. -/
def nestProject : Json := .object [("extensions", .array [.object [
  ("eventsBasedObjects", .array [
    .object [("name", .string "Nest"), ("objects", .array [
      .object [
        ("childrenContent", .object [("inner", .object [])]), ("name", .string "inner"),
        ("type", .string "Game::Nest")],
      .object [("name", .string "egg"), ("type", .string "Game::Egg")]])],
    .object [("name", .string "Egg"), ("objects", .array [
      .object [("name", .string "shell"), ("type", .string "Game::Shell")]])],
    .object [("name", .string "Shell")]]),
  ("name", .string "Game")]])]

def nestFile : ProjectFile :=
  match ProjectFile.decoder.fromJson nestProject with
  | .ok file => file
  | .error _ => ⟨[]⟩

def nestCatalog : Catalog :=
  match (Catalog.ofJson nestProject).value with
  | .ok catalog => catalog
  | .error _ => .empty

theorem accepted_nestCatalog : nestCatalog.Accepted := by
  have ok : (Catalog.ofJson nestProject).value.isOk = true := by decide +kernel
  obtain ⟨catalog, read⟩ := exists_of_isOk ok
  refine Or.inr ⟨nestProject, ?_⟩
  rw [nestCatalog, read]

/-- Nests hold nests. -/
theorem holds_nest : nestCatalog.Holds "Game::Nest" "Game::Nest" := by
  have held : ((nestCatalog.type? "Game::Nest").bind fun type => (type.child? "inner").bind
      fun declared => declared.default.node?.map Composite.typeName) = some "Game::Nest" := by
    decide +kernel
  obtain ⟨type, known, held⟩ := Option.bind_eq_some_iff.1 held
  obtain ⟨declared, found, held⟩ := Option.bind_eq_some_iff.1 held
  obtain ⟨node, default, same⟩ := Option.map_eq_some_iff.1 held
  have composite : declared.default = .composite node := by
    cases kind : declared.default with
    | verbatim typeName tree =>
      rw [kind] at default
      cases default
    | composite other =>
      rw [kind] at default
      cases default
      rfl
  exact ⟨type, known, declared, (ObjectType.child?_eq_some found).1, node, composite, same⟩

/-- There is nothing within an egg but its shell. -/
theorem acyclicFrom_egg : nestCatalog.AcyclicFrom "Game::Egg" := by
  let rank (name : String) : Nat :=
    if name = "Game::Nest" then 2 else if name = "Game::Egg" then 1 else 0
  have lower : ∀ e ∈ nestCatalog.entries, rank e.name ≤ rank "Game::Egg" →
      ∀ d ∈ e.type.children, ∀ node ∈ d.default.node?, rank node.typeName < rank e.name := by
    decide +kernel
  refine Catalog.acyclicFrom_of_rank rank ?_
  rintro name child low ⟨type, known, d, hd, node, hdefault, rfl⟩
  obtain ⟨e, he, rfl, rfl⟩ :=
    accepted_nestCatalog.settled.indexed.type?_eq_some_iff.1 known
  exact lower e he low d hd node (by rw [hdefault]; rfl)

/-- A new state for a nest, down to the nest within its inner one. -/
def deepNest : Json := .object [("childrenContent", .object [
  ("inner", .object [("childrenContent", .object [("inner", .object [])])])])]

/-- A nest whose type was not known when its state was loaded. -/
def lostNest : Composite Configuration :=
  { Composite.fresh "Game::Nest" with parked := [("inner", deepNest)] }

theorem operations_end_nest :
    nestCatalog.Holds "Game::Nest" "Game::Nest" ∧
    loadWithin nestCatalog 5 (.composite lostNest) deepNest =
      some ((Configuration.composite lostNest).load nestCatalog deepNest) ∧
    lookupWithin nestCatalog 5 lostNest "inner" = some (lostNest.lookup nestCatalog "inner") ∧
    nestFile.catalogWithin 5 = some nestFile.catalog ∧ nestFile.pending ≠ [] ∧
    ∃ egg, at? nestCatalog ["egg"] (.composite (.fresh "Game::Nest")) = some egg ∧
      ∃ r, egg.walk nestCatalog ⟨fun _ name count => (name, count + 1)⟩ 0 = some r := by
  obtain ⟨loads, looks, fills, walks⟩ := operations_end
  have tree : treeWeight deepNest ≤ 5 := by decide +kernel
  have parked : treeWeights lostNest.parked ≤ 5 := by decide +kernel
  have pending : ∀ p ∈ nestFile.pending, treeWeight p.tree ≤ 5 := by decide +kernel
  have some : nestFile.pending ≠ [] := by decide +kernel
  have type : (at? nestCatalog ["egg"] (.composite (.fresh "Game::Nest"))).map typeName =
      Option.some "Game::Egg" := by
    decide +kernel
  obtain ⟨egg, found, named⟩ := Option.map_eq_some_iff.1 type
  have acyclic : nestCatalog.AcyclicFrom egg.typeName := by
    rw [named]
    exact acyclicFrom_egg
  exact ⟨holds_nest, loads _ _ _ _ tree, looks _ _ _ _ parked, fills _ _ pending, some, egg, found,
    walks nestCatalog accepted_nestCatalog "Game::Nest" _ Relation.ReflTransGen.refl ["egg"] egg
      found acyclic _ _⟩

end Configuration
end CompositeObjects
