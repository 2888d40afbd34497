import CompositeObjects.Proofs.Defaults
import CompositeObjects.Proofs.Takeover

namespace CompositeObjects

namespace ObjectType

/-- A new default goes to the first child of its name, wherever that stands. -/
theorem getElem?_updateDefault_go (children : List Child) (name : String) (default : Configuration)
    (i : Nat) :
    (updateDefault.go name default children)[i]? = children[i]?.map fun c =>
      if name = c.name ∧ c.name ∉ (children.take i).map Child.name then { c with default } else c := by
  induction children generalizing i with
  | nil => rfl
  | cons first rest ih =>
    rw [updateDefault.go]
    by_cases hname : first.name = name
    · rw [if_pos hname]
      cases i with
      | zero => simp [hname]
      | succ i =>
        have shadowed (c : Child) : ¬ (name = c.name ∧
            c.name ∉ ((first :: rest).take (i + 1)).map Child.name) := by
          rintro ⟨rfl, absent⟩
          exact absent (List.mem_map.2 ⟨first, List.mem_cons_self, hname⟩)
        simp only [List.getElem?_cons_succ, shadowed, if_false, Option.map_id']
    · rw [if_neg hname]
      cases i with
      | zero => simp [Ne.symm hname]
      | succ i =>
        rw [List.getElem?_cons_succ, List.getElem?_cons_succ, ih]
        refine congrArg (Option.map · _) (funext fun c => if_congr ?_ rfl rfl)
        refine and_congr_right fun same => ?_
        rw [List.take_succ_cons, List.map_cons, List.mem_cons, not_or, ← same]
        exact (and_iff_right (Ne.symm hname)).symm

theorem find?_name_of_first {children : List Child} {i : Nat} {c : Child}
    (here : children[i]? = some c) (first : c.name ∉ (children.take i).map Child.name) :
    children.find? (·.name == c.name) = some c := by
  induction children generalizing i with
  | nil => cases here
  | cons other rest ih =>
    cases i with
    | zero =>
      cases here
      exact List.find?_cons_of_pos (by simp)
    | succ i =>
      obtain ⟨hne, first⟩ := not_or.1 (mt List.mem_cons.2 first)
      rw [List.find?_cons_of_neg (by simpa using Ne.symm hne)]
      exact ih here first

end ObjectType

namespace ProjectFile

variable {file : ProjectFile} {declared catalog : Catalog} {names : List String}

/-- The trees that are loaded into a child of that name, one after the other, behind children of
these names. -/
def arriving (pending : List PendingChild) (earlier : List String) (name : String) : List Json :=
  if name ∈ earlier then [] else (pending.filter (·.child == name)).map PendingChild.tree

theorem arriving_cons (next : PendingChild) (rest : List PendingChild) (earlier : List String)
    (name : String) :
    arriving (next :: rest) earlier name =
      if next.child = name ∧ name ∉ earlier then next.tree :: arriving rest earlier name
      else arriving rest earlier name := by
  unfold arriving
  by_cases hidden : name ∈ earlier
  · simp [hidden]
  · by_cases hname : next.child = name <;> simp [hidden, hname]

/-- A child at any position has as its default what those trees make of the default that it was
declared with. -/
theorem getElem?_fillType {pending : List PendingChild} {type result : ObjectType}
    (done : fillType declared pending type = .ok result) {i : Nat} {c : Child}
    (here : type.children[i]? = some c) :
    ∃ default, result.children[i]? = some { c with default } ∧
      (arriving pending ((type.children.take i).map Child.name) c.name).foldlM
        (fun default tree => (Configuration.load declared default tree).value) c.default =
          .ok default := by
  induction pending generalizing type c with
  | nil =>
    cases done
    refine ⟨c.default, here, ?_⟩
    simp [arriving, pure, Except.pure]
  | cons next rest ih =>
    rw [fillType] at done
    rw [arriving_cons]
    cases found : type.child? next.child with
    | none =>
      rw [found] at done
      have elsewhere : ¬ (next.child = c.name ∧
          c.name ∉ (type.children.take i).map Child.name) := by
        rintro ⟨hname, first⟩
        have there := ObjectType.find?_name_of_first here first
        rw [ObjectType.child?, hname, there] at found
        cases found
      rw [if_neg elsewhere]
      exact ih done here
    | some target =>
      rw [found] at done
      dsimp only at done
      split at done
      · cases done
      · rename_i loaded ok
        have updated := ObjectType.getElem?_updateDefault_go type.children next.child loaded i
        have earlier : ((type.updateDefault next.child loaded).children.take i).map Child.name =
            (type.children.take i).map Child.name := by
          rw [List.map_take, List.map_take]
          exact congrArg (List.take i) (ObjectType.names_updateDefault_go ..)
        rw [here, Option.map_some] at updated
        -- The child at the position is filled where it is the first one of the name, else another one.
        split at updated
        · rename_i first
          obtain ⟨default, filled, loads⟩ := ih done updated
          have there := ObjectType.find?_name_of_first here first.2
          rw [ObjectType.child?, first.1, there] at found
          cases found
          rw [if_pos first, List.foldlM_cons, ok]
          rw [earlier] at loads
          exact ⟨default, filled, loads⟩
        · rename_i elsewhere
          rw [if_neg elsewhere, ← earlier]
          exact ih done updated

/-- The default of a child goes by a tree: it is that tree, or for a composite child it has the
content that the tree has. -/
def GoesBy (names : List String) (c : ChildEntry) (tree : Table Json) : Configuration → Prop
  | .verbatim typeName held => c.typeName ∉ names ∧ typeName = c.typeName ∧ held = .object tree
  | .composite node => c.typeName ∈ names ∧ node.typeName = c.typeName ∧
      (Json.object tree).parts?.map (fun parts => .ofEntries parts.1) = some node.content

instance (names : List String) (c : ChildEntry) (tree : Table Json) :
    (default : Configuration) → Decidable (GoesBy names c tree default)
  | .verbatim .. => inferInstanceAs (Decidable (_ ∧ _ ∧ _))
  | .composite .. => inferInstanceAs (Decidable (_ ∧ _ ∧ _))

theorem goesBy_declareChild (names : List String) (c : ChildEntry) :
    GoesBy names c (if c.typeName ∈ names then [] else c.tree) (declareChild names c).default := by
  rw [default_declareChild]
  by_cases composite : c.typeName ∈ names
  · rw [if_pos composite, if_pos composite]
    exact ⟨composite, rfl, rfl⟩
  · rw [if_neg composite, if_neg composite]
    exact ⟨composite, rfl, rfl⟩

/-- A default goes by the tree that was loaded last. -/
theorem GoesBy.load {c : ChildEntry} {old tree : Table Json} {default after : Configuration}
    (h : GoesBy names c old default)
    (ok : (default.load declared (.object tree)).value = .ok after) :
    GoesBy names c tree after := by
  cases default with
  | verbatim typeName held =>
    rw [Configuration.load_verbatim] at ok
    cases ok
    exact ⟨h.1, h.2.1, rfl⟩
  | composite node =>
    obtain ⟨composite, typeName, -⟩ := h
    obtain ⟨content, trees, parts, ⟨-, rfl⟩ | ⟨-, children, -, -, rfl⟩⟩ :=
      Configuration.load_eq_ok ok
    · exact ⟨composite, typeName, by rw [parts, Option.map_some]⟩
    · exact ⟨composite, typeName, by rw [parts, Option.map_some]⟩

theorem GoesBy.loads {c : ChildEntry} {old : Table Json} {default after : Configuration}
    (h : GoesBy names c old default) {trees : List (Table Json)}
    (ok : (trees.map Json.object).foldlM
      (fun default tree => (Configuration.load declared default tree).value) default = .ok after) :
    GoesBy names c (trees.getLast?.getD old) after := by
  induction trees generalizing old default with
  | nil =>
    cases ok
    exact h
  | cons tree rest ih =>
    rw [List.map_cons, List.foldlM_cons] at ok
    cases done : (default.load declared (.object tree)).value with
    | error fault =>
      rw [done] at ok
      cases ok
    | ok next =>
      rw [done] at ok
      rw [List.getLast?_cons, Option.getD_some]
      exact ih (h.load done) ok

/-- The trees of the composite entries of that name, if the entry at the position is the first one
of the name. -/
def treesAt (names : List String) (entries : List ChildEntry) (i : Nat) (name : String) :
    List (Table Json) :=
  if name ∈ (entries.take i).map ChildEntry.name then []
  else (entries.filter fun d => d.name == name && names.contains d.typeName).map ChildEntry.tree

/-- The tree that the default of a child goes by in the end: of those trees the last one, and where
there is none, what the child was declared with. -/
def treeAt (names : List String) (entries : List ChildEntry) (i : Nat) (c : ChildEntry) :
    Table Json :=
  (treesAt names entries i c.name).getLast?.getD (if c.typeName ∈ names then [] else c.tree)

/-- An entry whose name no other entry has goes by its own tree. -/
theorem treeAt_of_alone (names : List String) {entries : List ChildEntry} {i : Nat} {c : ChildEntry}
    (here : entries[i]? = some c) (alone : c.name ∉ (entries.eraseIdx i).map ChildEntry.name) :
    treeAt names entries i c = c.tree := by
  obtain ⟨before, after, rfl, rfl⟩ : ∃ before after,
      entries = before ++ c :: after ∧ before.length = i := by
    obtain ⟨hi, rfl⟩ := List.getElem?_eq_some_iff.1 here
    refine ⟨entries.take i, entries.drop (i + 1), by simp, ?_⟩
    rw [List.length_take]
    omega
  rw [List.eraseIdx_append_of_length_le (Nat.le_refl _), Nat.sub_self, List.eraseIdx_cons_zero,
    List.map_append, List.mem_append, not_or] at alone
  have none {others : List ChildEntry} (absent : c.name ∉ others.map ChildEntry.name) :
      others.filter (fun d => d.name == c.name && names.contains d.typeName) = [] := by
    refine List.filter_eq_nil_iff.2 fun d hd named => ?_
    simp only [Bool.and_eq_true, beq_iff_eq] at named
    exact absent (List.mem_map.2 ⟨d, hd, named.1⟩)
  have trees : treesAt names (before ++ c :: after) before.length c.name =
      if c.typeName ∈ names then [c.tree] else [] := by
    rw [treesAt, List.take_left, if_neg alone.1, List.filter_append, none alone.1, List.nil_append,
      List.filter_cons, none alone.2]
    by_cases composite : c.typeName ∈ names <;> simp [composite]
  rw [treeAt, trees]
  by_cases composite : c.typeName ∈ names <;> simp [composite]

theorem arriving_pendingOf (names : List String) (t : String × TypeEntry) (i : Nat)
    (name : String) :
    arriving (pendingOf names t) ((t.2.children.take i).map ChildEntry.name) name =
      (treesAt names t.2.children i name).map Json.object := by
  rw [arriving, treesAt]
  split
  · rfl
  · rw [pendingOf, List.filter_map, List.filter_filter, List.map_map, List.map_map]
    rfl

/-- What stands in the catalog for an entry of the file: a child of the name and the type of the
entry. It goes by the tree of the entry itself where no other entry has the name; of several entries
the first one goes by the last composite tree, and the others are as they were declared. -/
structure StandsFor (names : List String) (entries : List ChildEntry) (i : Nat) (c : ChildEntry)
    (child : Child) : Prop where
  name : child.name = c.name
  typeName : child.default.typeName = c.typeName
  goesBy : GoesBy names c (treeAt names entries i c) child.default
  own : c.name ∉ (entries.eraseIdx i).map ChildEntry.name → GoesBy names c c.tree child.default

theorem GoesBy.typeName {c : ChildEntry} {tree : Table Json} {default : Configuration}
    (h : GoesBy names c tree default) : default.typeName = c.typeName := by
  cases default with
  | verbatim typeName held => exact h.2.1
  | composite node => exact h.2.1

/-- The children of each type stand in the catalog as in the file, one for each entry. -/
theorem children_of_catalog (ok : file.catalog.value = .ok catalog) {t : String × TypeEntry}
    (ht : t ∈ file.types) :
    ∃ type, catalog.type? (qualifiedName t.1 t.2.name) = some type ∧
      type.children.length = t.2.children.length ∧
      ∀ i c, t.2.children[i]? = some c → ∃ child, type.children[i]? = some child ∧
        StandsFor file.typeNames t.2.children i c child := by
  obtain ⟨declared, hdeclared, filled⟩ := catalog_eq_ok_iff.1 ok
  obtain ⟨type, known, done⟩ := exists_fillType hdeclared filled ht
  refine ⟨type, by rw [Catalog.type?, known, Option.map_some], ?_, fun i c here => ?_⟩
  · have sameNames := congrArg List.length (fillType_keeps done).2
    rw [List.length_map, List.length_map, declareType, List.length_map] at sameNames
    exact sameNames
  · have declaredHere : (declareType file.typeNames t.2).children[i]? =
        some (declareChild file.typeNames c) := by
      rw [declareType, List.getElem?_map, here, Option.map_some]
    obtain ⟨default, there, loads⟩ := getElem?_fillType done declaredHere
    have earlier : (((declareType file.typeNames t.2).children.take i).map Child.name) =
        (t.2.children.take i).map ChildEntry.name := by
      rw [declareType, ← List.map_take, List.map_map]
      rfl
    rw [earlier, arriving_pendingOf] at loads
    have goesBy := (goesBy_declareChild file.typeNames c).loads loads
    refine ⟨_, there, rfl, goesBy.typeName, goesBy, ?_⟩
    intro alone
    rw [← treeAt_of_alone file.typeNames here alone]
    exact goesBy

/-- A hero with a picture and a bag, both under the name of body. -/
def heroProject : Json := .object [("extensions", .array [.object [
  ("eventsBasedObjects", .array [
    .object [("name", .string "Hero"), ("objects", .array [
      .object [
        ("animations", .array []), ("name", .string "body"), ("type", .string "Sprite")],
      .object [
        ("content", .object [("slots", .string "8")]), ("name", .string "body"),
        ("type", .string "Game::Bag")]])],
    .object [("name", .string "Bag"), ("properties", .array [.object [
      ("name", .string "slots"), ("type", .string "Number"), ("value", .string "4")]])]]),
  ("name", .string "Game")]])]

def pictureEntry : ChildEntry := ⟨"body", "Sprite", [("animations", .array [])]⟩

def heroBagEntry : ChildEntry :=
  ⟨"body", "Game::Bag", [("content", .object [("slots", .string "8")])]⟩

def heroEntry : TypeEntry := ⟨"Hero", "", [], [pictureEntry, heroBagEntry], []⟩

def heroFile : ProjectFile := ⟨[⟨"Game", [
  heroEntry, ⟨"Bag", "", [{ name := "slots", type := .number, value := "4" }], [], []⟩]⟩]⟩

def heroCatalog : Catalog :=
  match heroFile.catalog.value with
  | .ok catalog => catalog
  | .error _ => .empty

theorem catalog_heroFile : heroFile.catalog.value = .ok heroCatalog := by
  have ok : heroFile.catalog.value.isOk = true := by decide +kernel
  obtain ⟨catalog, made⟩ := exists_of_isOk ok
  rw [heroCatalog, made]

/-- The first of two children of one name goes by the tree of the other, and the other by none. -/
example : treeAt heroFile.typeNames heroEntry.children 0 pictureEntry = heroBagEntry.tree ∧
    treeAt heroFile.typeNames heroEntry.children 1 heroBagEntry = [] := by
  decide +kernel

theorem children_of_catalog_hero :
    heroFile.catalog.value = .ok heroCatalog ∧ ("Game", heroEntry) ∈ heroFile.types ∧
      ∃ type, heroCatalog.type? "Game::Hero" = some type ∧ type.children.length = 2 ∧
        ∀ i c, heroEntry.children[i]? = some c → ∃ child, type.children[i]? = some child ∧
          StandsFor heroFile.typeNames heroEntry.children i c child := by
  have ht : ("Game", heroEntry) ∈ heroFile.types := List.mem_cons_self
  exact ⟨catalog_heroFile, ht, children_of_catalog catalog_heroFile ht⟩

/-- The picture has the tree of the bag, and the bag is empty. -/
theorem not_goesBy_hero :
    heroFile.Decoded ∧ heroFile.catalog.value = .ok heroCatalog ∧
      ("Game", heroEntry) ∈ heroFile.types ∧ heroEntry.children = [pictureEntry, heroBagEntry] ∧
      ∃ type picture bag, heroCatalog.type? "Game::Hero" = some type ∧
        type.children[0]? = some picture ∧ type.children[1]? = some bag ∧
        ¬ GoesBy heroFile.typeNames pictureEntry pictureEntry.tree picture.default ∧
        ¬ GoesBy heroFile.typeNames heroBagEntry heroBagEntry.tree bag.default := by
  have decoded : heroFile.Decoded := Or.inr ⟨heroProject, by decide +kernel⟩
  have shown : ((heroCatalog.type? "Game::Hero").bind fun type =>
      type.children[0]?.bind fun picture => type.children[1]?.map fun bag =>
        (decide (GoesBy heroFile.typeNames pictureEntry pictureEntry.tree picture.default),
          decide (GoesBy heroFile.typeNames heroBagEntry heroBagEntry.tree bag.default))) =
      some (false, false) := by
    decide +kernel
  obtain ⟨type, known, shown⟩ := Option.bind_eq_some_iff.1 shown
  obtain ⟨picture, first, shown⟩ := Option.bind_eq_some_iff.1 shown
  obtain ⟨bag, second, shown⟩ := Option.map_eq_some_iff.1 shown
  obtain ⟨notPicture, notBag⟩ := Prod.mk.inj shown
  exact ⟨decoded, catalog_heroFile, List.mem_cons_self, rfl, type, picture, bag, known, first,
    second, of_decide_eq_false notPicture, of_decide_eq_false notBag⟩

end ProjectFile
end CompositeObjects
