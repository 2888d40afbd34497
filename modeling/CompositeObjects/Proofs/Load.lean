import CompositeObjects.Configuration.Load
import CompositeObjects.Proofs.ContentCodec

namespace CompositeObjects

namespace SavedTree

mutual

/-- Every content in the tree is well-formed. -/
def WellFormed : SavedTree → Prop
  | .malformed .. => True
  | .composite content children => content.WellFormed ∧ WellFormedChildren children

def WellFormedChildren : List (String × Json × SavedTree) → Prop
  | [] => True
  | (_, _, saved) :: rest => WellFormed saved ∧ WellFormedChildren rest

end

theorem childTrees_eq_map (entries : List (String × Json)) :
    childTrees entries = entries.map fun e => (e.1, e.2, ofJson e.2) := by
  induction entries with
  | nil => rfl
  | cons e rest ih => rw [childTrees, ih]; rfl

/-- The trees are kept aside as they were. -/
theorem map_childTrees (entries : List (String × Json)) :
    (childTrees entries).map (fun t => (t.1, t.2.1)) = entries := by
  rw [childTrees_eq_map, List.map_map]
  exact List.map_id entries

theorem wellFormed_contentOf {tree : Json} {content : Content} (sorted : tree.Sorted)
    (h : contentOf tree = .ok content) : content.WellFormed := by
  cases tree with
  | object entries =>
    cases h
    exact Content.wellFormed_ofEntries sorted.1
  | _ => cases h

theorem wellFormed_ofParts {content : Except Fault Content}
    {children : Except Fault (List (String × Json × SavedTree))}
    (hcontent : ∀ c, content = .ok c → c.WellFormed)
    (hchildren : ∀ c, children = .ok c → WellFormedChildren c) :
    (ofParts content children).WellFormed := by
  unfold ofParts
  cases children with
  | error fault => trivial
  | ok trees =>
    cases content with
    | error fault => trivial
    | ok c => exact ⟨hcontent c rfl, hchildren trees rfl⟩

theorem wellFormed_ofItems {content : Except Fault Content}
    {children : Except Fault (List (String × Json × SavedTree))} {length : Nat}
    (hcontent : ∀ c, content = .ok c → c.WellFormed)
    (hchildren : ∀ c, children = .ok c → WellFormedChildren c) :
    (ofItems content children length).WellFormed := by
  unfold ofItems
  cases content with
  | error fault => trivial
  | ok c =>
    cases children with
    | error fault => trivial
    | ok trees =>
      dsimp only
      split
      · trivial
      · exact ⟨hcontent c rfl, hchildren trees rfl⟩

mutual

/-- What a tree says is well-formed, at every depth. -/
theorem wellFormed_ofJson {tree : Json} (sorted : tree.Sorted) : (ofJson tree).WellFormed := by
  match tree with
  | .object entries =>
    rw [ofJson]
    refine wellFormed_ofParts (fun c hc => ?_) fun c => wellFormed_childrenEntry sorted.2
    cases found : Table.get? "content" entries with
    | none =>
      rw [found] at hc
      cases hc
      exact Content.wellFormed_empty
    | some value =>
      rw [found] at hc
      have hvalue := Json.sortedEntries_iff.1 sorted.2 _ (Table.mem_of_get? found)
      exact wellFormed_contentOf hvalue hc
  | .array [] => exact ⟨Content.wellFormed_empty, trivial⟩
  | .array [content] =>
    rw [ofJson]
    refine wellFormed_ofItems (fun c => wellFormed_contentOf sorted.1) fun c hc => ?_
    cases hc
    trivial
  | .array (content :: children :: rest) =>
    rw [ofJson]
    exact wellFormed_ofItems (fun c => wellFormed_contentOf sorted.1)
      fun c => wellFormed_childrenOf sorted.2.1
  | .null | .bool _ | .number _ | .string _ => trivial

theorem wellFormed_childrenEntry {entries : List (String × Json)}
    {children : List (String × Json × SavedTree)} (sorted : Json.SortedEntries entries)
    (h : childrenEntry entries = .ok children) : WellFormedChildren children := by
  match entries with
  | [] =>
    cases h
    trivial
  | (key, tree) :: rest =>
    rw [childrenEntry] at h
    split at h
    · exact wellFormed_childrenOf sorted.1 h
    · exact wellFormed_childrenEntry sorted.2 h

theorem wellFormed_childrenOf {tree : Json} {children : List (String × Json × SavedTree)}
    (sorted : tree.Sorted) (h : childrenOf tree = .ok children) : WellFormedChildren children := by
  match tree with
  | .object entries =>
    rw [childrenOf] at h
    cases h
    exact wellFormed_childTrees sorted.2
  | .null | .bool _ | .number _ | .string _ | .array _ => cases h

theorem wellFormed_childTrees {entries : List (String × Json)}
    (sorted : Json.SortedEntries entries) : WellFormedChildren (childTrees entries) := by
  match entries with
  | [] => trivial
  | (name, tree) :: rest => exact ⟨wellFormed_ofJson sorted.1, wellFormed_childTrees sorted.2⟩

end
end SavedTree

namespace Configuration

variable {catalog : Catalog}

theorem saveChildren_eq_map (children : List (String × Configuration)) :
    saveChildren children = Table.mapValues save children := by
  induction children with
  | nil => rfl
  | cons e rest ih => rw [saveChildren, ih]; rfl

theorem get?_saveChildren (children : Table Configuration) (name : String) :
    Table.get? name (saveChildren children) = (children.get? name).map save := by
  rw [saveChildren_eq_map, Table.get?_mapValues]

theorem sorted_saveChildren {children : Table Configuration} (sorted : children.Sorted) :
    Table.Sorted (saveChildren children) := by
  rw [saveChildren_eq_map]
  exact Table.sorted_mapValues save sorted

theorem overlay_nil_saveChildren {children : Table Configuration} (sorted : children.Sorted) :
    Table.overlay [] (saveChildren children) = saveChildren children :=
  Table.ofList_of_sorted (sorted_saveChildren sorted)

theorem save_composite (node : Composite Configuration) :
    (Configuration.composite node).save = .object [
      ("childrenContent", .object (Table.overlay node.parked (saveChildren node.children))),
      ("content", node.content.toJson)] := rfl

/-- An object with the content of another one is written as that one where the trees of its children
are. -/
theorem save_eq_save_iff (typeName : String) (children : Table Configuration) (parked : Table Json)
    (node : Composite Configuration) :
    (Configuration.composite ⟨typeName, node.content, children, parked⟩).save =
        (Configuration.composite node).save ↔
      Table.overlay parked (saveChildren children) =
        Table.overlay node.parked (saveChildren node.children) := by
  rw [save_composite, save_composite]
  simp

/-- A saved composite object says what it was saved from. -/
theorem ofJson_save {node : Composite Configuration} (h : node.content.WellFormed) :
    SavedTree.ofJson (Configuration.composite node).save = .composite node.content
      (SavedTree.childTrees (Table.overlay node.parked (saveChildren node.children))) := by
  have read : SavedTree.contentOf node.content.toJson = .ok node.content := by
    rw [Content.toJson_eq, SavedTree.contentOf, h.ofEntries_entries]
  have entry : Table.get? "content" [
      ("childrenContent", .object (Table.overlay node.parked (saveChildren node.children))),
      ("content", node.content.toJson)] = some node.content.toJson := by
    simp [Table.get?]
  rw [save_composite, SavedTree.ofJson, entry, Option.map_some, Option.getD_some, read,
    SavedTree.childrenEntry, if_pos rfl, SavedTree.childrenOf]
  rfl

theorem take_verbatim (tree : Json) (saved : SavedTree) (typeName : String) (old : Json) :
    (take catalog tree saved (.verbatim typeName old)).value = .ok (.verbatim typeName tree) := by
  rw [take]
  rfl

theorem take_malformed (tree : Json) (kept : List String) (fault : Fault)
    (node : Composite Configuration) :
    (take catalog tree (.malformed kept fault) (.composite node)).value = .error fault := by
  rw [take]

theorem take_unresolved (tree : Json) (content : Content)
    (trees : List (String × Json × SavedTree)) {node : Composite Configuration}
    (unknown : catalog.type? node.typeName = none) :
    (take catalog tree (.composite content trees) (.composite node)).value =
      .ok (.composite { node with content, parked := trees.map fun t => (t.1, t.2.1) }) := by
  rw [take]
  simp only [Traced.value_bind, unknown]
  rfl

theorem take_resolved (tree : Json) (content : Content)
    (trees : List (String × Json × SavedTree)) {node : Composite Configuration}
    {type : ObjectType} (known : catalog.type? node.typeName = some type) :
    (take catalog tree (.composite content trees) (.composite node)).value =
      (takeChildren catalog node.typeName type trees node.children).value.map fun children =>
        .composite { node with content, children, parked := [] } := by
  rw [take]
  simp only [Traced.value_bind, known]
  rfl

theorem takeChildren_nil (typeName : String) (type : ObjectType) (children : Table Configuration) :
    (takeChildren catalog typeName type [] children).value = .ok children := by
  rw [takeChildren]
  rfl

theorem takeChildren_undeclared (typeName : String) {type : ObjectType} {name : String}
    (undeclared : type.child? name = none) (tree : Json) (saved : SavedTree)
    (rest : List (String × Json × SavedTree)) (children : Table Configuration) :
    (takeChildren catalog typeName type ((name, tree, saved) :: rest) children).value =
      (takeChildren catalog typeName type rest children).value := by
  rw [takeChildren]
  simp [undeclared]

theorem takeChildren_declared (typeName : String) {type : ObjectType} {name : String}
    {declared : Child} (h : type.child? name = some declared) (tree : Json) (saved : SavedTree)
    (rest : List (String × Json × SavedTree)) (children : Table Configuration) :
    (takeChildren catalog typeName type ((name, tree, saved) :: rest) children).value =
      (take catalog tree saved (startingChild children declared)).value.bind fun child =>
        (takeChildren catalog typeName type rest (children.insert name child)).value := by
  rw [takeChildren]
  simp only [h, Traced.value_bind]
  cases (take catalog tree saved (startingChild children declared)).value <;> rfl

end Configuration
end CompositeObjects
