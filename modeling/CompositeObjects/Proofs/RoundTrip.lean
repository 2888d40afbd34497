import CompositeObjects.Proofs.Reachable
import Mathlib.Data.List.Forall2

namespace CompositeObjects

namespace Configuration

variable {catalog : Catalog}

/-- Where each tree loads into the child that starts under its name, all of them are taken over. -/
theorem takeChildren_eq_ok (typeName : String) {type : ObjectType} {base : Table Configuration}
    {entries : List (String × Json)} {made : List (String × Configuration)}
    (nodup : (entries.map (·.1)).Nodup)
    (loads : List.Forall₂ (fun e m => e.1 = m.1 ∧ ∃ declared, type.child? e.1 = some declared ∧
      ((startingChild base declared).load catalog e.2).value = .ok m.2) entries made)
    {children : Table Configuration}
    (same : ∀ e ∈ entries, children.get? e.1 = base.get? e.1) :
    (takeChildren catalog typeName type (SavedTree.childTrees entries) children).value =
      .ok (children.overlay made) := by
  induction loads generalizing children with
  | nil => exact takeChildren_nil typeName type children
  | @cons e m entries made first _ ih =>
    obtain ⟨hname, declared, found, ok⟩ := first
    obtain ⟨fresh, nodup⟩ := List.nodup_cons.1 nodup
    have begins : startingChild children declared = startingChild base declared := by
      rw [startingChild_of_child? found children, startingChild_of_child? found base,
        same e List.mem_cons_self]
    have others : ∀ d ∈ entries, (children.insert e.1 m.2).get? d.1 = base.get? d.1 := by
      intro d hd
      have hne : d.1 ≠ e.1 := fun heq => fresh (List.mem_map.2 ⟨d, hd, heq⟩)
      rw [Table.get?_insert_of_ne hne]
      exact same d (List.mem_cons_of_mem _ hd)
    have taken : (take catalog e.2 (SavedTree.ofJson e.2) (startingChild base declared)).value =
        .ok m.2 := ok
    rw [SavedTree.childTrees, takeChildren_declared typeName found, begins, taken]
    change (takeChildren catalog typeName type (SavedTree.childTrees entries)
      (children.insert e.1 m.2)).value = .ok ((children.insert m.1 m.2).overlay made)
    rw [← hname]
    exact ih nodup others

/-- A child comes back under its name when its saved tree is loaded into what it starts from. -/
def ComesBack (catalog : Catalog) (type : ObjectType) (base : Table Configuration)
    (e m : String × Configuration) : Prop :=
  e.1 = m.1 ∧ ∃ declared, type.child? e.1 = some declared ∧
    ((startingChild base declared).load catalog e.2.save).value = .ok m.2

section ComesBack

variable {type : ObjectType} {base children others : Table Configuration}

theorem keys_of_comesBack (h : List.Forall₂ (ComesBack catalog type base) children others) :
    others.map (·.1) = children.map (·.1) := by
  induction h with
  | nil => rfl
  | cons first _ ih => rw [List.map_cons, List.map_cons, ih, first.1]

theorem sorted_of_comesBack (h : List.Forall₂ (ComesBack catalog type base) children others)
    (sorted : children.Sorted) : others.Sorted := by
  rw [Table.sorted_iff_keys, keys_of_comesBack h]
  exact Table.sorted_iff_keys.1 sorted

/-- Where all children come back and cover those that were there, they are all that is loaded. -/
theorem load_of_comesBack {start node : Composite Configuration}
    (known : catalog.type? start.typeName = some type) (content : node.content.WellFormed)
    (unparked : node.parked = []) (sortedStart : Table.Sorted start.children)
    (sorted : Table.Sorted node.children)
    (kept : ∀ name, node.child? name = none → start.child? name = none)
    (h : List.Forall₂ (ComesBack catalog type start.children) node.children others) :
    ((Configuration.composite start).load catalog (Configuration.composite node).save).value =
      .ok (.composite ⟨start.typeName, node.content, others, []⟩) := by
  have nodup := Table.nodup_of_sorted (sorted_saveChildren sorted)
  have loads : List.Forall₂ (fun e m => e.1 = m.1 ∧ ∃ declared, type.child? e.1 = some declared ∧
      ((startingChild start.children declared).load catalog e.2).value = .ok m.2)
      (saveChildren node.children) others := by
    rw [saveChildren_eq_map, Table.mapValues, List.forall₂_map_left_iff]
    exact h
  have taken := takeChildren_eq_ok start.typeName nodup loads fun _ _ => rfl
  have covered : Table.overlay start.children others = others := by
    refine Table.overlay_eq_top sortedStart (sorted_of_comesBack h sorted) fun name missing => ?_
    rw [Table.get?_eq_none_iff, keys_of_comesBack h] at missing
    exact kept name (Table.get?_eq_none_iff.2 missing)
  rw [load, ofJson_save content, unparked, overlay_nil_saveChildren sorted,
    take_resolved _ _ _ known, taken, covered]
  rfl

end ComesBack

/-- An object of an unknown type takes over the content and keeps all trees of children. -/
theorem load_of_unknown {start node : Composite Configuration}
    (unknown : catalog.type? start.typeName = none) (content : node.content.WellFormed) :
    ((Configuration.composite start).load catalog (Configuration.composite node).save).value =
      .ok (.composite { start with
        content := node.content
        parked := Table.overlay node.parked (saveChildren node.children) }) := by
  rw [load, ofJson_save content, take_unresolved _ _ _ unknown, SavedTree.map_childTrees]

/-- A configuration that has grown is what its saved tree loads into what it has grown from. -/
theorem load_save {base c : Configuration} (h : Grown catalog base c) :
    (base.load catalog c.save).value = .ok c := by
  induction h with
  | verbatim => exact take_verbatim ..
  | @unresolved base node same unknown content bare childless =>
    have trees : Table.overlay node.parked (saveChildren node.children) = node.parked := by
      rw [childless]
      rfl
    rw [load_of_unknown unknown content, trees, bare, ← same, ← childless]
  | @resolved base node type same known content unparked sortedBase sorted kept declared _ ih =>
    have back : List.Forall₂ (ComesBack catalog type base.children) node.children
        node.children := by
      rw [List.forall₂_same]
      intro e he
      have made : node.child? e.1 = some e.2 := Table.get?_of_mem (Table.nodup_of_sorted sorted) he
      obtain ⟨d, hd⟩ := declared _ _ made
      exact ⟨rfl, d, hd, ih _ _ d made hd⟩
    rw [load_of_comesBack known content unparked sortedBase sorted kept back, ← same, ← unparked]

/-- Saving and loading again under the same project gives back every configuration that operations
can make, in all its parts. -/
theorem load_save_of_reachable (accepted : catalog.Accepted) {typeName : String}
    {c : Configuration} (run : Reachable catalog (.composite (.fresh typeName)) c) :
    (load catalog (.composite (.fresh typeName)) c.save).value = .ok c :=
  load_save (grown_of_accepted accepted run)

theorem load_save_gildedKnight :
    knightCatalog.Accepted ∧
      Reachable knightCatalog (.composite (.fresh "Game::Knight")) gildedKnight ∧
      (load knightCatalog (.composite (.fresh "Game::Knight")) gildedKnight.save).value =
        .ok gildedKnight :=
  ⟨accepted_knightCatalog, reachable_gildedKnight,
    load_save_of_reachable accepted_knightCatalog reachable_gildedKnight⟩

end Configuration
end CompositeObjects
