import CompositeObjects.Proofs.MissingTypes
import CompositeObjects.Proofs.Requests
import CompositeObjects.Proofs.Takeover
import CompositeObjects.Proofs.Walk

namespace CompositeObjects

namespace Composite

/-- The object in which that child has been made, and all else is as it was. -/
structure Made (name : String) (child : Configuration) (node node' : Composite Configuration) :
    Prop where
  typeName : node'.typeName = node.typeName
  content : node'.content = node.content
  sorted : Table.Sorted node.children → Table.Sorted node'.children
  sortedParked : Table.Sorted node.parked → Table.Sorted node'.parked
  made : node'.child? name = some child
  unparked : Table.get? name node'.parked = none
  others : ∀ other, other ≠ name → node'.child? other = node.child? other
  parked : ∀ other, other ≠ name → Table.get? other node'.parked = Table.get? other node.parked

variable {catalog : Catalog} {node node' : Composite Configuration} {name : String}
  {child : Configuration}

theorem Made.of_lookup (found : (node.lookup catalog name).value = .ok (child, node'))
    (apart : node.child? name = none ∨ Table.get? name node.parked = none) :
    Made name child node node' := by
  obtain ⟨type, declared, -, -, made⟩ := lookup_eq_ok found
  rcases made with ⟨made, rfl⟩ | ⟨-, -, rfl⟩
  · have unparked := apart.resolve_left (by rw [made]; exact Option.some_ne_none child)
    exact ⟨rfl, rfl, id, id, made, unparked, fun _ _ => rfl, fun _ _ => rfl⟩
  · exact ⟨rfl, rfl, Table.sorted_insert _ _, Table.sorted_erase _, Table.get?_insert_self ..,
      Table.get?_erase_self .., fun _ hne => Table.get?_insert_of_ne hne _ _,
      fun _ hne => Table.get?_erase_of_ne hne _⟩

theorem Made.withChild (h : Made name child node node') (child' : Configuration) :
    Made name child' node (node'.withChild name child') := by
  refine ⟨h.typeName, h.content, fun sorted => Table.sorted_insert _ _ (h.sorted sorted),
    h.sortedParked, Table.get?_insert_self .., h.unparked, fun other hne => ?_, h.parked⟩
  rw [child?_withChild, if_neg hne]
  exact h.others other hne

end Composite

namespace Configuration

variable {catalog : Catalog} {type : ObjectType} {trees : Table Json} {asked : List String}
  {timely late : Composite Configuration}

/-- A child that is still to be made of a tree that was kept aside, as it has been made already
where the tree was loaded in time. -/
def Waits (catalog : Catalog) (trees : Table Json) (declared : Child) (name : String)
    (timely late : Composite Configuration) : Prop :=
  late.child? name = none ∧ ∃ sub child, trees.get? name = some sub ∧
    Table.get? name late.parked = some sub ∧ timely.child? name = some child ∧
    (declared.default.load catalog sub).value = .ok child

/-- An object that was loaded before its type was known beside one that was loaded in time. They
hold the same but for the children that have not been asked for, which may still wait. -/
structure Heals (catalog : Catalog) (type : ObjectType) (trees : Table Json)
    (asked : List String) (timely late : Composite Configuration) : Prop where
  known : catalog.type? timely.typeName = some type
  typeName : late.typeName = timely.typeName
  content : late.content = timely.content
  sorted : Table.Sorted timely.children
  sortedLate : Table.Sorted late.children
  sortedParked : Table.Sorted late.parked
  unparked : ∀ name, Table.get? name timely.parked = none
  undeclared : ∀ name, type.child? name = none → timely.child? name = none ∧
    late.child? name = none ∧ Table.get? name late.parked = trees.get? name
  declared : ∀ name declared, type.child? name = some declared →
    (late.child? name = timely.child? name ∧ Table.get? name late.parked = none) ∨
      (name ∉ asked ∧ Waits catalog trees declared name timely late)

/-- The same of two configurations. -/
def Healing (catalog : Catalog) (type : ObjectType) (trees : Table Json) (asked : List String)
    (c c' : Configuration) : Prop :=
  ∃ timely late, c = .composite timely ∧ c' = .composite late ∧
    Heals catalog type trees asked timely late

/-- A child that is not declared is asked for in vain. -/
theorem Heals.ask_undeclared (h : Heals catalog type trees asked timely late) {name : String}
    (undeclared : type.child? name = none) :
    Heals catalog type trees (asked ++ [name]) timely late := by
  refine { h with declared := fun other declared found => ?_ }
  have hne : other ≠ name := by
    rintro rfl
    rw [undeclared] at found
    cases found
  refine (h.declared other declared found).imp_right fun ⟨fresh, waits⟩ => ⟨?_, waits⟩
  simp [fresh, hne]

/-- A child that is declared is there on both sides when it has been asked for. -/
theorem Heals.made (h : Heals catalog type trees asked timely late) {name : String}
    {declared : Child} (found : type.child? name = some declared) {child : Configuration}
    {timely' late' : Composite Configuration} (made : Composite.Made name child timely timely')
    (madeLate : Composite.Made name child late late') :
    Heals catalog type trees (asked ++ [name]) timely' late' := by
  refine {
    known := made.typeName ▸ h.known
    typeName := by rw [made.typeName, madeLate.typeName, h.typeName]
    content := by rw [made.content, madeLate.content, h.content]
    sorted := made.sorted h.sorted
    sortedLate := madeLate.sorted h.sortedLate
    sortedParked := madeLate.sortedParked h.sortedParked
    unparked := fun other => ?_
    undeclared := fun other undeclared => ?_
    declared := fun other declared' found' => ?_ }
  · by_cases hname : other = name
    · rw [hname]
      exact made.unparked
    · rw [made.parked other hname]
      exact h.unparked other
  · have hne : other ≠ name := by
      rintro rfl
      rw [undeclared] at found
      cases found
    rw [made.others other hne, madeLate.others other hne, madeLate.parked other hne]
    exact h.undeclared other undeclared
  · by_cases hname : other = name
    · rw [hname]
      exact Or.inl ⟨madeLate.made.trans made.made.symm, madeLate.unparked⟩
    · rw [Waits, made.others other hname, madeLate.others other hname,
        madeLate.parked other hname]
      refine (h.declared other declared' found').imp_right fun ⟨fresh, waits⟩ => ⟨?_, waits⟩
      simp [fresh, hname]

theorem value_newChild {declared : Child} {sub : Json} {child : Configuration}
    (loads : (declared.default.load catalog sub).value = .ok child) :
    (newChild catalog declared (some sub)).value = child := by
  simp only [newChild, Traced.value_bind, loads]
  rfl

/-- A child is made on the one side as it has been made on the other. -/
theorem Heals.exists_lookup (h : Heals catalog type trees asked timely late) {name : String}
    {declared : Child} (found : type.child? name = some declared) :
    ∃ child timely' late', (timely.lookup catalog name).value = .ok (child, timely') ∧
      (late.lookup catalog name).value = .ok (child, late') ∧
      Composite.Made name child timely timely' ∧ Composite.Made name child late late' := by
  have knownLate : catalog.type? late.typeName = some type := h.typeName ▸ h.known
  have unparked := h.unparked name
  -- Whatever is given out, the two sides give out the same.
  have alike : ∃ child timely' late', (timely.lookup catalog name).value = .ok (child, timely') ∧
      (late.lookup catalog name).value = .ok (child, late') ∧
      (late.child? name = none ∨ Table.get? name late.parked = none) := by
    rcases h.declared name declared found with
      ⟨same, none⟩ | ⟨-, fresh, sub, child, -, parked, made, ok⟩
    · cases made : timely.child? name with
      | some child =>
        rw [made] at same
        exact ⟨child, _, _, Composite.lookup_made h.known found made,
          Composite.lookup_made knownLate found same, Or.inr none⟩
      | none =>
        rw [made] at same
        have new := Composite.lookup_new h.known found made
        have newLate := Composite.lookup_new knownLate found same
        rw [unparked] at new
        rw [none] at newLate
        exact ⟨_, _, _, new, newLate, Or.inl same⟩
    · have newLate := Composite.lookup_new knownLate found fresh
      rw [parked, value_newChild ok] at newLate
      exact ⟨child, _, _, Composite.lookup_made h.known found made, newLate, Or.inl fresh⟩
  obtain ⟨child, timely', late', hfound, hfoundLate, apart⟩ := alike
  exact ⟨child, timely', late', hfound, hfoundLate, .of_lookup hfound (Or.inr unparked),
    .of_lookup hfoundLate apart⟩

theorem Heals.withContent (h : Heals catalog type trees asked timely late) (content : Content) :
    Heals catalog type trees asked { timely with content } { late with content } :=
  ⟨h.known, h.typeName, rfl, h.sorted, h.sortedLate, h.sortedParked, h.unparked, h.undeclared,
    h.declared⟩

/-- A walk does the same to the children of both. -/
theorem Heals.walkChildren {σ : Type}
    {step : Configuration → σ → Option (Traced (Configuration × σ))} {declared : List Child}
    (found : ∀ d ∈ declared, ∃ d', type.child? d.name = some d')
    (h : Heals catalog type trees asked timely late) (s : σ) :
    Option.Rel (fun r r' => r.value.2 = r'.value.2 ∧
        Heals catalog type trees (asked ++ declared.map Child.name) r.value.1 r'.value.1)
      (walkChildren catalog step declared timely s)
      (walkChildren catalog step declared late s) := by
  induction declared generalizing timely late asked s with
  | nil =>
    rw [List.map_nil, List.append_nil]
    exact Option.Rel.some ⟨rfl, h⟩
  | cons d rest ih =>
    obtain ⟨d', hd'⟩ := found d List.mem_cons_self
    obtain ⟨child, timely', late', here, there, made, madeLate⟩ := h.exists_lookup hd'
    rw [Configuration.walkChildren, Configuration.walkChildren, List.map_cons]
    simp only [here, there]
    cases step child s with
    | none => exact Option.Rel.none
    | some r =>
      have others := ih (fun d hd => found d (List.mem_cons_of_mem _ hd))
        (h.made hd' (made.withChild r.value.1) (madeLate.withChild r.value.1)) r.value.2
      rw [List.append_assoc, List.singleton_append] at others
      rw [Option.bind_some, Option.bind_some]
      refine rel_map ?_ others
      intro walked walked' both
      exact both

theorem Heals.walkWithin {σ : Type} {walker : Walker σ} {levels : Nat}
    (h : Heals catalog type trees asked timely late) (s : σ) :
    Option.Rel (fun r r' => r.value.2 = r'.value.2 ∧
        Healing catalog type trees (asked ++ type.children.map Child.name) r.value.1 r'.value.1)
      (walkWithin catalog walker levels (.composite timely) s)
      (walkWithin catalog walker levels (.composite late) s) := by
  cases levels with
  | zero => exact Option.Rel.none
  | succ levels =>
    have knownLate : catalog.type? late.typeName = some type := h.typeName ▸ h.known
    have views : late.views catalog = timely.views catalog := by
      rw [Composite.views, Composite.views, h.typeName, h.content]
    have declared : ∀ e ∈ timely.views catalog, ∃ p ∈ type.properties, p.name = e.1 := by
      rw [Composite.views, h.known]
      exact fun e he => Property.exists_property_of_mem_views _ _ he
    have found : ∀ d ∈ type.children, ∃ d', type.child? d.name = some d' := fun d hd =>
      Option.isSome_iff_exists.1 (List.find?_isSome.2 ⟨d, hd, by simp⟩)
    have stored := h.withContent (timely.content.setAll
      (changes [] (walker.replies (Visit.ofViews (timely.views catalog)) s)))
    rw [Configuration.walkWithin, Configuration.walkWithin, views,
      Composite.visitViews_value h.known declared, Composite.visitViews_value knownLate declared]
    simp only [Composite.answered, h.content, h.known, knownLate]
    refine rel_map ?_ (stored.walkChildren found _)
    exact fun r r' both => ⟨both.1, _, _, rfl, rfl, both.2⟩

/-- Every request is answered alike. -/
theorem Heals.respond (h : Heals catalog type trees asked timely late) (request : Request) :
    Option.Rel (fun r r' => r.1 = r'.1 ∧
        Healing catalog type trees (asked ++ request.lookedUp type) r.2 r'.2)
      (request.respond catalog (.composite timely)) (request.respond catalog (.composite late)) := by
  have knownLate : catalog.type? late.typeName = some type := h.typeName ▸ h.known
  cases request with
  | lookup name =>
    rw [Request.respond, Request.respond]
    cases found : type.child? name with
    | none =>
      rw [Composite.lookup_undeclared h.known found, Composite.lookup_undeclared knownLate found,
        h.typeName]
      exact Option.Rel.some ⟨rfl, timely, late, rfl, rfl, h.ask_undeclared found⟩
    | some declared =>
      obtain ⟨child, timely', late', here, there, made, madeLate⟩ := h.exists_lookup found
      rw [here, there]
      exact Option.Rel.some ⟨rfl, timely', late', rfl, rfl, h.made found made madeLate⟩
  | views =>
    have views : late.views catalog = timely.views catalog := by
      rw [Composite.views, Composite.views, h.typeName, h.content]
    rw [Request.lookedUp, List.append_nil]
    exact Option.Rel.some ⟨congrArg Answer.views views.symm, timely, late, rfl, rfl, h⟩
  | update name value =>
    rw [Request.lookedUp, List.append_nil, Request.respond, Request.respond, afterUpdate,
      afterUpdate, update?, update?, Composite.update?_of_known h.known,
      Composite.update?_of_known knownLate, h.content]
    cases Property.update? type.properties timely.content name value with
    | none => exact Option.Rel.some ⟨rfl, timely, late, rfl, rfl, h⟩
    | some content => exact Option.Rel.some ⟨rfl, _, _, rfl, rfl, h.withContent content⟩
  | walk walker s levels =>
    refine rel_map (fun r r' both => ⟨?_, both.2⟩) (h.walkWithin (s, []))
    rw [both.1]
  | within name request =>
    rw [Request.respond, Request.respond]
    cases found : type.child? name with
    | none =>
      rw [Composite.lookup_undeclared h.known found, Composite.lookup_undeclared knownLate found,
        h.typeName]
      exact Option.Rel.some ⟨rfl, timely, late, rfl, rfl, h.ask_undeclared found⟩
    | some declared =>
      obtain ⟨child, timely', late', here, there, made, madeLate⟩ := h.exists_lookup found
      rw [here, there]
      dsimp only
      -- The child is the same on both sides, and so is whatever becomes of it.
      cases inner : request.respond catalog child with
      | none => exact Option.Rel.none
      | some r => exact Option.Rel.some ⟨rfl, _, _, rfl, rfl,
          h.made found (made.withChild r.2) (madeLate.withChild r.2)⟩

/-- To begin with, all that was loaded in time waits. -/
theorem heals_of_takenOver {typeName : String} (known : catalog.type? typeName = some type)
    (sorted : trees.Sorted) (content : Content) {children : Table Configuration}
    (taken : TakenOver catalog type trees [] children) :
    Heals catalog type trees [] ⟨typeName, content, children, []⟩ ⟨typeName, content, [], trees⟩ := by
  have nothing (name : String) (unassigned : assigned? type trees name = none) :
      Table.get? name children = none := taken.others name unassigned
  refine ⟨known, rfl, rfl, taken.sorted Table.sorted_nil, Table.sorted_nil, sorted, fun _ => rfl,
    fun name undeclared => ⟨nothing name ?_, rfl, rfl⟩, fun name declared found => ?_⟩
  · rw [assigned?, undeclared]
    rfl
  · cases there : trees.get? name with
    | none =>
      have unassigned : assigned? type trees name = none := by
        rw [assigned?, found, there]
        rfl
      exact Or.inl ⟨(nothing name unassigned).symm, rfl⟩
    | some sub =>
      obtain ⟨child, made, loads⟩ :=
        taken.loaded name declared sub (assigned?_eq_some_iff.2 ⟨found, there⟩)
      exact Or.inr ⟨List.not_mem_nil, rfl, sub, child, there, there, made, loads⟩

/-- When all that waited has been asked for, only what is not declared is still kept aside. -/
theorem Heals.settled (h : Heals catalog type trees asked timely late) (sorted : trees.Sorted)
    (all : ∀ name p, assigned? type trees name = some p → name ∈ asked) :
    timely.parked = [] ∧
      late = { timely with parked := trees.filter fun e => (type.child? e.1).isNone } := by
  have healed (name : String) (declared : Child) (found : type.child? name = some declared) :
      late.child? name = timely.child? name ∧ Table.get? name late.parked = none := by
    refine (h.declared name declared found).resolve_right ?_
    rintro ⟨fresh, -, sub, -, there, -⟩
    exact fresh (all name _ (assigned?_eq_some_iff.2 ⟨found, there⟩))
  have children : late.children = timely.children := by
    refine Table.eq_of_get?_eq h.sortedLate h.sorted fun name => ?_
    cases found : type.child? name with
    | none =>
      obtain ⟨none, noneLate, -⟩ := h.undeclared name found
      exact noneLate.trans none.symm
    | some declared => exact (healed name declared found).1
  have parked : late.parked = trees.filter fun e => (type.child? e.1).isNone := by
    refine Table.eq_of_get?_eq h.sortedParked (Table.sorted_filter sorted _) fun name => ?_
    rw [Table.get?_filter_key trees fun name => (type.child? name).isNone]
    cases found : type.child? name with
    | none => exact (h.undeclared name found).2.2
    | some declared => exact (healed name declared found).2
  refine ⟨Table.eq_nil_of_get?_eq_none h.unparked, ?_⟩
  rw [← parked, ← children, ← h.content, ← h.typeName]

/-- All requests are answered alike. When all the declared children that the trees are for have been
looked up, what is left of a difference is the trees that are for no declared child. -/
def AnsweredAlike (catalog : Catalog) (type : ObjectType) (trees : Table Json)
    (timely late : Configuration) : Prop :=
  ∀ requests, Option.Rel (fun r r' => r.1 = r'.1 ∧
      ((∀ name p, assigned? type trees name = some p →
          name ∈ requests.flatMap (Request.lookedUp type)) →
        ∃ node : Composite Configuration, node.parked = [] ∧ r.2 = .composite node ∧
          r'.2 = .composite
            { node with parked := trees.filter fun e => (type.child? e.1).isNone }))
    (Request.run catalog requests timely) (Request.run catalog requests late)

theorem Heals.answeredAlike (h : Heals catalog type trees [] timely late) (sorted : trees.Sorted) :
    AnsweredAlike catalog type trees (.composite timely) (.composite late) := by
  intro requests
  have step (asked : List String) (c c' : Configuration) (request : Request)
      (h : Healing catalog type trees asked c c') :
      Option.Rel (fun r r' => r.1 = r'.1 ∧
          Healing catalog type trees (asked ++ request.lookedUp type) r.2 r'.2)
        (request.respond catalog c) (request.respond catalog c') := by
    obtain ⟨timely, late, rfl, rfl, h⟩ := h
    exact h.respond request
  have runs := Request.run_alike step requests ⟨timely, late, rfl, rfl, h⟩
  rw [List.nil_append] at runs
  refine rel_imp (fun r r' both => ⟨both.1, fun all => ?_⟩) runs
  obtain ⟨-, timely, late, here, there, h⟩ := both
  obtain ⟨unparked, same⟩ := h.settled sorted all
  exact ⟨timely, unparked, here, there.trans (congrArg _ same)⟩

/-- An object that is loaded while its type is not known, and then used when it is, answers as one
that is loaded when the type is known. -/
theorem load_unknown_heals {before : Catalog} {typeName : String}
    (unknown : before.type? typeName = none) (known : catalog.type? typeName = some type)
    {tree : Json} (sorted : tree.Sorted) {timely : Configuration}
    (loads : ((Configuration.composite (.fresh typeName)).load catalog tree).value = .ok timely) :
    ∃ content trees late, tree.parts? = some (content, trees) ∧
      ((Configuration.composite (.fresh typeName)).load before tree).value = .ok late ∧
      AnsweredAlike catalog type trees timely late := by
  cases parts : tree.parts? with
  | none =>
    obtain ⟨fault, fails⟩ := load_of_no_parts catalog (.fresh typeName) parts
    rw [fails] at loads
    cases loads
  | some both =>
    obtain ⟨content, trees⟩ := both
    obtain ⟨sortedTrees, -⟩ := sorted.children parts
    obtain ⟨children, rfl, taken⟩ := exists_of_load parts sortedTrees known loads
    have heals : Heals catalog type trees [] _ _ :=
      heals_of_takenOver known sortedTrees (.ofEntries content) taken
    exact ⟨content, trees, _, rfl, load_of_unresolved parts unknown,
      heals.answeredAlike sortedTrees⟩

/-- A bag with a coin and a purse, which bags do not have. -/
def bagWithPurse : Json := .object [("childrenContent", .object [
  ("coin", .object [("content", .object [("face", .string "queen.png")])]),
  ("purse", .object [("content", .object [("size", .string "2")])])])]

theorem load_unknown_heals_bagWithPurse :
    baglessCatalog.type? "Game::Bag" = none ∧ bagWithPurse.Sorted ∧
      ∃ type timely content trees late, knightCatalog.type? "Game::Bag" = some type ∧
        ((Configuration.composite (.fresh "Game::Bag")).load knightCatalog bagWithPurse).value =
          .ok timely ∧
        bagWithPurse.parts? = some (content, trees) ∧
        ((Configuration.composite (.fresh "Game::Bag")).load baglessCatalog bagWithPurse).value =
          .ok late ∧
        AnsweredAlike knightCatalog type trees timely late := by
  have unknown : baglessCatalog.type? "Game::Bag" = none := by
    rw [← Option.isNone_iff_eq_none]
    decide +kernel
  have sorted : bagWithPurse.Sorted := by decide
  have resolves : (knightCatalog.type? "Game::Bag").isSome = true := by decide +kernel
  have accepted : ((Configuration.composite (.fresh "Game::Bag")).load knightCatalog
      bagWithPurse).value.isOk = true := by
    decide +kernel
  obtain ⟨type, known⟩ := Option.isSome_iff_exists.1 resolves
  obtain ⟨timely, loads⟩ := exists_of_isOk accepted
  obtain ⟨content, trees, late, parts, kept, alike⟩ := load_unknown_heals unknown known sorted loads
  exact ⟨unknown, sorted, type, timely, content, trees, late, known, loads, parts, kept, alike⟩

/-- The bag that was loaded late still keeps the purse when its coin has been made. -/
example : (Request.run knightCatalog [.lookup "coin"]
    ((Configuration.composite (.fresh "Game::Bag")).afterLoad baglessCatalog
      bagWithPurse)).map (fun r => r.2.save) = some (.object [
    ("childrenContent", .object [
      ("coin", .object [
        ("childrenContent", .object []), ("content", .object [("face", .string "queen.png")])]),
      ("purse", .object [("content", .object [("size", .string "2")])])]),
    ("content", .object [])]) := by
  decide +kernel

end Configuration
end CompositeObjects
