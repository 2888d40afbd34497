import CompositeObjects.Proofs.Replies

namespace CompositeObjects

namespace Composite

variable {catalog : Catalog} {σ : Type} {walker : Walker σ}

theorem update?_declared {node : Composite Configuration} {type : ObjectType} {name : String}
    (known : catalog.type? node.typeName = some type)
    (declared : ∃ p ∈ type.properties, p.name = name) (value : String) :
    node.update? catalog name value =
      some { node with content := node.content.set name value } := by
  obtain ⟨p, hp, hname⟩ := declared
  have any : type.properties.any (·.name == name) = true :=
    List.any_eq_true.2 ⟨p, hp, by simpa using hname⟩
  rw [update?_of_known known, Property.update?, if_pos any, Option.map_some]

/-- The object with the new answers stored. -/
def answered (node : Composite Configuration) (replies : List (Visit × String)) :
    Composite Configuration :=
  { node with content := node.content.setAll (changes [] replies) }

theorem answered_cons_of_old (node : Composite Configuration) (v : Visit) {answer : String}
    (old : answer = v.value) (others : List (Visit × String)) :
    node.answered ((v, answer) :: others) = node.answered others := by
  rw [answered, answered, changes_cons_of_old [] v old]

theorem answered_cons_of_new (node : Composite Configuration) {name : String} {kind : ResourceKind}
    {value answer : String} (new : answer ≠ value) (others : List (Visit × String)) :
    node.answered ((⟨[], name, kind, value⟩, answer) :: others) =
      answered { node with content := node.content.set name answer } others := by
  have stored : changes [] ((⟨[], name, kind, value⟩, answer) :: others) =
      (name, answer) :: changes [] others := changes_cons_of_new ⟨[], name, kind, value⟩ new others
  rw [answered, answered, stored]
  rfl

/-- The visits of one object ask for its resources in order and store the new answers. -/
theorem visitViews_value {node : Composite Configuration} {type : ObjectType}
    (known : catalog.type? node.typeName = some type) {views : Table Property}
    (declared : ∀ e ∈ views, ∃ p ∈ type.properties, p.name = e.1) (s : σ) :
    (visitViews catalog walker views node s).value =
      (node.answered (walker.replies (Visit.ofViews views) s),
        walker.final (Visit.ofViews views) s) := by
  induction views generalizing node s with
  | nil => rfl
  | cons e rest ih =>
    obtain ⟨name, view⟩ := e
    have others : ∀ e ∈ rest, ∃ p ∈ type.properties, p.name = e.1 := fun e he =>
      declared e (List.mem_cons_of_mem _ he)
    have skipped (none : view.resourceKind? = none) :
        Visit.ofViews ((name, view) :: rest) = Visit.ofViews rest := by
      simp [Visit.ofViews, none]
    rw [visitViews]
    split
    · rename_i otherType
      have none : view.resourceKind? = none := if_neg otherType
      rw [skipped none]
      exact ih known others s
    · cases hkind : view.resourceKind? with
      | none =>
        rw [skipped hkind]
        exact ih known others s
      | some kind =>
        have visited : Visit.ofViews ((name, view) :: rest) =
            ⟨[], name, kind, view.value⟩ :: Visit.ofViews rest := by
          simp [Visit.ofViews, hkind]
        rw [visited, Walker.replies]
        dsimp only
        by_cases old : (walker.visit kind view.value s).1 = view.value
        · rw [if_pos old, answered_cons_of_old node ⟨[], name, kind, view.value⟩ old]
          exact ih known others _
        · rw [if_neg old, update?_declared known (declared _ List.mem_cons_self), Option.getD_some,
            answered_cons_of_new node old]
          exact @ih { node with
            content := node.content.set name (walker.visit kind view.value s).1 } known others _

end Composite

namespace Configuration

/-- What a configuration holds itself, without what is under it. -/
def level : Configuration → Configuration
  | .verbatim typeName tree => .verbatim typeName tree
  | .composite node => .composite { node with children := [], parked := [] }

/-- Stores values under names in the content. -/
def store (changes : List (String × String)) : Configuration → Configuration
  | .verbatim typeName tree => .verbatim typeName tree
  | .composite node => .composite { node with content := node.content.setAll changes }

/-- What a walk leaves behind: at every path the new answers have been stored and all else is as it
was or as a lookup would have made it, and every declared child has been made. -/
structure Walked (catalog : Catalog) (replies : List (Visit × String))
    (before after : Configuration) : Prop where
  stored : ∀ path, (after.at? catalog path).map level =
    (before.at? catalog path).map fun c => (c.store (changes path replies)).level
  expanded : ∀ path c, after.at? catalog path = some c → after.find? path = .ok (some c)

/-- The same for the declared children of one object. -/
structure WalkedChildren (catalog : Catalog) (declared : List Child)
    (replies : List (Visit × String)) (before after : Composite Configuration) : Prop where
  typeName : after.typeName = before.typeName
  content : after.content = before.content
  others : ∀ name, (∀ d ∈ declared, d.name ≠ name) → after.child? name = before.child? name
  made : ∀ d ∈ declared, ∃ child, after.child? d.name = some child ∧
    Walked catalog (within d.name replies) (startingChild before.children d) child

/-- A walk that has come to its end after the visits, in their order. -/
def Tours {σ : Type} (catalog : Catalog) (walker : Walker σ) (visits : List Visit)
    (c : Configuration) (s : σ) (result : Option (Traced (Configuration × σ))) : Prop :=
  ∃ r, result = some r ∧ r.value.2 = walker.final visits s ∧
    Walked catalog (walker.replies visits s) c r.value.1

variable {catalog : Catalog} {σ : Type} {walker : Walker σ}

/-- Nothing is to be done where nothing can be looked up. -/
theorem walked_of_bare {c : Configuration}
    (bare : ∀ name path, c.at? catalog (name :: path) = none) : Walked catalog [] c c := by
  constructor
  · intro path
    cases path with
    | nil => cases c <;> rfl
    | cons name path => rw [bare, Option.map_none, Option.map_none]
  · intro path inner found
    cases path with
    | nil =>
      rw [at?_nil] at found
      rw [find?, Option.some.inj found]
    | cons name path =>
      rw [bare] at found
      cases found

theorem startingChild_withChild_of_ne {node : Composite Configuration} {d : Child} {name : String}
    (hne : d.name ≠ name) (child : Configuration) :
    startingChild (node.withChild name child).children d = startingChild node.children d :=
  startingChild_insert_of_ne hne child node.children

theorem walkChildren_cons {step : Configuration → σ → Option (Traced (Configuration × σ))}
    {d : Child} {rest : List Child} {node node' : Composite Configuration} {s : σ}
    {child : Configuration} (found : (node.lookup catalog d.name).value = .ok (child, node'))
    {walked : Traced (Configuration × σ)} (here : step child s = some walked)
    {others : Traced (Composite Configuration × σ)}
    (there : walkChildren catalog step rest (node'.withChild d.name walked.value.1)
      walked.value.2 = some others) :
    ∃ r, walkChildren catalog step (d :: rest) node s = some r ∧ r.value = others.value := by
  rw [walkChildren]
  simp only [found, here, there, Option.bind_some, Option.map_some]
  exact ⟨_, rfl, rfl⟩

/-- One child more has been walked before the others. -/
theorem WalkedChildren.cons {d : Child} {rest : List Child} {node after : Composite Configuration}
    {replies others : List (Visit × String)} {child : Configuration}
    (apart : ∀ d' ∈ rest, d'.name ≠ d.name)
    (elsewhere : within d.name others = [])
    (walked : Walked catalog replies (startingChild node.children d) child)
    (h : WalkedChildren catalog rest others (node.withChild d.name child) after) :
    WalkedChildren catalog (d :: rest) (replies.map (fun r => (r.1.under d.name, r.2)) ++ others)
      node after := by
  refine ⟨h.typeName, h.content, fun name absent => ?_, fun d' hd' => ?_⟩
  · have hne : name ≠ d.name := fun hname => absent d List.mem_cons_self hname.symm
    rw [h.others name fun d' hd' => absent d' (List.mem_cons_of_mem _ hd'),
      Composite.child?_withChild, if_neg hne]
  · rw [within_append]
    rcases List.mem_cons.1 hd' with rfl | hd'
    · rw [within_under_self, elsewhere, List.append_nil]
      refine ⟨child, ?_, walked⟩
      rw [h.others d'.name apart, Composite.child?_withChild, if_pos rfl]
    · have hne : d.name ≠ d'.name := (apart d' hd').symm
      obtain ⟨child', made, walked'⟩ := h.made d' hd'
      rw [startingChild_withChild_of_ne hne.symm child] at walked'
      rw [within_under_of_ne hne, List.nil_append]
      exact ⟨child', made, walked'⟩

theorem within_childVisits {levels : Nat} {children : Table Configuration} {declared : List Child}
    {name : String} (absent : ∀ d ∈ declared, d.name ≠ name) (s : σ) :
    within name (walker.replies (childVisits catalog levels children declared) s) = [] := by
  refine within_of_head?_ne fun r hr => ?_
  obtain ⟨d, hd, path, hpath, -⟩ := mem_childVisits_iff.1 (walker.mem_of_mem_replies hr)
  rw [hpath, List.head?_cons]
  exact fun same => absent d hd (Option.some.inj same)

theorem walkChildren_spec {step : Configuration → σ → Option (Traced (Configuration × σ))}
    {levels : Nat} {type : ObjectType} {declared : List Child} {node : Composite Configuration}
    (known : catalog.type? node.typeName = some type) (unparked : node.parked = [])
    (distinct : (declared.map Child.name).Nodup)
    (first : ∀ d ∈ declared, type.child? d.name = some d)
    (walks : ∀ d ∈ declared, ∀ s, Tours catalog walker
      (visits catalog levels (startingChild node.children d)) (startingChild node.children d) s
      (step (startingChild node.children d) s)) (s : σ) :
    ∃ r, walkChildren catalog step declared node s = some r ∧
      r.value.2 = walker.final (childVisits catalog levels node.children declared) s ∧
      WalkedChildren catalog declared
        (walker.replies (childVisits catalog levels node.children declared) s) node r.value.1 := by
  induction declared generalizing node s with
  | nil => exact ⟨pure (node, s), rfl, rfl, rfl, rfl, fun _ _ => rfl, fun d hd => by cases hd⟩
  | cons d rest ih =>
    obtain ⟨fresh, distinct⟩ := List.nodup_cons.1 distinct
    have apart : ∀ d' ∈ rest, d'.name ≠ d.name := fun d' hd' hname =>
      fresh (List.mem_map.2 ⟨d', hd', hname⟩)
    obtain ⟨node', found, back⟩ := exists_lookup known unparked (first d List.mem_cons_self)
    obtain ⟨walked, here, state, child⟩ := walks d List.mem_cons_self s
    -- The other children begin as they would have without this walk.
    have begins : ∀ d' ∈ rest, startingChild (node.withChild d.name walked.value.1).children d' =
        startingChild node.children d' :=
      fun d' hd' => startingChild_withChild_of_ne (apart d' hd') _
    have sameVisits :
        childVisits catalog levels (node.withChild d.name walked.value.1).children rest =
          childVisits catalog levels node.children rest :=
      List.flatMap_congr fun d' hd' => by rw [begins d' hd']
    have walks' : ∀ d' ∈ rest, ∀ s, Tours catalog walker
        (visits catalog levels
          (startingChild (node.withChild d.name walked.value.1).children d'))
        (startingChild (node.withChild d.name walked.value.1).children d') s
        (step (startingChild (node.withChild d.name walked.value.1).children d') s) := by
      intro d' hd'
      rw [begins d' hd']
      exact walks d' (List.mem_cons_of_mem _ hd')
    obtain ⟨others, there, final, walkedRest⟩ := @ih (node.withChild d.name walked.value.1) known
      unparked distinct (fun d' hd' => first d' (List.mem_cons_of_mem _ hd')) walks' walked.value.2
    rw [sameVisits] at final walkedRest
    obtain ⟨r, ends, value⟩ := walkChildren_cons found here (by rw [back]; exact there)
    refine ⟨r, ends, ?_, ?_⟩
    · rw [value, childVisits_cons, walker.final_append, walker.final_under, ← state]
      exact final
    · rw [value, childVisits_cons, walker.replies_append, walker.replies_under, walker.final_under,
        ← state]
      exact WalkedChildren.cons apart (within_childVisits apart _) child walkedRest

/-- An object is walked when its own answers have been stored and all its children are walked. -/
theorem walked_of_children {node after : Composite Configuration} {type : ObjectType}
    {own others : List (Visit × String)} (known : catalog.type? node.typeName = some type)
    (unparked : node.parked = []) (here : ∀ r ∈ own, r.1.path = [])
    (deeper : ∀ r ∈ others, r.1.path ≠ [])
    (h : WalkedChildren catalog type.children others (node.answered own) after) :
    Walked catalog (own ++ others) (.composite node) (.composite after) := by
  have knownAfter : catalog.type? after.typeName = some type := h.typeName ▸ known
  have made (name : String) (d : Child) (found : type.child? name = some d) :
      ∃ child, after.child? name = some child ∧
        Walked catalog (within name others) (startingChild node.children d) child := by
    obtain ⟨hd, rfl⟩ := ObjectType.child?_eq_some found
    exact h.made d hd
  have inside (name : String) : within name (own ++ others) = within name others := by
    rw [within_append, within_of_head?_ne, List.nil_append]
    intro r hr
    rw [here r hr]
    exact fun absurd => by cases absurd
  constructor
  · intro path
    cases path with
    | nil =>
      rw [at?_nil, at?_nil, changes_append, changes_nil_of_deeper deeper, List.append_nil,
        Option.map_some, Option.map_some, level, store, level, h.typeName, h.content]
      rfl
    | cons name path =>
      cases found : type.child? name with
      | none => rw [at?_undeclared knownAfter found, at?_undeclared known found]; rfl
      | some d =>
        obtain ⟨child, madeChild, walked⟩ := made name d found
        have lookup := Composite.lookup_made knownAfter found madeChild
        rw [at?_cons_of_ok lookup, at?_declared known unparked found, changes_cons, inside]
        exact walked.stored path
  · intro path c reached
    cases path with
    | nil =>
      rw [at?_nil] at reached
      rw [find?, Option.some.inj reached]
    | cons name path =>
      cases found : type.child? name with
      | none =>
        rw [at?_undeclared knownAfter found] at reached
        cases reached
      | some d =>
        obtain ⟨child, madeChild, walked⟩ := made name d found
        rw [at?_cons_of_ok (Composite.lookup_made knownAfter found madeChild)] at reached
        rw [find?, madeChild]
        exact walked.expanded path c reached

theorem walkWithin_verbatim (walker : Walker σ) (levels : Nat) (typeName : String) (tree : Json)
    (s : σ) : walkWithin catalog walker levels (.verbatim typeName tree) s =
      some (pure (.verbatim typeName tree, s)) := by
  cases levels <;> rfl

theorem walkWithin_unresolved {node : Composite Configuration}
    (unknown : catalog.type? node.typeName = none) (walker : Walker σ) (levels : Nat) (s : σ) :
    walkWithin catalog walker (levels + 1) (.composite node) s =
      some ⟨(.composite node, s), []⟩ := by
  have bare : node.views catalog = [] := by
    rw [Composite.views, unknown]
  rw [walkWithin, bare]
  simp only [Composite.visitViews, Traced.value_pure, unknown, Traced.events_pure]

/-- A walk with enough levels comes to its end, and does at each visit what it should. -/
theorem Expands.tours {levels : Nat} {c : Configuration} (h : Expands catalog levels c)
    (walker : Walker σ) (s : σ) :
    Tours catalog walker (visits catalog levels c) c s (walkWithin catalog walker levels c s) := by
  induction h generalizing s with
  | verbatim levels typeName tree =>
    rw [visits_verbatim]
    exact ⟨_, walkWithin_verbatim .., rfl, walked_of_bare fun _ _ => rfl⟩
  | @unresolved levels node unknown =>
    rw [visits_unresolved unknown]
    exact ⟨_, walkWithin_unresolved unknown .., rfl, walked_of_bare (at?_unresolved unknown)⟩
  | @resolved levels node type known unparked distinct first _ ih =>
    have views : node.views catalog = Property.views type.properties node.content := by
      rw [Composite.views, known]
    have declared : ∀ e ∈ node.views catalog, ∃ p ∈ type.properties, p.name = e.1 := by
      rw [views]
      exact fun e he => Property.exists_property_of_mem_views _ _ he
    have own : (Composite.visitViews catalog walker (node.views catalog) node s).value =
        (node.answered (walker.replies (ownVisits catalog (.composite node)) s),
          walker.final (ownVisits catalog (.composite node)) s) :=
      Composite.visitViews_value known declared s
    have knownAnswered : catalog.type? (node.answered
        (walker.replies (ownVisits catalog (.composite node)) s)).typeName = some type := known
    obtain ⟨r, there, final, children⟩ := walkChildren_spec knownAnswered unparked distinct first ih
      (walker.final (ownVisits catalog (.composite node)) s)
    have ends : ∃ events, walkWithin catalog walker (levels + 1) (.composite node) s =
        some ⟨(.composite r.value.1, r.value.2), events⟩ := by
      rw [walkWithin]
      simp only [own, knownAnswered, there]
      exact ⟨_, rfl⟩
    obtain ⟨events, ends⟩ := ends
    rw [visits_resolved known unparked first]
    refine ⟨_, ends, ?_, ?_⟩
    · rw [walker.final_append]
      exact final
    · rw [walker.replies_append]
      refine walked_of_children known unparked (fun r hr => ?_) (fun r hr => ?_) children
      · exact (mem_ownVisits_iff.1 (walker.mem_of_mem_replies hr)).1
      · obtain ⟨d, -, path, hpath, -⟩ := mem_childVisits_iff.1 (walker.mem_of_mem_replies hr)
        rw [hpath]
        exact List.cons_ne_nil _ _

end Configuration
end CompositeObjects
