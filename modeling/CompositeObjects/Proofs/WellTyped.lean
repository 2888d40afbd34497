import CompositeObjects.Proofs.Growth

namespace CompositeObjects

/-- A configuration of the same variant and type name, without any state. -/
def Configuration.blank : Configuration → Configuration
  | .verbatim typeName _ => .verbatim typeName .null
  | .composite node => .composite (.fresh node.typeName)

def Child.blank (c : Child) : Child := ⟨c.name, c.default.blank⟩

/-- A type with the names and the kinds of its children, without what their defaults hold. -/
def ObjectType.blank (t : ObjectType) : ObjectType :=
  { t with children := t.children.map Child.blank }

theorem ObjectType.child?_blank (t : ObjectType) (name : String) :
    t.blank.child? name = (t.child? name).map Child.blank := List.find?_map ..

theorem ObjectType.exists_child?_of_blank_eq {s t : ObjectType} (h : s.blank = t.blank)
    {name : String} {declared : Child} (found : s.child? name = some declared) :
    ∃ other, t.child? name = some other ∧ other.default.blank = declared.default.blank := by
  have same := t.child?_blank name
  rw [← h, s.child?_blank, found] at same
  obtain ⟨other, hother, hblank⟩ := Option.map_eq_some_iff.1 same.symm
  exact ⟨other, hother, congrArg Child.default hblank⟩

/-- Two catalogs know the same types but for what the defaults of children hold. -/
def Catalog.SameOutline (c d : Catalog) : Prop :=
  ∀ name, (c.type? name).map ObjectType.blank = (d.type? name).map ObjectType.blank

namespace Catalog.SameOutline

variable {c d : Catalog} {name : String}

theorem type?_eq_none (h : c.SameOutline d) (unknown : c.type? name = none) :
    d.type? name = none := by
  have same := h name
  rw [unknown] at same
  exact Option.map_eq_none_iff.1 same.symm

theorem exists_type? (h : c.SameOutline d) {type : ObjectType}
    (known : c.type? name = some type) :
    ∃ other, d.type? name = some other ∧ type.blank = other.blank := by
  have same := h name
  rw [known] at same
  obtain ⟨other, hother, hblank⟩ := Option.map_eq_some_iff.1 same.symm
  exact ⟨other, hother, hblank.symm⟩

end Catalog.SameOutline

namespace Configuration

/-- In an object of a known type each child is declared, is of the variant and the type of the first
default under its name, and nothing is kept aside; an object of an unknown type has no children. -/
inductive WellTyped (catalog : Catalog) : Configuration → Prop where
  | verbatim (typeName : String) (tree : Json) : WellTyped catalog (.verbatim typeName tree)
  | resolved {node : Composite Configuration} {type : ObjectType}
      (known : catalog.type? node.typeName = some type) (unparked : node.parked = [])
      (declared : ∀ e ∈ node.children, ∃ declared,
        type.child? e.1 = some declared ∧ e.2.blank = declared.default.blank)
      (children : ∀ e ∈ node.children, WellTyped catalog e.2) :
      WellTyped catalog (.composite node)
  | unresolved {node : Composite Configuration}
      (unknown : catalog.type? node.typeName = none) (childless : node.children = []) :
      WellTyped catalog (.composite node)

variable {catalog other : Catalog}

theorem blank_blank (c : Configuration) : c.blank.blank = c.blank := by
  cases c <;> rfl

theorem wellTyped_fresh (catalog : Catalog) (typeName : String) :
    WellTyped catalog (.composite (.fresh typeName)) := by
  cases known : catalog.type? typeName with
  | none => exact WellTyped.unresolved known rfl
  | some type =>
    refine WellTyped.resolved known rfl (fun e he => ?_) fun e he => ?_
    · cases he
    · cases he

theorem WellTyped.unparked {node : Composite Configuration} {type : ObjectType}
    (wt : WellTyped catalog (.composite node)) (known : catalog.type? node.typeName = some type) :
    node.parked = [] := by
  cases wt with
  | unresolved unknown => rw [known] at unknown; cases unknown
  | resolved _ unparked => exact unparked

/-- A child begins as one that has been made, or else as the declared default. -/
theorem WellTyped.start {node : Composite Configuration} {type : ObjectType}
    {name : String} {declared : Child} (wt : WellTyped catalog (.composite node))
    (known : catalog.type? node.typeName = some type) (found : type.child? name = some declared)
    (default : WellTyped catalog declared.default) :
    WellTyped catalog (startingChild node.children declared) ∧
      (startingChild node.children declared).blank = declared.default.blank := by
  cases wt with
  | unresolved unknown => rw [known] at unknown; cases unknown
  | resolved known' _ declaredAll children =>
    rw [known] at known'
    cases known'
    rw [startingChild_of_child? found node.children]
    cases made : Table.get? name node.children with
    | none => exact ⟨default, rfl⟩
    | some child =>
      obtain ⟨declared', found', kind⟩ := declaredAll _ (Table.mem_of_get? made)
      rw [found] at found'
      cases found'
      exact ⟨children _ (Table.mem_of_get? made), kind⟩

theorem Grown.blank_eq {base c : Configuration} (h : Grown catalog base c) :
    c.blank = base.blank := by
  cases h with
  | verbatim => rfl
  | unresolved same => exact congrArg (Configuration.composite ∘ Composite.fresh) same
  | resolved same => exact congrArg (Configuration.composite ∘ Composite.fresh) same

/-- What has grown from something well-typed is so too. -/
theorem Grown.wellTyped (defaults : ∀ name type, catalog.type? name = some type →
      ∀ declared ∈ type.children, WellTyped catalog declared.default)
    {base c : Configuration} (h : Grown catalog base c) (wt : WellTyped catalog base) :
    WellTyped catalog c := by
  induction h with
  | verbatim => exact WellTyped.verbatim ..
  | unresolved same unknown _ _ childless => exact .unresolved (same ▸ unknown) childless
  | @resolved base node type same known _ unparked _ sorted _ declared grown ih =>
    have made (e : String × Configuration) (he : e ∈ node.children) :
        node.child? e.1 = some e.2 := Table.get?_of_mem (Table.nodup_of_sorted sorted) he
    have start (name : String) (d : Child) (hd : type.child? name = some d) :=
      wt.start known hd (defaults _ _ known d (ObjectType.child?_eq_some hd).1)
    refine .resolved (same ▸ known) unparked (fun e he => ?_) fun e he => ?_
    · obtain ⟨d, hd⟩ := declared _ _ (made e he)
      exact ⟨d, hd, ((grown _ _ d (made e he) hd).blank_eq).trans (start e.1 d hd).2⟩
    · obtain ⟨d, hd⟩ := declared _ _ (made e he)
      exact ih _ _ d (made e he) hd (start e.1 d hd).1

/-- Only the outline of the catalog counts. -/
theorem WellTyped.of_sameOutline (same : catalog.SameOutline other) {c : Configuration}
    (h : WellTyped catalog c) : WellTyped other c := by
  induction h with
  | verbatim => exact WellTyped.verbatim ..
  | unresolved unknown childless => exact .unresolved (same.type?_eq_none unknown) childless
  | resolved known unparked declared _ ih =>
    obtain ⟨type', known', hblank⟩ := same.exists_type? known
    refine .resolved known' unparked (fun e he => ?_) ih
    obtain ⟨d, hd, kind⟩ := declared e he
    obtain ⟨d', hd', kind'⟩ := ObjectType.exists_child?_of_blank_eq hblank hd
    exact ⟨d', hd', kind.trans kind'.symm⟩

/-- What has grown is grown from itself, also for a catalog with other defaults. -/
theorem Grown.self_of_sameOutline (same : catalog.SameOutline other) {base c : Configuration}
    (h : Grown catalog base c) : Grown other c c := by
  induction h with
  | verbatim => exact Grown.verbatim ..
  | @unresolved base node sameType unknown content bare childless =>
    exact .unresolved rfl (same.type?_eq_none (sameType ▸ unknown)) content childless childless
  | @resolved base node type sameType known content unparked _ sorted _ declared _ ih =>
    obtain ⟨type', known', hblank⟩ := same.exists_type? known
    refine .resolved rfl (sameType ▸ known') content unparked sorted sorted (fun _ none => none)
      (fun name child made => ?_) fun name child d' made hd' => ?_
    · obtain ⟨d, hd⟩ := declared name child made
      obtain ⟨d', hd', -⟩ := ObjectType.exists_child?_of_blank_eq hblank hd
      exact ⟨d', hd'⟩
    · obtain ⟨d, hd⟩ := declared name child made
      have begins : startingChild node.children d' = child := by
        rw [startingChild_of_child? hd' node.children]
        exact congrArg (Option.getD · d'.default) made
      rw [begins]
      exact ih name child d made hd

end Configuration
end CompositeObjects
