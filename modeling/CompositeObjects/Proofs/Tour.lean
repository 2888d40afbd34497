import CompositeObjects.Proofs.Nesting
import CompositeObjects.Proofs.Views
import CompositeObjects.Proofs.WellTyped

namespace CompositeObjects

/-- A resource property that a walk comes to: where it is, and what it holds. -/
structure Visit where
  path : List String
  name : String
  kind : ResourceKind
  value : String
deriving DecidableEq, Repr

namespace Visit

/-- The same resource as seen from the object that holds the child of that name. -/
def under (name : String) (v : Visit) : Visit := { v with path := name :: v.path }

def site (v : Visit) : List String × String := (v.path, v.name)

/-- The resources of known kind among the views of one object, in the order of their names. -/
def ofViews (views : Table Property) : List Visit :=
  views.filterMap fun e => e.2.resourceKind?.map fun kind => ⟨[], e.1, kind, e.2.value⟩

theorem map_site_under (name : String) (visits : List Visit) :
    (visits.map (under name)).map site =
      (visits.map site).map fun site => (name :: site.1, site.2) := by
  rw [List.map_map, List.map_map]
  rfl

/-- What is under a child is at paths that begin with its name. -/
theorem exists_path_of_mem_under {name : String} {visits : List Visit}
    {place : List String × String} (h : place ∈ (visits.map (under name)).map site) :
    ∃ path, place.1 = name :: path := by
  rw [map_site_under] at h
  obtain ⟨inner, -, rfl⟩ := List.mem_map.1 h
  exact ⟨inner.1, rfl⟩

end Visit

namespace Configuration

/-- The configuration that lookups along a path lead to, made or not. -/
def at? (catalog : Catalog) (path : List String) (c : Configuration) : Option Configuration :=
  (actAt catalog (fun c => pure (c, c)) path c).value.2.toOption

/-- The names of the children that the type declares, in order. -/
def childNames (catalog : Catalog) : Configuration → List String
  | .verbatim .. => []
  | .composite node => ((catalog.type? node.typeName).map (·.children.map Child.name)).getD []

def ownVisits (catalog : Catalog) (c : Configuration) : List Visit :=
  Visit.ofViews (c.views catalog)

/-- The resources of a configuration and then those of every declared child, each child with all
that is under it before the next one, down to so many levels. -/
def visits (catalog : Catalog) : Nat → Configuration → List Visit
  | 0, _ => []
  | levels + 1, c => c.ownVisits catalog ++ (c.childNames catalog).flatMap fun name =>
      ((c.at? catalog [name]).elim [] (visits catalog levels)).map (Visit.under name)

/-- All resources of the fully expanded tree. Where no type is within itself, there are no more
levels than types and one. -/
def tour (catalog : Catalog) (c : Configuration) : List Visit :=
  visits catalog (catalog.entries.length + 1) c

/-- No more than so many levels of objects are under the configuration. -/
def Fits (catalog : Catalog) (levels : Nat) : Configuration → Prop
  | .verbatim .. => True
  | .composite node => catalog.Spans levels node.typeName

variable {catalog : Catalog} {node : Composite Configuration} {type : ObjectType}

theorem at?_nil (c : Configuration) : c.at? catalog [] = some c := rfl

theorem at?_cons_of_error {name : String} {error : LookupError}
    (refused : (node.lookup catalog name).value = .error error) (path : List String) :
    at? catalog (name :: path) (.composite node) = none := by
  rw [at?, actAt, Traced.value_bind, refused]
  rfl

theorem at?_cons_of_ok {node' : Composite Configuration} {name : String} {child : Configuration}
    (found : (node.lookup catalog name).value = .ok (child, node')) (path : List String) :
    at? catalog (name :: path) (.composite node) = at? catalog path child := by
  rw [at?, actAt, Traced.value_bind, found]
  rfl

theorem at?_cons (name : String) (path : List String) (c : Configuration) :
    c.at? catalog (name :: path) = (c.at? catalog [name]).bind (at? catalog path) := by
  cases c with
  | verbatim => rfl
  | composite node =>
    cases found : (node.lookup catalog name).value with
    | error error => rw [at?_cons_of_error found, at?_cons_of_error found]; rfl
    | ok pair => rw [at?_cons_of_ok found, at?_cons_of_ok found]; rfl

/-- Where nothing is kept aside, a lookup gives out what the child begins as. -/
theorem exists_lookup (known : catalog.type? node.typeName = some type)
    (unparked : node.parked = []) {name : String} {declared : Child}
    (found : type.child? name = some declared) :
    ∃ node', (node.lookup catalog name).value = .ok (startingChild node.children declared, node') ∧
      ∀ child, node'.withChild name child = node.withChild name child := by
  rw [startingChild_of_child? found node.children]
  cases made : Table.get? name node.children with
  | some child => exact ⟨node, Composite.lookup_made known found made, fun _ => rfl⟩
  | none =>
    have new := Composite.lookup_new known found made
    rw [unparked] at new
    refine ⟨_, new, fun child => ?_⟩
    rw [Composite.withChild, Composite.withChild, Table.insert_insert, unparked]
    rfl

theorem at?_declared (known : catalog.type? node.typeName = some type)
    (unparked : node.parked = []) {name : String} {declared : Child}
    (found : type.child? name = some declared) (path : List String) :
    at? catalog (name :: path) (.composite node) =
      at? catalog path (startingChild node.children declared) := by
  obtain ⟨node', lookup, -⟩ := exists_lookup known unparked found
  exact at?_cons_of_ok lookup path

theorem at?_undeclared (known : catalog.type? node.typeName = some type) {name : String}
    (undeclared : type.child? name = none) (path : List String) :
    at? catalog (name :: path) (.composite node) = none :=
  at?_cons_of_error (Composite.lookup_undeclared known undeclared) path

theorem at?_unresolved (unknown : catalog.type? node.typeName = none) (name : String)
    (path : List String) : at? catalog (name :: path) (.composite node) = none :=
  at?_cons_of_error (Composite.lookup_unresolved unknown name) path

theorem childNames_unresolved (unknown : catalog.type? node.typeName = none) :
    childNames catalog (.composite node) = [] := by
  rw [childNames, unknown]
  rfl

theorem childNames_resolved (known : catalog.type? node.typeName = some type) :
    childNames catalog (.composite node) = type.children.map Child.name := by
  rw [childNames, known]
  rfl

theorem nodup_childNames (distinct : catalog.DistinctChildren) (c : Configuration) :
    (c.childNames catalog).Nodup := by
  cases c with
  | verbatim => exact List.nodup_nil
  | composite node =>
    cases known : catalog.type? node.typeName with
    | none =>
      rw [childNames_unresolved known]
      exact List.nodup_nil
    | some type =>
      rw [childNames_resolved known]
      exact distinct _ _ known

theorem Fits.start {levels : Nat} (fits : Fits catalog (levels + 1) (.composite node))
    (known : catalog.type? node.typeName = some type) {declared : Child}
    (among : declared ∈ type.children) {child : Configuration}
    (kind : child.blank = declared.default.blank) : Fits catalog levels child := by
  cases child with
  | verbatim => trivial
  | composite inner =>
    cases start : declared.default with
    | verbatim typeName tree =>
      rw [start] at kind
      cases kind
    | composite other =>
      rw [start] at kind
      have sameType : inner.typeName = other.typeName := congrArg Configuration.typeName kind
      exact fits inner.typeName ⟨type, known, declared, among, other, start, sameType.symm⟩

theorem sorted_views (c : Configuration) : (c.views catalog).Sorted := by
  cases c with
  | verbatim => exact Table.sorted_nil
  | composite node =>
    change Table.Sorted (Composite.views catalog node)
    rw [Composite.views]
    split
    · exact Table.sorted_nil
    · exact Property.sorted_views _ _

theorem mem_ownVisits_iff {c : Configuration} {v : Visit} :
    v ∈ c.ownVisits catalog ↔ v.path = [] ∧ ∃ view, (c.views catalog).get? v.name = some view ∧
      view.resourceKind? = some v.kind ∧ view.value = v.value := by
  have sorted : Table.Sorted (c.views catalog) := sorted_views c
  rw [ownVisits, Visit.ofViews, List.mem_filterMap]
  constructor
  · rintro ⟨e, he, made⟩
    obtain ⟨kind, hkind, rfl⟩ := Option.map_eq_some_iff.1 made
    exact ⟨rfl, e.2, Table.get?_of_mem (Table.nodup_of_sorted sorted) he, hkind, rfl⟩
  · obtain ⟨path, name, kind, value⟩ := v
    rintro ⟨rfl, view, found, hkind, rfl⟩
    exact ⟨(name, view), Table.mem_of_get? found, by simp only [hkind, Option.map_some]⟩

theorem sorted_ownVisits (c : Configuration) :
    (c.ownVisits catalog).Pairwise (·.name < ·.name) := by
  have sorted : Table.Sorted (c.views catalog) := sorted_views c
  refine List.pairwise_filterMap.2 (sorted.imp fun {a b} hlt v hv w hw => ?_)
  obtain ⟨_, -, rfl⟩ := Option.map_eq_some_iff.1 hv
  obtain ⟨_, -, rfl⟩ := Option.map_eq_some_iff.1 hw
  exact hlt

theorem nodup_ownVisits (c : Configuration) :
    ((c.ownVisits catalog).map Visit.site).Nodup := by
  refine List.pairwise_map.2 ((sorted_ownVisits c).imp fun {v w} hlt same => ?_)
  have hname : v.name = w.name := congrArg Prod.snd same
  rw [hname] at hlt
  exact String.lt_irrefl _ hlt

/-- No resource is come to twice. -/
theorem nodup_visits (distinct : catalog.DistinctChildren) (levels : Nat) (c : Configuration) :
    ((visits catalog levels c).map Visit.site).Nodup := by
  induction levels generalizing c with
  | zero => exact List.nodup_nil
  | succ levels ih =>
    rw [visits, List.map_append, List.map_flatMap]
    refine List.nodup_append'.2 ⟨nodup_ownVisits c, List.nodup_flatMap.2 ⟨fun name _ => ?_, ?_⟩, ?_⟩
    · rw [Visit.map_site_under]
      refine List.Nodup.map (fun a b same => ?_) ?_
      · injection same with hpath hname
        exact Prod.ext (List.cons.inj hpath).2 hname
      · cases c.at? catalog [name] with
        | none => exact List.nodup_nil
        | some child => exact ih child
    · refine (nodup_childNames distinct c).imp fun {name other} hne site h h' => ?_
      obtain ⟨path, hpath⟩ := Visit.exists_path_of_mem_under h
      obtain ⟨path', hpath'⟩ := Visit.exists_path_of_mem_under h'
      exact hne (List.cons.inj (hpath.symm.trans hpath')).1
    · intro site own h
      obtain ⟨name, -, h⟩ := List.mem_flatMap.1 h
      obtain ⟨path, hpath⟩ := Visit.exists_path_of_mem_under h
      obtain ⟨v, hv, rfl⟩ := List.mem_map.1 own
      rw [Visit.site, (mem_ownVisits_iff.1 hv).1] at hpath
      cases hpath

theorem visits_verbatim (levels : Nat) (typeName : String) (tree : Json) :
    visits catalog levels (.verbatim typeName tree) = [] := by
  cases levels <;> rfl

theorem visits_unresolved (unknown : catalog.type? node.typeName = none) (levels : Nat) :
    visits catalog levels (.composite node) = [] := by
  cases levels with
  | zero => rfl
  | succ levels =>
    have bare : ownVisits catalog (.composite node) = [] := by
      rw [ownVisits, views, Composite.views, unknown]
      rfl
    rw [visits, bare, childNames_unresolved unknown]
    rfl

/-- The visits under each of the children, one after the other. -/
def childVisits (catalog : Catalog) (levels : Nat) (children : Table Configuration)
    (declared : List Child) : List Visit :=
  declared.flatMap fun d =>
    (visits catalog levels (startingChild children d)).map (Visit.under d.name)

theorem childVisits_cons (levels : Nat) (children : Table Configuration) (d : Child)
    (rest : List Child) :
    childVisits catalog levels children (d :: rest) =
      (visits catalog levels (startingChild children d)).map (Visit.under d.name) ++
        childVisits catalog levels children rest := List.flatMap_cons

theorem visits_resolved (known : catalog.type? node.typeName = some type)
    (unparked : node.parked = []) (first : ∀ d ∈ type.children, type.child? d.name = some d)
    (levels : Nat) :
    visits catalog (levels + 1) (.composite node) =
      ownVisits catalog (.composite node) ++
        childVisits catalog levels node.children type.children := by
  rw [visits, childNames_resolved known, List.flatMap_map, childVisits]
  congr 1
  refine List.flatMap_congr fun d hd => ?_
  rw [at?_declared known unparked (first d hd), at?_nil]
  rfl

/-- The fully expanded tree under a configuration has no more than so many levels of objects, and in
none of them is a tree kept aside or a child hidden behind another one of its name. -/
inductive Expands (catalog : Catalog) : Nat → Configuration → Prop where
  | verbatim (levels : Nat) (typeName : String) (tree : Json) :
      Expands catalog levels (.verbatim typeName tree)
  | unresolved (levels : Nat) {node : Composite Configuration}
      (unknown : catalog.type? node.typeName = none) :
      Expands catalog (levels + 1) (.composite node)
  | resolved {levels : Nat} {node : Composite Configuration} {type : ObjectType}
      (known : catalog.type? node.typeName = some type) (unparked : node.parked = [])
      (distinct : (type.children.map Child.name).Nodup)
      (first : ∀ d ∈ type.children, type.child? d.name = some d)
      (children : ∀ d ∈ type.children, Expands catalog levels (startingChild node.children d)) :
      Expands catalog (levels + 1) (.composite node)

theorem expands_of_wellTyped (defaults : ∀ name type, catalog.type? name = some type →
      ∀ declared ∈ type.children, WellTyped catalog declared.default)
    (distinct : catalog.DistinctChildren) {levels : Nat} {c : Configuration}
    (wt : WellTyped catalog c) (fits : Fits catalog levels c) : Expands catalog levels c := by
  induction levels generalizing c with
  | zero =>
    cases c with
    | verbatim typeName tree => exact Expands.verbatim 0 typeName tree
    | composite node => exact fits.elim
  | succ levels ih =>
    cases c with
    | verbatim typeName tree => exact Expands.verbatim (levels + 1) typeName tree
    | composite node =>
      cases known : catalog.type? node.typeName with
      | none => exact Expands.unresolved levels known
      | some type =>
        refine Expands.resolved known (wt.unparked known) (distinct _ _ known)
          (fun d hd => distinct.child?_eq_some known hd) fun d hd => ?_
        obtain ⟨wtChild, kind⟩ := wt.start known (distinct.child?_eq_some known hd)
          (defaults _ _ known d hd)
        exact ih wtChild (fits.start known hd kind)

/-- More levels than there are make no difference. -/
theorem Expands.visits_eq {levels more : Nat} {c : Configuration} (h : Expands catalog levels c)
    (hle : levels ≤ more) : visits catalog more c = visits catalog levels c := by
  induction h generalizing more with
  | verbatim => rw [visits_verbatim, visits_verbatim]
  | unresolved levels unknown => rw [visits_unresolved unknown, visits_unresolved unknown]
  | @resolved levels node type known unparked _ first _ ih =>
    obtain ⟨more, rfl⟩ : ∃ n, more = n + 1 := ⟨more - 1, by omega⟩
    rw [visits_resolved known unparked first, visits_resolved known unparked first, childVisits,
      childVisits]
    congr 1
    refine List.flatMap_congr fun d hd => ?_
    rw [ih d hd (by omega)]

theorem Expands.visits_unique {levels more : Nat} {c : Configuration}
    (h : Expands catalog levels c) (h' : Expands catalog more c) :
    visits catalog more c = visits catalog levels c := by
  rcases Nat.le_total levels more with hle | hle
  · exact h.visits_eq hle
  · exact (h'.visits_eq hle).symm

theorem Expands.mono {levels more : Nat} {c : Configuration} (h : Expands catalog levels c)
    (hle : levels ≤ more) : Expands catalog more c := by
  induction h generalizing more with
  | verbatim _ typeName tree => exact Expands.verbatim more typeName tree
  | unresolved levels unknown =>
    obtain ⟨more, rfl⟩ : ∃ n, more = n + 1 := ⟨more - 1, by omega⟩
    exact Expands.unresolved more unknown
  | resolved known unparked distinct first _ ih =>
    obtain ⟨more, rfl⟩ : ∃ n, more = n + 1 := ⟨more - 1, by omega⟩
    exact Expands.resolved known unparked distinct first fun d hd => ih d hd (by omega)

theorem Expands.child {levels : Nat} {c child : Configuration}
    (h : Expands catalog (levels + 1) c) {name : String}
    (found : c.at? catalog [name] = some child) : Expands catalog levels child := by
  cases h with
  | verbatim => cases found
  | unresolved _ unknown =>
    rw [at?_unresolved unknown] at found
    cases found
  | @resolved _ node type known unparked _ _ children =>
    cases declared : type.child? name with
    | none =>
      rw [at?_undeclared known declared] at found
      cases found
    | some d =>
      rw [at?_declared known unparked declared, at?_nil] at found
      cases found
      exact children d (ObjectType.child?_eq_some declared).1

theorem Expands.at? {levels : Nat} {c inner : Configuration} (h : Expands catalog levels c)
    {path : List String} (reached : c.at? catalog path = some inner) :
    Expands catalog levels inner := by
  induction path generalizing levels c with
  | nil =>
    rw [at?_nil] at reached
    cases reached
    exact h
  | cons name path ih =>
    rw [at?_cons] at reached
    obtain ⟨child, found, reached⟩ := Option.bind_eq_some_iff.1 reached
    cases levels with
    | zero =>
      cases h
      cases found
    | succ levels => exact (ih (h.child found) reached).mono (Nat.le_succ levels)

/-- One level less is under a child, so the visits of each object begin with its own and go on with
those of its children, whatever the bound on the levels. -/
theorem Expands.visits_unfold {levels : Nat} {c : Configuration}
    (h : Expands catalog (levels + 1) c) :
    visits catalog (levels + 1) c = c.ownVisits catalog ++ (c.childNames catalog).flatMap
      fun name => ((c.at? catalog [name]).elim [] (visits catalog (levels + 1))).map
        (Visit.under name) := by
  rw [visits]
  congr 1
  refine List.flatMap_congr fun name _ => ?_
  cases found : c.at? catalog [name] with
  | none => rfl
  | some child =>
    have same := (h.child found).visits_eq (Nat.le_succ levels)
    rw [Option.elim_some, Option.elim_some, same]

theorem mem_childVisits_iff {levels : Nat} {children : Table Configuration}
    {declared : List Child} {v : Visit} :
    v ∈ childVisits catalog levels children declared ↔ ∃ d ∈ declared, ∃ path,
      v.path = d.name :: path ∧
        { v with path } ∈ visits catalog levels (startingChild children d) := by
  rw [childVisits, List.mem_flatMap]
  constructor
  · rintro ⟨d, hd, hv⟩
    obtain ⟨inner, hinner, rfl⟩ := List.mem_map.1 hv
    exact ⟨d, hd, inner.path, rfl, hinner⟩
  · rintro ⟨d, hd, path, hpath, hv⟩
    refine ⟨d, hd, List.mem_map.2 ⟨_, hv, ?_⟩⟩
    rw [Visit.under, ← hpath]

/-- The view of a property of the configuration that a path leads to. -/
def viewAt? (catalog : Catalog) (path : List String) (name : String) (c : Configuration) :
    Option Property :=
  (c.at? catalog path).bind fun inner => (inner.views catalog).get? name

theorem viewAt?_verbatim (path : List String) (name typeName : String) (tree : Json) :
    viewAt? catalog path name (.verbatim typeName tree) = none := by
  cases path <;> rfl

theorem viewAt?_unresolved (unknown : catalog.type? node.typeName = none) (path : List String)
    (name : String) : viewAt? catalog path name (.composite node) = none := by
  cases path with
  | nil =>
    rw [viewAt?, at?_nil, Option.bind_some, views, Composite.views, unknown]
    rfl
  | cons first path =>
    rw [viewAt?, at?_unresolved unknown]
    rfl

/-- The visits are those of all resources that there are, at any path. -/
theorem Expands.mem_visits_iff {levels : Nat} {c : Configuration} (h : Expands catalog levels c)
    (v : Visit) : v ∈ visits catalog levels c ↔ ∃ view,
      c.viewAt? catalog v.path v.name = some view ∧ view.resourceKind? = some v.kind ∧
        view.value = v.value := by
  obtain ⟨path, name, kind, value⟩ := v
  induction h generalizing path with
  | verbatim levels typeName tree => simp [visits_verbatim, viewAt?_verbatim]
  | unresolved levels unknown => simp [visits_unresolved unknown, viewAt?_unresolved unknown]
  | @resolved levels node type known unparked _ first _ ih =>
    rw [visits_resolved known unparked first, List.mem_append, mem_ownVisits_iff,
      mem_childVisits_iff]
    cases path with
    | nil => simp [viewAt?, at?_nil]
    | cons child path =>
      cases found : type.child? child with
      | none =>
        have undeclared (d : Child) (hd : d ∈ type.children) : d.name ≠ child := by
          rintro rfl
          rw [first d hd] at found
          cases found
        rw [viewAt?, at?_undeclared known found]
        refine iff_of_false ?_ (by simp)
        rintro (⟨own, -⟩ | ⟨d, hd, path', hpath, -⟩)
        · cases own
        · exact undeclared d hd (List.cons.inj hpath).1.symm
      | some d =>
        obtain ⟨hd, rfl⟩ := ObjectType.child?_eq_some found
        have only (d' : Child) (hd' : d' ∈ type.children) (hname : d'.name = d.name) : d' = d := by
          have found' := first d' hd'
          rw [hname, found] at found'
          exact (Option.some.inj found').symm
        rw [viewAt?, at?_declared known unparked found]
        refine Iff.trans ?_ (ih d hd path)
        constructor
        · rintro (⟨own, -⟩ | ⟨d', hd', path', hpath, hv⟩)
          · cases own
          · obtain ⟨hname, rfl⟩ := List.cons.inj hpath
            rwa [only d' hd' hname.symm] at hv
        · intro hv
          exact Or.inr ⟨d, hd, path, rfl, hv⟩

end Configuration
end CompositeObjects
