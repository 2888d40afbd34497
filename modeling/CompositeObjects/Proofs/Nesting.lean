import CompositeObjects.Configuration.Walk
import CompositeObjects.Proofs.CatalogIndex
import Mathlib.Data.List.Perm.Subperm

namespace CompositeObjects

namespace Catalog

/-- The type of that name declares a child that is an object of the other type. -/
def Holds (c : Catalog) (name child : String) : Prop :=
  ∃ type, c.type? name = some type ∧ ∃ declared ∈ type.children, ∃ node,
    declared.default = .composite node ∧ node.typeName = child

/-- No object has one of its own type within it. -/
def Acyclic (c : Catalog) : Prop := ∀ name, ¬ Relation.TransGen c.Holds name name

/-- No object that can be within one of the type has one of its own type within it. -/
def AcyclicFrom (c : Catalog) (start : String) : Prop :=
  ∀ name, Relation.ReflTransGen c.Holds start name → ¬ Relation.TransGen c.Holds name name

theorem Acyclic.acyclicFrom {c : Catalog} (acyclic : c.Acyclic) (start : String) :
    c.AcyclicFrom start :=
  fun name _ => acyclic name

/-- Nothing is within itself below a type where all types of no higher rank hold lower ones only. -/
theorem acyclicFrom_of_rank {c : Catalog} (rank : String → Nat) {start : String}
    (lower : ∀ name child, rank name ≤ rank start → c.Holds name child →
      rank child < rank name) : c.AcyclicFrom start := by
  have within (name : String) (h : Relation.ReflTransGen c.Holds start name) :
      rank name ≤ rank start := by
    induction h with
    | refl => exact Nat.le_refl _
    | tail _ holds ih => exact Nat.le_trans (Nat.le_of_lt (lower _ _ ih holds)) ih
  have below (name child : String) (low : rank name ≤ rank start)
      (h : Relation.TransGen c.Holds name child) : rank child < rank name := by
    induction h with
    | single holds => exact lower _ _ low holds
    | tail _ holds ih =>
      have next := lower _ _ (Nat.le_trans (Nat.le_of_lt ih) low) holds
      exact Nat.lt_trans next ih
  exact fun name reached cycle => Nat.lt_irrefl _ (below name name (within name reached) cycle)

/-- A catalog is acyclic where each type has a lower rank than those that hold it. -/
theorem acyclic_of_rank {c : Catalog} (rank : String → Nat)
    (lower : ∀ name child, c.Holds name child → rank child < rank name) : c.Acyclic :=
  fun name => acyclicFrom_of_rank rank (fun name child _ => lower name child) name
    Relation.ReflTransGen.refl

/-- No type declares two children of the same name. -/
def DistinctChildren (c : Catalog) : Prop :=
  ∀ name type, c.type? name = some type → (type.children.map Child.name).Nodup

/-- Each declared child is the first one of its name. -/
theorem DistinctChildren.child?_eq_some {c : Catalog} (distinct : c.DistinctChildren)
    {name : String} {type : ObjectType} (known : c.type? name = some type) {declared : Child}
    (among : declared ∈ type.children) : type.child? declared.name = some declared :=
  Table.find?_key_eq_some (distinct _ _ known) among

/-- Objects of the type are at most so many levels deep. -/
def Spans (c : Catalog) : Nat → String → Prop
  | 0, _ => False
  | levels + 1, name => ∀ child, c.Holds name child → c.Spans levels child

variable {c : Catalog}

theorem Spans.mono {levels more : Nat} {name : String} (h : c.Spans levels name)
    (hle : levels ≤ more) : c.Spans more name := by
  induction levels generalizing more name with
  | zero => exact h.elim
  | succ levels ih =>
    obtain ⟨more, rfl⟩ : ∃ n, more = n + 1 := ⟨more - 1, by omega⟩
    intro child holds
    exact ih (h child holds) (by omega)

/-- On the way down no name comes twice, so there is no room for more levels than names. -/
theorem AcyclicFrom.spans_of_seen {start : String} (acyclic : c.AcyclicFrom start)
    {holders : List String} (all : ∀ name child, c.Holds name child → name ∈ holders)
    (levels : Nat) {seen : List String} {name : String}
    (below : Relation.ReflTransGen c.Holds start name) (nodup : seen.Nodup)
    (among : seen ⊆ holders) (above : ∀ a ∈ seen, Relation.TransGen c.Holds a name)
    (room : holders.length < levels + seen.length) : c.Spans levels name := by
  induction levels generalizing seen name with
  | zero =>
    have few := (List.subperm_of_subset nodup among).length_le
    omega
  | succ levels ih =>
    intro child holds
    have fresh : name ∉ seen := fun h => acyclic name below (above name h)
    have among' : name :: seen ⊆ holders := List.cons_subset.2 ⟨all name child holds, among⟩
    refine ih (below.tail holds) (List.nodup_cons.2 ⟨fresh, nodup⟩) among' (fun a ha => ?_) ?_
    · rcases List.mem_cons.1 ha with rfl | ha
      · exact Relation.TransGen.single holds
      · exact (above a ha).tail holds
    · rw [List.length_cons]
      omega

theorem AcyclicFrom.spans_of_holders {name : String} (acyclic : c.AcyclicFrom name)
    {holders : List String} (all : ∀ name child, c.Holds name child → name ∈ holders) :
    c.Spans (holders.length + 1) name :=
  acyclic.spans_of_seen all _ Relation.ReflTransGen.refl List.nodup_nil (List.nil_subset _)
    (fun _ h => absurd h List.not_mem_nil) (by simp)

/-- There are no more levels than types and one. -/
theorem Acyclic.spans_length (acyclic : c.Acyclic) (indexed : c.Indexed) (name : String) :
    c.Spans (c.entries.length + 1) name := by
  have all : ∀ name child, c.Holds name child → name ∈ c.names := by
    rintro name child ⟨type, known, -⟩
    obtain ⟨e, he, hname, -⟩ := indexed.type?_eq_some_iff.1 known
    exact List.mem_map.2 ⟨e, he, hname⟩
  have spans := (acyclic.acyclicFrom name).spans_of_holders all
  rwa [names, List.length_map] at spans

end Catalog

namespace Configuration

theorem one_le_weight (c : Configuration) : 1 ≤ c.weight := by
  cases c with
  | verbatim => exact Nat.le_refl 1
  | composite node =>
    rw [weight]
    omega

theorem length_le_weights (children : List (String × Configuration)) :
    children.length ≤ weights children := by
  induction children with
  | nil => exact Nat.le_refl 0
  | cons e rest ih =>
    have one := one_le_weight e.2
    rw [weights, List.length_cons]
    omega

/-- A walk is given enough levels for all types that are not within themselves, below all nodes that
are there. -/
theorem exists_spans {catalog : Catalog} (indexed : catalog.Indexed) (c : Configuration) :
    ∃ levels, (∀ name, catalog.AcyclicFrom name → catalog.Spans levels name) ∧
      c.weight + levels ≤ depthBound catalog c := by
  let defaults := catalog.entries.flatMap fun e =>
    e.type.children.map fun child => (child.name, child.default)
  let holders := catalog.entries.flatMap fun e => e.type.children.map fun _ => e.name
  have all : ∀ name child, catalog.Holds name child → name ∈ holders := by
    rintro name child ⟨type, known, declared, hd, -⟩
    obtain ⟨e, he, rfl, rfl⟩ := indexed.type?_eq_some_iff.1 known
    exact List.mem_flatMap.2 ⟨e, he, List.mem_map.2 ⟨declared, hd, rfl⟩⟩
  have few : holders.length ≤ weights defaults := by
    have same : holders.length = defaults.length := by
      simp [holders, defaults, List.length_flatMap]
    rw [same]
    exact length_le_weights defaults
  refine ⟨holders.length + 1, fun name acyclic => acyclic.spans_of_holders all, ?_⟩
  let total := c.weight + weights defaults + 1
  have room : 2 * total + 2 ≤ depthBound catalog c :=
    Nat.le_mul_of_pos_left (2 * total + 2) (by omega)
  omega

theorem spans_depthBound {catalog : Catalog} (acyclic : catalog.Acyclic)
    (indexed : catalog.Indexed) (c : Configuration) (name : String) :
    catalog.Spans (depthBound catalog c) name := by
  obtain ⟨levels, spans, room⟩ := exists_spans indexed c
  exact (spans name (acyclic.acyclicFrom name)).mono (by omega)

end Configuration
end CompositeObjects
