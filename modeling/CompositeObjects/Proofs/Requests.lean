import CompositeObjects.Proofs.Operations
import CompositeObjects.Proofs.Replies

namespace CompositeObjects

theorem rel_imp {α β : Type _} {R S : α → β → Prop} (imp : ∀ a b, R a b → S a b) {x : Option α}
    {y : Option β} (h : Option.Rel R x y) : Option.Rel S x y := by
  cases h with
  | none => exact Option.Rel.none
  | some h => exact Option.Rel.some (imp _ _ h)

theorem rel_map {α α' β β' : Type _} {R : α → α' → Prop} {S : β → β' → Prop} {f : α → β}
    {g : α' → β'} (maps : ∀ a a', R a a' → S (f a) (g a')) {x : Option α} {y : Option α'}
    (h : Option.Rel R x y) : Option.Rel S (x.map f) (y.map g) := by
  cases h with
  | none => exact Option.Rel.none
  | some h => exact Option.Rel.some (maps _ _ h)

theorem rel_bind {α α' β β' : Type _} {R : α → α' → Prop} {S : β → β' → Prop}
    {f : α → Option β} {g : α' → Option β'}
    (maps : ∀ a a', R a a' → Option.Rel S (f a) (g a')) {x : Option α} {y : Option α'}
    (h : Option.Rel R x y) : Option.Rel S (x.bind f) (y.bind g) := by
  cases h with
  | none => exact Option.Rel.none
  | some h => exact maps _ _ h

namespace Configuration

/-- What can be asked of a configuration, or of a child that is looked up for it. A walk may go down
so many levels. -/
inductive Request : Type 1 where
  | lookup (name : String)
  | views
  | update (name value : String)
  | walk {σ : Type} (walker : Walker σ) (s : σ) (levels : Nat)
  | within (name : String) (request : Request)

/-- What is answered. To a walk this is the last state of the walker and all that it was asked. -/
inductive Answer : Type 1 where
  | refused (error : PathError)
  | child (c : Configuration)
  | views (views : Table Property)
  | updated (done : Bool)
  | walked {σ : Type} (s : σ) (calls : List (ResourceKind × String))

namespace Request

/-- The answer, and the configuration after it. There is none to a walk that goes deeper. -/
def respond (catalog : Catalog) : Request → Configuration → Option (Answer × Configuration)
  | .lookup _, .verbatim typeName tree =>
    some (.refused .notComposite, .verbatim typeName tree)
  | .lookup name, .composite node =>
    match (node.lookup catalog name).value with
    | .error error => some (.refused (.lookup error), .composite node)
    | .ok (child, node) => some (.child child, .composite node)
  | .views, c => some (.views (c.views catalog), c)
  | .update name value, c =>
    some (.updated (c.update? catalog name value).isSome, c.afterUpdate catalog name value)
  | .walk walker s levels, c =>
    (walkWithin catalog walker.recording levels c (s, [])).map fun r =>
      (.walked r.value.2.1 r.value.2.2, r.value.1)
  | .within _ _, .verbatim typeName tree =>
    some (.refused .notComposite, .verbatim typeName tree)
  | .within name request, .composite node =>
    match (node.lookup catalog name).value with
    | .error error => some (.refused (.lookup error), .composite node)
    | .ok (child, node) =>
      (request.respond catalog child).map fun r => (r.1, .composite (node.withChild name r.2))

/-- One request after the other. -/
def run (catalog : Catalog) : List Request → Configuration → Option (List Answer × Configuration)
  | [], c => some ([], c)
  | request :: rest, c => (request.respond catalog c).bind fun r =>
    (run catalog rest r.2).map fun r' => (r.1 :: r'.1, r'.2)

/-- The children of an object of that type that are looked up for a request. -/
def lookedUp (type : ObjectType) : Request → List String
  | .lookup name => [name]
  | .views => []
  | .update _ _ => []
  | .walk .. => type.children.map Child.name
  | .within name _ => [name]

/-- What is answered alike to one request after which the same can be said again is answered alike
to any number of them. -/
theorem run_alike {catalog : Catalog} {type : ObjectType}
    {R : List String → Configuration → Configuration → Prop}
    (step : ∀ asked c c' request, R asked c c' →
      Option.Rel (fun r r' => r.1 = r'.1 ∧ R (asked ++ lookedUp type request) r.2 r'.2)
        (request.respond catalog c) (request.respond catalog c'))
    (requests : List Request) {asked : List String} {c c' : Configuration} (h : R asked c c') :
    Option.Rel (fun r r' => r.1 = r'.1 ∧ R (asked ++ requests.flatMap (lookedUp type)) r.2 r'.2)
      (run catalog requests c) (run catalog requests c') := by
  induction requests generalizing asked c c' with
  | nil =>
    rw [List.flatMap_nil, List.append_nil]
    exact Option.Rel.some ⟨rfl, h⟩
  | cons request rest ih =>
    rw [run, run, List.flatMap_cons, ← List.append_assoc]
    refine rel_bind (fun r r' first => ?_) (step asked c c' request h)
    refine rel_map (fun others others' last => ?_) (ih first.2)
    exact ⟨by rw [first.1, last.1], last.2⟩

end Request
end Configuration
end CompositeObjects
