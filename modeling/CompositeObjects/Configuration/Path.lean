import CompositeObjects.Configuration.Lookup

namespace CompositeObjects

/-- Why a configuration within another one cannot be reached. -/
inductive PathError where
  | notComposite
  | lookup (error : LookupError)
deriving DecidableEq, Repr

namespace Configuration

variable {α : Type}

/-- Acts on the configuration under a path of child names. The children on the way are made where
needed, and stay made. -/
def actAt (catalog : Catalog) (act : Configuration → Traced (Configuration × α)) :
    List String → Configuration → Traced (Configuration × Except PathError α)
  | [], c => do
    let (c, answer) ← act c
    pure (c, .ok answer)
  | _ :: _, .verbatim typeName tree => pure (.verbatim typeName tree, .error .notComposite)
  | name :: path, .composite node => do
    match ← node.lookup catalog name with
    | .error error => pure (.composite node, .error (.lookup error))
    | .ok (child, node) => do
      let (child, answer) ← actAt catalog act path child
      pure (.composite (node.withChild name child), answer)

/-- The configuration under a path as far as it has been made. -/
def find? : List String → Configuration → Except PathError (Option Configuration)
  | [], c => .ok (some c)
  | _ :: _, .verbatim .. => .error .notComposite
  | name :: path, .composite node =>
    match node.child? name with
    | none => .ok none
    | some child => find? path child

end Configuration
end CompositeObjects
