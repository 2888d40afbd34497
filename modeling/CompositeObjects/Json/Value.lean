import CompositeObjects.Binary64
import CompositeObjects.Table

namespace CompositeObjects

/-- A number as it is held: an integer, or a binary fraction. `1` and `1.0` are two numbers. -/
inductive Number where
  | integer (value : Int)
  | float (value : Binary64)
deriving DecidableEq, Repr, Inhabited

namespace Number

def text : Number → String
  | .integer n => toString n
  | .float x => x.text

/-- Two zeros of opposite sign are one number. -/
def sameNumber : Number → Number → Bool
  | .integer m, .integer n => m == n
  | .float x, .float y => x.sameNumber y
  | _, _ => false

end Number

/-- A JSON value. The entries of an object are a table: sorted by key, each key once. -/
inductive Json where
  | null
  | bool (value : Bool)
  | number (value : Number)
  | string (value : String)
  | array (items : List Json)
  | object (entries : List (String × Json))
deriving Repr, Inhabited

namespace Json

mutual

def decEq : (a b : Json) → Decidable (a = b)
  | .null, .null => isTrue rfl
  | .bool a, .bool b => if h : a = b then isTrue (h ▸ rfl) else isFalse (by simpa using h)
  | .number a, .number b => if h : a = b then isTrue (h ▸ rfl) else isFalse (by simpa using h)
  | .string a, .string b => if h : a = b then isTrue (h ▸ rfl) else isFalse (by simpa using h)
  | .array a, .array b =>
    match decEqItems a b with
    | isTrue h => isTrue (h ▸ rfl)
    | isFalse h => isFalse (by simpa using h)
  | .object a, .object b =>
    match decEqEntries a b with
    | isTrue h => isTrue (h ▸ rfl)
    | isFalse h => isFalse (by simpa using h)
  | .null, .bool _ | .null, .number _ | .null, .string _ | .null, .array _ | .null, .object _
  | .bool _, .null | .bool _, .number _ | .bool _, .string _ | .bool _, .array _
  | .bool _, .object _ | .number _, .null | .number _, .bool _ | .number _, .string _
  | .number _, .array _ | .number _, .object _ | .string _, .null | .string _, .bool _
  | .string _, .number _ | .string _, .array _ | .string _, .object _ | .array _, .null
  | .array _, .bool _ | .array _, .number _ | .array _, .string _ | .array _, .object _
  | .object _, .null | .object _, .bool _ | .object _, .number _ | .object _, .string _
  | .object _, .array _ => isFalse (by simp)

def decEqItems : (a b : List Json) → Decidable (a = b)
  | [], [] => isTrue rfl
  | x :: xs, y :: ys =>
    match decEq x y, decEqItems xs ys with
    | isTrue h, isTrue h' => isTrue (h ▸ h' ▸ rfl)
    | isFalse h, _ => isFalse (by simp [h])
    | _, isFalse h => isFalse (by simp [h])
  | [], _ :: _ => isFalse (by simp)
  | _ :: _, [] => isFalse (by simp)

def decEqEntries : (a b : List (String × Json)) → Decidable (a = b)
  | [], [] => isTrue rfl
  | (k, x) :: xs, (l, y) :: ys =>
    if hk : k = l then
      match decEq x y, decEqEntries xs ys with
      | isTrue h, isTrue h' => isTrue (hk ▸ h ▸ h' ▸ rfl)
      | isFalse h, _ => isFalse (by simp [h])
      | _, isFalse h => isFalse (by simp [h])
    else isFalse (by simp [hk])
  | [], _ :: _ => isFalse (by simp)
  | _ :: _, [] => isFalse (by simp)

end

instance : DecidableEq Json := decEq

mutual

/-- Equality as values, under which zeros of either sign agree. -/
def same : Json → Json → Bool
  | .null, .null => true
  | .bool a, .bool b => a == b
  | .number a, .number b => a.sameNumber b
  | .string a, .string b => a == b
  | .array a, .array b => sameItems a b
  | .object a, .object b => sameEntries a b
  | _, _ => false

def sameItems : List Json → List Json → Bool
  | [], [] => true
  | x :: xs, y :: ys => x.same y && sameItems xs ys
  | _, _ => false

def sameEntries : List (String × Json) → List (String × Json) → Bool
  | [], [] => true
  | (k, x) :: xs, (l, y) :: ys => k == l && x.same y && sameEntries xs ys
  | _, _ => false

end

mutual

/-- Every object in the value is sorted by key, with each key once. -/
def Sorted : Json → Prop
  | .array items => SortedItems items
  | .object entries => Table.Sorted entries ∧ SortedEntries entries
  | _ => True

def SortedItems : List Json → Prop
  | [] => True
  | item :: rest => Sorted item ∧ SortedItems rest

def SortedEntries : List (String × Json) → Prop
  | [] => True
  | (_, value) :: rest => Sorted value ∧ SortedEntries rest

end

mutual

def decideSorted : (value : Json) → Decidable value.Sorted
  | .array items => decideSortedItems items
  | .object entries => @instDecidableAnd _ _ _ (decideSortedEntries entries)
  | .null | .bool _ | .number _ | .string _ => isTrue trivial

def decideSortedItems : (items : List Json) → Decidable (SortedItems items)
  | [] => isTrue trivial
  | item :: rest => @instDecidableAnd _ _ (decideSorted item) (decideSortedItems rest)

def decideSortedEntries : (entries : List (String × Json)) → Decidable (SortedEntries entries)
  | [] => isTrue trivial
  | (_, value) :: rest =>
    @instDecidableAnd _ _ (decideSorted value) (decideSortedEntries rest)

end

instance (value : Json) : Decidable value.Sorted := decideSorted value

theorem sortedEntries_iff {entries : List (String × Json)} :
    SortedEntries entries ↔ ∀ e ∈ entries, Sorted e.2 := by
  induction entries with
  | nil => simp [SortedEntries]
  | cons e rest ih => simp [SortedEntries, ih]

end Json
end CompositeObjects
