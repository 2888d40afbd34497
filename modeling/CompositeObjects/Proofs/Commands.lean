import CompositeObjects.Proofs.Tokens
import CompositeObjects.Script.Statement

namespace CompositeObjects.Script

/-- An expression of a script. -/
inductive Term where
  | undefined
  /-- The argument of a setter. -/
  | argument
  | field (record : Record) (name : String)
  | text (value : String)
  | number (digits : String)
  | flag (value : Bool)
  | toNumber (value : Term)
  | either (first second : Term)
  | differ (first second : Term)
  | choice (condition yes no : Term)
deriving Repr

/-- A field of a record gets a value. -/
structure Assignment where
  record : Record
  name : String
  value : Term
deriving Repr

inductive Command where
  | assign (a : Assignment)
  | assignWhen (condition : Term) (a : Assignment)
  | call (callee : List String) (arguments : List Token)
  | giveBack (value : Term)
deriving Repr

structure Method where
  name : String
  parameters : List String
  body : List Command
deriving Repr

/-- What stands before and behind the first such sign. -/
def cut (sign : String) : List Token → Option (List Token × List Token)
  | [] => none
  | token :: rest =>
    if token = .sign sign then some ([], rest)
    else (cut sign rest).map fun r => (token :: r.1, r.2)

/-- The parts of a text each of which ends with such a sign. -/
def split (sign : String) : List Token → Option (List (List Token))
  | [] => some []
  | token :: rest =>
    (split sign rest).bind fun parts =>
      if token = .sign sign then some ([] :: parts)
      else
        match parts with
        | [] => none
        | part :: others => some ((token :: part) :: others)

/-- Words with dots between them. -/
def path? : List Token → Option (List String)
  | [.word name] => some [name]
  | .word name :: .sign "." :: rest => (path? rest).map (name :: ·)
  | _ => none

def field? : List String → Option (Record × String)
  | ["this", "_objectData", "content", name] => some (.live, name)
  | ["objectData", "content", name] => some (.given, name)
  | ["oldObjectData", "content", name] => some (.old, name)
  | ["newObjectData", "content", name] => some (.new, name)
  | _ => none

def named? : List String → Option Term
  | ["undefined"] => some .undefined
  | ["newValue"] => some .argument
  | ["true"] => some (.flag true)
  | ["false"] => some (.flag false)
  | path => (field? path).map fun f => .field f.1 f.2

def primary? : List Token → Option Term
  | [.text value] => some (.text value)
  | [.number digits] => some (.number digits)
  | [.word "Number", .sign "(", .text value, .sign ")"] => some (.toNumber (.text value))
  | tokens => (path? tokens).bind named?

def difference? (tokens : List Token) : Option Term :=
  match cut "!==" tokens with
  | none => primary? tokens
  | some (first, second) => do some (.differ (← primary? first) (← primary? second))

def disjunction? (tokens : List Token) : Option Term :=
  match cut "||" tokens with
  | none => difference? tokens
  | some (first, second) => do some (.either (← difference? first) (← difference? second))

/-- The signs bind the more tightly the later they are looked for: first the choice, then `||`, then
`!==`. No sign is read twice, so that none can be taken for another's. -/
def term? (tokens : List Token) : Option Term :=
  match cut "?" tokens with
  | none => disjunction? tokens
  | some (condition, rest) => do
    let (yes, no) ← cut ":" rest
    some (.choice (← disjunction? condition) (← disjunction? yes) (← disjunction? no))

def assignment? (tokens : List Token) : Option Assignment := do
  let (target, value) ← cut "=" tokens
  let (record, name) ← (path? target).bind field?
  some ⟨record, name, ← term? value⟩

def call? (tokens : List Token) : Option Command := do
  let (callee, rest) ← cut "(" tokens
  if rest.getLast? = some (.sign ")") then some (.call (← path? callee) rest.dropLast) else none

/-- A command without the semicolon that ends it. -/
def command? : List Token → Option Command
  | .word "return" :: value => (term? value).map .giveBack
  | .word "if" :: .sign "(" :: rest => do
    let (condition, body) ← cut ")" rest
    some (.assignWhen (← term? condition) (← assignment? body))
  | tokens => if (cut "=" tokens).isSome then (assignment? tokens).map .assign else call? tokens

/-- The parts of a text that such a sign ends, each read by itself. -/
def sentences? {α : Type} (sign : String) (read : List Token → Option α) (tokens : List Token) :
    Option (List α) := do
  (← split sign tokens).mapM read

def commands? : List Token → Option (List Command) := sentences? ";" command?

def parameters? : List Token → Option (List String)
  | [] => some []
  | [.word name] => some [name]
  | .word name :: .sign "," :: rest => (parameters? rest).map (name :: ·)
  | _ => none

/-- A method without the brace that ends it. -/
def method? : List Token → Option Method
  | .word name :: .sign "(" :: rest => do
    let (parameters, body) ← cut ")" rest
    match body with
    | .sign "\x7b" :: body => some ⟨name, ← parameters? parameters, ← commands? body⟩
    | _ => none
  | _ => none

def methods? : List Token → Option (List Method) := sentences? "\x7d" method?

/-- The expression that a text is. -/
def termOf? (text : String) : Option Term := (tokens? text).bind term?

/-- The commands that a text is made of. -/
def commandsOf? (text : String) : Option (List Command) := (tokens? text).bind commands?

/-- The methods that a text is made of. -/
def methodsOf? (text : String) : Option (List Method) := (tokens? text).bind methods?

theorem cut_append {sign : String} {front : List Token} (h : .sign sign ∉ front)
    (back : List Token) : cut sign (front ++ .sign sign :: back) = some (front, back) := by
  induction front with
  | nil => rw [List.nil_append, cut, if_pos rfl]
  | cons token front ih =>
    rw [List.mem_cons, not_or] at h
    rw [List.cons_append, cut, if_neg (Ne.symm h.1), ih h.2]
    rfl

theorem cut_eq_none {sign : String} {tokens : List Token} (h : .sign sign ∉ tokens) :
    cut sign tokens = none := by
  induction tokens with
  | nil => rfl
  | cons token rest ih =>
    rw [List.mem_cons, not_or] at h
    rw [cut, if_neg (Ne.symm h.1), ih h.2]
    rfl

theorem split_append {sign : String} {front : List Token} {parts : List (List Token)}
    (h : split sign front = some parts) (back : List Token) :
    split sign (front ++ back) = (split sign back).map (parts ++ ·) := by
  induction front generalizing parts with
  | nil =>
    obtain rfl := Option.some.inj h
    simp
  | cons token front ih =>
    rw [split] at h
    obtain ⟨others, hfront, h⟩ := Option.bind_eq_some_iff.1 h
    rw [List.cons_append, split, ih hfront]
    cases hback : split sign back with
    | none => rfl
    | some more =>
      split at h
      · rename_i ends
        obtain rfl := Option.some.inj h
        simp [ends]
      · rename_i goesOn
        cases others with
        | nil => cases h
        | cons part others =>
          obtain rfl := Option.some.inj h
          simp [goesOn]

theorem split_one {sign : String} {front : List Token} (h : .sign sign ∉ front) :
    split sign (front ++ [.sign sign]) = some [front] := by
  induction front with
  | nil => simp [split]
  | cons token front ih =>
    rw [List.mem_cons, not_or] at h
    rw [List.cons_append, split, ih h.2]
    simp [Ne.symm h.1]

section Sentences

variable {α : Type} {sign : String} {read : List Token → Option α}

theorem sentences?_one {tokens : List Token} {value : α} (h : .sign sign ∉ tokens)
    (hread : read tokens = some value) :
    sentences? sign read (tokens ++ [.sign sign]) = some [value] := by
  rw [sentences?, split_one h]
  simp [hread]

theorem sentences?_append {front back : List Token} {values others : List α}
    (h : sentences? sign read front = some values)
    (h' : sentences? sign read back = some others) :
    sentences? sign read (front ++ back) = some (values ++ others) := by
  obtain ⟨parts, hparts, hvalues⟩ := Option.bind_eq_some_iff.1 h
  obtain ⟨more, hmore, hothers⟩ := Option.bind_eq_some_iff.1 h'
  rw [sentences?, split_append hparts, hmore]
  simp [List.mapM_append, hvalues, hothers]

/-- Texts that are read each by itself are so one after another. -/
theorem sentences?_flatMap {β : Type} {write : β → List Token} {values : β → List α} {xs : List β}
    (h : ∀ x ∈ xs, sentences? sign read (write x) = some (values x)) :
    sentences? sign read (xs.flatMap write) = some (xs.flatMap values) := by
  induction xs with
  | nil => rfl
  | cons x rest ih =>
    rw [List.flatMap_cons, List.flatMap_cons]
    exact sentences?_append (h x List.mem_cons_self)
      (ih fun y hy => h y (List.mem_cons_of_mem _ hy))

end Sentences

/-- What stands under the names of records. Two records may be one and the same object. -/
structure Memory (V : Type) where
  object : Record → Nat
  cells : Nat → String → Option V

namespace Memory

variable {V : Type}

/-- A field has no value where it is undefined. -/
def field (m : Memory V) (record : Record) (name : String) : Option V :=
  m.cells (m.object record) name

def set (m : Memory V) (record : Record) (name : String) (value : Option V) : Memory V :=
  { m with cells := fun object field =>
      if object = m.object record ∧ field = name then value else m.cells object field }

theorem field_set (m : Memory V) (record record' : Record) (name other : String)
    (value : Option V) : (m.set record name value).field record' other =
      if m.object record' = m.object record ∧ other = name then value
      else m.field record' other := rfl

theorem field_set_self (m : Memory V) (record : Record) (name : String) (value : Option V) :
    (m.set record name value).field record name = value := by
  rw [field_set, if_pos ⟨rfl, rfl⟩]

theorem field_set_of_ne {name other : String} (h : other ≠ name) (m : Memory V)
    (record record' : Record) (value : Option V) :
    (m.set record name value).field record' other = m.field record' other := by
  rw [field_set, if_neg fun same => h same.2]

end Memory

/-- What a script is run by: the values of its literals, what is done with values, and what the
functions do that it calls. -/
structure Host (V : Type) where
  text : String → V
  number : String → V
  flag : Bool → V
  toNumber : Option V → V
  isTruthy : V → Bool
  isTruthy_flag : ∀ b, isTruthy (flag b) = b
  /-- Whether two values are not strictly equal. -/
  differs : V → V → Bool
  call : List String → List Token → Memory V → Memory V

namespace Host

variable {V : Type} (host : Host V)

/-- What is undefined is not true. -/
def holds : Option V → Bool
  | none => false
  | some v => host.isTruthy v

/-- What is undefined is strictly equal to itself only. -/
def differ : Option V → Option V → Bool
  | none, none => false
  | some v, some w => host.differs v w
  | _, _ => true

end Host

section Run

variable {V : Type} (host : Host V) (argument : Option V)

def Term.value (m : Memory V) : Term → Option V
  | .undefined => none
  | .argument => argument
  | .field record name => m.field record name
  | .text value => some (host.text value)
  | .number digits => some (host.number digits)
  | .flag value => some (host.flag value)
  | .toNumber value => some (host.toNumber (value.value m))
  | .either first second =>
    if host.holds (first.value m) then first.value m else second.value m
  | .differ first second => some (host.flag (host.differ (first.value m) (second.value m)))
  | .choice condition yes no =>
    if host.holds (condition.value m) then yes.value m else no.value m

def Assignment.run (a : Assignment) (m : Memory V) : Memory V :=
  m.set a.record a.name (a.value.value host argument m)

/-- The memory behind the commands, and what they give back. Nothing is done behind a `return`. -/
def run : List Command → Memory V → Memory V × Option V
  | [], m => (m, none)
  | .assign a :: rest, m => run rest (a.run host argument m)
  | .assignWhen condition a :: rest, m =>
    run rest (if host.holds (condition.value host argument m) then a.run host argument m else m)
  | .call callee arguments :: rest, m => run rest (host.call callee arguments m)
  | .giveBack value :: _, m => (m, value.value host argument m)

/-- A method of a class is called; of several with one name it is the last. -/
def called? (methods : List Method) (name : String) (m : Memory V) :
    Option (Memory V × Option V) :=
  (methods.reverse.find? (·.name = name)).map fun method =>
    run host (if method.parameters = ["newValue"] then argument else none) method.body m

end Run

end CompositeObjects.Script
