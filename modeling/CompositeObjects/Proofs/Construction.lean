import CompositeObjects.Proofs.Fragments
import CompositeObjects.Proofs.Members

namespace CompositeObjects.Script

section Values

variable {V : Type} (host : Host V) (argument : Option V)

/-- The value that the text of a literal has. -/
def Literal.value : Literal → V
  | .text value => host.text value
  | .number value =>
    if host.isTruthy (host.toNumber (some (host.text value))) then
      host.toNumber (some (host.text value))
    else host.number "0"
  | .flag value => host.flag value
  | .unrecognized => host.number "0"

/-- A literal has one value, whatever the fields and the argument are. -/
theorem value_literal (value : Literal) (m : Memory V) :
    value.term.value host argument m = some (value.value host) := by
  cases value with
  | number value =>
    simp only [Literal.term, Term.value, Literal.value, Host.holds]
    exact (apply_ite some _ _ _).symm
  | _ => rfl

/-- The literal stands in where the field is undefined. -/
theorem value_fieldOr (record : Record) (name : String) (default : Literal) (m : Memory V) :
    (Expression.fieldOr record name default).term.value host argument m =
      some ((m.field record name).getD (default.value host)) := by
  simp only [Expression.term, Term.value, value_literal, Host.holds, host.isTruthy_flag]
  cases m.field record name with
  | none => rfl
  | some v => rfl

end Values

section Construction

variable {V : Type} (host : Host V) (argument : Option V)

/-- What a property starts with. -/
def initialValue (p : Property) (given : Option V) : V :=
  if p.hidden then (Literal.ofProperty p).value host
  else given.getD ((Literal.ofProperty p).value host)

/-- A property starts with what is given, but for a hidden one that is given something else than its
default. -/
theorem getD_eq_initialValue_iff (p : Property) (given : Option V) :
    given.getD ((Literal.ofProperty p).value host) = initialValue host p given ↔
      p.hidden = false ∨ given = none ∨ given = some ((Literal.ofProperty p).value host) := by
  unfold initialValue
  cases p.hidden with
  | false => simp
  | true =>
    cases given with
    | none => simp
    | some value => simp

/-- A property starts with one assignment to its own field, which reads no other one. -/
theorem exists_command_initialization (p : Property) :
    ∃ value, (initialization p).command = .assign ⟨.live, p.name, value⟩ ∧
      ∀ m : Memory V, value.value host argument m =
        some (initialValue host p (m.field .given p.name)) := by
  unfold initialization initialValue
  split
  · exact ⟨_, rfl, fun m => value_literal host argument _ m⟩
  · exact ⟨_, rfl, fun m => value_fieldOr host argument .given p.name _ m⟩

theorem run_initialization_cons (p : Property) (rest : List Property) (m : Memory V) :
    run host argument ((initializations (p :: rest)).map Statement.command) m =
      run host argument ((initializations rest).map Statement.command)
        (m.set .live p.name (some (initialValue host p (m.field .given p.name)))) := by
  obtain ⟨value, command, hvalue⟩ := exists_command_initialization host argument p
  rw [initializations, List.map_cons, List.map_cons, command, run, Assignment.run, hvalue]
  rfl

/-- The initialization leaves alone what is no property, in every record. -/
theorem field_initializations_of_notMem {properties : List Property} {name : String}
    (h : name ∉ properties.map Property.name) (record : Record) (m : Memory V) :
    (run host argument ((initializations properties).map Statement.command) m).1.field record
      name = m.field record name := by
  induction properties generalizing m with
  | nil => rfl
  | cons p rest ih =>
    rw [List.map_cons, List.mem_cons, not_or] at h
    rw [run_initialization_cons, ih h.2, Memory.field_set_of_ne h.1]

/-- Each property starts with its own value. The assignments before its own write other names, so
that the field it reads is as it was given, even if both records are one object. -/
theorem field_initializations {properties : List Property}
    (nodup : (properties.map Property.name).Nodup) {p : Property} (hp : p ∈ properties)
    (m : Memory V) :
    (run host argument ((initializations properties).map Statement.command) m).1.field .live
      p.name = some (initialValue host p (m.field .given p.name)) := by
  induction properties generalizing m with
  | nil => cases hp
  | cons q rest ih =>
    obtain ⟨fresh, nodup⟩ := List.nodup_cons.1 nodup
    rw [run_initialization_cons]
    rcases List.mem_cons.1 hp with rfl | hp
    · rw [field_initializations_of_notMem host argument fresh, Memory.field_set_self]
    · have apart : p.name ≠ q.name := fun heq => fresh (heq ▸ List.mem_map_of_mem hp)
      rw [ih nodup hp, Memory.field_set_of_ne apart]

/-- Among methods of different names each is called by its own. -/
theorem called?_of_mem {methods : List Method} (nodup : (methods.map Method.name).Nodup)
    {method : Method} (h : method ∈ methods) (m : Memory V) :
    called? host argument methods method.name m =
      some (run host (if method.parameters = ["newValue"] then argument else none)
        method.body m) := by
  have reversed : (methods.reverse.map Method.name).Nodup := by
    rw [List.map_reverse]
    exact List.nodup_reverse.2 nodup
  have found := Table.find?_key_eq_some reversed (List.mem_reverse.2 h)
  have same : (fun other : Method => decide (other.name = method.name)) =
      (Method.name · == method.name) := rfl
  rw [called?, same, found]
  rfl

theorem nodup_names_accessorMethods {properties : List Property}
    (nodup : (properties.map Property.name).Nodup) :
    ((properties.flatMap accessorMethods).map Method.name).Nodup := by
  have names : (properties.flatMap accessorMethods).map Method.name =
      (properties.map Property.name).flatMap fun name =>
        [Property.getterName name, Property.setterName name] := by
    rw [List.map_flatMap, List.flatMap_map]
    rfl
  rw [names]
  exact (flatMap_pair_perm ..).nodup_iff.2 (nodup_accessorNames nodup)

section Accessors

variable {properties : List Property} (nodup : (properties.map Property.name).Nodup)
variable {p : Property} (hp : p ∈ properties)

include nodup hp

/-- A getter changes nothing, and returns its default where its field is undefined. -/
theorem called?_getter (m : Memory V) :
    called? host argument (properties.flatMap accessorMethods) (Property.getterName p.name) m =
      some (m, some ((m.field .live p.name).getD ((Literal.ofProperty p).value host))) := by
  have member : getterMethod p ∈ properties.flatMap accessorMethods :=
    List.mem_flatMap.2 ⟨p, hp, by simp [accessorMethods]⟩
  have value := value_fieldOr host none .live p.name (.ofProperty p) m
  have call := called?_of_mem host argument (nodup_names_accessorMethods nodup) member m
  refine call.trans (congrArg some (Prod.ext rfl ?_))
  exact value

theorem called?_setter (m : Memory V) :
    called? host argument (properties.flatMap accessorMethods) (Property.setterName p.name) m =
      some (m.set .live p.name argument, none) := by
  have member : setterMethod p ∈ properties.flatMap accessorMethods :=
    List.mem_flatMap.2 ⟨p, hp, by simp [accessorMethods]⟩
  exact called?_of_mem host argument (nodup_names_accessorMethods nodup) member m

end Accessors

/-- The getter of a property is there, changes nothing and returns a value. -/
def Gets (methods : List Method) (name : String) (m : Memory V) (value : V) : Prop :=
  called? host none methods (Property.getterName name) m = some (m, some value)

theorem gets_field {properties : List Property} (nodup : (properties.map Property.name).Nodup)
    {p : Property} (hp : p ∈ properties) (m : Memory V) :
    Gets host (properties.flatMap accessorMethods) p.name m
      ((m.field .live p.name).getD ((Literal.ofProperty p).value host)) :=
  called?_getter host none nodup hp m

/-- What a property starts with is got from it. -/
theorem gets_initializations {properties : List Property}
    (nodup : (properties.map Property.name).Nodup) {p : Property} (hp : p ∈ properties)
    (m : Memory V) :
    Gets host (properties.flatMap accessorMethods) p.name
      (run host none ((initializations properties).map Statement.command) m).1
      (initialValue host p (m.field .given p.name)) := by
  have value := gets_field host nodup hp
    (run host none ((initializations properties).map Statement.command) m).1
  rwa [field_initializations host none nodup hp, Option.getD_some] at value

/-- A setter writes what its own getter returns, and nothing that another one returns. -/
theorem gets_set {properties : List Property} (nodup : (properties.map Property.name).Nodup)
    {p : Property} (hp : p ∈ properties) (m : Memory V) (v : V) :
    Gets host (properties.flatMap accessorMethods) p.name (m.set .live p.name (some v)) v ∧
      ∀ q ∈ properties, q ≠ p → ∃ w,
        Gets host (properties.flatMap accessorMethods) q.name m w ∧
        Gets host (properties.flatMap accessorMethods) q.name (m.set .live p.name (some v)) w := by
  constructor
  · rw [Gets, called?_getter host none nodup hp, Memory.field_set_self]
    rfl
  · intro q hq hne
    have apart : q.name ≠ p.name := fun heq => hne (List.inj_on_of_nodup_map nodup hq hp heq)
    refine ⟨_, called?_getter host none nodup hq m, ?_⟩
    rw [Gets, called?_getter host none nodup hq, Memory.field_set_of_ne apart]

/-- The texts of the constructor and of the accessors agree. A hidden property has its default after
construction, whatever the given data are, and any other has what the data give it, with the same
default where they give nothing. What is set is got back, and is got from no other property. -/
theorem gets_of_construction {properties : List Property}
    (named : ∀ p ∈ properties, isIdentifier p.name = true)
    (nodup : (properties.map Property.name).Nodup) :
    ∃ construction methods,
      commandsOf? (initializationCode properties) = some construction ∧
      methodsOf? (accessorsCode properties) = some methods ∧
      ∀ p ∈ properties, ∃ term default,
        termOf? (Literal.ofProperty p).code = some term ∧
        (∀ argument (m : Memory V), term.value host argument m = some default) ∧
        (p.hidden = true → ∀ m, Gets host methods p.name (run host none construction m).1 default) ∧
        (p.hidden = false → ∀ m, Gets host methods p.name (run host none construction m).1
          ((m.field .given p.name).getD default)) ∧
        ∀ (m : Memory V) (v : V), ∃ m',
          called? host (some v) methods (Property.setterName p.name) m = some (m', none) ∧
          Gets host methods p.name m' v ∧
          ∀ q ∈ properties, q ≠ p → ∃ w,
            Gets host methods q.name m w ∧ Gets host methods q.name m' w := by
  refine ⟨_, _, commandsOf?_initializationCode named, methodsOf?_accessorsCode named, ?_⟩
  intro p hp
  have literal := termOf?_literal (Literal.ofProperty p)
  refine ⟨_, _, literal, fun argument m => value_literal host argument _ m, ?_, ?_, ?_⟩
  · intro hidden m
    have value := gets_initializations host nodup hp m
    rwa [initialValue, if_pos hidden] at value
  · intro visible m
    have value := gets_initializations host nodup hp m
    rwa [initialValue, visible, if_neg Bool.false_ne_true] at value
  · intro m v
    exact ⟨_, called?_setter host (some v) nodup hp m, gets_set host nodup hp m v⟩

end Construction

/-- A hero with a visible speed and a hidden secret. -/
def heroProperties : List Property := [
  { name := "speed", type := .number, value := "100" },
  { name := "secret", type := .text, value := "x", hidden := true }]

theorem isIdentifier_heroProperties : ∀ p ∈ heroProperties, isIdentifier p.name = true := by
  decide +kernel

theorem nodup_heroProperties : (heroProperties.map Property.name).Nodup := by decide

/-- Data that gives both properties another value than their default. -/
def heroData : String → Option Literal
  | "speed" => some (.number "120")
  | "secret" => some (.text "y")
  | _ => none

/-- Data that gives nothing. -/
def noData : String → Option Literal := fun _ => none

/-- A host whose values are those of literals, of which a number is kept in decimal. -/
def literalHost : Host Literal where
  text := .text
  number := .number
  flag := .flag
  toNumber
    | some (.text digits) => .number digits
    | some value => value
    | none => .unrecognized
  isTruthy
    | .text value => value != ""
    | .number digits => digits != "0"
    | .flag value => value
    | .unrecognized => false
  isTruthy_flag := fun _ => rfl
  differs := fun v w => v != w
  call := fun _ _ m => m

/-- Data that give both properties of a hero another value than their default, with the running
object apart from them. -/
def heroMemory : Memory Literal where
  object := fun record => if record = .live then 0 else 1
  cells := fun object => if object = 0 then noData else heroData

theorem gets_of_construction_hero :
    (∀ p ∈ heroProperties, isIdentifier p.name = true) ∧
      (heroProperties.map Property.name).Nodup ∧
      ∃ construction methods,
        commandsOf? (initializationCode heroProperties) = some construction ∧
        methodsOf? (accessorsCode heroProperties) = some methods ∧
        Gets literalHost methods "speed" (run literalHost none construction heroMemory).1
          (.number "120") ∧
        Gets literalHost methods "secret" (run literalHost none construction heroMemory).1
          (.text "x") := by
  have named := isIdentifier_heroProperties
  have nodup := nodup_heroProperties
  obtain ⟨construction, methods, hconstruction, hmethods, each⟩ :=
    gets_of_construction literalHost named nodup
  refine ⟨named, nodup, construction, methods, hconstruction, hmethods, ?_, ?_⟩
  · obtain ⟨_, default, -, -, -, visible, -⟩ :=
      each heroProperties[0] (List.getElem_mem (by decide))
    exact visible rfl heroMemory
  · obtain ⟨term, default, literal, value, hidden, -⟩ :=
      each heroProperties[1] (List.getElem_mem (by decide))
    have known : termOf? (Literal.ofProperty heroProperties[1]).code = some (.text "x") :=
      termOf?_literal _
    obtain rfl := Option.some.inj (literal.symm.trans known)
    obtain rfl : Literal.text "x" = default := Option.some.inj (value none heroMemory)
    exact hidden rfl heroMemory

end CompositeObjects.Script
