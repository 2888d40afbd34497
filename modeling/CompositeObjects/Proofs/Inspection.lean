import CompositeObjects.Proofs.FailedRuns
import CompositeObjects.Proofs.Updates
import CompositeObjects.Proofs.Walk

namespace CompositeObjects

/-- The last value that is given to a name. -/
def lastValue? {α : Type} (pairs : List (String × α)) (name : String) : Option α :=
  (pairs.reverse.find? (·.1 == name)).map (·.2)

theorem Table.get?_ofList {α : Type} (pairs : List (String × α)) (name : String) :
    (Table.ofList pairs).get? name = lastValue? pairs name := by
  rw [Table.ofList, Table.get?_overlay_eq_find?, Table.get?_nil, Option.or_none, lastValue?]

/-- A table knows nothing of the order in which names are given, nor of earlier values. -/
theorem Table.ofList_eq_ofList_iff {α : Type} {pairs pairs' : List (String × α)} :
    Table.ofList pairs = Table.ofList pairs' ↔
      ∀ name, lastValue? pairs name = lastValue? pairs' name := by
  constructor
  · intro same name
    rw [← Table.get?_ofList, same, Table.get?_ofList]
  · intro same
    refine Table.eq_of_get?_eq (Table.sorted_ofList _) (Table.sorted_ofList _) fun name => ?_
    rw [Table.get?_ofList, Table.get?_ofList, same]

theorem isSome_lastValue?_iff {α : Type} {pairs : List (String × α)} {name : String} :
    (lastValue? pairs name).isSome ↔ ∃ pair ∈ pairs, pair.1 = name := by
  rw [lastValue?, Option.isSome_map, List.find?_isSome]
  simp

theorem Content.setAll_empty (pairs : List (String × String)) :
    Content.empty.setAll pairs = Content.ofPairs pairs := by
  have values : (Content.empty.setAll pairs).values = Table.ofList pairs :=
    Content.values_setAll Content.empty
  have kept : (Content.empty.setAll pairs).kept = [] := by
    refine Table.eq_nil_of_get?_eq_none fun name => ?_
    rw [Content.get?_kept_setAll, Content.empty, Table.get?_nil, ite_self]
  rw [Content.ofPairs, ← values, ← kept]

theorem Content.toJson_ofPairs (pairs : List (String × String)) :
    (Content.ofPairs pairs).toJson = .object ((Table.ofList pairs).mapValues .string) := rfl

namespace Composite

/-- What is made of an object with nothing parked when children are asked for: those that are
declared are there with their defaults, unless they were there before. -/
structure Furnished (type : ObjectType) (names : List String)
    (before after : Composite Configuration) : Prop where
  typeName : after.typeName = before.typeName
  content : after.content = before.content
  parked : after.parked = []
  sorted : Table.Sorted before.children → Table.Sorted after.children
  child? : ∀ name, after.child? name =
    (before.child? name).or (if name ∈ names then (type.child? name).map (·.default) else none)

variable {catalog : Catalog} {type : ObjectType} {names : List String}
  {node node' node'' : Composite Configuration}

theorem furnished_nil (type : ObjectType) (unparked : node.parked = []) :
    Furnished type [] node node where
  typeName := rfl
  content := rfl
  parked := unparked
  sorted := id
  child? := by simp

theorem Furnished.cons {name : String} (first : Furnished type [name] node node')
    (others : Furnished type names node' node'') : Furnished type (name :: names) node node'' where
  typeName := others.typeName.trans first.typeName
  content := others.content.trans first.content
  parked := others.parked
  sorted := others.sorted ∘ first.sorted
  child? := by
    intro other
    rw [others.child?, first.child?, Option.or_assoc]
    by_cases here : other = name
    · -- The name may be asked for again, which finds the child that is there.
      subst here
      by_cases later : other ∈ names <;> simp [later]
    · simp [here]

/-- One request for a declared child. -/
theorem exists_furnished {name : String} {declared : Child}
    (known : catalog.type? node.typeName = some type) (unparked : node.parked = [])
    (h : type.child? name = some declared) :
    ∃ child node', (node.lookup catalog name).value = .ok (child, node') ∧
      Furnished type [name] node node' := by
  cases made : node.child? name with
  | some child =>
    refine ⟨child, node, lookup_made known h made, rfl, rfl, unparked, id, ?_⟩
    intro other
    by_cases here : other = name
    · simp [here, made]
    · simp [here]
  | none =>
    have new := lookup_new known h made
    have default : (newChild catalog declared (Table.get? name node.parked)).value =
        declared.default := by
      rw [unparked]
      rfl
    rw [default] at new
    refine ⟨_, _, new, rfl, rfl, by simp [unparked, Table.erase], Table.sorted_insert _ _, ?_⟩
    intro other
    change Table.get? other (Table.insert name declared.default node.children) = _
    rw [Table.get?_insert]
    by_cases here : other = name
    · simp [here, made, h]
    · simp [here, child?]

end Composite

namespace CommandLine

section Requests

variable {catalog : Catalog} {type : ObjectType} (node : Composite Configuration)
  {after : Composite Configuration}

/-- Updates go through where every name is declared, and then all of them are stored. -/
theorem setAll_eq_ok_iff (known : catalog.type? node.typeName = some type) (typeName : String)
    (pairs : List (String × String)) :
    (setAll catalog typeName pairs node).result = .ok after ↔
      (∀ pair ∈ pairs, ∃ p ∈ type.properties, p.name = pair.1) ∧
        after = { node with content := node.content.setAll pairs } := by
  induction pairs generalizing node with
  | nil =>
    rw [setAll]
    simp only [pure, Except.ok.injEq, List.not_mem_nil, false_implies, implies_true, true_and]
    exact eq_comm
  | cons pair rest ih =>
    obtain ⟨name, value⟩ := pair
    rw [setAll, List.forall_mem_cons]
    by_cases declared : ∃ p ∈ type.properties, p.name = name
    · rw [Composite.update?_declared known declared value]
      simp only [declared, true_and]
      exact ih { node with content := node.content.set name value } known
    · have refused : node.update? catalog name value = none := by
        rw [Composite.update?_of_known known, Property.update?_eq_none_iff.2 declared,
          Option.map_none]
      rw [refused]
      simp only [declared, false_and, iff_false]
      rintro ⟨⟩

/-- Requests for children go through where every name is declared. -/
theorem exists_makeAll (known : catalog.type? node.typeName = some type)
    (unparked : node.parked = []) {names : List String}
    (declared : ∀ name ∈ names, ∃ d, type.child? name = some d) :
    ∃ after, (makeAll catalog names node).result = .ok after ∧
      Composite.Furnished type names node after := by
  induction names generalizing node with
  | nil => exact ⟨node, rfl, Composite.furnished_nil type unparked⟩
  | cons name rest ih =>
    rw [List.forall_mem_cons] at declared
    obtain ⟨⟨d, h⟩, others⟩ := declared
    obtain ⟨child, next, found, first⟩ := Composite.exists_furnished known unparked h
    obtain ⟨after, ends, furnished⟩ := ih next (first.typeName ▸ known) first.parked others
    refine ⟨after, ?_, first.cons furnished⟩
    rw [makeAll]
    refine Run.exists_bind (congrArg Except.ok found) ?_
    exact ends

theorem declared_of_makeAll (known : catalog.type? node.typeName = some type)
    {names : List String} (done : (makeAll catalog names node).result = .ok after) :
    ∀ name ∈ names, ∃ d, type.child? name = some d := by
  induction names generalizing node with
  | nil => simp
  | cons name rest ih =>
    rw [makeAll] at done
    obtain ⟨found, ends, done⟩ := Run.exists_of_bind done
    cases found with
    | error error => cases done
    | ok found =>
      obtain ⟨child, next⟩ := found
      have given : (node.lookup catalog name).value = .ok (child, next) := Except.ok.inj ends
      obtain ⟨other, d, known', h, -⟩ := Composite.lookup_eq_ok given
      obtain rfl : type = other := Option.some.inj (known.symm.trans known')
      rw [List.forall_mem_cons]
      exact ⟨⟨d, h⟩, ih next (Composite.typeName_of_lookup given ▸ known) done⟩

end Requests

/-- Two ways to ask for the same: the last value of every name is one, and the children are. -/
structure Rearranged (pairs pairs' : List (String × String)) (children children' : List String) :
    Prop where
  value : ∀ name, lastValue? pairs name = lastValue? pairs' name
  child : ∀ name, name ∈ children ↔ name ∈ children'

/-- Every property that is to be set and every child that is asked for is declared. -/
structure Declares (type : ObjectType) (pairs : List (String × String)) (children : List String) :
    Prop where
  properties : ∀ pair ∈ pairs, ∃ p ∈ type.properties, p.name = pair.1
  children : ∀ name ∈ children, ∃ d, type.child? name = some d

/-- The content has the last value of every name that was set and nothing else; the trees of
children are those that were asked for and no others, each as its default is saved. -/
structure Shows (type : ObjectType) (pairs : List (String × String)) (children : List String)
    (childTrees content : Table Json) : Prop where
  value : ∀ name, content.get? name = (lastValue? pairs name).map .string
  sorted_content : content.Sorted
  child : ∀ name, childTrees.get? name =
    if name ∈ children then (type.child? name).map (·.default.save) else none
  sorted_children : childTrees.Sorted

section Trees

variable {type : ObjectType} {pairs pairs' : List (String × String)}
  {children children' : List String}

theorem Rearranged.symm (same : Rearranged pairs pairs' children children') :
    Rearranged pairs' pairs children' children where
  value := fun name => (same.value name).symm
  child := fun name => (same.child name).symm

theorem Declares.congr (same : Rearranged pairs pairs' children children')
    (declares : Declares type pairs children) : Declares type pairs' children' where
  properties := by
    intro pair among
    have given : (lastValue? pairs' pair.1).isSome := isSome_lastValue?_iff.2 ⟨pair, among, rfl⟩
    rw [← same.value, isSome_lastValue?_iff] at given
    obtain ⟨other, among, sameName⟩ := given
    obtain ⟨p, hp, hname⟩ := declares.properties other among
    exact ⟨p, hp, hname.trans sameName⟩
  children := fun name among => declares.children name ((same.child name).2 among)

/-- Only the last values and the set of the children count. -/
theorem Shows.unique (same : Rearranged pairs pairs' children children')
    {childTrees content childTrees' content' : Table Json}
    (shown : Shows type pairs children childTrees content)
    (shown' : Shows type pairs' children' childTrees' content') :
    childTrees = childTrees' ∧ content = content' := by
  constructor
  · refine Table.eq_of_get?_eq shown.sorted_children shown'.sorted_children fun name => ?_
    rw [shown.child, shown'.child]
    simp only [same.child]
  · refine Table.eq_of_get?_eq shown.sorted_content shown'.sorted_content fun name => ?_
    rw [shown.value, shown'.value, same.value]

/-- The tree of an object with these trees of children and this content. -/
def treeOf (childTrees content : Table Json) : Json :=
  .object [("childrenContent", .object childTrees), ("content", .object content)]

/-- The tree of a new object after updates and with children. -/
theorem exists_shows {typeName : String} {after : Composite Configuration}
    (furnished : Composite.Furnished type children
      ⟨typeName, Content.empty.setAll pairs, [], []⟩ after) :
    ∃ childTrees content, after.save = treeOf childTrees content ∧
      Shows type pairs children childTrees content := by
  have sorted : Table.Sorted after.children := furnished.sorted Table.sorted_nil
  have stored : after.content.toJson = .object ((Table.ofList pairs).mapValues .string) := by
    rw [furnished.content, Content.setAll_empty, Content.toJson_ofPairs]
  refine ⟨Configuration.saveChildren after.children, (Table.ofList pairs).mapValues .string,
    ?_, ?_, ?_, ?_, ?_⟩
  · rw [Composite.save, Configuration.save_composite, furnished.parked,
      Configuration.overlay_nil_saveChildren sorted, stored, treeOf]
  · intro name
    rw [Table.get?_mapValues, Table.get?_ofList]
  · exact Table.sorted_mapValues Json.string (Table.sorted_ofList pairs)
  · intro name
    have child : Table.get? name after.children = _ := furnished.child? name
    rw [Configuration.get?_saveChildren, child]
    change ((none : Option Configuration).or _).map _ = _
    split <;> simp [Function.comp_def]
  · exact Configuration.sorted_saveChildren sorted

end Trees

namespace Run

/-- A course that comes to its end and has printed a text then. -/
structure Prints (x : Run Unit) (text : String) : Prop where
  ends : x.result = .ok ()
  printed : x.printed = text

theorem Prints.after {α : Type} {x : Run α} {f : α → Run Unit} {a : α} {text : String}
    (ends : x.result = .ok a) (silent : x.printed = "") (h : (f a).Prints text) :
    (x >>= f).Prints text := by
  constructor
  · exact exists_bind ends h.ends
  · simp [bind, ends, silent, h.printed]

end Run

section Inspect

variable {files : Files} {project typeName : String} {updates children : List String}
  {pairs : List (String × String)}

theorem type?_of_findEntry {catalog : Catalog} {entry : Entry}
    (done : (findEntry catalog typeName).result = .ok entry) :
    catalog.type? typeName = some entry.type := by
  rw [Catalog.type?, findEntry_eq_ok done, Option.map_some]

theorem exists_findEntry {catalog : Catalog} {type : ObjectType}
    (known : catalog.type? typeName = some type) :
    ∃ entry, (findEntry catalog typeName).result = .ok entry := by
  obtain ⟨entry, found, -⟩ := Option.map_eq_some_iff.1 known
  refine ⟨entry, ?_⟩
  rw [findEntry, found]
  rfl

/-- The project can be loaded, the type is in it, and it declares what is asked for. -/
def Answerable (files : Files) (project typeName : String) (pairs : List (String × String))
    (children : List String) (type : ObjectType) : Prop :=
  ∃ catalog, (loadCatalog files project).result = .ok catalog ∧
    catalog.type? typeName = some type ∧ Declares type pairs children

theorem Answerable.congr {pairs' : List (String × String)} {children' : List String}
    (same : Rearranged pairs pairs' children children') {type : ObjectType}
    (answerable : Answerable files project typeName pairs children type) :
    Answerable files project typeName pairs' children' type := by
  obtain ⟨catalog, loaded, known, declares⟩ := answerable
  exact ⟨catalog, loaded, known, declares.congr same⟩

theorem exists_answerable (read : splitPairs updates = .ok pairs)
    (done : (inspect files project typeName updates children).result = .ok ()) :
    ∃ type, Answerable files project typeName pairs children type := by
  rw [inspect] at done
  obtain ⟨catalog, loaded, done⟩ := Run.exists_of_bind done
  obtain ⟨entry, found, done⟩ := Run.exists_of_bind done
  obtain ⟨pairs', split, done⟩ := Run.exists_of_bind done
  obtain ⟨updated, stored, done⟩ := Run.exists_of_bind done
  obtain ⟨after, made, -⟩ := Run.exists_of_bind done
  have known := type?_of_findEntry found
  rw [readPairs, read] at split
  obtain rfl : pairs = pairs' := Except.ok.inj split
  obtain ⟨properties, rfl⟩ := (setAll_eq_ok_iff _ known typeName pairs).1 stored
  exact ⟨entry.type, catalog, loaded, known, properties, declared_of_makeAll _ known made⟩

theorem exists_prints (read : splitPairs updates = .ok pairs) {type : ObjectType}
    (answerable : Answerable files project typeName pairs children type) :
    ∃ childTrees content, Shows type pairs children childTrees content ∧
      (inspect files project typeName updates children).Prints
        ((treeOf childTrees content).indented ++ "\n") := by
  obtain ⟨catalog, loaded, known, declares⟩ := answerable
  obtain ⟨entry, found⟩ := exists_findEntry known
  have split : readPairs updates = pure pairs := by rw [readPairs, read]
  have stored := (setAll_eq_ok_iff (.fresh typeName) known typeName pairs).2
    ⟨declares.properties, rfl⟩
  obtain ⟨after, made, furnished⟩ := exists_makeAll
    ⟨typeName, Content.empty.setAll pairs, [], []⟩ known rfl declares.children
  obtain ⟨childTrees, content, saved, shown⟩ := exists_shows furnished
  refine ⟨childTrees, content, shown, ?_⟩
  rw [inspect, ← saved]
  refine Run.Prints.after loaded (printed_loadCatalog files project) ?_
  refine Run.Prints.after found (printed_findEntry catalog typeName) ?_
  refine Run.Prints.after (by rw [split]; rfl) (printed_readPairs updates) ?_
  refine Run.Prints.after stored (printed_setAll ..) ?_
  refine Run.Prints.after made (printed_makeAll ..) ?_
  exact ⟨rfl, rfl⟩

end Inspect

theorem perform_inspect (s : Surroundings) {i : Invocation} {project typeName : String}
    {updates children : List String}
    (command : i.command = .inspect project typeName updates children) :
    perform s i = loadSettings s.files i.config >>= fun _ =>
      inspect s.files project typeName updates children := by
  rw [perform, command]

theorem code_run (s : Surroundings) {args : List String} {i : Invocation}
    (asked : Invocation.ofArguments args = .ok i) :
    (run s args).code = 0 ↔ (perform s i).result = .ok () := by
  rw [run, asked]
  cases result : (perform s i).result with
  | ok done => simp [result]
  | error report => simp [result]

theorem printed_run (s : Surroundings) {args : List String} {i : Invocation}
    (asked : Invocation.ofArguments args = .ok i) :
    (run s args).printed = (perform s i).printed := by
  rw [run, asked]
  cases result : (perform s i).result <;> simp [result]

/-- The settings that are asked for can be loaded. -/
def Configured (s : Surroundings) (i : Invocation) : Prop :=
  ∃ settings, (loadSettings s.files i.config).result = .ok settings

section Invocations

variable (s : Surroundings) {args args' : List String} {i i' : Invocation}
  {project typeName : String} {updates updates' children children' : List String}
  {pairs pairs' : List (String × String)}

/-- An object is shown exactly where the settings can be loaded and the project answers. -/
theorem code_inspect (asked : Invocation.ofArguments args = .ok i)
    (command : i.command = .inspect project typeName updates children)
    (read : splitPairs updates = .ok pairs) :
    (run s args).code = 0 ↔ Configured s i ∧
      ∃ type, Answerable s.files project typeName pairs children type := by
  rw [code_run s asked, perform_inspect s command]
  constructor
  · intro done
    obtain ⟨settings, configured, done⟩ := Run.exists_of_bind done
    exact ⟨⟨settings, configured⟩, exists_answerable read done⟩
  · rintro ⟨⟨settings, configured⟩, type, answerable⟩
    obtain ⟨childTrees, content, -, prints⟩ := exists_prints read answerable
    exact Run.exists_bind configured prints.ends

/-- What is printed then. -/
theorem exists_shown (asked : Invocation.ofArguments args = .ok i)
    (command : i.command = .inspect project typeName updates children)
    (read : splitPairs updates = .ok pairs) (configured : Configured s i) {type : ObjectType}
    (answerable : Answerable s.files project typeName pairs children type) :
    ∃ childTrees content, Shows type pairs children childTrees content ∧
      (run s args).printed = (treeOf childTrees content).indented ++ "\n" := by
  obtain ⟨settings, configured⟩ := configured
  obtain ⟨childTrees, content, shown, prints⟩ := exists_prints read answerable
  have whole := Run.Prints.after (f := fun _ => inspect s.files project typeName updates children)
    configured (printed_loadSettings s.files i.config) prints
  refine ⟨childTrees, content, shown, ?_⟩
  rw [printed_run s asked, perform_inspect s command, whole.printed]

/-- Two ways to ask for an object: the same last value is given to every name, and the same children
are asked for. Both are refused, or both are answered with the same tree. -/
theorem inspect_of_rearranged (asked : Invocation.ofArguments args = .ok i)
    (asked' : Invocation.ofArguments args' = .ok i')
    (command : i.command = .inspect project typeName updates children)
    (command' : i'.command = .inspect project typeName updates' children')
    (read : splitPairs updates = .ok pairs) (read' : splitPairs updates' = .ok pairs')
    (configured : Configured s i ↔ Configured s i')
    (same : Rearranged pairs pairs' children children') :
    ((run s args).code = 0 ↔ (run s args').code = 0) ∧
    ((run s args).code = 0 ↔ Configured s i ∧
      ∃ type, Answerable s.files project typeName pairs children type) ∧
    ((run s args).code = 0 → ∃ type childTrees content,
      Answerable s.files project typeName pairs children type ∧
      Shows type pairs children childTrees content ∧
      (run s args).printed = (treeOf childTrees content).indented ++ "\n" ∧
      (run s args').printed = (treeOf childTrees content).indented ++ "\n") := by
  have answered := code_inspect s asked command read
  have answered' := code_inspect s asked' command' read'
  have carried {type : ObjectType} :
      Answerable s.files project typeName pairs children type ↔
        Answerable s.files project typeName pairs' children' type :=
    ⟨fun h => h.congr same, fun h => h.congr same.symm⟩
  refine ⟨?_, answered, ?_⟩
  · simp only [answered, answered', configured, carried]
  · intro done
    obtain ⟨loaded, type, answerable⟩ := answered.1 done
    obtain ⟨childTrees, content, shown, printed⟩ :=
      exists_shown s asked command read loaded answerable
    obtain ⟨childTrees', content', shown', printed'⟩ :=
      exists_shown s asked' command' read' (configured.1 loaded) (carried.1 answerable)
    obtain ⟨rfl, rfl⟩ := shown.unique same shown'
    exact ⟨type, childTrees, content, answerable, shown, printed, printed'⟩

end Invocations

def repainted : List String := [
  "inspect", "farm.json", "Farm::Ox", "--set", "color=red", "--child", "tail", "--set",
  "color=blue"]

def paintedOnce : List String := [
  "inspect", "--child", "tail", "farm.json", "--set", "color=blue", "Farm::Ox", "--child", "tail"]

/-- The colour is set twice, or the tail is asked for twice. -/
theorem inspect_of_rearranged_ox :
    (run lockedFarm repainted).code = 0 ∧ (run lockedFarm paintedOnce).code = 0 ∧
      ∃ type childTrees content,
        Answerable lockedFarm.files "farm.json" "Farm::Ox" [("color", "red"), ("color", "blue")]
          ["tail"] type ∧
        Shows type [("color", "red"), ("color", "blue")] ["tail"] childTrees content ∧
        (run lockedFarm repainted).printed = (treeOf childTrees content).indented ++ "\n" ∧
        (run lockedFarm paintedOnce).printed = (treeOf childTrees content).indented ++ "\n" := by
  have asked : Invocation.ofArguments repainted = .ok ⟨false, none, none,
      .inspect "farm.json" "Farm::Ox" ["color=red", "color=blue"] ["tail"]⟩ := by
    decide +kernel
  have asked' : Invocation.ofArguments paintedOnce = .ok ⟨false, none, none,
      .inspect "farm.json" "Farm::Ox" ["color=blue"] ["tail", "tail"]⟩ := by
    decide +kernel
  have read : splitPairs ["color=red", "color=blue"] =
      .ok [("color", "red"), ("color", "blue")] := by
    decide +kernel
  have read' : splitPairs ["color=blue"] = .ok [("color", "blue")] := by
    decide +kernel
  have sameTable : Table.ofList [("color", "red"), ("color", "blue")] =
      Table.ofList [("color", "blue")] := by
    decide
  have done : (run lockedFarm repainted).code = 0 := by decide +kernel
  obtain ⟨both, -, shown⟩ := inspect_of_rearranged lockedFarm asked asked' rfl rfl read read'
    Iff.rfl ⟨Table.ofList_eq_ofList_iff.1 sameTable, by simp⟩
  exact ⟨done, both.1 done, shown done⟩

end CommandLine
end CompositeObjects
