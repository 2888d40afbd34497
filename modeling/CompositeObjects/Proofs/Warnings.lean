import CompositeObjects.Proofs.Reachable
import CompositeObjects.Proofs.Runs
import CompositeObjects.ProjectFile
import CompositeObjects.Script.ObjectClass

namespace CompositeObjects

namespace Event

/-- The texts of the warnings among events. -/
def warnings (events : List Event) : List String :=
  (events.filter fun e => e.level = .warn).map Event.message

@[simp] theorem warnings_append (events others : List Event) :
    warnings (events ++ others) = warnings events ++ warnings others := by
  simp [warnings]

end Event

namespace Traced

variable {α β : Type}

/-- The texts of the warnings on the way to a result. -/
def warnings (t : Traced α) : List String := Event.warnings t.events

@[simp] theorem warnings_pure (x : α) : (pure x : Traced α).warnings = [] := rfl

@[simp] theorem warnings_bind (x : Traced α) (f : α → Traced β) :
    (x >>= f).warnings = x.warnings ++ (f x.value).warnings := by
  simp [warnings]

@[simp] theorem warnings_map (f : α → β) (x : Traced α) : (f <$> x).warnings = x.warnings := by
  rw [map_eq_pure_bind, warnings_bind, warnings_pure, List.append_nil]

theorem warnings_tell (event : Event) :
    (tell event).warnings = if event.level = .warn then [event.message] else [] := by
  by_cases warns : event.level = .warn <;> simp [warnings, Event.warnings, tell, warns]

end Traced

/-- The entries of a content that are kept as they are make no warning. -/
theorem warnings_keptEntry (names : List String) :
    Event.warnings (names.map .keptEntry) = [] := by
  simp [Event.warnings, Event.level]

namespace Configuration

variable {catalog : Catalog}

mutual

theorem warnings_take (tree : Json) (saved : SavedTree) (c : Configuration) :
    (c.take catalog tree saved).warnings = [] := by
  cases c with
  | verbatim typeName old => rw [take, Traced.warnings_pure]
  | composite node =>
    match saved with
    | .malformed kept fault =>
      rw [take]
      exact warnings_keptEntry kept
    | .composite content trees =>
      have kept : (Traced.mk () content.keptEvents).warnings = [] :=
        warnings_keptEntry content.kept.keys
      rw [take, Traced.warnings_bind, kept, List.nil_append]
      cases catalog.type? node.typeName with
      | none =>
        simp [Traced.warnings_tell, Event.level]
      | some type =>
        have children := warnings_takeChildren node.typeName type trees node.children
        simp [children]

theorem warnings_takeChildren (typeName : String) (type : ObjectType)
    (trees : List (String × Json × SavedTree)) (children : Table Configuration) :
    (takeChildren catalog typeName type trees children).warnings = [] := by
  match trees with
  | [] => rw [takeChildren, Traced.warnings_pure]
  | (name, tree, saved) :: rest =>
    rw [takeChildren]
    cases type.child? name with
    | none =>
      have others := warnings_takeChildren typeName type rest children
      simp [Traced.warnings_tell, Event.level, others]
    | some declared =>
      have first := warnings_take tree saved (startingChild children declared)
      dsimp only
      rw [Traced.warnings_bind, first, List.nil_append]
      split
      · rfl
      · exact warnings_takeChildren typeName type rest _

end

/-- No load makes a warning, whatever it loads and whether or not it succeeds. -/
theorem warnings_load (c : Configuration) (tree : Json) :
    (c.load catalog tree).warnings = [] :=
  warnings_take tree (.ofJson tree) c

end Configuration

namespace Composite

variable {catalog : Catalog}

/-- A child is made without a warning, also where the tree that was kept aside for it is dropped. -/
theorem warnings_newChild (declared : Child) (parked : Option Json) :
    (newChild catalog declared parked).warnings = [] := by
  cases parked with
  | none => rfl
  | some tree =>
    rw [newChild, Traced.warnings_bind, Configuration.warnings_load, List.nil_append]
    split
    · rfl
    · simp [Traced.warnings_tell, Event.level]

theorem warnings_makeChild (node : Composite Configuration) (name : String) :
    (node.makeChild catalog name).warnings = [] := by
  unfold makeChild
  split
  · rfl
  · split
    · rfl
    · split
      · rfl
      · simp [warnings_newChild]

/-- What a request for a child warns of: the error that it is refused with. -/
theorem warnings_lookup (node : Composite Configuration) (name : String) :
    (node.lookup catalog name).warnings =
      match (node.lookup catalog name).value with
      | .error error => [error.message]
      | .ok _ => [] := by
  rw [lookup, Traced.warnings_bind, warnings_makeChild, List.nil_append, Traced.value_bind]
  generalize (node.makeChild catalog name).value = made
  cases made with
  | error error =>
    -- The equations of `Event.message` are slow to make, as some of them begin with a literal.
    have text : (Event.failedLookup error).message = error.message := rfl
    have warns : (Event.failedLookup error).level = .warn := rfl
    simp only [Traced.warnings_bind, Traced.value_bind, Traced.warnings_pure, Traced.value_pure,
      List.append_nil]
    rw [Traced.warnings_tell, if_pos warns, text]
  | ok found => simp

/-- A declared child is given out, whatever has become of the object. -/
theorem exists_lookup_of_declared {node : Composite Configuration} {type : ObjectType}
    (known : catalog.type? node.typeName = some type) {declared : Child}
    (member : declared ∈ type.children) :
    ∃ child node', (node.lookup catalog declared.name).value = .ok (child, node') := by
  obtain ⟨first, found⟩ : ∃ first, type.child? declared.name = some first := by
    refine Option.isSome_iff_exists.1 ?_
    exact List.find?_isSome.2 ⟨declared, member, by simp⟩
  cases made : node.child? declared.name with
  | none => exact ⟨_, _, lookup_new known found made⟩
  | some child => exact ⟨child, node, lookup_made known found made⟩

theorem warnings_visitViews {σ : Type} (walker : Walker σ) (views : Table Property)
    (node : Composite Configuration) (s : σ) :
    (visitViews catalog walker views node s).warnings = [] := by
  induction views generalizing node s with
  | nil => rfl
  | cons e rest ih =>
    obtain ⟨name, view⟩ := e
    rw [visitViews]
    split
    · exact ih node s
    · split
      · simp [Traced.warnings_tell, Event.level, ih]
      · exact ih _ _

end Composite

namespace Configuration

variable {catalog : Catalog} {σ : Type} {walker : Walker σ}

/-- The requests of a walk are for declared children only, so that none of them is refused. -/
theorem warnings_walkChildren {step : Configuration → σ → Option (Traced (Configuration × σ))}
    (steps : ∀ c s r, step c s = some r → r.warnings = []) {type : ObjectType}
    {declared : List Child} (members : ∀ d ∈ declared, d ∈ type.children)
    {node : Composite Configuration} (known : catalog.type? node.typeName = some type) {s : σ}
    {r : Traced (Composite Configuration × σ)}
    (ends : walkChildren catalog step declared node s = some r) : r.warnings = [] := by
  induction declared generalizing node s r with
  | nil =>
    cases ends
    rfl
  | cons d rest ih =>
    obtain ⟨child, node', found⟩ :=
      Composite.exists_lookup_of_declared known (members d List.mem_cons_self)
    have silent : (node.lookup catalog d.name).warnings = [] := by
      rw [Composite.warnings_lookup, found]
    have knownAfter : catalog.type? node'.typeName = some type := by
      rw [Composite.typeName_of_lookup found, known]
    rw [walkChildren] at ends
    simp only [found, Option.bind_eq_some_iff, Option.map_eq_some_iff] at ends
    obtain ⟨walked, here, others, there, rfl⟩ := ends
    have inner : walked.warnings = [] := steps _ _ _ here
    have outer : others.warnings = [] :=
      @ih (fun d hd => members d (List.mem_cons_of_mem _ hd)) (node'.withChild d.name walked.value.1)
        knownAfter _ _ there
    unfold Traced.warnings at silent inner outer ⊢
    rw [Event.warnings_append, Event.warnings_append, silent, inner, outer, List.append_nil,
      List.append_nil]

/-- A walk that comes to its end makes no warning, in whatever state the configuration was. -/
theorem warnings_walkWithin {levels : Nat} {c : Configuration} {s : σ}
    {r : Traced (Configuration × σ)} (ends : walkWithin catalog walker levels c s = some r) :
    r.warnings = [] := by
  induction levels generalizing c s r with
  | zero =>
    cases c with
    | verbatim typeName tree =>
      cases ends
      rfl
    | composite node => cases ends
  | succ levels ih =>
    cases c with
    | verbatim typeName tree =>
      cases ends
      rfl
    | composite node =>
      have visited := @Composite.warnings_visitViews catalog σ walker (node.views catalog) node s
      rw [walkWithin] at ends
      dsimp only at ends
      split at ends
      · cases ends
        exact visited
      · rename_i type known
        obtain ⟨others, children, rfl⟩ := Option.map_eq_some_iff.1 ends
        have inner : others.warnings = [] :=
          warnings_walkChildren (fun _ _ _ => ih) (fun _ member => member) known children
        unfold Traced.warnings at visited inner ⊢
        rw [Event.warnings_append, visited, inner, List.append_nil]

/-- The child that is refused on the way down a path. -/
def refused? {α : Type} : Except PathError α → Option LookupError
  | .error (.lookup error) => some error
  | .error .notComposite | .ok _ => none

/-- What is done under a path warns of the child that is refused on the way there, and of nothing else
where it does not warn itself. -/
theorem warnings_actAt {α : Type} {act : Configuration → Traced (Configuration × α)}
    (silent : ∀ c, (act c).warnings = []) (path : List String) (c : Configuration) :
    (actAt catalog act path c).warnings =
      (refused? (actAt catalog act path c).value.2).toList.map LookupError.message := by
  induction path generalizing c with
  | nil =>
    rw [actAt, Traced.warnings_bind, silent]
    rfl
  | cons name path ih =>
    cases c with
    | verbatim typeName tree => rfl
    | composite node =>
      have asked := @Composite.warnings_lookup catalog node name
      rw [actAt, Traced.warnings_bind, Traced.value_bind, asked]
      generalize (node.lookup catalog name).value = found
      cases found with
      | error error => rfl
      | ok pair =>
        obtain ⟨child, node'⟩ := pair
        simp only [Traced.warnings_bind, Traced.value_bind, Traced.warnings_pure,
          Traced.value_pure, List.nil_append, List.append_nil, ih child]

namespace Operation

/-- An operation with all that is told on the way, and with the error where a child is refused. -/
def perform (catalog : Catalog) :
    Operation → Configuration → Option (Traced (Configuration × Option LookupError))
  | .lookup _, .verbatim typeName tree => some (pure (.verbatim typeName tree, none))
  | .lookup name, .composite node =>
    let found := node.lookup catalog name
    some ⟨match found.value with
      | .error error => (.composite node, some error)
      | .ok (_, node) => (.composite node, none), found.events⟩
  | .update name value, c => some (pure (c.afterUpdate catalog name value, none))
  | .load tree, c => some ⟨(c.afterLoad catalog tree, none), (c.load catalog tree).events⟩
  | .walk walker s levels, c =>
    (walkWithin catalog walker levels c s).map fun r => ⟨(r.value.1, none), r.events⟩
  | .within _ _, .verbatim typeName tree => some (pure (.verbatim typeName tree, none))
  | .within name operation, .composite node =>
    let found := node.lookup catalog name
    match found.value with
    | .error error => some ⟨(.composite node, some error), found.events⟩
    | .ok (child, node) => (operation.perform catalog child).map fun r =>
        ⟨(.composite (node.withChild name r.value.1), r.value.2), found.events ++ r.events⟩

/-- It is the operation as it is without what is told. -/
theorem map_perform (operation : Operation) (c : Configuration) :
    (operation.perform catalog c).map (fun t => t.value.1) = operation.apply catalog c := by
  induction operation generalizing c with
  | lookup name =>
    cases c with
    | verbatim typeName tree => rfl
    | composite node =>
      rw [perform, apply, Composite.afterLookup]
      cases (node.lookup catalog name).value with
      | error error => rfl
      | ok found => rfl
  | update name value => rfl
  | load tree => rfl
  | walk walker s levels =>
    rw [perform, apply, Option.map_map]
    rfl
  | within name operation ih =>
    cases c with
    | verbatim typeName tree => rfl
    | composite node =>
      cases found : (node.lookup catalog name).value with
      | error error => simp only [perform, apply, found, Option.map_some]
      | ok pair => simp only [perform, apply, found, ← ih, Option.map_map, Function.comp_def]

/-- A child that is refused is the only thing that an operation warns of. -/
theorem warnings_perform {operation : Operation} {c : Configuration}
    {t : Traced (Configuration × Option LookupError)}
    (done : operation.perform catalog c = some t) :
    t.warnings = t.value.2.toList.map LookupError.message := by
  induction operation generalizing c t with
  | lookup name =>
    cases c with
    | verbatim typeName tree =>
      cases done
      rfl
    | composite node =>
      have asked := @Composite.warnings_lookup catalog node name
      cases done
      rw [Traced.warnings] at asked ⊢
      rw [asked]
      cases (node.lookup catalog name).value with
      | error error => rfl
      | ok found => rfl
  | update name value =>
    cases done
    rfl
  | load tree =>
    cases done
    exact warnings_load c tree
  | walk walker s levels =>
    obtain ⟨r, ends, rfl⟩ := Option.map_eq_some_iff.1 done
    have silent : r.warnings = [] := warnings_walkWithin ends
    exact silent
  | within name operation ih =>
    cases c with
    | verbatim typeName tree =>
      cases done
      rfl
    | composite node =>
      have asked := @Composite.warnings_lookup catalog node name
      rw [perform] at done
      split at done
      · rename_i refused
        cases done
        rw [refused] at asked
        exact asked
      · rename_i found
        obtain ⟨r, inner, rfl⟩ := Option.map_eq_some_iff.1 done
        rw [found] at asked
        rw [Traced.warnings] at asked ⊢
        rw [Event.warnings_append, asked, List.nil_append]
        exact ih inner

end Operation

/-- One operation after the other, with the errors of all requests that are refused. -/
def performAll : List (Catalog × Operation) → Configuration →
    Option (Traced (Configuration × List LookupError))
  | [], c => some (pure (c, []))
  | p :: rest, c => (p.2.perform p.1 c).bind fun first =>
    (performAll rest first.value.1).map fun others =>
      ⟨(others.value.1, first.value.2.toList ++ others.value.2), first.events ++ others.events⟩

theorem map_performAll (operations : List (Catalog × Operation)) (c : Configuration) :
    (performAll operations c).map (fun t => t.value.1) = run operations c := by
  induction operations generalizing c with
  | nil => rfl
  | cons p rest ih =>
    rw [performAll, run_cons, ← p.2.map_perform, Option.map_bind, Option.bind_map]
    congr 1
    funext first
    rw [Function.comp_apply, Function.comp_apply, ← ih, Option.map_map]
    rfl

/-- The warnings of any number of operations, each under a catalog of its own, are the refusals. -/
theorem warnings_performAll {operations : List (Catalog × Operation)} {c : Configuration}
    {t : Traced (Configuration × List LookupError)} (done : performAll operations c = some t) :
    t.warnings = t.value.2.map LookupError.message := by
  induction operations generalizing c t with
  | nil =>
    cases done
    rfl
  | cons p rest ih =>
    obtain ⟨first, here, done⟩ := Option.bind_eq_some_iff.1 done
    obtain ⟨others, there, rfl⟩ := Option.map_eq_some_iff.1 done
    have one : first.warnings = first.value.2.toList.map LookupError.message :=
      Operation.warnings_perform here
    have more : others.warnings = others.value.2.map LookupError.message := ih there
    rw [Traced.warnings] at one more ⊢
    rw [Event.warnings_append, one, more, List.map_append]

end Configuration

namespace ProjectFile

theorem warnings_fill (declared : Catalog) (pending : List PendingChild) (catalog : Catalog) :
    (fill declared pending catalog).warnings = [] := by
  induction pending generalizing catalog with
  | nil => rfl
  | cons next rest ih =>
    rw [fill]
    split
    · exact ih catalog
    · rw [Traced.warnings_bind, Configuration.warnings_load, List.nil_append]
      split
      · rfl
      · exact ih _

theorem warnings_catalogOf (file : Except Fault ProjectFile) : (catalogOf file).warnings = [] := by
  cases file with
  | error fault => rfl
  | ok file =>
    rw [catalogOf, catalog]
    split
    · rfl
    · rw [Traced.warnings_bind, warnings_fill, List.nil_append]
      split
      · rfl
      · simp [Traced.warnings_tell, Event.level]

end ProjectFile

namespace Script

theorem warnings_generate {σ : Type} (compiler : MethodCompiler σ) (r : ClassRequest) (s : σ) :
    (generate compiler r s).warnings =
      (r.type.functions.filter fun f => !r.methodNames.contains f.name).map fun f =>
        "No method name for function " ++ f.name ++ " of " ++ r.type.name := by
  have events : (generate compiler r s).events = r.events := by
    unfold generate
    rfl
  have generated : Event.warnings [.generatedClass r.type.name r.type.functions.length] = [] := by
    simp [Event.warnings, Event.level]
  have unnamed (functions : List EventFunction) :
      Event.warnings (functions.map fun f => .unnamedMethod f.name r.type.name) =
        functions.map fun f => "No method name for function " ++ f.name ++ " of " ++ r.type.name := by
    induction functions with
    | nil => rfl
    | cons f rest ih =>
      rw [List.map_cons, List.map_cons, ← ih]
      rfl
  rw [Traced.warnings, events, ClassRequest.events, Event.warnings_append, unnamed, generated,
    List.append_nil]

end Script
namespace Configuration

/-- A warning is a request for a child that is refused, with the text of its error, or a function
without an identifier, in order of declaration. Nothing warns within a load or a walk, however deep
and whatever becomes of it, nor when a project is loaded, and what is asked or updated under a path
warns of no more than a child that is refused on the way there. -/
theorem warnings_are_refusals (catalog : Catalog) :
    (∀ c tree, (load catalog c tree).warnings = []) ∧
    (∀ {σ : Type} (walker : Walker σ) (levels : Nat) (c : Configuration) (s : σ)
      (r : Traced (Configuration × σ)), walkWithin catalog walker levels c s = some r →
        r.warnings = []) ∧
    (∀ (node : Composite Configuration) (name : String),
      (∀ error, (node.lookup catalog name).value = .error error →
        (node.lookup catalog name).warnings = [error.message]) ∧
      ∀ found, (node.lookup catalog name).value = .ok found →
        (node.lookup catalog name).warnings = []) ∧
    (∀ (path : List String) (c : Configuration),
      (actAt catalog (fun c => pure (c, c.views catalog)) path c).warnings =
        (refused? (actAt catalog (fun c => pure (c, c.views catalog)) path c).value.2).toList.map
          LookupError.message) ∧
    (∀ (name value : String) (path : List String) (c : Configuration),
      (actAt catalog (fun c => pure (c.afterUpdate catalog name value,
          (c.update? catalog name value).isSome)) path c).warnings =
        (refused? (actAt catalog (fun c => pure (c.afterUpdate catalog name value,
          (c.update? catalog name value).isSome)) path c).value.2).toList.map
          LookupError.message) ∧
    (∀ operations c t, performAll operations c = some t →
      run operations c = some t.value.1 ∧ t.warnings = t.value.2.map LookupError.message) ∧
    (∀ text, (Catalog.ofText text).warnings = []) ∧
    (∀ value, (Catalog.ofJson value).warnings = []) ∧
    ∀ {σ : Type} (compiler : Script.MethodCompiler σ) (r : Script.ClassRequest) (s : σ),
      (Script.generate compiler r s).warnings =
        (r.type.functions.filter fun f => !r.methodNames.contains f.name).map fun f =>
          "No method name for function " ++ f.name ++ " of " ++ r.type.name := by
  refine ⟨warnings_load, fun walker levels c s r ends => warnings_walkWithin ends, ?_,
    warnings_actAt fun _ => rfl, fun name value => warnings_actAt fun _ => rfl, ?_,
    fun text => ProjectFile.warnings_catalogOf _, fun value => ProjectFile.warnings_catalogOf _,
    Script.warnings_generate⟩
  · intro node name
    have asked := @Composite.warnings_lookup catalog node name
    constructor
    · intro error refused
      rw [asked, refused]
    · intro found given
      rw [asked, given]
  · intro operations c t done
    have same := map_performAll operations c
    rw [done] at same
    exact ⟨same.symm, warnings_performAll done⟩

/-- A knight is asked for a sword, for the coin of its bag and for a gem in it, and is walked. -/
def knightRequests : List (Catalog × Operation) :=
  [.lookup "sword", .within "bag" (.lookup "coin"), .within "bag" (.lookup "gem"),
    .update "face" "king.png", .walk ⟨fun _ name count => ("art/" ++ name, count + 1)⟩ 0 3].map
      fun operation => (knightCatalog, operation)

theorem warnings_knightRequests :
    ((Composite.fresh "Game::Ghost").lookup knightCatalog "bag").warnings =
        ["Unknown composite type: Game::Ghost"] ∧
      ((Composite.fresh "Game::Knight").lookup knightCatalog "bag").warnings = [] ∧
      (∃ r, walkWithin knightCatalog ⟨fun _ name count => ("art/" ++ name, count + 1)⟩ 3
        gildedKnight 0 = some r ∧ r.warnings = []) ∧
      ∃ t, performAll knightRequests gildedKnight = some t ∧ t.warnings = [
        "Tried to get the configuration of a child-object: sword that doesn't exist in the " ++
          "composite type: Game::Knight",
        "Tried to get the configuration of a child-object: gem that doesn't exist in the " ++
          "composite type: Game::Bag"] := by
  obtain ⟨-, walks, asks, -, -, runs, -⟩ := warnings_are_refusals knightCatalog
  have unknown : knightCatalog.type? "Game::Ghost" = none := by
    rw [← Option.isNone_iff_eq_none]
    decide +kernel
  have refused := @Composite.lookup_unresolved knightCatalog (.fresh "Game::Ghost") unknown "bag"
  have given : ((Composite.fresh "Game::Knight").lookup knightCatalog "bag").value.isOk = true := by
    decide +kernel
  have ends : (walkWithin knightCatalog ⟨fun _ name count => ("art/" ++ name, count + 1)⟩ 3
      gildedKnight 0).isSome := by
    decide +kernel
  have refusals : (performAll knightRequests gildedKnight).map (fun t => t.value.2) =
      some [.undeclaredChild "Game::Knight" "sword", .undeclaredChild "Game::Bag" "gem"] := by
    decide +kernel
  obtain ⟨bag, found⟩ := exists_of_isOk given
  obtain ⟨r, walked⟩ := Option.isSome_iff_exists.1 ends
  obtain ⟨t, done, errors⟩ := Option.map_eq_some_iff.1 refusals
  refine ⟨(asks _ _).1 _ refused, (asks _ _).2 _ found, ⟨r, walked, walks _ _ _ _ _ walked⟩, t,
    done, ?_⟩
  rw [(runs _ _ _ done).2, errors]
  decide +kernel

end Configuration
end CompositeObjects
