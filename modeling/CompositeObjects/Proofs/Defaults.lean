import CompositeObjects.Proofs.DeclarationOrder

namespace CompositeObjects

namespace ObjectType

theorem find?_updateDefault_go (children : List Child) (name : String) (default : Configuration)
    (other : String) :
    (updateDefault.go name default children).find? (·.name == other) =
      if other = name then (children.find? (·.name == other)).map fun c => { c with default }
      else children.find? (·.name == other) := by
  induction children with
  | nil =>
    rw [updateDefault.go]
    split <;> rfl
  | cons c rest ih =>
    rw [updateDefault.go]
    by_cases hname : c.name = name
    · rw [if_pos hname]
      by_cases hother : other = name
      · rw [if_pos hother, List.find?_cons_of_pos (by simp [hname, hother]),
          List.find?_cons_of_pos (by simp [hname, hother])]
        rfl
      · have hne : c.name ≠ other := by
          rw [hname]
          exact Ne.symm hother
        rw [if_neg hother, List.find?_cons_of_neg (by simpa using hne),
          List.find?_cons_of_neg (by simpa using hne)]
    · rw [if_neg hname]
      by_cases hc : c.name = other
      · have hother : other ≠ name := by
          rw [← hc]
          exact hname
        rw [if_neg hother, List.find?_cons_of_pos (by simpa using hc),
          List.find?_cons_of_pos (by simpa using hc)]
      · rw [List.find?_cons_of_neg (by simpa using hc), ih,
          List.find?_cons_of_neg (by simpa using hc)]

theorem names_updateDefault_go (children : List Child) (name : String) (default : Configuration) :
    (updateDefault.go name default children).map Child.name = children.map Child.name := by
  induction children with
  | nil => rfl
  | cons c rest ih =>
    rw [updateDefault.go]
    split
    · rfl
    · rw [List.map_cons, List.map_cons, ih]

/-- A new default is found under its name, and no other one is different. -/
theorem child?_updateDefault (type : ObjectType) (name : String) (default : Configuration)
    (other : String) :
    (type.updateDefault name default).child? other =
      if other = name then (type.child? other).map fun c => { c with default }
      else type.child? other :=
  find?_updateDefault_go type.children name default other

end ObjectType

namespace ProjectFile

variable {file : ProjectFile} {declared catalog : Catalog}

/-- To fill a type changes nothing of it but the defaults of its children. -/
theorem fillType_keeps {pending : List PendingChild} {type result : ObjectType}
    (done : fillType declared pending type = .ok result) :
    result = { type with children := result.children } ∧
      result.children.map Child.name = type.children.map Child.name := by
  induction pending generalizing type with
  | nil =>
    cases done
    exact ⟨rfl, rfl⟩
  | cons next rest ih =>
    rw [fillType] at done
    split at done
    · exact ih done
    · split at done
      · cases done
      · obtain ⟨same, names⟩ := ih done
        exact ⟨same, names.trans (ObjectType.names_updateDefault_go ..)⟩

theorem child?_of_fillType {pending : List PendingChild} {type result : ObjectType}
    (done : fillType declared pending type = .ok result) {name : String}
    (h : name ∉ pending.map PendingChild.child) : result.child? name = type.child? name := by
  induction pending generalizing type with
  | nil =>
    cases done
    rfl
  | cons next rest ih =>
    obtain ⟨hne, h⟩ := not_or.1 (mt List.mem_cons.2 h)
    rw [fillType] at done
    split at done
    · exact ih done h
    · split at done
      · cases done
      · rw [ih done h, ObjectType.child?_updateDefault, if_neg hne]

/-- A child that is to be filled has as its default what its tree makes of the default that it was
declared with. -/
theorem exists_default_of_fillType {pending : List PendingChild} {type result : ObjectType}
    (done : fillType declared pending type = .ok result)
    (nodup : (pending.map PendingChild.child).Nodup) {next : PendingChild}
    (hnext : next ∈ pending) {child : Child} (found : type.child? next.child = some child) :
    ∃ loaded, (child.default.load declared next.tree).value = .ok loaded ∧
      result.child? next.child = some { child with default := loaded } := by
  induction pending generalizing type with
  | nil => cases hnext
  | cons first rest ih =>
    obtain ⟨fresh, nodup⟩ := List.nodup_cons.1 nodup
    rw [fillType] at done
    rcases List.mem_cons.1 hnext with rfl | hnext
    · rw [found] at done
      dsimp only at done
      split at done
      · cases done
      · rename_i loaded ok
        refine ⟨loaded, ok, ?_⟩
        rw [child?_of_fillType done fresh, ObjectType.child?_updateDefault, if_pos rfl, found]
        rfl
    · have hne : next.child ≠ first.child := by
        intro heq
        exact fresh (List.mem_map.2 ⟨next, hnext, heq⟩)
      split at done
      · exact ih done nodup hnext found
      · split at done
        · cases done
        · refine ih done nodup hnext ?_
          rw [ObjectType.child?_updateDefault, if_neg hne, found]

/-- An entry of the catalog is what filling it alone makes of it as it was declared. -/
theorem exists_fillType (ok : file.declare = .ok declared)
    (filled : (fill declared file.pending declared).value = .ok catalog)
    {t : String × TypeEntry} (ht : t ∈ file.types) :
    ∃ type, catalog.entry? (qualifiedName t.1 t.2.name) = some ⟨t.1, type⟩ ∧
      fillType declared (pendingOf file.typeNames t) (declareType file.typeNames t.2) = .ok type := by
  obtain ⟨indexed, entries⟩ := declare_eq_ok ok
  have typeNames : file.typeNames.Nodup := file.exists_declare_iff.1 ⟨declared, ok⟩
  have here : declared.entry? (qualifiedName t.1 t.2.name) = some (file.declaredEntry t) := by
    refine indexed.entry?_eq_some_iff.2 ⟨?_, rfl⟩
    rw [entries]
    exact List.mem_map.2 ⟨t, ht, rfl⟩
  have pending : pendingIn (qualifiedName t.1 t.2.name) file.pending =
      pendingOf file.typeNames t := by
    rw [pending_eq, pendingIn_flatMap, Table.filter_key_eq_singleton typeNames ht,
      List.flatMap_singleton]
  have each := (entry?_fill indexed filled).2 (qualifiedName t.1 t.2.name)
  rw [here, pending, Option.map_some] at each
  obtain ⟨entry, known, filledEntry⟩ := Option.map_eq_some_iff.1 each
  have each : (fillType declared (pendingOf file.typeNames t)
      (declareType file.typeNames t.2)).map (fun type => (⟨t.1, type⟩ : Entry)) = .ok entry :=
    filledEntry.symm
  cases done : fillType declared (pendingOf file.typeNames t) (declareType file.typeNames t.2) with
  | error error =>
    rw [done] at each
    cases each
  | ok type =>
    rw [done] at each
    cases each
    exact ⟨type, known, rfl⟩

theorem default_declareChild (names : List String) (c : ChildEntry) :
    (declareChild names c).default = if c.typeName ∈ names then .composite (.fresh c.typeName)
      else .verbatim c.typeName (.object c.tree) := by
  rw [declareChild]
  simp only [List.contains_iff_mem]

/-- A child is declared under its name where no other one has the name. -/
theorem child?_declareType (names : List String) {t : TypeEntry}
    (distinct : (t.children.map ChildEntry.name).Nodup) {c : ChildEntry} (hc : c ∈ t.children) :
    (declareType names t).child? c.name = some (declareChild names c) := by
  rw [ObjectType.child?, declareType, List.find?_map]
  have alone := Table.find?_key_eq_some distinct hc
  exact congrArg (Option.map (declareChild names)) alone

/-- The default of a composite child of the file is what its tree makes of an empty object among the
types as they were declared. -/
theorem exists_default (ok : file.declare = .ok declared)
    (filled : (fill declared file.pending declared).value = .ok catalog)
    {t : String × TypeEntry} (ht : t ∈ file.types)
    (distinct : (t.2.children.map ChildEntry.name).Nodup) {c : ChildEntry}
    (hc : c ∈ t.2.children) (composite : c.typeName ∈ file.typeNames) :
    ∃ type child, catalog.type? (qualifiedName t.1 t.2.name) = some type ∧
      type.child? c.name = some child ∧
      ((Configuration.composite (.fresh c.typeName)).load declared (.object c.tree)).value =
        .ok child.default := by
  obtain ⟨type, known, filledType⟩ := exists_fillType ok filled ht
  have nodup : ((pendingOf file.typeNames t).map PendingChild.child).Nodup := by
    have names : (pendingOf file.typeNames t).map PendingChild.child =
        (t.2.children.filter fun child => file.typeNames.contains child.typeName).map
          ChildEntry.name := by
      rw [pendingOf, List.map_map]
      rfl
    rw [names]
    exact distinct.sublist (List.filter_sublist.map _)
  have next : (⟨qualifiedName t.1 t.2.name, c.name, .object c.tree⟩ : PendingChild) ∈
      pendingOf file.typeNames t := by
    refine List.mem_map.2 ⟨c, List.mem_filter.2 ⟨hc, ?_⟩, rfl⟩
    simpa using composite
  have found := child?_declareType file.typeNames distinct hc
  have empty : (declareChild file.typeNames c).default = .composite (.fresh c.typeName) := by
    rw [default_declareChild, if_pos composite]
  obtain ⟨loaded, loads, there⟩ := exists_default_of_fillType filledType nodup next found
  rw [empty] at loads
  exact ⟨type, _, by rw [Catalog.type?, known, Option.map_some], there, loads⟩

end ProjectFile
end CompositeObjects
