import CompositeObjects.Proofs.Loader
import CompositeObjects.Proofs.Updates

namespace CompositeObjects

namespace Property

/-- A declaration as it is seen with a content: with the stored value, or else its own default. -/
def seen (content : Content) (p : Property) : Property :=
  { p with value := (content.get? p.name).getD p.value }

/-- Two declarations of one name that look the same. Their defaults count where nothing is
stored. -/
theorem seen_eq_iff {p q : Property} (sameName : p.name = q.name) (content : Content) :
    p.seen content = q.seen content ↔
      p.type = q.type ∧ p.extra = q.extra ∧ p.hidden = q.hidden ∧
        (content.get? p.name = none → p.value = q.value) := by
  obtain ⟨name, type, value, extra, hidden⟩ := p
  obtain ⟨name', type', value', extra', hidden'⟩ := q
  obtain rfl : name = name' := sameName
  cases stored : content.get? name with
  | none =>
    simp [seen, stored]
    tauto
  | some value => simp [seen, stored]

end Property

namespace ObjectType

variable {type : ObjectType} {name : String}

/-- The last declaration of that name. -/
def lastProperty? (type : ObjectType) (name : String) : Option Property :=
  type.properties.reverse.find? (·.name == name)

theorem property?_eq_some {p : Property} (found : type.property? name = some p) :
    p ∈ type.properties ∧ p.name = name := by
  have hname := List.find?_some found
  exact ⟨List.mem_of_find?_eq_some found, by simpa using hname⟩

theorem lastProperty?_eq_some {p : Property} (found : type.lastProperty? name = some p) :
    p ∈ type.properties ∧ p.name = name := by
  have hname := List.find?_some found
  exact ⟨List.mem_reverse.1 (List.mem_of_find?_eq_some found), by simpa using hname⟩

theorem exists_property?_iff :
    (∃ p, type.property? name = some p) ↔ ∃ p ∈ type.properties, p.name = name := by
  rw [← Option.isSome_iff_exists, property?, List.find?_isSome]
  simp

theorem exists_lastProperty?_iff :
    (∃ p, type.lastProperty? name = some p) ↔ ∃ p ∈ type.properties, p.name = name := by
  rw [← Option.isSome_iff_exists, lastProperty?, List.find?_isSome]
  simp

/-- A name has a first declaration exactly where it has a last one. -/
theorem property?_cases (type : ObjectType) (name : String) :
    (type.property? name = none ∧ type.lastProperty? name = none) ∨
      ∃ first last, type.property? name = some first ∧ type.lastProperty? name = some last ∧
        first.name = name ∧ last.name = name := by
  have both : (∃ p, type.property? name = some p) ↔ ∃ p, type.lastProperty? name = some p :=
    exists_property?_iff.trans exists_lastProperty?_iff.symm
  cases first : type.property? name with
  | none =>
    cases last : type.lastProperty? name with
    | none => exact Or.inl ⟨rfl, rfl⟩
    | some p =>
      obtain ⟨q, found⟩ := both.2 ⟨p, last⟩
      rw [first] at found
      cases found
  | some p =>
    obtain ⟨q, last⟩ := both.1 ⟨p, first⟩
    exact Or.inr ⟨p, q, rfl, last, (property?_eq_some first).2, (lastProperty?_eq_some last).2⟩

/-- Where no name is declared twice, the first declaration of a name is the last one. -/
theorem lastProperty?_of_nodup (distinct : (type.properties.map (·.name)).Nodup) (name : String) :
    type.lastProperty? name = type.property? name := by
  rcases type.property?_cases name with ⟨first, last⟩ | ⟨p, q, first, last, rfl, -⟩
  · rw [first, last]
  · have distinctBack : (type.properties.reverse.map (·.name)).Nodup := by
      rw [List.map_reverse, List.nodup_reverse]
      exact distinct
    have among : p ∈ type.properties.reverse := List.mem_reverse.2 (property?_eq_some first).1
    rw [first]
    exact Table.find?_key_eq_some distinctBack among

end ObjectType

namespace Property

theorem get?_views_eq_seen (type : ObjectType) (content : Content) (name : String) :
    (views type.properties content).get? name =
      (type.lastProperty? name).map (seen content) := by
  rw [get?_views, ObjectType.lastProperty?]
  cases last : type.properties.reverse.find? (·.name == name) with
  | none => rfl
  | some p =>
    have hname : p.name = name := (ObjectType.lastProperty?_eq_some last).2
    simp [seen, hname]

/-- A view is there for the names that are declared, and it is the last declaration of its name. So
it agrees with the declaration that is found by the name exactly where the first and the last one
look the same, as they do where no name is declared twice. -/
theorem views_of_declarations (type : ObjectType) (content : Content) (name : String) :
    ((∃ view, (views type.properties content).get? name = some view) ↔
      ∃ p, type.property? name = some p) ∧
    (views type.properties content).get? name =
      (type.lastProperty? name).map (seen content) ∧
    ((views type.properties content).get? name = (type.property? name).map (seen content) ↔
      ∀ first last, type.property? name = some first → type.lastProperty? name = some last →
        first.type = last.type ∧ first.extra = last.extra ∧ first.hidden = last.hidden ∧
          (content.get? name = none → first.value = last.value)) ∧
    ((type.properties.map (·.name)).Nodup →
      (views type.properties content).get? name = (type.property? name).map (seen content)) := by
  have view := get?_views_eq_seen type content name
  refine ⟨?_, view, ?_, ?_⟩
  · rw [exists_view_iff, ObjectType.exists_property?_iff]
  · rw [view]
    rcases type.property?_cases name with ⟨first, last⟩ | ⟨p, q, first, last, firstName, lastName⟩
    · simp [first, last]
    · have alike := seen_eq_iff (firstName.trans lastName.symm) content
      rw [firstName] at alike
      rw [first, last, Option.map_some, Option.map_some, Option.some.injEq, eq_comm, alike]
      constructor
      · rintro same _ _ ⟨⟩ ⟨⟩
        exact same
      · intro same
        exact same p q rfl rfl
  · intro distinct
    rw [view, ObjectType.lastProperty?_of_nodup distinct]

/-- A hero with two properties of the name of face: a picture, and a text that is not shown. -/
def portraitProject : Json := .object [("extensions", .array [.object [
  ("eventsBasedObjects", .array [.object [("name", .string "Hero"), ("properties", .array [
    .object [("extraInformation", .array [.string "image"]), ("name", .string "face"),
      ("type", .string "resource"), ("value", .string "hero.png")],
    .object [("hidden", .bool true), ("name", .string "face"), ("type", .string "String"),
      ("value", .string "smile")]])]]),
  ("name", .string "Game")]])]

def portraitCatalog : Catalog :=
  match (Catalog.ofJson portraitProject).value with
  | .ok catalog => catalog
  | .error _ => .empty

theorem accepted_portraitCatalog : portraitCatalog.Accepted := by
  refine Or.inr ⟨portraitProject, ?_⟩
  have ok : (Catalog.ofJson portraitProject).value.isOk = true := by decide +kernel
  obtain ⟨catalog, read⟩ := exists_of_isOk ok
  rw [portraitCatalog, read]

def picturedFace : Property :=
  { name := "face", type := .resource, value := "hero.png", extra := ["image"] }

def writtenFace : Property := { name := "face", type := .text, value := "smile", hidden := true }

theorem exists_portraitHero :
    ∃ type, portraitCatalog.type? "Game::Hero" = some type ∧
      type.properties = [picturedFace, writtenFace] := by
  have shown : (portraitCatalog.type? "Game::Hero").map (·.properties) =
      some [picturedFace, writtenFace] := by
    decide +kernel
  exact Option.map_eq_some_iff.1 shown

def kingContent : Content := ⟨[("face", "king.png")], []⟩

/-- A hero with a picture for a face, and no other one. -/
def picturedHero : ObjectType := { ObjectType.empty "Hero" with properties := [picturedFace] }

/-- The stored face is seen as a picture where this is the only declaration, and as a text where
that is the last one. -/
theorem views_of_declarations_portrait :
    (picturedHero.properties.map (·.name)).Nodup ∧
      (views picturedHero.properties kingContent).get? "face" =
        (picturedHero.property? "face").map (seen kingContent) ∧
      ∃ type, portraitCatalog.type? "Game::Hero" = some type ∧
        (views type.properties kingContent).get? "face" =
          (type.lastProperty? "face").map (seen kingContent) ∧
        (type.lastProperty? "face").map (seen kingContent) =
          some { writtenFace with value := "king.png" } := by
  obtain ⟨type, known, properties⟩ := exists_portraitHero
  obtain ⟨-, -, -, agrees⟩ := views_of_declarations picturedHero kingContent "face"
  obtain ⟨-, last, -, -⟩ := views_of_declarations type kingContent "face"
  have distinct : (picturedHero.properties.map (·.name)).Nodup := by decide
  refine ⟨distinct, agrees distinct, type, known, last, ?_⟩
  rw [ObjectType.lastProperty?, properties]
  decide

/-- The face is found as a picture and seen as a text: the two differ in the type, the extra
entries, the visibility, the kind of resource and the default. -/
theorem view_ne_declaration_portrait :
    portraitCatalog.Accepted ∧ ∃ type view, portraitCatalog.type? "Game::Hero" = some type ∧
      (views type.properties .empty).get? "face" = some view ∧
      type.property? "face" = some picturedFace ∧
      view.type ≠ picturedFace.type ∧ view.extra ≠ picturedFace.extra ∧
      view.hidden ≠ picturedFace.hidden ∧ view.resourceKind? ≠ picturedFace.resourceKind? ∧
      view.value ≠ ((Content.empty.get? "face").getD picturedFace.value) := by
  obtain ⟨type, known, properties⟩ := exists_portraitHero
  refine ⟨accepted_portraitCatalog, type, writtenFace, known, ?_⟩
  rw [ObjectType.property?, properties]
  decide +kernel

end Property
end CompositeObjects
