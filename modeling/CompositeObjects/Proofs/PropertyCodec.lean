import CompositeObjects.Proofs.JsonText
import CompositeObjects.Proofs.RecordFields
import CompositeObjects.Proofs.Table
import CompositeObjects.Script.Literal

namespace CompositeObjects

namespace ValueType

/-- A recognised spelling is kept as an unrecognised one. -/
def IsDisguised (t : ValueType) : Prop :=
  ∃ known : ValueType, known.isOther = false ∧ t = .other known.spelling

theorem ofSpelling_spelling {t : ValueType} (h : t.isOther = false) :
    ofSpelling t.spelling = t := by
  cases t with
  | other s => cases h
  | _ => rfl

theorem eq_other_of_isOther {t : ValueType} (h : t.isOther = true) : t = .other t.spelling := by
  cases t with
  | other s => rfl
  | _ => cases h

/-- A type that is read back is read as itself, where its spelling is not that of another. -/
theorem ofSpelling_spelling_eq_iff {t : ValueType} :
    ofSpelling t.spelling = t ↔ ¬ t.IsDisguised := by
  constructor
  · rintro same ⟨known, recognised, rfl⟩
    rw [spelling, ofSpelling_spelling recognised] at same
    rw [same] at recognised
    cases recognised
  · intro honest
    cases ht : t.isOther with
    | false => exact ofSpelling_spelling ht
    | true =>
      have kept := eq_other_of_isOther ht
      cases h : (ofSpelling t.spelling).isOther with
      | false => exact absurd ⟨ofSpelling t.spelling, h, by rwa [spelling_ofSpelling]⟩ honest
      | true => rw [eq_other_of_isOther h, spelling_ofSpelling, ← kept]

theorem eq_string_of_decoder {place : Place} {draft : Draft} {t : ValueType}
    (h : decoder place draft = .ok t) : draft = .string (.ok t.spelling) := by
  obtain ⟨s, read, rfl⟩ := Decoder.exists_of_map_eq_ok h
  rw [Decoder.eq_string_of_text read, spelling_ofSpelling]

theorem not_isDisguised_of_decoder {place : Place} {draft : Draft} {t : ValueType}
    (h : decoder place draft = .ok t) : ¬ t.IsDisguised := by
  obtain ⟨s, -, rfl⟩ := Decoder.exists_of_map_eq_ok h
  rw [← ofSpelling_spelling_eq_iff, spelling_ofSpelling]

theorem spelling_eq_resource_iff {t : ValueType} (h : t.isOther = false) :
    t.spelling = "resource" ↔ t = .resource := by
  constructor
  · intro same
    rw [← ofSpelling_spelling h, same]
    rfl
  · rintro rfl
    rfl

end ValueType

theorem ResourceKind.ofName?_eq_some_iff {name : String} {kind : ResourceKind} :
    ofName? name = some kind ↔ name = kind.name := by
  constructor
  · intro found
    have same := List.find?_some found
    exact (eq_of_beq same).symm
  · rintro rfl
    exact ofName?_name kind

namespace Property

open Script (Literal)

variable {p : Property} {place inner innermost : Place}

/-- The property with the type that the spelling of its type is read as. -/
def reread (p : Property) : Property := { p with type := ValueType.ofSpelling p.type.spelling }

/-- The field of that key is taken over. -/
def takeField (p s : Property) (key : String) : Property where
  name := if key = "name" then p.name else s.name
  type := if key = "type" then ValueType.ofSpelling p.type.spelling else s.type
  value := if key = "value" then p.value else s.value
  extra := if key = "extraInformation" then p.extra else s.extra
  hidden := if key = "hidden" then p.hidden else s.hidden

theorem takeField_comm (p s : Property) (key other : String) :
    takeField p (takeField p s key) other = takeField p (takeField p s other) key := by
  have swapped {α : Type} (word : String) (x y : α) :
      (if other = word then x else if key = word then x else y) =
        if key = word then x else if other = word then x else y := by
    by_cases same : other = word
    · rw [if_pos same, if_pos same, ite_self]
    · rw [if_neg same, if_neg same]
  simp only [takeField, swapped]

/-- A property is read from its fields, in whatever order they stand. -/
theorem decoder_of_perm {entries : List (String × Json)} (reordered : entries.Perm p.fields)
    (room : place.enter = .ok inner) (room' : inner.enter = .ok innermost) :
    decoder place (Draft.ofJson (.object entries)) = .ok p.reread := by
  have keys : (entries.map (·.1)).Perm ["name", "type", "value", "extraInformation", "hidden"] :=
    reordered.map _
  have taken : (entries.map (·.1)).foldl (takeField p) ⟨"", .other "", "", [], false⟩ = p.reread :=
    keys.foldl_eq' (fun key _ other _ s => takeField_comm p s key other) _
  refine (Decoder.record_ofJson_object (takeField p) room ?_ (keys.nodup_iff.2 (by decide)) ?_
    _).trans (congrArg Except.ok taken)
  · intro e he
    have among := reordered.mem_iff.1 he
    simp only [fields, List.mem_cons, List.not_mem_nil, or_false] at among
    rcases among with rfl | rfl | rfl | rfl | rfl
    · exact ⟨_, rfl, fun s => rfl⟩
    · exact ⟨_, rfl, fun s => rfl⟩
    · exact ⟨_, rfl, fun s => rfl⟩
    · refine ⟨_, rfl, fun s => ?_⟩
      change (fun extra => { s with extra }) <$> Decoder.list .text inner _ = _
      rw [Decoder.list_text room']
      rfl
    · exact ⟨_, rfl, fun s => rfl⟩
  · intro field hfield
    rw [keys.mem_iff]
    simp only [List.mem_cons, List.not_mem_nil, or_false] at hfield
    rcases hfield with rfl | rfl | rfl | rfl | rfl <;> simp [Decoder.Field.of]

/-- A property is written with the type as it is spelled, and read back from what is written. -/
theorem fromJson_toJson (p : Property) : Decoder.fromJson decoder p.toJson = .ok p.reread :=
  decoder_of_perm (Table.ofList_perm (by simp [fields])) rfl rfl

theorem numberless_fields (p : Property) : (Json.object p.fields).Numberless := by
  have texts (extra : List String) : Json.NumberlessItems (extra.map .string) := by
    induction extra with
    | nil => trivial
    | cons s rest ih => exact ⟨trivial, ih⟩
  exact ⟨trivial, trivial, trivial, texts p.extra, trivial, trivial⟩

theorem ofText_written (p : Property) :
    Document.ofText p.written = ⟨Draft.ofJson (.object p.fields), false⟩ :=
  Json.ofText_compact p.numberless_fields

theorem fromText_written (p : Property) : Decoder.fromText decoder p.written = .ok p.reread := by
  rw [Decoder.fromText, ofText_written]
  change (decoder (.text Place.levels) (Draft.ofJson (.object p.fields)) >>= fun x => .ok x) = _
  rw [decoder_of_perm (List.Perm.refl _) rfl rfl]
  rfl

theorem reread_eq_iff : p.reread = p ↔ ¬ p.type.IsDisguised := by
  rw [← ValueType.ofSpelling_spelling_eq_iff]
  exact ⟨fun same => congrArg type same, fun same => by rw [reread, same]⟩

theorem not_isDisguised_of_decoder {draft : Draft} (h : decoder place draft = .ok p) :
    ¬ p.type.IsDisguised := by
  have start : ¬ (ValueType.other "").IsDisguised := by
    rw [← ValueType.ofSpelling_spelling_eq_iff]
    decide
  refine Decoder.record_keeps (Q := fun p => ¬ p.type.IsDisguised) (fun field hfield => ?_) start h
  simp only [List.mem_cons, List.not_mem_nil, or_false] at hfield
  rcases hfield with rfl | rfl | rfl | rfl | rfl
  · exact Decoder.Field.keeps_of fun _ _ _ _ hs _ => hs
  · exact Decoder.Field.keeps_of fun _ _ _ _ _ read => ValueType.not_isDisguised_of_decoder read
  · exact Decoder.Field.keeps_of fun _ _ _ _ hs _ => hs
  · exact Decoder.Field.keeps_of fun _ _ _ _ hs _ => hs
  · exact Decoder.Field.keeps_of fun _ _ _ _ hs _ => hs

/-- The type of a property is so spelled in a draft of it. -/
def SpellsType (spelling : String) : Draft → Prop :=
  Decoder.Holds "type" 1 (.string (.ok spelling))

theorem spellsType_iff_of_decoder {draft : Draft} (h : decoder place draft = .ok p)
    (spelling : String) : SpellsType spelling draft ↔ spelling = p.type.spelling := by
  refine (Decoder.holds_iff_of_record
    (.of "type" true ValueType.decoder fun p type => { p with type })
    (fun p : Property => p.type.spelling) (fun spelling => .string (.ok spelling))
    rfl rfl (by decide) ⟨?_, ?_⟩ h (.string (.ok spelling))).trans (by simp)
  · intro s place draft s' read
    obtain ⟨t, ht, rfl⟩ := Decoder.exists_of_map_eq_ok read
    exact ValueType.eq_string_of_decoder ht
  · intro field hfield different s place draft s' read
    simp only [List.mem_cons, List.not_mem_nil, or_false] at hfield
    rcases hfield with rfl | rfl | rfl | rfl | rfl
    · obtain ⟨x, -, rfl⟩ := Decoder.exists_of_map_eq_ok read
      rfl
    · exact absurd rfl different
    · obtain ⟨x, -, rfl⟩ := Decoder.exists_of_map_eq_ok read
      rfl
    · obtain ⟨x, -, rfl⟩ := Decoder.exists_of_map_eq_ok read
      rfl
    · obtain ⟨x, -, rfl⟩ := Decoder.exists_of_map_eq_ok read
      rfl

theorem type_reread_of_disguised {known : ValueType} (recognised : known.isOther = false)
    (hp : p.type = .other known.spelling) : p.reread.type = known := by
  rw [reread, hp]
  exact ValueType.ofSpelling_spelling recognised

theorem resourceKind?_reread_ne_iff (disguised : p.type.IsDisguised) :
    p.reread.resourceKind? ≠ p.resourceKind? ↔
      p.type.spelling = "resource" ∧ ∃ kind : ResourceKind, p.extra.head? = some kind.name := by
  obtain ⟨known, recognised, hp⟩ := disguised
  have before : p.resourceKind? = none := by
    rw [resourceKind?, hp, if_neg (by simp)]
  have after : p.reread.resourceKind? =
      if known = .resource then p.extra.head?.bind ResourceKind.ofName? else none := by
    rw [resourceKind?, type_reread_of_disguised recognised hp]
    rfl
  rw [before, after, hp, ValueType.spelling, ValueType.spelling_eq_resource_iff recognised,
    Option.ne_none_iff_exists']
  by_cases resource : known = .resource
  · simp [resource, Option.bind_eq_some_iff, ResourceKind.ofName?_eq_some_iff]
  · simp [resource]

/-- Only what has no literal is written as the remark on it. -/
theorem code_ne_unrecognized {l : Literal} (h : l ≠ .unrecognized) :
    l.code ≠ Literal.unrecognized.code := by
  intro same
  have first := congrArg (·.toList.head?) same
  cases l with
  | text value => simp [Literal.code, Script.quoted] at first
  | number value => simp [Literal.code] at first
  | flag value => cases value <;> simp [Literal.code] at first
  | unrecognized => exact h rfl

theorem code_reread_ne_iff (disguised : p.type.IsDisguised) :
    (Literal.ofProperty p.reread).code ≠ (Literal.ofProperty p).code ↔
      p.type.spelling ≠ "resource" := by
  obtain ⟨known, recognised, hp⟩ := disguised
  have before : Literal.ofProperty p = .unrecognized := by
    rw [Literal.ofProperty, hp]
  have after := type_reread_of_disguised recognised hp
  rw [before, hp, ValueType.spelling, Ne, Ne, ValueType.spelling_eq_resource_iff recognised]
  constructor
  · rintro differs rfl
    rw [Literal.ofProperty, after] at differs
    exact differs rfl
  · intro scalar
    refine code_ne_unrecognized fun none => ?_
    rw [Literal.ofProperty, after] at none
    cases known with
    | resource => exact scalar rfl
    | other s => cases recognised
    | _ => cases none

/-- A property comes back as it was written, with the type that its type is spelled as: as itself,
unless an unrecognised type is kept under a recognised spelling. Nothing that has been read is such
a property. It comes back unchanged, with its default value in scripts and its kind of resource, and
its type is spelled in what is written as it was in what has been read. A property that is disguised
so comes back with another kind of resource only where it is spelled as a resource of a known kind,
and with another default value in scripts only where it is spelled as anything else. -/
theorem properties_read_back :
    (∀ p : Property,
      Decoder.fromJson decoder p.toJson = .ok p.reread ∧
      Decoder.fromText decoder p.written = .ok p.reread ∧
      (p.reread = p ↔ ¬ p.type.IsDisguised)) ∧
    (∀ place draft (p : Property), decoder place draft = .ok p →
      ¬ p.type.IsDisguised ∧
      Decoder.fromJson decoder p.toJson = .ok p ∧
      Decoder.fromText decoder p.written = .ok p ∧
      (Literal.ofProperty p.reread).code = (Literal.ofProperty p).code ∧
      p.reread.resourceKind? = p.resourceKind? ∧
      ∀ spelling,
        (SpellsType spelling draft ↔ spelling = p.type.spelling) ∧
        (SpellsType spelling (Draft.ofJson p.toJson) ↔ SpellsType spelling draft) ∧
        (SpellsType spelling (Document.ofText p.written).draft ↔ SpellsType spelling draft)) ∧
    ∀ p : Property, p.type.IsDisguised →
      (p.reread.resourceKind? ≠ p.resourceKind? ↔
        p.type.spelling = "resource" ∧ ∃ kind : ResourceKind, p.extra.head? = some kind.name) ∧
      ((Literal.ofProperty p.reread).code ≠ (Literal.ofProperty p).code ↔
        p.type.spelling ≠ "resource") := by
  refine ⟨fun p => ⟨p.fromJson_toJson, p.fromText_written, reread_eq_iff⟩, ?_, fun p disguised =>
    ⟨resourceKind?_reread_ne_iff disguised, code_reread_ne_iff disguised⟩⟩
  intro place draft p read
  have honest := not_isDisguised_of_decoder read
  have same := reread_eq_iff.2 honest
  have fromValue : decoder .value (Draft.ofJson p.toJson) = .ok p :=
    p.fromJson_toJson.trans (congrArg _ same)
  have fromWritten : decoder (.text Place.levels) (Document.ofText p.written).draft = .ok p := by
    rw [ofText_written, decoder_of_perm (List.Perm.refl _) rfl rfl, same]
  refine ⟨honest, fromValue, p.fromText_written.trans (congrArg _ same), by rw [same],
    by rw [same], fun spelling => ?_⟩
  have spelled := spellsType_iff_of_decoder read spelling
  exact ⟨spelled, (spellsType_iff_of_decoder fromValue spelling).trans spelled.symm,
    (spellsType_iff_of_decoder fromWritten spelling).trans spelled.symm⟩

/-- A resource whose type is kept as a text, as nothing that is read holds it. -/
def disguisedIcon : Property := ⟨"icon", .other "resource", "hero", ["image"], false⟩

theorem properties_read_back_icon :
    disguisedIcon.type.IsDisguised ∧
    disguisedIcon.reread.resourceKind? ≠ disguisedIcon.resourceKind? ∧
    (Literal.ofProperty disguisedIcon.reread).code = (Literal.ofProperty disguisedIcon).code ∧
    Decoder.fromJson decoder (.array [.string "icon", .string "resource"]) =
      .ok ⟨"icon", .resource, "", [], false⟩ ∧
    Decoder.fromText decoder (written ⟨"icon", .resource, "", [], false⟩) =
      .ok ⟨"icon", .resource, "", [], false⟩ := by
  obtain ⟨-, decoded, differs⟩ := properties_read_back
  have disguised : disguisedIcon.type.IsDisguised := ⟨.resource, rfl, rfl⟩
  obtain ⟨kind, code⟩ := differs disguisedIcon disguised
  have read : decoder .value (Draft.ofJson (.array [.string "icon", .string "resource"])) =
      .ok ⟨"icon", .resource, "", [], false⟩ := rfl
  obtain ⟨-, -, fromWritten, -⟩ := decoded .value _ _ read
  exact ⟨disguised, kind.2 ⟨rfl, .image, rfl⟩, not_not.1 fun other => code.1 other rfl, read,
    fromWritten⟩

end Property
end CompositeObjects
