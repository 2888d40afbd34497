import CompositeObjects.Json.Decoder
import CompositeObjects.Json.Writer

namespace CompositeObjects

/-- The declared type of a property. A spelling that is not recognised is kept as it is. -/
inductive ValueType where
  | text
  | number
  | flag
  | choice
  | color
  | resource
  | other (spelling : String)
deriving DecidableEq, Repr, Inhabited

namespace ValueType

def spelling : ValueType → String
  | .text => "String"
  | .number => "Number"
  | .flag => "Boolean"
  | .choice => "Choice"
  | .color => "Color"
  | .resource => "resource"
  | .other spelling => spelling

def ofSpelling (spelling : String) : ValueType :=
  if spelling = "String" then .text
  else if spelling = "Number" then .number
  else if spelling = "Boolean" then .flag
  else if spelling = "Choice" then .choice
  else if spelling = "Color" then .color
  else if spelling = "resource" then .resource
  else .other spelling

def isOther : ValueType → Bool
  | .other _ => true
  | _ => false

def decoder : Decoder ValueType := Decoder.text.map ofSpelling

theorem spelling_ofSpelling (s : String) : (ofSpelling s).spelling = s := by
  unfold ofSpelling
  split; · simp_all [spelling]
  split; · simp_all [spelling]
  split; · simp_all [spelling]
  split; · simp_all [spelling]
  split; · simp_all [spelling]
  split; · simp_all [spelling]
  rfl

end ValueType

/-- What a resource is, in the order in which kinds are listed. -/
inductive ResourceKind where
  | image
  | audio
  | font
  | video
  | json
  | bitmapFont
deriving DecidableEq, Repr, Inhabited

namespace ResourceKind

def all : List ResourceKind := [.image, .audio, .font, .video, .json, .bitmapFont]

def position : ResourceKind → Nat
  | .image => 0
  | .audio => 1
  | .font => 2
  | .video => 3
  | .json => 4
  | .bitmapFont => 5

def name : ResourceKind → String
  | .image => "image"
  | .audio => "audio"
  | .font => "font"
  | .video => "video"
  | .json => "json"
  | .bitmapFont => "bitmapFont"

def ofName? (name : String) : Option ResourceKind := all.find? (·.name == name)

theorem ofName?_name (kind : ResourceKind) : ofName? kind.name = some kind := by
  cases kind <;> decide

end ResourceKind

/-- The declaration of a property with its default value, or a view of it with a current value. -/
structure Property where
  name : String
  type : ValueType
  value : String := ""
  extra : List String := []
  hidden : Bool := false
deriving DecidableEq, Repr, Inhabited

namespace Property

/-- The kind that the first extra entry of a resource property names. -/
def resourceKind? (p : Property) : Option ResourceKind :=
  if p.type = .resource then p.extra.head?.bind ResourceKind.ofName? else none

def decoder : Decoder Property :=
  .record "PropertyDescriptor" [
    .of "name" true .text fun p name => { p with name },
    .of "type" true ValueType.decoder fun p type => { p with type },
    .of "value" false .text fun p value => { p with value },
    .of "extraInformation" false (.list .text) fun p extra => { p with extra },
    .of "hidden" false .flag fun p hidden => { p with hidden }] ⟨"", .other "", "", [], false⟩

/-- The fields as they are written, in this order. -/
def fields (p : Property) : List (String × Json) := [
  ("name", .string p.name),
  ("type", .string p.type.spelling),
  ("value", .string p.value),
  ("extraInformation", .array (p.extra.map .string)),
  ("hidden", .bool p.hidden)]

def toJson (p : Property) : Json := .object (Table.ofList p.fields)

def written (p : Property) : String := (Json.object p.fields).compact

/-- The name of the generated method that reads a property. -/
def getterName (name : String) : String := "_get" ++ name

/-- The name of the generated method that writes a property. -/
def setterName (name : String) : String := "_set" ++ name

end Property
end CompositeObjects
