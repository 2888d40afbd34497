import CompositeObjects.Configuration

namespace CompositeObjects

def Shape.ofJson : Json → Shape
  | .null => .null
  | .bool b => .bool b
  | .number n => .number n
  | .string s => .string s
  | .array _ => .array
  | .object _ => .object

/-- What a tree says when it is taken for the state of a composite object: its content and, for each
child, the child's tree with what that says in turn. A tree of another form has a fault; the kept
entries of content that was read before the fault are named. -/
inductive SavedTree where
  | malformed (kept : List String) (fault : Fault)
  | composite (content : Content) (children : List (String × Json × SavedTree))

namespace SavedTree

/-- The name of the state of composite objects in faults. -/
def recordName : String := "SerializedCustomConfiguration"

def contentOf : Json → Except Fault Content
  | .object entries => .ok (.ofEntries entries)
  | tree => .error (.wrongShape (.ofJson tree) .map)

/-- Puts together what was read, the children first. -/
def ofParts (content : Except Fault Content)
    (children : Except Fault (List (String × Json × SavedTree))) : SavedTree :=
  match children with
  | .error fault => .malformed [] fault
  | .ok children =>
    match content with
    | .error fault => .malformed [] fault
    | .ok content => .composite content children

/-- Puts together what was read, the content first, from a list of so many items. -/
def ofItems (content : Except Fault Content)
    (children : Except Fault (List (String × Json × SavedTree))) (length : Nat) : SavedTree :=
  match content with
  | .error fault => .malformed [] fault
  | .ok content =>
    match children with
    | .error fault => .malformed content.kept.keys fault
    | .ok children =>
      if length > 2 then .malformed content.kept.keys (.tooLong length)
      else .composite content children

mutual

/-- An object with `content` and `childrenContent`, or the list of the two; both may be left out. -/
def ofJson : Json → SavedTree
  | .object entries =>
    ofParts (((Table.get? "content" entries).map contentOf).getD (.ok .empty))
      (childrenEntry entries)
  | .array [] => .composite .empty []
  | .array [content] => ofItems (contentOf content) (.ok []) 1
  | .array (content :: children :: rest) =>
    ofItems (contentOf content) (childrenOf children) (rest.length + 2)
  | tree => .malformed [] (.wrongShape (.ofJson tree) (.record recordName))

def childrenEntry : List (String × Json) → Except Fault (List (String × Json × SavedTree))
  | [] => .ok []
  | (key, tree) :: rest => if key = "childrenContent" then childrenOf tree else childrenEntry rest

def childrenOf : Json → Except Fault (List (String × Json × SavedTree))
  | .object entries => .ok (childTrees entries)
  | tree => .error (.wrongShape (.ofJson tree) .map)

def childTrees : List (String × Json) → List (String × Json × SavedTree)
  | [] => []
  | (name, tree) :: rest => (name, tree, ofJson tree) :: childTrees rest

end
end SavedTree
end CompositeObjects
