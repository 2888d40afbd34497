namespace CompositeObjects.CommandLine

/-- Splits `KEY=VALUE` at the first equals sign; the key is not empty. -/
def splitPair? (text : String) : Option (String × String) :=
  let key := text.toList.takeWhile (· ≠ '=')
  match text.toList.dropWhile (· ≠ '=') with
  | [] => none
  | _ :: value => if key.isEmpty then none else some (String.ofList key, String.ofList value)

/-- All pairs, or the first text that is none. -/
def splitPairs : List String → Except String (List (String × String))
  | [] => .ok []
  | text :: rest =>
    match splitPair? text with
    | none => .error text
    | some pair => (splitPairs rest).map (pair :: ·)

def pairMessage (text : String) : String := "Expected KEY=VALUE, got `" ++ text ++ "`"

end CompositeObjects.CommandLine
