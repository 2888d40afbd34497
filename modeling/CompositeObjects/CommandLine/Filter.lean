import CompositeObjects.CommandLine.Directive

namespace CompositeObjects.CommandLine

abbrev Filter := List Directive

namespace Filter

/-- The events of every source from a level on. -/
def atLeast (level : Level) : Filter := [.atLeast (some level)]

/-- The parts between commas. -/
def splitCommas : List Char → List (List Char)
  | [] => [[]]
  | c :: rest =>
    match splitCommas rest with
    | [] => [[]]
    | part :: parts => if c = ',' then [] :: part :: parts else (c :: part) :: parts

/-- The directives between commas; without any, errors alone pass. -/
def ofText? (text : String) : Option Filter := do
  let directives ← ((splitCommas text.toList).filter (!·.isEmpty)).mapM Directive.ofText?
  some (if directives.isEmpty then atLeast .error else directives)

/-- Of the directives that apply to an event the one that says most counts; of two that say as much
the later one. -/
def best (event : Event) : Filter → Option Directive
  | [] => none
  | d :: rest =>
    if d.appliesTo event then
      match best event rest with
      | some other => if d.saysMore other then some d else some other
      | none => some d
    else best event rest

def passes (filter : Filter) (event : Event) : Bool :=
  match best event filter with
  | some d => d.least.any fun least => least.rank ≤ event.level.rank
  | none => false

end Filter
end CompositeObjects.CommandLine
