import CompositeObjects.Table

namespace CompositeObjects

/-- How a table came into being; this decides what may be added to it later. -/
inductive TableOrigin where
  /-- Written in braces, and complete. -/
  | inline
  /-- Opened by a header of its own. -/
  | header
  /-- Named on the way to the table of a header. -/
  | implied
  /-- Named on the way to the value of a dotted key. -/
  | dotted
deriving DecidableEq, Repr

/-- A TOML value. A date or time is held by its text; a number is not held at all. -/
inductive Toml where
  | text (value : String)
  | number
  | flag (value : Bool)
  | moment (text : String)
  | array (items : List Toml)
  | table (origin : TableOrigin) (entries : List (String × Toml))
  /-- The tables under a header in double brackets. -/
  | tables (rows : List (List (String × Toml)))
deriving Repr, Inhabited

namespace Toml

abbrev Entries := List (String × Toml)

def find? (key : String) (entries : Entries) : Option Toml := entries.lookup key

/-- The value of a key that is there is replaced, a new key is added at the end. -/
def put (key : String) (value : Toml) : Entries → Entries
  | [] => [(key, value)]
  | (k, v) :: rest => if k = key then (key, value) :: rest else (k, v) :: put key value rest

/-- Acts on the last of the tables. -/
def onLast (act : Entries → Option Entries) : List Entries → Option (List Entries)
  | [] => none
  | [row] => (act row).map fun row => [row]
  | row :: rest => (onLast act rest).map (row :: ·)

/-- Defines a value under a dotted key. The way goes through tables that were not opened by a header
of their own; the last of them was made by dotted keys alone. -/
def define (value : Toml) : List String → String → Entries → Option Entries
  | [], key, entries =>
    if (find? key entries).isSome then none else some (entries ++ [(key, value)])
  | step :: path, key, entries =>
    let isLast := path.isEmpty
    match find? step entries with
    | none => (define value path key []).map fun inner => entries ++ [(step, .table .dotted inner)]
    | some (.table .dotted inner) =>
      (define value path key inner).map fun inner => put step (.table .dotted inner) entries
    | some (.table .implied inner) =>
      if isLast then none
      else (define value path key inner).map fun inner => put step (.table .implied inner) entries
    | some (.tables rows) =>
      if isLast then none
      else (onLast (define value path key) rows).map fun rows => put step (.tables rows) entries
    | some _ => none

/-- Acts on the table that holds the last key of a header. Tables on the way that are not there are
implied; of the tables under a header in double brackets the last one is meant. -/
def descend (act : String → Entries → Option Entries) : List String → Entries → Option Entries
  | [], _ => none
  | [key], entries => act key entries
  | step :: path, entries =>
    match find? step entries with
    | none => (descend act path []).map fun inner => entries ++ [(step, .table .implied inner)]
    | some (.table .inline _) => none
    | some (.table origin inner) =>
      (descend act path inner).map fun inner => put step (.table origin inner) entries
    | some (.tables rows) =>
      (onLast (descend act path) rows).map fun rows => put step (.tables rows) entries
    | some _ => none

/-- A table is opened once; one that was only implied may be opened later. -/
def openTable (key : String) (entries : Entries) : Option Entries :=
  match find? key entries with
  | none => some (entries ++ [(key, .table .header [])])
  | some (.table .implied inner) => some (put key (.table .header inner) entries)
  | some _ => none

/-- A further table is added to those of the same header. -/
def openRow (key : String) (entries : Entries) : Option Entries :=
  match find? key entries with
  | none => some (entries ++ [(key, .tables [[]])])
  | some (.tables rows) => some (put key (.tables (rows ++ [[]])) entries)
  | some _ => none

/-- Acts on the table that a header has opened. -/
def within (act : Entries → Option Entries) (key : String) (entries : Entries) : Option Entries :=
  match find? key entries with
  | some (.table origin inner) =>
    (act inner).map fun inner => put key (.table origin inner) entries
  | some (.tables rows) => (onLast act rows).map fun rows => put key (.tables rows) entries
  | _ => none

end Toml
end CompositeObjects
