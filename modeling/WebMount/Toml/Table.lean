import WebMount.Toml.Value

/-!
# Tables under construction

A document is read line by line, and each line adds to a table that a path of keys leads to.
Going along a path makes the tables that are missing. A key can be given only once, a table can
have only one heading, and a key of several parts cannot reach into a table that has a heading or
was written between braces.
-/

namespace WebMount.Toml

/-- The entries with the value of a key replaced. -/
def replace (key : String) (value : Value) : Entries → Entries
  | [] => []
  | (k, v) :: entries =>
    if k = key then (key, value) :: entries else (k, v) :: replace key value entries

/-- The entries of a table after a change to the table that a path leads to. The path goes through
the newest table of a repeated heading. Tables that are missing are made with the origin `fresh`;
a path of a key, whose fresh tables are dotted ones, does not go through tables with a heading.
The change sees the origin and the entries of the table. -/
def Entries.changeAt (fresh : Origin) (change : Origin → Entries → Option Entries) :
    (path : List String) → (origin : Origin) → (entries : Entries) → Option Entries
  | [], origin, entries => change origin entries
  | key :: path, _, entries =>
    match entries.lookup key with
    | none =>
      (changeAt fresh change path fresh []).map fun t => entries ++ [(key, .table fresh t)]
    | some (.table .inline _) => none
    | some (.table origin t) =>
      if fresh = .dotted ∧ origin = .heading then none
      else (changeAt fresh change path origin t).map fun t => replace key (.table origin t) entries
    | some (.series tables) =>
      (changeAt fresh change path .heading (tables.headD [])).map fun t =>
        replace key (.series (t :: tables.tail)) entries
    | some _ => none

/-- The entries with a key given a value. The tables that the key's parts before the last lead
through are dotted ones, and only such a key adds to them. -/
def Entries.give (path : List String) (key : String) (value : Value) (origin : Origin)
    (entries : Entries) : Option Entries :=
  entries.changeAt .dotted (fun origin entries =>
    if decide (origin = .dotted) = path.isEmpty ∨ (entries.lookup key).isSome then none
    else some (entries ++ [(key, value)])) path origin

/-- The entries with a heading for a key, which has none yet. -/
def Entries.begin (key : String) (entries : Entries) : Option Entries :=
  match entries.lookup key with
  | none => some (entries ++ [(key, .table .heading [])])
  | some (.table .implied t) => some (replace key (.table .heading t) entries)
  | some _ => none

/-- The entries with one more heading for a key whose headings are all repeated ones. -/
def Entries.beginNext (key : String) (entries : Entries) : Option Entries :=
  match entries.lookup key with
  | none => some (entries ++ [(key, .series [[]])])
  | some (.series tables) => some (replace key (.series ([] :: tables)) entries)
  | some _ => none

/-- A table between braces. -/
def inlineTable? (pairs : List (List String × String × Value)) : Option Value :=
  let add (entries : Entries) : List String × String × Value → Option Entries
    | (path, key, value) => entries.give path key value .heading
  (pairs.foldlM add []).map (Value.table .inline)

end WebMount.Toml
