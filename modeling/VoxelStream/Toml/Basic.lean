import VoxelStream.Decimal

/-!
# TOML documents

The values of TOML documents and how a document is put together from its statements.

A table remembers its *origin*, because the origin decides what may still be added to it.  A table
defined by a header may get values but no second header.  A table that was only passed through on
the way to a header may still get a header of its own.  A table made by a dotted key may only be
extended by dotted keys and by headers below it.  Inline tables and ordinary arrays are closed.

Keys keep the order in which they first appeared.
-/

namespace VoxelStream

namespace Toml

/-- How a table came to be. -/
inductive Origin where
  /-- By a header of its own, or as the document itself. -/
  | header
  /-- On the way to the table of a header. -/
  | passed
  /-- By a dotted key. -/
  | dotted
  /-- Written inside braces. -/
  | inline
deriving DecidableEq

end Toml

/-- The value of a key in a TOML document.  Of floats and of dates and times only the text is
kept. -/
inductive Toml where
  | string (value : String)
  | integer (value : Int)
  | float (literal : String)
  | boolean (value : Bool)
  | datetime (literal : String)
  /-- An array.  Those made by headers are open and take further tables. -/
  | array (isOpen : Bool) (items : List Toml)
  | table (origin : Toml.Origin) (entries : List (String × Toml))

namespace Toml

/-- The keys and values of a table. -/
abbrev Entries := List (String × Toml)

/-- The entries with another value for a key that they have. -/
def replace (key : String) (value : Toml) : Entries → Entries
  | [] => []
  | entry :: rest => if entry.1 = key then (key, value) :: rest else entry :: replace key value rest

/-- The first list and the last item of a list. -/
def unsnoc : List α → Option (List α × α)
  | [] => none
  | [last] => some ([], last)
  | item :: next :: rest => (unsnoc (next :: rest)).map fun (front, last) => (item :: front, last)

/-- What is done to the table at the end of a path. -/
abbrev Edit := Origin → Entries → Option Entries

/-- Edits the table at the end of a path of keys, and makes the tables on the way that are not
there yet.  In an open array the path goes on in the last table.  With `dotted` the path is that of
a dotted key, which does not enter a table that has a header. -/
def editAt (dotted : Bool) (edit : Edit) : List String → Edit
  | [], origin, entries => edit origin entries
  | key :: path, _, entries =>
    match entries.lookup key with
    | none =>
      let origin := if dotted then Origin.dotted else Origin.passed
      (editAt dotted edit path origin []).map fun inner =>
        entries ++ [(key, .table origin inner)]
    | some (.table origin inner) =>
      if origin = .inline ∨ dotted ∧ origin = .header then none
      else (editAt dotted edit path origin inner).map fun inner =>
        replace key (.table origin inner) entries
    | some (.array true items) =>
      match unsnoc items with
      | some (front, .table origin inner) =>
        (editAt dotted edit path origin inner).map fun inner =>
          replace key (.array true (front ++ [.table origin inner])) entries
      | _ => none
    | some _ => none

/-- Adds a value under a new key.  A dotted key adds only to a table that dotted keys made, and a
plain key only to one that they did not make. -/
def addValue (viaDots : Bool) (key : String) (value : Toml) : Edit := fun origin entries =>
  if viaDots = (origin = .dotted) then
    match entries.lookup key with
    | none => some (entries ++ [(key, value)])
    | some _ => none
  else none

def openTable (key : String) : Edit := fun _ entries =>
  match entries.lookup key with
  | none => some (entries ++ [(key, .table .header [])])
  | some (.table .passed inner) => some (replace key (.table .header inner) entries)
  | some _ => none

/-- Opens one more table of an array. -/
def openItem (key : String) : Edit := fun _ entries =>
  match entries.lookup key with
  | none => some (entries ++ [(key, .array true [.table .header []])])
  | some (.array true items) =>
    some (replace key (.array true (items ++ [.table .header []])) entries)
  | some _ => none

/-- Adds a value at a dotted key of a table. -/
def assign (path : List String) (value : Toml) : Edit :=
  match unsnoc path with
  | none => fun _ _ => none
  | some (front, key) => editAt true (addValue (!front.isEmpty) key value) front

/-! ## Statements -/

/-- One statement of a document. -/
inductive Statement where
  /-- A value for a dotted key of the current table. -/
  | assign (path : List String) (value : Toml)
  /-- The header of a table. -/
  | tableHeader (path : List String)
  /-- The header of one more table of an array. -/
  | itemHeader (path : List String)

/-- A document being put together: the path of the current table and all entries. -/
structure Draft where
  /-- The path of the last header. -/
  current : List String
  /-- The entries of the document. -/
  entries : Entries

def Draft.empty : Draft := ⟨[], []⟩

def Draft.step (draft : Draft) : Statement → Option Draft
  | .assign path value =>
    (editAt false (Toml.assign path value) draft.current .header draft.entries).map fun entries =>
      { draft with entries := entries }
  | .tableHeader path =>
    match unsnoc path with
    | none => none
    | some (front, key) =>
      (editAt false (openTable key) front .header draft.entries).map fun entries => ⟨path, entries⟩
  | .itemHeader path =>
    match unsnoc path with
    | none => none
    | some (front, key) =>
      (editAt false (openItem key) front .header draft.entries).map fun entries => ⟨path, entries⟩

/-- The document of a list of statements. -/
def ofStatements (statements : List Statement) : Option Toml :=
  (statements.foldlM Draft.step Draft.empty).map fun draft => .table .header draft.entries

/-- The inline table of some assignments. -/
def inlineTable (pairs : List (List String × Toml)) : Option Toml :=
  (pairs.foldlM (fun entries (path, value) => Toml.assign path value .header entries) []).map
    fun entries => .table .inline entries

end Toml

end VoxelStream
