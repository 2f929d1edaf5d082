import VoxelStream.Toml.Scalar

/-!
# Reading TOML

A reader for whole TOML documents.  A document is a list of statements, one per line, except that
arrays and long strings span lines.  `Toml.parse?` reads the statements and puts them together.

Values are nested no deeper than `nestingLimit`.  The readers of values count down from a bound
that no text reaches.
-/

namespace VoxelStream

namespace Toml

/-! ## Values -/

/-- The keys of an assignment, which are no more than the nesting may be deep. -/
def scanKeys (s : List Char) : Option (List String × List Char) := scanPath nestingLimit s

mutual

/-- A value inside `depth` levels. -/
def scanValue : Nat → Nat → List Char → Option (Toml × List Char)
  | 0, _, _ => none
  | bound + 1, depth, s =>
    match s with
    | [] => none
    | c :: rest =>
      if c = '"' ∨ c = apostrophe then
        (scanString s).map fun (text, rest) => (.string text, rest)
      else if c = '[' then
        if depth < nestingLimit then
          (scanItems bound (depth + 1) rest).map fun (items, rest) => (.array false items, rest)
        else none
      else if c = '\x7b' then
        if depth < nestingLimit then
          match skipBlanks rest with
          | '\x7d' :: rest => some (.table .inline [], rest)
          | s =>
            match scanPairs bound (depth + 1) s with
            | some (pairs, rest) => (inlineTable pairs).map fun table => (table, rest)
            | none => none
        else none
      else if c = '+' ∨ c = '-' ∨ c.isDigit then scanNumeric s
      else if c = 't' then scanWord "true" (.boolean true) s
      else if c = 'f' then scanWord "false" (.boolean false) s
      else if c = 'i' ∨ c = 'n' then scanNumeric s
      else none

/-- The items of an array up to its closing bracket.  A comma may follow the last one. -/
def scanItems : Nat → Nat → List Char → Option (List Toml × List Char)
  | 0, _, _ => none
  | bound + 1, depth, s =>
    match skipTrivia false s with
    | none => none
    | some (']' :: rest) => some ([], rest)
    | some s =>
      match scanValue bound depth s with
      | none => none
      | some (item, s) =>
        match skipTrivia false s with
        | some (',' :: s) =>
          (scanItems bound depth s).map fun (items, rest) => (item :: items, rest)
        | some (']' :: rest) => some ([item], rest)
        | _ => none

/-- The assignments of an inline table up to its closing brace, at least one. -/
def scanPairs : Nat → Nat → List Char → Option (List (List String × Toml) × List Char)
  | 0, _, _ => none
  | bound + 1, depth, s =>
    match scanKeys s with
    | some (path, '=' :: s) =>
      match scanValue bound depth (skipBlanks s) with
      | none => none
      | some (value, s) =>
        match skipBlanks s with
        | ',' :: s =>
          (scanPairs bound depth s).map fun (pairs, rest) => ((path, value) :: pairs, rest)
        | '\x7d' :: rest => some ([(path, value)], rest)
        | _ => none
    | _ => none

end

/-! ## Statements -/

/-- A statement without the end of its line. -/
def scanStatement (s : List Char) : Option (Statement × List Char) :=
  match s with
  | '[' :: '[' :: s =>
    match scanKeys s with
    | some (path, ']' :: ']' :: rest) => some (.itemHeader path, rest)
    | _ => none
  | '[' :: s =>
    match scanKeys s with
    | some (path, ']' :: rest) => some (.tableHeader path, rest)
    | _ => none
  | s =>
    match scanKeys s with
    | some (path, '=' :: rest) =>
      (scanValue (2 * rest.length + 2) 0 (skipBlanks rest)).map fun (value, rest) =>
        (.assign path value, rest)
    | _ => none

/-- Whether the rest of a line holds no statement. -/
def isIdle (s : List Char) : Bool :=
  match skipBlanks s with
  | [] => true
  | c :: _ => c = '#' || c = '\n' || c = '\r'

/-- The statements of a text of at most `bound` lines. -/
def scanStatements : Nat → List Char → Option (List Statement)
  | 0, _ => none
  | bound + 1, s =>
    if s.isEmpty then some []
    else if isIdle s then
      match scanLineEnd s with
      | some rest => scanStatements bound rest
      | none => none
    else
      match scanStatement (skipBlanks s) with
      | none => none
      | some (statement, rest) =>
        match scanLineEnd rest with
        | some rest => (scanStatements bound rest).map (statement :: ·)
        | none => none

/-- The document of a text.  A byte order mark in front does not count. -/
def parse? (text : String) : Option Toml :=
  let s :=
    match text.toList with
    | '\ufeff' :: s => s
    | s => s
  match scanStatements (s.length + 1) s with
  | some statements => ofStatements statements
  | none => none

end Toml

end VoxelStream
