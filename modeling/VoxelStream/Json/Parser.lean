import VoxelStream.Json.Basic

/-!
# Reading JSON

A reader for JSON texts.  Functions named `scan…` read from the front of a text and return what
they read with the rest.  `Json.parse?` reads a whole text, with blanks around the value.

The syntax is that of the standard: no leading zeros, no trailing commas, no control characters in
strings.  String literals are first read into *pieces*, characters and 16-bit units, and
`Json.textOf` then joins the units of surrogate pairs.

The nesting of a text is bounded by its length.  The readers of values count down from a bound
that no text reaches.
-/

namespace VoxelStream

namespace Json

/-! ## Blanks and numbers -/

/-- Blank, tab, line feed and carriage return. -/
def isBlank (c : Char) : Bool := c = ' ' || c = '\t' || c = '\n' || c = '\r'

def skipBlanks (s : List Char) : List Char := s.dropWhile isBlank

def scanDigits (s : List Char) : Option (List Char × List Char) :=
  if (s.takeWhile Char.isDigit).isEmpty then none
  else some (s.takeWhile Char.isDigit, s.dropWhile Char.isDigit)

/-- Digits without a superfluous zero in front. -/
def scanNatural (s : List Char) : Option (List Char × List Char) :=
  match scanDigits s with
  | some ('0' :: _ :: _, _) => none
  | result => result

/-- The digits after a point, if there is one. -/
def scanFraction : List Char → Option (Option (List Char) × List Char)
  | '.' :: s => (scanDigits s).map fun (digits, rest) => (some digits, rest)
  | s => some (none, s)

def scanExponent : List Char → Option (Option Int × List Char)
  | c :: s =>
    if c = 'e' ∨ c = 'E' then
      let (sign, s) : Int × List Char :=
        match s with
        | '+' :: s => (1, s)
        | '-' :: s => (-1, s)
        | s => (1, s)
      (scanDigits s).map fun (digits, rest) => (some (sign * Decimal.value digits), rest)
    else some (none, c :: s)
  | [] => some (none, [])

def scanUnsigned (negative : Bool) (s : List Char) : Option (JsonNumber × List Char) := do
  let (whole, s) ← scanNatural s
  let (fraction, s) ← scanFraction s
  let (exponent, s) ← scanExponent s
  match fraction, exponent with
  | none, none => some (.integer negative (Decimal.value whole), s)
  | _, _ =>
    let places := fraction.getD []
    some (.decimal negative (Decimal.value (whole ++ places)) (exponent.getD 0 - places.length), s)

def scanNumber : List Char → Option (JsonNumber × List Char)
  | '-' :: s => scanUnsigned true s
  | s => scanUnsigned false s

/-! ## Strings -/

/-- What a string literal is made of. -/
inductive Piece where
  /-- A character, as it is or by a short escape. -/
  | char (c : Char)
  /-- A 16-bit unit by its number. -/
  | unit (value : Nat)
deriving DecidableEq

/-- The character of a short escape. -/
def shortEscape? (c : Char) : Option Char :=
  if c = '"' ∨ c = '\\' ∨ c = '/' then some c
  else if c = 'b' then some '\x08'
  else if c = 'f' then some '\x0c'
  else if c = 'n' then some '\n'
  else if c = 'r' then some '\r'
  else if c = 't' then some '\t'
  else none

/-- The pieces of a string literal after its opening quote, and the text after its closing one. -/
def scanPieces : List Char → Option (List Piece × List Char)
  | [] => none
  | c :: s =>
    if c = '"' then some ([], s)
    else if c = '\\' then
      match s with
      | [] => none
      | e :: s =>
        if e = 'u' then
          match s with
          | h₁ :: h₂ :: h₃ :: h₄ :: s =>
            match Decimal.hexNumber? [h₁, h₂, h₃, h₄] with
            | some value => (scanPieces s).map fun (pieces, rest) => (.unit value :: pieces, rest)
            | none => none
          | _ => none
        else
          match shortEscape? e with
          | some e => (scanPieces s).map fun (pieces, rest) => (.char e :: pieces, rest)
          | none => none
    else if c.toNat < 32 then none
    else (scanPieces s).map fun (pieces, rest) => (.char c :: pieces, rest)

/-- The first half of a surrogate pair. -/
def isHighUnit (value : Nat) : Bool := 0xd800 ≤ value && value < 0xdc00

/-- The second half of a surrogate pair. -/
def isLowUnit (value : Nat) : Bool := 0xdc00 ≤ value && value < 0xe000

/-- The characters of a list of pieces.  Half a surrogate pair is none. -/
def textOf : List Piece → Option (List Char)
  | [] => some []
  | .char c :: rest => (textOf rest).map (c :: ·)
  | .unit value :: rest =>
    if isHighUnit value then
      match rest with
      | .unit low :: rest =>
        if isLowUnit low then
          (textOf rest).map (Char.ofNat (0x10000 + (value - 0xd800) * 0x400 + (low - 0xdc00)) :: ·)
        else none
      | _ => none
    else if isLowUnit value then none
    else (textOf rest).map (Char.ofNat value :: ·)

/-- A string literal after its opening quote. -/
def scanString (s : List Char) : Option (Option String × List Char) :=
  (scanPieces s).map fun (pieces, rest) => ((textOf pieces).map String.ofList, rest)

/-! ## Values -/

/-- The rest of a text after a word it starts with. -/
def scanWord (word : List Char) (value : Json) (s : List Char) : Option (Json × List Char) :=
  if word.isPrefixOf s then some (value, s.drop word.length) else none

mutual

/-- A value, with blanks in front. -/
def scanValue : Nat → List Char → Option (Json × List Char)
  | 0, _ => none
  | bound + 1, s =>
    match skipBlanks s with
    | [] => none
    | c :: s =>
      if c = '"' then (scanString s).map fun (text, rest) => (.string text, rest)
      else if c = '[' then
        match skipBlanks s with
        | ']' :: rest => some (.array [], rest)
        | s => (scanItems bound s).map fun (items, rest) => (.array items, rest)
      else if c = '\x7b' then
        match skipBlanks s with
        | '\x7d' :: rest => some (.object [], rest)
        | s => (scanMembers bound s).map fun (members, rest) => (.object members, rest)
      else if c = 'n' then scanWord "ull".toList .null s
      else if c = 't' then scanWord "rue".toList (.bool true) s
      else if c = 'f' then scanWord "alse".toList (.bool false) s
      else (scanNumber (c :: s)).map fun (value, rest) => (.number value, rest)

/-- The items of an array up to its closing bracket, at least one. -/
def scanItems : Nat → List Char → Option (List Json × List Char)
  | 0, _ => none
  | bound + 1, s =>
    match scanValue bound s with
    | none => none
    | some (item, s) =>
      match skipBlanks s with
      | ',' :: s => (scanItems bound s).map fun (items, rest) => (item :: items, rest)
      | ']' :: rest => some ([item], rest)
      | _ => none

/-- The members of an object up to its closing brace, at least one. -/
def scanMembers : Nat → List Char → Option (List (Option String × Json) × List Char)
  | 0, _ => none
  | bound + 1, s =>
    match skipBlanks s with
    | '"' :: s =>
      match scanString s with
      | none => none
      | some (key, s) =>
        match skipBlanks s with
        | ':' :: s =>
          match scanValue bound s with
          | none => none
          | some (value, s) =>
            match skipBlanks s with
            | ',' :: s =>
              (scanMembers bound s).map fun (members, rest) => ((key, value) :: members, rest)
            | '\x7d' :: rest => some ([(key, value)], rest)
            | _ => none
        | _ => none
    | _ => none

end

/-- The value at the front of a text, and what follows it. -/
def scanFront (s : List Char) : Option (Json × List Char) := scanValue (2 * s.length + 2) s

def parseChars? (s : List Char) : Option Json :=
  match scanFront s with
  | some (value, rest) => if (skipBlanks rest).isEmpty then some value else none
  | none => none

def parse? (s : String) : Option Json := parseChars? s.toList

end Json

end VoxelStream
