import VoxelStream.Toml.Basic

/-!
# Strings, keys, numbers and dates in TOML

Readers for the parts of a TOML document that hold no other values.  Functions named `scan…` read
from the front of a text and return what they read with the rest.

A line ends with a line feed or with a carriage return and a line feed, and counts as a line feed
inside of strings.  Other control characters but the tab are nowhere allowed.
-/

namespace VoxelStream

namespace Toml

/-! ## Lines -/

def isBlank (c : Char) : Bool := c = ' ' || c = '\t'

def skipBlanks (s : List Char) : List Char := s.dropWhile isBlank

/-- What may stand in comments and strings: no control character but the tab. -/
def isPlain (c : Char) : Bool := c = '\t' || 32 ≤ c.toNat && c.toNat != 127

/-- The text after a line end. -/
def scanNewline : List Char → Option (List Char)
  | '\n' :: s => some s
  | '\r' :: '\n' :: s => some s
  | _ => none

/-- The text after the rest of a line, which may hold blanks and a comment. -/
def scanLineEnd (s : List Char) : Option (List Char) :=
  let s :=
    match skipBlanks s with
    | '#' :: s => s.dropWhile isPlain
    | s => s
  if s.isEmpty then some [] else scanNewline s

/-- The text after blanks, line ends and comments.  With `inComment` it starts inside of a
comment. -/
def skipTrivia (inComment : Bool) : List Char → Option (List Char)
  | [] => if inComment then none else some []
  | c :: s =>
    if c = '\n' then skipTrivia false s
    else if c = '\r' then
      match s with
      | '\n' :: s => skipTrivia false s
      | _ => none
    else if inComment then if isPlain c then skipTrivia true s else none
    else if isBlank c then skipTrivia false s
    else if c = '#' then skipTrivia true s
    else some (c :: s)

/-! ## Strings -/

/-- The quote of literal strings. -/
def apostrophe : Char := '\x27'

/-- The character of a short escape. -/
def shortEscape? (c : Char) : Option Char :=
  if c = '"' ∨ c = '\\' then some c
  else if c = 'b' then some '\x08'
  else if c = 'f' then some '\x0c'
  else if c = 'n' then some '\n'
  else if c = 'r' then some '\r'
  else if c = 't' then some '\t'
  else none

/-- The character whose number is given by hexadecimal digits. -/
def numberedChar? (digits : List Char) : Option Char :=
  match Decimal.hexNumber? digits with
  | some n => if n.isValidChar then some (Char.ofNat n) else none
  | none => none

/-- A character put in front of what was read. -/
def push (c : Char) (read : Option (List Char × List Char)) : Option (List Char × List Char) :=
  read.map fun (text, rest) => (c :: text, rest)

/-- A string on one line with escapes, after its opening quote. -/
def scanBasic : List Char → Option (List Char × List Char)
  | [] => none
  | c :: s =>
    if c = '"' then some ([], s)
    else if c = '\\' then
      match s with
      | 'u' :: h₁ :: h₂ :: h₃ :: h₄ :: s =>
        match numberedChar? [h₁, h₂, h₃, h₄] with
        | some c => push c (scanBasic s)
        | none => none
      | 'U' :: h₁ :: h₂ :: h₃ :: h₄ :: h₅ :: h₆ :: h₇ :: h₈ :: s =>
        match numberedChar? [h₁, h₂, h₃, h₄, h₅, h₆, h₇, h₈] with
        | some c => push c (scanBasic s)
        | none => none
      | e :: s =>
        match shortEscape? e with
        | some c => push c (scanBasic s)
        | none => none
      | [] => none
    else if isPlain c then push c (scanBasic s)
    else none

/-- A string on one line without escapes, after its opening quote. -/
def scanLiteral : List Char → Option (List Char × List Char)
  | [] => none
  | c :: s =>
    if c = apostrophe then some ([], s)
    else if isPlain c then push c (scanLiteral s)
    else none

/-- The end of a string over several lines, after one quote: two more, and up to two before them
that belong to the string. -/
def closeQuotes (quote : Char) (s : List Char) : Option (List Char × List Char) :=
  match s with
  | a :: b :: rest =>
    if a = quote ∧ b = quote then
      let inner := (rest.takeWhile (· = quote)).take 2
      some (inner, rest.drop inner.length)
    else none
  | _ => none

/-- Whether a backslash in front of the text ends its line. -/
def endsLine (s : List Char) : Bool := (scanNewline (skipBlanks s)).isSome

/-- A string over several lines with escapes, after its opening quotes.  With `trimming` blanks and
line ends are skipped, as they are after a backslash that ends a line. -/
def scanLongBasic (trimming : Bool) : List Char → Option (List Char × List Char)
  | [] => none
  | c :: s =>
    if trimming ∧ (isBlank c ∨ c = '\n') then scanLongBasic true s
    else if c = '\r' then
      match s with
      | '\n' :: s => if trimming then scanLongBasic true s else push '\n' (scanLongBasic false s)
      | _ => none
    else if c = '\n' then push '\n' (scanLongBasic false s)
    else if c = '"' then
      match closeQuotes '"' s with
      | some result => some result
      | none => push '"' (scanLongBasic false s)
    else if c = '\\' then
      if endsLine s then scanLongBasic true s
      else
        match s with
        | 'u' :: h₁ :: h₂ :: h₃ :: h₄ :: s =>
          match numberedChar? [h₁, h₂, h₃, h₄] with
          | some c => push c (scanLongBasic false s)
          | none => none
        | 'U' :: h₁ :: h₂ :: h₃ :: h₄ :: h₅ :: h₆ :: h₇ :: h₈ :: s =>
          match numberedChar? [h₁, h₂, h₃, h₄, h₅, h₆, h₇, h₈] with
          | some c => push c (scanLongBasic false s)
          | none => none
        | e :: s =>
          match shortEscape? e with
          | some c => push c (scanLongBasic false s)
          | none => none
        | [] => none
    else if isPlain c then push c (scanLongBasic false s)
    else none

/-- A string over several lines without escapes, after its opening quotes. -/
def scanLongLiteral : List Char → Option (List Char × List Char)
  | [] => none
  | c :: s =>
    if c = '\r' then
      match s with
      | '\n' :: s => push '\n' (scanLongLiteral s)
      | _ => none
    else if c = '\n' then push '\n' (scanLongLiteral s)
    else if c = apostrophe then
      match closeQuotes apostrophe s with
      | some result => some result
      | none => push apostrophe (scanLongLiteral s)
    else if isPlain c then push c (scanLongLiteral s)
    else none

/-- The text after a line end right behind opening quotes, which does not count. -/
def skipFirstNewline (s : List Char) : List Char := (scanNewline s).getD s

def scanString (s : List Char) : Option (String × List Char) :=
  let read :=
    match s with
    | q :: s =>
      if q = '"' then
        match s with
        | '"' :: '"' :: s => scanLongBasic false (skipFirstNewline s)
        | s => scanBasic s
      else if q = apostrophe then
        match s with
        | a :: b :: rest =>
          if a = apostrophe ∧ b = apostrophe then scanLongLiteral (skipFirstNewline rest)
          else scanLiteral s
        | s => scanLiteral s
      else none
    | [] => none
  read.map fun (text, rest) => (String.ofList text, rest)

/-! ## Keys -/

/-- What keys without quotes are made of. -/
def isBareKeyChar (c : Char) : Bool := c.isAlphanum || c = '-' || c = '_'

def scanKey (s : List Char) : Option (String × List Char) :=
  match s with
  | [] => none
  | c :: rest =>
    if c = '"' then (scanBasic rest).map fun (text, rest) => (String.ofList text, rest)
    else if c = apostrophe then
      (scanLiteral rest).map fun (text, rest) => (String.ofList text, rest)
    else if isBareKeyChar c then
      some (String.ofList (s.takeWhile isBareKeyChar), s.dropWhile isBareKeyChar)
    else none

/-- Keys joined by points, with blanks around each.  There are at most `bound`. -/
def scanPath : Nat → List Char → Option (List String × List Char)
  | 0, _ => none
  | bound + 1, s =>
    match scanKey (skipBlanks s) with
    | none => none
    | some (key, s) =>
      match skipBlanks s with
      | '.' :: s => (scanPath bound s).map fun (path, rest) => (key :: path, rest)
      | s => some ([key], s)

/-- Levels of values and keys that may be inside each other. -/
def nestingLimit : Nat := 79

/-! ## Numbers -/

/-- The digits after a first one, with single underscores between them, which are dropped. -/
def scanMoreDigits (isDigit : Char → Bool) : List Char → Option (List Char × List Char)
  | [] => some ([], [])
  | c :: s =>
    if isDigit c then push c (scanMoreDigits isDigit s)
    else if c = '_' then
      match s with
      | d :: s => if isDigit d then push d (scanMoreDigits isDigit s) else none
      | [] => none
    else some ([], c :: s)

/-- Digits, with single underscores between them. -/
def scanDigits (isDigit : Char → Bool) : List Char → Option (List Char × List Char)
  | [] => none
  | c :: s => if isDigit c then push c (scanMoreDigits isDigit s) else none

/-- A sign, if there is one: whether it is a minus, and the rest. -/
def scanSign : List Char → Bool × List Char
  | '+' :: s => (false, s)
  | '-' :: s => (true, s)
  | s => (false, s)

/-- Decimal digits without a superfluous zero in front. -/
def scanWhole (s : List Char) : Option (List Char × List Char) :=
  match scanDigits Char.isDigit s with
  | some ('0' :: _ :: _, _) => none
  | result => result

/-- A number that a 64-bit integer with sign holds. -/
def integer? (value : Int) : Option Toml :=
  if Int64.minValue.toInt ≤ value ∧ value ≤ Int64.maxValue.toInt then some (.integer value)
  else none

/-- An integer in a base other than ten, after its mark. -/
def scanBased (base : Nat) (isDigit : Char → Bool) (s : List Char) : Option (Toml × List Char) :=
  match scanDigits isDigit s with
  | some (digits, rest) =>
    let value := Decimal.ofDigits base (fun c => (Decimal.hexValue? c).getD 0) digits
    (integer? value).map fun number => (number, rest)
  | none => none

def scanInteger (s : List Char) : Option (Toml × List Char) :=
  match s with
  | '0' :: 'x' :: s => scanBased 16 (fun c => (Decimal.hexValue? c).isSome) s
  | '0' :: 'o' :: s => scanBased 8 (fun c => '0' ≤ c && c ≤ '7') s
  | '0' :: 'b' :: s => scanBased 2 (fun c => c = '0' || c = '1') s
  | s =>
    let (negative, s) := scanSign s
    match scanWhole s with
    | some (digits, rest) =>
      let size : Int := Decimal.value digits
      (integer? (if negative then -size else size)).map fun number => (number, rest)
    | none => none

def scanExponent : List Char → Option (Int × List Char)
  | c :: s =>
    if c = 'e' ∨ c = 'E' then
      let (negative, s) := scanSign s
      (scanDigits Char.isDigit s).map fun (digits, rest) =>
        let size : Int := Decimal.value digits
        (if negative then -size else size, rest)
    else none
  | [] => none

/-- The text after a float with a finite value. -/
def scanFinite (s : List Char) : Option (List Char) :=
  match scanWhole (scanSign s).2 with
  | none => none
  | some (whole, s) =>
    let read : Option (List Char × Int × List Char) :=
      match s with
      | '.' :: s =>
        match scanDigits Char.isDigit s with
        | none => none
        | some (places, s) =>
          match scanExponent s with
          | some (exponent, s) => some (places, exponent, s)
          | none => some (places, 0, s)
      | s => (scanExponent s).map fun (exponent, s) => ([], exponent, s)
    match read with
    | none => none
    | some (places, exponent, s) =>
      if Decimal.overflowsDouble (Decimal.value (whole ++ places)) (exponent - places.length) then
        none
      else some s

/-- The text after a float. -/
def skipFloat (s : List Char) : Option (List Char) :=
  match (scanSign s).2 with
  | 'i' :: 'n' :: 'f' :: rest => some rest
  | 'n' :: 'a' :: 'n' :: rest => some rest
  | _ => scanFinite s

/-! ## Dates and times -/

/-- A number of exactly `count` digits. -/
def scanFixed (count : Nat) (s : List Char) : Option (Nat × List Char) :=
  let digits := (s.take count).takeWhile Char.isDigit
  if digits.length = count then some (Decimal.value digits, s.drop count) else none

/-- The text after a character that it starts with. -/
def scanChar (c : Char) : List Char → Option (List Char)
  | d :: s => if d = c then some s else none
  | [] => none

def daysInMonth (year month : Nat) : Nat :=
  if month = 2 then
    if year % 4 = 0 ∧ (year % 100 ≠ 0 ∨ year % 400 = 0) then 29 else 28
  else if month = 4 ∨ month = 6 ∨ month = 9 ∨ month = 11 then 30
  else 31

def skipDate (s : List Char) : Option (List Char) := do
  let (year, s) ← scanFixed 4 s
  let s ← scanChar '-' s
  let (month, s) ← scanFixed 2 s
  guard (1 ≤ month ∧ month ≤ 12)
  let s ← scanChar '-' s
  let (day, s) ← scanFixed 2 s
  guard (1 ≤ day ∧ day ≤ daysInMonth year month)
  some s

def skipClock (s : List Char) : Option (List Char) := do
  let (hour, s) ← scanFixed 2 s
  guard (hour ≤ 23)
  let s ← scanChar ':' s
  let (minute, s) ← scanFixed 2 s
  guard (minute ≤ 59)
  some s

/-- The text after a time with seconds, which may have a fraction. -/
def skipTime (s : List Char) : Option (List Char) := do
  let s ← skipClock s
  let s ← scanChar ':' s
  let (second, s) ← scanFixed 2 s
  guard (second ≤ 60)
  match s with
  | '.' :: d :: rest => if d.isDigit then some (rest.dropWhile Char.isDigit) else some s
  | s => some s

/-- The text after an offset from universal time, if there is one. -/
def skipOffset (s : List Char) : List Char :=
  match s with
  | [] => []
  | c :: rest =>
    if c = 'Z' ∨ c = 'z' then rest
    else if c = '+' ∨ c = '-' then (skipClock rest).getD s
    else s

/-- The text after a date, a time, or a date with a time. -/
def skipDatetime (s : List Char) : Option (List Char) :=
  match skipDate s with
  | none => skipTime s
  | some [] => some []
  | some (c :: rest) =>
    if c = 'T' ∨ c = 't' ∨ c = ' ' then
      match skipTime rest with
      | some rest => some (skipOffset rest)
      | none => some (c :: rest)
    else some (c :: rest)

/-! ## Scalars -/

/-- The part of a text that is in front of its rest. -/
def readPart (s rest : List Char) : String := String.ofList (s.take (s.length - rest.length))

def scanNumeric (s : List Char) : Option (Toml × List Char) :=
  match skipDatetime s with
  | some rest => some (.datetime (readPart s rest), rest)
  | none =>
    match skipFloat s with
    | some rest => some (.float (readPart s rest), rest)
    | none => scanInteger s

/-- The rest of a text after a word it starts with. -/
def scanWord (word : String) (value : Toml) (s : List Char) : Option (Toml × List Char) :=
  if word.toList.isPrefixOf s then some (value, s.drop word.length) else none

end Toml

end VoxelStream
