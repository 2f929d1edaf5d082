import VoxelStream.Decimal

/-!
# JSON values

The values of JSON texts.  Objects keep their members in order and keep repeated keys, so that a
reader can refuse them.  A string literal may contain an escape that names half of a character; it
then denotes no text, and its value is `none`.  Numbers keep whether they were written as integers.

`Json.render` writes a value without blanks.  In strings only what JSON requires is escaped.
-/

namespace VoxelStream

/-- The value of a number literal. -/
inductive JsonNumber where
  /-- A literal without fraction and exponent. -/
  | integer (negative : Bool) (magnitude : Nat)
  /-- A literal with a fraction or an exponent: mantissa times ten to the exponent. -/
  | decimal (negative : Bool) (mantissa : Nat) (exponent : Int)
deriving DecidableEq

/-- The value of a JSON text. -/
inductive Json where
  | null
  | bool (value : Bool)
  | number (value : JsonNumber)
  | string (text : Option String)
  | array (items : List Json)
  | object (members : List (Option String × Json))

namespace JsonNumber

/-- The number of a literal without sign, fraction and exponent. -/
def natural? : JsonNumber → Option Nat
  | integer false magnitude => some magnitude
  | _ => none

/-- Whether the number rounds to a finite double. -/
def fitsDouble : JsonNumber → Bool
  | integer _ magnitude => !Decimal.overflowsDouble magnitude 0
  | decimal _ mantissa exponent => !Decimal.overflowsDouble mantissa exponent

/-- A literal of the number. -/
def render : JsonNumber → List Char
  | integer negative magnitude =>
    (if negative then ['-'] else []) ++ (toString magnitude).toList
  | decimal negative mantissa exponent =>
    (if negative then ['-'] else []) ++ (toString mantissa).toList ++ ['e']
      ++ (toString exponent).toList

end JsonNumber

namespace Json

/-- The number literal of a natural number. -/
def nat (n : Nat) : Json := number (.integer false n)

/-- The string literal of a text. -/
def text (s : String) : Json := string (some s)

/-- An object with keys that denote texts. -/
def ofMembers (members : List (String × Json)) : Json :=
  object (members.map fun member => (some member.1, member.2))

/-! ## Strings -/

/-- A character inside a string literal.  Quote, backslash and control characters are escaped. -/
def escapeChar (c : Char) : List Char :=
  if c = '"' then ['\\', '"']
  else if c = '\\' then ['\\', '\\']
  else if c = '\n' then ['\\', 'n']
  else if c = '\r' then ['\\', 'r']
  else if c = '\t' then ['\\', 't']
  else if c.toNat = 8 then ['\\', 'b']
  else if c.toNat = 12 then ['\\', 'f']
  else if c.toNat < 32 then
    ['\\', 'u', '0', '0', Decimal.hexDigit (c.toNat / 16), Decimal.hexDigit (c.toNat % 16)]
  else [c]

/-- A string literal.  What denotes no text is written as such. -/
def renderString : Option String → List Char
  | some s => '"' :: (s.toList.flatMap escapeChar ++ ['"'])
  | none => "\"\\ud800\"".toList

/-! ## Values -/

mutual

/-- The text of a value, without blanks. -/
def renderChars : Json → List Char
  | null => "null".toList
  | bool true => "true".toList
  | bool false => "false".toList
  | number value => value.render
  | string s => renderString s
  | array items => '[' :: (renderItems items ++ [']'])
  | object members => '\x7b' :: (renderMembers members ++ ['\x7d'])

/-- The items of an array, separated by commas. -/
def renderItems : List Json → List Char
  | [] => []
  | [item] => renderChars item
  | item :: next :: rest => renderChars item ++ ',' :: renderItems (next :: rest)

/-- The members of an object, separated by commas. -/
def renderMembers : List (Option String × Json) → List Char
  | [] => []
  | [(key, value)] => renderString key ++ ':' :: renderChars value
  | (key, value) :: next :: rest =>
    renderString key ++ ':' :: (renderChars value ++ ',' :: renderMembers (next :: rest))

end

/-- The text of a value, without blanks. -/
def render (value : Json) : String := String.ofList value.renderChars

end Json

end VoxelStream
