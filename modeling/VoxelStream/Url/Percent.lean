import VoxelStream.Bucket

/-!
# Percent encoding

A character that may not stand in some part of a URL is written as the percent codes of its UTF-8
bytes.  Each part has its own set of characters that are kept.  Characters beyond ASCII are kept
nowhere.

Form encoding is the encoding of query values.  It keeps letters, digits and four marks, and writes
a blank as a plus.
-/

namespace VoxelStream

namespace Percent

/-- A hexadecimal digit in upper case. -/
def hexDigit (value : Nat) : Char := Char.ofNat (if value < 10 then 48 + value else 55 + value)

def code (byte : UInt8) : List Char :=
  ['%', hexDigit (byte.toNat / 16), hexDigit (byte.toNat % 16)]

/-- The percent codes of a character's bytes. -/
def codes (c : Char) : List Char := (String.utf8EncodeChar c).flatMap code

/-- A text with percent codes for all characters that are not kept. -/
def encode (keep : Char → Bool) (s : List Char) : List Char :=
  s.flatMap fun c => if c.toNat < 128 && keep c then [c] else codes c

/-! ## Sets of kept characters -/

/-- No control character. -/
def isPrintable (c : Char) : Bool := 32 ≤ c.toNat && c.toNat != 127

def inFragment (c : Char) : Bool := isPrintable c && !" \"<>\x60".toList.contains c

/-- What a query keeps.  That of a web address keeps no apostrophe. -/
def inQuery (special : Bool) (c : Char) : Bool :=
  isPrintable c && !" \"#<>".toList.contains c && !(special && c = '\x27')

def inPath (c : Char) : Bool := isPrintable c && !" \"#<>?\x60\x7b\x7d".toList.contains c

/-- What a user name or a password keeps. -/
def inUserInfo (c : Char) : Bool := inPath c && !"/:;=@[\\]^|".toList.contains c

/-! ## Form encoding -/

/-- What form encoding keeps. -/
def inForm (c : Char) : Bool := c.isAlphanum || "*-._".toList.contains c

def encodeForm (s : List Char) : List Char :=
  s.flatMap fun c => if c = ' ' then ['+'] else encode inForm [c]

/-! ## Decoding -/

def hexValue? (byte : UInt8) : Option UInt8 :=
  if 48 ≤ byte ∧ byte ≤ 57 then some (byte - 48)
  else if 65 ≤ byte ∧ byte ≤ 70 then some (byte - 55)
  else if 97 ≤ byte ∧ byte ≤ 102 then some (byte - 87)
  else none

/-- The bytes of a text with its percent codes replaced.  What is no code stays as it is. -/
def decode : List UInt8 → List UInt8
  | [] => []
  | 37 :: a :: b :: rest =>
    match hexValue? a, hexValue? b with
    | some high, some low => (high * 16 + low) :: decode rest
    | _, _ => 37 :: decode (a :: b :: rest)
  | byte :: rest => byte :: decode rest

end Percent

end VoxelStream
