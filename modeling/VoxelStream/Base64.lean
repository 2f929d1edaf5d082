import VoxelStream.Bucket

/-!
# Base64

Three bytes are written as four *symbols* of six bits each.  A last group of one or two bytes is
written as two or three symbols and filled up with the pad character, so the text is a multiple of
four long.

Reading accepts one text per byte list.  The pad characters have to be there, and the bits of the
last symbol that belong to no byte have to be zero.  `Base64.Error` says what is wrong with any
other text.

Symbols are numbers below 64.  Texts are read as bytes, since a character outside the alphabet is
reported by its byte and offset.
-/

namespace VoxelStream

namespace Base64

/-! ## The alphabet -/

/-- The character that fills up the last group. -/
def pad : Char := '='

/-- The character of a symbol: letters, digits, plus and slash. -/
def symbolChar (symbol : Nat) : Char :=
  if symbol < 26 then Char.ofNat (65 + symbol)
  else if symbol < 52 then Char.ofNat (71 + symbol)
  else if symbol < 62 then Char.ofNat (symbol - 4)
  else if symbol = 62 then '+'
  else '/'

/-- The symbol of a byte. -/
def symbol? (byte : UInt8) : Option Nat :=
  let code := byte.toNat
  if 65 ≤ code ∧ code ≤ 90 then some (code - 65)
  else if 97 ≤ code ∧ code ≤ 122 then some (code - 71)
  else if 48 ≤ code ∧ code ≤ 57 then some (code + 4)
  else if code = 43 then some 62
  else if code = 47 then some 63
  else none

def padByte : UInt8 := 61

/-! ## Writing -/

def fullGroup (a b c : UInt8) : List Char :=
  [symbolChar (a.toNat / 4),
   symbolChar (a.toNat % 4 * 16 + b.toNat / 16),
   symbolChar (b.toNat % 16 * 4 + c.toNat / 64),
   symbolChar (c.toNat % 64)]

/-- The characters of the last one or two bytes. -/
def lastGroup : List UInt8 → List Char
  | [a] => [symbolChar (a.toNat / 4), symbolChar (a.toNat % 4 * 16), pad, pad]
  | [a, b] =>
    [symbolChar (a.toNat / 4), symbolChar (a.toNat % 4 * 16 + b.toNat / 16),
     symbolChar (b.toNat % 16 * 4), pad]
  | _ => []

/-- The characters of a byte list behind characters already written, which are kept in reverse.
A payload is long, so the recursion has to be a loop. -/
def writeGroups (written : List Char) : List UInt8 → List Char
  | a :: b :: c :: rest => writeGroups ((fullGroup a b c).reverse ++ written) rest
  | rest => written.reverse ++ lastGroup rest

/-- The text of a byte list, as characters. -/
def encodeChars (bytes : List UInt8) : List Char := writeGroups [] bytes

def encode (bytes : List UInt8) : String := String.ofList (encodeChars bytes)

theorem writeGroups_cons₃ (written : List Char) (a b c : UInt8) (rest : List UInt8) :
    writeGroups written (a :: b :: c :: rest)
      = writeGroups ((fullGroup a b c).reverse ++ written) rest := rfl

/-- Writing groups back to front comes to the plain encoding. -/
theorem writeGroups_eq : ∀ (written : List Char) (bytes : List UInt8),
    writeGroups written bytes = written.reverse ++ encodeChars bytes
  | written, a :: b :: c :: rest => by
    rw [encodeChars, writeGroups_cons₃, writeGroups_cons₃, writeGroups_eq _ rest,
      writeGroups_eq _ rest]
    simp
  | _, [] => rfl
  | _, [_] => rfl
  | _, [_, _] => rfl

@[simp] theorem encodeChars_cons₃ (a b c : UInt8) (rest : List UInt8) :
    encodeChars (a :: b :: c :: rest) = fullGroup a b c ++ encodeChars rest := by
  rw [encodeChars, writeGroups_cons₃, writeGroups_eq]; simp

/-! ## Reading -/

/-- What is wrong with a text.  Offsets count bytes. -/
inductive Error where
  /-- A byte that is no symbol, or a pad character where none may be. -/
  | invalidByte (offset : Nat) (byte : UInt8)
  /-- A single symbol is left after the last full group. -/
  | invalidLength (length : Nat)
  /-- The last symbol has bits that belong to no byte. -/
  | invalidLastSymbol (offset : Nat) (byte : UInt8)
  /-- Pad characters are missing or too many. -/
  | invalidPadding
deriving DecidableEq

def Error.message : Error → String
  | invalidByte offset byte => s!"Invalid symbol {byte}, offset {offset}."
  | invalidLength length => s!"Invalid input length: {length}"
  | invalidLastSymbol offset byte => s!"Invalid last symbol {byte}, offset {offset}."
  | invalidPadding => "Invalid padding"

/-- The symbols of some bytes, or the first byte that is none. -/
def symbols (offset : Nat) : List UInt8 → Except Error (List Nat)
  | [] => .ok []
  | byte :: rest =>
    match symbol? byte with
    | none => .error (.invalidByte offset byte)
    | some symbol =>
      match symbols (offset + 1) rest with
      | .error e => .error e
      | .ok more => .ok (symbol :: more)

/-- The bytes of four symbols. -/
def quadBytes (w x y z : Nat) : List UInt8 :=
  [UInt8.ofNat (w * 4 + x / 16), UInt8.ofNat (x % 16 * 16 + y / 4), UInt8.ofNat (y % 4 * 64 + z)]

/-- The bytes of the last group, which starts at `offset`. -/
def readLast (offset : Nat) (group : List UInt8) : Except Error (List UInt8) :=
  let inner := group.takeWhile (· != padByte)
  let tail := group.dropWhile (· != padByte)
  match symbols offset inner with
  | .error e => .error e
  | .ok values =>
    if tail ≠ [] ∧ (inner.length < 2 ∨ tail.any (· != padByte)) then
      .error (.invalidByte (offset + inner.length) padByte)
    else if group ≠ [] ∧ inner.length < 2 then .error (.invalidLength (offset + inner.length))
    else if group.length % 4 ≠ 0 then .error .invalidPadding
    else
      match values with
      | [w, x] =>
        if x % 16 = 0 then .ok ((quadBytes w x 0 0).take 1)
        else .error (.invalidLastSymbol (offset + 1) (inner.getD 1 padByte))
      | [w, x, y] =>
        if y % 4 = 0 then .ok ((quadBytes w x y 0).take 2)
        else .error (.invalidLastSymbol (offset + 2) (inner.getD 2 padByte))
      | [w, x, y, z] => .ok (quadBytes w x y z)
      | _ => .ok []

/-- The bytes of all groups from `offset` on, behind bytes already read, which are kept in
reverse. -/
def readGroups (offset : Nat) (read : List UInt8) : List UInt8 → Except Error (List UInt8)
  | a :: b :: c :: d :: e :: rest =>
    match symbols offset [a, b, c, d] with
    | .ok [w, x, y, z] => readGroups (offset + 4) ((quadBytes w x y z).reverse ++ read) (e :: rest)
    | .ok _ => .ok read.reverse
    | .error e => .error e
  | last =>
    match readLast offset last with
    | .ok bytes => .ok (read.reverse ++ bytes)
    | .error e => .error e

/-- The bytes of a text given as bytes.  A stray last byte that is neither symbol nor pad is
reported before any other fault. -/
def decodeBytes (text : List UInt8) : Except Error (List UInt8) :=
  match text.getLast? with
  | some last =>
    if text.length % 4 = 1 ∧ last ≠ padByte ∧ symbol? last = none then
      .error (.invalidByte (text.length - 1) last)
    else readGroups 0 [] text
  | none => .ok []

def decode (text : String) : Except Error (List UInt8) := decodeBytes text.toUTF8.data.toList

end Base64

end VoxelStream
