import VoxelStream.Json.Parser

/-!
# Reading values out of JSON

Small readers that the wire formats are put together from.  A record may be written as an object,
whose members may come in any order and whose unknown members are ignored, or as an array of its
fields in their order.  A field is given at most once.

Some records are *open*: the unknown members of their objects are kept for a moment, and so have to
be well formed in full.  Then no string may lack its text, no number may exceed the range of
doubles, and the nesting is bounded by `nestingLimit`.
-/

namespace VoxelStream

namespace Json

/-! ## Scalars -/

def below? (bound : Nat) : Json → Option Nat
  | number value => value.natural?.filter (· < bound)
  | _ => none

def uint32? (value : Json) : Option UInt32 := (value.below? UInt32.size).map UInt32.ofNat

def uint64? (value : Json) : Option UInt64 := (value.below? UInt64.size).map UInt64.ofNat

def bool? : Json → Option Bool
  | bool value => some value
  | _ => none

def text? : Json → Option String
  | string s => s
  | _ => none

/-- `null` for nothing, else a value. -/
def optional? (read : Json → Option α) : Json → Option (Option α)
  | null => some none
  | value => (read value).map some

/-- A name out of a fixed set, as a text or as the only key of an object with value `null`. -/
def variant? (ofName? : String → Option α) : Json → Option α
  | string (some s) => ofName? s
  | object [(some s, null)] => ofName? s
  | _ => none

/-! ## Records -/

/-- The values of a key, in order. -/
def valuesOf (key : String) (members : List (Option String × Json)) : List Json :=
  members.filterMap fun member => if member.1 = some key then some member.2 else none

def field? (key : String) (read : Json → Option α) (members : List (Option String × Json)) :
    Option α :=
  match valuesOf key members with
  | [value] => read value
  | _ => none

def fieldD? (key : String) (read : Json → Option α) (absent : α)
    (members : List (Option String × Json)) : Option α :=
  match valuesOf key members with
  | [] => some absent
  | [value] => read value
  | _ => none

/-- All keys denote texts. -/
def keysValid (members : List (Option String × Json)) : Bool :=
  members.all fun member => member.1.isSome

/-! ## Open records -/

/-- Levels of arrays and objects that may be inside each other where values are kept. -/
def nestingLimit : Nat := 127

mutual

/-- Whether a value inside `depth` levels is well formed in full. -/
def wellFormed (depth : Nat) : Json → Bool
  | null => true
  | bool _ => true
  | number value => value.fitsDouble
  | string s => s.isSome
  | array items => depth < nestingLimit && wellFormedItems (depth + 1) items
  | object members => depth < nestingLimit && wellFormedMembers (depth + 1) members

/-- Whether all items inside `depth` levels are well formed in full. -/
def wellFormedItems (depth : Nat) : List Json → Bool
  | [] => true
  | item :: rest => wellFormed depth item && wellFormedItems depth rest

/-- Whether all keys denote texts and all values inside `depth` levels are well formed in full. -/
def wellFormedMembers (depth : Nat) : List (Option String × Json) → Bool
  | [] => true
  | (key, value) :: rest =>
    key.isSome && wellFormed depth value && wellFormedMembers depth rest

end

end Json

end VoxelStream
