import VoxelStream.Json.Parser
import VoxelStream.Notice

/-!
# The header of missing buckets

A store names the buckets it lacks in a header of its answer: a JSON array of their indices in the
batch.  The header counts as a whole or not at all.  A header that is anything else than an array
of 64-bit indices lists nothing, and so does an absent one.
-/

namespace VoxelStream

namespace MissingList

def headerName : String := "missing-buckets"

/-- An index: digits without a superfluous zero, for a number of at most 64 bits. -/
def scanIndex (s : List Char) : Option (Nat × List Char) :=
  match Json.scanNatural s with
  | some (digits, rest) =>
    if Decimal.value digits < UInt64.size then some (Decimal.value digits, rest) else none
  | none => none

/-- The indices up to the closing bracket, at least one, with blanks around each.  There are no
more of them than `bound`. -/
def scanIndices : Nat → List Char → Option (List Nat × List Char)
  | 0, _ => none
  | bound + 1, s =>
    match scanIndex (Json.skipBlanks s) with
    | none => none
    | some (index, s) =>
      match Json.skipBlanks s with
      | ',' :: s => (scanIndices bound s).map fun (indices, rest) => (index :: indices, rest)
      | ']' :: rest => some ([index], rest)
      | _ => none

/-- The indices of an array and the rest of the text. -/
def scanArray (s : List Char) : Option (List Nat × List Char) :=
  match Json.skipBlanks s with
  | '[' :: s =>
    match Json.skipBlanks s with
    | ']' :: rest => some ([], rest)
    | s => scanIndices s.length s
  | _ => none

/-- The indices of a text that is an array of indices and nothing else. -/
def parse? (s : List Char) : Option (List Nat) :=
  match scanArray s with
  | some (indices, rest) => if (Json.skipBlanks rest).isEmpty then some indices else none
  | none => none

/-- The missing indices that a header lists. -/
def ofHeader : Option String → List Nat
  | some header => (parse? header.toList).getD []
  | none => []

/-- A header that counts for nothing is worth a notice. -/
def notices : Option String → List Notice
  | some header => if (parse? header.toList).isSome then [] else [.malformedMissingHeader header]
  | none => []

def render (indices : List Nat) : List Char :=
  (Json.array (indices.map Json.nat)).renderChars

end MissingList

end VoxelStream
