import VoxelStream.FourBit

/-!
# Four-bit transfer as quantization

Packing an even number of voxels and expanding them again clears the low half of every voxel
(`exists_encode`).  `quantize` names that loss.  Expanding distributes over concatenation, so the
packed forms of several payloads in a row expand to the quantized payloads in a row.  It turns a cut
of packed bytes into the cut of voxels at twice the place (`take_decode`, `drop_decode`).

Bytes are compared as numbers: masking the high half rounds down to a multiple of 16
(`toNat_high`).
-/

namespace VoxelStream.FourBit

/-! ## Halves of bytes -/

/-- The high half of a byte is its next lower multiple of sixteen. -/
theorem toNat_high (byte : UInt8) : (byte &&& (0xf0 : UInt8)).toNat = byte.toNat / 16 * 16 := by
  have masked : ∀ n < 256, n &&& 240 = n / 16 * 16 := by decide +kernel
  rw [UInt8.toNat_and]
  exact masked byte.toNat byte.toNat_lt

/-- A packed pair is the high half of the first voxel before that of the second. -/
theorem toNat_packPair (first second : UInt8) :
    (packPair first second).toNat = first.toNat / 16 * 16 + second.toNat / 16 := by
  have small := second.toNat_lt
  have shifted : (second >>> (4 : UInt8)).toNat = second.toNat / 16 := by
    rw [UInt8.toNat_shiftRight]
    exact Nat.shiftRight_eq_div_pow second.toNat 4
  rw [packPair, UInt8.toNat_or, toNat_high, shifted]
  have disjoint := Nat.shiftLeft_add_eq_or_of_lt (i := 4) (b := second.toNat / 16) (by omega)
    (first.toNat / 16)
  rw [Nat.shiftLeft_eq] at disjoint
  exact disjoint.symm

/-- Expanding a packed byte gives the high halves of both voxels. -/
theorem expandByte_packPair (first second : UInt8) :
    expandByte (packPair first second) = [first &&& 0xf0, second &&& 0xf0] := by
  have packed := toNat_packPair first second
  have firstSmall := first.toNat_lt
  have secondSmall := second.toNat_lt
  have high : packPair first second &&& 0xf0 = first &&& 0xf0 := by
    apply UInt8.toNat.inj
    rw [toNat_high, toNat_high, packed]
    omega
  have low : packPair first second <<< 4 = second &&& 0xf0 := by
    apply UInt8.toNat.inj
    rw [toNat_high, UInt8.toNat_shiftLeft, packed]
    show (_ <<< 4) % 256 = _
    rw [Nat.shiftLeft_eq]
    omega
  rw [expandByte, high, low]

/-! ## Whole payloads -/

/-- The voxels with the low half of each cleared. -/
def quantize (voxels : List UInt8) : List UInt8 := voxels.map (· &&& 0xf0)

@[simp] theorem length_quantize (voxels : List UInt8) :
    (quantize voxels).length = voxels.length := List.length_map _

/-- Packed bytes expand one by one. -/
theorem decode_append (first second : List UInt8) :
    decode (first ++ second) = decode first ++ decode second := List.flatMap_append

theorem decode_cons (byte : UInt8) (packed : List UInt8) :
    decode (byte :: packed) =
      (byte &&& (0xf0 : UInt8)) :: (byte <<< (4 : UInt8)) :: decode packed :=
  rfl

@[simp] theorem length_decode (packed : List UInt8) :
    (decode packed).length = 2 * packed.length := by
  induction packed with
  | nil => rfl
  | cons byte rest ih =>
    rw [decode_cons, List.length_cons, List.length_cons, List.length_cons, ih]
    omega

/-- The first packed bytes expand to the first pairs of voxels. -/
theorem take_decode (packed : List UInt8) (count : Nat) :
    (decode packed).take (2 * count) = decode (packed.take count) := by
  induction packed generalizing count with
  | nil => simp [decode]
  | cons byte rest ih =>
    cases count with
    | zero => rfl
    | succ count =>
      rw [Nat.mul_succ, decode_cons, List.take_succ_cons, List.take_succ_cons, ih,
        List.take_succ_cons, decode_cons]

/-- The packed bytes after them expand to the voxels after those. -/
theorem drop_decode (packed : List UInt8) (count : Nat) :
    (decode packed).drop (2 * count) = decode (packed.drop count) := by
  induction packed generalizing count with
  | nil => simp [decode]
  | cons byte rest ih =>
    cases count with
    | zero => rfl
    | succ count =>
      rw [Nat.mul_succ, decode_cons, List.drop_succ_cons, List.drop_succ_cons, ih,
        List.drop_succ_cons]

/-- Packing an even number of voxels leaves none waiting, and expanding gives them back
quantized. -/
theorem foldr_packStep_even :
    ∀ voxels : List UInt8, voxels.length % 2 = 0 →
      ∃ packed, voxels.foldr packStep (none, []) = (none, packed) ∧
        decode packed = quantize voxels
  | [], _ => ⟨[], rfl, rfl⟩
  | [_], odd => by simp at odd
  | first :: second :: rest, even => by
    have restEven : rest.length % 2 = 0 := by
      rw [List.length_cons, List.length_cons] at even
      omega
    obtain ⟨packed, folded, expanded⟩ := foldr_packStep_even rest restEven
    refine ⟨packPair first second :: packed, ?_, ?_⟩
    · rw [List.foldr_cons, List.foldr_cons, folded]
      rfl
    · have expandOne := expandByte_packPair first second
      rw [decode] at expanded ⊢
      rw [List.flatMap_cons, expandOne, expanded]
      rfl

/-- Expanding the packed form of voxels quantizes them. -/
theorem exists_encode (voxels : List UInt8) (even : voxels.length % 2 = 0) :
    ∃ packed, encode voxels = .ok packed ∧ decode packed = quantize voxels := by
  obtain ⟨packed, folded, expanded⟩ := foldr_packStep_even voxels even
  exact ⟨packed, by rw [encode, folded], expanded⟩

end VoxelStream.FourBit
