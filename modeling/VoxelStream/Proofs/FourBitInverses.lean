import VoxelStream.Proofs.FourBitQuantization
import VoxelStream.Proofs.Outcomes

/-!
# Packing and expanding as inverses

Packing undoes expanding (`encode_decode`).  Expanding undoes packing on voxels whose low halves are
clear, and on all others it clears them.

Packing looks at one voxel at a time, and a voxel waits for its partner.  All that is ever said of
it here comes from two facts.  A voxel more turns waiting into not waiting and back, so packing
fails exactly on an odd number (`encode_eq_error_iff`).  A pair of voxels in front is one packed
byte in front (`encode_pair_iff`), so packing goes pair by pair, and part by part where the parts
are even.
-/

namespace VoxelStream.FourBit

variable {voxels packed : List UInt8} {first second : UInt8}

/-! ## One voxel more -/

/-- Every voxel opens a pair or closes one. -/
theorem isSome_packStep (voxel : UInt8) (state : Option UInt8 × List UInt8) :
    (packStep voxel state).1.isSome = !state.1.isSome := by
  obtain ⟨_ | waiting, written⟩ := state <;> rfl

/-- A voxel waits after an odd number of them. -/
theorem isSome_foldr_packStep (voxels : List UInt8) :
    (voxels.foldr packStep (none, [])).1.isSome = decide (voxels.length % 2 = 1) := by
  induction voxels with
  | nil => rfl
  | cons voxel rest ih =>
    rw [List.foldr_cons, isSome_packStep, ih, List.length_cons, ← decide_not, decide_eq_decide]
    omega

theorem encode_eq_ok_iff :
    encode voxels = .ok packed ↔ voxels.foldr packStep (none, []) = (none, packed) := by
  rw [encode]
  rcases voxels.foldr packStep (none, []) with ⟨_ | waiting, written⟩
  · simp
  · simp

/-- Packing fails exactly on an odd number of voxels, and the error names the number. -/
theorem encode_eq_error_iff {error : WorkerError} :
    encode voxels = .error error ↔
      voxels.length % 2 = 1 ∧ error =
        .invalidInput s!"four-bit packing needs an even voxel count, got {voxels.length}" := by
  have odd := isSome_foldr_packStep voxels
  rw [encode]
  generalize voxels.foldr packStep (none, []) = state at odd ⊢
  obtain ⟨_ | waiting, written⟩ := state
  · have even : ¬ voxels.length % 2 = 1 := of_decide_eq_false odd.symm
    simp [even]
  · have odd : voxels.length % 2 = 1 := of_decide_eq_true odd.symm
    simp [odd, eq_comm]

/-! ## One pair more -/

/-- A pair of voxels in front is one packed byte in front. -/
theorem encode_pair_iff :
    encode (first :: second :: voxels) = .ok packed ↔
      ∃ rest, encode voxels = .ok rest ∧ packed = packPair first second :: rest := by
  simp only [encode_eq_ok_iff, List.foldr_cons]
  rcases voxels.foldr packStep (none, []) with ⟨_ | waiting, written⟩
  · simp [packStep, eq_comm]
  · simp [packStep]

/-- Packed parts in a row are the parts in a row packed. -/
theorem encode_append {later packedLater : List UInt8}
    (packsLater : encode later = .ok packedLater) :
    ∀ {voxels packed : List UInt8}, encode voxels = .ok packed →
      encode (voxels ++ later) = .ok (packed ++ packedLater)
  | [], _, packs => by
    cases packs
    exact packsLater
  | [_], _, packs => by cases packs
  | first :: second :: voxels, _, packs => by
    obtain ⟨rest, packsRest, rfl⟩ := encode_pair_iff.mp packs
    exact encode_pair_iff.mpr ⟨_, encode_append packsLater packsRest, rfl⟩

/-- Parts of even length are packed one by one. -/
theorem encode_flatten {parts packedParts : List (List UInt8)}
    (packs : List.Forall₂ (fun part packed => encode part = .ok packed) parts packedParts) :
    encode parts.flatten = .ok packedParts.flatten := by
  induction packs with
  | nil => rfl
  | cons packsFirst _ ih => exact encode_append ih packsFirst

/-! ## Packing what was expanded -/

/-- The two voxels of a byte are packed into this byte. -/
theorem packPair_expandByte (byte : UInt8) :
    packPair (byte &&& (0xf0 : UInt8)) (byte <<< (4 : UInt8)) = byte := by
  have small := byte.toNat_lt
  have shifted : (byte <<< (4 : UInt8)).toNat = byte.toNat * 16 % 256 := by
    rw [UInt8.toNat_shiftLeft]
    exact congrArg (· % 256) (Nat.shiftLeft_eq byte.toNat 4)
  apply UInt8.toNat.inj
  rw [toNat_packPair, toNat_high, shifted]
  omega

/-- Packing undoes expanding. -/
theorem encode_decode (packed : List UInt8) : encode (decode packed) = .ok packed := by
  induction packed with
  | nil => rfl
  | cons byte rest ih =>
    rw [decode_cons]
    exact encode_pair_iff.mpr ⟨rest, ih, by rw [packPair_expandByte]⟩

/-! ## Clear low halves -/

/-- The low half of a voxel is zero. -/
def LowClear (voxel : UInt8) : Prop := voxel.toNat % 16 = 0

theorem high_eq_self_iff {voxel : UInt8} : voxel &&& (0xf0 : UInt8) = voxel ↔ LowClear voxel := by
  rw [← UInt8.toNat_inj, toNat_high, LowClear]
  omega

/-- Quantizing changes nothing exactly if all low halves are clear. -/
theorem quantize_eq_self_iff : quantize voxels = voxels ↔ ∀ voxel ∈ voxels, LowClear voxel := by
  have pointwise := List.map_inj_left (f := fun voxel => voxel &&& (0xf0 : UInt8)) (g := id)
    (l := voxels)
  rw [List.map_id] at pointwise
  exact pointwise.trans (forall₂_congr fun _ _ => high_eq_self_iff)

theorem lowClear_of_mem_decode {voxel : UInt8} (member : voxel ∈ decode packed) :
    LowClear voxel := by
  obtain ⟨byte, -, expanded⟩ := List.mem_flatMap.mp member
  rw [expandByte, List.mem_pair] at expanded
  obtain rfl | rfl := expanded
  · rw [LowClear, toNat_high]
    omega
  · rw [LowClear, UInt8.toNat_shiftLeft]
    show (_ <<< 4) % 256 % 16 = 0
    rw [Nat.shiftLeft_eq]
    omega

/-! ## Both directions -/

/-- Packing undoes expanding, and expanding undoes packing up to the low halves of the voxels.  Only
an odd number of voxels cannot be packed.  Both go part by part. -/
theorem packing_inverts_expanding :
    (∀ packed, encode (decode packed) = .ok packed ∧
      (decode packed).length = 2 * packed.length ∧
      ∀ voxel ∈ decode packed, LowClear voxel) ∧
    (∀ voxels error, encode voxels = .error error ↔
      voxels.length % 2 = 1 ∧ error =
        .invalidInput s!"four-bit packing needs an even voxel count, got {voxels.length}") ∧
    (∀ reason, (WorkerError.invalidInput reason).message = s!"Invalid codec input: {reason}") ∧
    (∀ voxels, voxels.length % 2 = 0 →
      ∃ packed, encode voxels = .ok packed ∧ decode packed = voxels.map (· &&& 0xf0) ∧
        (decode packed = voxels ↔ ∀ voxel ∈ voxels, LowClear voxel)) ∧
    (∀ parts : List (List UInt8), decode parts.flatten = (parts.map decode).flatten) ∧
    ∀ parts : List (List UInt8), (∀ part ∈ parts, part.length % 2 = 0) →
      ∃ packedParts,
        List.Forall₂ (fun part packed => encode part = .ok packed) parts packedParts ∧
        encode parts.flatten = .ok packedParts.flatten := by
  refine ⟨?expanded, fun _ _ => encode_eq_error_iff, fun _ => rfl, ?packed, ?expandedParts,
    ?packedParts⟩
  case expanded =>
    intro packed
    exact ⟨encode_decode packed, length_decode packed, fun _ => lowClear_of_mem_decode⟩
  case packed =>
    intro voxels even
    obtain ⟨packed, packs, expands⟩ := exists_encode voxels even
    refine ⟨packed, packs, expands, ?_⟩
    rw [expands, quantize_eq_self_iff]
  case expandedParts =>
    intro parts
    induction parts with
    | nil => rfl
    | cons part rest ih =>
      rw [List.flatten_cons, decode_append, ih, List.map_cons, List.flatten_cons]
  case packedParts =>
    intro parts even
    obtain ⟨packedParts, packs⟩ := exists_values fun part member =>
      (exists_encode part (even part member)).imp fun _ => And.left
    exact ⟨packedParts, packs, encode_flatten packs⟩

/-- Two voxels with low halves lose them, three voxels cannot be packed, and the pair of a part
stays in that part. -/
theorem packing_inverts_expanding_pair :
    ([0xab, 0xcd] : List UInt8).length % 2 = 0 ∧ encode [0xab, 0xcd] = .ok [0xac] ∧
      decode [0xac] = [0xa0, 0xc0] ∧ encode (decode [0xac]) = .ok [0xac] ∧
      encode [0xab, 0xcd, 0xef] =
        .error (.invalidInput "four-bit packing needs an even voxel count, got 3") ∧
      encode [0xab, 0xcd, 0x12, 0x34] = .ok [0xac, 0x13] := by
  obtain ⟨expanded, odd, -, packed, -, parts⟩ := packing_inverts_expanding
  have even : ([0xab, 0xcd] : List UInt8).length % 2 = 0 := by decide
  have pair : encode [0xab, 0xcd] = .ok [0xac] := by decide
  have nextPair : encode [0x12, 0x34] = .ok [0x13] := by decide
  obtain ⟨_, packs, expands, -⟩ := packed [0xab, 0xcd] even
  obtain ⟨_, packsParts, whole⟩ := parts [[0xab, 0xcd], [0x12, 0x34]] (by decide)
  obtain _ | ⟨packsPair, _ | ⟨packsNext, ⟨⟩⟩⟩ := packsParts
  rw [pair, Except.ok.injEq] at packs packsPair
  rw [nextPair, Except.ok.injEq] at packsNext
  subst packs packsPair packsNext
  exact ⟨even, pair, expands, (expanded [0xac]).1, (odd _ _).mpr ⟨by decide, rfl⟩, whole⟩

end VoxelStream.FourBit
