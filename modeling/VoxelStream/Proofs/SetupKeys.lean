import Mathlib.Data.Nat.ModEq
import VoxelStream.Setup.WordHash

/-!
# Keys of setup inputs

Two setup inputs with equal limits and layers have equal keys only if they are equal (`key_inj`).
Their keys come from one state by adding the required capacity and then the flag.

The flag is one bit.  So equal keys leave the states before it equal up to the bit that the rotation
brings to the bottom, and in particular in their low 59 bits.  These are determined by the low 59
bits of what the odd factor was multiplied with.  Its high half is that of the rotated first state,
and its low half has the required capacity.
-/

namespace VoxelStream

namespace WordHash

/-! ## Undoing a step -/

/-- The factor is odd, so it has an inverse. -/
theorem mul_factor_inj {first second : UInt64} :
    first * factor = second * factor ↔ first = second := by
  constructor
  · intro products
    have unit : factor * 0x2040003d780970bd = 1 := by decide
    have cancelled := congrArg (· * (0x2040003d780970bd : UInt64)) products
    simpa only [UInt64.mul_assoc, unit, UInt64.mul_one] using cancelled
  · rintro rfl
    rfl

/-- For one state, different words give different results. -/
theorem add_right_inj (state : UInt64) {first second : UInt64} :
    add state first = add state second ↔ first = second := by
  rw [add, add, mul_factor_inj, UInt64.xor_right_inj]

/-! ## Low and high bits -/

theorem toNat_rotate (state : UInt64) :
    (rotate state).toNat = state.toNat % 2 ^ 59 * 2 ^ 5 + state.toNat / 2 ^ 59 := by
  have top : state.toNat / 2 ^ 59 < 2 ^ 5 := by
    have bound := state.toNat_lt
    omega
  have left : (state <<< 5).toNat = (state.toNat % 2 ^ 59) <<< 5 := by
    rw [UInt64.toNat_shiftLeft, Nat.shiftLeft_eq, Nat.shiftLeft_eq]
    have five : (5 : UInt64).toNat % 64 = 5 := rfl
    rw [five]
    omega
  have right : (state >>> 59).toNat = state.toNat / 2 ^ 59 := by
    rw [UInt64.toNat_shiftRight, Nat.shiftRight_eq_div_pow]
    rfl
  rw [rotate, UInt64.toNat_or, left, right, ← Nat.shiftLeft_add_eq_or_of_lt top, Nat.shiftLeft_eq]

/-- A word that is small does not reach the bits that a rotation moves up. -/
theorem rotate_xor_div (state word : UInt64) (small : word.toNat < 2 ^ 5) :
    (rotate state ^^^ word).toNat / 2 ^ 5 = state.toNat % 2 ^ 59 := by
  rw [UInt64.toNat_xor, Nat.xor_div_two_pow, Nat.div_eq_of_lt small, Nat.xor_zero, toNat_rotate]
  have bound := state.toNat_lt
  omega

/-- A word of 32 bits leaves the high half alone. -/
theorem xor_div_of_lt (state word : UInt64) (half : word.toNat < 2 ^ 32) :
    (state ^^^ word).toNat / 2 ^ 32 = state.toNat / 2 ^ 32 := by
  rw [UInt64.toNat_xor, Nat.xor_div_two_pow, Nat.div_eq_of_lt half, Nat.xor_zero]

/-- The low bits of a product with the factor determine those of the other number. -/
theorem mod_of_mul_factor_mod {first second : UInt64}
    (low : (first * factor).toNat % 2 ^ 59 = (second * factor).toNat % 2 ^ 59) :
    first.toNat % 2 ^ 59 = second.toNat % 2 ^ 59 := by
  have divides : 2 ^ 59 ∣ 2 ^ 64 := Nat.pow_dvd_pow 2 (by decide)
  rw [UInt64.toNat_mul, UInt64.toNat_mul, Nat.mod_mod_of_dvd _ divides,
    Nat.mod_mod_of_dvd _ divides] at low
  exact Nat.ModEq.cancel_right_of_coprime (by decide) low

/-! ## Two words -/

/-- A word of 32 bits and a small word after it are determined by their hash from one state. -/
theorem add_add_inj (state : UInt64) {first second firstSmall secondSmall : UInt64}
    (firstHalf : first.toNat < 2 ^ 32) (secondHalf : second.toNat < 2 ^ 32)
    (firstBound : firstSmall.toNat < 2 ^ 5) (secondBound : secondSmall.toNat < 2 ^ 5)
    (hashes : add (add state first) firstSmall = add (add state second) secondSmall) :
    first = second ∧ firstSmall = secondSmall := by
  have rotated : rotate (add state first) ^^^ firstSmall =
      rotate (add state second) ^^^ secondSmall := mul_factor_inj.mp hashes
  have lowStates : (add state first).toNat % 2 ^ 59 = (add state second).toNat % 2 ^ 59 := by
    rw [← rotate_xor_div _ firstSmall firstBound, rotated, rotate_xor_div _ _ secondBound]
  have low := mod_of_mul_factor_mod lowStates
  have high : (rotate state ^^^ first).toNat / 2 ^ 32 =
      (rotate state ^^^ second).toNat / 2 ^ 32 := by
    rw [xor_div_of_lt _ _ firstHalf, xor_div_of_lt _ _ secondHalf]
  -- The low 59 and the high 32 bits cover the word.
  have mixed : rotate state ^^^ first = rotate state ^^^ second := by
    apply UInt64.toNat_inj.mp
    omega
  have same : first = second := (UInt64.xor_right_inj _).mp mixed
  rw [same] at hashes
  exact ⟨same, (add_right_inj _).mp hashes⟩

end WordHash

/-! ## Keys -/

namespace SetupInputs

/-- The state before the required capacity is added. -/
def contextState (inputs : SetupInputs) : UInt64 := WordHash.ofWords 0 inputs.contextWords

theorem key_eq (inputs : SetupInputs) :
    inputs.key = WordHash.add (WordHash.add inputs.contextState inputs.required.toUInt64)
      inputs.hasSegmentation.toUInt64 := by
  rw [key, WordHash.ofWords_append]
  rfl

/-- With equal limits and layers, equal keys are those of equal inputs. -/
theorem key_inj {first second : SetupInputs} (limits : first.limits = second.limits)
    (layers : first.layers = second.layers) : first.key = second.key ↔ first = second := by
  constructor
  · intro keys
    have context : first.contextState = second.contextState := by
      rw [contextState, contextState, contextWords, contextWords, limits, layers]
    have half (number : UInt32) : number.toUInt64.toNat < 2 ^ 32 := by
      rw [UInt32.toNat_toUInt64]
      exact number.toNat_lt
    have bit (flag : Bool) : flag.toUInt64.toNat < 2 ^ 5 := by
      cases flag <;> decide
    rw [key_eq, key_eq, context] at keys
    obtain ⟨words, flags⟩ :=
      WordHash.add_add_inj _ (half _) (half _) (bit _) (bit _) keys
    have required : first.required = second.required := UInt32.toUInt64_inj.mp words
    have hasSegmentation : first.hasSegmentation = second.hasSegmentation := by
      revert flags
      cases first.hasSegmentation <;> cases second.hasSegmentation <;> decide
    obtain ⟨_, _, _, _⟩ := first
    obtain ⟨_, _, _, _⟩ := second
    cases limits
    cases layers
    cases required
    cases hasSegmentation
    rfl
  · rintro rfl
    rfl

end SetupInputs

end VoxelStream
