import VoxelStream.Proofs.TextureNeed
import Mathlib.Data.Rat.Floor
import Mathlib.Order.Bounds.Basic

/-!
# The best dimension of a plan

`shrink` looks one halving ahead and stops at the first one that costs a texture.  Nothing smaller
can make up for that, since the need never falls with the dimension.  So of all dimensions that
halving can reach, `shrink` finds the least one that needs no more than the largest
(`isLeast_shrink`).

What a plan needs is an exact quotient rounded up (`exactNeed`).  The required buckets are a 32-bit
number, so the quotient is far below the 64-bit clamp for every dimension but zero, and only the
count of the plan is clamped.  This holds below the minimum limits, too.
-/

namespace VoxelStream

/-! ## Exact quotients -/

theorem ceilDiv_eq_ceil {a b : Nat} (pos : 0 < b) : ceilDiv a b = ⌈(a : ℚ) / b⌉₊ := by
  apply eq_of_forall_ge_iff
  intro k
  have positive : (0 : ℚ) < b := Nat.cast_pos.mpr pos
  rw [ceilDiv_le_iff pos, Nat.ceil_le, div_le_iff₀ positive, Nat.mul_comm]
  norm_cast

/-- Textures of a dimension that the required buckets need: voxels by voxels per texture, rounded
up. -/
def exactNeed (packing required dimension : Nat) : Nat :=
  ⌈(required * 32768 : ℚ) / (packing * dimension ^ 2)⌉₊

section

variable {packing dimension largest : Nat} {required : UInt32}

/-- The exact need is the rounded quotient that the planner computes. -/
theorem exactNeed_eq_ceilDiv (packed : 0 < packing) (nonzero : 0 < dimension) :
    exactNeed packing required.toNat dimension =
      ceilDiv (required.toNat * bucketVoxels) (voxelsPerTexture dimension packing) := by
  rw [ceilDiv_eq_ceil (voxelsPerTexture_pos packed nonzero), exactNeed, bucketVoxels_eq,
    voxelsPerTexture, ← Nat.pow_two]
  norm_cast

/-- Only dimension zero needs as many textures as the clamp allows. -/
theorem texturesNeeded_eq_exactNeed (packed : 0 < packing) (nonzero : 0 < dimension) :
    texturesNeeded dimension packing required = exactNeed packing required.toNat dimension := by
  have positive := voxelsPerTexture_pos packed nonzero
  have few : ceilDiv (required.toNat * bucketVoxels) (voxelsPerTexture dimension packing) ≤
      required.toNat * bucketVoxels :=
    (ceilDiv_le_iff positive).mpr (Nat.le_mul_of_pos_left _ positive)
  have words := required.toNat_lt
  rw [texturesNeeded_of_pos packed nonzero, exactNeed_eq_ceilDiv packed nonzero, clamp64]
  rw [bucketVoxels_eq] at few ⊢
  rw [largest64, UInt64.size]
  omega

/-! ## Halving -/

/-- The dimensions that halving reaches: the largest over a power of two that divides it. -/
def HalvesTo (largest dimension : Nat) : Prop :=
  ∃ times, 2 ^ times ∣ largest ∧ dimension = largest / 2 ^ times

theorem HalvesTo.refl (largest : Nat) : HalvesTo largest largest :=
  ⟨0, Nat.one_dvd _, (Nat.div_one _).symm⟩

theorem HalvesTo.le (halved : HalvesTo largest dimension) : dimension ≤ largest := by
  obtain ⟨times, -, rfl⟩ := halved
  exact Nat.div_le_self ..

theorem HalvesTo.pos (halved : HalvesTo largest dimension) (nonzero : 0 < largest) :
    0 < dimension := by
  obtain ⟨times, divides, rfl⟩ := halved
  exact Nat.div_pos (Nat.le_of_dvd nonzero divides) (Nat.two_pow_pos _)

theorem HalvesTo.half (halved : HalvesTo largest dimension) (even : dimension % 2 = 0) :
    HalvesTo largest (dimension / 2) := by
  obtain ⟨times, divides, rfl⟩ := halved
  refine ⟨times + 1, ?_, ?_⟩
  · rw [Nat.pow_succ]
    exact (Nat.dvd_div_iff_mul_dvd divides).mp (Nat.dvd_of_mod_eq_zero even)
  · rw [Nat.pow_succ, Nat.div_div_eq_div_mul]

/-- Whatever half of an even dimension halves to, the dimension halves to. -/
theorem HalvesTo.of_half (even : 2 ∣ largest) (halved : HalvesTo (largest / 2) dimension) :
    HalvesTo largest dimension := by
  obtain ⟨times, divides, rfl⟩ := halved
  refine ⟨times + 1, ?_, ?_⟩
  · rw [Nat.pow_succ']
    exact (Nat.dvd_div_iff_mul_dvd even).mp divides
  · rw [Nat.pow_succ', Nat.div_div_eq_div_mul]

/-- A dimension halves to itself, and to what its half halves to if it is even. -/
theorem HalvesTo.cases_half (halved : HalvesTo largest dimension) :
    dimension = largest ∨ 2 ∣ largest ∧ HalvesTo (largest / 2) dimension := by
  obtain ⟨times, divides, rfl⟩ := halved
  cases times with
  | zero => exact .inl (Nat.div_one _)
  | succ fewer =>
    rw [Nat.pow_succ'] at divides ⊢
    have even : 2 ∣ largest := dvd_of_mul_right_dvd divides
    refine .inr ⟨even, fewer, (Nat.dvd_div_iff_mul_dvd even).mpr divides, ?_⟩
    rw [Nat.div_div_eq_div_mul]

/-- The search for a dimension only halves. -/
theorem halvesTo_shrink (need : Nat → Nat) (largest : Nat) :
    HalvesTo largest (shrink need largest) := by
  fun_induction shrink need largest with
  | case1 d taken ih => exact ih.of_half (Nat.dvd_of_mod_eq_zero taken.2.1)
  | case2 d _ => exact .refl d

/-- The search ends at the least dimension that needs no more than the largest. -/
theorem shrink_le_of_need_eq {need : Nat → Nat}
    (antitone : ∀ small large, small ≤ large → need large ≤ need small) (nonzero : 0 < largest)
    (halved : HalvesTo largest dimension) (same : need dimension = need largest) :
    shrink need largest ≤ dimension := by
  fun_induction shrink need largest with
  | case1 d taken ih =>
    rcases halved.cases_half with rfl | ⟨-, further⟩
    · exact (shrink_le ..).trans (Nat.div_le_self ..)
    · have halves : need d = need (d / 2) :=
        Nat.le_antisymm (antitone _ _ (Nat.div_le_self d 2)) taken.2.2
      exact ih (by omega) further (same.trans halves)
  | case2 d stopped =>
    rcases halved.cases_half with rfl | ⟨even, further⟩
    · exact Nat.le_refl _
    · -- The half is no smaller than the other dimension, so it would need no more either.
      have more := antitone _ _ further.le
      exact absurd ⟨by omega, Nat.mod_eq_zero_of_dvd even, same ▸ more⟩ stopped

theorem isLeast_shrink (need : Nat → Nat)
    (antitone : ∀ small large, small ≤ large → need large ≤ need small) (nonzero : 0 < largest) :
    IsLeast {dimension | HalvesTo largest dimension ∧ need dimension = need largest}
      (shrink need largest) := by
  have halves (dimension : Nat) : need dimension ≤ need (dimension / 2) :=
    antitone _ _ (Nat.div_le_self dimension 2)
  refine ⟨⟨halvesTo_shrink need largest, need_shrink need halves largest⟩, ?_⟩
  rintro dimension ⟨halved, same⟩
  exact shrink_le_of_need_eq antitone nonzero halved same

/-- A larger dimension needs no more textures. -/
theorem exactNeed_antitone (packed : 0 < packing) (required : UInt32) {small large : Nat}
    (nonzero : 0 < small) (larger : small ≤ large) :
    exactNeed packing required.toNat large ≤ exactNeed packing required.toNat small := by
  rw [← texturesNeeded_eq_exactNeed packed (nonzero.trans_le larger),
    ← texturesNeeded_eq_exactNeed packed nonzero]
  exact texturesNeeded_mono packing larger (UInt32.le_refl required)

end

/-! ## Plans -/

namespace PackingPlan

/-- A plan has the best dimension for the required buckets: none needs fewer textures, and no
smaller one that halving reaches needs as few. -/
structure Optimal (plan : PackingPlan) (packing largest required : Nat) : Prop where
  packingDegree : plan.packingDegree.toNat = packing
  textureDimension : IsLeast
    {dimension | HalvesTo largest dimension ∧
      exactNeed packing required dimension = exactNeed packing required largest}
    plan.textureDimension.toNat
  textureCount : plan.textureCount.toNat = min (exactNeed packing required largest) (2 ^ 32 - 1)
  smaller_needs_more : ∀ dimension, HalvesTo largest dimension →
    dimension < plan.textureDimension.toNat →
    exactNeed packing required plan.textureDimension.toNat < exactNeed packing required dimension
  none_needs_fewer : ∀ dimension, 0 < dimension → dimension ≤ largest →
    exactNeed packing required plan.textureDimension.toNat ≤ exactNeed packing required dimension

section

variable {limits : Limits} (nonzero : 0 < limits.maxTextureDimension.toNat) (byteCount : UInt32)
  (elementClass : ElementClass) (required : UInt32)

include nonzero

/-- The dimension of a plan is the least that halving reaches with the need of the largest one. -/
theorem isLeast_textureDimension_choose :
    IsLeast
      {dimension | HalvesTo limits.maxTextureDimension.toNat dimension ∧
        exactNeed (VoxelStream.packingDegree byteCount elementClass).toNat required.toNat
            dimension =
          exactNeed (VoxelStream.packingDegree byteCount elementClass).toNat required.toNat
            limits.maxTextureDimension.toNat}
      (choose limits byteCount elementClass required).textureDimension.toNat := by
  have packed := packingDegree_pos byteCount elementClass
  rw [toNat_textureDimension_choose]
  generalize (VoxelStream.packingDegree byteCount elementClass).toNat = packing at packed ⊢
  have found := isLeast_shrink (texturesNeeded · packing required)
    (fun small large larger => texturesNeeded_mono packing larger (UInt32.le_refl required))
    nonzero
  convert found using 3 with dimension
  refine and_congr_right fun halved => ?_
  rw [texturesNeeded_eq_exactNeed packed (halved.pos nonzero),
    texturesNeeded_eq_exactNeed packed nonzero]

/-- A smaller dimension on the way of the halving needs more textures. -/
theorem exactNeed_choose_lt {dimension : Nat}
    (halved : HalvesTo limits.maxTextureDimension.toNat dimension)
    (smaller :
      dimension < (choose limits byteCount elementClass required).textureDimension.toNat) :
    exactNeed (VoxelStream.packingDegree byteCount elementClass).toNat required.toNat
        (choose limits byteCount elementClass required).textureDimension.toNat <
      exactNeed (VoxelStream.packingDegree byteCount elementClass).toNat required.toNat
        dimension := by
  have least := isLeast_textureDimension_choose nonzero byteCount elementClass required
  have noFewer := exactNeed_antitone (packingDegree_pos byteCount elementClass) required
    (halved.pos nonzero) smaller.le
  refine noFewer.lt_of_ne fun equal => ?_
  have bound := least.2 ⟨halved, equal.symm.trans least.1.2⟩
  exact absurd bound (Nat.not_le_of_lt smaller)

end

/-- The search for a dimension may look at the next half only, and still finds the best one. -/
theorem choose_optimal (limits : Limits) (nonzero : 0 < limits.maxTextureDimension)
    (byteCount : UInt32) (elementClass : ElementClass) (required : UInt32) :
    (choose limits byteCount elementClass required).Optimal
      (VoxelStream.packingDegree byteCount elementClass).toNat
      limits.maxTextureDimension.toNat required.toNat := by
  have packed := packingDegree_pos byteCount elementClass
  have positive : 0 < limits.maxTextureDimension.toNat := UInt32.lt_iff_toNat_lt.mp nonzero
  have least := isLeast_textureDimension_choose positive byteCount elementClass required
  refine ⟨rfl, least, ?count, ?smaller, ?fewer⟩
  case count =>
    rw [textureCount_choose, toNat_clamp32, texturesNeeded_eq_exactNeed packed positive]
    rfl
  case smaller =>
    intro dimension halved smaller
    exact exactNeed_choose_lt positive byteCount elementClass required halved smaller
  case fewer =>
    intro dimension pos bounded
    rw [least.1.2]
    exact exactNeed_antitone packed required pos bounded

/-- A dimension far below the minimum limits, which may be halved seven times.  One bucket fits into
one texture after two halvings, and not after three. -/
theorem choose_optimal_small :
    (0 : UInt32) < 640 ∧ choose ⟨640, 1⟩ 1 .uint8 1 = ⟨160, 1, 4⟩ ∧
      (⟨160, 1, 4⟩ : PackingPlan).Optimal 4 640 1 ∧ exactNeed 4 1 160 < exactNeed 4 1 80 := by
  have plan : choose ⟨640, 1⟩ 1 .uint8 1 = ⟨160, 1, 4⟩ := by decide +kernel
  have optimal := choose_optimal ⟨640, 1⟩ (by decide) 1 .uint8 1
  rw [plan] at optimal
  exact ⟨by decide, plan, optimal, optimal.smaller_needs_more 80 ⟨3, by decide⟩ (by decide)⟩

end PackingPlan

end VoxelStream
