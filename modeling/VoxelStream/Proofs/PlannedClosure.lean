import VoxelStream.Proofs.PlannedRoom

/-!
# Plans for their own capacity

The capacity of a plan, as a function of the required buckets, is a closure: it is no less than what
is required, it grows with it, and a plan for the capacity of a plan is that plan again.

A larger request may need more textures, of another dimension.  All of them together still hold no
less (`voxels_choose_mono`): they hold what is required, and that is more than the fewer textures
would hold even at the largest dimension.

A plan that is enough for a larger request is the plan for it (`choose_eq_of_enough`): the larger
request needs no more textures, by monotonicity no fewer, and as many textures could only be larger.
A plan is enough for its own capacity.
-/

namespace VoxelStream

/-- A larger request needs no fewer textures of a dimension. -/
theorem exactNeed_mono {packing dimension : Nat} (packed : 0 < packing) (nonzero : 0 < dimension)
    {fewer more : UInt32} (ordered : fewer ≤ more) :
    exactNeed packing fewer.toNat dimension ≤ exactNeed packing more.toNat dimension := by
  rw [← texturesNeeded_eq_exactNeed packed nonzero, ← texturesNeeded_eq_exactNeed packed nonzero]
  exact texturesNeeded_mono packing (Nat.le_refl dimension) ordered

namespace PackingPlan

/-- A plan is no larger than another one: it has no more textures and no more room, and as many
textures are no larger. -/
structure NoLarger (plan other : PackingPlan) : Prop where
  capacity : plan.capacity ≤ other.capacity
  textureCount : plan.textureCount ≤ other.textureCount
  textureDimension : plan.textureCount = other.textureCount →
    plan.textureDimension ≤ other.textureDimension

variable {limits : Limits} (large : 4096 ≤ limits.maxTextureDimension.toNat) (byteCount : UInt32)
  (elementClass : ElementClass)

theorem textureDimension_choose_le (limits : Limits) (required : UInt32) :
    (choose limits byteCount elementClass required).textureDimension.toNat ≤
      limits.maxTextureDimension.toNat := by
  rw [toNat_textureDimension_choose]
  exact shrink_le ..

include large

/-- The count of a plan is the exact need at the largest dimension. -/
theorem textureCount_eq_exactNeed (required : UInt32) :
    (choose limits byteCount elementClass required).textureCount.toNat =
      exactNeed (VoxelStream.packingDegree byteCount elementClass).toNat required.toNat
        limits.maxTextureDimension.toNat := by
  have positive : 0 < limits.maxTextureDimension.toNat := by omega
  rw [(suffices_choose large byteCount elementClass required).textureCount,
    (isLeast_textureDimension_choose positive byteCount elementClass required).1.2]

/-- If a dimension that halving reaches needs no more textures than the plan has, the dimension of
the plan is no larger. -/
theorem textureDimension_choose_le_of_need {dimension : Nat} (required : UInt32)
    (reached : HalvesTo limits.maxTextureDimension.toNat dimension)
    (enough : exactNeed (VoxelStream.packingDegree byteCount elementClass).toNat required.toNat
        dimension ≤
      (choose limits byteCount elementClass required).textureCount.toNat) :
    (choose limits byteCount elementClass required).textureDimension.toNat ≤ dimension := by
  have positive : 0 < limits.maxTextureDimension.toNat := by omega
  have least := isLeast_textureDimension_choose positive byteCount elementClass required
  have noFewer := exactNeed_antitone (packingDegree_pos byteCount elementClass) required
    (reached.pos positive) reached.le
  rw [textureCount_eq_exactNeed large] at enough
  exact least.2 ⟨reached, Nat.le_antisymm enough noFewer⟩

variable {fewer more : UInt32} (ordered : fewer ≤ more)

section

include ordered

/-- As many textures for a larger request are no smaller. -/
theorem textureDimension_choose_mono
    (sameCount : (choose limits byteCount elementClass fewer).textureCount =
      (choose limits byteCount elementClass more).textureCount) :
    (choose limits byteCount elementClass fewer).textureDimension.toNat ≤
      (choose limits byteCount elementClass more).textureDimension.toNat := by
  have positive : 0 < limits.maxTextureDimension.toNat := by omega
  have packed := packingDegree_pos byteCount elementClass
  have reached := (isLeast_textureDimension_choose positive byteCount elementClass more).1.1
  apply textureDimension_choose_le_of_need large byteCount elementClass fewer reached
  calc
    _ ≤ exactNeed (VoxelStream.packingDegree byteCount elementClass).toNat more.toNat
          (choose limits byteCount elementClass more).textureDimension.toNat :=
      exactNeed_mono packed (reached.pos positive) ordered
    _ = (choose limits byteCount elementClass more).textureCount.toNat :=
      (suffices_choose large byteCount elementClass more).textureCount.symm
    _ = (choose limits byteCount elementClass fewer).textureCount.toNat := by rw [sameCount]

/-- All textures for a larger request together hold no less. -/
theorem voxels_choose_mono :
    (choose limits byteCount elementClass fewer).textureCount.toNat *
        voxelsPerTexture (choose limits byteCount elementClass fewer).textureDimension.toNat
          (VoxelStream.packingDegree byteCount elementClass).toNat ≤
      (choose limits byteCount elementClass more).textureCount.toNat *
        voxelsPerTexture (choose limits byteCount elementClass more).textureDimension.toNat
          (VoxelStream.packingDegree byteCount elementClass).toNat := by
  have positive : 0 < limits.maxTextureDimension.toNat := by omega
  have packed := packingDegree_pos byteCount elementClass
  have counts := textureCount_choose_mono byteCount elementClass
    (UInt32.le_refl limits.maxTextureDimension) ordered
  rcases Nat.eq_or_lt_of_le counts with sameCount | fewerTextures
  · have dimensions := textureDimension_choose_mono large byteCount elementClass ordered
      (UInt32.toNat_inj.mp sameCount)
    exact Nat.mul_le_mul counts (voxelsPerTexture_mono _ dimensions)
  · -- Even of the largest dimension, the fewer textures do not hold what is required.
    have tooFew := fewerTextures
    rw [textureCount_eq_exactNeed large byteCount elementClass more,
      exactNeed_eq_ceilDiv packed positive, ← Nat.not_le,
      ceilDiv_le_iff (voxelsPerTexture_pos packed positive), Nat.not_le, Nat.mul_comm] at tooFew
    have dimension := textureDimension_choose_pos positive byteCount elementClass more
    have room := le_mul_ceilDiv (more.toNat * bucketVoxels)
      (voxelsPerTexture_pos packed dimension)
    rw [← toNat_textureCount_choose large, Nat.mul_comm (voxelsPerTexture _ _)] at room
    calc
      _ ≤ (choose limits byteCount elementClass fewer).textureCount.toNat *
            voxelsPerTexture limits.maxTextureDimension.toNat
              (VoxelStream.packingDegree byteCount elementClass).toNat :=
        Nat.mul_le_mul_left _ (voxelsPerTexture_mono _
          (textureDimension_choose_le byteCount elementClass limits fewer))
      _ ≤ more.toNat * bucketVoxels := tooFew.le
      _ ≤ _ := room

/-- The plan for a smaller request is no larger. -/
theorem noLarger_choose :
    (choose limits byteCount elementClass fewer).NoLarger
      (choose limits byteCount elementClass more) where
  capacity := by
    rw [capacity_choose large, capacity_choose large]
    exact Nat.div_le_div_right (voxels_choose_mono large byteCount elementClass ordered)
  textureCount := UInt32.le_iff_toNat_le.mpr
    (textureCount_choose_mono byteCount elementClass (UInt32.le_refl _) ordered)
  textureDimension := fun sameCount => UInt32.le_iff_toNat_le.mpr
    (textureDimension_choose_mono large byteCount elementClass ordered sameCount)

/-- A plan that is enough for a larger request is the plan for it, too. -/
theorem choose_eq_of_enough
    (enough : exactNeed (VoxelStream.packingDegree byteCount elementClass).toNat more.toNat
        (choose limits byteCount elementClass fewer).textureDimension.toNat ≤
      (choose limits byteCount elementClass fewer).textureCount.toNat) :
    choose limits byteCount elementClass more = choose limits byteCount elementClass fewer := by
  have positive : 0 < limits.maxTextureDimension.toNat := by omega
  have packed := packingDegree_pos byteCount elementClass
  have reached := (isLeast_textureDimension_choose positive byteCount elementClass fewer).1.1
  have noFewer := textureCount_choose_mono byteCount elementClass
    (UInt32.le_refl limits.maxTextureDimension) ordered
  have noMore : (choose limits byteCount elementClass more).textureCount.toNat ≤
      (choose limits byteCount elementClass fewer).textureCount.toNat := by
    rw [textureCount_eq_exactNeed large byteCount elementClass more]
    exact (exactNeed_antitone packed more (reached.pos positive) reached.le).trans enough
  have sameCount : (choose limits byteCount elementClass fewer).textureCount =
      (choose limits byteCount elementClass more).textureCount :=
    UInt32.toNat_inj.mp (Nat.le_antisymm noFewer noMore)
  have noLarger := textureDimension_choose_le_of_need large byteCount elementClass more reached
    (enough.trans noFewer)
  have noSmaller := textureDimension_choose_mono large byteCount elementClass ordered sameCount
  have sameDimension : (choose limits byteCount elementClass fewer).textureDimension =
      (choose limits byteCount elementClass more).textureDimension :=
    UInt32.toNat_inj.mp (Nat.le_antisymm noSmaller noLarger)
  exact (PackingPlan.mk.injEq ..).mpr ⟨sameDimension.symm, sameCount.symm, rfl⟩

end

/-- Planning for the capacity of a plan leads to the same plan. -/
theorem choose_capacity (required : UInt32)
    (fits : (choose limits byteCount elementClass required).capacity < UInt32.size) :
    choose limits byteCount elementClass
        (UInt32.ofNat (choose limits byteCount elementClass required).capacity) =
      choose limits byteCount elementClass required := by
  have positive : 0 < limits.maxTextureDimension.toNat := by omega
  have word : (UInt32.ofNat (choose limits byteCount elementClass required).capacity).toNat =
      (choose limits byteCount elementClass required).capacity :=
    UInt32.toNat_ofNat_of_lt' fits
  apply choose_eq_of_enough large byteCount elementClass
  case ordered =>
    rw [UInt32.le_iff_toNat_le, word]
    exact le_capacity_choose large byteCount elementClass required
  case enough =>
    have packed := packingDegree_pos byteCount elementClass
    have dimension := textureDimension_choose_pos positive byteCount elementClass required
    rw [exactNeed_eq_ceilDiv packed dimension,
      ceilDiv_le_iff (voxelsPerTexture_pos packed dimension),
      Nat.mul_comm (voxelsPerTexture _ _), word, capacity_choose large]
    exact Nat.div_mul_le_self ..

end PackingPlan

/-- On supported limits the planned capacity is a closure of the required buckets: it is no less, it
is monotone, and planning for it leads to the same plan. -/
theorem Limits.plans_closed (limits : Limits) (supported : limits.validate = .ok ())
    (byteCount : UInt32) (elementClass : ElementClass) :
    (∀ required, required.toNat ≤
      (PackingPlan.choose limits byteCount elementClass required).capacity) ∧
    (∀ fewer more, fewer ≤ more →
      (PackingPlan.choose limits byteCount elementClass fewer).NoLarger
        (PackingPlan.choose limits byteCount elementClass more)) ∧
    ∀ required, (PackingPlan.choose limits byteCount elementClass required).capacity < UInt32.size →
      PackingPlan.choose limits byteCount elementClass
          (UInt32.ofNat (PackingPlan.choose limits byteCount elementClass required).capacity) =
        PackingPlan.choose limits byteCount elementClass required := by
  have meets := Limits.validate_eq_ok_iff.mp supported
  have large := UInt32.le_iff_toNat_le.mp (Limits.meetsMinimum_iff.mp meets).1
  refine ⟨?extensive, ?monotone, ?idempotent⟩
  case extensive =>
    intro required
    exact PackingPlan.le_capacity_choose large byteCount elementClass required
  case monotone =>
    intro fewer more ordered
    exact PackingPlan.noLarger_choose large byteCount elementClass ordered
  case idempotent =>
    intro required fits
    exact PackingPlan.choose_capacity large byteCount elementClass required fits

/-- A texture of dimension 3072 has room for 1152 buckets, and the plan for as many is the same.
The larger request needs two textures of the largest dimension. -/
theorem Limits.plans_closed_uneven :
    (⟨6144, 8⟩ : Limits).validate = .ok () ∧
      PackingPlan.choose ⟨6144, 8⟩ 1 .uint8 1000 = ⟨3072, 1, 4⟩ ∧
      (⟨3072, 1, 4⟩ : PackingPlan).NoLarger ⟨6144, 2, 4⟩ ∧
      (⟨3072, 1, 4⟩ : PackingPlan).capacity = 1152 ∧
      PackingPlan.choose ⟨6144, 8⟩ 1 .uint8 1152 = ⟨3072, 1, 4⟩ := by
  have supported : (⟨6144, 8⟩ : Limits).validate = .ok () := by decide
  have plan : PackingPlan.choose ⟨6144, 8⟩ 1 .uint8 1000 = ⟨3072, 1, 4⟩ := by decide +kernel
  have largerPlan : PackingPlan.choose ⟨6144, 8⟩ 1 .uint8 5000 = ⟨6144, 2, 4⟩ := by decide +kernel
  have room : (⟨3072, 1, 4⟩ : PackingPlan).capacity = 1152 := by decide
  obtain ⟨-, monotone, idempotent⟩ := Limits.plans_closed ⟨6144, 8⟩ supported 1 .uint8
  have smaller := monotone 1000 5000 (by decide)
  have again := idempotent 1000
  rw [plan, largerPlan] at smaller
  rw [plan, room] at again
  exact ⟨supported, plan, smaller, room, again (by decide)⟩

end VoxelStream
