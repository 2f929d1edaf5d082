import VoxelStream.Proofs.PackingOptimality
import VoxelStream.Proofs.SetupAggregation

/-!
# Room for what is required

Supported limits leave room for the required buckets in every plan, and the plan wastes little of it
(`PackingPlan.Suffices`).  Both roundings are bounded: rounding up to whole textures costs less than
one texture, and rounding down to whole buckets never goes below what is required.  The numbers are
far from the clamps.

If the chosen dimension is even, its half needs more textures.  Four textures of the half hold one
of the chosen dimension, so the room is less than four times what is required.  An odd dimension was
not halved for want of textures, and a single one of its textures may be much too large.
-/

namespace VoxelStream

namespace PackingPlan

/-- A plan has room for the required buckets and less than one texture to spare. -/
structure Suffices (plan : PackingPlan) (packing required : Nat) : Prop where
  packingDegree : plan.packingDegree.toNat = packing
  /-- The count is the exact one, not the largest 32-bit number for want of a larger. -/
  textureCount : plan.textureCount.toNat = exactNeed packing required plan.textureDimension.toNat
  /-- The capacity is the exact one, too. -/
  capacity : plan.capacity =
    plan.textureCount.toNat * (packing * plan.textureDimension.toNat ^ 2) / 32768
  required_le : required ≤ plan.capacity
  capacity_mul_lt :
    plan.capacity * 32768 < required * 32768 + packing * plan.textureDimension.toNat ^ 2
  capacity_lt_of_even : plan.textureDimension.toNat % 2 = 0 → plan.capacity < 4 * required

/-! ## Bounds -/

/-- A texture of 32-bit dimension holds at most `2 ^ 66` voxels. -/
theorem voxelsPerTexture_le (byteCount : UInt32) (elementClass : ElementClass)
    (dimension : UInt32) :
    voxelsPerTexture dimension.toNat (VoxelStream.packingDegree byteCount elementClass).toNat ≤
      4 * (UInt32.size * UInt32.size) := by
  have side : dimension.toNat ≤ UInt32.size := dimension.toNat_lt.le
  exact Nat.mul_le_mul (packingDegree_le byteCount elementClass) (Nat.mul_le_mul side side)

variable {limits : Limits} (large : 4096 ≤ limits.maxTextureDimension.toNat) (byteCount : UInt32)
  (elementClass : ElementClass) (required : UInt32)

include large

/-- All textures together hold less than one texture more than is required. -/
theorem voxels_choose_lt :
    (choose limits byteCount elementClass required).textureCount.toNat *
        voxelsPerTexture (choose limits byteCount elementClass required).textureDimension.toNat
          (VoxelStream.packingDegree byteCount elementClass).toNat <
      required.toNat * bucketVoxels +
        voxelsPerTexture (choose limits byteCount elementClass required).textureDimension.toNat
          (VoxelStream.packingDegree byteCount elementClass).toNat := by
  have nonzero := textureDimension_choose_pos (Nat.lt_of_lt_of_le (by decide) large) byteCount
    elementClass required
  rw [toNat_textureCount_choose large]
  exact ceilDiv_mul_lt _ (voxelsPerTexture_pos (packingDegree_pos byteCount elementClass) nonzero)

/-- The capacity of a plan is the exact one. -/
theorem capacity_choose :
    (choose limits byteCount elementClass required).capacity =
      (choose limits byteCount elementClass required).textureCount.toNat *
        voxelsPerTexture (choose limits byteCount elementClass required).textureDimension.toNat
          (VoxelStream.packingDegree byteCount elementClass).toNat / bucketVoxels := by
  have voxels := voxels_choose_lt large byteCount elementClass required
  have texture := voxelsPerTexture_le byteCount elementClass
    (choose limits byteCount elementClass required).textureDimension
  have words := required.toNat_lt
  have degree : (choose limits byteCount elementClass required).packingDegree =
      VoxelStream.packingDegree byteCount elementClass := rfl
  rw [capacity, bucketCapacity, degree, clamp64, largest64, UInt64.size]
  rw [UInt32.size] at texture
  rw [bucketVoxels_eq] at voxels ⊢
  omega

/-- An even dimension leaves less than four times the room that is required. -/
theorem capacity_choose_lt_of_even
    (even : (choose limits byteCount elementClass required).textureDimension.toNat % 2 = 0) :
    (choose limits byteCount elementClass required).capacity < 4 * required.toNat := by
  have positive : 0 < limits.maxTextureDimension.toNat := by omega
  have packed := packingDegree_pos byteCount elementClass
  have nonzero := textureDimension_choose_pos positive byteCount elementClass required
  have halfNonzero :
      0 < (choose limits byteCount elementClass required).textureDimension.toNat / 2 := by omega
  have reached := (isLeast_textureDimension_choose positive byteCount elementClass required).1.1
  have more := exactNeed_choose_lt positive byteCount elementClass required (reached.half even)
    (Nat.div_lt_self nonzero (by decide))
  rw [exactNeed_eq_ceilDiv packed nonzero, exactNeed_eq_ceilDiv packed halfNonzero,
    ← toNat_textureCount_choose large, ← Nat.not_le,
    ceilDiv_le_iff (voxelsPerTexture_pos packed halfNonzero), Nat.not_le, Nat.mul_comm] at more
  rw [capacity_choose large, Nat.div_lt_iff_lt_mul (by decide), voxelsPerTexture_half even,
    Nat.mul_left_comm, Nat.mul_assoc]
  exact Nat.mul_lt_mul_of_pos_left more (by decide)

/-- Above the minimum dimension a plan suffices. -/
theorem suffices_choose :
    (choose limits byteCount elementClass required).Suffices
      (VoxelStream.packingDegree byteCount elementClass).toNat required.toNat := by
  have packed := packingDegree_pos byteCount elementClass
  have nonzero := textureDimension_choose_pos (Nat.lt_of_lt_of_le (by decide) large) byteCount
    elementClass required
  have exact := capacity_choose large byteCount elementClass required
  have voxels := voxels_choose_lt large byteCount elementClass required
  rw [voxelsPerTexture, ← Nat.pow_two, bucketVoxels_eq] at exact voxels
  refine ⟨rfl, ?count, exact, le_capacity_choose large byteCount elementClass required, ?waste,
    capacity_choose_lt_of_even large byteCount elementClass required⟩
  case count => rw [toNat_textureCount_choose large, exactNeed_eq_ceilDiv packed nonzero]
  case waste =>
    rw [exact]
    exact (Nat.div_mul_le_self ..).trans_lt voxels

end PackingPlan

/-! ## Supported limits -/

theorem Limits.validate_eq_ok_iff {limits : Limits} :
    limits.validate = .ok () ↔ limits.meetsMinimum = true := by
  rw [validate]
  cases limits.meetsMinimum <;> simp

/-- Supported limits leave room for the required buckets in the plan of every layer, with bounded
waste, and so in every setup with a layer. -/
theorem Limits.plans_suffice (limits : Limits) (supported : limits.validate = .ok ())
    (required : UInt32) :
    (∀ byteCount elementClass,
      (PackingPlan.choose limits byteCount elementClass required).Suffices
        (packingDegree byteCount elementClass).toNat required.toNat) ∧
    ∀ (layers : List Layer) (hasSegmentation : Bool), layers ≠ [] →
      ∃ setup, SetupInputs.plan ⟨limits, layers, required, hasSegmentation⟩ = .ok setup ∧
        required.toNat ≤ setup.sharedCapacity := by
  have meets := Limits.validate_eq_ok_iff.mp supported
  have large := UInt32.le_iff_toNat_le.mp (Limits.meetsMinimum_iff.mp meets).1
  refine ⟨fun byteCount elementClass =>
    PackingPlan.suffices_choose large byteCount elementClass required, ?_⟩
  intro layers hasSegmentation someLayer
  refine ⟨_, SetupInputs.plan_of_meetsMinimum meets, ?_⟩
  have someEntry : (SetupInputs.mk limits layers required hasSegmentation).table ≠ [] :=
    fun noEntry => someLayer (SetupInputs.table_eq_nil_iff.mp noEntry)
  obtain ⟨entry, member, least⟩ := PlanTable.exists_capacity_eq someEntry
  obtain ⟨layer, -, rfl⟩ := PlanTable.exists_layer_of_mem_ofLayers member
  rw [SetupInputs.setup, ← least]
  exact PackingPlan.le_capacity_choose large layer.byteCount layer.elementClass required

/-- Half of 6144 would need three textures, so one texture has room for half as much again. -/
theorem Limits.plans_suffice_uneven :
    (⟨6144, 8⟩ : Limits).validate = .ok () ∧
      PackingPlan.choose ⟨6144, 8⟩ 1 .uint8 3000 = ⟨6144, 1, 4⟩ ∧
      (⟨6144, 1, 4⟩ : PackingPlan).Suffices 4 3000 ∧
      ∃ setup, SetupInputs.plan ⟨⟨6144, 8⟩, [.color "a" .uint8], 3000, false⟩ = .ok setup ∧
        3000 ≤ setup.sharedCapacity := by
  have supported : (⟨6144, 8⟩ : Limits).validate = .ok () := by decide
  have plan : PackingPlan.choose ⟨6144, 8⟩ 1 .uint8 3000 = ⟨6144, 1, 4⟩ := by decide +kernel
  obtain ⟨plans, setups⟩ := Limits.plans_suffice ⟨6144, 8⟩ supported 3000
  refine ⟨supported, plan, plan ▸ plans 1 .uint8, setups [.color "a" .uint8] false nofun⟩

end VoxelStream
