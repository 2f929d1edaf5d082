import VoxelStream.Proofs.PlanTables
import VoxelStream.Proofs.TextureNeed

/-!
# What a setup says of its layers

Planning fails exactly below the minimum limits.  Above them a setup *aggregates* its inputs
(`TextureSetup.Aggregates`): its table has one plan per name, that of the last layer of the name,
and slots, features and shared capacity are sums, comparisons and minima over the table.  If no name
is repeated, the order of the layers does not matter (`plan_aggregates`).

The facts about the table are those of `PlanTables`.  What planning adds is that the minimum limits
leave room for the required buckets in every plan, so the shared capacity is zero only if there are
no layers or nothing is required.
-/

namespace VoxelStream

/-- The minimum is a dimension of 4096 and eight textures at a time. -/
theorem Limits.meetsMinimum_iff {limits : Limits} :
    limits.meetsMinimum = true ↔
      4096 ≤ limits.maxTextureDimension ∧ 8 ≤ limits.maxBoundTextures := by
  rw [meetsMinimum, Bool.and_eq_true, decide_eq_true_iff, decide_eq_true_iff]
  rfl

/-- A setup says of the layers of its inputs what they need together. -/
structure TextureSetup.Aggregates (setup : TextureSetup) (inputs : SetupInputs) : Prop where
  /-- No name has two plans. -/
  ordered : setup.plans.Ordered
  /-- The names with a plan are those of the layers. -/
  names : ∀ name, name ∈ setup.plans.names ↔ name ∈ inputs.layers.map Layer.name
  /-- The last layer of a name has its plan there. -/
  plans : ∀ earlier layer later, inputs.layers = earlier ++ layer :: later →
    (∀ follower ∈ later, follower.name ≠ layer.name) →
    setup.plans.plan? layer.name = some (layer.packing inputs.limits inputs.required)
  slots : setup.slots = (inputs.layers.map Layer.name).dedup.length +
    (setup.plans.map fun entry => entry.2.textureCount.toNat).sum
  slots_of_distinct : (inputs.layers.map Layer.name).Nodup →
    setup.slots = inputs.layers.length + (inputs.layers.map fun layer =>
      (layer.packing inputs.limits inputs.required).textureCount.toNat).sum
  basicRendering : setup.features.basicRendering = true ↔
    setup.slots ≤ inputs.limits.maxBoundTextures.toNat
  idMapping : setup.features.idMapping = true ↔
    inputs.hasSegmentation = false ∨ setup.slots + 3 ≤ inputs.limits.maxBoundTextures.toNat
  /-- No plan has less than the shared capacity. -/
  sharedCapacity_le : ∀ entry ∈ setup.plans, setup.sharedCapacity ≤ entry.2.capacity
  /-- Some plan has no more. -/
  sharedCapacity_attained : inputs.layers ≠ [] →
    ∃ entry ∈ setup.plans, entry.2.capacity = setup.sharedCapacity
  sharedCapacity_eq_zero : setup.sharedCapacity = 0 ↔ inputs.layers = [] ∨ inputs.required = 0

namespace SetupInputs

variable {inputs : SetupInputs}

/-! ## Success and failure -/

/-- The setup that planning makes of supported limits. -/
def setup (inputs : SetupInputs) : TextureSetup :=
  { plans := inputs.table
    features := inputs.features
    sharedCapacity := inputs.table.sharedCapacity }

theorem plan_of_meetsMinimum (supported : inputs.limits.meetsMinimum = true) :
    inputs.plan = .ok inputs.setup := by
  rw [plan, Limits.validate, if_pos supported]
  rfl

theorem plan_of_not_meetsMinimum (unsupported : ¬inputs.limits.meetsMinimum = true) :
    inputs.plan = .error (.unsupportedHardware inputs.limits) := by
  rw [plan, Limits.validate, if_neg unsupported]

/-- Planning succeeds exactly on hardware that meets the minimum. -/
theorem plan_eq_ok_iff {setup : TextureSetup} :
    inputs.plan = .ok setup ↔ inputs.limits.meetsMinimum = true ∧ inputs.setup = setup := by
  by_cases supported : inputs.limits.meetsMinimum = true
  · simp [plan_of_meetsMinimum supported, supported]
  · simp [plan_of_not_meetsMinimum supported, supported]

/-- It is refused exactly on hardware that misses the minimum, with the limits of this hardware. -/
theorem plan_eq_error_iff {error : PlannerError} :
    inputs.plan = .error error ↔
      (inputs.limits.maxTextureDimension < 4096 ∨ inputs.limits.maxBoundTextures < 8) ∧
        error = .unsupportedHardware inputs.limits := by
  have below : (inputs.limits.maxTextureDimension < 4096 ∨ inputs.limits.maxBoundTextures < 8) ↔
      ¬inputs.limits.meetsMinimum = true := by
    rw [Limits.meetsMinimum_iff, Decidable.not_and_iff_or_not, UInt32.not_le, UInt32.not_le]
  rw [below]
  by_cases supported : inputs.limits.meetsMinimum = true
  · simp [plan_of_meetsMinimum supported, supported]
  · simp [plan_of_not_meetsMinimum supported, supported, eq_comm]

/-! ## Tables -/

theorem table_eq_nil_iff : inputs.table = [] ↔ inputs.layers = [] := by
  rw [← List.length_eq_zero_iff, table, PlanTable.length_ofLayers, List.length_eq_zero_iff,
    List.dedup_eq_nil, List.map_eq_nil_iff]

/-- Above the minimum dimension a layer has no room only if none is required. -/
theorem sharedCapacity_eq_zero_iff (large : 4096 ≤ inputs.limits.maxTextureDimension.toNat) :
    inputs.table.sharedCapacity = 0 ↔ inputs.layers = [] ∨ inputs.required = 0 := by
  by_cases nonempty : inputs.table = []
  · simp [nonempty, table_eq_nil_iff.mp nonempty, PlanTable.sharedCapacity]
  · obtain ⟨entry, member, least⟩ := PlanTable.exists_capacity_eq nonempty
    obtain ⟨layer, -, rfl⟩ := PlanTable.exists_layer_of_mem_ofLayers member
    have someLayer : inputs.layers ≠ [] := fun noLayer => nonempty (table_eq_nil_iff.mpr noLayer)
    rw [← least, or_iff_right someLayer]
    constructor
    · intro noRoom
      have room := PackingPlan.le_capacity_choose large layer.byteCount layer.elementClass
        inputs.required
      rw [← UInt32.toNat_inj]
      exact Nat.le_zero.mp (noRoom ▸ room)
    · intro nothing
      rw [nothing]
      exact PackingPlan.capacity_choose_zero large layer.byteCount layer.elementClass

/-- The setup of supported limits says of the layers what they need together. -/
theorem aggregates_setup (large : 4096 ≤ inputs.limits.maxTextureDimension) :
    inputs.setup.Aggregates inputs where
  ordered := PlanTable.ordered_ofLayers ..
  names _ := PlanTable.mem_names_ofLayers
  plans earlier layer later layers last := by
    rw [setup, table, layers]
    exact PlanTable.plan?_ofLayers last
  slots := by
    rw [TextureSetup.slots, PlanTable.slots_eq, setup, table, PlanTable.length_ofLayers]
  slots_of_distinct distinct := by
    rw [TextureSetup.slots, setup, table, PlanTable.slots_perm (PlanTable.ofLayers_perm distinct),
      PlanTable.slots_eq, List.length_map, List.map_map]
    rfl
  basicRendering := decide_eq_true_iff
  idMapping := by
    rw [setup, features, FeatureSupport.ofTable, Bool.or_eq_true, Bool.not_eq_true',
      decide_eq_true_iff, mappingTextures]
    rfl
  sharedCapacity_le _ := PlanTable.sharedCapacity_le
  sharedCapacity_attained someLayer :=
    PlanTable.exists_capacity_eq fun noPlan => someLayer (table_eq_nil_iff.mp noPlan)
  sharedCapacity_eq_zero := sharedCapacity_eq_zero_iff (UInt32.le_iff_toNat_le.mp large)

/-- The setup depends on the order of the layers only through repeated names. -/
theorem setup_eq_of_perm {rearranged : List Layer}
    (distinct : (inputs.layers.map Layer.name).Nodup) (perm : rearranged.Perm inputs.layers) :
    ({ inputs with layers := rearranged } : SetupInputs).setup = inputs.setup := by
  have tables : ({ inputs with layers := rearranged } : SetupInputs).table = inputs.table :=
    PlanTable.ofLayers_eq_of_perm distinct perm
  rw [setup, setup, features, features, tables]

/-! ## Planning -/

/-- Planning refuses exactly the limits below the minimum.  Any others get a setup that aggregates
the layers, in whatever order they come. -/
theorem plan_aggregates (inputs : SetupInputs) :
    (∀ error, inputs.plan = .error error ↔
      (inputs.limits.maxTextureDimension < 4096 ∨ inputs.limits.maxBoundTextures < 8) ∧
        error = .unsupportedHardware inputs.limits) ∧
    (4096 ≤ inputs.limits.maxTextureDimension → 8 ≤ inputs.limits.maxBoundTextures →
      ∃ setup, inputs.plan = .ok setup ∧ setup.Aggregates inputs) ∧
    ((inputs.layers.map Layer.name).Nodup → ∀ rearranged : List Layer,
      rearranged.Perm inputs.layers →
        ({ inputs with layers := rearranged } : SetupInputs).plan = inputs.plan) := by
  refine ⟨fun error => plan_eq_error_iff, ?_, ?_⟩
  · intro dimension textures
    have supported := Limits.meetsMinimum_iff.mpr ⟨dimension, textures⟩
    exact ⟨inputs.setup, plan_of_meetsMinimum supported, aggregates_setup dimension⟩
  · intro distinct rearranged perm
    have same := setup_eq_of_perm distinct perm
    by_cases supported : inputs.limits.meetsMinimum = true
    · rw [plan_of_meetsMinimum supported, ← same]
      exact plan_of_meetsMinimum supported
    · rw [plan_of_not_meetsMinimum supported]
      exact plan_of_not_meetsMinimum supported

/-- Two layers have the name `a`, and the textures fill all slots of the minimum limits. -/
def crowdedInputs : SetupInputs :=
  { limits := ⟨4096, 8⟩
    layers := [.color "a" .uint8, .color "b" .uint16, .color "a" .uint32]
    required := 2048
    hasSegmentation := true }

/-- The later layer `a` is planned, rendering just fits, and mapping does not.  Limits of one texel
less are refused.  The two layers of different names may come in any order. -/
theorem plan_crowded :
    (∃ setup, crowdedInputs.plan = .ok setup ∧
      setup.plans.plan? "a" = some ⟨4096, 4, 1⟩ ∧ setup.slots = 8 ∧
      setup.features.basicRendering = true ∧ setup.features.idMapping = false ∧
      setup.sharedCapacity ≠ 0) ∧
    ({ crowdedInputs with limits := ⟨4095, 8⟩ } : SetupInputs).plan =
      .error (.unsupportedHardware ⟨4095, 8⟩) ∧
    ({ crowdedInputs with layers := [.color "b" .uint16, .color "a" .uint32] } :
      SetupInputs).plan =
      ({ crowdedInputs with layers := [.color "a" .uint32, .color "b" .uint16] } :
        SetupInputs).plan := by
  refine ⟨?accepted, ?refused, ?rearranged⟩
  case accepted =>
    obtain ⟨-, succeeds, -⟩ := plan_aggregates crowdedInputs
    obtain ⟨setup, planned, aggregates⟩ := succeeds (by decide) (by decide)
    have plan := aggregates.plans [.color "a" .uint8, .color "b" .uint16]
      (.color "a" .uint32) [] rfl (by simp)
    have packed : Layer.packing (.color "a" .uint32) crowdedInputs.limits
        crowdedInputs.required = ⟨4096, 4, 1⟩ := by decide +kernel
    have table : setup.plans = [("a", ⟨4096, 4, 1⟩), ("b", ⟨4096, 2, 2⟩)] := by
      rw [← (plan_eq_ok_iff.mp planned).2]
      decide +kernel
    have slots : setup.slots = 8 := by
      rw [aggregates.slots, table]
      decide
    refine ⟨setup, planned, packed ▸ plan, slots, ?_, ?_, ?_⟩
    · rw [aggregates.basicRendering, slots]
      decide
    · rw [← Bool.not_eq_true, aggregates.idMapping, slots]
      decide
    · rw [Ne, aggregates.sharedCapacity_eq_zero]
      decide
  case refused =>
    obtain ⟨fails, -, -⟩ := plan_aggregates { crowdedInputs with limits := ⟨4095, 8⟩ }
    exact (fails _).mpr ⟨.inl (by decide), rfl⟩
  case rearranged =>
    obtain ⟨-, -, order⟩ := plan_aggregates
      { crowdedInputs with layers := [.color "a" .uint32, .color "b" .uint16] }
    exact order (by decide) _ (.swap ..)

end SetupInputs

end VoxelStream
