import VoxelStream.Proofs.SetupAggregation

/-!
# Setups under more and less

Larger limits, or fewer required buckets, never cost anything: no layer needs more textures, and no
feature is lost (`TextureSetup.NeedsNoMore`).  The chosen dimensions may change in either direction,
but the counts are those of the largest dimension, where they are monotone
(`textureCount_choose_mono`).  The tables of the two setups have the same names and related plans,
and slots and features are compared through that.

A layer with a new name is one more entry of the table (`TextureSetup.Adds`), so it takes its own
textures and a lookup texture and leaves the other plans alone.
-/

namespace VoxelStream

namespace TextureSetup

/-- A setup plans for the same names as another one, with no more textures for any of them, and has
every feature that the other one has. -/
structure NeedsNoMore (setup other : TextureSetup) : Prop where
  names : setup.plans.names = other.plans.names
  counts : ∀ name plan, other.plans.plan? name = some plan →
    ∃ counterpart, setup.plans.plan? name = some counterpart ∧
      counterpart.textureCount.toNat ≤ plan.textureCount.toNat
  slots : setup.slots ≤ other.slots
  basicRendering : other.features.basicRendering = true → setup.features.basicRendering = true
  idMapping : other.features.idMapping = true → setup.features.idMapping = true

/-- A setup plans for one more layer than another one. -/
structure Adds (setup : TextureSetup) (layer : Layer) (inputs : SetupInputs)
    (other : TextureSetup) : Prop where
  own : setup.plans.plan? layer.name = some (layer.packing inputs.limits inputs.required)
  others : ∀ name, name ≠ layer.name → setup.plans.plan? name = other.plans.plan? name
  slots : setup.slots =
    other.slots + (1 + (layer.packing inputs.limits inputs.required).textureCount.toNat)
  basicRendering : setup.features.basicRendering = true → other.features.basicRendering = true
  idMapping : setup.features.idMapping = true → other.features.idMapping = true
  sharedCapacity : setup.sharedCapacity =
    if inputs.layers = [] then (layer.packing inputs.limits inputs.required).capacity
    else min other.sharedCapacity (layer.packing inputs.limits inputs.required).capacity

end TextureSetup

namespace FeatureSupport

variable {limits larger : Limits} {hasSegmentation : Bool} {table smaller : PlanTable}

/-- What fits into fewer slots fits into more. -/
theorem basicRendering_of_slots_le (room : limits.maxBoundTextures ≤ larger.maxBoundTextures)
    (fewer : smaller.slots ≤ table.slots)
    (fits : (ofTable limits hasSegmentation table).basicRendering = true) :
    (ofTable larger hasSegmentation smaller).basicRendering = true := by
  have room := UInt32.le_iff_toNat_le.mp room
  simp only [ofTable, decide_eq_true_eq] at fits ⊢
  omega

theorem idMapping_of_slots_le (room : limits.maxBoundTextures ≤ larger.maxBoundTextures)
    (fewer : smaller.slots ≤ table.slots)
    (fits : (ofTable limits hasSegmentation table).idMapping = true) :
    (ofTable larger hasSegmentation smaller).idMapping = true := by
  have room := UInt32.le_iff_toNat_le.mp room
  simp only [ofTable, Bool.or_eq_true, decide_eq_true_eq] at fits ⊢
  exact fits.imp_right fun mapped => by omega

end FeatureSupport

namespace SetupInputs

variable {inputs : SetupInputs} {limits : Limits} {required : UInt32}

theorem meetsMinimum_of_le (supported : inputs.limits.meetsMinimum = true)
    (dimensions : inputs.limits.maxTextureDimension ≤ limits.maxTextureDimension)
    (textures : inputs.limits.maxBoundTextures ≤ limits.maxBoundTextures) :
    limits.meetsMinimum = true := by
  rw [Limits.meetsMinimum_iff] at supported ⊢
  exact ⟨UInt32.le_trans supported.1 dimensions, UInt32.le_trans supported.2 textures⟩

/-- Larger limits and fewer required buckets need no more. -/
theorem needsNoMore_setup
    (dimensions : inputs.limits.maxTextureDimension ≤ limits.maxTextureDimension)
    (textures : inputs.limits.maxBoundTextures ≤ limits.maxBoundTextures)
    (fewer : required ≤ inputs.required) :
    ({ inputs with limits := limits, required := required } : SetupInputs).setup.NeedsNoMore
      inputs.setup := by
  have tables : PlanTable.Related
      (fun left right => left.textureCount.toNat ≤ right.textureCount.toNat)
      (PlanTable.ofLayers limits required inputs.layers) inputs.table :=
    PlanTable.related_ofLayers
      (fun layer => PackingPlan.textureCount_choose_mono layer.byteCount layer.elementClass
        dimensions fewer) inputs.layers
  exact
    { names := tables.names_eq
      counts := fun _ _ => tables.exists_plan?
      slots := tables.slots_le
      basicRendering := FeatureSupport.basicRendering_of_slots_le textures tables.slots_le
      idMapping := FeatureSupport.idMapping_of_slots_le textures tables.slots_le }

/-- A layer with a new name is one more entry. -/
theorem adds_setup {layer : Layer} (new : layer.name ∉ inputs.layers.map Layer.name) :
    ({ inputs with layers := inputs.layers ++ [layer] } : SetupInputs).setup.Adds layer inputs
      inputs.setup := by
  have newName : layer.name ∉ inputs.table.names := fun known =>
    new (PlanTable.mem_names_ofLayers.mp known)
  have table : ({ inputs with layers := inputs.layers ++ [layer] } : SetupInputs).table =
      inputs.table.record layer.name (layer.packing inputs.limits inputs.required) :=
    PlanTable.ofLayers_concat layer
  have more : inputs.table.slots ≤
      (inputs.table.record layer.name (layer.packing inputs.limits inputs.required)).slots := by
    rw [PlanTable.slots_record newName]
    exact Nat.le_add_right ..
  rw [setup, features, table]
  exact
    { own := by rw [PlanTable.plan?_record, if_pos rfl]
      others := fun name other => by
        rw [PlanTable.plan?_record, if_neg other]
        rfl
      slots := PlanTable.slots_record newName
      basicRendering := FeatureSupport.basicRendering_of_slots_le (UInt32.le_refl _) more
      idMapping := FeatureSupport.idMapping_of_slots_le (UInt32.le_refl _) more
      sharedCapacity := by
        split
        next noLayer =>
          rw [table_eq_nil_iff.mpr noLayer]
          rfl
        next someLayer =>
          exact PlanTable.sharedCapacity_record newName fun noPlan =>
            someLayer (table_eq_nil_iff.mp noPlan) }

/-- Planning is monotone: larger limits or fewer required buckets need no more textures and lose no
feature, and one more layer takes its own slots, changes no other plan and wins no feature. -/
theorem plan_monotone (inputs : SetupInputs) (setup : TextureSetup)
    (planned : inputs.plan = .ok setup) :
    (∀ limits : Limits, inputs.limits.maxTextureDimension ≤ limits.maxTextureDimension →
      inputs.limits.maxBoundTextures ≤ limits.maxBoundTextures →
      ∃ larger, ({ inputs with limits := limits } : SetupInputs).plan = .ok larger ∧
        larger.NeedsNoMore setup) ∧
    (∀ required ≤ inputs.required,
      ∃ lighter, ({ inputs with required := required } : SetupInputs).plan = .ok lighter ∧
        lighter.NeedsNoMore setup) ∧
    (∀ layer : Layer, layer.name ∉ inputs.layers.map Layer.name →
      ∃ extended,
        ({ inputs with layers := inputs.layers ++ [layer] } : SetupInputs).plan = .ok extended ∧
        extended.Adds layer inputs setup) := by
  obtain ⟨supported, rfl⟩ := plan_eq_ok_iff.mp planned
  refine ⟨?limits, ?required, ?layer⟩
  case limits =>
    intro limits dimensions textures
    exact ⟨_, plan_of_meetsMinimum (meetsMinimum_of_le supported dimensions textures),
      needsNoMore_setup dimensions textures (UInt32.le_refl _)⟩
  case required =>
    intro required fewer
    exact ⟨_, plan_of_meetsMinimum supported,
      needsNoMore_setup (UInt32.le_refl _) (UInt32.le_refl _) fewer⟩
  case layer =>
    intro layer new
    exact ⟨_, plan_of_meetsMinimum supported, adds_setup new⟩

/-- A largest dimension with an odd factor leads to other textures, but not to more of them.  The
layer `c` takes one texture and its lookup texture. -/
theorem plan_beside_crowded :
    (∃ larger,
      ({ crowdedInputs with limits := ⟨6144, 16⟩ } : SetupInputs).plan = .ok larger ∧
      larger.NeedsNoMore crowdedInputs.setup ∧ larger.plans.plan? "a" = some ⟨6144, 2, 1⟩) ∧
    (∃ lighter, ({ crowdedInputs with required := 1 } : SetupInputs).plan = .ok lighter ∧
      lighter.NeedsNoMore crowdedInputs.setup) ∧
    ∃ extended,
      ({ crowdedInputs with layers := crowdedInputs.layers ++ [.color "c" .float] } :
        SetupInputs).plan = .ok extended ∧
      extended.plans.plan? "a" = some ⟨4096, 4, 1⟩ ∧ extended.slots = 10 := by
  have planned : crowdedInputs.plan = .ok crowdedInputs.setup := plan_of_meetsMinimum (by decide)
  obtain ⟨limits, required, layer⟩ := plan_monotone crowdedInputs crowdedInputs.setup planned
  obtain ⟨larger, plannedLarger, noMore⟩ := limits ⟨6144, 16⟩ (by decide) (by decide)
  obtain ⟨extended, plannedExtended, adds⟩ := layer (.color "c" .float) (by decide)
  refine ⟨⟨larger, plannedLarger, noMore, ?_⟩, required 1 (by decide),
    ⟨extended, plannedExtended, ?_, ?_⟩⟩
  · rw [← (plan_eq_ok_iff.mp plannedLarger).2]
    decide +kernel
  · rw [adds.others "a" (by decide)]
    decide +kernel
  · rw [adds.slots]
    decide +kernel

end SetupInputs

end VoxelStream
