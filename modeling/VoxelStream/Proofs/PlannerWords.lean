import VoxelStream.Proofs.PackingOptimality
import VoxelStream.Proofs.SetupAggregation

/-!
# Planning in machine words

The planner computes with natural numbers, and a machine computes with words.  Here every operation
of the planner is repeated in words of the width it needs: voxels in 128 bits, slots in 64 and
channels in 32.  There is no outcome if a result does not fit or a divisor is zero.

There always is an outcome, and it is that of the planner.  A product of words is a word of both
widths together (`mulIn_eq`).  Three factors of 32 bits are the voxels of one texture and a fourth
one is the number of textures, so 128 bits are enough for all inputs.  No division is by zero,
because textures without voxels are asked for first.  The only numbers that a clamp ever changes are
the capacities of very large textures and the need for textures of dimension zero
(`texturesNeeded_eq_exactNeed`).
-/

namespace VoxelStream

/-! ## Words -/

/-- A number as a word of some width. -/
def fitIn (bits n : Nat) : Option Nat := if n < 2 ^ bits then some n else none

def mulIn (bits a b : Nat) : Option Nat := fitIn bits (a * b)

def addIn (bits a b : Nat) : Option Nat := fitIn bits (a + b)

/-- The quotient of words, which has no value if the divisor is zero. -/
def divIn (a b : Nat) : Option Nat := if b = 0 then none else some (a / b)

/-- The quotient of words rounded up: one more where there is a remainder. -/
def ceilDivIn (bits a b : Nat) : Option Nat :=
  (divIn a b).bind fun quotient => if a % b = 0 then some quotient else addIn bits quotient 1

section

variable {bits width first second a b : Nat}

/-- A product has at most as many bits as both factors together. -/
theorem mul_lt_two_pow (small : a < 2 ^ first) (smallToo : b < 2 ^ second) :
    a * b < 2 ^ (first + second) := by
  rw [Nat.pow_add]
  exact Nat.mul_lt_mul'' small smallToo

theorem mulIn_eq (small : a < 2 ^ first) (smallToo : b < 2 ^ second)
    (wide : first + second ≤ bits) : mulIn bits a b = some (a * b) :=
  if_pos ((mul_lt_two_pow small smallToo).trans_le (Nat.pow_le_pow_right (by decide) wide))

theorem addIn_eq (fits : a + b < 2 ^ bits) : addIn bits a b = some (a + b) := if_pos fits

theorem divIn_eq (pos : 0 < b) : divIn a b = some (a / b) := if_neg (Nat.ne_of_gt pos)

/-- Division that rounds up, as a remainder test. -/
theorem ceilDiv_eq_ite (a : Nat) (pos : 0 < b) :
    ceilDiv a b = if a % b = 0 then a / b else a / b + 1 := by
  have whole := Nat.div_add_mod a b
  have remainder := Nat.mod_lt a pos
  rw [ceilDiv]
  split
  · rw [Nat.div_eq_iff pos, Nat.mul_comm]
    omega
  · rw [Nat.div_eq_iff pos, Nat.succ_mul, Nat.mul_comm]
    omega

/-- Rounding up adds one to a quotient that is a shorter word, so the sum is a word. -/
theorem ceilDivIn_eq (pos : 0 < b) (small : a < 2 ^ width) (wide : width < bits) :
    ceilDivIn bits a b = some (ceilDiv a b) := by
  have fewer := Nat.div_le_self a b
  have room : 2 ^ width < 2 ^ bits := Nat.pow_lt_pow_right (by decide) wide
  rw [ceilDivIn, divIn_eq pos, Option.bind_some, ceilDiv_eq_ite a pos]
  split
  · rfl
  · exact addIn_eq (by omega)

end

/-! ## Textures in words -/

/-- Voxels of one texture. -/
def voxelsInWords (dimension packing : Nat) : Option Nat :=
  (mulIn 128 packing dimension).bind fun row => mulIn 128 row dimension

def capacityInWords (count dimension packing : UInt32) : Option Nat := do
  let voxels ← voxelsInWords dimension.toNat packing.toNat
  let allVoxels ← mulIn 128 count.toNat voxels
  let buckets ← divIn allVoxels bucketVoxels
  some (clamp64 buckets)

def needInWords (dimension packing : Nat) (required : UInt32) : Option Nat := do
  let voxels ← voxelsInWords dimension packing
  if voxels = 0 then some largest64
  else
    let necessary ← mulIn 128 required.toNat bucketVoxels
    let count ← ceilDivIn 128 necessary voxels
    some (clamp64 count)

/-- The search for a dimension, where every need may have no value. -/
def shrinkInWords (need : Nat → Option Nat) (dimension : Nat) : Option Nat :=
  if 1 < dimension ∧ dimension % 2 = 0 then do
    let halves ← need (dimension / 2)
    let whole ← need dimension
    if halves ≤ whole then shrinkInWords need (dimension / 2) else some dimension
  else some dimension
termination_by dimension
decreasing_by omega

def channelsInWords (byteCount packing : UInt32) (elementClass : ElementClass) : Option Nat :=
  if elementClass.isFloat then
    (divIn byteCount.toNat 4).bind fun values => mulIn 32 values packing.toNat
  else mulIn 32 byteCount.toNat packing.toNat

/-- The plan of a layer, and the channels that its texels take. -/
def chooseInWords (limits : Limits) (byteCount : UInt32) (elementClass : ElementClass)
    (required : UInt32) : Option (PackingPlan × Nat) := do
  let packing := packingDegree byteCount elementClass
  let need := fun dimension => needInWords dimension packing.toNat required
  let dimension ← shrinkInWords need limits.maxTextureDimension.toNat
  let count ← need dimension
  let channels ← channelsInWords byteCount packing elementClass
  some (⟨UInt32.ofNat dimension, clamp32 count, packing⟩, channels)

section

variable {dimension packing : Nat} {required : UInt32}

/-- The voxels of a texture need 96 bits at most. -/
theorem voxelsPerTexture_lt (small : dimension < 2 ^ 32) (packed : packing < 2 ^ 32) :
    voxelsPerTexture dimension packing < 2 ^ 96 :=
  mul_lt_two_pow packed (mul_lt_two_pow small small)

/-- The voxels of a texture are computed without overflow. -/
theorem voxelsInWords_eq (small : dimension < 2 ^ 32) (packed : packing < 2 ^ 32) :
    voxelsInWords dimension packing = some (voxelsPerTexture dimension packing) := by
  rw [voxelsInWords, mulIn_eq packed small (by decide), Option.bind_some,
    mulIn_eq (mul_lt_two_pow packed small) small (by decide), voxelsPerTexture, Nat.mul_assoc]

/-- The voxels of all textures do not overflow either, and the clamp brings the capacity down to 64
bits. -/
theorem capacityInWords_eq (count dimension packing : UInt32) :
    capacityInWords count dimension packing = some (bucketCapacity count dimension packing) := by
  have voxels := voxelsPerTexture_lt dimension.toNat_lt packing.toNat_lt
  rw [capacityInWords, voxelsInWords_eq dimension.toNat_lt packing.toNat_lt]
  show (mulIn 128 _ _).bind _ = _
  rw [mulIn_eq count.toNat_lt voxels (by decide)]
  rfl

/-- A texture without voxels is never divided by, so its need has a value too. -/
theorem needInWords_eq (small : dimension < 2 ^ 32) (packed : packing < 2 ^ 32)
    (required : UInt32) :
    needInWords dimension packing required = some (texturesNeeded dimension packing required) := by
  rw [needInWords, voxelsInWords_eq small packed, texturesNeeded]
  show (if _ then _ else _) = _
  split
  · rfl
  next someVoxels =>
    have voxels : bucketVoxels < 2 ^ 16 := by decide
    have necessary := mul_lt_two_pow required.toNat_lt voxels
    rw [mulIn_eq required.toNat_lt voxels (by decide)]
    show (ceilDivIn 128 _ _).bind _ = _
    rw [ceilDivIn_eq (Nat.pos_of_ne_zero someVoxels) necessary (by decide)]
    rfl

/-- The search ends where the needs are known. -/
theorem shrinkInWords_eq {need : Nat → Nat} {needIn : Nat → Option Nat}
    (known : ∀ smaller ≤ dimension, needIn smaller = some (need smaller)) :
    shrinkInWords needIn dimension = some (shrink need dimension) := by
  fun_induction shrink need dimension with
  | case1 d taken ih =>
    have half := Nat.div_le_self d 2
    rw [shrinkInWords, if_pos ⟨taken.1, taken.2.1⟩, known _ half, known _ (Nat.le_refl d)]
    show (if _ then _ else _) = _
    rw [if_pos taken.2.2]
    exact ih fun smaller below => known smaller (below.trans half)
  | case2 d stopped =>
    rw [shrinkInWords]
    split
    next even =>
      rw [known _ (Nat.div_le_self d 2), known _ (Nat.le_refl d)]
      show (if _ then _ else _) = _
      rw [if_neg fun fewer => stopped ⟨even.1, even.2, fewer⟩]
    · rfl

/-- The values of one texel take no more channels than a value has bytes, or four. -/
theorem channelCount_le (byteCount : UInt32) (elementClass : ElementClass) :
    channelCount byteCount (packingDegree byteCount elementClass) elementClass ≤
      max 4 byteCount.toNat := by
  rw [channelCount, packingDegree]
  split
  next float =>
    rw [if_pos (.inr float), show (4 : UInt32).toNat = 4 from rfl]
    omega
  next notFloat =>
    split
    next one =>
      obtain rfl := one.resolve_right notFloat
      decide
    · split
      next two =>
        subst two
        decide
      · rw [UInt32.toNat_one]
        omega

/-- The channels of a texture are counted without overflow. -/
theorem channelsInWords_eq (byteCount : UInt32) (elementClass : ElementClass) :
    channelsInWords byteCount (packingDegree byteCount elementClass) elementClass =
      some (channelCount byteCount (packingDegree byteCount elementClass) elementClass) := by
  have words := byteCount.toNat_lt
  have few := channelCount_le byteCount elementClass
  have fits : channelCount byteCount (packingDegree byteCount elementClass) elementClass < 2 ^ 32 :=
    by omega
  rw [channelsInWords]
  rw [channelCount] at fits ⊢
  split
  next float =>
    rw [if_pos float] at fits
    exact if_pos fits
  next notFloat =>
    rw [if_neg notFloat] at fits
    exact if_pos fits

/-- The plan of a layer is chosen without overflow. -/
theorem chooseInWords_eq (limits : Limits) (byteCount : UInt32) (elementClass : ElementClass)
    (required : UInt32) :
    chooseInWords limits byteCount elementClass required =
      some (PackingPlan.choose limits byteCount elementClass required,
        channelCount byteCount (packingDegree byteCount elementClass) elementClass) := by
  have largest : limits.maxTextureDimension.toNat < 2 ^ 32 := limits.maxTextureDimension.toNat_lt
  have packed : (packingDegree byteCount elementClass).toNat < 2 ^ 32 := UInt32.toNat_lt _
  have known : ∀ dimension ≤ limits.maxTextureDimension.toNat,
      needInWords dimension (packingDegree byteCount elementClass).toNat required =
        some (texturesNeeded dimension (packingDegree byteCount elementClass).toNat required) :=
    fun dimension bounded => needInWords_eq (bounded.trans_lt largest) packed required
  rw [chooseInWords]
  dsimp only
  rw [shrinkInWords_eq known, channelsInWords_eq]
  show (needInWords _ _ _).bind _ = _
  rw [known _ (shrink_le ..)]
  rfl

end

/-! ## Slots in words -/

def slotsInWords (table : PlanTable) : Option Nat := do
  let textures ← table.foldlM (fun total entry => addIn 64 total entry.2.textureCount.toNat) 0
  let lookups ← mulIn 64 table.length lookupTexturesPerLayer
  addIn 64 lookups textures

/-- The features that a table leaves room for. -/
def featuresInWords (limits : Limits) (hasSegmentation : Bool) (table : PlanTable) :
    Option FeatureSupport := do
  let slots ← slotsInWords table
  let slotsToo ← addIn 64 slots mappingTextures
  some
    { basicRendering := slots ≤ limits.maxBoundTextures.toNat
      idMapping := !hasSegmentation || slotsToo ≤ limits.maxBoundTextures.toNat }

section

variable {table : PlanTable}

/-- A running total overflows only if the whole sum does. -/
theorem foldlM_addIn {total : Nat}
    (fits : total + (table.map fun entry => entry.2.textureCount.toNat).sum < 2 ^ 64) :
    table.foldlM (fun total entry => addIn 64 total entry.2.textureCount.toNat) total =
      some (total + (table.map fun entry => entry.2.textureCount.toNat).sum) := by
  induction table generalizing total with
  | nil => rfl
  | cons first rest ih =>
    rw [List.map_cons, List.sum_cons, ← Nat.add_assoc] at fits ⊢
    rw [List.foldlM_cons, addIn_eq (by omega)]
    exact ih fits

/-- Every layer takes at most `2 ^ 32` slots. -/
theorem PlanTable.slots_le (table : PlanTable) : table.slots ≤ table.length * 2 ^ 32 := by
  induction table with
  | nil => exact Nat.le_refl 0
  | cons first rest ih =>
    have textures := first.2.textureCount.toNat_lt
    rw [PlanTable.slots, lookupTexturesPerLayer, List.length_cons]
    omega

/-- The texture slots of a table are counted without overflow. -/
theorem slotsInWords_eq (few : table.length < 2 ^ 32) : slotsInWords table = some table.slots := by
  have slots := table.slots_le
  have exact := PlanTable.slots_eq table
  rw [slotsInWords, foldlM_addIn (by omega)]
  show (mulIn 64 _ _).bind _ = _
  rw [lookupTexturesPerLayer, mulIn_eq few (by decide : 1 < 2 ^ 1) (by decide)]
  show addIn 64 _ _ = _
  rw [addIn_eq (by omega), exact]
  simp

theorem featuresInWords_eq (limits : Limits) (hasSegmentation : Bool)
    (few : table.length < 2 ^ 32) :
    featuresInWords limits hasSegmentation table =
      some (FeatureSupport.ofTable limits hasSegmentation table) := by
  have slots := table.slots_le
  rw [featuresInWords, slotsInWords_eq few]
  show (addIn 64 _ _).bind _ = _
  rw [mappingTextures, addIn_eq (by omega)]
  rfl

end

/-! ## Planning in words -/

/-- Words are wide enough for all inputs, zero dimensions and any byte counts included.  Only the
clamps change a number: a capacity is the exact one or the largest 64-bit number, and at a positive
dimension the need is the exact quotient rounded up. -/
theorem planning_exact :
    (∀ count dimension packing : UInt32,
      capacityInWords count dimension packing = some (bucketCapacity count dimension packing) ∧
      bucketCapacity count dimension packing =
        min (count.toNat * packing.toNat * dimension.toNat ^ 2 / 32768) (2 ^ 64 - 1)) ∧
    (∀ (limits : Limits) (byteCount : UInt32) (elementClass : ElementClass) (required : UInt32),
      chooseInWords limits byteCount elementClass required =
        some (PackingPlan.choose limits byteCount elementClass required,
          channelCount byteCount (packingDegree byteCount elementClass) elementClass)) ∧
    (∀ (dimension byteCount : UInt32) (elementClass : ElementClass) (required : UInt32),
      0 < dimension →
      needInWords dimension.toNat (packingDegree byteCount elementClass).toNat required =
        some (exactNeed (packingDegree byteCount elementClass).toNat required.toNat
          dimension.toNat)) ∧
    ∀ inputs : SetupInputs, inputs.layers.length < 2 ^ 32 - 3 →
      slotsInWords inputs.table = some inputs.table.slots ∧
      inputs.table.slots + 3 ≤ 2 ^ 64 - 1 ∧
      featuresInWords inputs.limits inputs.hasSegmentation inputs.table =
        some inputs.features := by
  refine ⟨?capacity, chooseInWords_eq, ?need, ?slots⟩
  case capacity =>
    intro count dimension packing
    refine ⟨capacityInWords_eq count dimension packing, ?_⟩
    rw [bucketCapacity, voxelsPerTexture, clamp64, ← Nat.pow_two, ← Nat.mul_assoc, bucketVoxels_eq]
    rfl
  case need =>
    intro dimension byteCount elementClass required positive
    rw [needInWords_eq dimension.toNat_lt (UInt32.toNat_lt _), texturesNeeded_eq_exactNeed
      (packingDegree_pos byteCount elementClass) (UInt32.lt_iff_toNat_lt.mp positive)]
  case slots =>
    intro inputs few
    have entries : inputs.table.length ≤ inputs.layers.length := by
      rw [SetupInputs.table, PlanTable.length_ofLayers, ← List.length_map (f := Layer.name)]
      exact (List.dedup_sublist _).length_le
    have fewEntries : inputs.table.length < 2 ^ 32 := by omega
    have slots := inputs.table.slots_le
    exact ⟨slotsInWords_eq fewEntries, by omega, featuresInWords_eq _ _ fewEntries⟩

/-- The largest operands saturate, dimension zero gets as many textures as can be counted, and at
dimension one the need is larger than that.  The crowded table takes its slots without overflow. -/
theorem planning_exact_extremes :
    capacityInWords 4294967295 4294967295 4294967295 = some 18446744073709551615 ∧
      chooseInWords ⟨0, 8⟩ 4294967295 .double 1 = some (⟨0, 4294967295, 1⟩, 4294967295) ∧
      (0 : UInt32) < 1 ∧ needInWords 1 4 4294967295 = some (exactNeed 4 4294967295 1) ∧
      needInWords 1 4 4294967295 = some 35184372080640 ∧
      SetupInputs.crowdedInputs.layers.length < 2 ^ 32 - 3 ∧
      slotsInWords SetupInputs.crowdedInputs.table = some 8 := by
  obtain ⟨capacity, plans, need, setups⟩ := planning_exact
  have largest : bucketCapacity 4294967295 4294967295 4294967295 = 18446744073709551615 := by decide
  have plan : PackingPlan.choose ⟨0, 8⟩ 4294967295 .double 1 = ⟨0, 4294967295, 1⟩ := by
    decide +kernel
  have positive : (0 : UInt32) < 1 := by decide
  have few : SetupInputs.crowdedInputs.layers.length < 2 ^ 32 - 3 := by decide
  have slots : SetupInputs.crowdedInputs.table.slots = 8 := by decide +kernel
  refine ⟨?_, ?_, positive, need 1 1 .uint8 4294967295 positive, by decide, few, ?_⟩
  · rw [(capacity ..).1, largest]
  · rw [plans, plan]
    rfl
  · rw [(setups _ few).1, slots]

end VoxelStream
