import VoxelStream.Proofs.SetupKeys
import VoxelStream.Setup.Cache

/-!
# Setups from the cache

The entry of the cache does not have the required capacity and the flag that it was planned for.
It has them through its key alone.  As keys are injective for equal limits and layers, an entry
answers only for the inputs that it was planned for (`matches?_iff`).

The cache is *faithful* if its entry is what planning gave for some inputs.  Every call keeps it
faithful, and calls on a faithful cache answer what planning answers.
-/

namespace VoxelStream

/-- The entry that a successful planning leaves. -/
structure CachedSetup.PlannedFor (cached : CachedSetup) (origin : SetupInputs) : Prop where
  key : cached.key = origin.key
  limits : cached.limits = origin.limits
  layers : cached.layers = origin.layers
  setup : origin.plan = .ok cached.planned.setup

namespace SetupCache

variable {cache : SetupCache} {cached : CachedSetup} {inputs origin : SetupInputs}

/-! ## Entries -/

/-- An entry answers for the inputs that it was planned for, and for no others. -/
theorem matches?_iff (planned : cached.PlannedFor origin) :
    matches? cached inputs = true ↔ origin = inputs := by
  rw [matches?, planned.key, planned.limits, planned.layers]
  constructor
  · intro checks
    obtain ⟨keyAndLimits, layers⟩ := Bool.and_eq_true_iff.mp checks
    obtain ⟨key, limits⟩ := Bool.and_eq_true_iff.mp keyAndLimits
    exact (SetupInputs.key_inj (eq_of_beq limits) (eq_of_beq layers)).mp (eq_of_beq key)
  · rintro rfl
    simp only [BEq.rfl, Bool.and_self]

theorem find?_eq_some_iff {planned : PlannedSetup} :
    cache.find? inputs = some planned ↔
      ∃ cached, cache.entry = some cached ∧ matches? cached inputs = true ∧
        cached.planned = planned := by
  rw [find?]
  cases cache.entry with
  | none => simp
  | some cached => simp

/-- The cache has at most the setup of some inputs. -/
def Faithful (cache : SetupCache) : Prop :=
  ∀ cached, cache.entry = some cached → ∃ origin, cached.PlannedFor origin

theorem faithful_empty : empty.Faithful := by
  intro cached kept
  cases kept

theorem faithful_invalidate (cache : SetupCache) : cache.invalidate.Faithful := by
  intro cached kept
  cases kept

theorem faithful_store {setup : TextureSetup} (cache : SetupCache)
    (planned : inputs.plan = .ok setup) : (cache.store inputs setup).Faithful := by
  intro cached kept
  cases kept
  -- The projection is reduced first, for `rfl` would open the hash.
  exact ⟨inputs, by dsimp only, rfl, rfl, planned⟩

/-- A kept setup is the one that planning would give. -/
theorem Faithful.plan_eq (faithful : cache.Faithful) {planned : PlannedSetup}
    (found : cache.find? inputs = some planned) : inputs.plan = .ok planned.setup := by
  obtain ⟨cached, kept, checks, rfl⟩ := find?_eq_some_iff.mp found
  obtain ⟨origin, plannedFor⟩ := faithful cached kept
  rw [← (matches?_iff plannedFor).mp checks]
  exact plannedFor.setup

/-! ## One call -/

/-- What a call answers, without the number of the planning, and what it leaves. -/
theorem Faithful.getOrPlan (faithful : cache.Faithful) (inputs : SetupInputs) :
    (cache.getOrPlan inputs).1.map (·.setup) = inputs.plan ∧
      (cache.getOrPlan inputs).2.Faithful := by
  rw [SetupCache.getOrPlan]
  cases found : cache.find? inputs with
  | some planned => exact ⟨(faithful.plan_eq found).symm, faithful⟩
  | none =>
    cases plan : inputs.plan with
    | error e => exact ⟨rfl, faithful⟩
    | ok setup => exact ⟨rfl, faithful_store cache plan⟩

/-! ## Runs -/

/-- What can be asked of the cache. -/
inductive Call where
  | getOrPlan (inputs : SetupInputs)
  | invalidate

/-- The answer to a call, where there is one, and the cache after it. -/
def step (cache : SetupCache) : Call → Option (Except PlannerError PlannedSetup) × SetupCache
  | .getOrPlan inputs => (cache.getOrPlan inputs).map some id
  | .invalidate => (none, cache.invalidate)

/-- The answers to calls in a row, and the cache after them. -/
def run (cache : SetupCache) :
    List Call → List (Option (Except PlannerError PlannedSetup)) × SetupCache
  | [] => ([], cache)
  | call :: rest =>
    let (answer, after) := cache.step call
    let (answers, last) := after.run rest
    (answer :: answers, last)

/-- What planning answers to a call. -/
def Call.plan : Call → Option (Except PlannerError TextureSetup)
  | .getOrPlan inputs => some inputs.plan
  | .invalidate => none

/-- One call on a faithful cache answers what planning answers, and leaves the cache faithful. -/
theorem Faithful.step (faithful : cache.Faithful) (call : Call) :
    (cache.step call).1.map (·.map (·.setup)) = call.plan ∧ (cache.step call).2.Faithful := by
  cases call with
  | getOrPlan inputs =>
    obtain ⟨answer, after⟩ := faithful.getOrPlan inputs
    exact ⟨congrArg some answer, after⟩
  | invalidate => exact ⟨rfl, faithful_invalidate cache⟩

/-- The same for calls in a row. -/
theorem Faithful.run (faithful : cache.Faithful) (calls : List Call) :
    (cache.run calls).1.map (·.map (·.map (·.setup))) = calls.map Call.plan ∧
      (cache.run calls).2.Faithful := by
  induction calls generalizing cache with
  | nil => exact ⟨rfl, faithful⟩
  | cons call rest ih =>
    obtain ⟨answer, after⟩ := faithful.step call
    obtain ⟨answers, last⟩ := ih after
    exact ⟨congrArg₂ List.cons answer answers, last⟩

/-- The cache is transparent: whatever is asked of it, in whatever order, the answers are those of
planning. -/
theorem run_transparent (calls : List Call) :
    (empty.run calls).1.map (·.map (·.map (·.setup))) = calls.map Call.plan :=
  (faithful_empty.run calls).1

end SetupCache

end VoxelStream
