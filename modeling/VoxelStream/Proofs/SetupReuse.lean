import VoxelStream.Proofs.SetupCaching

/-!
# Setups that are answered again

The *history* of a cache is the list of its calls with their answers, newest first.  `lastSuccess?`
reads off the last call that was answered with a setup, and `kept?` does so only if the cache was
not invalidated since.

The cache always holds what `kept?` reads off its history, and has counted the successful calls
that were not answered from it (`Remembers`).  One call keeps this true, whether it is answered from
the entry, planned anew or refused.  So a call is answered with the last setup again exactly if it
has the inputs that this setup was planned for and the cache was not invalidated since
(`run_reuses`).  In all other cases its answer is no setup of before.
-/

namespace VoxelStream

namespace SetupCache

/-! ## Histories -/

/-- A call and the answer to it, where there is one. -/
abbrev AnsweredCall := Call × Option (Except PlannerError PlannedSetup)

/-- The last call that was answered with a setup: its inputs and the setup. -/
def lastSuccess? : List AnsweredCall → Option (SetupInputs × PlannedSetup)
  | [] => none
  | (.getOrPlan inputs, some (.ok planned)) :: _ => some (inputs, planned)
  | _ :: past => lastSuccess? past

/-- The same, unless the cache was invalidated after that call. -/
def kept? : List AnsweredCall → Option (SetupInputs × PlannedSetup)
  | [] => none
  | (.getOrPlan inputs, some (.ok planned)) :: _ => some (inputs, planned)
  | (.invalidate, _) :: _ => none
  | _ :: past => kept? past

/-- The last setup was planned for these inputs, and the cache was not invalidated since. -/
def Reusable (past : List AnsweredCall) (inputs : SetupInputs) : Prop :=
  ∃ planned, kept? past = some (inputs, planned)

instance (past : List AnsweredCall) (inputs : SetupInputs) : Decidable (Reusable past inputs) :=
  decidable_of_iff (∃ entry ∈ kept? past, entry.1 = inputs) <| by
    constructor
    · rintro ⟨⟨_, planned⟩, kept, rfl⟩
      exact ⟨planned, kept⟩
    · rintro ⟨planned, kept⟩
      exact ⟨(inputs, planned), kept, rfl⟩

/-- Calls that succeeded without the last setup. -/
def plannings : List AnsweredCall → Nat
  | [] => 0
  | (.getOrPlan inputs, some (.ok _)) :: past =>
    plannings past + if Reusable past inputs then 0 else 1
  | _ :: past => plannings past

/-- The history of calls that begin with an empty cache. -/
def history (calls : List Call) : List AnsweredCall := (calls.zip (empty.run calls).1).reverse

variable {cache : SetupCache} {past : List AnsweredCall} {inputs : SetupInputs}
  {planned : PlannedSetup}

/-- The kept setup is the last one. -/
theorem lastSuccess?_of_kept? (kept : kept? past = some (inputs, planned)) :
    lastSuccess? past = some (inputs, planned) := by
  fun_induction kept? past with
  | case1 => cases kept
  | case2 => exact kept
  | case3 => cases kept
  | case4 entry past notSuccess _ ih =>
    rw [lastSuccess?]
    · exact ih kept
    · exact notSuccess

/-- The last setup is an answer to a call with its inputs. -/
theorem mem_of_lastSuccess? (found : lastSuccess? past = some (inputs, planned)) :
    (.getOrPlan inputs, some (.ok planned)) ∈ past := by
  fun_induction lastSuccess? past with
  | case1 => cases found
  | case2 =>
    cases found
    exact List.mem_cons_self
  | case3 entry past _ ih => exact List.mem_cons_of_mem _ (ih found)

/-! ## What the cache remembers -/

/-- The entry of the cache is the kept setup of a history, no answer of the history has a number
that is yet to come, and the count is that of the plannings. -/
structure Remembers (past : List AnsweredCall) (cache : SetupCache) : Prop where
  entry : (cache.entry = none ∧ kept? past = none) ∨
    ∃ cached origin, cache.entry = some cached ∧ cached.PlannedFor origin ∧
      kept? past = some (origin, cached.planned)
  serial_le : ∀ call planned, (call, some (.ok planned)) ∈ past →
    planned.serial ≤ cache.recomputations
  count : cache.recomputations = plannings past

theorem remembers_empty : Remembers [] empty where
  entry := .inl ⟨rfl, rfl⟩
  serial_le call planned answered := by cases answered
  count := rfl

namespace Remembers

/-- A setup is found exactly if it is kept for these inputs. -/
theorem find?_eq_some_iff (remembers : Remembers past cache) :
    cache.find? inputs = some planned ↔ kept? past = some (inputs, planned) := by
  rw [SetupCache.find?_eq_some_iff]
  cases remembers.entry with
  | inl nothing =>
    obtain ⟨empty, forgotten⟩ := nothing
    simp [empty, forgotten]
  | inr something =>
    obtain ⟨cached, origin, here, plannedFor, kept⟩ := something
    simp [here, kept, matches?_iff plannedFor]

/-- Kept setups are answered again, and the cache stays as it is. -/
theorem getOrPlan_of_kept (remembers : Remembers past cache)
    (kept : kept? past = some (inputs, planned)) :
    cache.getOrPlan inputs = (.ok planned, cache) := by
  rw [SetupCache.getOrPlan, remembers.find?_eq_some_iff.mpr kept]

theorem find?_of_not_reusable (remembers : Remembers past cache)
    (anew : ¬Reusable past inputs) : cache.find? inputs = none := by
  cases found : cache.find? inputs with
  | none => rfl
  | some planned => exact absurd ⟨planned, remembers.find?_eq_some_iff.mp found⟩ anew

/-- A setup that is planned anew gets the next number. -/
theorem getOrPlan_of_planned (remembers : Remembers past cache) {setup : TextureSetup}
    (anew : ¬Reusable past inputs) (plan : inputs.plan = .ok setup) :
    cache.getOrPlan inputs =
      (.ok ⟨cache.recomputations + 1, setup⟩, cache.store inputs setup) := by
  rw [SetupCache.getOrPlan, remembers.find?_of_not_reusable anew, plan]

/-- Inputs that are refused leave the cache as it is. -/
theorem getOrPlan_of_refused (remembers : Remembers past cache) {error : PlannerError}
    (anew : ¬Reusable past inputs) (plan : inputs.plan = .error error) :
    cache.getOrPlan inputs = (.error error, cache) := by
  rw [SetupCache.getOrPlan, remembers.find?_of_not_reusable anew, plan]

/-- The three ways of a call: it is answered from the entry, planned anew, or refused. -/
theorem getOrPlan_cases (remembers : Remembers past cache) (inputs : SetupInputs) :
    (∃ planned, kept? past = some (inputs, planned) ∧
      cache.getOrPlan inputs = (.ok planned, cache)) ∨
    (¬Reusable past inputs ∧ ∃ setup, inputs.plan = .ok setup ∧
      cache.getOrPlan inputs =
        (.ok ⟨cache.recomputations + 1, setup⟩, cache.store inputs setup)) ∨
    (¬Reusable past inputs ∧ ∃ error, cache.getOrPlan inputs = (.error error, cache)) := by
  by_cases reusable : Reusable past inputs
  · obtain ⟨planned, kept⟩ := reusable
    exact .inl ⟨planned, kept, remembers.getOrPlan_of_kept kept⟩
  · cases plan : inputs.plan with
    | ok setup =>
      exact .inr (.inl ⟨reusable, setup, rfl, remembers.getOrPlan_of_planned reusable plan⟩)
    | error error =>
      exact .inr (.inr ⟨reusable, error, remembers.getOrPlan_of_refused reusable plan⟩)

/-! ## One call -/

/-- The numbers of a history stay bounded if that of the newest answer is. -/
theorem serial_le_cons {newest : AnsweredCall} {bound : Nat}
    (earlier : ∀ call planned, (call, some (.ok planned)) ∈ past → planned.serial ≤ bound)
    (now : ∀ planned, newest.2 = some (.ok planned) → planned.serial ≤ bound) :
    ∀ call planned, (call, some (.ok planned)) ∈ newest :: past → planned.serial ≤ bound := by
  intro call planned answered
  cases List.mem_cons.mp answered with
  | inl isNewest => exact now planned (congrArg Prod.snd isNewest.symm)
  | inr before => exact earlier call planned before

theorem invalidated (remembers : Remembers past cache) :
    Remembers ((.invalidate, none) :: past) cache.invalidate where
  entry := .inl ⟨rfl, rfl⟩
  serial_le := by
    apply serial_le_cons remembers.serial_le
    intro planned answered
    cases answered
  count := remembers.count

theorem answeredAgain (remembers : Remembers past cache)
    (kept : kept? past = some (inputs, planned)) :
    Remembers ((.getOrPlan inputs, some (.ok planned)) :: past) cache where
  entry := by
    obtain ⟨_, forgotten⟩ | ⟨cached, origin, here, plannedFor, keptHere⟩ := remembers.entry
    · rw [forgotten] at kept
      cases kept
    · rw [keptHere] at kept
      cases kept
      exact .inr ⟨cached, inputs, here, plannedFor, rfl⟩
  serial_le := by
    apply serial_le_cons remembers.serial_le
    intro other answered
    cases answered
    exact remembers.serial_le _ _ (mem_of_lastSuccess? (lastSuccess?_of_kept? kept))
  count := by
    rw [plannings, if_pos ⟨planned, kept⟩, Nat.add_zero]
    exact remembers.count

theorem plannedAnew (remembers : Remembers past cache) (anew : ¬Reusable past inputs)
    {setup : TextureSetup} (plan : inputs.plan = .ok setup) :
    Remembers ((.getOrPlan inputs, some (.ok ⟨cache.recomputations + 1, setup⟩)) :: past)
      (cache.store inputs setup) where
  entry := by
    -- The projections are reduced first, for `rfl` would open the hash.
    refine .inr ⟨_, inputs, rfl, ⟨?_, ?_, ?_, plan⟩, rfl⟩
    all_goals dsimp only
  serial_le := by
    apply serial_le_cons
    · intro call other before
      exact Nat.le_succ_of_le (remembers.serial_le call other before)
    · intro other answered
      cases answered
      exact Nat.le_refl _
  count := by
    rw [plannings, if_neg anew, ← remembers.count]
    rfl

theorem refused (remembers : Remembers past cache) (inputs : SetupInputs) (error : PlannerError) :
    Remembers ((.getOrPlan inputs, some (.error error)) :: past) cache where
  entry := remembers.entry
  serial_le := by
    apply serial_le_cons remembers.serial_le
    intro planned answered
    cases answered
  count := remembers.count

/-- One call keeps what the cache remembers true. -/
theorem step (remembers : Remembers past cache) (call : Call) :
    Remembers ((call, (cache.step call).1) :: past) (cache.step call).2 := by
  cases call with
  | invalidate => exact remembers.invalidated
  | getOrPlan inputs =>
    rcases remembers.getOrPlan_cases inputs with
      ⟨planned, kept, run⟩ | ⟨anew, setup, plan, run⟩ | ⟨anew, error, run⟩
    · rw [SetupCache.step, run]
      exact remembers.answeredAgain kept
    · rw [SetupCache.step, run]
      exact remembers.plannedAnew anew plan
    · rw [SetupCache.step, run]
      exact remembers.refused inputs error

/-! ## Runs -/

/-- Calls in a row keep it true. -/
theorem run (remembers : Remembers past cache) (calls : List Call) :
    Remembers ((calls.zip (cache.run calls).1).reverse ++ past) (cache.run calls).2 := by
  induction calls generalizing past cache with
  | nil => exact remembers
  | cons call rest ih =>
    have later := ih (remembers.step call)
    simpa [SetupCache.run] using later

end Remembers

/-- After calls on an empty cache, it remembers their history. -/
theorem remembers_history (calls : List Call) :
    Remembers (history calls) (empty.run calls).2 := by
  have ran := remembers_empty.run calls
  rwa [List.append_nil] at ran

/-- At most every call is a planning. -/
theorem plannings_le_length (past : List AnsweredCall) : plannings past ≤ past.length := by
  fun_induction plannings past with
  | case1 => exact Nat.le_refl 0
  | case2 inputs _ past ih =>
    rw [List.length_cons]
    split <;> omega
  | case3 _ past _ ih => exact ih.trans (Nat.le_succ _)

/-- In fewer calls than there are words of 64 bits, the count fits such a word. -/
theorem recomputations_lt_size {calls : List Call} (few : calls.length < UInt64.size) :
    (empty.run calls).2.recomputations < UInt64.size := by
  rw [(remembers_history calls).count]
  refine ((plannings_le_length _).trans ?_).trans_lt few
  rw [history, List.length_reverse, List.length_zip]
  exact Nat.min_le_left _ _

/-- A call that is refused changes nothing. -/
theorem getOrPlan_of_error {error : PlannerError}
    (refused : (cache.getOrPlan inputs).1 = .error error) :
    (cache.getOrPlan inputs).2 = cache := by
  rw [getOrPlan] at refused ⊢
  cases found : cache.find? inputs with
  | some planned => rfl
  | none =>
    cases plan : inputs.plan with
    | error e => rfl
    | ok setup =>
      rw [found, plan] at refused
      cases refused

/-- Any number of calls that are refused change nothing. -/
theorem run_of_errors {others : List SetupInputs}
    (refused : ∀ answer ∈ (cache.run (others.map .getOrPlan)).1,
      ∃ error, answer = some (.error error)) :
    (cache.run (others.map .getOrPlan)).2 = cache := by
  induction others generalizing cache with
  | nil => rfl
  | cons inputs rest ih =>
    rw [List.map_cons, run] at refused ⊢
    obtain ⟨error, here⟩ := refused _ List.mem_cons_self
    have kept : (cache.step (.getOrPlan inputs)).2 = cache :=
      getOrPlan_of_error (Option.some.inj here)
    dsimp only at refused ⊢
    rw [kept] at refused ⊢
    exact ih fun answer member => refused answer (List.mem_cons_of_mem _ member)

/-- How a call is answered after a history. -/
structure AnswersAfter (past : List AnsweredCall) (cache : SetupCache) (inputs : SetupInputs) :
    Prop where
  /-- It is answered with the last setup exactly if this is reusable. -/
  again_iff : (∃ origin planned, lastSuccess? past = some (origin, planned) ∧
    (cache.getOrPlan inputs).1 = .ok planned) ↔ Reusable past inputs
  /-- The last setup is answered without any change. -/
  unchanged : Reusable past inputs → (cache.getOrPlan inputs).2 = cache
  /-- Any other setup is none of those answered before. -/
  anew : ¬Reusable past inputs → ∀ planned, (cache.getOrPlan inputs).1 = .ok planned →
    ∀ call before, (call, some (.ok before)) ∈ past → before.serial ≠ planned.serial
  /-- A call that is refused changes nothing. -/
  refused : ∀ error, (cache.getOrPlan inputs).1 = .error error →
    (cache.getOrPlan inputs).2 = cache
  /-- After any number of refused calls the same inputs are answered with the same setup. -/
  repeated : ∀ planned (others : List SetupInputs), (cache.getOrPlan inputs).1 = .ok planned →
    (∀ answer ∈ ((cache.getOrPlan inputs).2.run (others.map .getOrPlan)).1,
      ∃ error, answer = some (.error error)) →
    (((cache.getOrPlan inputs).2.run (others.map .getOrPlan)).2.getOrPlan inputs).1 = .ok planned

theorem Remembers.answersAfter (remembers : Remembers past cache) (inputs : SetupInputs) :
    AnswersAfter past cache inputs where
  again_iff := by
    constructor
    · rintro ⟨origin, last, lastSuccess, answered⟩
      rcases remembers.getOrPlan_cases inputs with
        ⟨planned, kept, -⟩ | ⟨-, setup, -, run⟩ | ⟨-, error, run⟩
      · exact ⟨planned, kept⟩
      · -- A new number is not that of the last setup.
        have bound := remembers.serial_le _ _ (mem_of_lastSuccess? lastSuccess)
        rw [run] at answered
        cases answered
        exact absurd bound (Nat.not_succ_le_self _)
      · rw [run] at answered
        cases answered
    · rintro ⟨planned, kept⟩
      refine ⟨inputs, planned, lastSuccess?_of_kept? kept, ?_⟩
      rw [remembers.getOrPlan_of_kept kept]
  unchanged := by
    rintro ⟨planned, kept⟩
    rw [remembers.getOrPlan_of_kept kept]
  anew := by
    intro notReusable planned answered call before member
    rcases remembers.getOrPlan_cases inputs with
      ⟨planned, kept, -⟩ | ⟨-, setup, -, run⟩ | ⟨-, error, run⟩
    · exact absurd ⟨planned, kept⟩ notReusable
    · rw [run] at answered
      cases answered
      exact Nat.ne_of_lt (Nat.lt_succ_of_le (remembers.serial_le call before member))
    · rw [run] at answered
      cases answered
  refused error failed := getOrPlan_of_error failed
  repeated := by
    intro planned others answered refused
    have after := remembers.step (.getOrPlan inputs)
    rw [run_of_errors refused]
    have kept : kept? ((.getOrPlan inputs, (cache.step (.getOrPlan inputs)).1) :: past) =
        some (inputs, planned) := by
      have answer : (cache.step (.getOrPlan inputs)).1 = some (.ok planned) :=
        congrArg some answered
      rw [answer, kept?]
    have again := after.getOrPlan_of_kept kept
    exact congrArg Prod.fst again

/-- After any history, the next call is answered with the last setup again exactly if it has the
inputs of the last success and nothing was invalidated since.  Refused calls change nothing, and
the count is that of the successful calls that were not answered with the last setup. -/
theorem run_reuses (calls : List Call) (inputs : SetupInputs) :
    AnswersAfter (history calls) (empty.run calls).2 inputs ∧
      (empty.run calls).2.recomputations = plannings (history calls) :=
  ⟨(remembers_history calls).answersAfter inputs, (remembers_history calls).count⟩

/-- A dataset without layers on hardware with some texture dimension. -/
def bareInputs (maxTextureDimension : UInt32) : SetupInputs :=
  ⟨⟨maxTextureDimension, 16⟩, [], 512, false⟩

/-- A refused call leaves the setup for the next one, and an invalidation does not. -/
theorem run_reuses_after_refusal :
    (∃ origin planned,
      lastSuccess? (history [.getOrPlan (bareInputs 8192), .getOrPlan (bareInputs 2048)]) =
        some (origin, planned) ∧
      ((empty.run [.getOrPlan (bareInputs 8192), .getOrPlan (bareInputs 2048)]).2.getOrPlan
        (bareInputs 8192)).1 = .ok planned) ∧
    (empty.run [.getOrPlan (bareInputs 8192), .getOrPlan (bareInputs 2048)]).2.recomputations = 1 ∧
    ¬∃ origin planned,
      lastSuccess? (history [.getOrPlan (bareInputs 8192), .invalidate]) =
        some (origin, planned) ∧
      ((empty.run [.getOrPlan (bareInputs 8192), .invalidate]).2.getOrPlan
        (bareInputs 8192)).1 = .ok planned := by
  obtain ⟨refused, counted⟩ :=
    run_reuses [.getOrPlan (bareInputs 8192), .getOrPlan (bareInputs 2048)] (bareInputs 8192)
  obtain ⟨invalidated, -⟩ :=
    run_reuses [.getOrPlan (bareInputs 8192), .invalidate] (bareInputs 8192)
  refine ⟨refused.again_iff.mpr (by decide), counted.trans (by decide), ?_⟩
  intro again
  exact absurd (invalidated.again_iff.mp again) (by decide)

end SetupCache

end VoxelStream
