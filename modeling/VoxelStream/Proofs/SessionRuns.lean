import VoxelStream.Session

/-!
# Runs of a session

A run takes one step after the other and never changes the configuration.  Its outcomes are in the
order of its steps, so the outcome of a step stands at the place of the step (`outcome_at`).

Some kind of steps is *separate* if there is a part of the session that only these steps change, and
if what they come to depends on this part alone.  A run then answers the steps of this kind as if
they were the only ones (`Separate.run_filter`).
-/

namespace VoxelStream

namespace Session

variable {first second : Session} {steps others : List Step} {π : Type}

/-- A fetch of an unknown layer leaves the session as it is, and any other is one of the layer as a
whole. -/
theorem step_fetch_cases (session : Session) (layerName : String) (batch : List BucketAddress) :
    (session.config.dataset.layer? layerName = none ∧
      session.step (.fetch layerName batch) =
        (.fetched (.error (.failed (.unknownLayer layerName))), session)) ∨
    ∃ layer, session.config.dataset.layer? layerName = some layer ∧
      session.step (.fetch layerName batch) = session.step (.fetchLayer layer batch) := by
  cases found : session.config.dataset.layer? layerName with
  | none =>
    refine .inl ⟨rfl, ?_⟩
    rw [Session.step, fetch, found]
  | some layer =>
    refine .inr ⟨layer, rfl, ?_⟩
    rw [Session.step, fetch, found]
    rfl

/-! ## Steps in a row -/

/-- A run of more steps goes on where the first one ended. -/
theorem run_append (session : Session) (steps more : List Step) :
    session.run (steps ++ more) =
      ((session.run steps).1 ++ ((session.run steps).2.run more).1,
        ((session.run steps).2.run more).2) := by
  induction steps generalizing session with
  | nil => rfl
  | cons step rest ih => simp [run, ih]

/-- Every step has one outcome. -/
theorem length_run (session : Session) (steps : List Step) :
    (session.run steps).1.length = steps.length := by
  induction steps generalizing session with
  | nil => rfl
  | cons step rest ih => simp [run, ih]

/-- The outcome of a step stands at its place, and the step was taken where the run before it
ended. -/
theorem outcome_at (session : Session) (before after : List Step) (step : Step) :
    (session.run (before ++ step :: after)).1[before.length]? =
      some ((session.run before).2.step step).1 := by
  have length := length_run session before
  rw [run_append, List.getElem?_append_right (Nat.le_of_eq length), length, Nat.sub_self]
  rfl

/-- The steps of a run, each with its outcome. -/
def record (session : Session) (steps : List Step) : List (Step × Outcome) :=
  steps.zip (session.run steps).1

theorem record_cons (session : Session) (step : Step) (rest : List Step) :
    session.record (step :: rest) =
      (step, (session.step step).1) :: (session.step step).2.record rest :=
  rfl

theorem map_fst_record (session : Session) (steps : List Step) :
    (session.record steps).map (·.1) = steps :=
  List.map_fst_zip (Nat.le_of_eq (length_run session steps).symm)

/-- No step changes the configuration. -/
@[simp]
theorem config_step (session : Session) (step : Step) :
    (session.step step).2.config = session.config := by
  cases step with
  | fetch layerName batch =>
    rcases session.step_fetch_cases layerName batch with ⟨-, unknown⟩ | ⟨layer, -, known⟩
    · rw [unknown]
    · rw [known]
      rfl
  | fetchLayer | push | textureSetup | updateLimits | drain => rfl

@[simp]
theorem config_run (session : Session) (steps : List Step) :
    (session.run steps).2.config = session.config := by
  induction steps generalizing session with
  | nil => rfl
  | cons step rest ih => simp [run, ih]

/-! ## Separate kinds of steps -/

/-- What the steps of some kind come to in a run, in order. -/
def outcomesOf (session : Session) (kind : Step → Bool) (steps : List Step) : List Outcome :=
  ((session.record steps).filter fun entry => kind entry.1).map (·.2)

theorem outcomesOf_cons (session : Session) (kind : Step → Bool) (step : Step)
    (rest : List Step) :
    session.outcomesOf kind (step :: rest) =
      (if kind step then [(session.step step).1] else [])
        ++ (session.step step).2.outcomesOf kind rest := by
  cases here : kind step <;> simp [outcomesOf, record_cons, here]

/-- Steps of the kind depend on the part alone, and no other step changes it. -/
structure Separate (kind : Step → Bool) (part : Session → π) : Prop where
  agree : ∀ first second step, kind step = true → first.config = second.config →
    part first = part second → (first.step step).1 = (second.step step).1 ∧
      part (first.step step).2 = part (second.step step).2
  unchanged : ∀ before step, kind step = false → part (before.step step).2 = part before

variable {kind : Step → Bool} {part : Session → π}

/-- The other steps of a run make no difference to the steps of the kind. -/
theorem Separate.run_filter (separate : Separate kind part) (config : first.config = second.config)
    (same : part first = part second) (steps : List Step) :
    first.outcomesOf kind steps = (second.run (steps.filter kind)).1 ∧
      part (first.run steps).2 = part (second.run (steps.filter kind)).2 := by
  induction steps generalizing first second with
  | nil => exact ⟨rfl, same⟩
  | cons step rest ih =>
    cases here : kind step with
    | true =>
      obtain ⟨outcome, after⟩ := separate.agree first second step here config same
      obtain ⟨outcomes, last⟩ := ih (by simpa using config) after
      simp [outcomesOf_cons, here, run, outcome, outcomes, last]
    | false =>
      have after := (separate.unchanged first step here).trans same
      obtain ⟨outcomes, last⟩ := ih (by simpa using config) after
      simp [outcomesOf_cons, here, run, outcomes, last]

/-- Two runs with the same steps of the kind come to the same for these steps. -/
theorem Separate.runs_agree (separate : Separate kind part) (config : first.config = second.config)
    (same : part first = part second) (filtered : steps.filter kind = others.filter kind) :
    first.outcomesOf kind steps = second.outcomesOf kind others ∧
      part (first.run steps).2 = part (second.run others).2 := by
  obtain ⟨firstOutcomes, firstLast⟩ := separate.run_filter config same steps
  obtain ⟨secondOutcomes, secondLast⟩ :=
    separate.run_filter (rfl : second.config = second.config) rfl others
  rw [filtered] at firstOutcomes firstLast
  exact ⟨firstOutcomes.trans secondOutcomes.symm, firstLast.trans secondLast.symm⟩

end Session

end VoxelStream
