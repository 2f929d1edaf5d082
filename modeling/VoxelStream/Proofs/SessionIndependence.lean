import VoxelStream.Proofs.Confinement
import VoxelStream.Proofs.SessionRuns
import VoxelStream.Proofs.SetupCaching

/-!
# The activities of a session

Fetching, saving and planning share the configuration of a session and nothing else that matters to
them.  Fetches depend on the scripts of the tokens and stores, pushes and drains on the save queue,
and setups on the current limits.  Each of these is a part of the session that no other kind of
steps changes.

So in a run the steps of one kind come to the same whatever steps of the other kinds stand between
them (`run_independent`).  Setups are the same as if they were planned anew, although the cache
outlives changes of the limits.
-/

namespace VoxelStream

namespace Session

variable {session first second : Session}

/-! ## Kinds of steps -/

/-- Steps that fetch. -/
def Step.isFetch : Step → Bool
  | .fetch .. | .fetchLayer .. => true
  | _ => false

/-- Steps at the save queue. -/
def Step.isSave : Step → Bool
  | .push _ | .drain => true
  | _ => false

theorem confined_fetchLayer (session : Session) (layer : Layer) (batch : List BucketAddress) :
    Confined Stage.fetchSide Stage.queue (session.fetcher.fetch layer batch) :=
  Fetcher.confined_fetch (Stage.confined_fetchPorts .plain) layer batch

theorem confined_push (config : Config) (edits : List Edit) :
    Confined Stage.queue Stage.fetchSide
      (pushBatch config.dataset.resolutions (Stage.pushPorts .plain) edits) :=
  confined_pushBatch (Stage.confined_pushPorts .plain) _ edits

/-- Sessions with one configuration fetch the same if they agree on the scripts. -/
theorem fetchLayer_agree (config : first.config = second.config)
    (same : first.stage.fetchSide = second.stage.fetchSide) (layer : Layer)
    (batch : List BucketAddress) :
    (first.fetchLayer layer batch).1 = (second.fetchLayer layer batch).1 ∧
      (first.fetchLayer layer batch).2.stage.fetchSide =
        (second.fetchLayer layer batch).2.stage.fetchSide := by
  have fetchers : first.fetcher = second.fetcher := by rw [fetcher, fetcher, config]
  have confined := confined_fetchLayer second layer batch
  simp only [fetchLayer, onStage, fetchers]
  exact ⟨confined.answer _ _ same, confined.own _ _ same⟩

/-- Fetches depend on the scripts of the tokens and stores. -/
theorem separate_fetch : Separate Step.isFetch fun session => session.stage.fetchSide where
  agree first second step kind config same := by
    cases step with
    | fetch layerName batch =>
      simp only [Session.step, fetch, config]
      cases second.config.dataset.layer? layerName with
      | none => exact ⟨rfl, same⟩
      | some layer =>
        obtain ⟨answer, after⟩ := fetchLayer_agree config same layer batch
        exact ⟨congrArg Outcome.fetched answer, after⟩
    | fetchLayer layer batch =>
      obtain ⟨answer, after⟩ := fetchLayer_agree config same layer batch
      exact ⟨congrArg Outcome.fetched answer, after⟩
    | push | textureSetup | updateLimits | drain => cases kind
  unchanged before step kind := by
    cases step with
    | fetch | fetchLayer => cases kind
    | push edits => exact (confined_push before.config edits).other before.stage
    | drain => exact Stage.confined_drain.other before.stage
    | textureSetup | updateLimits => rfl

/-- Pushes and drains depend on the save queue. -/
theorem separate_save : Separate Step.isSave fun session => session.stage.queue where
  agree first second step kind config same := by
    cases step with
    | push edits =>
      have confined := confined_push second.config edits
      simp only [Session.step, push, onStage, config]
      exact ⟨congrArg Outcome.pushed (confined.answer _ _ same), confined.own _ _ same⟩
    | drain =>
      have confined := Stage.confined_drain
      exact ⟨congrArg Outcome.drained (confined.answer _ _ same), confined.own _ _ same⟩
    | fetch | fetchLayer | textureSetup | updateLimits => cases kind
  unchanged before step kind := by
    cases step with
    | fetch layerName batch =>
      rcases before.step_fetch_cases layerName batch with ⟨-, unknown⟩ | ⟨layer, -, known⟩
      · rw [unknown]
      · rw [known]
        exact (confined_fetchLayer before layer batch).other before.stage
    | fetchLayer layer batch => exact (confined_fetchLayer before layer batch).other before.stage
    | push | drain => cases kind
    | textureSetup | updateLimits => rfl

/-! ## Setups -/

/-- The limits after some steps: those of the last update, if there is one. -/
def limitsAfter (limits : Limits) (steps : List Step) : Limits :=
  (steps.filterMap fun
    | .updateLimits limits => some limits
    | _ => none).getLast?.getD limits

theorem limits_run (session : Session) (steps : List Step) :
    (session.run steps).2.limits = limitsAfter session.limits steps := by
  induction steps generalizing session with
  | nil => rfl
  | cons step rest ih =>
    rw [run, ih]
    cases step with
    | updateLimits limits => simp [limitsAfter, Session.step, updateLimits, List.getLast?_cons]
    | fetch layerName batch =>
      rcases session.step_fetch_cases layerName batch with ⟨-, unknown⟩ | ⟨layer, -, known⟩
      · rw [unknown]
        rfl
      · rw [known]
        rfl
    | fetchLayer | push | textureSetup | drain => rfl

/-- What is planned for in a session with a configuration and some limits. -/
def inputsFor (config : Config) (limits : Limits) : SetupInputs :=
  { limits := limits
    layers := config.dataset.layers
    required := config.pipeline.requiredCapacity
    hasSegmentation := config.dataset.hasSegmentation }

/-- No step spoils the cache. -/
theorem faithful_step (faithful : session.cache.Faithful) (step : Step) :
    (session.step step).2.cache.Faithful := by
  cases step with
  | textureSetup => exact (faithful.getOrPlan session.setupInputs).2
  | fetch layerName batch =>
    rcases session.step_fetch_cases layerName batch with ⟨-, unknown⟩ | ⟨layer, -, known⟩
    · rwa [unknown]
    · rw [known]
      exact faithful
  | fetchLayer | push | updateLimits | drain => exact faithful

theorem faithful_run (faithful : session.cache.Faithful) (steps : List Step) :
    (session.run steps).2.cache.Faithful := by
  induction steps generalizing session with
  | nil => exact faithful
  | cons step rest ih => exact ih (faithful_step faithful step)

/-- A setup after some steps is the one that planning gives for the limits of the last update. -/
theorem textureSetup_at (faithful : session.cache.Faithful) (before after : List Step) :
    ∃ result, (session.run (before ++ .textureSetup :: after)).1[before.length]? =
        some (.planned result) ∧
      result.map (·.setup) =
        (inputsFor session.config (limitsAfter session.limits before)).plan := by
  refine ⟨_, outcome_at session before after .textureSetup, ?_⟩
  have inputs : (session.run before).2.setupInputs =
      inputsFor session.config (limitsAfter session.limits before) := by
    rw [setupInputs, config_run, limits_run]
    rfl
  rw [← inputs]
  exact ((faithful_run faithful before).getOrPlan _).1

/-! ## Independence -/

/-- Take two sessions with one configuration.  If they start with the same scripts and fetch the
same, they come to the same fetches, requests and token calls.  If they start with the same save
queue and push and drain the same, they come to the same pushes and transactions.  Every setup is
the one that planning gives for the limits of the last update.  What else the sessions do, and with
what success, makes no difference. -/
theorem run_independent (config : Config) (limits otherLimits : Limits)
    (threads otherThreads : Nat) (stage otherStage : Stage) (steps others : List Step) :
    (stage.fetchSide = otherStage.fetchSide →
      steps.filter Step.isFetch = others.filter Step.isFetch →
      (start config limits threads stage).outcomesOf Step.isFetch steps =
        (start config otherLimits otherThreads otherStage).outcomesOf Step.isFetch others ∧
      ((start config limits threads stage).run steps).2.stage.fetchSide =
        ((start config otherLimits otherThreads otherStage).run others).2.stage.fetchSide) ∧
    (stage.queue = otherStage.queue →
      steps.filter Step.isSave = others.filter Step.isSave →
      (start config limits threads stage).outcomesOf Step.isSave steps =
        (start config otherLimits otherThreads otherStage).outcomesOf Step.isSave others ∧
      ((start config limits threads stage).run steps).2.stage.queue =
        ((start config otherLimits otherThreads otherStage).run others).2.stage.queue) ∧
    ∀ before after, steps = before ++ .textureSetup :: after →
      ∃ result, ((start config limits threads stage).run steps).1[before.length]? =
          some (.planned result) ∧
        result.map (·.setup) = (inputsFor config (limitsAfter limits before)).plan := by
  refine ⟨?fetches, ?saves, ?setups⟩
  case fetches =>
    intro scripts filtered
    exact separate_fetch.runs_agree rfl scripts filtered
  case saves =>
    intro queue filtered
    exact separate_save.runs_agree rfl queue filtered
  case setups =>
    rintro before after rfl
    exact textureSetup_at SetupCache.faithful_empty before after

/-- A stage with one answer for a layer, whose save queue refuses its first call. -/
def rehearsal : Stage where
  tokens := .fixed "token"
  stores := [("http://localhost:9000/data/datasets///layers/gray", .ok ⟨[], [0]⟩)]
  queue := .refusing (· == 0)

/-- Steps of all kinds, on hardware that becomes unsupported and is supported again. -/
def busySteps : List Step :=
  [.push [(⟨0, 0, 0, 0⟩, [1])], .updateLimits ⟨2048, 4⟩, .textureSetup,
   .fetchLayer (.color "gray" .uint8) [⟨0, 0, 0, 0⟩], .updateLimits ⟨4096, 8⟩, .textureSetup,
   .drain]

/-- A fetch comes to the same without the refused push and the refused setup before it, and the
setup after them is that of the limits that were restored. -/
theorem run_independent_rehearsal :
    (start {} ⟨8192, 16⟩ 2 rehearsal).outcomesOf Step.isFetch busySteps =
      (start {} ⟨2048, 4⟩ 1 rehearsal).outcomesOf Step.isFetch
        [.fetchLayer (.color "gray" .uint8) [⟨0, 0, 0, 0⟩]] ∧
    (start {} ⟨8192, 16⟩ 2 rehearsal).outcomesOf Step.isSave busySteps =
      (start {} ⟨2048, 4⟩ 1 rehearsal).outcomesOf Step.isSave
        [.push [(⟨0, 0, 0, 0⟩, [1])], .textureSetup, .drain] ∧
    ∃ result, ((start {} ⟨8192, 16⟩ 2 rehearsal).run busySteps).1[5]? = some (.planned result) ∧
      result.map (·.setup) = (inputsFor {} ⟨4096, 8⟩).plan := by
  obtain ⟨fetches, -, setups⟩ := run_independent {} ⟨8192, 16⟩ ⟨2048, 4⟩ 2 1 rehearsal rehearsal
    busySteps [.fetchLayer (.color "gray" .uint8) [⟨0, 0, 0, 0⟩]]
  obtain ⟨-, saves, -⟩ := run_independent {} ⟨8192, 16⟩ ⟨2048, 4⟩ 2 1 rehearsal rehearsal
    busySteps [.push [(⟨0, 0, 0, 0⟩, [1])], .textureSetup, .drain]
  exact ⟨(fetches rfl rfl).1, (saves rfl rfl).1, setups (busySteps.take 5) [.drain] rfl⟩

end Session

end VoxelStream
