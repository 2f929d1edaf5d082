import VoxelStream.Proofs.PushAtomicity
import VoxelStream.Proofs.SessionIndependence

/-!
# Transactions of a session

A session pushes into a save queue that may refuse any of its calls.  `Pushes` lists the four ways
of a push: there is nothing to push, an address has no position, the queue refuses, or the queue
takes the transaction of the batch.  Only the last two are calls of the queue.

Over a run, what was drained and what still waits is together one transaction for each push that
was taken, in the order of the pushes (`run_saves`).  Nothing is lost at a refusal or at a drain,
and nothing is saved twice.  Which calls are refused goes by the number of calls so far, so pushes
that are no calls do not count.
-/

namespace VoxelStream

/-- A transaction saves a batch of edits: it has one update for each edit, in order. -/
structure Saves (resolutions : Resolutions) (edits : List Edit) (transaction : Transaction) :
    Prop where
  category : transaction.category = "volume"
  items : List.Forall₂ (Updates resolutions Codecs.plain.encode) edits transaction.items

/-- All edits of a batch have a position. -/
def Translates (resolutions : Resolutions) (edits : List Edit) : Prop :=
  ∀ edit ∈ edits, ∃ position, edit.1.position resolutions = .ok position

/-- How a push of a batch at a save queue ends, and the queue after it. -/
inductive Pushes (resolutions : Resolutions) (edits : List Edit) (queue : SelectiveQueue) :
    Except PushError Unit → SelectiveQueue → Prop where
  | nothing : edits = [] → Pushes resolutions edits queue (.ok ()) queue
  | untranslated {before after : List Edit} {edit : Edit} {error : AddressError} :
      edits = before ++ edit :: after → Translates resolutions before →
      edit.1.position resolutions = .error error →
      Pushes resolutions edits queue (.error (.ofAddress error)) queue
  | refused : edits ≠ [] → Translates resolutions edits → queue.refused queue.calls = true →
      Pushes resolutions edits queue
        (.error (.queue s!"call {queue.calls} with {edits.length} items"))
        { queue with calls := queue.calls + 1 }
  | taken {transaction : Transaction} :
      edits ≠ [] → Translates resolutions edits → queue.refused queue.calls = false →
      Saves resolutions edits transaction →
      Pushes resolutions edits queue (.ok ())
        { queue with
          calls := queue.calls + 1
          accepted := queue.accepted.submit transaction }

/-! ## One push -/

section

variable {resolutions : Resolutions} {edits : List Edit}

theorem Stage.queue_afterEncoding (codecs : Codecs) (edits : List Edit) (stage : Stage) :
    (afterEncoding (Stage.pushPorts codecs) edits stage).queue = stage.queue := by
  induction edits generalizing stage with
  | nil => rfl
  | cons edit rest ih => exact ih _

/-- A call of the queue is refused or taken. -/
theorem pushes_submit {items : List BucketUpdate} (nonempty : edits ≠ [])
    (translates : Translates resolutions edits)
    (updates : List.Forall₂ (Updates resolutions Codecs.plain.encode) edits items)
    (queue : SelectiveQueue) :
    Pushes resolutions edits queue (queue.submit ⟨volumeCategory, items⟩).1
      (queue.submit ⟨volumeCategory, items⟩).2 := by
  rw [SelectiveQueue.submit]
  cases decision : queue.refused queue.calls with
  | true =>
    rw [if_pos rfl, ← updates.length_eq]
    exact .refused nonempty translates decision
  | false =>
    rw [if_neg Bool.false_ne_true]
    exact .taken nonempty translates decision ⟨rfl, updates⟩

/-- A push on a stage ends in one of the four ways. -/
theorem pushes_pushBatch (resolutions : Resolutions) (edits : List Edit) (stage : Stage) :
    Pushes resolutions edits stage.queue
      (pushBatch resolutions (Stage.pushPorts .plain) edits stage).1
      (pushBatch resolutions (Stage.pushPorts .plain) edits stage).2.queue := by
  by_cases nonempty : edits = []
  · subst nonempty
    exact .nothing rfl
  cases all_or_first_error (fun edit : Edit => edit.1.position resolutions) edits with
  | inr untranslated =>
    obtain ⟨before, edit, after, error, rfl, earlier, fails⟩ := untranslated
    rw [pushBatch_of_address_error earlier fails]
    exact .untranslated rfl earlier fails
  | inl translates =>
    have answers (payload : Payload) (start : Stage) :
        ((Stage.pushPorts .plain).encode payload start).1 = Codecs.plain.encode payload := rfl
    obtain ⟨items, updates, run⟩ :=
      pushBatch_of_ok answers nonempty translates (fun edit _ => ⟨_, rfl⟩) stage
    have queue : (Stage.note (.updatesSubmitted items.length)
        (afterEncoding (Stage.pushPorts .plain) edits stage)).2.queue = stage.queue :=
      Stage.queue_afterEncoding .plain edits stage
    rw [run]
    show Pushes resolutions edits stage.queue (Stage.callQueue _ _).1 (Stage.callQueue _ _).2.queue
    simp only [Stage.callQueue, ← queue]
    exact pushes_submit nonempty translates updates _

end

namespace Session

variable {resolutions : Resolutions} {edits : List Edit} {earlier later : List (Step × Outcome)}
  {before between after : SelectiveQueue}

/-! ## The ledger of a run -/

/-- The batch that a step saved: that of a push with edits that succeeded. -/
def savedBatch? : Step × Outcome → Option (List Edit)
  | (.push edits, .pushed (.ok ())) => if edits.isEmpty then none else some edits
  | _ => none

/-- The transactions that a step drained. -/
def drainedBy : Step × Outcome → List Transaction
  | (_, .drained transactions) => transactions
  | _ => []

/-- Steps that are calls of the save queue: pushes of edits that all have a position. -/
def Step.callsQueue (resolutions : Resolutions) : Step → Bool
  | .push edits =>
    !edits.isEmpty && edits.all fun edit => (edit.1.position resolutions).isOk
  | _ => false

theorem callsQueue_push_iff :
    (Step.push edits).callsQueue resolutions = true ↔
      edits ≠ [] ∧ Translates resolutions edits := by
  have position (edit : Edit) : (edit.1.position resolutions).isOk = true ↔
      ∃ position, edit.1.position resolutions = .ok position := by
    cases edit.1.position resolutions <;> simp [Except.isOk, Except.toBool]
  simp [Step.callsQueue, Translates, position]

/-- What steps with their outcomes do to a save queue.  Drained and waiting transactions together
grow by those of the saved batches, in order, and each call is counted. -/
structure Ledger (resolutions : Resolutions) (entries : List (Step × Outcome))
    (before after : SelectiveQueue) : Prop where
  saved : ∃ added, List.Forall₂ (Saves resolutions) (entries.filterMap savedBatch?) added ∧
    entries.flatMap drainedBy ++ after.accepted.waiting = before.accepted.waiting ++ added
  calls : after.calls =
    before.calls + (entries.map (·.1)).countP (Step.callsQueue resolutions)
  refused : after.refused = before.refused

namespace Ledger

theorem nil : Ledger resolutions [] before before where
  saved := ⟨[], .nil, by simp⟩
  calls := rfl
  refused := rfl

theorem append (first : Ledger resolutions earlier before between)
    (second : Ledger resolutions later between after) :
    Ledger resolutions (earlier ++ later) before after where
  saved := by
    obtain ⟨addedFirst, savesFirst, balanceFirst⟩ := first.saved
    obtain ⟨addedSecond, savesSecond, balanceSecond⟩ := second.saved
    refine ⟨addedFirst ++ addedSecond, ?_, ?_⟩
    · rw [List.filterMap_append]
      exact List.rel_append savesFirst savesSecond
    · calc
        (earlier ++ later).flatMap drainedBy ++ after.accepted.waiting
            = earlier.flatMap drainedBy ++
                (later.flatMap drainedBy ++ after.accepted.waiting) := by simp
        _ = (earlier.flatMap drainedBy ++ between.accepted.waiting) ++ addedSecond := by
            rw [balanceSecond, List.append_assoc]
        _ = before.accepted.waiting ++ (addedFirst ++ addedSecond) := by
            rw [balanceFirst, List.append_assoc]
  calls := by
    rw [second.calls, first.calls, List.map_append, List.countP_append, Nat.add_assoc]
  refused := second.refused.trans first.refused

/-- A step that is no push and drains nothing leaves the queue as it is. -/
theorem untouched {step : Step} {outcome : Outcome} (noBatch : savedBatch? (step, outcome) = none)
    (noDrain : drainedBy (step, outcome) = []) (noCall : step.callsQueue resolutions = false)
    (same : after = before) : Ledger resolutions [(step, outcome)] before after where
  saved := ⟨[], by simp [noBatch], by simp [noDrain, same]⟩
  calls := by simp [noCall, same]
  refused := by rw [same]

theorem push {result : Except PushError Unit}
    (pushes : Pushes resolutions edits before result after) :
    Ledger resolutions [(.push edits, .pushed result)] before after := by
  cases pushes with
  | nothing empty =>
    subst empty
    exact .untouched rfl rfl rfl rfl
  | untranslated split earlier fails =>
    apply untouched rfl rfl _ rfl
    rw [Bool.eq_false_iff, Ne, callsQueue_push_iff]
    rintro ⟨-, translates⟩
    obtain ⟨position, found⟩ := translates _ (split ▸ List.mem_append_cons_self)
    rw [fails] at found
    cases found
  | refused nonempty translates _ =>
    have call := callsQueue_push_iff.mpr ⟨nonempty, translates⟩
    exact ⟨⟨[], .nil, by simp [drainedBy]⟩, by simp [call], rfl⟩
  | @taken transaction nonempty translates _ saves =>
    have call := callsQueue_push_iff.mpr ⟨nonempty, translates⟩
    refine ⟨⟨[transaction], ?_, ?_⟩, by simp [call], rfl⟩
    · simp [savedBatch?, nonempty, saves]
    · simp [drainedBy, SaveQueue.submit]

theorem drain (before : SelectiveQueue) :
    Ledger resolutions [(.drain, .drained before.accepted.waiting)] before
      { before with accepted := .empty } where
  saved := ⟨[], .nil, by simp [drainedBy, SaveQueue.empty]⟩
  calls := rfl
  refused := rfl

end Ledger

/-- One step of a session keeps the ledger of its save queue. -/
theorem ledger_step (session : Session) (step : Step) :
    Ledger session.config.dataset.resolutions [(step, (session.step step).1)] session.stage.queue
      (session.step step).2.stage.queue := by
  cases step with
  | push edits => exact .push (pushes_pushBatch _ edits session.stage)
  | drain => exact .drain session.stage.queue
  | fetch layerName batch =>
    have same := separate_save.unchanged session (.fetch layerName batch) rfl
    rcases session.step_fetch_cases layerName batch with ⟨-, unknown⟩ | ⟨layer, -, known⟩
    · rw [unknown] at same ⊢
      exact .untouched rfl rfl rfl same
    · rw [known] at same ⊢
      exact .untouched rfl rfl rfl same
  | fetchLayer | textureSetup | updateLimits =>
    exact .untouched rfl rfl rfl (separate_save.unchanged session _ rfl)

/-- So does a run. -/
theorem ledger_run (session : Session) (steps : List Step) :
    Ledger session.config.dataset.resolutions (session.record steps) session.stage.queue
      (session.run steps).2.stage.queue := by
  induction steps generalizing session with
  | nil => exact .nil
  | cons step rest ih =>
    have later := ih (session.step step).2
    rw [config_step] at later
    exact (ledger_step session step).append later

/-! ## No edit is lost -/

/-- Take a session whose save queue has not been called yet.  After any steps, the transactions that
were drained and those that wait are one transaction for each push of edits that succeeded, in the
order of the pushes.  The calls of the queue are the pushes of edits that all have a position.  The
number of such pushes before it decides whether a push is refused. -/
theorem run_saves (session : Session) (refused : Nat → Bool)
    (fresh : session.stage.queue = .refusing refused) (steps : List Step) :
    List.Forall₂ (Saves session.config.dataset.resolutions)
      ((session.record steps).filterMap savedBatch?)
      ((session.record steps).flatMap drainedBy
        ++ (session.run steps).2.stage.queue.accepted.waiting) ∧
    (session.run steps).2.stage.queue.calls =
      steps.countP (Step.callsQueue session.config.dataset.resolutions) ∧
    ∀ before edits after, steps = before ++ .push edits :: after →
      ∃ queue result left,
        queue.calls = before.countP (Step.callsQueue session.config.dataset.resolutions) ∧
        queue.refused = refused ∧
        Pushes session.config.dataset.resolutions edits queue result left ∧
        (session.run steps).1[before.length]? = some (.pushed result) := by
  have calls (steps : List Step) : (session.run steps).2.stage.queue.calls =
      steps.countP (Step.callsQueue session.config.dataset.resolutions) := by
    rw [(ledger_run session steps).calls, fresh, map_fst_record]
    exact Nat.zero_add _
  refine ⟨?saved, calls steps, ?decided⟩
  case saved =>
    obtain ⟨added, saves, balance⟩ := (ledger_run session steps).saved
    rw [balance, fresh]
    exact saves
  case decided =>
    rintro before edits after rfl
    have decisions : (session.run before).2.stage.queue.refused = refused := by
      rw [(ledger_run session before).refused, fresh]
      rfl
    refine ⟨_, _, _, calls before, decisions, pushes_pushBatch _ edits _, ?_⟩
    rw [outcome_at, Session.step, push, config_run]
    rfl

/-- Of the pushes of this run one has no edits, one an unknown zoom step, and one is refused. -/
def hamperedSteps : List Step :=
  [.push [], .push [(⟨0, 0, 0, 7⟩, [1])], .push [(⟨0, 0, 0, 0⟩, [1])],
   .push [(⟨1, 0, 0, 0⟩, [2]), (⟨0, 0, 0, 0⟩, [3])], .drain, .push [(⟨0, 0, 0, 0⟩, [4])]]

/-- The two other pushes are saved, and the refused one is the first of three calls. -/
theorem run_saves_hampered :
    ∃ first second,
      ((start {} ⟨4096, 8⟩ 1 rehearsal).record hamperedSteps).flatMap drainedBy
        ++ ((start {} ⟨4096, 8⟩ 1 rehearsal).run hamperedSteps).2.stage.queue.accepted.waiting =
          [first, second] ∧
      Saves [⟨1, 1, 1⟩] [(⟨1, 0, 0, 0⟩, [2]), (⟨0, 0, 0, 0⟩, [3])] first ∧
      Saves [⟨1, 1, 1⟩] [(⟨0, 0, 0, 0⟩, [4])] second ∧
      ((start {} ⟨4096, 8⟩ 1 rehearsal).run hamperedSteps).2.stage.queue.calls = 3 := by
  obtain ⟨saved, calls, -⟩ :=
    run_saves (start {} ⟨4096, 8⟩ 1 rehearsal) (· == 0) rfl hamperedSteps
  have batches : ((start {} ⟨4096, 8⟩ 1 rehearsal).record hamperedSteps).filterMap savedBatch? =
      [[(⟨1, 0, 0, 0⟩, [2]), (⟨0, 0, 0, 0⟩, [3])], [(⟨0, 0, 0, 0⟩, [4])]] := by
    decide +kernel
  rw [batches] at saved
  obtain ⟨first, _, savesFirst, rest, total⟩ := List.forall₂_cons_left_iff.mp saved
  obtain ⟨second, _, savesSecond, nothing, rfl⟩ := List.forall₂_cons_left_iff.mp rest
  cases nothing
  exact ⟨first, second, total, savesFirst, savesSecond, calls.trans (by decide +kernel)⟩

end Session

end VoxelStream
