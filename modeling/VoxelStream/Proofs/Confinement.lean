import VoxelStream.Proofs.Outcomes
import VoxelStream.Script

/-!
# Confined actions

An action is *confined* to a part of the state if its answer and what it leaves of that part depend
on that part alone, and if it leaves some other part as it was.  A sequence of confined actions is
confined (`Confined.bind`).  So fetching is confined if all its ports are, and so is pushing.

On a stage, fetching is confined to the tokens, the stores and the record of the calls to both, and
leaves the save queue alone.  Pushing and draining are confined to the save queue.
-/

namespace VoxelStream

variable {σ π κ α β : Type}

/-- The action reads and changes its own part of the state, and does not change the other. -/
structure Confined (own : σ → π) (other : σ → κ) (action : StateM σ α) : Prop where
  answer : ∀ first second, own first = own second → (action first).1 = (action second).1
  own : ∀ first second, own first = own second → own (action first).2 = own (action second).2
  other : ∀ before, other (action before).2 = other before

variable {own : σ → π} {other : σ → κ}

namespace Confined

theorem pure (value : α) : Confined own other (pure value : StateM σ α) where
  answer _ _ _ := rfl
  own _ _ same := same
  other _ := rfl

/-- Confined actions may follow each other. -/
theorem bind {action : StateM σ α} {next : α → StateM σ β} (first : Confined own other action)
    (rest : ∀ value, Confined own other (next value)) : Confined own other (action >>= next) where
  answer one two same := by
    show (next (action one).1 (action one).2).1 = (next (action two).1 (action two).2).1
    rw [first.answer one two same]
    exact (rest _).answer _ _ (first.own one two same)
  own one two same := by
    show own (next (action one).1 (action one).2).2 = own (next (action two).1 (action two).2).2
    rw [first.answer one two same]
    exact (rest _).own _ _ (first.own one two same)
  other before := by
    show other (next (action before).1 (action before).2).2 = other before
    rw [(rest _).other, first.other]

/-- An action with a fixed answer that changes neither part. -/
theorem untouched (value : α) {change : σ → σ}
    (ownKept : ∀ before, own (change before) = own before)
    (otherKept : ∀ before, other (change before) = other before) :
    Confined own other fun before => (value, change before) where
  answer _ _ _ := rfl
  own first second same := (ownKept first).trans (same.trans (ownKept second).symm)
  other := otherKept

/-- Writing notices is confined if writing one is. -/
theorem notices {note : Notice → StateM σ Unit}
    (confined : ∀ notice, Confined own other (note notice)) (notices : List Notice) :
    Confined own other (notices.forM note) := by
  induction notices with
  | nil => exact .pure ()
  | cons notice rest ih => exact .bind (confined notice) fun _ => ih

end Confined

/-! ## Fetching -/

/-- All that fetching needs from outside is confined. -/
structure FetchPorts.Confined (own : σ → π) (other : σ → κ) (ports : FetchPorts σ) : Prop where
  token : VoxelStream.Confined own other ports.token
  refresh : VoxelStream.Confined own other ports.refresh
  note : ∀ notice, VoxelStream.Confined own other (ports.note notice)
  request : ∀ request, VoxelStream.Confined own other (ports.request request)
  decode : ∀ data, VoxelStream.Confined own other (ports.decode data)

section

variable {ports : FetchPorts σ} {fetcher : Fetcher σ}

/-- The retry with a fresh token adds nothing to what the operation touches. -/
theorem confined_withToken (confined : ports.Confined own other)
    {operation : String → StateM σ (Except FetchError α)}
    (runs : ∀ token, Confined own other (operation token)) :
    Confined own other (withToken ports.toTokenPorts operation) := by
  apply Confined.bind confined.token
  rintro (error | token)
  · exact .pure _
  apply Confined.bind (runs token)
  rintro (error | value)
  · dsimp only
    split
    next =>
      apply Confined.bind (confined.note _)
      rintro -
      apply Confined.bind confined.refresh
      rintro (error | fresh)
      · exact .pure _
      · exact runs fresh
    next => exact .pure _
  · exact .pure _

/-- Cutting an answer reaches no more than the notices about it do. -/
theorem confined_sliceAnswer {note : Notice → StateM σ Unit}
    (confined : ∀ notice, Confined own other (note notice)) (length batchLength : Nat)
    (missing : List Nat) (buffer : Payload) :
    Confined own other (sliceAnswer note length batchLength missing buffer) := by
  rw [sliceAnswer]
  cases sliceBatch length batchLength missing buffer with
  | error e => exact .pure _
  | ok slices => exact .bind (.notices confined _) fun _ => .pure _

/-- Unpacking reaches no more than the decoder does. -/
theorem Fetcher.confined_voxels (confined : fetcher.ports.Confined own other) (layer : Layer)
    (buffer : Payload) : Confined own other (fetcher.voxels layer buffer) := by
  rw [voxels]
  split
  next => exact confined.decode buffer
  next => exact .pure _

/-- One inquiry stays on the side of its ports. -/
theorem Fetcher.confined_requestFrom (confined : fetcher.ports.Confined own other) (url : String)
    (layer : Layer) (batch : List BucketAddress) :
    Confined own other (fetcher.requestFrom url layer batch) := by
  rw [requestFrom]
  cases batchRequests fetcher.dataset layer batch with
  | error e => exact .pure _
  | ok requests =>
    apply Confined.bind (confined_withToken confined fun token => confined.request _)
    rintro (error | answer)
    · exact .pure _
    apply Confined.bind (confined_voxels confined layer answer.buffer)
    rintro (error | buffer)
    · exact .pure _
    · exact confined_sliceAnswer confined.note _ _ _ _

/-- The inquiry about the gaps stays on the side of its ports. -/
theorem Fetcher.confined_askFallback (confined : fetcher.ports.Confined own other) (layer : Layer)
    (batch : List BucketAddress) (pieces : List Piece) (fallback : String) :
    Confined own other (fetcher.askFallback layer batch pieces fallback) := by
  apply Confined.bind (confined.note _)
  rintro -
  cases gather? batch (missingIndices pieces) with
  | none => exact .pure _
  | some addresses =>
    apply Confined.bind (confined_requestFrom confined _ layer addresses)
    rintro (error | found)
    · exact .pure _
    dsimp only
    cases mergeFallback? pieces (missingIndices pieces) found with
    | none => exact .pure _
    | some merged => exact .pure _

/-- A fetch is confined if all its ports are. -/
theorem Fetcher.confined_fetch (confined : fetcher.ports.Confined own other) (layer : Layer)
    (batch : List BucketAddress) : Confined own other (fetcher.fetch layer batch) := by
  apply Confined.bind (confined_requestFrom confined _ layer batch)
  rintro (error | pieces)
  · exact .pure _
  dsimp only
  cases fallbackFor fetcher.dataset layer pieces with
  | none => exact .pure _
  | some fallback => exact confined_askFallback confined layer batch pieces fallback

end

/-! ## Pushing -/

/-- All that pushing needs from outside is confined. -/
structure PushPorts.Confined (own : σ → π) (other : σ → κ) (ports : PushPorts σ) : Prop where
  encode : ∀ payload, VoxelStream.Confined own other (ports.encode payload)
  submit : ∀ transaction, VoxelStream.Confined own other (ports.submit transaction)
  note : ∀ notice, VoxelStream.Confined own other (ports.note notice)

section

variable {ports : PushPorts σ}

/-- Encoding the payloads of a push stays on the side of the ports. -/
theorem confined_encodeAll (confined : ports.Confined own other) (edits : List Edit) :
    Confined own other (encodeAll ports edits) := by
  induction edits with
  | nil => exact .pure _
  | cons edit rest ih =>
    apply Confined.bind (confined.encode edit.2)
    rintro (error | text)
    · exact .pure _
    apply Confined.bind ih
    rintro (error | texts)
    · exact .pure _
    · exact .pure _

/-- A push is confined if all its ports are. -/
theorem confined_pushBatch (confined : ports.Confined own other) (resolutions : Resolutions)
    (edits : List Edit) : Confined own other (pushBatch resolutions ports edits) := by
  rw [pushBatch]
  split
  next => exact .pure _
  next =>
    cases editDescriptors resolutions edits with
    | error e => exact .pure _
    | ok buckets =>
      apply Confined.bind (confined_encodeAll confined edits)
      rintro (error | texts)
      · exact .pure _
      · exact .bind (confined.note _) fun _ => confined.submit _

end

/-! ## Stages -/

/-- What a stage has for fetching: the scripts of the tokens and of the stores, and the record of
the calls to both. -/
structure FetchSide where
  tokens : TokenScript
  stores : StoreScript
  requests : List StoreRequest
  tokenCalls : List TokenCall

namespace Stage

def fetchSide (stage : Stage) : FetchSide :=
  ⟨stage.tokens, stage.stores, stage.requests, stage.tokenCalls⟩

theorem fetchSide_eq_iff {first second : Stage} :
    first.fetchSide = second.fetchSide ↔
      first.tokens = second.tokens ∧ first.stores = second.stores ∧
        first.requests = second.requests ∧ first.tokenCalls = second.tokenCalls := by
  rw [fetchSide, fetchSide, FetchSide.mk.injEq]

/-- Calls for tokens are on the side of the fetches. -/
theorem confined_callToken (call : TokenCall) : Confined fetchSide queue (callToken call) where
  answer first second same := by
    obtain ⟨tokens, -⟩ := fetchSide_eq_iff.mp same
    simp only [callToken, tokens]
  own first second same := by
    obtain ⟨tokens, stores, requests, tokenCalls⟩ := fetchSide_eq_iff.mp same
    simp only [callToken, fetchSide, tokens, stores, requests, tokenCalls]
  other _ := rfl

/-- Calls of the stores are on the side of the fetches. -/
theorem confined_callStore (request : StoreRequest) :
    Confined fetchSide queue (callStore request) where
  answer first second same := by
    obtain ⟨-, stores, -⟩ := fetchSide_eq_iff.mp same
    simp only [callStore, stores]
  own first second same := by
    obtain ⟨tokens, stores, requests, tokenCalls⟩ := fetchSide_eq_iff.mp same
    simp only [callStore, fetchSide, tokens, stores, requests, tokenCalls]
  other _ := rfl

/-- Saving is on the side of the queue. -/
theorem confined_callQueue (transaction : Transaction) :
    Confined queue fetchSide (callQueue transaction) where
  answer first second same := by simp only [callQueue, same]
  own first second same := by simp only [callQueue, same]
  other _ := rfl

/-- Draining is on the side of the queue. -/
theorem confined_drain : Confined queue fetchSide drain where
  answer first second same := by simp only [drain, same]
  own first second same := by simp only [drain, same]
  other _ := rfl

/-- Codecs count their jobs, and notices go to the log.  Neither is a matter of fetching or of the
queue. -/
theorem confined_fetchPorts (codecs : Codecs) : (fetchPorts codecs).Confined fetchSide queue where
  token := confined_callToken .token
  refresh := confined_callToken .refresh
  note _ := .untouched () (fun _ => rfl) fun _ => rfl
  request := confined_callStore
  decode _ := .untouched _ (fun _ => rfl) fun _ => rfl

/-- Of the two sides, a push reaches the queue alone. -/
theorem confined_pushPorts (codecs : Codecs) : (pushPorts codecs).Confined queue fetchSide where
  encode _ := .untouched _ (fun _ => rfl) fun _ => rfl
  submit := confined_callQueue
  note _ := .untouched () (fun _ => rfl) fun _ => rfl

end Stage

end VoxelStream
