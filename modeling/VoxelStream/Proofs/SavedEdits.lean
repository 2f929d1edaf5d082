import VoxelStream.Proofs.Base64RoundTrip
import VoxelStream.Proofs.HonestStores
import VoxelStream.Proofs.PushAtomicity
import VoxelStream.Script

/-!
# Saved edits

A batch of edits that is pushed with success is saved as updates, one for each edit and in the order
of the edits.  So after a history of pushes the saved items are the updates of all its edits
(`Pushed.updates`).

The tracing store applies them in that order to an *archive* of payloads by position and zoom step.
What the archive has at the position of an address is the payload that was pushed last for this very
address (`Pushed.lookup`).  Two addresses of one zoom step never share a position, and the text
of an update is read back as the payload that was pushed.
-/

namespace VoxelStream

variable {σ : Type}

/-! ## Histories of pushes -/

/-- Payloads are written in base64, and a transaction is saved behind those before it if the queue
takes it.  Nothing else is saved. -/
structure SavesEdits (ports : PushPorts σ) (saved : σ → List Transaction) : Prop where
  encode : ∀ payload before text after, ports.encode payload before = (.ok text, after) →
    text = Base64.encode payload ∧ saved after = saved before
  note : ∀ notice before, saved (ports.note notice before).2 = saved before
  submit : ∀ transaction before after, ports.submit transaction before = (.ok (), after) →
    saved after = saved before ++ [transaction]

/-- A state and the edits that were pushed on the way to it.  Nothing was saved at first.  Between
the pushes anything may happen that saves nothing. -/
inductive Pushed (resolutions : Resolutions) (ports : PushPorts σ)
    (saved : σ → List Transaction) : List Edit → σ → Prop where
  | start {now : σ} : saved now = [] → Pushed resolutions ports saved [] now
  | push {history edits : List Edit} {before after : σ} :
      Pushed resolutions ports saved history before →
      pushBatch resolutions ports edits before = (.ok (), after) →
      Pushed resolutions ports saved (history ++ edits) after
  | other {history : List Edit} {before after : σ} :
      Pushed resolutions ports saved history before → saved after = saved before →
      Pushed resolutions ports saved history after

/-- The updates of some transactions, oldest first. -/
def savedItems (transactions : List Transaction) : List BucketUpdate :=
  transactions.flatMap (·.items)

section

variable {resolutions : Resolutions} {ports : PushPorts σ} {saved : σ → List Transaction}
  {edits history : List Edit} {before after now : σ}

theorem forall_of_editDescriptors {buckets : List BucketDescriptor}
    (translated : editDescriptors resolutions edits = .ok buckets) :
    List.Forall₂ (fun (edit : Edit) bucket => edit.1.descriptor resolutions = .ok bucket)
      edits buckets := by
  induction edits generalizing buckets with
  | nil =>
    cases translated
    exact .nil
  | cons edit rest ih =>
    rw [editDescriptors] at translated
    split at translated
    next => cases translated
    next bucket here =>
      split at translated
      next => cases translated
      next later =>
        cases translated
        exact .cons here (ih later)

/-- Encoding saves nothing. -/
theorem encodeAll_saves (saves : SavesEdits ports saved) {texts : List String}
    (encoded : encodeAll ports edits before = (.ok texts, after)) :
    List.Forall₂ (fun (edit : Edit) text => Codecs.plain.encode edit.2 = .ok text) edits texts ∧
      saved after = saved before := by
  induction edits generalizing before texts with
  | nil =>
    cases encoded
    exact ⟨.nil, rfl⟩
  | cons edit rest ih =>
    rw [encodeAll] at encoded
    rcases here : ports.encode edit.2 before with ⟨_ | text, between⟩
    · rw [bind_run here] at encoded
      cases encoded
    · rw [bind_run here] at encoded
      replace encoded : (encodeAll ports rest >>= _) between = _ := encoded
      rcases later : encodeAll ports rest between with ⟨_ | others, finished⟩
      · rw [bind_run later] at encoded
        cases encoded
      · rw [bind_run later] at encoded
        cases encoded
        obtain ⟨rfl, kept⟩ := saves.encode _ _ _ _ here
        obtain ⟨texts, keptLater⟩ := ih later
        exact ⟨.cons rfl texts, keptLater.trans kept⟩

/-- A batch that is pushed with success is saved as the updates of its edits, in order. -/
theorem savedItems_of_push (saves : SavesEdits ports saved)
    (pushed : pushBatch resolutions ports edits before = (.ok (), after)) :
    ∃ items, List.Forall₂ (Updates resolutions Codecs.plain.encode) edits items ∧
      savedItems (saved after) = savedItems (saved before) ++ items := by
  rw [pushBatch] at pushed
  split at pushed
  next empty =>
    cases pushed
    rw [List.isEmpty_iff.mp empty]
    exact ⟨[], .nil, (List.append_nil _).symm⟩
  next =>
    cases translated : editDescriptors resolutions edits with
    | error e =>
      rw [translated] at pushed
      cases pushed
    | ok buckets =>
      rw [translated] at pushed
      replace pushed : (encodeAll ports edits >>= _) before = _ := pushed
      rcases encoded : encodeAll ports edits before with ⟨_ | texts, between⟩
      · rw [bind_run encoded] at pushed
        cases pushed
      · rw [bind_run encoded] at pushed
        obtain ⟨texts, kept⟩ := encodeAll_saves saves encoded
        have submitted := saves.submit _ _ _ pushed
        refine ⟨_, updatesOf_eq (forall_of_editDescriptors translated) texts, ?_⟩
        rw [submitted, saves.note, kept, savedItems, List.flatMap_append]
        simp [savedItems]

/-- The saved items are the updates of the history. -/
theorem Pushed.updates (saves : SavesEdits ports saved)
    (pushed : Pushed resolutions ports saved history now) :
    List.Forall₂ (Updates resolutions Codecs.plain.encode) history (savedItems (saved now)) := by
  induction pushed with
  | start empty =>
    rw [empty]
    exact .nil
  | push _ pushed ih =>
    obtain ⟨items, updates, appended⟩ := savedItems_of_push saves pushed
    rw [appended]
    exact List.rel_append ih updates
  | other _ same ih => rwa [same]

end

/-! ## Queues that save -/

theorem savesEdits_memoryPorts :
    SavesEdits (memoryPorts Codecs.plain.encode) SaveQueue.waiting where
  encode payload before text after encoded := by
    cases encoded
    exact ⟨rfl, rfl⟩
  note _ _ := rfl
  submit transaction before after submitted := by
    cases submitted
    rfl

/-- A stage saves what its queue does not refuse. -/
theorem savesEdits_stage :
    SavesEdits (Stage.pushPorts .plain) fun stage => stage.queue.accepted.waiting where
  encode payload before text after encoded := by
    cases encoded
    exact ⟨rfl, rfl⟩
  note _ _ := rfl
  submit transaction before after submitted := by
    replace submitted : Stage.callQueue transaction before = (.ok (), after) := submitted
    simp only [Stage.callQueue, SelectiveQueue.submit] at submitted
    split at submitted
    next => cases submitted
    next =>
      cases submitted
      rfl

/-! ## Archives -/

/-- The payloads that a store has of a layer, by position and zoom step. -/
abbrev Archive := Vec3 → UInt32 → Option Payload

namespace Archive

def empty : Archive := fun _ _ => none

/-- The archive with the payload of an update in place of what it had of the bucket. -/
def apply (archive : Archive) (update : BucketUpdate) : Archive := fun position zoomStep =>
  if update.bucket.position = position ∧ update.bucket.zoomStep = zoomStep then
    (decodePayload update.base64Data).toOption
  else archive position zoomStep

/-- What updates leave of an archive, applied in order. -/
def applyAll (archive : Archive) (updates : List BucketUpdate) : Archive :=
  updates.foldl apply archive

/-- The archive of a store that has applied all saved transactions. -/
def ofSaved (transactions : List Transaction) : Archive := empty.applyAll (savedItems transactions)

/-- A store looks for the position and the zoom step of a request. -/
def content (archive : Archive) : Content := fun request =>
  archive request.bucket.position request.bucket.zoomStep

variable {resolutions : Resolutions} {edit : Edit} {update : BucketUpdate} {history : List Edit}
  {updates : List BucketUpdate} {address : BucketAddress} {position : Vec3}

/-- The text of an update is read back as the payload of its edit. -/
theorem decodePayload_of_updates (updates : Updates resolutions Codecs.plain.encode edit update) :
    decodePayload update.base64Data = .ok edit.2 := by
  have written : Base64.encode edit.2 = update.base64Data := Except.ok.inj updates.text
  rw [← written, decodePayload_encode]

/-- The bucket of an update is that of an address exactly if the edit was made there. -/
theorem bucket_of_updates (positive : resolutions.Positive)
    (updates : Updates resolutions Codecs.plain.encode edit update)
    (translates : address.position resolutions = .ok position) :
    update.bucket.position = position ∧ update.bucket.zoomStep = address.zoomStep ↔
      edit.1 = address := by
  have translatesEdit := updates.position
  constructor
  · rintro ⟨rfl, sameStep⟩
    exact BucketAddress.position_inj positive translatesEdit translates
      (updates.zoomStep.symm.trans sameStep)
  · rintro rfl
    rw [translatesEdit] at translates
    exact ⟨Except.ok.inj translates, updates.zoomStep⟩

/-- An update is found at the address of its edit, and no other address notices it. -/
theorem lookup_apply (positive : resolutions.Positive) (archive : Archive)
    (updates : Updates resolutions Codecs.plain.encode edit update)
    (translates : address.position resolutions = .ok position) :
    archive.apply update position address.zoomStep =
      (if edit.1 = address then some edit.2 else none).or (archive position address.zoomStep) := by
  rw [apply, decodePayload_of_updates updates]
  simp only [bucket_of_updates positive updates translates]
  split <;> rfl

/-- What is found at an address is the payload that was written last for it. -/
theorem lookup_applyAll (positive : resolutions.Positive) (archive : Archive)
    (updated : List.Forall₂ (Updates resolutions Codecs.plain.encode) history updates)
    (translates : address.position resolutions = .ok position) :
    archive.applyAll updates position address.zoomStep =
      (lastWrite history address).or (archive position address.zoomStep) := by
  induction updated generalizing archive with
  | nil => rfl
  | @cons edit update _ _ here _ ih =>
    have later := ih (archive.apply update)
    rw [lookup_apply positive archive here translates, ← Option.or_assoc] at later
    exact later

/-- Every payload of an archive was written by an edit or was there before. -/
theorem mem_of_lookup_applyAll {archive : Archive} {zoomStep : UInt32} {payload : Payload}
    (updated : List.Forall₂ (Updates resolutions Codecs.plain.encode) history updates)
    (found : archive.applyAll updates position zoomStep = some payload) :
    payload ∈ history.map (·.2) ∨ archive position zoomStep = some payload := by
  induction updated generalizing archive with
  | nil => exact .inr found
  | cons here _ ih =>
    rw [List.map_cons, List.mem_cons]
    rcases ih found with later | earlier
    · exact .inl (.inr later)
    · rw [apply, decodePayload_of_updates here] at earlier
      split at earlier
      · cases earlier
        exact .inl (.inl rfl)
      · exact .inr earlier

end Archive

/-! ## What pushing leaves on a store -/

section

variable {resolutions : Resolutions} {ports : PushPorts σ} {saved : σ → List Transaction}
  {history : List Edit} {now : σ}

/-- The store has at an address what was pushed last for it. -/
theorem Pushed.lookup (positive : resolutions.Positive) (saves : SavesEdits ports saved)
    (pushed : Pushed resolutions ports saved history now) {address : BucketAddress}
    {position : Vec3} (translates : address.position resolutions = .ok position) :
    Archive.ofSaved (saved now) position address.zoomStep = lastWrite history address := by
  rw [Archive.ofSaved, Archive.lookup_applyAll positive _ (pushed.updates saves) translates]
  exact Option.or_none

/-- If all payloads that were pushed have one length, so have those of the store. -/
theorem Pushed.sized (saves : SavesEdits ports saved)
    (pushed : Pushed resolutions ports saved history now) {length : Nat}
    (sized : ∀ edit ∈ history, edit.2.length = length) {position : Vec3} {zoomStep : UInt32}
    {payload : Payload} (found : Archive.ofSaved (saved now) position zoomStep = some payload) :
    payload.length = length := by
  rcases Archive.mem_of_lookup_applyAll (pushed.updates saves) found with written | nothing
  · obtain ⟨edit, member, rfl⟩ := List.mem_map.mp written
    exact sized edit member
  · cases nothing

end

end VoxelStream
