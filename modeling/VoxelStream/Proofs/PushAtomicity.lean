import VoxelStream.Proofs.AddressTranslation
import VoxelStream.Proofs.Outcomes
import VoxelStream.Push

/-!
# Pushing all or nothing

A batch of edits reaches the save queue as one transaction or not at all (`pushBatch_atomic`).
Addresses are translated first, then the payloads are encoded, and either pass ends with the first
edit that it fails on.  Only after both passes is the queue called, once.

The two passes give two lists of the length of the batch, so pairing them up again loses nothing
and pairs each payload with the bucket of its own address (`updatesOf_eq`).

What an encoder answers depends on the payload alone.  It may do anything to the state.
-/

namespace VoxelStream

/-- An update has the bucket and the encoded payload of an edit. -/
structure Updates (resolutions : Resolutions) (codec : Payload → Except WorkerError String)
    (edit : Edit) (update : BucketUpdate) : Prop where
  position : edit.1.position resolutions = .ok update.bucket.position
  zoomStep : update.bucket.zoomStep = edit.1.zoomStep
  cubeSize : update.bucket.cubeSize = 32
  text : codec edit.2 = .ok update.base64Data

/-! ## Addresses -/

section

variable {resolutions : Resolutions} {codec : Payload → Except WorkerError String}
  {edits before after : List Edit} {edit : Edit}

/-- The descriptors of a batch are those of its edits, in order. -/
theorem editDescriptors_of_forall {buckets : List BucketDescriptor}
    (translated : List.Forall₂ (fun (edit : Edit) bucket =>
      edit.1.descriptor resolutions = .ok bucket) edits buckets) :
    editDescriptors resolutions edits = .ok buckets := by
  induction translated with
  | nil => rfl
  | cons here _ ih => simp only [editDescriptors, here, ih]

/-- The first edit without a position decides. -/
theorem editDescriptors_of_first_error {error : AddressError}
    (earlier : ∀ other ∈ before, ∃ position, other.1.position resolutions = .ok position)
    (fails : edit.1.position resolutions = .error error) :
    editDescriptors resolutions (before ++ edit :: after) = .error error := by
  induction before with
  | nil => simp only [List.nil_append, editDescriptors, descriptor_eq_error_iff.mpr fails]
  | cons first rest ih =>
    obtain ⟨position, here⟩ := earlier first List.mem_cons_self
    have descriptor := descriptor_eq_ok_iff.mpr ⟨position, here, rfl⟩
    have later := ih fun other member => earlier other (List.mem_cons_of_mem _ member)
    simp only [List.cons_append, editDescriptors, descriptor, later]

theorem exists_descriptors
    (translates : ∀ edit ∈ edits, ∃ position, edit.1.position resolutions = .ok position) :
    ∃ buckets, List.Forall₂ (fun (edit : Edit) bucket =>
      edit.1.descriptor resolutions = .ok bucket) edits buckets := by
  apply exists_values (f := fun edit : Edit => edit.1.descriptor resolutions)
  intro edit member
  obtain ⟨position, here⟩ := translates edit member
  exact ⟨_, descriptor_eq_ok_iff.mpr ⟨position, here, rfl⟩⟩

/-! ## Updates -/

/-- Descriptors and texts of the same edits pair up to their updates. -/
theorem updatesOf_eq {buckets : List BucketDescriptor} {texts : List String}
    (translated : List.Forall₂ (fun (edit : Edit) bucket =>
      edit.1.descriptor resolutions = .ok bucket) edits buckets)
    (encoded : List.Forall₂ (fun (edit : Edit) text => codec edit.2 = .ok text) edits texts) :
    List.Forall₂ (Updates resolutions codec) edits (updatesOf buckets texts) := by
  induction translated generalizing texts with
  | nil =>
    cases encoded
    exact .nil
  | cons here _ ih =>
    cases encoded with
    | cons encodedHere encodedLater =>
      obtain ⟨position, translates, rfl⟩ := descriptor_eq_ok_iff.mp here
      exact .cons ⟨translates, rfl, rfl, encodedHere⟩ (ih encodedLater)

end

/-! ## Encoding -/

section

variable {σ : Type} {ports : PushPorts σ} {codec : Payload → Except WorkerError String}

/-- What the encodings of some edits do to the state. -/
def afterEncoding (ports : PushPorts σ) : List Edit → σ → σ
  | [], start => start
  | (_, payload) :: rest, start => afterEncoding ports rest (ports.encode payload start).2

theorem encode_run (answers : ∀ payload start, (ports.encode payload start).1 = codec payload)
    (payload : Payload) (start : σ) :
    ports.encode payload start = (codec payload, (ports.encode payload start).2) :=
  Prod.ext (answers payload start) rfl

/-- The texts of a batch are those of its payloads, in order. -/
theorem encodeAll_of_forall
    (answers : ∀ payload start, (ports.encode payload start).1 = codec payload)
    {edits : List Edit} {texts : List String}
    (encoded : List.Forall₂ (fun (edit : Edit) text => codec edit.2 = .ok text) edits texts)
    (start : σ) : encodeAll ports edits start = (.ok texts, afterEncoding ports edits start) := by
  induction encoded generalizing start with
  | nil => rfl
  | cons here _ ih =>
    rw [encodeAll, bind_run (encode_run answers _ start), here]
    show (encodeAll ports _ >>= _) _ = _
    rw [bind_run (ih _)]
    rfl

/-- The first payload that cannot be encoded decides, and no later one is tried. -/
theorem encodeAll_of_first_error
    (answers : ∀ payload start, (ports.encode payload start).1 = codec payload)
    {before after : List Edit} {edit : Edit} {error : WorkerError}
    (earlier : ∀ other ∈ before, ∃ text, codec other.2 = .ok text)
    (fails : codec edit.2 = .error error) (start : σ) :
    encodeAll ports (before ++ edit :: after) start =
      (.error error, afterEncoding ports (before ++ [edit]) start) := by
  induction before generalizing start with
  | nil =>
    rw [List.nil_append, encodeAll, bind_run (encode_run answers _ start), fails]
    rfl
  | cons first rest ih =>
    obtain ⟨text, here⟩ := earlier first List.mem_cons_self
    have later := ih fun other member => earlier other (List.mem_cons_of_mem _ member)
    rw [List.cons_append, encodeAll, bind_run (encode_run answers _ start), here]
    show (encodeAll ports _ >>= _) _ = _
    rw [bind_run (later _)]
    rfl

end

/-! ## Batches -/

section

variable {σ : Type} {resolutions : Resolutions} {ports : PushPorts σ}
  {codec : Payload → Except WorkerError String} {edits before after : List Edit} {edit : Edit}

/-- An address without a position ends a batch before anything happens. -/
theorem pushBatch_of_address_error {error : AddressError}
    (earlier : ∀ other ∈ before, ∃ position, other.1.position resolutions = .ok position)
    (fails : edit.1.position resolutions = .error error) (start : σ) :
    pushBatch resolutions ports (before ++ edit :: after) start =
      (.error (.ofAddress error), start) := by
  rw [pushBatch, if_neg (by simp), editDescriptors_of_first_error earlier fails]
  rfl

/-- A payload that cannot be encoded ends a batch before the queue is called. -/
theorem pushBatch_of_worker_error
    (answers : ∀ payload start, (ports.encode payload start).1 = codec payload)
    {error : WorkerError}
    (translates : ∀ other ∈ before ++ edit :: after,
      ∃ position, other.1.position resolutions = .ok position)
    (earlier : ∀ other ∈ before, ∃ text, codec other.2 = .ok text)
    (fails : codec edit.2 = .error error) (start : σ) :
    pushBatch resolutions ports (before ++ edit :: after) start =
      (.error (.worker error), afterEncoding ports (before ++ [edit]) start) := by
  obtain ⟨buckets, translated⟩ := exists_descriptors translates
  rw [pushBatch, if_neg (by simp), editDescriptors_of_forall translated]
  show (encodeAll ports _ >>= _) start = _
  rw [bind_run (encodeAll_of_first_error answers earlier fails start)]
  rfl

/-- After both passes the batch goes to the queue as one transaction, whose answer it is. -/
theorem pushBatch_of_ok
    (answers : ∀ payload start, (ports.encode payload start).1 = codec payload)
    (nonempty : edits ≠ [])
    (translates : ∀ edit ∈ edits, ∃ position, edit.1.position resolutions = .ok position)
    (encodes : ∀ edit ∈ edits, ∃ text, codec edit.2 = .ok text) (start : σ) :
    ∃ items, List.Forall₂ (Updates resolutions codec) edits items ∧
      pushBatch resolutions ports edits start =
        ports.submit ⟨volumeCategory, items⟩
          (ports.note (.updatesSubmitted items.length) (afterEncoding ports edits start)).2 := by
  obtain ⟨buckets, translated⟩ := exists_descriptors translates
  obtain ⟨texts, encoded⟩ := exists_values (f := fun edit : Edit => codec edit.2) encodes
  refine ⟨updatesOf buckets texts, updatesOf_eq translated encoded, ?_⟩
  rw [pushBatch, if_neg (by rwa [List.isEmpty_iff]), editDescriptors_of_forall translated]
  show (encodeAll ports edits >>= _) start = _
  rw [bind_run (encodeAll_of_forall answers encoded start)]
  rfl

end

/-! ## Queues in memory -/

section

variable {σ : Type} {ports : PushPorts σ} {queue : σ → SaveQueue}

/-- The save queue is a part of the state that keeps what it is given, and nothing else changes
it. -/
structure MemoryQueue (ports : PushPorts σ) (queue : σ → SaveQueue) : Prop where
  encode : ∀ payload start, queue (ports.encode payload start).2 = queue start
  note : ∀ notice start, queue (ports.note notice start).2 = queue start
  accepts : ∀ transaction start, (ports.submit transaction start).1 = .ok ()
  keeps : ∀ transaction start,
    queue (ports.submit transaction start).2 = (queue start).submit transaction

theorem MemoryQueue.afterEncoding (memory : MemoryQueue ports queue) (edits : List Edit)
    (start : σ) : queue (afterEncoding ports edits start) = queue start := by
  induction edits generalizing start with
  | nil => rfl
  | cons edit rest ih => exact (ih _).trans (memory.encode _ _)

/-- Encoding into a queue in memory. -/
def memoryPorts (codec : Payload → Except WorkerError String) : PushPorts SaveQueue where
  encode payload := pure (codec payload)
  submit transaction queue := (.ok (), queue.submit transaction)
  note _ := pure ()

theorem memoryQueue_memoryPorts (codec : Payload → Except WorkerError String) :
    MemoryQueue (memoryPorts codec) id where
  encode _ _ := rfl
  note _ _ := rfl
  accepts _ _ := rfl
  keeps _ _ := rfl

end

/-! ## All or nothing -/

/-- Without edits nothing happens.  The first address without a position is the error of a batch,
and nothing has happened.  Else the first payload that cannot be encoded is its error, and no more
has happened than encoding.  Else the queue is called once, with an update for each edit in order,
and gives the answer.  So a queue in memory changes only on success. -/
theorem pushBatch_atomic {σ : Type} (resolutions : Resolutions) (ports : PushPorts σ)
    (codec : Payload → Except WorkerError String)
    (answers : ∀ payload start, (ports.encode payload start).1 = codec payload)
    (edits : List Edit) (start : σ) :
    (edits = [] → pushBatch resolutions ports edits start = (.ok (), start)) ∧
    (∀ before edit after error, edits = before ++ edit :: after →
      (∀ other ∈ before, ∃ position, other.1.position resolutions = .ok position) →
      edit.1.position resolutions = .error error →
      pushBatch resolutions ports edits start = (.error (.ofAddress error), start)) ∧
    (∀ before edit after error, edits = before ++ edit :: after →
      (∀ other ∈ edits, ∃ position, other.1.position resolutions = .ok position) →
      (∀ other ∈ before, ∃ text, codec other.2 = .ok text) →
      codec edit.2 = .error error →
      pushBatch resolutions ports edits start =
        (.error (.worker error), afterEncoding ports (before ++ [edit]) start)) ∧
    (edits ≠ [] →
      (∀ edit ∈ edits, ∃ position, edit.1.position resolutions = .ok position) →
      (∀ edit ∈ edits, ∃ text, codec edit.2 = .ok text) →
      ∃ items, List.Forall₂ (Updates resolutions codec) edits items ∧
        pushBatch resolutions ports edits start =
          ports.submit ⟨"volume", items⟩
            (ports.note (.updatesSubmitted items.length) (afterEncoding ports edits start)).2) ∧
    ∀ queue, MemoryQueue ports queue →
      ((edits = [] ∨ ∃ error, (pushBatch resolutions ports edits start).1 = .error error) ∧
        queue (pushBatch resolutions ports edits start).2 = queue start) ∨
      (edits ≠ [] ∧ (pushBatch resolutions ports edits start).1 = .ok () ∧
        ∃ items, List.Forall₂ (Updates resolutions codec) edits items ∧
          queue (pushBatch resolutions ports edits start).2 =
            (queue start).submit ⟨"volume", items⟩) := by
  refine ⟨?nothing, ?address, ?worker, ?submitted, ?memory⟩
  case nothing =>
    rintro rfl
    rfl
  case address =>
    rintro before edit after error rfl earlier fails
    exact pushBatch_of_address_error earlier fails start
  case worker =>
    rintro before edit after error rfl translates earlier fails
    exact pushBatch_of_worker_error answers translates earlier fails start
  case submitted =>
    intro nonempty translates encodes
    exact pushBatch_of_ok answers nonempty translates encodes start
  case memory =>
    intro queue memory
    by_cases nonempty : edits = []
    · subst nonempty
      exact .inl ⟨.inl rfl, rfl⟩
    cases all_or_first_error (fun edit : Edit => edit.1.position resolutions) edits with
    | inr untranslated =>
      obtain ⟨before, edit, after, error, rfl, earlier, fails⟩ := untranslated
      rw [pushBatch_of_address_error earlier fails]
      exact .inl ⟨.inr ⟨_, rfl⟩, rfl⟩
    | inl translates =>
      cases all_or_first_error (fun edit : Edit => codec edit.2) edits with
      | inr unencoded =>
        obtain ⟨before, edit, after, error, rfl, earlier, fails⟩ := unencoded
        rw [pushBatch_of_worker_error answers translates earlier fails]
        exact .inl ⟨.inr ⟨_, rfl⟩, memory.afterEncoding _ _⟩
      | inl encodes =>
        obtain ⟨items, updates, run⟩ :=
          pushBatch_of_ok answers nonempty translates encodes start
        rw [run]
        refine .inr ⟨nonempty, memory.accepts _ _, items, updates, ?_⟩
        rw [memory.keeps, memory.note, memory.afterEncoding]
        rfl

/-- Two edits make one transaction, and an address without a position leaves the queue alone. -/
theorem pushBatch_memory :
    (∃ items, items.length = 2 ∧
      (pushBatch [⟨1, 1, 1⟩] (memoryPorts fun payload => .ok (Base64.encode payload))
          [(⟨0, 0, 0, 0⟩, [1, 2, 3]), (⟨1, 0, 0, 0⟩, [4])] .empty).2 = ⟨[⟨"volume", items⟩]⟩) ∧
    pushBatch [⟨1, 1, 1⟩] (memoryPorts fun payload => .ok (Base64.encode payload))
        [(⟨0, 0, 0, 0⟩, [1, 2, 3]), (⟨1, 0, 0, 7⟩, [4])] .empty =
      (.error (.ofAddress (.unknownResolution 7)), .empty) := by
  constructor
  · obtain ⟨-, -, -, -, memory⟩ := pushBatch_atomic [⟨1, 1, 1⟩]
      (memoryPorts fun payload => .ok (Base64.encode payload)) _ (fun _ _ => rfl)
      [(⟨0, 0, 0, 0⟩, [1, 2, 3]), (⟨1, 0, 0, 0⟩, [4])] .empty
    rcases memory id (memoryQueue_memoryPorts _) with
      ⟨nothing | ⟨error, refused⟩, -⟩ | ⟨-, -, items, updates, kept⟩
    · cases nothing
    · have accepted : Except.ok () = Except.error error := refused
      cases accepted
    · exact ⟨items, updates.length_eq.symm, kept⟩
  · obtain ⟨-, address, -⟩ := pushBatch_atomic [⟨1, 1, 1⟩]
      (memoryPorts fun payload => .ok (Base64.encode payload)) _ (fun _ _ => rfl)
      [(⟨0, 0, 0, 0⟩, [1, 2, 3]), (⟨1, 0, 0, 7⟩, [4])] .empty
    have translates : ∃ position,
        BucketAddress.position ⟨0, 0, 0, 0⟩ [⟨1, 1, 1⟩] = .ok position := ⟨_, rfl⟩
    exact address [(⟨0, 0, 0, 0⟩, [1, 2, 3])] _ [] _ rfl (by simp [translates]) rfl

end VoxelStream
