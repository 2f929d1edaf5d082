import VoxelStream.Proofs.SavedEdits

/-!
# Reading what was pushed

While a volume is edited, its buckets are pushed to the save queue and fetched from the tracing
store.  If the store applies what was saved, in order, and answers honestly, a fetch gives back at
each address what was pushed last for it, and at an address that was never pushed what the fallback
layer has (`fetch_of_pushed`).

`SavedEdits` says what the store has at each address.  The fetch is two deliveries, one of the
tracing store and one of the fallback layer, joined position by position (`fetch_of_deliveries`).
-/

namespace VoxelStream

variable {σ : Type}

/-- Surroundings in which tokens are available, the tracing store answers from the archive of what
is saved, and the data store answers for the fallback layer from a content.  Fetching saves
nothing. -/
structure ServesEdits (fetcher : Fetcher σ) (layer : Layer) (saved : σ → List Transaction)
    (imported : Content) : Prop where
  tracing : ∀ transactions,
    HonestAt fetcher.ports (fetcher.dataset.tracingStoreLayerUrl layer.name) false
      (Archive.ofSaved transactions).content fun now => saved now = transactions
  fallback : ∀ transactions fallback, fetcher.dataset.fallbackLayer = some fallback →
    HonestAt fetcher.ports (fetcher.dataset.dataStoreLayerUrl fallback) false imported
      fun now => saved now = transactions

namespace Fetcher

variable {fetcher : Fetcher σ} {layer : Layer} {batch : List BucketAddress} {before : σ}
  {ready : σ → Prop}

theorem layerUrl_of_edited (edited : fetcher.dataset.isEdited layer = true) :
    fetcher.dataset.layerUrl layer = fetcher.dataset.tracingStoreLayerUrl layer.name := by
  rw [Dataset.layerUrl, Dataset.target, if_pos edited]

/-- Segment ids travel in full. -/
theorem usesFourBit_of_edited (edited : fetcher.dataset.isEdited layer = true) :
    fetcher.dataset.usesFourBit layer = false := by
  rw [Dataset.isEdited, Bool.and_eq_true] at edited
  rw [Dataset.usesFourBit, edited.1, Bool.not_true, Bool.and_false]

/-- A store that is honest about an edited layer delivers what it has. -/
theorem delivers_of_edited (edited : fetcher.dataset.isEdited layer = true) {url : String}
    {content : Content} (honest : HonestAt fetcher.ports url false content ready)
    (sized : ∀ request payload, content request = some payload →
      payload.length = layer.bucketByteLength)
    (translates : ∀ address ∈ batch,
      ∃ position, address.position fetcher.dataset.resolutions = .ok position)
    (start : ready before) :
    ∃ answer after, fetcher.Delivers url layer batch before answer
      (batch.map (fetcher.dataset.bucketIn layer content)) after ∧ ready after := by
  have inFull := usesFourBit_of_edited edited
  rw [← inFull] at honest
  apply delivers_of_honestAt honest _ sized translates start
  intro buffer now readyNow
  rw [voxels, inFull]
  exact ⟨now, rfl, readyNow⟩

theorem bucketIn_archive (edited : fetcher.dataset.isEdited layer = true) {archive : Archive}
    {address : BucketAddress} {position : Vec3}
    (translates : address.position fetcher.dataset.resolutions = .ok position) :
    fetcher.dataset.bucketIn layer archive.content address =
      archive position address.zoomStep := by
  rw [Dataset.bucketIn, requestOf_of_position layer translates, usesFourBit_of_edited edited]
  exact Option.map_id'

/-- A fetch of an edited layer gives back what was pushed, and fills the gaps from the fallback
layer. -/
theorem fetch_of_history {ports : PushPorts σ} {saved : σ → List Transaction} {imported : Content}
    (edited : fetcher.dataset.isEdited layer = true)
    (positive : fetcher.dataset.resolutions.Positive) (saves : SavesEdits ports saved)
    (serves : ServesEdits fetcher layer saved imported)
    (importedSized : ∀ request payload, imported request = some payload →
      payload.length = layer.bucketByteLength)
    {history : List Edit} {now : σ}
    (pushed : Pushed fetcher.dataset.resolutions ports saved history now)
    (sized : ∀ edit ∈ history, edit.2.length = layer.bucketByteLength)
    (translates : ∀ address ∈ batch,
      ∃ position, address.position fetcher.dataset.resolutions = .ok position) :
    ∃ after, fetcher.fetch layer batch now =
      (.ok (batch.map fun address => (lastWrite history address).or
        (fetcher.dataset.fallbackLayer.bind fun _ =>
          fetcher.dataset.bucketIn layer imported address)), after) ∧ saved after = saved now := by
  have tracing := serves.tracing (saved now)
  have first := delivers_of_edited edited tracing
    (fun _ _ found => pushed.sized saves sized found) translates rfl
  rw [← layerUrl_of_edited edited] at first
  have second : ∀ fallback addresses start, fetcher.dataset.fallbackLayer = some fallback →
      (∀ address ∈ addresses, address ∈ batch) → saved start = saved now →
      ∃ answer after, fetcher.Delivers (fetcher.dataset.dataStoreLayerUrl fallback) layer addresses
        start answer (addresses.map (fetcher.dataset.bucketIn layer imported)) after ∧
        saved after = saved now := by
    intro fallback addresses start declared among same
    exact delivers_of_edited edited (serves.fallback (saved now) fallback declared) importedSized
      (fun address member => translates address (among address member)) same
  obtain ⟨after, run, kept⟩ := fetch_of_deliveries _
    (fun _ => fetcher.dataset.bucketIn layer imported) tracing.note first second
  refine ⟨after, run.trans ?_, kept⟩
  congr 2
  apply List.map_congr_left
  intro address member
  obtain ⟨position, here⟩ := translates address member
  rw [if_pos edited, bucketIn_archive edited here, pushed.lookup positive saves here]

/-- After a history of pushes a fetch gives back, at each address of a batch, the payload that was
pushed last for it.  At an address that was never pushed it gives what the fallback layer has, if
there is one.  Edits of other addresses make no difference. -/
theorem fetch_of_pushed (fetcher : Fetcher σ) (layer : Layer) (ports : PushPorts σ)
    (saved : σ → List Transaction) (imported : Content)
    (edited : fetcher.dataset.isEdited layer = true)
    (positive : fetcher.dataset.resolutions.Positive) (saves : SavesEdits ports saved)
    (serves : ServesEdits fetcher layer saved imported)
    (importedSized : ∀ request payload, imported request = some payload →
      payload.length = layer.bucketByteLength)
    (history : List Edit) (now : σ)
    (pushed : Pushed fetcher.dataset.resolutions ports saved history now)
    (sized : ∀ edit ∈ history, edit.2.length = layer.bucketByteLength)
    (batch : List BucketAddress)
    (translates : ∀ address ∈ batch,
      ∃ position, address.position fetcher.dataset.resolutions = .ok position) :
    ∃ pieces after, fetcher.fetch layer batch now = (.ok pieces, after) ∧
      saved after = saved now ∧
      (pieces = batch.map fun address => (lastWrite history address).or
        (fetcher.dataset.fallbackLayer.bind fun _ =>
          fetcher.dataset.bucketIn layer imported address)) ∧
      ∀ edits later, Pushed fetcher.dataset.resolutions ports saved (history ++ edits) later →
        (∀ edit ∈ edits, edit.2.length = layer.bucketByteLength) →
        ∃ again finished, fetcher.fetch layer batch later = (.ok again, finished) ∧
          ∀ (index : Nat) address, batch[index]? = some address →
            (∀ edit ∈ edits, edit.1 ≠ address) → again[index]? = pieces[index]? := by
  obtain ⟨after, run, kept⟩ :=
    fetch_of_history edited positive saves serves importedSized pushed sized translates
  refine ⟨_, after, run, kept, rfl, ?_⟩
  intro edits later pushedMore sizedMore
  have sizedAll : ∀ edit ∈ history ++ edits, edit.2.length = layer.bucketByteLength := by
    intro edit member
    rcases List.mem_append.mp member with before | more
    · exact sized edit before
    · exact sizedMore edit more
  obtain ⟨finished, again, -⟩ :=
    fetch_of_history edited positive saves serves importedSized pushedMore sizedAll translates
  refine ⟨_, finished, again, ?_⟩
  intro index address place others
  have untouched := lastWrite_eq_none_iff.mpr others
  rw [List.getElem?_map, List.getElem?_map, place, Option.map_some, Option.map_some,
    lastWrite_append, untouched, Option.none_or]

/-! ## A store behind a queue in memory -/

/-- A bucket of one value. -/
def filled (value : UInt8) : Payload := List.replicate segments.bucketByteLength value

/-- The imported buckets of the first slab. -/
def importedSlab : Content := fun request =>
  if request.bucket.position.x = 0 then some (filled 9) else none

/-- What the stores have: the tracing store has applied what waits in a queue. -/
def queueContent (url : String) (queue : SaveQueue) : Content :=
  if url = annotatedDataset.layerUrl segments then (Archive.ofSaved queue.waiting).content
  else importedSlab

def queueFetcher : Fetcher SaveQueue where
  dataset := annotatedDataset
  timeoutMs := 1000
  ports :=
    { token := pure (.ok "token")
      refresh := pure (.ok "token")
      note := fun _ => pure ()
      decode := fun data => pure (.ok (FourBit.decode data))
      request := fun request queue =>
        (.ok ((queueContent request.url queue).answer request.batch), queue) }

theorem honestAt_queueFetcher {url : String} {content : Content} {transactions : List Transaction}
    (serves : ∀ queue : SaveQueue, queue.waiting = transactions →
      queueContent url queue = content) :
    HonestAt queueFetcher.ports url false content fun queue => queue.waiting = transactions where
  token before ready := ⟨_, before, rfl, ready⟩
  request request before here unpackedForm ready := by
    refine ⟨_, before, rfl, ?_, ready⟩
    rw [here, serves before ready]
    apply honest_answer
    intro asked member _ _ packs
    rw [unpackedForm asked member] at packs
    cases packs
  note _ _ ready := ready

theorem servesEdits_queueFetcher :
    ServesEdits queueFetcher segments SaveQueue.waiting importedSlab where
  tracing transactions := honestAt_queueFetcher fun queue ready => by
    rw [← ready]
    exact if_pos rfl
  fallback transactions fallback declared := honestAt_queueFetcher fun queue _ => by
    cases declared
    exact if_neg (by decide)

/-- One bucket is edited twice, and its neighbour once. -/
def firstEdits : List Edit :=
  [(⟨0, 0, 0, 0⟩, filled 1), (⟨1, 0, 0, 0⟩, filled 2), (⟨0, 0, 0, 0⟩, filled 3)]

/-- The neighbour is edited again. -/
def secondEdits : List Edit := [(⟨1, 0, 0, 0⟩, filled 4)]

/-- A fetch after both batches gives back the last payload of each bucket, an imported bucket, and
nothing where neither store has one. -/
theorem fetch_of_pushed_twice :
    ∃ first second after,
      pushBatch annotatedDataset.resolutions (memoryPorts Codecs.plain.encode) firstEdits .empty =
        (.ok (), first) ∧
      pushBatch annotatedDataset.resolutions (memoryPorts Codecs.plain.encode) secondEdits first =
        (.ok (), second) ∧
      queueFetcher.fetch segments
        [⟨1, 0, 0, 0⟩, ⟨0, 0, 0, 0⟩, ⟨0, 1, 0, 0⟩, ⟨1, 1, 0, 0⟩] second =
          (.ok [some (filled 4), some (filled 3), some (filled 9), none], after) := by
  have pushed : Pushed annotatedDataset.resolutions (memoryPorts Codecs.plain.encode)
      SaveQueue.waiting ([] ++ firstEdits ++ secondEdits) _ := .push (.push (.start rfl) rfl) rfl
  have sized : ∀ edit ∈ [] ++ firstEdits ++ secondEdits,
      edit.2.length = segments.bucketByteLength := by
    intro edit member
    simp only [firstEdits, secondEdits, List.nil_append, List.cons_append, List.mem_cons,
      List.not_mem_nil, or_false] at member
    rcases member with rfl | rfl | rfl | rfl
    all_goals exact List.length_replicate
  have translates : ∀ address ∈
      ([⟨1, 0, 0, 0⟩, ⟨0, 0, 0, 0⟩, ⟨0, 1, 0, 0⟩, ⟨1, 1, 0, 0⟩] : List BucketAddress),
      ∃ position, address.position queueFetcher.dataset.resolutions = .ok position := by
    intro address member
    simp only [List.mem_cons, List.not_mem_nil, or_false] at member
    rcases member with rfl | rfl | rfl | rfl
    all_goals exact ⟨_, rfl⟩
  have importedSized : ∀ request payload, importedSlab request = some payload →
      payload.length = segments.bucketByteLength := by
    intro request payload found
    rw [importedSlab] at found
    split at found
    · cases found
      exact List.length_replicate
    · cases found
  have positive : queueFetcher.dataset.resolutions.Positive := by decide
  obtain ⟨pieces, after, fetched, -, rfl, -⟩ := fetch_of_pushed queueFetcher segments
    (memoryPorts Codecs.plain.encode) SaveQueue.waiting importedSlab rfl positive
    savesEdits_memoryPorts servesEdits_queueFetcher importedSized _ _ pushed sized _ translates
  exact ⟨_, _, after, rfl, rfl, fetched⟩

end Fetcher

end VoxelStream
