import VoxelStream.Proofs.FetchRuns
import VoxelStream.Proofs.FourBitQuantization

/-!
# Honest stores

What a store has of a layer is a *content*, a partial map from requests to payloads.  An answer is
*honest* if its buffer holds the payloads of the buckets that are there, in the order of the request
and in the form they travel in, and its list names the buckets that are not.  Bytes after the last
payload and repetitions on the list are allowed.

If every answer is honest, a fetch ends with the right bucket at every position
(`fetch_of_honest`): the bucket of the layer's own store, else that of the fallback layer, else
nothing.  The proof follows the pipeline.  An honest answer of one store is cut into the map of its
content over the batch (`cuts_of_sent`, `delivers_of_honest`), and merging two such maps is again a
map over the batch (`mergeFallback?_map`).

Answers may depend on a state.  `HonestPorts` asks for honesty in the states that are *ready*, and
the ports keep them ready.
-/

namespace VoxelStream

/-! ## Contents -/

/-- What a store has of a layer: a payload for some requests. -/
abbrev Content := BucketRequest → Option Payload

/-- The bytes that the payload of a bucket travels in. -/
def BucketRequest.wireForm (request : BucketRequest) (payload : Payload) :
    Except WorkerError Payload :=
  if request.fourBit then FourBit.encode payload else .ok payload

/-- The bytes of the buckets that are there, in the order of a batch. -/
def Content.sent (content : Content) : List BucketRequest → Except WorkerError Payload
  | [] => .ok []
  | request :: rest =>
    match content request with
    | none => content.sent rest
    | some payload =>
      match request.wireForm payload with
      | .error e => .error e
      | .ok bytes => (content.sent rest).map (bytes ++ ·)

/-- An answer tells the truth about a content. -/
structure HonestAnswer (content : Content) (batch : List BucketRequest) (answer : StoreAnswer) :
    Prop where
  /-- The buffer starts with the buckets that are there. -/
  buffer : ∃ bytes surplus, content.sent batch = .ok bytes ∧ answer.buffer = bytes ++ surplus
  /-- The list names the others. -/
  missing : ∀ index, index ∈ answer.missing ↔
    ∃ request, batch[index]? = some request ∧ content request = none

variable {σ : Type}

/-- Surroundings in which tokens are available, stores are honest about their contents, by address,
and four-bit data is expanded, in every state that is ready. -/
structure HonestPorts (ports : FetchPorts σ) (stores : String → Content) (ready : σ → Prop) :
    Prop where
  token : ∀ before, ready before →
    ∃ token after, ports.token before = (.ok token, after) ∧ ready after
  /-- Every request is answered, and honestly. -/
  request : ∀ request before, ready before →
    ∃ answer after, ports.request request before = (.ok answer, after) ∧
      HonestAnswer (stores request.url) request.batch answer ∧ ready after
  decode : ∀ data before, ready before →
    ∃ after, ports.decode data before = (.ok (FourBit.decode data), after) ∧ ready after
  note : ∀ notice before, ready before → ready (ports.note notice before).2

/-- Surroundings in which tokens are available and the store at one address is honest about a
content, in every state that is ready.  The requests are all of one form of transfer. -/
structure HonestAt (ports : FetchPorts σ) (url : String) (fourBit : Bool) (content : Content)
    (ready : σ → Prop) : Prop where
  token : ∀ before, ready before →
    ∃ token after, ports.token before = (.ok token, after) ∧ ready after
  request : ∀ request before, request.url = url →
    (∀ asked ∈ request.batch, asked.fourBit = fourBit) → ready before →
    ∃ answer after, ports.request request before = (.ok answer, after) ∧
      HonestAnswer content request.batch answer ∧ ready after
  note : ∀ notice before, ready before → ready (ports.note notice before).2

theorem HonestPorts.honestAt {ports : FetchPorts σ} {stores : String → Content} {ready : σ → Prop}
    (honest : HonestPorts ports stores ready) (url : String) (fourBit : Bool) :
    HonestAt ports url fourBit (stores url) ready where
  token := honest.token
  request request before same _ start := same ▸ honest.request request before start
  note := honest.note

/-! ## Transfer -/

/-- The voxels of data that has travelled. -/
def unpacked (fourBit : Bool) (data : Payload) : Payload :=
  if fourBit then FourBit.decode data else data

/-- What is left of voxels after their travel: four-bit transfer clears the low half of each. -/
def received (fourBit : Bool) (voxels : Payload) : Payload :=
  if fourBit then FourBit.quantize voxels else voxels

theorem unpacked_append (fourBit : Bool) (first second : Payload) :
    unpacked fourBit (first ++ second) = unpacked fourBit first ++ unpacked fourBit second := by
  cases fourBit with
  | false => rfl
  | true => exact FourBit.decode_append first second

@[simp] theorem length_received (fourBit : Bool) (voxels : Payload) :
    (received fourBit voxels).length = voxels.length := by
  cases fourBit with
  | false => rfl
  | true => exact FourBit.length_quantize voxels

/-- What was sent in wire form is received, up to the low halves that packing drops. -/
theorem unpacked_wireForm {request : BucketRequest} {payload bytes : Payload}
    (even : payload.length % 2 = 0) (travels : request.wireForm payload = .ok bytes) :
    unpacked request.fourBit bytes = received request.fourBit payload := by
  rw [BucketRequest.wireForm] at travels
  cases flag : request.fourBit with
  | false =>
    rw [flag] at travels
    cases travels
    rfl
  | true =>
    obtain ⟨packed, encoded, expanded⟩ := FourBit.exists_encode payload even
    rw [flag, if_pos rfl, encoded] at travels
    cases travels
    exact expanded

/-! ## One store -/

section

variable {content : Content} {requests : List BucketRequest} {bytes : Payload} {fourBit : Bool}
  {length index : Nat} {missing : List Nat}

/-- The bytes of an honest answer are cut into the content of the batch. -/
theorem cuts_of_sent (even : length % 2 = 0)
    (sized : ∀ request payload, content request = some payload → payload.length = length)
    (flags : ∀ request ∈ requests, request.fourBit = fourBit)
    (sent : content.sent requests = .ok bytes)
    (listed : ∀ i request, requests[i]? = some request →
      (index + i ∈ missing ↔ content request = none)) (surplus : Payload) :
    Cuts length missing index (unpacked fourBit (bytes ++ surplus))
      (requests.map fun request => (content request).map (received fourBit))
      (unpacked fourBit surplus) := by
  induction requests generalizing bytes index with
  | nil =>
    cases sent
    exact .done
  | cons request rest ih =>
    have flagsLater : ∀ later ∈ rest, later.fourBit = fourBit := fun later member =>
      flags later (List.mem_cons_of_mem _ member)
    have listedLater : ∀ i later, rest[i]? = some later →
        (index + 1 + i ∈ missing ↔ content later = none) := by
      intro i later place
      rw [Nat.add_right_comm]
      exact listed (i + 1) later place
    have here := listed 0 request rfl
    rw [Content.sent] at sent
    cases found : content request with
    | none =>
      rw [found] at sent
      rw [List.map_cons, found]
      exact .absent (here.mpr found) (ih flagsLater sent listedLater)
    | some payload =>
      rw [found] at sent
      dsimp only at sent
      cases travels : request.wireForm payload with
      | error e =>
        rw [travels] at sent
        cases sent
      | ok packed =>
        rw [travels] at sent
        obtain ⟨later, sentLater, rfl⟩ := map_eq_ok_iff.mp sent
        have bucketSize := sized request payload found
        have arrives := unpacked_wireForm (by rw [bucketSize, even]) travels
        rw [flags request List.mem_cons_self] at arrives
        rw [List.map_cons, found, List.append_assoc, unpacked_append, arrives]
        have notMissing : index ∉ missing := by
          intro isMissing
          rw [here.mp isMissing] at found
          cases found
        exact .present notMissing (by rw [length_received, bucketSize])
          (ih flagsLater sentLater listedLater)

/-- An honest answer is sliced into the content of the batch. -/
theorem sliceBatch_of_honest {answer : StoreAnswer} (even : length % 2 = 0)
    (sized : ∀ request payload, content request = some payload → payload.length = length)
    (flags : ∀ request ∈ requests, request.fourBit = fourBit)
    (honest : HonestAnswer content requests answer) :
    ∃ surplus, sliceBatch length requests.length answer.missing (unpacked fourBit answer.buffer) =
      .ok ⟨requests.map fun request => (content request).map (received fourBit), surplus⟩ := by
  obtain ⟨bytes, surplus, sent, buffer⟩ := honest.buffer
  have listed : ∀ i request, requests[i]? = some request →
      (0 + i ∈ answer.missing ↔ content request = none) := by
    intro i request place
    rw [Nat.zero_add, honest.missing]
    constructor
    · rintro ⟨other, otherPlace, lacks⟩
      rw [place] at otherPlace
      cases otherPlace
      exact lacks
    · intro lacks
      exact ⟨request, place, lacks⟩
  have inside : ∀ index ∈ answer.missing, index < requests.length := by
    intro index isMissing
    obtain ⟨request, place, -⟩ := (honest.missing index).mp isMissing
    exact (List.getElem?_eq_some_iff.mp place).1
  have cuts := cuts_of_sent even sized flags sent listed surplus
  rw [← buffer] at cuts
  exact ⟨_, sliceBatch_eq_ok_iff.mpr ⟨inside, _, cuts, List.length_map _, rfl⟩⟩

end

/-! ## Addresses of a batch -/

section

variable {dataset : Dataset} {layer : Layer} {batch : List BucketAddress}
  {requests : List BucketRequest}

theorem fourBit_of_requestOf {address : BucketAddress} {request : BucketRequest}
    (asked : requestOf dataset layer address = .ok request) :
    request.fourBit = dataset.usesFourBit layer := by
  obtain ⟨position, -, rfl⟩ := request_eq_ok_iff.mp asked
  rfl

/-- All requests of a batch ask for the same form. -/
theorem fourBit_of_batchRequests (translated : batchRequests dataset layer batch = .ok requests)
    {request : BucketRequest} (member : request ∈ requests) :
    request.fourBit = dataset.usesFourBit layer := by
  have image : Except.ok request ∈ batch.map (requestOf dataset layer) := by
    rw [batchRequests_eq_ok_iff.mp translated]
    exact List.mem_map_of_mem member
  obtain ⟨address, -, asked⟩ := List.mem_map.mp image
  exact fourBit_of_requestOf asked

/-- The bucket that a content has at an address of a layer, as it arrives. -/
def Dataset.bucketIn (dataset : Dataset) (layer : Layer) (content : Content)
    (address : BucketAddress) : Piece :=
  match requestOf dataset layer address with
  | .error _ => none
  | .ok request => (content request).map (received (dataset.usesFourBit layer))

/-- Reading a content by addresses is reading it by their requests. -/
theorem map_bucketIn (translated : batchRequests dataset layer batch = .ok requests)
    (content : Content) :
    batch.map (dataset.bucketIn layer content) =
      requests.map fun request => (content request).map (received (dataset.usesFourBit layer)) := by
  have read := congrArg (List.map fun asked : Except AddressError BucketRequest =>
    (match asked with
      | .error _ => none
      | .ok request => (content request).map (received (dataset.usesFourBit layer)) : Piece))
    (batchRequests_eq_ok_iff.mp translated)
  rw [List.map_map, List.map_map] at read
  exact read

/-- The bucket at an address: that of the layer's own store, else that of the fallback layer if the
layer is edited and has one, else nothing. -/
def Dataset.bucketAt (dataset : Dataset) (layer : Layer) (stores : String → Content)
    (address : BucketAddress) : Piece :=
  (dataset.bucketIn layer (stores (dataset.layerUrl layer)) address).or
    (if dataset.isEdited layer then
      dataset.fallbackLayer.bind fun fallback =>
        dataset.bucketIn layer (stores (dataset.dataStoreLayerUrl fallback)) address
    else none)

section

variable {own : BucketAddress → Piece} {pieces : List Piece} {address : BucketAddress}

/-- If no fallback layer is asked, the pieces stay as they are. -/
theorem or_of_noFallback (other : String → BucketAddress → Piece)
    (noFallback : Fetcher.fallbackFor dataset layer (batch.map own) = none)
    (member : address ∈ batch) :
    (own address).or (if dataset.isEdited layer then
      dataset.fallbackLayer.bind fun fallback => other fallback address else none) =
      own address := by
  cases here : own address with
  | some payload => rfl
  | none =>
    -- Something is missing, so the layer is not edited or has no fallback layer.
    have lacks := List.mem_map_of_mem (f := own) member
    rw [here] at lacks
    rw [Fetcher.fallbackFor_eq] at noFallback
    split
    next edited =>
      rw [if_pos ⟨edited, lacks⟩] at noFallback
      rw [noFallback]
      rfl
    next => rfl

/-- If a fallback layer is asked, its buckets fill the gaps. -/
theorem or_of_fallback (other : String → BucketAddress → Piece) {fallback : String}
    (asksFallback : Fetcher.fallbackFor dataset layer pieces = some fallback) :
    (own address).or (if dataset.isEdited layer then
      dataset.fallbackLayer.bind fun fallback => other fallback address else none) =
      (own address).or (other fallback address) := by
  rw [Fetcher.fallbackFor_eq] at asksFallback
  split at asksFallback
  next condition => rw [if_pos condition.1, asksFallback, Option.bind_some]
  next => cases asksFallback

end

/-- Without a fallback layer, a bucket is that of the store of its layer. -/
theorem bucketAt_of_noFallback {stores : String → Content} {address : BucketAddress}
    (noFallback : Fetcher.fallbackFor dataset layer
      (batch.map (dataset.bucketIn layer (stores (dataset.layerUrl layer)))) = none)
    (member : address ∈ batch) :
    dataset.bucketAt layer stores address =
      dataset.bucketIn layer (stores (dataset.layerUrl layer)) address :=
  or_of_noFallback (fun fallback => dataset.bucketIn layer
    (stores (dataset.dataStoreLayerUrl fallback))) noFallback member

/-- With a fallback layer, buckets that the first store lacks come from the second. -/
theorem bucketAt_of_fallback {stores : String → Content} {pieces : List Piece} {fallback : String}
    (asksFallback : Fetcher.fallbackFor dataset layer pieces = some fallback)
    (address : BucketAddress) :
    dataset.bucketAt layer stores address =
      (dataset.bucketIn layer (stores (dataset.layerUrl layer)) address).or
        (dataset.bucketIn layer (stores (dataset.dataStoreLayerUrl fallback)) address) :=
  or_of_fallback (fun fallback => dataset.bucketIn layer
    (stores (dataset.dataStoreLayerUrl fallback))) asksFallback

end

/-! ## Stores that answer from a content -/

/-- The honest answer that lists what is missing once and sends nothing after the last bucket. -/
def Content.answer (content : Content) (batch : List BucketRequest) : StoreAnswer :=
  { buffer := match content.sent batch with
      | .ok bytes => bytes
      | .error _ => []
    missing := missingIndices (batch.map content) }

/-- Buckets can be sent, in four-bit form if their length is even. -/
theorem exists_sent {content : Content} {batch : List BucketRequest}
    (sendable : ∀ request ∈ batch, ∀ payload, content request = some payload →
      request.fourBit = true → payload.length % 2 = 0) :
    ∃ bytes, content.sent batch = .ok bytes := by
  induction batch with
  | nil => exact ⟨[], rfl⟩
  | cons request rest ih =>
    obtain ⟨later, sentLater⟩ := ih fun other member =>
      sendable other (List.mem_cons_of_mem _ member)
    rw [Content.sent]
    cases found : content request with
    | none => exact ⟨later, sentLater⟩
    | some payload =>
      have travels : ∃ bytes, request.wireForm payload = .ok bytes := by
        rw [BucketRequest.wireForm]
        split
        next packs =>
          obtain ⟨packed, encoded, -⟩ := FourBit.exists_encode payload
            (sendable request List.mem_cons_self payload found packs)
          exact ⟨packed, encoded⟩
        next => exact ⟨payload, rfl⟩
      obtain ⟨bytes, travels⟩ := travels
      exact ⟨bytes ++ later, by simp only [travels, sentLater, Except.map]⟩

theorem honest_answer {content : Content} {batch : List BucketRequest}
    (sendable : ∀ request ∈ batch, ∀ payload, content request = some payload →
      request.fourBit = true → payload.length % 2 = 0) :
    HonestAnswer content batch (content.answer batch) where
  buffer := by
    obtain ⟨bytes, sent⟩ := exists_sent sendable
    exact ⟨bytes, [], sent, by rw [Content.answer, sent, List.append_nil]⟩
  missing index := by
    rw [Content.answer, mem_missingIndices, List.getElem?_map, Option.map_eq_some_iff]

/-- Surroundings with stores that answer from their contents. -/
def honestPorts (stores : String → Content) : FetchPorts Unit :=
  answeringPorts fun request => (stores request.url).answer request.batch

/-- Ports that look everything up are honest. -/
theorem honest_honestPorts {stores : String → Content}
    (even : ∀ url request payload, stores url request = some payload → payload.length % 2 = 0) :
    HonestPorts (honestPorts stores) stores fun _ => True where
  token _ _ := ⟨_, (), rfl, trivial⟩
  request request _ _ :=
    ⟨_, (), rfl, honest_answer fun asked _ payload found _ => even request.url asked payload found,
      trivial⟩
  decode _ _ _ := ⟨(), rfl, trivial⟩
  note _ _ _ := trivial

/-- An edited layer `segments` with the fallback `imported`. -/
def annotatedDataset : Dataset :=
  { layers := [.segmentation "segments" .uint8]
    volume := some ⟨3, some "imported"⟩ }

/-- The second slab of the first axis is edited, the first slab of the second axis was imported. -/
def annotatedStores (url : String) (request : BucketRequest) : Option Payload :=
  if url = annotatedDataset.layerUrl segments then
    if request.bucket.position.x = 32 then some (List.replicate segments.bucketByteLength 1)
    else none
  else if request.bucket.position.y = 0 then some (List.replicate segments.bucketByteLength 2)
  else none

theorem length_of_annotatedStores {url : String} {request : BucketRequest} {payload : Payload}
    (found : annotatedStores url request = some payload) :
    payload.length = segments.bucketByteLength := by
  rw [annotatedStores] at found
  repeat' split at found
  all_goals cases found
  all_goals exact List.length_replicate

/-- The annotated dataset and its stores. -/
def annotatedFetcher : Fetcher Unit :=
  { ports := honestPorts annotatedStores, dataset := annotatedDataset, timeoutMs := 1000 }

/-! ## Deliveries of honest stores -/

namespace Fetcher

variable {fetcher : Fetcher σ} {stores : String → Content} {ready : σ → Prop} {layer : Layer}
  {batch : List BucketAddress} {before : σ}

/-- Notices do not disturb the stores. -/
theorem ready_of_notices {note : Notice → StateM σ Unit}
    (keeps : ∀ notice start, ready start → ready (note notice start).2)
    (notices : List Notice) (start : ready before) : ready (notices.forM note before).2 := by
  induction notices generalizing before with
  | nil => exact start
  | cons notice rest ih => exact ih (keeps notice before start)

/-- The codecs of honest ports unpack what was packed. -/
theorem voxels_of_honest (honest : HonestPorts fetcher.ports stores ready) (layer : Layer)
    (buffer : Payload) (start : ready before) :
    ∃ after, fetcher.voxels layer buffer before =
      (.ok (unpacked (fetcher.dataset.usesFourBit layer) buffer), after) ∧ ready after := by
  rw [voxels, unpacked]
  split
  · exact honest.decode buffer before start
  · exact ⟨before, rfl, start⟩

/-- A store that is honest about a content delivers the content of the batch. -/
theorem delivers_of_honestAt {url : String} {content : Content}
    (honest : HonestAt fetcher.ports url (fetcher.dataset.usesFourBit layer) content ready)
    (expands : ∀ buffer start, ready start → ∃ after, fetcher.voxels layer buffer start =
      (.ok (unpacked (fetcher.dataset.usesFourBit layer) buffer), after) ∧ ready after)
    (sized : ∀ request payload, content request = some payload →
      payload.length = layer.bucketByteLength)
    (translates : ∀ address ∈ batch,
      ∃ position, address.position fetcher.dataset.resolutions = .ok position)
    (start : ready before) :
    ∃ answer after, fetcher.Delivers url layer batch before answer
      (batch.map (fetcher.dataset.bucketIn layer content)) after ∧ ready after := by
  obtain ⟨requests, translated⟩ := exists_batchRequests layer translates
  obtain ⟨token, issued, gotToken, readyIssued⟩ := honest.token before start
  obtain ⟨answer, asked, answered, honestAnswer, readyAsked⟩ :=
    honest.request ⟨url, token, requests, fetcher.timeoutMs⟩ issued rfl
      (fun _ => fourBit_of_batchRequests translated) readyIssued
  obtain ⟨decoded, expanded, readyDecoded⟩ := expands answer.buffer asked readyAsked
  obtain ⟨surplus, sliced⟩ := sliceBatch_of_honest layer.even_bucketByteLength sized
    (fun request => fourBit_of_batchRequests translated) honestAnswer
  have lengths : requests.length = batch.length := by
    have images := congrArg List.length (batchRequests_eq_ok_iff.mp translated)
    simpa using images.symm
  rw [lengths] at sliced
  rw [map_bucketIn translated]
  exact ⟨answer, _, .intro translated (withToken_accepted gotToken answered) expanded sliced,
    ready_of_notices honest.note _ readyDecoded⟩

/-- An honest store delivers its content of the batch. -/
theorem delivers_of_honest (honest : HonestPorts fetcher.ports stores ready) (url : String)
    (sized : ∀ request payload, stores url request = some payload →
      payload.length = layer.bucketByteLength)
    (translates : ∀ address ∈ batch,
      ∃ position, address.position fetcher.dataset.resolutions = .ok position)
    (start : ready before) :
    ∃ answer after, fetcher.Delivers url layer batch before answer
      (batch.map (fetcher.dataset.bucketIn layer (stores url))) after ∧ ready after :=
  delivers_of_honestAt (honest.honestAt url _)
    (fun buffer _ start => voxels_of_honest honest layer buffer start) sized translates start

/-- If both stores deliver what they have at the addresses they are asked for, the pieces of the
fallback layer fill the gaps of the layer's own store. -/
theorem fetch_of_deliveries (own : BucketAddress → Piece) (other : String → BucketAddress → Piece)
    (note : ∀ notice start, ready start → ready (fetcher.ports.note notice start).2)
    (first : ∃ answer after, fetcher.Delivers (fetcher.dataset.layerUrl layer) layer batch before
      answer (batch.map own) after ∧ ready after)
    (second : ∀ fallback addresses start, fetcher.dataset.fallbackLayer = some fallback →
      (∀ address ∈ addresses, address ∈ batch) → ready start →
      ∃ answer after, fetcher.Delivers (fetcher.dataset.dataStoreLayerUrl fallback) layer addresses
        start answer (addresses.map (other fallback)) after ∧ ready after) :
    ∃ after, fetcher.fetch layer batch before =
      (.ok (batch.map fun address => (own address).or (if fetcher.dataset.isEdited layer then
        fetcher.dataset.fallbackLayer.bind fun fallback => other fallback address else none)),
        after) ∧ ready after := by
  obtain ⟨answer, asked, delivered, readyAsked⟩ := first
  cases ofFallback : fallbackFor fetcher.dataset layer (batch.map own) with
  | none =>
    rw [List.map_congr_left fun address => or_of_noFallback other ofFallback]
    exact ⟨asked, (Fetches.direct delivered ofFallback).fetch, readyAsked⟩
  | some fallback =>
    have declared : fetcher.dataset.fallbackLayer = some fallback := by
      rw [fallbackFor_eq] at ofFallback
      split at ofFallback
      next => exact ofFallback
      next => cases ofFallback
    obtain ⟨addresses, gathered⟩ := exists_missing_addresses delivered.cuts.1
    obtain ⟨answerAgain, after, deliveredAgain, readyAfter⟩ := second fallback addresses _ declared
      (fun _ => mem_of_gather? gathered) (note _ asked readyAsked)
    have joined := mergeFallback?_map (other fallback) gathered
    rw [List.map_congr_left fun address _ => or_of_fallback other ofFallback]
    exact ⟨after, (Fetches.merged delivered ofFallback gathered deliveredAgain joined).fetch,
      readyAfter⟩

/-- If every answer is honest, a fetch ends with the right bucket at every position. -/
theorem fetch_of_honest (fetcher : Fetcher σ) (layer : Layer) (batch : List BucketAddress)
    (stores : String → Content) (ready : σ → Prop)
    (translates : ∀ address ∈ batch,
      ∃ position, address.position fetcher.dataset.resolutions = .ok position)
    (sized : ∀ url request payload, stores url request = some payload →
      payload.length = layer.bucketByteLength)
    (honest : HonestPorts fetcher.ports stores ready) (before : σ) (start : ready before) :
    ∃ after, fetcher.fetch layer batch before =
      (.ok (batch.map (fetcher.dataset.bucketAt layer stores)), after) ∧ ready after := by
  obtain ⟨answer, asked, first, readyAsked⟩ :=
    delivers_of_honest honest (fetcher.dataset.layerUrl layer) (sized _) translates start
  cases ofFallback : fallbackFor fetcher.dataset layer
    (batch.map (fetcher.dataset.bucketIn layer (stores (fetcher.dataset.layerUrl layer)))) with
  | none =>
    have same : batch.map (fetcher.dataset.bucketAt layer stores) = _ :=
      List.map_congr_left fun _ => bucketAt_of_noFallback ofFallback
    rw [same]
    exact ⟨asked, (Fetches.direct first ofFallback).fetch, readyAsked⟩
  | some fallback =>
    obtain ⟨addresses, gathered⟩ := exists_missing_addresses first.cuts.1
    obtain ⟨second, after, again, readyAfter⟩ :=
      delivers_of_honest honest (fetcher.dataset.dataStoreLayerUrl fallback) (sized _)
        (fun address member => translates address (mem_of_gather? gathered member))
        (honest.note _ asked readyAsked)
    have joined := mergeFallback?_map (fetcher.dataset.bucketIn layer
      (stores (fetcher.dataset.dataStoreLayerUrl fallback))) gathered
    have same : batch.map (fetcher.dataset.bucketAt layer stores) = _ :=
      List.map_congr_left fun address _ => bucketAt_of_fallback ofFallback address
    rw [same]
    exact ⟨after, (Fetches.merged first ofFallback gathered again joined).fetch, readyAfter⟩

/-- One bucket is imported, one is edited, one is in neither store, and one is asked for again. -/
theorem fetch_annotated :
    ∃ after, annotatedFetcher.fetch segments
        [⟨0, 0, 0, 0⟩, ⟨1, 0, 0, 0⟩, ⟨0, 1, 0, 0⟩, ⟨1, 0, 0, 0⟩] () =
      (.ok [some (List.replicate segments.bucketByteLength 2),
        some (List.replicate segments.bucketByteLength 1), none,
        some (List.replicate segments.bucketByteLength 1)], after) := by
  have translates : ∀ address ∈
      ([⟨0, 0, 0, 0⟩, ⟨1, 0, 0, 0⟩, ⟨0, 1, 0, 0⟩, ⟨1, 0, 0, 0⟩] : List BucketAddress),
      ∃ position, address.position annotatedFetcher.dataset.resolutions = .ok position := by
    intro address member
    simp only [List.mem_cons, List.not_mem_nil, or_false] at member
    rcases member with rfl | rfl | rfl | rfl
    all_goals exact ⟨_, rfl⟩
  have even : ∀ url request payload, annotatedStores url request = some payload →
      payload.length % 2 = 0 := by
    intro url request payload found
    rw [length_of_annotatedStores found, segments.even_bucketByteLength]
  obtain ⟨after, run, -⟩ := fetch_of_honest annotatedFetcher segments _ annotatedStores
    (fun _ => True) translates (fun _ _ _ => length_of_annotatedStores) (honest_honestPorts even)
    () trivial
  exact ⟨after, run⟩

end Fetcher

end VoxelStream
