import VoxelStream.Proofs.AddressTranslation
import VoxelStream.Proofs.Joining
import VoxelStream.Proofs.Slicing
import VoxelStream.Fetch

/-!
# Runs of a fetch

A fetch asks one store, and perhaps a second.  `Fetcher.Delivers` says what one store has delivered:
the answer that came for a batch, the pieces it was sliced into, and the state after them.
`Fetcher.Fetches` says what a whole fetch has come to: the pieces of the first delivery, or these
merged with the pieces of a second for the addresses that were missing.

Both describe exactly the runs that end with pieces (`requestFrom_eq_ok_iff`, `fetch_cases`,
`Fetches.fetch`), so what holds of pieces is proved from deliveries and not from the actions of the
state monad.
-/

namespace VoxelStream

variable {σ α : Type}

/-! ## The token scope -/

section

variable {ports : TokenPorts σ} {operation : String → StateM σ (Except FetchError α)}
  {before issued after : σ}

/-- An operation that succeeds with the first token is not repeated. -/
theorem withToken_accepted {token : String} {value : α}
    (gotToken : ports.token before = (.ok token, issued))
    (accepted : operation token issued = (.ok value, after)) :
    withToken ports operation before = (.ok value, after) := by
  rw [withToken, bind_run gotToken]
  show (operation token >>= _) issued = _
  rw [bind_run accepted]
  rfl

end

/-- Surroundings with one token, with stores whose answers depend on the request alone, and with a
decoder that never fails. -/
def answeringPorts (reply : StoreRequest → StoreAnswer) : FetchPorts Unit where
  token := pure (.ok "token")
  refresh := pure (.ok "token")
  note _ := pure ()
  request request := pure (.ok (reply request))
  decode data := pure (.ok (FourBit.decode data))

/-- A layer that an annotation edits. -/
def segments : Layer := .segmentation "segments" .uint8

/-! ## Batches -/

/-- The request for the bucket at an address of a layer. -/
def requestOf (dataset : Dataset) (layer : Layer) (address : BucketAddress) :
    Except AddressError BucketRequest :=
  address.request dataset.resolutions (dataset.usesFourBit layer) (dataset.requestVersion layer)

/-- An address with a position can be asked for. -/
theorem requestOf_of_position {dataset : Dataset} (layer : Layer) {address : BucketAddress}
    {position : Vec3}
    (translates : address.position dataset.resolutions = .ok position) :
    requestOf dataset layer address =
      .ok ⟨⟨position, address.zoomStep, 32⟩, dataset.usesFourBit layer,
        dataset.requestVersion layer⟩ :=
  request_eq_ok_iff.mpr ⟨position, translates, rfl⟩

/-- A batch is translated exactly if each address is. -/
theorem batchRequests_eq_ok_iff {dataset : Dataset} {layer : Layer} {batch : List BucketAddress}
    {requests : List BucketRequest} :
    batchRequests dataset layer batch = .ok requests ↔
      batch.map (requestOf dataset layer) = requests.map .ok := by
  induction batch generalizing requests with
  | nil => cases requests <;> simp [batchRequests]
  | cons address rest ih =>
    rw [batchRequests, List.map_cons, ← requestOf]
    cases requestOf dataset layer address with
    | error e => cases requests <;> simp
    | ok request =>
      cases requests with
      | nil => cases batchRequests dataset layer rest <;> simp
      | cons first others =>
        rw [List.map_cons, List.cons.injEq, ← ih]
        cases batchRequests dataset layer rest <;> simp

/-- The first address without a position decides. -/
theorem batchRequests_of_first_error {dataset : Dataset} {earlier later : List BucketAddress}
    {address : BucketAddress} {error : AddressError} (layer : Layer)
    (translates : ∀ other ∈ earlier,
      ∃ position, other.position dataset.resolutions = .ok position)
    (fails : address.position dataset.resolutions = .error error) :
    batchRequests dataset layer (earlier ++ address :: later) = .error (.ofAddress error) := by
  induction earlier with
  | nil => rw [List.nil_append, batchRequests, request_eq_error_iff.mpr fails]
  | cons first rest ih =>
    obtain ⟨position, here⟩ := translates first List.mem_cons_self
    have asked := requestOf_of_position layer here
    rw [requestOf] at asked
    rw [List.cons_append, batchRequests, asked,
      ih fun other member => translates other (List.mem_cons_of_mem _ member)]

theorem exists_batchRequests {dataset : Dataset} {batch : List BucketAddress} (layer : Layer)
    (translates : ∀ address ∈ batch,
      ∃ position, address.position dataset.resolutions = .ok position) :
    ∃ requests, batchRequests dataset layer batch = .ok requests := by
  induction batch with
  | nil => exact ⟨[], rfl⟩
  | cons address rest ih =>
    obtain ⟨position, here⟩ := translates address List.mem_cons_self
    obtain ⟨requests, later⟩ := ih fun other member =>
      translates other (List.mem_cons_of_mem _ member)
    have asked := requestOf_of_position layer here
    exact ⟨_ :: requests, batchRequests_eq_ok_iff.mpr
      (by rw [List.map_cons, List.map_cons, asked, batchRequests_eq_ok_iff.mp later])⟩

namespace Fetcher

variable {fetcher : Fetcher σ} {url : String} {layer : Layer} {batch : List BucketAddress}
  {before after : σ} {pieces : List Piece}

/-! ## Deliveries -/

/-- Asks a store for the buckets of some requests, in the token scope. -/
def ask (fetcher : Fetcher σ) (url : String) (requests : List BucketRequest) :
    StateM σ (Except FetchError StoreAnswer) :=
  withToken fetcher.ports.toTokenPorts fun token =>
    fetcher.ports.request ⟨url, token, requests, fetcher.timeoutMs⟩

/-- A store has delivered an answer for a batch, and the pieces are what the answer was sliced
into. -/
inductive Delivers (fetcher : Fetcher σ) (url : String) (layer : Layer)
    (batch : List BucketAddress) (before : σ) : StoreAnswer → List Piece → σ → Prop where
  | intro {requests : List BucketRequest} {answer : StoreAnswer} {buffer : Payload}
      {slices : Slices} {asked decoded : σ} :
      batchRequests fetcher.dataset layer batch = .ok requests →
      fetcher.ask url requests before = (.ok answer, asked) →
      fetcher.voxels layer answer.buffer asked = (.ok buffer, decoded) →
      sliceBatch layer.bucketByteLength batch.length answer.missing buffer = .ok slices →
      Delivers fetcher url layer batch before answer slices.pieces
        (slices.notices.forM fetcher.ports.note decoded).2

theorem sliceAnswer_ok {note : Notice → StateM σ Unit} {length batchLength : Nat}
    {missing : List Nat} {buffer : Payload} {slices : Slices}
    (sliced : sliceBatch length batchLength missing buffer = .ok slices) :
    sliceAnswer note length batchLength missing buffer before =
      (.ok slices.pieces, (slices.notices.forM note before).2) := by
  rw [sliceAnswer, sliced]
  rfl

theorem Delivers.requestFrom {answer : StoreAnswer}
    (delivers : fetcher.Delivers url layer batch before answer pieces after) :
    fetcher.requestFrom url layer batch before = (.ok pieces, after) := by
  obtain ⟨translated, asked, decoded, sliced⟩ := delivers
  rw [Fetcher.requestFrom, translated]
  show (fetcher.ask url _ >>= _) before = _
  rw [bind_run asked]
  show (fetcher.voxels layer _ >>= _) _ = _
  rw [bind_run decoded]
  exact sliceAnswer_ok sliced

/-- A request ends with pieces exactly if a store delivers them. -/
theorem requestFrom_eq_ok_iff :
    fetcher.requestFrom url layer batch before = (.ok pieces, after) ↔
      ∃ answer, fetcher.Delivers url layer batch before answer pieces after := by
  constructor
  · intro result
    rw [Fetcher.requestFrom] at result
    cases translated : batchRequests fetcher.dataset layer batch with
    | error e =>
      rw [translated] at result
      cases result
    | ok requests =>
      rw [translated] at result
      replace result : (fetcher.ask url requests >>= _) before = _ := result
      rcases asked : fetcher.ask url requests before with ⟨_ | answer, issued⟩
      · rw [bind_run asked] at result
        cases result
      · rw [bind_run asked] at result
        replace result : (fetcher.voxels layer answer.buffer >>= _) issued = _ := result
        rcases decoded : fetcher.voxels layer answer.buffer issued with ⟨_ | buffer, expanded⟩
        · rw [bind_run decoded] at result
          cases result
        · rw [bind_run decoded] at result
          replace result : sliceAnswer fetcher.ports.note layer.bucketByteLength batch.length
            answer.missing buffer expanded = _ := result
          cases sliced : sliceBatch layer.bucketByteLength batch.length answer.missing buffer with
          | error e =>
            rw [sliceAnswer, sliced] at result
            cases result
          | ok slices =>
            rw [sliceAnswer_ok sliced] at result
            cases result
            exact ⟨answer, .intro translated asked decoded sliced⟩
  · rintro ⟨answer, delivers⟩
    exact delivers.requestFrom

/-- The pieces of a delivery are a cut of some buffer at the missing indices of the answer. -/
theorem Delivers.cuts {answer : StoreAnswer}
    (delivers : fetcher.Delivers url layer batch before answer pieces after) :
    pieces.length = batch.length ∧ ∃ buffer surplus,
      Cuts layer.bucketByteLength answer.missing 0 buffer pieces surplus := by
  obtain ⟨-, -, -, sliced⟩ := delivers
  obtain ⟨-, surplus, cuts, lengths, -⟩ := sliceBatch_eq_ok_iff.mp sliced
  exact ⟨lengths, _, surplus, cuts⟩

/-! ## Fetches -/

/-- Only an edited layer with gaps asks for a fallback. -/
theorem fallbackFor_eq (dataset : Dataset) (layer : Layer) (pieces : List Piece) :
    fallbackFor dataset layer pieces =
      if dataset.isEdited layer = true ∧ none ∈ pieces then dataset.fallbackLayer else none := by
  have lacks : (missingIndices pieces).isEmpty = false ↔ none ∈ pieces := by
    rw [List.isEmpty_eq_false_iff, Ne, missingIndices_eq_nil_iff, not_not]
  simp only [fallbackFor, Bool.and_eq_true, Bool.not_eq_true', lacks]

/-- A fetch has come to pieces: to those of the first delivery, or to these merged with the pieces
of a second one for the addresses that were missing. -/
inductive Fetches (fetcher : Fetcher σ) (layer : Layer) (batch : List BucketAddress) (before : σ) :
    List Piece → σ → Prop where
  | direct {answer : StoreAnswer} {pieces : List Piece} {after : σ} :
      fetcher.Delivers (fetcher.dataset.layerUrl layer) layer batch before answer pieces after →
      fallbackFor fetcher.dataset layer pieces = none →
      Fetches fetcher layer batch before pieces after
  | merged {answer second : StoreAnswer} {pieces found merged : List Piece} {asked after : σ}
      {fallback : String} {addresses : List BucketAddress} :
      fetcher.Delivers (fetcher.dataset.layerUrl layer) layer batch before answer pieces asked →
      fallbackFor fetcher.dataset layer pieces = some fallback →
      gather? batch (missingIndices pieces) = some addresses →
      fetcher.Delivers (fetcher.dataset.dataStoreLayerUrl fallback) layer addresses
        (fetcher.ports.note
          (.fallbackAsked (missingIndices pieces).length batch.length fallback) asked).2
        second found after →
      mergeFallback? pieces (missingIndices pieces) found = some merged →
      Fetches fetcher layer batch before merged after

theorem exists_missing_addresses (lengths : pieces.length = batch.length) :
    ∃ addresses, gather? batch (missingIndices pieces) = some addresses := by
  apply exists_gather?
  intro index listed
  rw [← lengths]
  exact lt_length_of_mem_missingIndices listed

section

variable {fallback : String} {addresses : List BucketAddress} {found merged : List Piece}

/-- The gathered addresses are asked for, and an error is passed on. -/
theorem askFallback_of_error {error : FetchError}
    (gathered : gather? batch (missingIndices pieces) = some addresses)
    (asked : fetcher.requestFrom (fetcher.dataset.dataStoreLayerUrl fallback) layer addresses
      (fetcher.ports.note
        (.fallbackAsked (missingIndices pieces).length batch.length fallback) before).2 =
      (.error error, after)) :
    fetcher.askFallback layer batch pieces fallback before = (.error (.failed error), after) := by
  simp only [askFallback, gathered]
  rw [bind_run (Prod.eta _).symm, bind_run asked]
  rfl

/-- The gathered addresses are asked for, and what is found is merged. -/
theorem askFallback_of_ok
    (gathered : gather? batch (missingIndices pieces) = some addresses)
    (asked : fetcher.requestFrom (fetcher.dataset.dataStoreLayerUrl fallback) layer addresses
      (fetcher.ports.note
        (.fallbackAsked (missingIndices pieces).length batch.length fallback) before).2 =
      (.ok found, after))
    (joined : mergeFallback? pieces (missingIndices pieces) found = some merged) :
    fetcher.askFallback layer batch pieces fallback before = (.ok merged, after) := by
  simp only [askFallback, gathered]
  rw [bind_run (Prod.eta _).symm, bind_run asked]
  simp only [joined]
  rfl

end

/-- A fetch ends with an error for the caller or with pieces.  There is no third case: it never
stops at an index that is none of its list. -/
theorem fetch_cases (fetcher : Fetcher σ) (layer : Layer) (batch : List BucketAddress)
    (before : σ) :
    (∃ error after, fetcher.fetch layer batch before = (.error (.failed error), after)) ∨
    (∃ pieces after, fetcher.fetch layer batch before = (.ok pieces, after) ∧
      fetcher.Fetches layer batch before pieces after) := by
  rw [fetch]
  rcases asked : fetcher.requestFrom (fetcher.dataset.layerUrl layer) layer batch before
    with ⟨error | pieces, between⟩
  · rw [bind_run asked]
    exact .inl ⟨error, between, rfl⟩
  · rw [bind_run asked]
    obtain ⟨answer, first⟩ := requestFrom_eq_ok_iff.mp asked
    dsimp only
    cases ofFallback : fallbackFor fetcher.dataset layer pieces with
    | none => exact .inr ⟨pieces, between, rfl, .direct first ofFallback⟩
    | some fallback =>
      obtain ⟨addresses, gathered⟩ := exists_missing_addresses first.cuts.1
      dsimp only
      rcases again : fetcher.requestFrom (fetcher.dataset.dataStoreLayerUrl fallback) layer
        addresses (fetcher.ports.note
          (.fallbackAsked (missingIndices pieces).length batch.length fallback) between).2
        with ⟨error | found, after⟩
      · exact .inl ⟨error, after, askFallback_of_error gathered again⟩
      · obtain ⟨answerAgain, second⟩ := requestFrom_eq_ok_iff.mp again
        obtain ⟨merged, joined⟩ := exists_mergeFallback? pieces found
        exact .inr ⟨merged, after, askFallback_of_ok gathered again joined,
          .merged first ofFallback gathered second joined⟩

theorem Fetches.fetch (fetches : fetcher.Fetches layer batch before pieces after) :
    fetcher.fetch layer batch before = (.ok pieces, after) := by
  cases fetches with
  | direct first ofFallback =>
    rw [Fetcher.fetch, bind_run first.requestFrom]
    dsimp only
    rw [ofFallback]
    rfl
  | merged first ofFallback gathered second joined =>
    rw [Fetcher.fetch, bind_run first.requestFrom]
    dsimp only
    rw [ofFallback]
    exact askFallback_of_ok gathered second.requestFrom joined

end Fetcher

end VoxelStream
