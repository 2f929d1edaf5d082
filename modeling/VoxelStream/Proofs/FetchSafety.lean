import VoxelStream.Proofs.FetchRuns

/-!
# Fetching is safe

Nothing is assumed of the stores, the tokens or the decoder.  A fetch never reads or writes outside
a list, and the offsets of slicing are 64-bit numbers.  If it comes to pieces, there is one per
address and each holds one whole bucket.  A payload of the first delivery is kept.  A piece is
missing only if the first store said so, and the fallback layer, if it was asked, said so too.

The facts about pieces hold of every delivery (`Delivers.cuts`), and merging keeps them, because the
second delivery has one piece per missing index of the first.
-/

namespace VoxelStream

/-! ## Bounds -/

/-- A bucket is far smaller than what 64-bit words can count. -/
theorem Layer.bucketByteLength_lt (layer : Layer) :
    layer.bucketByteLength < UInt64.size / 2 := by
  have byteCount := layer.byteCount.toNat_lt
  rw [bucketByteLength, bucketVoxels_eq, UInt64.size]
  omega

namespace Fetcher

variable {σ : Type} {fetcher : Fetcher σ} {url : String} {layer : Layer}
  {batch : List BucketAddress} {before after : σ} {pieces : List Piece}

/-- A delivery lacks exactly the pieces that its answer lists. -/
theorem Delivers.getElem?_eq_none_iff {answer : StoreAnswer} {index : Nat}
    (delivers : fetcher.Delivers url layer batch before answer pieces after)
    (inside : index < batch.length) : pieces[index]? = some none ↔ index ∈ answer.missing := by
  obtain ⟨lengths, _, _, cuts⟩ := delivers.cuts
  rw [cuts.getElem?_eq_none_iff (lengths ▸ inside), Nat.zero_add]

theorem Delivers.length_payload {answer : StoreAnswer} {payload : Payload}
    (delivers : fetcher.Delivers url layer batch before answer pieces after)
    (delivered : some payload ∈ pieces) : payload.length = layer.bucketByteLength := by
  obtain ⟨-, _, _, cuts⟩ := delivers.cuts
  exact cuts.length_payload delivered

theorem Delivers.mem_missing {answer : StoreAnswer} {index : Nat}
    (delivers : fetcher.Delivers url layer batch before answer pieces after)
    (lacks : pieces[index]? = some none) : index ∈ answer.missing := by
  have inside : index < batch.length := by
    rw [← delivers.cuts.1]
    exact (List.getElem?_eq_some_iff.mp lacks).1
  exact (delivers.getElem?_eq_none_iff inside).mp lacks

/-! ## Safety -/

/-- Fetching is safe against every answer: it never uses an index outside its list, its offsets are
64-bit numbers, and the pieces it comes to are as many and as long as they should be and lack
nothing that a store delivered. -/
theorem fetch_safe (fetcher : Fetcher σ) (layer : Layer) (batch : List BucketAddress)
    (before : σ) :
    (fetcher.fetch layer batch before).1 ≠ .error .indexOutside ∧
    (∀ (batchLength : Nat) (missing : List Nat) (buffer : Payload), buffer.length < UInt64.size / 2 →
      sliceInWords layer.bucketByteLength batchLength missing buffer =
        some (sliceBatch layer.bucketByteLength batchLength missing buffer)) ∧
    ∀ pieces, (fetcher.fetch layer batch before).1 = .ok pieces →
      pieces.length = batch.length ∧
      (∀ payload, some payload ∈ pieces → payload.length = layer.bucketByteLength) ∧
      ∃ (answer : StoreAnswer) (first : List Piece) (asked : σ),
        fetcher.Delivers (fetcher.dataset.layerUrl layer) layer batch before answer first asked ∧
        (∀ (index : Nat) (payload : Payload), first[index]? = some (some payload) →
          pieces[index]? = some (some payload)) ∧
        (∀ index : Nat, pieces[index]? = some none → index ∈ answer.missing) ∧
        (fallbackFor fetcher.dataset layer first = none ∨
          ∃ (fallback : String) (addresses : List BucketAddress) (second : StoreAnswer)
              (found : List Piece) (after : σ),
            fallbackFor fetcher.dataset layer first = some fallback ∧
            gather? batch (missingIndices first) = some addresses ∧
            fetcher.Delivers (fetcher.dataset.dataStoreLayerUrl fallback) layer addresses
              (fetcher.ports.note
                (.fallbackAsked (missingIndices first).length batch.length fallback) asked).2
              second found after ∧
            ∀ index : Nat, pieces[index]? = some none →
              ∃ position : Nat, (missingIndices first)[position]? = some index ∧
                position ∈ second.missing) := by
  refine ⟨?_, ?_, ?_⟩
  · rcases fetch_cases fetcher layer batch before with ⟨error, after, run⟩ | ⟨_, _, run, -⟩
    · rw [run]
      simp
    · rw [run]
      simp
  · intro batchLength missing buffer inMemory
    apply sliceInWords_eq
    have bucket := layer.bucketByteLength_lt
    omega
  · intro pieces result
    rcases fetch_cases fetcher layer batch before with ⟨_, _, run⟩ | ⟨_, after, run, fetches⟩
    · rw [run] at result
      cases result
    rw [run] at result
    cases result
    cases fetches with
    | @direct answer _ _ first noFallback =>
      refine ⟨first.cuts.1, fun payload => first.length_payload, answer, pieces, after, first,
        fun index payload held => held, fun index => first.mem_missing, .inl noFallback⟩
    | @merged answer second delivered found _ asked _ fallback addresses first asksFallback
        gathered again joined =>
      have enough : found.length = (missingIndices delivered).length := by
        rw [again.cuts.1, length_of_gather? gathered]
      refine ⟨by rw [length_of_mergeFallback? joined, first.cuts.1], ?_, answer, delivered, asked,
        first, fun index payload => getElem?_of_mergeFallback?_present joined, ?_, .inr ?_⟩
      · intro payload listed
        rcases mem_of_mergeFallback? joined enough listed with kept | filled
        · exact first.length_payload kept
        · exact again.length_payload filled
      · intro index lacks
        exact first.mem_missing (missing_of_mergeFallback? joined enough lacks).1
      · refine ⟨fallback, addresses, second, found, after, asksFallback, gathered, again, ?_⟩
        intro index lacks
        obtain ⟨-, position, listed, lacksToo⟩ := missing_of_mergeFallback? joined enough lacks
        exact ⟨position, listed, again.mem_missing lacksToo⟩

/-- Both stores lack the first bucket of every batch, say so twice, and send bytes that belong to
none. -/
def lackingFetcher : Fetcher Unit :=
  { dataset := { volume := some ⟨3, some "imported"⟩ }
    ports := answeringPorts fun _ => ⟨[1, 2, 3], [0, 0]⟩ }

/-- What both stores lack is missing, and the list of the first one says so. -/
theorem fetch_lacking :
    (lackingFetcher.fetch (.segmentation "segments" .uint8) [⟨0, 0, 0, 0⟩] ()).1 = .ok [none] ∧
      ∃ (answer : StoreAnswer) (first : List Piece) (asked : Unit),
        lackingFetcher.Delivers "http://localhost:9000/tracings/volume/segments"
          (.segmentation "segments" .uint8) [⟨0, 0, 0, 0⟩] () answer first asked ∧
        0 ∈ answer.missing := by
  have run : (lackingFetcher.fetch (.segmentation "segments" .uint8) [⟨0, 0, 0, 0⟩] ()).1 =
      .ok [none] := by decide
  obtain ⟨-, -, facts⟩ := fetch_safe lackingFetcher (.segmentation "segments" .uint8)
    [⟨0, 0, 0, 0⟩] ()
  obtain ⟨-, -, answer, first, asked, delivers, -, listed, -⟩ := facts _ run
  have url : lackingFetcher.dataset.layerUrl (.segmentation "segments" .uint8) =
      "http://localhost:9000/tracings/volume/segments" := by decide
  rw [url] at delivers
  exact ⟨run, answer, first, asked, delivers, listed 0 rfl⟩

end Fetcher

end VoxelStream
