import VoxelStream.Proofs.PushAtomicity
import VoxelStream.Proofs.StoreCalls

/-!
# Which addresses have a position

A position is the exact product of bucket edge, grid coordinate and scale on each axis.  An address
has none if its zoom step has no scale.  Else it has none exactly if a product on some axis is no
32-bit number (`BucketAddress.Exceeds`).  The product of edge and coordinate counts on its own,
which matters at scale zero only (`exceeds_iff_of_positive`).

The three axes are treated alike, so everything is said of an `Axis`.

At positive scales nothing is lost: each coordinate is the position divided by edge and scale, and a
descriptor or a request belongs to one address (`Resolutions.Invertible`).
-/

namespace VoxelStream

/-! ## Axes -/

/-- The three axes of the grid. -/
inductive Axis where
  | x | y | z
deriving DecidableEq

/-- The number of an axis. -/
def Vec3.along (v : Vec3) : Axis → UInt32
  | .x => v.x
  | .y => v.y
  | .z => v.z

theorem Vec3.eq_of_along {first second : Vec3}
    (same : ∀ axis, first.along axis = second.along axis) : first = second := by
  cases first
  cases second
  exact (Vec3.mk.injEq ..).mpr ⟨same .x, same .y, same .z⟩

/-- The grid coordinate on an axis. -/
def BucketAddress.along (address : BucketAddress) : Axis → UInt32
  | .x => address.x
  | .y => address.y
  | .z => address.z

/-- On some axis a product is larger than every 32-bit number: that of edge and coordinate, or that
of edge, coordinate and scale. -/
def BucketAddress.Exceeds (address : BucketAddress) (scale : Vec3) : Prop :=
  ∃ axis, UInt32.size ≤ 32 * (address.along axis).toNat ∨
    UInt32.size ≤ 32 * (address.along axis).toNat * (scale.along axis).toNat

/-- At positive scales the last product is the largest. -/
theorem BucketAddress.exceeds_iff_of_positive {address : BucketAddress} {scale : Vec3}
    (positive : ∀ axis, 0 < (scale.along axis).toNat) :
    address.Exceeds scale ↔
      ∃ axis, UInt32.size ≤ 32 * (address.along axis).toNat * (scale.along axis).toNat := by
  constructor
  · rintro ⟨axis, inner | outer⟩
    · exact ⟨axis, Nat.le_trans inner (Nat.le_mul_of_pos_right _ (positive axis))⟩
    · exact ⟨axis, outer⟩
  · rintro ⟨axis, outer⟩
    exact ⟨axis, .inr outer⟩

/-- A coordinate fails if the corner of the bucket or its product with the scale leaves 32 bits. -/
theorem voxelCoordinate?_eq_none_iff {coordinate scale : UInt32} :
    voxelCoordinate? coordinate scale = none ↔
      UInt32.size ≤ 32 * coordinate.toNat ∨ UInt32.size ≤ 32 * coordinate.toNat * scale.toNat := by
  rw [Nat.mul_comm 32]
  cases found : voxelCoordinate? coordinate scale with
  | some voxel =>
    obtain ⟨inner, outer⟩ := voxelCoordinate?_eq_some_iff.mp found
    have words : voxel.toNat < UInt32.size := voxel.toNat_lt
    simp only [reduceCtorEq, false_iff]
    omega
  | none =>
    simp only [true_iff]
    by_contra fits
    have words : coordinate.toNat * 32 * scale.toNat < UInt32.size := by omega
    have product : voxelCoordinate? coordinate scale =
        some (.ofNat (coordinate.toNat * 32 * scale.toNat)) := by
      rw [voxelCoordinate?_eq_some_iff, UInt32.toNat_ofNat_of_lt' words]
      omega
    rw [found] at product
    cases product

/-! ## Positions -/

namespace BucketAddress

section

variable {resolutions : Resolutions} {address : BucketAddress} {scale position : Vec3}

/-- A zoom step beyond the listed resolutions is reported with its number. -/
theorem position_of_unlisted (unlisted : resolutions[address.zoomStep.toNat]? = none) :
    address.position resolutions = .error (.unknownResolution address.zoomStep) := by
  rw [BucketAddress.position, unlisted]

/-- A position is found where every axis has its coordinate. -/
theorem position_eq_ok_iff_along
    (listed : resolutions[address.zoomStep.toNat]? = some scale) :
    address.position resolutions = .ok position ↔
      ∀ axis, voxelCoordinate? (address.along axis) (scale.along axis) =
        some (position.along axis) := by
  rw [position_eq_ok_iff]
  constructor
  · rintro ⟨other, otherListed, x, y, z⟩
    rw [listed] at otherListed
    cases otherListed
    rintro (_ | _ | _)
    · exact x
    · exact y
    · exact z
  · intro found
    exact ⟨scale, listed, found .x, found .y, found .z⟩

/-- With a scale, the only error is that of the address. -/
theorem position_cases (listed : resolutions[address.zoomStep.toNat]? = some scale) :
    (∃ position, address.position resolutions = .ok position) ∨
      address.position resolutions = .error (.outOfRange address.text) := by
  rw [BucketAddress.position, listed]
  dsimp only
  split
  · exact .inl ⟨_, rfl⟩
  · exact .inr rfl

/-- One axis that leaves 32 bits is enough to report the address. -/
theorem position_of_exceeds (listed : resolutions[address.zoomStep.toNat]? = some scale)
    (exceeds : address.Exceeds scale) :
    address.position resolutions = .error (.outOfRange address.text) := by
  obtain ⟨axis, tooLarge⟩ := exceeds
  rcases position_cases listed with ⟨position, located⟩ | outOfRange
  · have found := (position_eq_ok_iff_along listed).mp located axis
    rw [voxelCoordinate?_eq_none_iff.mpr tooLarge] at found
    cases found
  · exact outOfRange

/-- Within bounds the position is the exact product on each axis. -/
theorem exists_position (listed : resolutions[address.zoomStep.toNat]? = some scale)
    (within : ¬ address.Exceeds scale) :
    ∃ position, address.position resolutions = .ok position ∧
      ∀ axis, (position.along axis).toNat =
        32 * (address.along axis).toNat * (scale.along axis).toNat := by
  have voxels : ∀ axis, ∃ voxel,
      voxelCoordinate? (address.along axis) (scale.along axis) = some voxel := by
    intro axis
    apply Option.ne_none_iff_exists'.mp
    intro none
    exact within ⟨axis, voxelCoordinate?_eq_none_iff.mp none⟩
  obtain ⟨x, foundX⟩ := voxels .x
  obtain ⟨y, foundY⟩ := voxels .y
  obtain ⟨z, foundZ⟩ := voxels .z
  have found : ∀ axis, voxelCoordinate? (address.along axis) (scale.along axis) =
      some ((⟨x, y, z⟩ : Vec3).along axis) := by
    rintro (_ | _ | _)
    · exact foundX
    · exact foundY
    · exact foundZ
  refine ⟨⟨x, y, z⟩, (position_eq_ok_iff_along listed).mpr found, fun axis => ?_⟩
  rw [← (voxelCoordinate?_eq_some_iff.mp (found axis)).2, Nat.mul_comm 32]

/-- Zoom steps are unknown exactly from the number of resolutions on. -/
theorem position_eq_unknownResolution_iff {zoomStep : UInt32} :
    address.position resolutions = .error (.unknownResolution zoomStep) ↔
      zoomStep = address.zoomStep ∧ resolutions.length ≤ address.zoomStep.toNat := by
  rw [← List.getElem?_eq_none_iff]
  cases listed : resolutions[address.zoomStep.toNat]? with
  | none =>
    rw [position_of_unlisted listed]
    simp [eq_comm]
  | some scale =>
    rcases position_cases listed with ⟨position, located⟩ | outOfRange
    · simp [located]
    · simp [outOfRange]

/-- Addresses are out of range exactly if their resolution is known and some axis leaves 32 bits. -/
theorem position_eq_outOfRange_iff {offender : String} :
    address.position resolutions = .error (.outOfRange offender) ↔
      offender = address.text ∧
        ∃ scale, resolutions[address.zoomStep.toNat]? = some scale ∧ address.Exceeds scale := by
  cases listed : resolutions[address.zoomStep.toNat]? with
  | none => simp [position_of_unlisted listed]
  | some scale =>
    by_cases exceeds : address.Exceeds scale
    · simp [position_of_exceeds listed exceeds, exceeds, eq_comm]
    · obtain ⟨position, located, -⟩ := exists_position listed exceeds
      simp [located, exceeds]

/-- The position found is the exact product, and it is found unless some axis leaves 32 bits. -/
theorem position_eq_ok_iff_exact :
    address.position resolutions = .ok position ↔
      ∃ scale, resolutions[address.zoomStep.toNat]? = some scale ∧ ¬ address.Exceeds scale ∧
        ∀ axis, (position.along axis).toNat =
          32 * (address.along axis).toNat * (scale.along axis).toNat := by
  cases listed : resolutions[address.zoomStep.toNat]? with
  | none => simp [position_of_unlisted listed]
  | some scale =>
    by_cases exceeds : address.Exceeds scale
    · simp [position_of_exceeds listed exceeds, exceeds]
    · obtain ⟨found, located, products⟩ := exists_position listed exceeds
      rw [located, Except.ok.injEq]
      constructor
      · rintro rfl
        exact ⟨scale, rfl, exceeds, products⟩
      · rintro ⟨other, same, -, otherProducts⟩
        cases same
        exact Vec3.eq_of_along fun axis => by
          rw [← UInt32.toNat_inj, products axis, otherProducts axis]

end

/-! ## Failures -/

/-- What an address comes to under a table of scales. -/
structure LocatedExactly (resolutions : Resolutions) (address : BucketAddress) : Prop where
  /-- The zoom step is no index of the table, whatever the coordinates. -/
  unknownResolution : ∀ zoomStep,
    address.position resolutions = .error (.unknownResolution zoomStep) ↔
      zoomStep = address.zoomStep ∧ resolutions.length ≤ address.zoomStep.toNat
  /-- Else a product is too large, and the error carries the text of the address. -/
  outOfRange : ∀ offender, address.position resolutions = .error (.outOfRange offender) ↔
    offender = address.text ∧
      ∃ scale, resolutions[address.zoomStep.toNat]? = some scale ∧ address.Exceeds scale
  /-- Else the position is the exact product on each axis. -/
  located : ∀ position, address.position resolutions = .ok position ↔
    ∃ scale, resolutions[address.zoomStep.toNat]? = some scale ∧ ¬ address.Exceeds scale ∧
      ∀ axis, (position.along axis).toNat =
        32 * (address.along axis).toNat * (scale.along axis).toNat
  /-- At scales from one on, it is the last product that counts. -/
  exceeds : ∀ scale : Vec3, (∀ axis, 1 ≤ (scale.along axis).toNat) →
    (address.Exceeds scale ↔
      ∃ axis, UInt32.size ≤ 32 * (address.along axis).toNat * (scale.along axis).toNat)

/-- Fetching and pushing fail alike on an address. -/
structure FailsAlike (resolutions : Resolutions) (address : BucketAddress)
    (error : AddressError) : Prop where
  descriptor : address.descriptor resolutions = .error error
  request : ∀ fourBit version, address.request resolutions fourBit version = .error error
  fetch : ∀ (σ : Type) (fetcher : Fetcher σ) (layer : Layer) (later : List BucketAddress)
    (before : σ), fetcher.dataset.resolutions = resolutions →
    fetcher.fetch layer (address :: later) before = (.error (.failed (.ofAddress error)), before)
  push : ∀ (σ : Type) (ports : PushPorts σ) (payload : Payload) (later : List Edit) (before : σ),
    pushBatch resolutions ports ((address, payload) :: later) before =
      (.error (.ofAddress error), before)
  /-- Both failures have the words of the address error. -/
  message : (FetchError.ofAddress error).message = error.message ∧
    (PushError.ofAddress error).message = error.message
  /-- A zoom step that is not in the table is told by both failures. -/
  unknownResolution : ∀ zoomStep, error = .unknownResolution zoomStep →
    zoomStep = address.zoomStep ∧
      FetchError.ofAddress error = .unknownResolution address.zoomStep ∧
      PushError.ofAddress error = .unknownResolution address.zoomStep
  /-- An address that is out of range is told by its text, in both failures. -/
  outOfRange : ∀ offender, error = .outOfRange offender →
    offender = s!"[{address.x}, {address.y}, {address.z}, {address.zoomStep}]" ∧
      FetchError.ofAddress error = .addressOutOfRange offender ∧
      PushError.ofAddress error = .addressOutOfRange offender ∧
      error.message = s!"Bucket {offender} lies outside the addressable voxel range"

theorem locatedExactly (resolutions : Resolutions) (address : BucketAddress) :
    address.LocatedExactly resolutions where
  unknownResolution _ := position_eq_unknownResolution_iff
  outOfRange _ := position_eq_outOfRange_iff
  located _ := position_eq_ok_iff_exact
  exceeds _ positive := exceeds_iff_of_positive positive

/-- Whatever is asked for an address without a position fails with the error of the position. -/
theorem failsAlike {resolutions : Resolutions} {address : BucketAddress} {error : AddressError}
    (fails : address.position resolutions = .error error) :
    address.FailsAlike resolutions error where
  descriptor := descriptor_eq_error_iff.mpr fails
  request _ _ := request_eq_error_iff.mpr fails
  fetch := by
    rintro σ fetcher layer later before rfl
    have untranslated : batchRequests fetcher.dataset layer ([] ++ address :: later) =
        .error (.ofAddress error) :=
      batchRequests_of_first_error layer (List.forall_mem_nil _) fails
    exact Fetcher.fetch_of_untranslated before untranslated
  push := by
    intro σ ports payload later before
    have ended : pushBatch resolutions ports ([] ++ (address, payload) :: later) before =
        (.error (.ofAddress error), before) :=
      pushBatch_of_address_error (List.forall_mem_nil _) fails before
    exact ended
  message := ⟨FetchError.message_ofAddress error, PushError.message_ofAddress error⟩
  unknownResolution := by
    rintro zoomStep rfl
    obtain ⟨rfl, -⟩ := position_eq_unknownResolution_iff.mp fails
    exact ⟨rfl, rfl, rfl⟩
  outOfRange := by
    rintro offender rfl
    obtain ⟨rfl, -⟩ := position_eq_outOfRange_iff.mp fails
    exact ⟨rfl, rfl, rfl, rfl⟩

end BucketAddress

/-! ## Reading addresses back -/

/-- An address can be read off its position: each coordinate is the position divided by edge and
scale. -/
def BucketAddress.ReadsBack (resolutions : Resolutions) (address : BucketAddress)
    (position : Vec3) : Prop :=
  ∃ scale, resolutions[address.zoomStep.toNat]? = some scale ∧
    ∀ axis, (address.along axis).toNat =
      (position.along axis).toNat / (32 * (scale.along axis).toNat)

/-- What is sent of a bucket belongs to one address. -/
structure Resolutions.Invertible (resolutions : Resolutions) : Prop where
  descriptor : ∀ (first second : BucketAddress) bucket,
    first.descriptor resolutions = .ok bucket → second.descriptor resolutions = .ok bucket →
    first = second
  request : ∀ (first second : BucketAddress) firstForm secondForm firstVersion secondVersion asked,
    first.request resolutions firstForm firstVersion = .ok asked →
    second.request resolutions secondForm secondVersion = .ok asked → first = second
  descriptor_readsBack : ∀ (address : BucketAddress) bucket,
    address.descriptor resolutions = .ok bucket → address.ReadsBack resolutions bucket.position
  request_readsBack : ∀ (address : BucketAddress) fourBit version asked,
    address.request resolutions fourBit version = .ok asked →
    address.ReadsBack resolutions asked.bucket.position

namespace Resolutions

variable {resolutions : Resolutions}

theorem Positive.along (positive : resolutions.Positive) {scale : Vec3}
    (member : scale ∈ resolutions) (axis : Axis) : 0 < (scale.along axis).toNat := by
  obtain ⟨x, y, z⟩ := positive scale member
  cases axis with
  | x => exact UInt32.lt_iff_toNat_lt.mp x
  | y => exact UInt32.lt_iff_toNat_lt.mp y
  | z => exact UInt32.lt_iff_toNat_lt.mp z

/-- Dividing by edge and scale undoes the product. -/
theorem Positive.readsBack (positive : resolutions.Positive) {address : BucketAddress}
    {position : Vec3} (located : address.position resolutions = .ok position) :
    address.ReadsBack resolutions position := by
  obtain ⟨scale, listed, -, products⟩ := BucketAddress.position_eq_ok_iff_exact.mp located
  refine ⟨scale, listed, fun axis => ?_⟩
  have nonzero := positive.along (List.mem_of_getElem? listed) axis
  rw [products axis, Nat.mul_right_comm, Nat.mul_div_cancel_left _ (by omega)]

theorem Positive.invertible (positive : resolutions.Positive) : resolutions.Invertible where
  descriptor first second bucket firstSent secondSent := by
    obtain ⟨position, firstAt, rfl⟩ := descriptor_eq_ok_iff.mp firstSent
    obtain ⟨other, secondAt, same⟩ := descriptor_eq_ok_iff.mp secondSent
    obtain ⟨rfl, zoomStep, -⟩ := BucketDescriptor.mk.inj same
    exact BucketAddress.position_inj positive firstAt secondAt zoomStep
  request first second _ _ _ _ asked firstAsked secondAsked := by
    obtain ⟨position, firstAt, rfl⟩ := request_eq_ok_iff.mp firstAsked
    obtain ⟨other, secondAt, same⟩ := request_eq_ok_iff.mp secondAsked
    obtain ⟨bucket, -, -⟩ := BucketRequest.mk.inj same
    obtain ⟨rfl, zoomStep, -⟩ := BucketDescriptor.mk.inj bucket
    exact BucketAddress.position_inj positive firstAt secondAt zoomStep
  descriptor_readsBack address bucket sent := by
    obtain ⟨position, located, rfl⟩ := descriptor_eq_ok_iff.mp sent
    exact positive.readsBack located
  request_readsBack address _ _ asked sent := by
    obtain ⟨position, located, rfl⟩ := request_eq_ok_iff.mp sent
    exact positive.readsBack located

/-- Positions are exact, the failures of an address are those of fetching and pushing, and positive
scales lose nothing. -/
theorem positions_exact (resolutions : Resolutions) :
    (∀ address : BucketAddress, address.LocatedExactly resolutions) ∧
    (∀ (address : BucketAddress) error, address.position resolutions = .error error →
      address.FailsAlike resolutions error) ∧
    (resolutions.Positive → resolutions.Invertible) := by
  refine ⟨?located, ?failures, ?inverse⟩
  case located => exact BucketAddress.locatedExactly resolutions
  case failures =>
    intro address error fails
    exact BucketAddress.failsAlike fails
  case inverse =>
    intro positive
    exact positive.invertible

/-- Three zoom steps, the third at different scales on the axes. -/
def halvedTwice : Resolutions := [⟨1, 1, 1⟩, ⟨2, 2, 1⟩, ⟨4, 4, 2⟩]

/-- The first coordinate whose voxels are no 32-bit number is out of range for fetches and pushes.
A position inside is read back axis by axis. -/
theorem positions_exact_halvedTwice :
    (⟨0, 134217728, 0, 0⟩ : BucketAddress).position halvedTwice =
        .error (.outOfRange "[0, 134217728, 0, 0]") ∧
      (⟨0, 134217728, 0, 0⟩ : BucketAddress).FailsAlike halvedTwice
        (.outOfRange "[0, 134217728, 0, 0]") ∧
      halvedTwice.Positive ∧
      (⟨1, 2, 3, 2⟩ : BucketAddress).descriptor halvedTwice = .ok ⟨⟨128, 256, 192⟩, 2, 32⟩ ∧
      (⟨1, 2, 3, 2⟩ : BucketAddress).ReadsBack halvedTwice ⟨128, 256, 192⟩ := by
  have fails : (⟨0, 134217728, 0, 0⟩ : BucketAddress).position halvedTwice =
      .error (.outOfRange "[0, 134217728, 0, 0]") := by decide
  have positive : halvedTwice.Positive := by decide
  have sent : (⟨1, 2, 3, 2⟩ : BucketAddress).descriptor halvedTwice =
      .ok ⟨⟨128, 256, 192⟩, 2, 32⟩ := by decide
  obtain ⟨-, failures, inverse⟩ := positions_exact halvedTwice
  exact ⟨fails, failures _ _ fails, positive, sent,
    (inverse positive).descriptor_readsBack _ _ sent⟩

end Resolutions

end VoxelStream
