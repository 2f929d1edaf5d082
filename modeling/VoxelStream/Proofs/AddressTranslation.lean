import VoxelStream.Address

/-!
# Positions of addresses

A coordinate of a position is the exact product of bucket edge, grid coordinate and scale, and there
is none if a product is no 32-bit number (`voxelCoordinate?_eq_some_iff`).  So a position tells the
address within its zoom step, provided that the scales are positive (`position_inj`).  At scale zero
all addresses would share the coordinate zero.
-/

namespace VoxelStream

/-! ## Coordinates -/

/-- A product of 32-bit numbers exists exactly if it is one itself. -/
theorem mul32?_eq_some_iff {a b product : UInt32} :
    mul32? a b = some product ↔ a.toNat * b.toNat = product.toNat := by
  rw [mul32?]
  constructor
  · intro result
    split at result
    next fits =>
      cases result
      rw [UInt32.toNat_mul, Nat.mod_eq_of_lt fits]
    next => cases result
  · intro exact_product
    have fits : a.toNat * b.toNat < UInt32.size := exact_product ▸ product.toNat_lt
    rw [if_pos fits, Option.some.injEq, ← UInt32.toNat_inj, UInt32.toNat_mul,
      Nat.mod_eq_of_lt fits, exact_product]

/-- Both products are exact. -/
theorem voxelCoordinate?_eq_some_iff {coordinate scale voxel : UInt32} :
    voxelCoordinate? coordinate scale = some voxel ↔
      coordinate.toNat * 32 < UInt32.size ∧ coordinate.toNat * 32 * scale.toNat = voxel.toNat := by
  rw [voxelCoordinate?, Option.bind_eq_some_iff]
  constructor
  · rintro ⟨inner, first, second⟩
    rw [mul32?_eq_some_iff] at first second
    replace first : coordinate.toNat * 32 = inner.toNat := first
    rw [first]
    exact ⟨inner.toNat_lt, second⟩
  · rintro ⟨fits, product⟩
    have inner : (UInt32.ofNat (coordinate.toNat * 32)).toNat = coordinate.toNat * 32 :=
      UInt32.toNat_ofNat_of_lt' fits
    exact ⟨.ofNat (coordinate.toNat * 32), mul32?_eq_some_iff.mpr inner.symm,
      mul32?_eq_some_iff.mpr (by rw [inner, product])⟩

/-- At a positive scale no two coordinates meet. -/
theorem voxelCoordinate?_inj {first second scale voxel : UInt32} (positive : 0 < scale)
    (firstAt : voxelCoordinate? first scale = some voxel)
    (secondAt : voxelCoordinate? second scale = some voxel) : first = second := by
  rw [voxelCoordinate?_eq_some_iff] at firstAt secondAt
  have scaled := Nat.eq_of_mul_eq_mul_right (UInt32.lt_iff_toNat_lt.mp positive)
    (firstAt.2.trans secondAt.2.symm)
  rw [← UInt32.toNat_inj]
  omega

/-! ## Positions -/

/-- No scale is zero on any axis. -/
def Resolutions.Positive (resolutions : Resolutions) : Prop :=
  ∀ scale ∈ resolutions, 0 < scale.x ∧ 0 < scale.y ∧ 0 < scale.z

instance (resolutions : Resolutions) : Decidable resolutions.Positive :=
  inferInstanceAs (Decidable (∀ scale ∈ resolutions, 0 < scale.x ∧ 0 < scale.y ∧ 0 < scale.z))

namespace BucketAddress

variable {resolutions : Resolutions} {address first second : BucketAddress} {position : Vec3}

theorem position_eq_ok_iff :
    address.position resolutions = .ok position ↔
      ∃ scale, resolutions[address.zoomStep.toNat]? = some scale ∧
        voxelCoordinate? address.x scale.x = some position.x ∧
        voxelCoordinate? address.y scale.y = some position.y ∧
        voxelCoordinate? address.z scale.z = some position.z := by
  rw [BucketAddress.position]
  cases resolutions[address.zoomStep.toNat]? with
  | none => simp
  | some scale =>
    obtain ⟨px, py, pz⟩ := position
    simp only [Option.some.injEq, exists_eq_left']
    cases voxelCoordinate? address.x scale.x with
    | none => simp
    | some x =>
      cases voxelCoordinate? address.y scale.y with
      | none => simp
      | some y =>
        cases voxelCoordinate? address.z scale.z with
        | none => simp
        | some z => simp

/-- In one zoom step a position belongs to one address. -/
theorem position_inj (positive : resolutions.Positive)
    (firstAt : first.position resolutions = .ok position)
    (secondAt : second.position resolutions = .ok position)
    (zoomStep : first.zoomStep = second.zoomStep) : first = second := by
  obtain ⟨scale, listed, firstX, firstY, firstZ⟩ := position_eq_ok_iff.mp firstAt
  obtain ⟨other, otherListed, secondX, secondY, secondZ⟩ := position_eq_ok_iff.mp secondAt
  rw [← zoomStep, listed] at otherListed
  cases otherListed
  obtain ⟨positiveX, positiveY, positiveZ⟩ := positive scale (List.mem_of_getElem? listed)
  cases first
  cases second
  rw [mk.injEq]
  exact ⟨voxelCoordinate?_inj positiveX firstX secondX,
    voxelCoordinate?_inj positiveY firstY secondY,
    voxelCoordinate?_inj positiveZ firstZ secondZ, zoomStep⟩

end BucketAddress

/-! ## Descriptors -/

section

variable {resolutions : Resolutions} {address : BucketAddress} {bucket : BucketDescriptor}

/-- A bucket has a descriptor if and only if it has a position. -/
theorem descriptor_eq_ok_iff :
    address.descriptor resolutions = .ok bucket ↔
      ∃ position, address.position resolutions = .ok position ∧
        bucket = ⟨position, address.zoomStep, 32⟩ := by
  rw [BucketAddress.descriptor]
  cases address.position resolutions with
  | error e => simp
  | ok position => simp [bucketEdge, eq_comm]

/-- A descriptor fails as its position does. -/
theorem descriptor_eq_error_iff {error : AddressError} :
    address.descriptor resolutions = .error error ↔
      address.position resolutions = .error error := by
  rw [BucketAddress.descriptor]
  cases address.position resolutions <;> simp

theorem request_eq_ok_iff {fourBit : Bool} {version : Option UInt64} {request : BucketRequest} :
    address.request resolutions fourBit version = .ok request ↔
      ∃ position, address.position resolutions = .ok position ∧
        request = ⟨⟨position, address.zoomStep, 32⟩, fourBit, version⟩ := by
  rw [BucketAddress.request, BucketAddress.descriptor]
  cases address.position resolutions with
  | error e => simp
  | ok position => simp [bucketEdge, eq_comm]

/-- A request fails as its position does. -/
theorem request_eq_error_iff {fourBit : Bool} {version : Option UInt64} {error : AddressError} :
    address.request resolutions fourBit version = .error error ↔
      address.position resolutions = .error error := by
  rw [BucketAddress.request, BucketAddress.descriptor]
  cases address.position resolutions <;> simp

end

end VoxelStream
