import VoxelStream.Proofs.JsonTexts
import VoxelStream.Proofs.MemberOrder
import VoxelStream.Wire

/-!
# Wire forms lose nothing

Descriptors, requests and updates are read back from the texts they are written as, and from the
same texts with the members of any object in another order (`wire_lossless`).  Every number and
every string is covered, not only base64.

Three facts carry this.  A text is read as the JSON value it was written from.  A reader takes no
notice of the order of members.  And each form reads back what it writes, since every key stands in
it once (`field?_named`) and what an open record holds is well formed.
-/

namespace VoxelStream

open Json (Reordered OrderFree ReorderedItems ReorderedMembers)

/-! ## The order of members -/

/-- Positions are arrays, so nothing in them can be moved. -/
theorem Vec3.orderFree_ofJson? : OrderFree ofJson? := by
  refine .intro ?_ fun _ _ => rfl
  intro items others each
  match each with
  | .nil => rfl
  | .cons _ .nil => rfl
  | .cons _ (.cons _ .nil) => rfl
  | .cons x (.cons y (.cons z .nil)) =>
    rw [ofJson?, ofJson?, Json.orderFree_uint32? x, Json.orderFree_uint32? y,
      Json.orderFree_uint32? z]
  | .cons _ (.cons _ (.cons _ (.cons _ _))) => rfl

namespace BucketDescriptor

/-- The members of a bucket are read by their keys, wherever they stand. -/
theorem ofMembers?_congr {members moved others : List (Option String × Json)}
    (order : members.Perm moved) (each : ReorderedMembers moved others) :
    ofMembers? members = ofMembers? others := by
  rw [ofMembers?, ofMembers?, Json.field?_congr Vec3.orderFree_ofJson? _ order each,
    Json.field?_congr Json.orderFree_uint32? _ order each,
    Json.field?_congr Json.orderFree_uint32? _ order each]

theorem orderFree_ofJson? : OrderFree ofJson? := by
  apply OrderFree.intro
  case arrays =>
    intro items others each
    match each with
    | .nil => rfl
    | .cons _ .nil => rfl
    | .cons _ (.cons _ .nil) => rfl
    | .cons position (.cons zoomStep (.cons cubeSize .nil)) =>
      rw [ofJson?, ofJson?, Vec3.orderFree_ofJson? position, Json.orderFree_uint32? zoomStep,
        Json.orderFree_uint32? cubeSize]
    | .cons _ (.cons _ (.cons _ (.cons _ _))) => rfl
  case objects =>
    intro members moved others order each
    rw [ofJson?, ofJson?, Json.keysValid_congr order each, ofMembers?_congr order each]

end BucketDescriptor

/-- The members of the bucket are read from among those of the request. -/
theorem BucketRequest.orderFree_ofJson? : OrderFree ofJson? := by
  refine .intro (fun _ => rfl) ?_
  intro members moved others order each
  rw [ofJson?, ofJson?, Json.wellFormedMembers_congr 1 order each,
    BucketDescriptor.ofMembers?_congr order each,
    Json.field?_congr Json.orderFree_bool? _ order each,
    Json.fieldD?_congr Json.orderFree_uint64?.optional? _ none order each]

namespace BucketUpdate

/-- The members of a value are read by their keys. -/
theorem orderFree_ofValueJson? : OrderFree ofValueJson? := by
  refine .intro (fun _ => rfl) ?_
  intro members moved others order each
  rw [ofValueJson?, ofValueJson?, Json.wellFormedMembers_congr 2 order each,
    BucketDescriptor.ofMembers?_congr order each,
    Json.field?_congr Json.orderFree_text? _ order each]

theorem orderFree_readName? : OrderFree readName? := Json.orderFree_variant?

theorem orderFree_ofJson? : OrderFree ofJson? := by
  apply OrderFree.intro
  case arrays =>
    intro items others each
    match each with
    | .nil => rfl
    | .cons _ .nil => rfl
    | .cons name (.cons value .nil) =>
      rw [ofJson?, ofJson?, orderFree_readName? name, orderFree_ofValueJson? value]
    | .cons _ (.cons _ (.cons _ _)) => rfl
  case objects =>
    intro members moved others order each
    rw [ofJson?, ofJson?, Json.keysValid_congr order each,
      Json.field?_congr orderFree_readName? _ order each,
      Json.field?_congr orderFree_ofValueJson? _ order each]

end BucketUpdate

/-! ## Reading back -/

namespace Json

theorem below?_nat {n bound : Nat} (small : n < bound) : below? bound (.nat n) = some n := by
  rw [nat, below?, JsonNumber.natural?, Option.filter_some, if_pos (decide_eq_true small)]

theorem uint32?_nat (n : UInt32) : uint32? (.nat n.toNat) = some n := by
  rw [uint32?, below?_nat n.toNat_lt, Option.map_some, UInt32.ofNat_toNat]

theorem uint64?_nat (n : UInt64) : uint64? (.nat n.toNat) = some n := by
  rw [uint64?, below?_nat n.toNat_lt, Option.map_some, UInt64.ofNat_toNat]

theorem optional?_uint64?_nat (n : UInt64) : optional? uint64? (.nat n.toNat) = some (some n) :=
  congrArg (Option.map some) (uint64?_nat n)

/-- Numbers of 64 bits are far below the range of doubles. -/
theorem wellFormed_nat {n : Nat} (small : n < UInt64.size) (depth : Nat) :
    wellFormed depth (.nat n) = true := by
  -- The bound has a thousand bits; only the kernel compares it at once.
  have inRange : ¬Decimal.doubleBound ≤ n :=
    Nat.not_le.mpr (Nat.lt_of_lt_of_le small (by decide +kernel))
  have keeps : Decimal.overflowsDouble n 0 = false := by
    simp [Decimal.overflowsDouble, inRange]
  rw [nat, wellFormed, JsonNumber.fitsDouble, keeps, Bool.not_false]

/-- Members whose keys denote texts. -/
def named (members : List (String × Json)) : List (Option String × Json) :=
  members.map fun member => (some member.1, member.2)

/-- Objects are written with all their keys. -/
theorem ofMembers_eq (members : List (String × Json)) :
    ofMembers members = .object (named members) :=
  rfl

theorem some_mem_keys_named_iff {key : String} {members : List (String × Json)} :
    some key ∈ (named members).map Prod.fst ↔ key ∈ members.map Prod.fst := by
  simp [named]

/-- Every written key denotes a text. -/
theorem keysValid_named (members : List (String × Json)) : keysValid (named members) = true := by
  simp [keysValid, named]

section

variable {members : List (String × Json)} {key : String} {value : Json}

theorem valuesOf_named_cons_self :
    valuesOf key (named ((key, value) :: members)) = value :: valuesOf key (named members) := by
  simp [valuesOf, named]

theorem valuesOf_named_cons_ne {member : String × Json} (other : member.1 ≠ key) :
    valuesOf key (named (member :: members)) = valuesOf key (named members) := by
  simp [valuesOf, named, other]

/-- Nothing is found under a key that was not written. -/
theorem valuesOf_named_of_notMem (absent : key ∉ members.map Prod.fst) :
    valuesOf key (named members) = [] := by
  induction members with
  | nil => rfl
  | cons member later ih =>
    obtain ⟨other, absentLater⟩ := List.ne_and_not_mem_of_not_mem_cons absent
    rw [valuesOf_named_cons_ne (Ne.symm other), ih absentLater]

/-- A key that stands there once has the one value it stands with. -/
theorem valuesOf_named (distinct : (members.map Prod.fst).Nodup) (found : (key, value) ∈ members) :
    valuesOf key (named members) = [value] := by
  induction members with
  | nil => cases found
  | cons member later ih =>
    obtain ⟨onlyHere, distinctLater⟩ := List.nodup_cons.mp distinct
    obtain rfl | foundLater := List.mem_cons.mp found
    · rw [valuesOf_named_cons_self, valuesOf_named_of_notMem onlyHere]
    · have other : member.1 ≠ key := fun same => onlyHere (same ▸ List.mem_map_of_mem foundLater)
      rw [valuesOf_named_cons_ne other, ih distinctLater foundLater]

/-- A field is read from the only member with its key. -/
theorem field?_named {read : Json → Option α} (distinct : (members.map Prod.fst).Nodup)
    (found : (key, value) ∈ members) : field? key read (named members) = read value := by
  rw [field?, valuesOf_named distinct found]

/-- A field with a default is read likewise if its key was written. -/
theorem fieldD?_named {read : Json → Option α} (absent : α)
    (distinct : (members.map Prod.fst).Nodup) (found : (key, value) ∈ members) :
    fieldD? key read absent (named members) = read value := by
  rw [fieldD?, valuesOf_named distinct found]

/-- Without the key, the default stands. -/
theorem fieldD?_named_of_notMem {read : Json → Option α} (absent : α)
    (missing : key ∉ members.map Prod.fst) :
    fieldD? key read absent (named members) = some absent := by
  rw [fieldD?, valuesOf_named_of_notMem missing]

/-- Written members are well formed if their values are. -/
theorem wellFormedMembers_named (depth : Nat) (members : List (String × Json)) :
    wellFormedMembers depth (named members) =
      members.all fun member => wellFormed depth member.2 := by
  rw [wellFormedMembers_eq_all, named, List.all_map]
  rfl

end

end Json

/-- A written position is read back. -/
theorem Vec3.ofJson?_toJson (v : Vec3) : ofJson? v.toJson = some v := by
  rw [toJson, toList, List.map_cons, List.map_cons, List.map_cons, List.map_nil, ofJson?,
    Json.uint32?_nat, Json.uint32?_nat, Json.uint32?_nat]
  rfl

namespace BucketDescriptor

theorem keys_members (bucket : BucketDescriptor) :
    bucket.members.map Prod.fst = ["position", "zoomStep", "cubeSize"] := rfl

/-- A descriptor is read back from any members that its own are among, once each. -/
theorem ofMembers?_named {bucket : BucketDescriptor} {members : List (String × Json)}
    (distinct : (members.map Prod.fst).Nodup) (among : bucket.members ⊆ members) :
    ofMembers? (Json.named members) = some bucket := by
  have position : ("position", bucket.position.toJson) ∈ members := among (.head _)
  have zoomStep : ("zoomStep", .nat bucket.zoomStep.toNat) ∈ members := among (.tail _ (.head _))
  have cubeSize : ("cubeSize", .nat bucket.cubeSize.toNat) ∈ members :=
    among (.tail _ (.tail _ (.head _)))
  rw [ofMembers?, Json.field?_named distinct position, Json.field?_named distinct zoomStep,
    Json.field?_named distinct cubeSize, Vec3.ofJson?_toJson, Json.uint32?_nat, Json.uint32?_nat]
  rfl

theorem ofJson?_toJson (bucket : BucketDescriptor) : ofJson? bucket.toJson = some bucket := by
  have distinct : (bucket.members.map Prod.fst).Nodup := by
    rw [keys_members]
    decide
  rw [toJson, Json.ofMembers_eq, ofJson?, if_pos (Json.keysValid_named _),
    ofMembers?_named distinct (List.Subset.refl _)]

/-- The values of a descriptor are well formed unless they are nested too deep. -/
theorem wellFormed_members (bucket : BucketDescriptor) {depth : Nat}
    (shallow : depth < Json.nestingLimit) :
    bucket.members.all (fun member => Json.wellFormed depth member.2) = true := by
  have numbers (n : UInt32) (depth : Nat) : Json.wellFormed depth (.nat n.toNat) = true :=
    Json.wellFormed_nat (Nat.lt_trans n.toNat_lt (by decide)) depth
  simp [members, Vec3.toJson, Vec3.toList, Json.wellFormed, Json.wellFormedItems, numbers, shallow]

end BucketDescriptor

namespace BucketRequest

/-- The members of a request in the order they are written in. -/
def members (request : BucketRequest) : List (String × Json) :=
  request.bucket.members ++ ("fourBit", .bool request.fourBit) :: versionMembers request.version

/-- The members of the bucket are written among those of the request. -/
theorem toJson_eq (request : BucketRequest) :
    request.toJson = .object (Json.named request.members) :=
  rfl

/-- No key of a request is written twice. -/
theorem distinct_keys (request : BucketRequest) : (request.members.map Prod.fst).Nodup := by
  rw [members, List.map_append, request.bucket.keys_members]
  cases request.version with
  | none =>
    show ["position", "zoomStep", "cubeSize", "fourBit"].Nodup
    decide
  | some version =>
    show ["position", "zoomStep", "cubeSize", "fourBit", "version"].Nodup
    decide

/-- A request has a key for its version exactly if it has a version. -/
theorem version_mem_keys_iff (request : BucketRequest) :
    "version" ∈ request.members.map Prod.fst ↔ request.version.isSome := by
  rw [members, List.map_append, request.bucket.keys_members]
  cases request.version <;> simp [versionMembers]

/-- The version is read back, whether its key was written or not. -/
theorem fieldD?_version (request : BucketRequest) :
    Json.fieldD? "version" (Json.optional? Json.uint64?) none (Json.named request.members) =
      some request.version := by
  have missing := mt request.version_mem_keys_iff.mp
  cases versioned : request.version with
  | none =>
    rw [versioned] at missing
    exact Json.fieldD?_named_of_notMem none (missing nofun)
  | some version =>
    have found : ("version", .nat version.toNat) ∈ request.members := by
      simp [members, versioned, versionMembers]
    rw [Json.fieldD?_named none request.distinct_keys found, Json.optional?_uint64?_nat]

theorem ofJson?_toJson (request : BucketRequest) : ofJson? request.toJson = some request := by
  have wellFormed : Json.wellFormedMembers 1 (Json.named request.members) = true := by
    rw [Json.wellFormedMembers_named, members, List.all_append,
      request.bucket.wellFormed_members (by decide)]
    cases request.version with
    | none => rfl
    | some version =>
      simp [versionMembers, Json.wellFormed, Json.wellFormed_nat version.toNat_lt]
  have fourBit : ("fourBit", .bool request.fourBit) ∈ request.members := by simp [members]
  -- The members of the bucket are read from among all of them, as nothing marks where they end.
  rw [toJson_eq, ofJson?, wellFormed,
    BucketDescriptor.ofMembers?_named request.distinct_keys (List.subset_append_left _ _),
    Json.field?_named request.distinct_keys fourBit, fieldD?_version]
  rfl

end BucketRequest

namespace BucketUpdate

/-- The members of an update without its envelope, in the order they are written in. -/
def valueMembers (update : BucketUpdate) : List (String × Json) :=
  update.bucket.members ++ [("base64Data", .text update.base64Data)]

/-- The members of the bucket are written among those of the value. -/
theorem valueJson_eq (update : BucketUpdate) :
    update.valueJson = .object (Json.named update.valueMembers) :=
  rfl

theorem distinct_keys (update : BucketUpdate) : (update.valueMembers.map Prod.fst).Nodup := by
  rw [valueMembers, List.map_append, update.bucket.keys_members]
  show ["position", "zoomStep", "cubeSize", "base64Data"].Nodup
  decide

/-- The written value of an update is read back. -/
theorem ofValueJson?_valueJson (update : BucketUpdate) :
    ofValueJson? update.valueJson = some update := by
  have wellFormed : Json.wellFormedMembers 2 (Json.named update.valueMembers) = true := by
    rw [Json.wellFormedMembers_named, valueMembers, List.all_append,
      update.bucket.wellFormed_members (by decide)]
    rfl
  have base64Data : ("base64Data", .text update.base64Data) ∈ update.valueMembers := by
    simp [valueMembers]
  rw [valueJson_eq, ofValueJson?, wellFormed,
    BucketDescriptor.ofMembers?_named update.distinct_keys (List.subset_append_left _ _),
    Json.field?_named update.distinct_keys base64Data]
  rfl

theorem ofJson?_toJson (update : BucketUpdate) : ofJson? update.toJson = some update := by
  let envelope : List (String × Json) :=
    [("name", .text envelopeName), ("value", update.valueJson)]
  have distinct : (envelope.map Prod.fst).Nodup := by
    show ["name", "value"].Nodup
    decide
  rw [toJson, Json.ofMembers_eq, ofJson?, Json.keysValid_named,
    Json.field?_named distinct (.head _), Json.field?_named distinct (.tail _ (.head _)),
    ofValueJson?_valueJson]
  rfl

end BucketUpdate

/-! ## Texts -/

/-- What is written is read back from its text, also with the members of any object in another
order. -/
def Lossless (write : α → Json) (read : Json → Option α) : Prop :=
  ∀ (value : α) (json : Json), Reordered (write value) json →
    (Json.parse? json.render).bind read = some value

namespace Lossless

variable {write : α → Json} {read : Json → Option α}

/-- A reader that ignores order and reads back every written value loses nothing. -/
theorem intro (free : OrderFree read) (back : ∀ value, read (write value) = some value) :
    Lossless write read := by
  intro value json same
  rw [Json.parse?_render, Option.bind_some, ← free same, back]

/-- Two values are never written as the same text. -/
theorem injective (lossless : Lossless write read) :
    Function.Injective fun value => (write value).render := by
  intro first second same
  apply Option.some.inj
  calc
    some first = (Json.parse? (write first).render).bind read := (lossless first _ (.refl _)).symm
    _ = (Json.parse? (write second).render).bind read :=
      congrArg (fun text => (Json.parse? text).bind read) same
    _ = some second := lossless second _ (.refl _)

end Lossless

/-- Descriptors, requests and updates are read back from their texts, also with the members of any
object in another order.  The text of a request has a key for the version exactly if there is a
version.  Two values are never written as the same text. -/
theorem wire_lossless :
    Lossless BucketDescriptor.toJson BucketDescriptor.ofJson? ∧
    Lossless BucketRequest.toJson BucketRequest.ofJson? ∧
    Lossless BucketUpdate.toJson BucketUpdate.ofJson? ∧
    (∀ request : BucketRequest, ∃ members,
      Json.parse? request.toJson.render = some (.object members) ∧
        (some "version" ∈ members.map Prod.fst ↔ request.version.isSome)) ∧
    (Function.Injective fun bucket : BucketDescriptor => bucket.toJson.render) ∧
    (Function.Injective fun request : BucketRequest => request.toJson.render) ∧
    Function.Injective fun update : BucketUpdate => update.toJson.render := by
  have descriptors : Lossless BucketDescriptor.toJson BucketDescriptor.ofJson? :=
    .intro BucketDescriptor.orderFree_ofJson? BucketDescriptor.ofJson?_toJson
  have requests : Lossless BucketRequest.toJson BucketRequest.ofJson? :=
    .intro BucketRequest.orderFree_ofJson? BucketRequest.ofJson?_toJson
  have updates : Lossless BucketUpdate.toJson BucketUpdate.ofJson? :=
    .intro BucketUpdate.orderFree_ofJson? BucketUpdate.ofJson?_toJson
  refine ⟨descriptors, requests, updates, ?_, descriptors.injective, requests.injective,
    updates.injective⟩
  intro request
  refine ⟨Json.named request.members, Json.parse?_render _, ?_⟩
  rw [Json.some_mem_keys_named_iff, request.version_mem_keys_iff]

/-- A request with the largest version, and an update whose payload is no base64 and whose value
stands before its name.  The members of every object are reversed. -/
theorem wire_lossless_reversed :
    (Json.parse? ("\x7b\"version\":18446744073709551615,\"fourBit\":true,\"cubeSize\":32,"
      ++ "\"zoomStep\":1,\"position\":[64,32,0]\x7d")).bind BucketRequest.ofJson? =
        some ⟨⟨⟨64, 32, 0⟩, 1, 32⟩, true, some 18446744073709551615⟩ ∧
    (Json.parse? ("\x7b\"value\":\x7b\"base64Data\":\"\\\"\\u0001\u00e4\\n\",\"cubeSize\":32,"
      ++ "\"zoomStep\":0,\"position\":[0,0,4294967295]\x7d,\"name\":\"updateBucket\"\x7d")).bind
        BucketUpdate.ofJson? = some ⟨⟨⟨0, 0, 4294967295⟩, 0, 32⟩, "\"\x01\u00e4\n"⟩ := by
  constructor
  · let request : BucketRequest := ⟨⟨⟨64, 32, 0⟩, 1, 32⟩, true, some 18446744073709551615⟩
    let reversed : Json := .object (Json.named request.members).reverse
    have text : reversed.render =
        "\x7b\"version\":18446744073709551615,\"fourBit\":true,\"cubeSize\":32,"
          ++ "\"zoomStep\":1,\"position\":[64,32,0]\x7d" := by decide +kernel
    rw [← text]
    exact wire_lossless.2.1 request reversed (.of_perm (List.reverse_perm _).symm)
  · let update : BucketUpdate := ⟨⟨⟨0, 0, 4294967295⟩, 0, 32⟩, "\"\x01\u00e4\n"⟩
    let value : Json := .object (Json.named update.valueMembers).reverse
    let name : Json := .text BucketUpdate.envelopeName
    let reversed : Json := .object [(some "value", value), (some "name", name)]
    have text : reversed.render =
        "\x7b\"value\":\x7b\"base64Data\":\"\\\"\\u0001\u00e4\\n\",\"cubeSize\":32,"
          ++ "\"zoomStep\":0,\"position\":[0,0,4294967295]\x7d,\"name\":\"updateBucket\"\x7d" := by
      decide +kernel
    have inside : Reordered update.valueJson value := .of_perm (List.reverse_perm _).symm
    have around : Reordered update.toJson reversed :=
      .object (.swap _ _ _) (.cons inside (.cons .string .nil))
    rw [← text]
    exact wire_lossless.2.2.1 update reversed around

end VoxelStream
