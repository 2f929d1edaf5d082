import VoxelStream.Json.Decode

/-!
# The order of members

Two JSON values are `Reordered` if one is the other with the members of its objects, at any depth,
in another order.  The order of the items of arrays stays.

A reader is `OrderFree` if it reads such values alike.  The small readers are, and looking up a
field is (`field?_congr`): how often a key is there does not depend on the order, and more than one
value is refused anyway.
-/

namespace VoxelStream

namespace Json

mutual

/-- Values that differ at most in the order of the members of their objects. -/
inductive Reordered : Json → Json → Prop where
  | null : Reordered .null .null
  | bool : Reordered (.bool truth) (.bool truth)
  | number : Reordered (.number value) (.number value)
  | string : Reordered (.string content) (.string content)
  | array (each : ReorderedItems items others) : Reordered (.array items) (.array others)
  /-- The members are moved around, and then each value inside is reordered. -/
  | object {members moved others : List (Option String × Json)} (order : members.Perm moved)
    (each : ReorderedMembers moved others) : Reordered (.object members) (.object others)

/-- Lists of values that are reordered one by one. -/
inductive ReorderedItems : List Json → List Json → Prop where
  | nil : ReorderedItems [] []
  | cons (same : Reordered item other) (later : ReorderedItems items others) :
    ReorderedItems (item :: items) (other :: others)

/-- Lists of members with the same keys whose values are reordered one by one. -/
inductive ReorderedMembers :
    List (Option String × Json) → List (Option String × Json) → Prop where
  | nil : ReorderedMembers [] []
  | cons {key : Option String} (same : Reordered value other)
    (later : ReorderedMembers members others) :
    ReorderedMembers ((key, value) :: members) ((key, other) :: others)

end

mutual

/-- A value is a reordering of itself. -/
theorem Reordered.refl : ∀ value : Json, Reordered value value
  | .null => .null
  | .bool _ => .bool
  | .number _ => .number
  | .string _ => .string
  | .array items => .array (ReorderedItems.refl items)
  | .object members => .object (.refl members) (ReorderedMembers.refl members)

theorem ReorderedItems.refl : ∀ items : List Json, ReorderedItems items items
  | [] => .nil
  | item :: items => .cons (Reordered.refl item) (ReorderedItems.refl items)

theorem ReorderedMembers.refl : ∀ members : List (Option String × Json),
    ReorderedMembers members members
  | [] => .nil
  | (_, value) :: members => .cons (Reordered.refl value) (ReorderedMembers.refl members)

end

/-- Members in another order are a reordering of their object. -/
theorem Reordered.of_perm {members others : List (Option String × Json)}
    (order : members.Perm others) : Reordered (.object members) (.object others) :=
  .object order (ReorderedMembers.refl others)

variable {members moved others : List (Option String × Json)}

/-! ## Lists of members -/

/-- Reordering inside the values leaves the keys. -/
theorem ReorderedMembers.keys_eq : ∀ {members others : List (Option String × Json)},
    ReorderedMembers members others → members.map Prod.fst = others.map Prod.fst
  | _, _, .nil => rfl
  | _, _, .cons _ later => congrArg (_ :: ·) later.keys_eq

/-- The values under a key are reordered one by one. -/
theorem ReorderedMembers.valuesOf (key : String) :
    ∀ {members others : List (Option String × Json)}, ReorderedMembers members others →
      ReorderedItems (valuesOf key members) (valuesOf key others)
  | _, _, .nil => .nil
  | (found, _) :: _, _, .cons same later => by
    have laterValues := later.valuesOf key
    by_cases asked : found = some key
    · simpa [Json.valuesOf, asked] using ReorderedItems.cons same laterValues
    · simpa [Json.valuesOf, asked] using laterValues

/-- A key has no value in members that are reordered, or one that is reordered, or several. -/
theorem valuesOf_cases (key : String) (order : members.Perm moved)
    (each : ReorderedMembers moved others) :
    valuesOf key members = [] ∧ valuesOf key others = [] ∨
    (∃ value other, valuesOf key members = [value] ∧ valuesOf key others = [other] ∧
      Reordered value other) ∨
    (∃ first second more, valuesOf key members = first :: second :: more) ∧
      ∃ first second more, valuesOf key others = first :: second :: more := by
  have order : (valuesOf key members).Perm (valuesOf key moved) := order.filterMap _
  have each := each.valuesOf key
  generalize valuesOf key members = values at order ⊢
  generalize valuesOf key moved = between at order each
  generalize valuesOf key others = found at each ⊢
  -- `between` has as many values as the other two lists, and decides the case.
  cases each with
  | nil => exact .inl ⟨order.eq_nil, rfl⟩
  | cons same later =>
    cases later with
    | nil => exact .inr (.inl ⟨_, _, order.eq_singleton, rfl, same⟩)
    | cons =>
      match values, order.length_eq with
      | first :: second :: more, _ => exact .inr (.inr ⟨⟨_, _, _, rfl⟩, _, _, _, rfl⟩)

/-! ## Readers -/

/-- Whether a reader takes no notice of the order of members. -/
def OrderFree (read : Json → α) : Prop :=
  ∀ ⦃value other : Json⦄, Reordered value other → read value = read other

/-- Scalars are reordered by nothing, so arrays and objects are left to check. -/
theorem OrderFree.intro {read : Json → α}
    (arrays : ∀ {items others}, ReorderedItems items others →
      read (.array items) = read (.array others))
    (objects : ∀ {members moved others}, members.Perm moved → ReorderedMembers moved others →
      read (.object members) = read (.object others)) : OrderFree read
  | _, _, .null => rfl
  | _, _, .bool => rfl
  | _, _, .number => rfl
  | _, _, .string => rfl
  | _, _, .array each => arrays each
  | _, _, .object order each => objects order each

/-- Numbers have no members to move. -/
theorem orderFree_below? (bound : Nat) : OrderFree (below? bound) :=
  .intro (fun _ => rfl) fun _ _ => rfl

theorem orderFree_uint32? : OrderFree uint32? := by
  intro value other same
  rw [uint32?, uint32?, orderFree_below? _ same]

theorem orderFree_uint64? : OrderFree uint64? := by
  intro value other same
  rw [uint64?, uint64?, orderFree_below? _ same]

theorem orderFree_bool? : OrderFree bool? := .intro (fun _ => rfl) fun _ _ => rfl

theorem orderFree_text? : OrderFree text? := .intro (fun _ => rfl) fun _ _ => rfl

/-- An optional value may be read by any reader that ignores order. -/
theorem OrderFree.optional? {read : Json → Option α} (free : OrderFree read) :
    OrderFree (optional? read) := by
  apply OrderFree.intro
  case arrays =>
    intro items others each
    simp only [Json.optional?, free (.array each)]
  case objects =>
    intro members moved others order each
    simp only [Json.optional?, free (.object order each)]

/-! ## Records -/

section

variable {read : Json → Option α}

/-- A field is read alike in members that are reordered. -/
theorem field?_congr (free : OrderFree read) (key : String) (order : members.Perm moved)
    (each : ReorderedMembers moved others) : field? key read members = field? key read others := by
  rw [field?, field?]
  obtain ⟨none, noneThere⟩ | ⟨value, other, one, oneThere, same⟩ |
    ⟨⟨_, _, _, several⟩, _, _, _, severalThere⟩ := valuesOf_cases key order each
  · rw [none, noneThere]
  · rw [one, oneThere]
    exact free same
  · rw [several, severalThere]

/-- A field with a default is read alike in members that are reordered. -/
theorem fieldD?_congr (free : OrderFree read) (key : String) (absent : α)
    (order : members.Perm moved) (each : ReorderedMembers moved others) :
    fieldD? key read absent members = fieldD? key read absent others := by
  rw [fieldD?, fieldD?]
  obtain ⟨none, noneThere⟩ | ⟨value, other, one, oneThere, same⟩ |
    ⟨⟨_, _, _, several⟩, _, _, _, severalThere⟩ := valuesOf_cases key order each
  · rw [none, noneThere]
  · rw [one, oneThere]
    exact free same
  · rw [several, severalThere]

end

/-- A variant is read from its name, which is text. -/
theorem orderFree_variant? {ofName? : String → Option α} : OrderFree (variant? ofName?) := by
  refine .intro (fun _ => rfl) ?_
  intro members moved others order each
  -- Only an object with a single member is a name, and a single member stays where it is.
  cases each with
  | nil => rw [order.eq_nil]
  | @cons _ _ _ _ key same later =>
    cases later with
    | nil =>
      rw [order.eq_singleton]
      cases key <;> cases same <;> rfl
    | cons =>
      match members, order.length_eq with
      | first :: second :: more, _ => simp [variant?]

/-- Whether all keys are text does not depend on the order. -/
theorem keysValid_congr (order : members.Perm moved) (each : ReorderedMembers moved others) :
    keysValid members = keysValid others := by
  have keys (members : List (Option String × Json)) :
      keysValid members = (members.map Prod.fst).all Option.isSome := by
    rw [keysValid, List.all_map]
    rfl
  rw [keys, keys, ← each.keys_eq]
  exact (order.map Prod.fst).all_eq

/-! ## Open records -/

/-- Members are well formed if each one is. -/
theorem wellFormedMembers_eq_all (depth : Nat) (members : List (Option String × Json)) :
    wellFormedMembers depth members =
      members.all fun member => member.1.isSome && wellFormed depth member.2 := by
  induction members with
  | nil => rw [wellFormedMembers, List.all_nil]
  | cons member later ih => rw [wellFormedMembers, List.all_cons, ih]

/-- Whether members are well formed does not depend on their order. -/
theorem wellFormedMembers_perm (depth : Nat) (order : members.Perm moved) :
    wellFormedMembers depth members = wellFormedMembers depth moved := by
  rw [wellFormedMembers_eq_all, wellFormedMembers_eq_all]
  exact order.all_eq

mutual

/-- Whether a value is well formed does not depend on the order of members. -/
theorem Reordered.wellFormed_eq : ∀ {value other : Json}, Reordered value other →
    ∀ depth, wellFormed depth value = wellFormed depth other
  | _, _, .null, _ => rfl
  | _, _, .bool, _ => rfl
  | _, _, .number, _ => rfl
  | _, _, .string, _ => rfl
  | _, _, .array each, depth => by
    rw [wellFormed, wellFormed, each.wellFormedItems_eq]
  | _, _, .object order each, depth => by
    rw [wellFormed, wellFormed, wellFormedMembers_perm _ order, each.wellFormedMembers_eq]

theorem ReorderedItems.wellFormedItems_eq : ∀ {items others : List Json},
    ReorderedItems items others →
    ∀ depth, wellFormedItems depth items = wellFormedItems depth others
  | _, _, .nil, _ => rfl
  | _, _, .cons same later, depth => by
    rw [wellFormedItems, wellFormedItems, same.wellFormed_eq, later.wellFormedItems_eq]

/-- Reordering inside the values keeps members well formed. -/
theorem ReorderedMembers.wellFormedMembers_eq : ∀ {members others : List (Option String × Json)},
    ReorderedMembers members others →
    ∀ depth, wellFormedMembers depth members = wellFormedMembers depth others
  | _, _, .nil, _ => rfl
  | _, _, .cons same later, depth => by
    rw [wellFormedMembers, wellFormedMembers, same.wellFormed_eq, later.wellFormedMembers_eq]

end

theorem wellFormedMembers_congr (depth : Nat) (order : members.Perm moved)
    (each : ReorderedMembers moved others) :
    wellFormedMembers depth members = wellFormedMembers depth others :=
  (wellFormedMembers_perm depth order).trans (each.wellFormedMembers_eq depth)

end Json

end VoxelStream
