import VoxelStream.Slices

/-!
# Joining as writes

`fill?` writes some items to their indices, one after the other.  What an index holds in the end is
the last item written to it, or what it held before (`getElem?_of_fill?`).  The writes of
`mergeFallback?` are the pieces of a second answer at the missing indices of a first.  These are
indices of the pieces, so no write is outside, and no index that holds a payload is written to
(`exists_mergeFallback?`, `getElem?_of_mergeFallback?`).
-/

namespace VoxelStream

variable {α : Type} {items filled : List α} {writes : List (Nat × α)} {index : Nat}

/-! ## Gathering -/

/-- Gathering reads every index. -/
theorem gather?_eq_some_iff {indices : List Nat} {gathered : List α} :
    gather? items indices = some gathered ↔
      indices.map (items[·]?) = gathered.map some := by
  rw [gather?]
  induction indices generalizing gathered with
  | nil => cases gathered <;> simp
  | cons index rest ih =>
    rw [List.mapM_cons, List.map_cons]
    cases found : items[index]? with
    | none => cases gathered <;> simp
    | some item =>
      cases gathered with
      | nil => cases rest.mapM (items[·]?) <;> simp
      | cons first others =>
        rw [List.map_cons, List.cons.injEq, ← ih]
        cases rest.mapM (items[·]?) <;> simp

/-- Items are gathered wherever all positions are inside. -/
theorem exists_gather? {indices : List Nat} (inside : ∀ index ∈ indices, index < items.length) :
    ∃ gathered, gather? items indices = some gathered := by
  induction indices with
  | nil => exact ⟨[], rfl⟩
  | cons index rest ih =>
    obtain ⟨gathered, later⟩ := ih fun i listed => inside i (List.mem_cons_of_mem _ listed)
    have here : ∃ item, items[index]? = some item :=
      ⟨_, List.getElem?_eq_getElem (inside index List.mem_cons_self)⟩
    obtain ⟨item, here⟩ := here
    rw [gather?_eq_some_iff] at later
    refine ⟨item :: gathered, gather?_eq_some_iff.mpr ?_⟩
    rw [List.map_cons, List.map_cons, here, later]

theorem length_of_gather? {indices : List Nat} {gathered : List α}
    (result : gather? items indices = some gathered) : gathered.length = indices.length := by
  have lengths := congrArg List.length (gather?_eq_some_iff.mp result)
  simpa using lengths.symm

theorem mem_of_gather? {indices : List Nat} {gathered : List α}
    (result : gather? items indices = some gathered) {item : α} (member : item ∈ gathered) :
    item ∈ items := by
  have image : some item ∈ indices.map (items[·]?) := by
    rw [gather?_eq_some_iff.mp result]
    exact List.mem_map_of_mem member
  obtain ⟨index, -, here⟩ := List.mem_map.mp image
  exact List.mem_of_getElem? here

/-! ## Missing indices -/

/-- The missing positions are those without a piece. -/
theorem mem_missingIndices {pieces : List Piece} :
    index ∈ missingIndices pieces ↔ pieces[index]? = some none := by
  simp only [missingIndices, List.mem_map, List.mem_filter, Option.isNone_iff_eq_none]
  constructor
  · rintro ⟨⟨piece, place⟩, ⟨listed, rfl⟩, rfl⟩
    exact List.mk_mem_zipIdx_iff_getElem?.mp listed
  · intro found
    exact ⟨(none, index), ⟨List.mk_mem_zipIdx_iff_getElem?.mpr found, rfl⟩, rfl⟩

theorem lt_length_of_mem_missingIndices {pieces : List Piece}
    (listed : index ∈ missingIndices pieces) : index < pieces.length :=
  (List.getElem?_eq_some_iff.mp (mem_missingIndices.mp listed)).1

theorem missingIndices_eq_nil_iff {pieces : List Piece} :
    missingIndices pieces = [] ↔ none ∉ pieces := by
  rw [List.eq_nil_iff_forall_not_mem, List.mem_iff_getElem?, not_exists]
  exact forall_congr' fun index => not_congr mem_missingIndices

/-- The items of a list whose pieces are missing. -/
def lacking (items : List α) (pieces : List Piece) : List α :=
  ((items.zip pieces).filter (·.2.isNone)).map (·.1)

/-- Gathering at the missing indices gives the items whose pieces are missing, in order. -/
theorem gather?_missingIndices {pieces : List Piece} (lengths : pieces.length = items.length) :
    gather? items (missingIndices pieces) = some (lacking items pieces) := by
  -- The induction leaves the items before the current one in front, so indices count from there.
  have offset : ∀ front : List α,
      ((pieces.zipIdx front.length).filter (·.1.isNone)).map
        (fun entry => (front ++ items)[entry.2]?) = (lacking items pieces).map some := by
    induction pieces generalizing items with
    | nil =>
      intro front
      simp [lacking]
    | cons piece rest ih =>
      intro front
      cases items with
      | nil => cases lengths
      | cons item later =>
        have next := ih (Nat.succ.inj lengths) (front ++ [item])
        rw [List.length_append, List.length_singleton, List.append_assoc] at next
        cases piece with
        | none => simpa [lacking] using next
        | some payload => simpa [lacking] using next
  rw [gather?_eq_some_iff, missingIndices, List.map_map]
  exact offset []

/-! ## Filling -/

section

variable {κ : Type} [DecidableEq κ] {log : List (κ × α)} {key : κ}

/-- The last item written to a key. -/
def lastWrite : List (κ × α) → κ → Option α
  | [], _ => none
  | write :: rest, key =>
    (lastWrite rest key).or (if write.1 = key then some write.2 else none)

/-- The last write to a key is one of the writes. -/
theorem mem_of_lastWrite {item : α} (last : lastWrite log key = some item) :
    (key, item) ∈ log := by
  induction log with
  | nil => cases last
  | cons write rest ih =>
    rw [lastWrite, Option.or_eq_some_iff] at last
    rcases last with later | ⟨-, here⟩
    · exact List.mem_cons_of_mem _ (ih later)
    · split at here
      · rename_i same
        cases here
        subst same
        exact List.mem_cons_self
      · cases here

/-- There is no last write to a key that was never written. -/
theorem lastWrite_eq_none_iff :
    lastWrite log key = none ↔ ∀ write ∈ log, write.1 ≠ key := by
  induction log with
  | nil => simp [lastWrite]
  | cons write rest ih => simp [lastWrite, ih, and_comm]

/-- Later writes hide earlier ones. -/
theorem lastWrite_append (earlier later : List (κ × α)) (key : κ) :
    lastWrite (earlier ++ later) key = (lastWrite later key).or (lastWrite earlier key) := by
  induction earlier with
  | nil => rw [List.nil_append, lastWrite, Option.or_none]
  | cons write rest ih => rw [List.cons_append, lastWrite, ih, lastWrite, Option.or_assoc]

end

theorem length_of_fill? (result : fill? items writes = some filled) :
    filled.length = items.length := by
  induction writes generalizing items with
  | nil => cases result; rfl
  | cons write rest ih =>
    rw [fill?] at result
    split at result
    · rw [ih result, List.length_set]
    · cases result

/-- After filling, an index holds the last item written to it, or what it held before. -/
theorem getElem?_of_fill? (result : fill? items writes = some filled) (index : Nat) :
    filled[index]? = (lastWrite writes index).or items[index]? := by
  induction writes generalizing items with
  | nil => cases result; rfl
  | cons write rest ih =>
    rw [fill?] at result
    split at result
    · rename_i inside
      rw [ih result, lastWrite, Option.or_assoc, List.getElem?_set]
      by_cases same : write.1 = index
      · rw [if_pos same, if_pos same, if_pos inside, Option.some_or]
      · rw [if_neg same, if_neg same, Option.none_or]
    · cases result

/-- Writes succeed wherever all positions are inside. -/
theorem exists_fill? (inside : ∀ write ∈ writes, write.1 < items.length) :
    ∃ filled, fill? items writes = some filled := by
  induction writes generalizing items with
  | nil => exact ⟨items, rfl⟩
  | cons write rest ih =>
    rw [fill?, if_pos (inside write List.mem_cons_self)]
    apply ih
    intro later listed
    rw [List.length_set]
    exact inside later (List.mem_cons_of_mem _ listed)

/-! ## Merging a fallback -/

section

variable {pieces fallback merged : List Piece}

/-- The missing indices are indices of the pieces, so merging writes to no other. -/
theorem exists_mergeFallback? (pieces fallback : List Piece) :
    ∃ merged, mergeFallback? pieces (missingIndices pieces) fallback = some merged := by
  apply exists_fill?
  intro write listed
  exact lt_length_of_mem_missingIndices (List.of_mem_zip listed).1

theorem length_of_mergeFallback? {missing : List Nat}
    (result : mergeFallback? pieces missing fallback = some merged) :
    merged.length = pieces.length := length_of_fill? result

/-- A piece that was there is kept. -/
theorem getElem?_of_mergeFallback?_present {payload : Payload}
    (result : mergeFallback? pieces (missingIndices pieces) fallback = some merged)
    (found : pieces[index]? = some (some payload)) : merged[index]? = some (some payload) := by
  have untouched : lastWrite ((missingIndices pieces).zip fallback) index = none := by
    rw [lastWrite_eq_none_iff]
    rintro ⟨place, piece⟩ listed rfl
    have hole := mem_missingIndices.mp (List.of_mem_zip listed).1
    rw [found] at hole
    cases hole
  rw [getElem?_of_fill? result, untouched, Option.none_or, found]

/-- A missing piece is replaced by one of the fallback, the one at its position among the missing
indices. -/
theorem getElem?_of_mergeFallback?_missing
    (result : mergeFallback? pieces (missingIndices pieces) fallback = some merged)
    (enough : fallback.length = (missingIndices pieces).length)
    (hole : pieces[index]? = some none) :
    ∃ position : Nat, (missingIndices pieces)[position]? = some index ∧
      merged[index]? = fallback[position]? := by
  obtain ⟨first, firstInside, firstAt⟩ := List.mem_iff_getElem.mp (mem_missingIndices.mpr hole)
  cases last : lastWrite ((missingIndices pieces).zip fallback) index with
  | none =>
    have written : (index, fallback[first]) ∈ (missingIndices pieces).zip fallback := by
      rw [List.mem_iff_getElem?]
      refine ⟨first, List.getElem?_zip_eq_some.mpr ⟨?_, List.getElem?_eq_getElem _⟩⟩
      rw [List.getElem?_eq_getElem firstInside, firstAt]
    exact absurd rfl (lastWrite_eq_none_iff.mp last _ written)
  | some piece =>
    obtain ⟨position, written⟩ := List.mem_iff_getElem?.mp (mem_of_lastWrite last)
    obtain ⟨listed, answered⟩ := List.getElem?_zip_eq_some.mp written
    refine ⟨position, listed, ?_⟩
    rw [getElem?_of_fill? result, last, Option.some_or, answered]

/-- What a merge holds at an index: the payload that was there, or the piece of the fallback for
that index. -/
theorem mergeFallback?_cases
    (result : mergeFallback? pieces (missingIndices pieces) fallback = some merged)
    (enough : fallback.length = (missingIndices pieces).length) (inside : index < merged.length) :
    (∃ payload, pieces[index]? = some (some payload) ∧ merged[index]? = some (some payload)) ∨
    (pieces[index]? = some none ∧ ∃ position : Nat,
      (missingIndices pieces)[position]? = some index ∧ merged[index]? = fallback[position]?) := by
  rw [length_of_mergeFallback? result] at inside
  have held : pieces[index]? = some pieces[index] := List.getElem?_eq_getElem inside
  cases here : pieces[index] with
  | some payload =>
    rw [here] at held
    exact .inl ⟨payload, held, getElem?_of_mergeFallback?_present result held⟩
  | none =>
    rw [here] at held
    exact .inr ⟨held, getElem?_of_mergeFallback?_missing result enough held⟩

/-- Every payload of a merge comes from one of its two sides. -/
theorem mem_of_mergeFallback?
    (result : mergeFallback? pieces (missingIndices pieces) fallback = some merged)
    (enough : fallback.length = (missingIndices pieces).length) {payload : Payload}
    (listed : some payload ∈ merged) : some payload ∈ pieces ∨ some payload ∈ fallback := by
  obtain ⟨index, held⟩ := List.mem_iff_getElem?.mp listed
  have inside := (List.getElem?_eq_some_iff.mp held).1
  rcases mergeFallback?_cases result enough inside with ⟨kept, was, now⟩ | ⟨-, position, -, now⟩
  · rw [held] at now
    cases now
    exact .inl (List.mem_of_getElem? was)
  · rw [held] at now
    exact .inr (List.mem_of_getElem? now.symm)

/-- A piece that a merge lacks was lacking on both sides. -/
theorem missing_of_mergeFallback?
    (result : mergeFallback? pieces (missingIndices pieces) fallback = some merged)
    (enough : fallback.length = (missingIndices pieces).length)
    (lacks : merged[index]? = some none) :
    pieces[index]? = some none ∧
      ∃ position : Nat, (missingIndices pieces)[position]? = some index ∧
        fallback[position]? = some none := by
  have inside := (List.getElem?_eq_some_iff.mp lacks).1
  rcases mergeFallback?_cases result enough inside with ⟨_, -, now⟩ | ⟨was, position, listed, now⟩
  · rw [lacks] at now
    cases now
  · exact ⟨was, position, listed, now ▸ lacks⟩

/-- If both sides are read off the items of a batch, so is the merge. -/
theorem mergeFallback?_map {batch gathered : List α} {first : α → Piece} (second : α → Piece)
    (result : gather? batch (missingIndices (batch.map first)) = some gathered) :
    mergeFallback? (batch.map first) (missingIndices (batch.map first)) (gathered.map second) =
      some (batch.map fun item => (first item).or (second item)) := by
  obtain ⟨merged, joined⟩ :=
    exists_mergeFallback? (batch.map first) (gathered.map second)
  have enough : (gathered.map second).length = (missingIndices (batch.map first)).length := by
    rw [List.length_map, length_of_gather? result]
  have lengths : merged.length = batch.length := by
    rw [length_of_mergeFallback? joined, List.length_map]
  rw [joined, Option.some.injEq]
  apply List.ext_getElem?
  intro index
  rw [List.getElem?_map]
  by_cases inside : index < merged.length
  · rcases mergeFallback?_cases joined enough inside with
      ⟨payload, was, now⟩ | ⟨was, position, listed, now⟩
    · rw [List.getElem?_map, Option.map_eq_some_iff] at was
      obtain ⟨item, here, held⟩ := was
      rw [now, here, Option.map_some, held, Option.some_or]
    · rw [List.getElem?_map, Option.map_eq_some_iff] at was
      obtain ⟨item, here, lacks⟩ := was
      -- What was gathered at this position is the item whose piece is missing.
      have read := congrArg (·[position]?) (gather?_eq_some_iff.mp result)
      simp only [List.getElem?_map, listed, Option.map_some, here] at read
      obtain ⟨_, found, same⟩ := Option.map_eq_some_iff.mp read.symm
      cases same
      rw [now, List.getElem?_map, found, here, Option.map_some, Option.map_some, lacks,
        Option.none_or]
  · rw [List.getElem?_eq_none (by omega), List.getElem?_eq_none (by omega), Option.map_none]

end

end VoxelStream
