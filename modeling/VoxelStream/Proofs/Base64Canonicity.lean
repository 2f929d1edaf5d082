import VoxelStream.Proofs.Base64RoundTrip
import Mathlib.Data.List.Basic

/-!
# One text per payload

Reading base64 accepts nothing but what writing produces: a text that is read as some bytes is the
text of these bytes (`eq_encode_of_decode`).  Every check of the reader is needed for that.  Symbols
come from the alphabet (`symbols_eq_ok_iff`), the last group is padded to four (`readLast`), and the
bits of its last symbol that belong to no byte are zero.

`Canonical` says the same of a text without the bytes: the groups it consists of.
-/

namespace VoxelStream

namespace Base64

variable {w x y z offset : Nat}

/-! ## The alphabet -/

theorem symbol?_eq_some_iff {byte : UInt8} :
    symbol? byte = some w ↔ w < 64 ∧ byte = symbolByte w := by
  constructor
  · have all : ∀ code : Fin 256, ∀ symbol ∈ symbol? (UInt8.ofNat code.val),
        symbol < 64 ∧ UInt8.ofNat code.val = symbolByte symbol := by decide +kernel
    have here := all ⟨byte.toNat, byte.toNat_lt⟩ w
    rwa [UInt8.ofNat_toNat] at here
  · rintro ⟨small, rfl⟩
    exact symbol?_symbolByte small

/-- Bytes are read as symbols exactly if they are the bytes of symbols. -/
theorem symbols_eq_ok_iff {bytes : List UInt8} {values : List Nat} :
    symbols offset bytes = .ok values ↔
      bytes = values.map symbolByte ∧ ∀ value ∈ values, value < 64 := by
  induction bytes generalizing offset values with
  | nil =>
    rw [symbols, eq_comm (a := []), List.map_eq_nil_iff]
    constructor
    · rintro ⟨⟩
      exact ⟨rfl, by simp⟩
    · rintro ⟨rfl, -⟩
      rfl
  | cons byte rest ih =>
    rw [symbols]
    constructor
    · intro read
      split at read
      · cases read
      · next symbol found =>
        obtain ⟨small, rfl⟩ := symbol?_eq_some_iff.mp found
        split at read
        · cases read
        · next more readMore =>
          cases read
          obtain ⟨rfl, smallMore⟩ := ih.mp readMore
          exact ⟨rfl, List.forall_mem_cons.mpr ⟨small, smallMore⟩⟩
    · rintro ⟨written, small⟩
      cases values with
      | nil => cases written
      | cons value more =>
        obtain ⟨rfl, rfl⟩ := List.cons.inj written
        obtain ⟨smallValue, smallMore⟩ := List.forall_mem_cons.mp small
        rw [symbol?_symbolByte smallValue, ih.mpr ⟨rfl, smallMore⟩]

/-! ## Groups -/

/-- Four symbols are the symbols of the three bytes that they give. -/
theorem exists_group (hw : w < 64) (hx : x < 64) (hy : y < 64) (hz : z < 64) :
    ∃ a b c, quadBytes w x y z = [a, b, c] ∧ a.toNat / 4 = w ∧
      a.toNat % 4 * 16 + b.toNat / 16 = x ∧ b.toNat % 16 * 4 + c.toNat / 64 = y ∧
      c.toNat % 64 = z := by
  refine ⟨_, _, _, rfl, ?_⟩
  simp only [UInt8.toNat_ofNat']
  omega

theorem encodeChars_quadBytes (hw : w < 64) (hx : x < 64) (hy : y < 64) (hz : z < 64)
    (rest : List UInt8) :
    encodeChars (quadBytes w x y z ++ rest) =
      symbolChar w :: symbolChar x :: symbolChar y :: symbolChar z :: encodeChars rest := by
  obtain ⟨a, b, c, bytes, rfl, rfl, rfl, rfl⟩ := exists_group hw hx hy hz
  rw [bytes]
  exact encodeChars_cons₃ a b c rest

/-- Two symbols are one byte if the second one has no bits that belong to no byte. -/
theorem encodeChars_take_one (hw : w < 64) (hx : x < 64) (unused : x % 16 = 0) :
    encodeChars ((quadBytes w x 0 0).take 1) = [symbolChar w, symbolChar x, pad, pad] := by
  obtain ⟨a, b, c, bytes, rfl, second, -⟩ := exists_group hw hx (y := 0) (z := 0) (by decide)
    (by decide)
  have small := b.toNat_lt
  obtain rfl : x = a.toNat % 4 * 16 := by omega
  rw [bytes]
  rfl

/-- Three symbols are two bytes if the third one has no bits that belong to no byte. -/
theorem encodeChars_take_two (hw : w < 64) (hx : x < 64) (hy : y < 64) (unused : y % 4 = 0) :
    encodeChars ((quadBytes w x y 0).take 2) =
      [symbolChar w, symbolChar x, symbolChar y, pad] := by
  obtain ⟨a, b, c, bytes, rfl, rfl, third, -⟩ := exists_group hw hx hy (z := 0) (by decide)
  have small := c.toNat_lt
  obtain rfl : y = b.toNat % 16 * 4 := by omega
  rw [bytes]
  rfl

/-! ## Canonical texts -/

/-- The texts that are written: full groups of four symbols, and at the end perhaps a group with
pads.  The last symbol before the pads has no bits that belong to no byte. -/
inductive Canonical : List Char → Prop where
  | empty : Canonical []
  | twoPads {w x : Nat} :
      w < 64 → x < 64 → x % 16 = 0 → Canonical [symbolChar w, symbolChar x, pad, pad]
  | onePad {w x y : Nat} :
      w < 64 → x < 64 → y < 64 → y % 4 = 0 →
      Canonical [symbolChar w, symbolChar x, symbolChar y, pad]
  | group {w x y z : Nat} {rest : List Char} :
      w < 64 → x < 64 → y < 64 → z < 64 → Canonical rest →
      Canonical (symbolChar w :: symbolChar x :: symbolChar y :: symbolChar z :: rest)

theorem canonical_encodeChars : ∀ bytes : List UInt8, Canonical (encodeChars bytes)
  | [] => .empty
  | [a] => .twoPads (firstSymbol_lt a) (secondSymbol_lt a 0) (Nat.mul_mod_left ..)
  | [a, b] =>
    .onePad (firstSymbol_lt a) (secondSymbol_lt a b) (thirdSymbol_lt b 0) (Nat.mul_mod_left ..)
  | a :: b :: c :: rest => by
    rw [encodeChars_cons₃]
    exact .group (firstSymbol_lt a) (secondSymbol_lt a b) (thirdSymbol_lt b c) (fourthSymbol_lt c)
      (canonical_encodeChars rest)

/-- A canonical text is the text of some bytes. -/
theorem canonical_iff {chars : List Char} :
    Canonical chars ↔ ∃ bytes, encodeChars bytes = chars := by
  constructor
  · intro canonical
    induction canonical with
    | empty => exact ⟨[], rfl⟩
    | twoPads hw hx unused => exact ⟨_, encodeChars_take_one hw hx unused⟩
    | onePad hw hx hy unused => exact ⟨_, encodeChars_take_two hw hx hy unused⟩
    | group hw hx hy hz _ ih =>
      obtain ⟨bytes, rfl⟩ := ih
      exact ⟨_, encodeChars_quadBytes hw hx hy hz bytes⟩
  · rintro ⟨bytes, rfl⟩
    exact canonical_encodeChars bytes

/-! ## Reading -/

/-- What is read as a last group is none, or at least two symbols and pads that fill them up to
four. -/
theorem shape_of_readLast {group bytes : List UInt8} (short : group.length < 5)
    (reads : readLast offset group = .ok bytes) :
    ∃ (values : List Nat) (pads : Nat),
      group = values.map symbolByte ++ List.replicate pads padByte ∧
      (∀ value ∈ values, value < 64) ∧
      (values.length = 0 ∧ pads = 0 ∨ 2 ≤ values.length ∧ values.length + pads = 4) := by
  have parts := List.takeWhile_append_dropWhile (p := (· != padByte)) (l := group)
  rw [readLast] at reads
  generalize group.takeWhile (· != padByte) = inner at parts reads
  generalize group.dropWhile (· != padByte) = tail at parts reads
  subst parts
  split at reads
  · cases reads
  next values readSymbols =>
    obtain ⟨rfl, small⟩ := symbols_eq_ok_iff.mp readSymbols
    split at reads
    · cases reads
    next padded =>
      split at reads
      · cases reads
      next enough =>
        split at reads
        · cases reads
        next whole =>
          obtain ⟨pads, rfl⟩ : ∃ pads, tail = List.replicate pads padByte := by
            refine ⟨_, List.eq_replicate_of_mem fun byte member => ?_⟩
            by_contra symbol
            exact padded ⟨List.ne_nil_of_mem member,
              .inr (List.any_eq_true.mpr ⟨byte, member, bne_iff_ne.mpr symbol⟩)⟩
          simp at short padded enough whole
          refine ⟨values, pads, rfl, small, ?_⟩
          cases values with
          | nil => simp at padded ⊢; omega
          | cons => simp at enough whole short ⊢; omega

/-- The last group is the text of the bytes it is read as. -/
theorem eq_encodeBytes_of_readLast {group bytes : List UInt8} (short : group.length < 5)
    (reads : readLast offset group = .ok bytes) : group = encodeBytes bytes := by
  obtain ⟨values, pads, rfl, small, shape⟩ := shape_of_readLast short reads
  rcases values with _ | ⟨w, _ | ⟨x, _ | ⟨y, _ | ⟨z, _ | ⟨v, more⟩⟩⟩⟩⟩
  · obtain rfl : pads = 0 := by simpa using shape
    cases reads
    rfl
  · simp at shape
  · obtain rfl : pads = 2 := by simp at shape; omega
    obtain ⟨hw, hx⟩ : w < 64 ∧ x < 64 := by simpa using small
    by_cases unused : x % 16 = 0
    · have one : (quadBytes w x 0 0).take 1 = bytes := by
        simpa [readLast, symbols, List.replicate, hw, hx, unused] using reads
      rw [← one, encodeBytes, encodeChars_take_one hw hx unused]
      rfl
    · simp [readLast, symbols, List.replicate, hw, hx, unused] at reads
  · obtain rfl : pads = 1 := by simp at shape; omega
    obtain ⟨hw, hx, hy⟩ : w < 64 ∧ x < 64 ∧ y < 64 := by simpa using small
    by_cases unused : y % 4 = 0
    · have two : (quadBytes w x y 0).take 2 = bytes := by
        simpa [readLast, symbols, List.replicate, hw, hx, hy, unused] using reads
      rw [← two, encodeBytes, encodeChars_take_two hw hx hy unused]
      rfl
    · simp [readLast, symbols, List.replicate, hw, hx, hy, unused] at reads
  · obtain rfl : pads = 0 := by simpa using shape
    obtain ⟨hw, hx, hy, hz⟩ : w < 64 ∧ x < 64 ∧ y < 64 ∧ z < 64 := by simpa using small
    have whole : quadBytes w x y z = bytes := by
      simpa [readLast, symbols, hw, hx, hy, hz] using reads
    rw [← whole, ← List.append_nil (quadBytes w x y z), encodeBytes,
      encodeChars_quadBytes hw hx hy hz]
    rfl
  · simp at shape
    omega

/-- Behind what is already read, a text is that of the bytes it is read as. -/
theorem exists_of_readGroups {read text bytes : List UInt8}
    (reads : readGroups offset read text = .ok bytes) :
    ∃ more, bytes = read.reverse ++ more ∧ text = encodeBytes more := by
  fun_induction readGroups offset read text with
  | case1 offset read a b c d e rest w x y z readSymbols ih =>
    obtain ⟨more, rfl, written⟩ := ih reads
    obtain ⟨quad, small⟩ := symbols_eq_ok_iff.mp readSymbols
    obtain ⟨hw, hx, hy, hz⟩ : w < 64 ∧ x < 64 ∧ y < 64 ∧ z < 64 := by simpa using small
    refine ⟨quadBytes w x y z ++ more, by simp, ?_⟩
    rw [encodeBytes, encodeChars_quadBytes hw hx hy hz, written]
    exact congrArg (· ++ encodeBytes more) quad
  | case2 offset read a b c d e rest values notFour readSymbols =>
    -- Four bytes are read as four symbols.
    obtain ⟨quad, -⟩ := symbols_eq_ok_iff.mp readSymbols
    have four := congrArg List.length quad
    rw [List.length_map] at four
    obtain ⟨w, x, y, z, rfl⟩ := List.length_eq_four.mp four.symm
    exact absurd rfl (notFour w x y z)
  | case3 => cases reads
  | case4 offset read group short bytes readsLast =>
    cases reads
    refine ⟨bytes, rfl, eq_encodeBytes_of_readLast ?_ readsLast⟩
    rcases group with _ | ⟨a, _ | ⟨b, _ | ⟨c, _ | ⟨d, _ | ⟨e, rest⟩⟩⟩⟩⟩
    case cons.cons.cons.cons.cons => exact absurd rfl (short a b c d e rest)
    all_goals simp
  | case5 => cases reads

/-- A text is read as some bytes exactly if it is the text of these bytes. -/
theorem decode_eq_ok_iff {text : String} {bytes : List UInt8} :
    decode text = .ok bytes ↔ text = encode bytes := by
  constructor
  · intro reads
    apply String.toByteArray_inj.mp
    apply ByteArray.ext
    apply Array.toList_inj.mp
    have written := toUTF8_encode bytes
    rw [String.toUTF8] at written
    rw [written]
    rw [decode, decodeBytes] at reads
    split at reads
    · split at reads
      · cases reads
      · obtain ⟨more, rfl, text⟩ := exists_of_readGroups reads
        exact text
    next empty =>
      cases reads
      exact List.getLast?_eq_none_iff.mp empty
  · rintro rfl
    exact decode_encode bytes

theorem canonical_toList_iff {text : String} :
    Canonical text.toList ↔ ∃ bytes, decode text = .ok bytes := by
  simp only [canonical_iff, decode_eq_ok_iff, encode, ← String.toList_inj, String.toList_ofList]
  exact exists_congr fun _ => eq_comm

end Base64

theorem decodePayload_eq_ok_iff {text : String} {payload : Payload} :
    decodePayload text = .ok payload ↔ text = Base64.encode payload := by
  rw [← Base64.decode_eq_ok_iff, decodePayload]
  cases Base64.decode text <;> simp

theorem decodePayload_eq_error_iff {text : String} {error : WorkerError} :
    decodePayload text = .error error ↔
      ∃ fault, error = .invalidInput fault.message ∧ Base64.decode text = .error fault := by
  rw [decodePayload]
  cases Base64.decode text <;> simp [eq_comm]

/-- What was written is read back, and nothing else is read: the text of a payload is the only one
that is read as it.  The texts that are read are the canonical ones, and every other text is refused
as such. -/
theorem decodePayload_canonical :
    (∀ payload : Payload, decodePayload (Base64.encode payload) = .ok payload ∧
      (Base64.encode payload).length = 4 * ((payload.length + 2) / 3)) ∧
    (∀ text payload, decodePayload text = .ok payload ↔ text = Base64.encode payload) ∧
    (∀ text : String, (∃ payload, decodePayload text = .ok payload) ↔
      Base64.Canonical text.toList) ∧
    (∀ text : String,
      (∃ fault : Base64.Error, decodePayload text = .error (.invalidInput fault.message)) ↔
        ¬ Base64.Canonical text.toList) ∧
    (List.range 64).map Base64.symbolChar =
      "ABCDEFGHIJKLMNOPQRSTUVWXYZabcdefghijklmnopqrstuvwxyz0123456789+/".toList := by
  refine ⟨?written, fun _ _ => decodePayload_eq_ok_iff, ?canonical, ?refused, by decide⟩
  case written =>
    intro payload
    refine ⟨decodePayload_encode payload, ?_⟩
    rw [Base64.encode, String.length_ofList, ← Base64.length_encodeBytes, Base64.encodeBytes,
      List.length_map]
  case canonical =>
    intro text
    simp only [Base64.canonical_toList_iff, decodePayload_eq_ok_iff, Base64.decode_eq_ok_iff]
  case refused =>
    intro text
    rw [Base64.canonical_toList_iff]
    simp only [decodePayload_eq_error_iff]
    cases Base64.decode text <;> simp

end VoxelStream
