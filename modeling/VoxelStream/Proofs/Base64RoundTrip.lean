import VoxelStream.FourBit

/-!
# Reading base64 back

What `Base64.encode` writes, `Base64.decode` reads back (`decode_encode`).  Reading looks at bytes,
so the text is first taken as bytes: each of its characters is one byte (`toUTF8_encode`).  Then
both directions go by groups of three bytes.  A group that more text follows is read where it
stands, and the last group of one, two or three bytes is read by `readLast`.
-/

namespace VoxelStream

namespace Base64

variable {w x y z : Nat}

/-! ## The alphabet -/

/-- The byte of a symbol. -/
def symbolByte (symbol : Nat) : UInt8 := (symbolChar symbol).val.toUInt8

/-- Symbols of base64 take one byte each. -/
theorem utf8Size_symbolChar (small : w < 64) : (symbolChar w).utf8Size = 1 := by
  have all : ∀ symbol : Fin 64, (symbolChar symbol).utf8Size = 1 := by decide
  exact all ⟨w, small⟩

@[simp] theorem symbol?_symbolByte (small : w < 64) : symbol? (symbolByte w) = some w := by
  have all : ∀ symbol : Fin 64, symbol? (symbolByte symbol) = some symbol.val := by decide
  exact all ⟨w, small⟩

@[simp] theorem symbolByte_ne_padByte (small : w < 64) : symbolByte w ≠ padByte := by
  have all : ∀ symbol : Fin 64, symbolByte symbol ≠ padByte := by decide
  exact all ⟨w, small⟩

/-! ## Symbols of a group -/

theorem firstSymbol_lt (a : UInt8) : a.toNat / 4 < 64 := by
  have := a.toNat_lt
  omega

theorem secondSymbol_lt (a b : UInt8) : a.toNat % 4 * 16 + b.toNat / 16 < 64 := by
  have := b.toNat_lt
  omega

theorem thirdSymbol_lt (b c : UInt8) : b.toNat % 16 * 4 + c.toNat / 64 < 64 := by
  have := c.toNat_lt
  omega

theorem fourthSymbol_lt (c : UInt8) : c.toNat % 64 < 64 := Nat.mod_lt _ (by decide)

/-- Four symbols give the three bytes back that they were cut from. -/
theorem quadBytes_group (a b c : UInt8) :
    quadBytes (a.toNat / 4) (a.toNat % 4 * 16 + b.toNat / 16) (b.toNat % 16 * 4 + c.toNat / 64)
      (c.toNat % 64) = [a, b, c] := by
  have hb := b.toNat_lt
  have hc := c.toNat_lt
  have first : a.toNat / 4 * 4 + (a.toNat % 4 * 16 + b.toNat / 16) / 16 = a.toNat := by omega
  have second : (a.toNat % 4 * 16 + b.toNat / 16) % 16 * 16
      + (b.toNat % 16 * 4 + c.toNat / 64) / 4 = b.toNat := by omega
  have third : (b.toNat % 16 * 4 + c.toNat / 64) % 4 * 64 + c.toNat % 64 = c.toNat := by omega
  rw [quadBytes, first, second, third]
  simp only [UInt8.ofNat_toNat]

/-! ## Texts as bytes -/

/-- The text of a byte list, as bytes. -/
def encodeBytes (bytes : List UInt8) : List UInt8 :=
  (encodeChars bytes).map fun char => char.val.toUInt8

theorem encodeBytes_cons₃ (a b c : UInt8) (rest : List UInt8) :
    encodeBytes (a :: b :: c :: rest) =
      symbolByte (a.toNat / 4) :: symbolByte (a.toNat % 4 * 16 + b.toNat / 16) ::
        symbolByte (b.toNat % 16 * 4 + c.toNat / 64) :: symbolByte (c.toNat % 64) ::
          encodeBytes rest := by
  rw [encodeBytes, encodeChars_cons₃]
  rfl

/-- Every three bytes begun are four characters. -/
theorem length_encodeBytes :
    ∀ bytes : List UInt8, (encodeBytes bytes).length = 4 * ((bytes.length + 2) / 3)
  | [] => rfl
  | [_] => by simp [encodeBytes, encodeChars, writeGroups, lastGroup]
  | [_, _] => by simp [encodeBytes, encodeChars, writeGroups, lastGroup]
  | a :: b :: c :: rest => by
    rw [encodeBytes_cons₃]
    simp only [List.length_cons, length_encodeBytes rest]
    omega

/-- Every character of an encoded text takes one byte, padding included. -/
theorem utf8Size_of_mem_encodeChars :
    ∀ {bytes : List UInt8} {char : Char}, char ∈ encodeChars bytes → char.utf8Size = 1
  | a :: b :: c :: rest, char, member => by
    rw [encodeChars_cons₃, List.mem_append] at member
    cases member with
    | inl here =>
      simp only [fullGroup, List.mem_cons, List.not_mem_nil, or_false] at here
      rcases here with rfl | rfl | rfl | rfl
      · exact utf8Size_symbolChar (firstSymbol_lt a)
      · exact utf8Size_symbolChar (secondSymbol_lt a b)
      · exact utf8Size_symbolChar (thirdSymbol_lt b c)
      · exact utf8Size_symbolChar (fourthSymbol_lt c)
    | inr later => exact utf8Size_of_mem_encodeChars later
  | [a, b], char, member => by
    simp only [encodeChars, writeGroups, lastGroup, List.reverse_nil, List.nil_append,
      List.mem_cons, List.not_mem_nil, or_false] at member
    rcases member with rfl | rfl | rfl | rfl
    · exact utf8Size_symbolChar (firstSymbol_lt a)
    · exact utf8Size_symbolChar (secondSymbol_lt a b)
    · exact utf8Size_symbolChar (thirdSymbol_lt b 0)
    · rfl
  | [a], char, member => by
    simp only [encodeChars, writeGroups, lastGroup, List.reverse_nil, List.nil_append,
      List.mem_cons, List.not_mem_nil, or_false] at member
    rcases member with rfl | rfl | rfl | rfl
    · exact utf8Size_symbolChar (firstSymbol_lt a)
    · exact utf8Size_symbolChar (secondSymbol_lt a 0)
    · rfl
    · rfl
  | [], char, member => by cases member

/-- Characters of one byte each make a text of their bytes. -/
theorem toUTF8_ofList {chars : List Char} (narrow : ∀ char ∈ chars, char.utf8Size = 1) :
    (String.ofList chars).toUTF8.data.toList = chars.map fun char => char.val.toUInt8 := by
  rw [String.toUTF8, String.toByteArray_ofList, List.utf8Encode, List.toList_data_toByteArray]
  induction chars with
  | nil => rfl
  | cons first rest ih =>
    rw [List.flatMap_cons, String.utf8EncodeChar_eq_singleton (narrow first List.mem_cons_self),
      ih fun char member => narrow char (List.mem_cons_of_mem _ member)]
    rfl

/-- The bytes of an encoded text are those of its symbols. -/
theorem toUTF8_encode (bytes : List UInt8) :
    (encode bytes).toUTF8.data.toList = encodeBytes bytes :=
  toUTF8_ofList fun _ member => utf8Size_of_mem_encodeChars member

/-! ## Reading -/

/-- The last group is read as it was written. -/
theorem readLast_encodeBytes (offset : Nat) :
    ∀ {bytes : List UInt8}, bytes.length < 4 → readLast offset (encodeBytes bytes) = .ok bytes
  | [], _ => rfl
  | [a], _ => by
    have pair : quadBytes (a.toNat / 4) (a.toNat % 4 * 16) 0 0 = [a, 0, 0] := quadBytes_group a 0 0
    have text : encodeBytes [a] =
        [symbolByte (a.toNat / 4), symbolByte (a.toNat % 4 * 16), padByte, padByte] := rfl
    rw [text]
    simp [readLast, symbols, firstSymbol_lt a,
      show a.toNat % 4 * 16 < 64 from secondSymbol_lt a 0, pair]
  | [a, b], _ => by
    have triple : quadBytes (a.toNat / 4) (a.toNat % 4 * 16 + b.toNat / 16) (b.toNat % 16 * 4) 0 =
        [a, b, 0] := quadBytes_group a b 0
    have text : encodeBytes [a, b] =
        [symbolByte (a.toNat / 4), symbolByte (a.toNat % 4 * 16 + b.toNat / 16),
          symbolByte (b.toNat % 16 * 4), padByte] := rfl
    rw [text]
    simp [readLast, symbols, firstSymbol_lt a, secondSymbol_lt a b,
      show b.toNat % 16 * 4 < 64 from thirdSymbol_lt b 0, triple]
  | [a, b, c], _ => by
    rw [encodeBytes_cons₃, show encodeBytes [] = [] from rfl]
    simp [readLast, symbols, firstSymbol_lt a, secondSymbol_lt a b, thirdSymbol_lt b c,
      fourthSymbol_lt c, quadBytes_group]
  | _ :: _ :: _ :: _ :: _, short => by simp at short; omega

/-- At most four symbols and pad characters are a last group. -/
theorem readGroups_last (offset : Nat) (read : List UInt8) :
    ∀ {text : List UInt8}, text.length < 5 →
      readGroups offset read text = (readLast offset text).map (read.reverse ++ ·)
  | [], _ | [_], _ | [_, _], _ | [_, _, _], _ | [_, _, _, _], _ => by
    rw [readGroups]
    · cases readLast offset _ <;> rfl
    · simp
  | _ :: _ :: _ :: _ :: _ :: _, short => by simp at short; omega

/-- Four symbols that more text follows are three bytes. -/
theorem readGroups_four (hw : w < 64) (hx : x < 64) (hy : y < 64) (hz : z < 64) (offset : Nat)
    (read : List UInt8) {rest : List UInt8} (more : rest ≠ []) :
    readGroups offset read
        (symbolByte w :: symbolByte x :: symbolByte y :: symbolByte z :: rest) =
      readGroups (offset + 4) ((quadBytes w x y z).reverse ++ read) rest := by
  obtain ⟨next, later, rfl⟩ := List.exists_cons_of_ne_nil more
  simp [readGroups, symbols, hw, hx, hy, hz]

/-- Reading goes on behind what is already read, group by group. -/
theorem readGroups_encodeBytes (bytes : List UInt8) (offset : Nat) (read : List UInt8) :
    readGroups offset read (encodeBytes bytes) = .ok (read.reverse ++ bytes) := by
  by_cases short : bytes.length < 4
  · have fits : (encodeBytes bytes).length < 5 := by
      rw [length_encodeBytes]
      omega
    rw [readGroups_last offset read fits, readLast_encodeBytes offset short]
    rfl
  · obtain ⟨a, b, c, d, rest, rfl⟩ : ∃ a b c d rest, bytes = a :: b :: c :: d :: rest := by
      rcases bytes with _ | ⟨a, _ | ⟨b, _ | ⟨c, _ | ⟨d, rest⟩⟩⟩⟩
      all_goals simp at short ⊢
    have more : encodeBytes (d :: rest) ≠ [] := by
      rw [← List.length_pos_iff, length_encodeBytes, List.length_cons]
      omega
    rw [encodeBytes_cons₃, readGroups_four (firstSymbol_lt a) (secondSymbol_lt a b)
      (thirdSymbol_lt b c) (fourthSymbol_lt c) offset read more, readGroups_encodeBytes (d :: rest),
      quadBytes_group]
    simp
termination_by bytes.length

/-- Encoded bytes are decoded. -/
theorem decode_encode (bytes : List UInt8) : decode (encode bytes) = .ok bytes := by
  have lengths := length_encodeBytes bytes
  rw [decode, toUTF8_encode, decodeBytes]
  split
  next last _ =>
    rw [if_neg (by omega), readGroups_encodeBytes]
    rfl
  next empty =>
    rw [List.getLast?_eq_none_iff] at empty
    rw [empty, List.length_nil] at lengths
    have : bytes.length = 0 := by omega
    rw [List.length_eq_zero_iff.mp this]

end Base64

/-- A codec worker reads the payload back that was written. -/
theorem decodePayload_encode (payload : Payload) :
    decodePayload (Base64.encode payload) = .ok payload := by
  rw [decodePayload, Base64.decode_encode]

end VoxelStream
