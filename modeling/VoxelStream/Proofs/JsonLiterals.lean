import VoxelStream.Json.Parser
import Mathlib.Tactic.SplitIfs

/-!
# Reading literals back

The numbers and strings that `Json.render` writes are read back from the front of a text, whatever
follows a string and whatever cannot go on a number (`EndsNumber`).

A number is read back from its digits: all of them are digits, the first is a zero only if it is the
only one, and what they denote is the number.  A string is read back character by character.  What a
character is written as is read as one *piece* (`pieceOf`), and no piece is half of a pair, so the
pieces join to the text.
-/

namespace VoxelStream

namespace Json

variable {rest : List Char}

/-! ## Digits -/

/-- What follows cannot go on a list of digits. -/
def EndsDigits (rest : List Char) : Prop := ∀ c ∈ rest.head?, c.isDigit = false

/-- What follows cannot go on a number literal. -/
def EndsNumber (rest : List Char) : Prop :=
  ∀ c ∈ rest.head?, c.isDigit = false ∧ c ≠ '.' ∧ c ≠ 'e' ∧ c ≠ 'E'

theorem EndsNumber.endsDigits (ends : EndsNumber rest) : EndsDigits rest :=
  fun c first => (ends c first).1

/-- Digits are read up to the first other character. -/
theorem scanDigits_append {digits : List Char} (some_digit : digits ≠ [])
    (all : ∀ c ∈ digits, c.isDigit = true) (ends : EndsDigits rest) :
    scanDigits (digits ++ rest) = some (digits, rest) := by
  have none_taken : rest.takeWhile Char.isDigit = [] := by
    cases rest with
    | nil => rfl
    | cons c more => exact List.takeWhile_cons_of_neg (by simp [ends c rfl])
  have none_dropped : rest.dropWhile Char.isDigit = rest := by
    cases rest with
    | nil => rfl
    | cons c more => exact List.dropWhile_cons_of_neg (by simp [ends c rfl])
  rw [scanDigits, List.takeWhile_append_of_pos all, List.dropWhile_append_of_pos all, none_taken,
    none_dropped, List.append_nil, if_neg (by simpa using some_digit)]

/-- The digits of a positive number do not start with a zero. -/
theorem toDigits_ne_zero_cons {n : Nat} (positive : 0 < n) (more : List Char) :
    Nat.toDigits 10 n ≠ '0' :: more := by
  rw [Nat.toDigits_eq_if (by decide)]
  split
  next small =>
    have all : ∀ digit < 10, 0 < digit → Nat.digitChar digit ≠ '0' := by decide
    intro same
    exact all n small positive (List.cons.inj same).1
  next large =>
    obtain ⟨first, others, digits⟩ := List.exists_cons_of_ne_nil (Nat.toDigits_ne_nil (n := n / 10)
      (b := 10))
    rw [digits, List.cons_append]
    intro same
    obtain ⟨rfl, -⟩ := List.cons.inj same
    exact toDigits_ne_zero_cons (by omega) others digits
termination_by n

theorem isDigit_of_mem_toDigits {n : Nat} : ∀ c ∈ Nat.toDigits 10 n, c.isDigit = true :=
  fun _ => Nat.isDigit_of_mem_toDigits (by decide) (by decide)

/-- The digits of a number are read as a natural number, for they have no leading zero. -/
theorem scanNatural_toDigits (n : Nat) (ends : EndsDigits rest) :
    scanNatural (Nat.toDigits 10 n ++ rest) = some (Nat.toDigits 10 n, rest) := by
  rw [scanNatural, scanDigits_append Nat.toDigits_ne_nil isDigit_of_mem_toDigits ends]
  split
  next next more other found =>
    have digits := (Prod.mk.inj (Option.some.inj found)).1
    obtain rfl | positive := Nat.eq_zero_or_pos n
    · cases digits
    · exact absurd digits (toDigits_ne_zero_cons positive _)
  · rfl

/-- The digits of a number denote it. -/
theorem value_toDigits (n : Nat) : Decimal.value (Nat.toDigits 10 n) = n := by
  have denotes := Nat.ofDigitChars_ten_toDigits (n := n)
  rw [Nat.ofDigitChars_eq_foldl] at denotes
  simp only [Nat.mul_comm 10] at denotes
  exact denotes

theorem toList_toString (n : Nat) : (toString n).toList = Nat.toDigits 10 n := Nat.toList_repr

theorem exists_toDigits (n : Nat) :
    ∃ first others, Nat.toDigits 10 n = first :: others ∧ first.isDigit = true := by
  obtain ⟨first, others, digits⟩ :=
    List.exists_cons_of_ne_nil (Nat.toDigits_ne_nil (n := n) (b := 10))
  exact ⟨first, others, digits, isDigit_of_mem_toDigits first (digits ▸ List.mem_cons_self)⟩

/-! ## Numbers -/

theorem scanFraction_of_ends (ends : EndsNumber rest) : scanFraction rest = some (none, rest) := by
  cases rest with
  | nil => rfl
  | cons c more =>
    rw [scanFraction]
    rintro _ ⟨⟩
    exact (ends '.' rfl).2.1 rfl

theorem scanExponent_of_ends (ends : EndsNumber rest) : scanExponent rest = some (none, rest) := by
  cases rest with
  | nil => rfl
  | cons c more =>
    obtain ⟨-, -, small, large⟩ := ends c rfl
    exact if_neg (not_or.mpr ⟨small, large⟩)

/-- A negative exponent is read back. -/
theorem scanExponent_minus (n : Nat) (ends : EndsDigits rest) :
    scanExponent ('e' :: '-' :: (Nat.toDigits 10 n ++ rest)) =
      some (some (-(n : Int)), rest) := by
  rw [scanExponent, if_pos (.inl rfl)]
  dsimp only
  rw [scanDigits_append Nat.toDigits_ne_nil isDigit_of_mem_toDigits ends, Option.map_some,
    value_toDigits]
  simp

theorem scanExponent_digits (n : Nat) (ends : EndsDigits rest) :
    scanExponent ('e' :: (Nat.toDigits 10 n ++ rest)) = some (some (n : Int), rest) := by
  have scanned := scanDigits_append Nat.toDigits_ne_nil (isDigit_of_mem_toDigits (n := n)) ends
  have value := value_toDigits n
  obtain ⟨first, others, digits, isDigit⟩ := exists_toDigits n
  rw [digits] at scanned value ⊢
  rw [List.cons_append] at scanned ⊢
  have noPlus : first ≠ '+' := by rintro rfl; cases isDigit
  have noMinus : first ≠ '-' := by rintro rfl; cases isDigit
  rw [scanExponent, if_pos (.inl rfl)]
  · rw [scanned]
    show some (some (1 * (Decimal.value (first :: others) : Int)), rest) = _
    rw [value, Int.one_mul]
  · rintro _ ⟨⟩
    exact noPlus rfl
  · rintro _ ⟨⟩
    exact noMinus rfl

/-- The sign and the digits of an exponent. -/
theorem scanExponent_toString (exponent : Int) (ends : EndsDigits rest) :
    scanExponent ('e' :: ((toString exponent).toList ++ rest)) = some (some exponent, rest) := by
  rw [Int.toString_eq_repr, Int.repr_eq_if]
  split
  next nonnegative =>
    rw [Nat.toList_repr, scanExponent_digits exponent.toNat ends, Int.toNat_of_nonneg nonnegative]
  next negative =>
    rw [String.toList_append, Nat.toList_repr]
    show scanExponent ('e' :: '-' :: (Nat.toDigits 10 (-exponent).toNat ++ rest)) = _
    rw [scanExponent_minus _ ends, Int.toNat_of_nonneg (a := -exponent) (by omega), Int.neg_neg]

/-- Digits without a fraction. -/
theorem scanUnsigned_integer (negative : Bool) (magnitude : Nat) (ends : EndsNumber rest) :
    scanUnsigned negative ((toString magnitude).toList ++ rest) =
      some (.integer negative magnitude, rest) := by
  rw [toList_toString, scanUnsigned, scanNatural_toDigits magnitude ends.endsDigits]
  show (scanFraction rest).bind _ = _
  rw [scanFraction_of_ends ends]
  show (scanExponent rest).bind _ = _
  rw [scanExponent_of_ends ends]
  show some (JsonNumber.integer negative (Decimal.value _), rest) = _
  rw [value_toDigits]

/-- A mantissa and its exponent are read back. -/
theorem scanUnsigned_decimal (negative : Bool) (mantissa : Nat) (exponent : Int)
    (ends : EndsNumber rest) :
    scanUnsigned negative
        ((toString mantissa).toList ++ 'e' :: ((toString exponent).toList ++ rest)) =
      some (.decimal negative mantissa exponent, rest) := by
  rw [toList_toString, scanUnsigned, scanNatural_toDigits mantissa (by simp [EndsDigits])]
  show (scanExponent ('e' :: _)).bind _ = _
  rw [scanExponent_toString exponent ends.endsDigits]
  show some (JsonNumber.decimal negative (Decimal.value (_ ++ [])) (exponent - 0), rest) = _
  rw [List.append_nil, value_toDigits, Int.sub_zero]

/-- Digits in front mean that there is no sign. -/
theorem scanNumber_digits (n : Nat) (s : List Char) :
    scanNumber ((toString n).toList ++ s) = scanUnsigned false ((toString n).toList ++ s) := by
  obtain ⟨first, others, digits, isDigit⟩ := exists_toDigits n
  rw [toList_toString, digits, List.cons_append, scanNumber]
  rintro _ ⟨⟩
  cases isDigit

/-- Written numbers are read back. -/
theorem scanNumber_render (value : JsonNumber) (ends : EndsNumber rest) :
    scanNumber (value.render ++ rest) = some (value, rest) := by
  cases value with
  | integer negative magnitude =>
    have scanned := scanUnsigned_integer negative magnitude ends
    cases negative with
    | true => exact scanned
    | false => exact (scanNumber_digits magnitude rest).trans scanned
  | decimal negative mantissa exponent =>
    have scanned := scanUnsigned_decimal negative mantissa exponent ends
    have unsigned := scanNumber_digits mantissa ('e' :: ((toString exponent).toList ++ rest))
    cases negative with
    | true => simpa [JsonNumber.render, scanNumber] using scanned
    | false => simpa [JsonNumber.render] using unsigned.trans scanned

/-! ## Strings -/

/-- Further pieces behind one that was read. -/
def behind (piece : Piece) (scanned : Option (List Piece × List Char)) :
    Option (List Piece × List Char) :=
  scanned.map fun (pieces, rest) => (piece :: pieces, rest)

section

variable {c : Char} {s : List Char}

/-- The quote ends a string. -/
theorem scanPieces_quote (s : List Char) : scanPieces ('"' :: s) = some ([], s) := by
  rw [scanPieces.eq_def]
  rfl

/-- Characters that need no escape stand for themselves. -/
theorem scanPieces_plain (noQuote : c ≠ '"') (noBackslash : c ≠ '\\') (noControl : ¬c.toNat < 32) :
    scanPieces (c :: s) = behind (.char c) (scanPieces s) := by
  rw [scanPieces.eq_def]
  dsimp only
  rw [if_neg noQuote, if_neg noBackslash, if_neg noControl]
  rfl

theorem scanPieces_short {short : Char} (noUnit : c ≠ 'u') (known : shortEscape? c = some short) :
    scanPieces ('\\' :: c :: s) = behind (.char short) (scanPieces s) := by
  rw [scanPieces.eq_def]
  show (if c = 'u' then _ else _) = _
  rw [if_neg noUnit, known]
  rfl

theorem scanPieces_unit {h₁ h₂ h₃ h₄ : Char} {value : Nat}
    (number : Decimal.hexNumber? [h₁, h₂, h₃, h₄] = some value) :
    scanPieces ('\\' :: 'u' :: h₁ :: h₂ :: h₃ :: h₄ :: s) =
      behind (.unit value) (scanPieces s) := by
  rw [scanPieces, if_neg (by decide), if_pos rfl, if_pos rfl, number]
  rfl

/-- Control characters are read back from their four digits. -/
theorem hexNumber?_control (control : c.toNat < 32) :
    Decimal.hexNumber?
        ['0', '0', Decimal.hexDigit (c.toNat / 16), Decimal.hexDigit (c.toNat % 16)] =
      some c.toNat := by
  have all : ∀ value : Fin 32,
      Decimal.hexNumber? ['0', '0', Decimal.hexDigit (value / 16), Decimal.hexDigit (value % 16)] =
        some value.val := by decide
  exact all ⟨c.toNat, control⟩

/-- The piece that a character is read as.  Control characters without a short escape are written by
their number. -/
def pieceOf (c : Char) : Piece :=
  if c.toNat < 32 ∧ c ∉ ['\n', '\r', '\t', '\x08', '\x0c'] then .unit c.toNat else .char c

/-- Every character is read back, escaped or not. -/
theorem scanPieces_escapeChar (c : Char) (s : List Char) :
    scanPieces (escapeChar c ++ s) = behind (pieceOf c) (scanPieces s) := by
  rw [escapeChar]
  split_ifs with quote backslash lineFeed carriageReturn tab backspace formFeed control
  · subst quote
    exact scanPieces_short (by decide) rfl
  · subst backslash
    exact scanPieces_short (by decide) rfl
  · subst lineFeed
    exact scanPieces_short (by decide) rfl
  · subst carriageReturn
    exact scanPieces_short (by decide) rfl
  · subst tab
    exact scanPieces_short (by decide) rfl
  · obtain rfl : c = '\x08' := Char.toNat_inj.mp backspace
    exact scanPieces_short (by decide) rfl
  · obtain rfl : c = '\x0c' := Char.toNat_inj.mp formFeed
    exact scanPieces_short (by decide) rfl
  · have number : pieceOf c = .unit c.toNat := by
      refine if_pos ⟨control, ?_⟩
      simp only [List.mem_cons, List.not_mem_nil, or_false, not_or]
      exact ⟨lineFeed, carriageReturn, tab, mt (congrArg Char.toNat) backspace,
        mt (congrArg Char.toNat) formFeed⟩
    rw [number]
    exact scanPieces_unit (hexNumber?_control control)
  · have itself : pieceOf c = .char c := if_neg fun both => control both.1
    rw [itself]
    exact scanPieces_plain quote backslash control

/-- The piece of a character joins to it, since it is no half of a pair. -/
theorem textOf_pieceOf (c : Char) (pieces : List Piece) :
    textOf (pieceOf c :: pieces) = (textOf pieces).map (c :: ·) := by
  rw [pieceOf]
  split
  next control =>
    have noHigh : isHighUnit c.toNat = false := by
      simp only [isHighUnit, Bool.and_eq_false_iff, decide_eq_false_iff_not]
      omega
    have noLow : isLowUnit c.toNat = false := by
      simp only [isLowUnit, Bool.and_eq_false_iff, decide_eq_false_iff_not]
      omega
    rw [textOf.eq_def]
    dsimp only
    rw [noHigh, noLow, Char.ofNat_toNat]
    rfl
  · rw [textOf]

/-- Pieces of whole characters join to their text. -/
theorem textOf_map_pieceOf (text : List Char) : textOf (text.map pieceOf) = some text := by
  induction text with
  | nil => rfl
  | cons c text ih => rw [List.map_cons, textOf_pieceOf, ih, Option.map_some]

/-- Written strings are read back piece by piece. -/
theorem scanPieces_flatMap (text rest : List Char) :
    scanPieces (text.flatMap escapeChar ++ '"' :: rest) = some (text.map pieceOf, rest) := by
  induction text with
  | nil => exact scanPieces_quote rest
  | cons c text ih =>
    rw [List.flatMap_cons, List.append_assoc, scanPieces_escapeChar, ih]
    rfl

/-- A string literal is read back after its opening quote. -/
theorem scanString_renderString (text : Option String) (rest : List Char) :
    ∃ written, renderString text = '"' :: written ∧
      scanString (written ++ rest) = some (text, rest) := by
  cases text with
  | some text =>
    refine ⟨_, rfl, ?_⟩
    rw [List.append_assoc]
    show scanString (text.toList.flatMap escapeChar ++ '"' :: rest) = _
    rw [scanString, scanPieces_flatMap]
    show some ((textOf (text.toList.map pieceOf)).map String.ofList, rest) = _
    rw [textOf_map_pieceOf, Option.map_some, String.ofList_toList]
  | none =>
    refine ⟨"\\ud800\"".toList, rfl, ?_⟩
    have surrogate : Decimal.hexNumber? ['d', '8', '0', '0'] = some 0xd800 := by decide
    show scanString ('\\' :: 'u' :: 'd' :: '8' :: '0' :: '0' :: '"' :: rest) = _
    rw [scanString, scanPieces_unit surrogate, scanPieces_quote]
    rfl

end

end Json

end VoxelStream
