import VoxelStream.Proofs.JsonTexts
import Mathlib.Data.List.TakeWhile

/-!
# Numerals and blanks

What the reader takes for a natural number is written in one way only.  Digits without a superfluous
zero in front are the numeral of their value (`eq_toDigits_value`), by induction over the digits
behind the first.  So a text that starts with a natural number starts with its numeral
(`toDigits_of_scanNatural`), and so does one that starts with an integer, behind the sign
(`integer_of_scanUnsigned`).

`Blanks` are what may stand around a token.  `ReadFrom` says what the reader of values has read when
it returns an array or a number.
-/

namespace VoxelStream

namespace Json

/-! ## Numerals -/

section

variable {c : Char}

theorem digitValue_lt_ten (isDigit : c.isDigit = true) : Decimal.digitValue c < 10 := by
  obtain ⟨low, high⟩ : 48 ≤ c.toNat ∧ c.toNat ≤ 57 := Char.isDigit_iff_toNat.mp isDigit
  rw [Decimal.digitValue]
  omega

/-- A digit is the one of its value. -/
theorem digitChar_digitValue (isDigit : c.isDigit = true) :
    Nat.digitChar (Decimal.digitValue c) = c := by
  obtain ⟨low, high⟩ : 48 ≤ c.toNat ∧ c.toNat ≤ 57 := Char.isDigit_iff_toNat.mp isDigit
  apply Char.toNat_inj.mp
  rw [Nat.toNat_digitChar_of_lt_ten (digitValue_lt_ten isDigit), Decimal.digitValue]
  omega

/-- A digit is the numeral of its value. -/
theorem toDigits_digitValue (isDigit : c.isDigit = true) :
    Nat.toDigits 10 (Decimal.digitValue c) = [c] := by
  rw [Nat.toDigits_of_lt_base (digitValue_lt_ten isDigit), digitChar_digitValue isDigit]

end

/-- Digits behind the numeral of a positive number go on with it. -/
theorem toDigits_append {n : Nat} (positive : 0 < n) {digits : List Char}
    (all : ∀ c ∈ digits, c.isDigit = true) :
    Nat.toDigits 10 n ++ digits =
      Nat.toDigits 10
        (digits.foldl (fun number digit => number * 10 + Decimal.digitValue digit) n) := by
  induction digits generalizing n with
  | nil => exact List.append_nil _
  | cons c digits ih =>
    have isDigit := all c List.mem_cons_self
    have longer : Nat.toDigits 10 n ++ [c] = Nat.toDigits 10 (n * 10 + Decimal.digitValue c) := by
      rw [Nat.mul_comm, ← Nat.toDigits_append_toDigits (by decide) positive
        (digitValue_lt_ten isDigit), toDigits_digitValue isDigit]
    calc Nat.toDigits 10 n ++ c :: digits
        = (Nat.toDigits 10 n ++ [c]) ++ digits := by rw [List.append_assoc, List.singleton_append]
      _ = Nat.toDigits 10 (n * 10 + Decimal.digitValue c) ++ digits := by rw [longer]
      _ = _ := ih (by omega) fun d member => all d (List.mem_cons_of_mem _ member)

/-- Digits without a superfluous zero are the numeral of their value. -/
theorem eq_toDigits_value {first : Char} {others : List Char}
    (all : ∀ c ∈ first :: others, c.isDigit = true) (noZero : first = '0' → others = []) :
    first :: others = Nat.toDigits 10 (Decimal.value (first :: others)) := by
  obtain ⟨isDigit, all⟩ := List.forall_mem_cons.mp all
  by_cases zero : first = '0'
  · rw [zero, noZero zero]
    rfl
  · have positive : 0 < Decimal.digitValue first := by
      apply Nat.pos_of_ne_zero
      intro none
      have zeroChar := digitChar_digitValue isDigit
      rw [none] at zeroChar
      exact zero zeroChar.symm
    have whole := toDigits_append positive all
    rw [toDigits_digitValue isDigit, List.singleton_append] at whole
    rw [Decimal.value, Decimal.ofDigits, List.foldl_cons, Nat.zero_mul, Nat.zero_add, ← whole]

/-- What is read as a natural number is the numeral of its value. -/
theorem toDigits_of_scanNatural {s digits rest : List Char}
    (reads : scanNatural s = some (digits, rest)) :
    s = Nat.toDigits 10 (Decimal.value digits) ++ rest := by
  rw [scanNatural] at reads
  split at reads
  · cases reads
  next noZero =>
    rw [scanDigits] at reads noZero
    split at reads
    · cases reads
    next someDigit =>
      cases reads
      rw [if_neg someDigit] at noZero
      have all : ∀ c ∈ s.takeWhile Char.isDigit, c.isDigit = true :=
        fun _ => List.mem_takeWhile_imp
      have whole : s.takeWhile Char.isDigit ++ s.dropWhile Char.isDigit = s :=
        List.takeWhile_append_dropWhile
      cases digits : s.takeWhile Char.isDigit with
      | nil => exact absurd (by rw [digits]; rfl) someDigit
      | cons first others =>
        rw [digits] at all whole noZero
        have single : first = '0' → others = [] := by
          rintro rfl
          cases others with
          | nil => rfl
          | cons next more => exact absurd rfl (noZero next more _)
        rw [← eq_toDigits_value all single, whole]

section

variable {s rest : List Char}

theorem eq_of_scanFraction (reads : scanFraction s = some (none, rest)) : rest = s := by
  rw [scanFraction.eq_def] at reads
  split at reads
  · obtain ⟨_, -, same⟩ := Option.map_eq_some_iff.mp reads
    cases same
  · cases reads
    rfl

theorem eq_of_scanExponent (reads : scanExponent s = some (none, rest)) : rest = s := by
  rw [scanExponent.eq_def] at reads
  split at reads
  · split at reads
    · obtain ⟨_, -, same⟩ := Option.map_eq_some_iff.mp reads
      cases same
    · cases reads
      rfl
  · cases reads
    rfl

/-- An integer is read from its numeral. -/
theorem integer_of_scanUnsigned {negative sign : Bool} {magnitude : Nat}
    (reads : scanUnsigned negative s = some (.integer sign magnitude, rest)) :
    sign = negative ∧ s = (toString magnitude).toList ++ rest := by
  rw [scanUnsigned] at reads
  obtain ⟨⟨digits, afterDigits⟩, whole, reads⟩ := Option.bind_eq_some_iff.mp reads
  obtain ⟨⟨fraction, afterFraction⟩, point, reads⟩ := Option.bind_eq_some_iff.mp reads
  obtain ⟨⟨exponent, afterExponent⟩, power, reads⟩ := Option.bind_eq_some_iff.mp reads
  dsimp only at point power reads
  split at reads
  · cases reads
    obtain rfl := eq_of_scanFraction point
    obtain rfl := eq_of_scanExponent power
    rw [toList_toString]
    exact ⟨rfl, toDigits_of_scanNatural whole⟩
  · cases reads

/-- A natural number is read only from its own digits. -/
theorem natural_of_scanNumber {n : Nat} (reads : scanNumber s = some (.integer false n, rest)) :
    s = (toString n).toList ++ rest := by
  rw [scanNumber.eq_def] at reads
  split at reads
  · cases (integer_of_scanUnsigned reads).1
  · exact (integer_of_scanUnsigned reads).2

end

/-! ## Blanks -/

/-- A property of a few characters is checked for one after the other.  Characters are finitely
many, so deciding the statement itself may go through all of them. -/
theorem forall_mem_of_all {property : Char → Prop} [DecidablePred property] {listed : List Char}
    (all : listed.all (property ·) = true) : ∀ c ∈ listed, property c :=
  fun c member => of_decide_eq_true (List.all_eq_true.mp all c member)

/-- Blank, tab, line feed and carriage return in any number. -/
def Blanks (s : List Char) : Prop := ∀ c ∈ s, c ∈ [' ', '\t', '\n', '\r']

instance (s : List Char) : Decidable (Blanks s) :=
  List.decidableBAll (· ∈ [' ', '\t', '\n', '\r']) s

/-- Blanks are the four of the grammar. -/
theorem isBlank_iff {c : Char} : isBlank c = true ↔ c ∈ [' ', '\t', '\n', '\r'] := by
  simp [isBlank, or_assoc]

theorem isBlank_of_isDigit {c : Char} (isDigit : c.isDigit = true) : isBlank c = false :=
  (StartsNumber.startsValue (.inr isDigit)).1

section

variable {before s : List Char}

theorem blanks_nil : Blanks [] := List.forall_mem_nil _

theorem blanks_append : Blanks (before ++ s) ↔ Blanks before ∧ Blanks s := List.forall_mem_append

/-- Only blanks are skipped to the end. -/
theorem skipBlanks_eq_nil_iff : skipBlanks s = [] ↔ Blanks s := by
  simp only [skipBlanks, List.dropWhile_eq_nil_iff, isBlank_iff, Blanks]

/-- Blanks before a text are skipped. -/
theorem skipBlanks_append (blanks : Blanks before) (s : List Char) :
    skipBlanks (before ++ s) = skipBlanks s :=
  List.dropWhile_append_of_pos fun c member => isBlank_iff.mpr (blanks c member)

/-- Blanks are skipped up to a character that is none. -/
theorem skipBlanks_append_cons (blanks : Blanks before) {c : Char} (notBlank : isBlank c = false) :
    skipBlanks (before ++ c :: s) = c :: s := by
  rw [skipBlanks_append blanks, skipBlanks_cons notBlank]

/-- What is skipped is blank. -/
theorem exists_skipBlanks (s : List Char) : ∃ before, Blanks before ∧ s = before ++ skipBlanks s :=
  ⟨s.takeWhile isBlank, fun _ member => isBlank_iff.mp (List.mem_takeWhile_imp member),
    List.takeWhile_append_dropWhile.symm⟩

/-- Blanks do not go on a number. -/
theorem EndsNumber.behind {rest : List Char} (ends : EndsNumber rest) (blanks : Blanks before) :
    EndsNumber (before ++ rest) := by
  cases before with
  | nil => exact ends
  | cons blank before =>
    have all : ∀ c ∈ [' ', '\t', '\n', '\r'], c.isDigit = false ∧ c ≠ '.' ∧ c ≠ 'e' ∧ c ≠ 'E' :=
      forall_mem_of_all (by decide)
    rintro _ ⟨⟩
    exact all blank (blanks blank List.mem_cons_self)

end

/-! ## Values -/

section

variable {s before rest : List Char} {bound : Nat}

theorem scanValue_append (blanks : Blanks before) (s : List Char) :
    scanValue bound (before ++ s) = scanValue bound s := by
  cases bound with
  | zero => rfl
  | succ bound => rw [scanValue, scanValue, skipBlanks_append blanks]

/-- The blanks behind an opening bracket are skipped. -/
theorem scanValue_bracket (blanks : Blanks before) (s : List Char) :
    scanValue (bound + 1) ('[' :: (before ++ s)) = scanValue (bound + 1) ('[' :: s) := by
  rw [scanValue, scanValue, skipBlanks_cons (by decide), skipBlanks_cons (by decide)]
  dsimp only
  rw [if_neg (by decide), if_pos rfl, if_neg (by decide), if_pos rfl, skipBlanks_append blanks]

theorem eq_of_scanWord {word : List Char} {value other : Json}
    (reads : scanWord word value s = some (other, rest)) : other = value := by
  rw [scanWord] at reads
  split at reads
  · cases reads
    rfl
  · cases reads

/-- What a value is read from, for arrays and numbers. -/
inductive ReadFrom (bound : Nat) (s rest : List Char) : Json → Prop
  | null : ReadFrom bound s rest .null
  | bool {truth : Bool} : ReadFrom bound s rest (.bool truth)
  | string {text : Option String} : ReadFrom bound s rest (.string text)
  | object {members : List (Option String × Json)} : ReadFrom bound s rest (.object members)
  | number {value : JsonNumber} :
      scanNumber (skipBlanks s) = some (value, rest) → ReadFrom bound s rest (.number value)
  | emptyArray {later : List Char} :
      skipBlanks s = '[' :: later → skipBlanks later = ']' :: rest →
      ReadFrom bound s rest (.array [])
  | array {later : List Char} {items : List Json} :
      skipBlanks s = '[' :: later → scanItems bound (skipBlanks later) = some (items, rest) →
      ReadFrom bound s rest (.array items)

/-- Every value was read from the text that its first character announces. -/
theorem readFrom_of_scanValue {value : Json}
    (reads : scanValue (bound + 1) s = some (value, rest)) : ReadFrom bound s rest value := by
  rw [scanValue] at reads
  split at reads
  · cases reads
  next c later skipped =>
    by_cases quote : c = '"'
    · rw [if_pos quote] at reads
      obtain ⟨_, -, same⟩ := Option.map_eq_some_iff.mp reads
      cases same
      exact .string
    by_cases bracket : c = '['
    · rw [if_neg quote, if_pos bracket] at reads
      subst bracket
      split at reads
      next closing =>
        cases reads
        exact .emptyArray skipped closing
      next =>
        obtain ⟨_, scanned, same⟩ := Option.map_eq_some_iff.mp reads
        cases same
        exact .array skipped scanned
    by_cases brace : c = '\x7b'
    · rw [if_neg quote, if_neg bracket, if_pos brace] at reads
      split at reads
      · cases reads
        exact .object
      · obtain ⟨_, -, same⟩ := Option.map_eq_some_iff.mp reads
        cases same
        exact .object
    rw [if_neg quote, if_neg bracket, if_neg brace] at reads
    split at reads
    · cases eq_of_scanWord reads
      exact .null
    split at reads
    · cases eq_of_scanWord reads
      exact .bool
    split at reads
    · cases eq_of_scanWord reads
      exact .bool
    · obtain ⟨_, scanned, same⟩ := Option.map_eq_some_iff.mp reads
      cases same
      exact .number (skipped ▸ scanned)

/-- A natural number as a value was read from its own digits. -/
theorem natural_of_scanValue {n : Nat} (reads : scanValue bound s = some (nat n, rest)) :
    skipBlanks s = (toString n).toList ++ rest := by
  cases bound with
  | zero => cases reads
  | succ bound =>
    cases readFrom_of_scanValue reads with
    | number scanned => exact natural_of_scanNumber scanned

end

end Json

end VoxelStream
