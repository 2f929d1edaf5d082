import VoxelStream.Proofs.JsonLiterals

/-!
# Reading rendered values back

Every value is read back from its text (`parse?_render`), whatever it is: repeated keys, strings
that denote no text and numbers of any size included.  So no two values have the same text.

The induction is over the value, together with the items of arrays and the members of objects.  The
first character of a text tells which kind of value it is.  What follows a value inside another one
cannot go on a number (`EndsNumber`), so reading stops where the value does.  The reader counts down
from a bound, and the length of a text is enough of it.
-/

namespace VoxelStream

namespace Json

/-! ## First characters -/

/-- The characters that a number literal starts with. -/
def StartsNumber (c : Char) : Prop := c = '-' ∨ c.isDigit = true

instance (c : Char) : Decidable (StartsNumber c) := inferInstanceAs (Decidable (_ ∨ _))

theorem StartsNumber.ne {c : Char} (starts : StartsNumber c) (other : Char)
    (different : ¬StartsNumber other) : c ≠ other := by
  rintro rfl
  exact different starts

/-- Every number begins with a digit or its sign. -/
theorem exists_render (value : JsonNumber) :
    ∃ first more, value.render = first :: more ∧ StartsNumber first := by
  cases value with
  | integer negative magnitude =>
    obtain ⟨first, others, digits, isDigit⟩ := exists_toDigits magnitude
    cases negative with
    | true => exact ⟨'-', _, rfl, .inl rfl⟩
    | false => exact ⟨first, others, (toList_toString magnitude).trans digits, .inr isDigit⟩
  | decimal negative mantissa exponent =>
    obtain ⟨first, others, digits, isDigit⟩ := exists_toDigits mantissa
    cases negative with
    | true => exact ⟨'-', _, rfl, .inl rfl⟩
    | false =>
      refine ⟨first, others ++ 'e' :: (toString exponent).toList, ?_, .inr isDigit⟩
      simp [JsonNumber.render, digits]

/-- A character that is neither blank nor the end of an array. -/
def StartsValue (c : Char) : Prop := isBlank c = false ∧ c ≠ ']'

instance (c : Char) : Decidable (StartsValue c) := inferInstanceAs (Decidable (_ ∧ _))

theorem StartsNumber.startsValue {c : Char} (starts : StartsNumber c) : StartsValue c := by
  refine ⟨?_, starts.ne ']' (by decide)⟩
  simp [isBlank, starts.ne ' ' (by decide), starts.ne '\t' (by decide), starts.ne '\n' (by decide),
    starts.ne '\r' (by decide)]

/-- No value begins with a blank or with the end of an array. -/
theorem exists_renderChars (value : Json) :
    ∃ first more, value.renderChars = first :: more ∧ StartsValue first := by
  cases value with
  | null => exact ⟨'n', _, by rw [renderChars]; rfl, by decide⟩
  | bool truth =>
    cases truth with
    | true => exact ⟨'t', _, by rw [renderChars]; rfl, by decide⟩
    | false => exact ⟨'f', _, by rw [renderChars]; rfl, by decide⟩
  | number value =>
    obtain ⟨first, more, text, starts⟩ := exists_render value
    exact ⟨first, more, by rw [renderChars, text], starts.startsValue⟩
  | string text =>
    obtain ⟨written, literal, -⟩ := scanString_renderString text []
    exact ⟨'"', written, by rw [renderChars, literal], by decide⟩
  | array items => exact ⟨'[', _, by rw [renderChars], by decide⟩
  | object members => exact ⟨'\x7b', _, by rw [renderChars], by decide⟩

/-- The items of an array begin with no blank and with no end of the array. -/
theorem exists_renderItems (item : Json) (items : List Json) :
    ∃ first more, renderItems (item :: items) = first :: more ∧ StartsValue first := by
  obtain ⟨first, more, text, starts⟩ := exists_renderChars item
  cases items with
  | nil => exact ⟨first, more, by rw [renderItems, text], starts⟩
  | cons next items => exact ⟨first, _, by rw [renderItems, text, List.cons_append], starts⟩

/-- Members begin with the quote of the first key. -/
theorem exists_renderMembers (key : Option String) (value : Json)
    (members : List (Option String × Json)) :
    ∃ more, renderMembers ((key, value) :: members) = '"' :: more := by
  obtain ⟨written, literal, -⟩ := scanString_renderString key []
  cases members with
  | nil => exact ⟨_, by rw [renderMembers, literal, List.cons_append]⟩
  | cons next members => exact ⟨_, by rw [renderMembers, literal, List.cons_append]⟩

/-! ## One step of reading -/

section

variable {c : Char} {s rest : List Char} {bound : Nat}

theorem skipBlanks_cons (notBlank : isBlank c = false) : skipBlanks (c :: s) = c :: s :=
  List.dropWhile_cons_of_neg (by simp [notBlank])

/-- A quote opens a string. -/
theorem scanValue_string {text : Option String} (scanned : scanString s = some (text, rest)) :
    scanValue (bound + 1) ('"' :: s) = some (.string text, rest) := by
  rw [scanValue, skipBlanks_cons (by decide)]
  show (scanString s).map _ = _
  rw [scanned]
  rfl

/-- A digit or a sign opens a number. -/
theorem scanValue_number {value : JsonNumber} (starts : StartsNumber c)
    (scanned : scanNumber (c :: s) = some (value, rest)) :
    scanValue (bound + 1) (c :: s) = some (.number value, rest) := by
  rw [scanValue, skipBlanks_cons starts.startsValue.1]
  dsimp only
  rw [if_neg (starts.ne _ (by decide)), if_neg (starts.ne _ (by decide)),
    if_neg (starts.ne _ (by decide)), if_neg (starts.ne _ (by decide)),
    if_neg (starts.ne _ (by decide)), if_neg (starts.ne _ (by decide)), scanned]
  rfl

theorem scanValue_emptyArray :
    scanValue (bound + 1) ('[' :: ']' :: rest) = some (.array [], rest) := by
  rw [scanValue, skipBlanks_cons (by decide)]
  rfl

/-- After the opening bracket come the items, unless it closes at once. -/
theorem scanValue_array {items : List Json} (starts : StartsValue c)
    (scanned : scanItems bound (c :: s) = some (items, rest)) :
    scanValue (bound + 1) ('[' :: c :: s) = some (.array items, rest) := by
  rw [scanValue, skipBlanks_cons (by decide)]
  dsimp only
  rw [if_neg (by decide), if_pos rfl, skipBlanks_cons starts.1]
  split
  next closing =>
    cases closing
    exact absurd rfl starts.2
  · rw [scanned]
    rfl

theorem scanValue_emptyObject :
    scanValue (bound + 1) ('\x7b' :: '\x7d' :: rest) = some (.object [], rest) := by
  rw [scanValue, skipBlanks_cons (by decide)]
  rfl

/-- After the opening brace come the members, unless it closes at once. -/
theorem scanValue_object {members : List (Option String × Json)}
    (scanned : scanMembers bound ('"' :: s) = some (members, rest)) :
    scanValue (bound + 1) ('\x7b' :: '"' :: s) = some (.object members, rest) := by
  rw [scanValue, skipBlanks_cons (by decide)]
  show (scanMembers bound ('"' :: s)).map _ = _
  rw [scanned]
  rfl

/-- The item before the bracket is the last one. -/
theorem scanItems_last {item : Json} (scanned : scanValue bound s = some (item, ']' :: rest)) :
    scanItems (bound + 1) s = some ([item], rest) := by
  rw [scanItems, scanned]
  rfl

/-- After a comma there are more items. -/
theorem scanItems_more {item : Json} {later : List Char} {items : List Json}
    (scanned : scanValue bound s = some (item, ',' :: later))
    (scannedLater : scanItems bound later = some (items, rest)) :
    scanItems (bound + 1) s = some (item :: items, rest) := by
  rw [scanItems, scanned]
  show (scanItems bound later).map _ = _
  rw [scannedLater]
  rfl

variable {key : Option String} {value : Json} {afterKey : List Char}

/-- The member before the brace is the last one. -/
theorem scanMembers_last (scannedKey : scanString s = some (key, ':' :: afterKey))
    (scanned : scanValue bound afterKey = some (value, '\x7d' :: rest)) :
    scanMembers (bound + 1) ('"' :: s) = some ([(key, value)], rest) := by
  simp [scanMembers, skipBlanks_cons, isBlank, scannedKey, scanned]

/-- After a comma there are more members. -/
theorem scanMembers_more {later : List Char} {members : List (Option String × Json)}
    (scannedKey : scanString s = some (key, ':' :: afterKey))
    (scanned : scanValue bound afterKey = some (value, ',' :: later))
    (scannedLater : scanMembers bound later = some (members, rest)) :
    scanMembers (bound + 1) ('"' :: s) = some ((key, value) :: members, rest) := by
  simp [scanMembers, skipBlanks_cons, isBlank, scannedKey, scanned, scannedLater]

end

/-! ## Whole values -/

/-- A number ends before a character that cannot belong to it. -/
theorem endsNumber_cons {c : Char} {rest : List Char} (other : ¬StartsNumber c)
    (ends : c ≠ '.' ∧ c ≠ 'e' ∧ c ≠ 'E') : EndsNumber (c :: rest) := by
  rintro _ ⟨⟩
  exact ⟨Bool.eq_false_iff.mpr fun isDigit => other (.inr isDigit), ends⟩

mutual

/-- A value is read back from the front of a text. -/
theorem scanValue_renderChars : ∀ (value : Json) {bound : Nat} {rest : List Char},
    value.renderChars.length ≤ bound → EndsNumber rest →
    scanValue bound (value.renderChars ++ rest) = some (value, rest)
  | value, 0, _, enough, _ => by
    obtain ⟨first, more, text, -⟩ := exists_renderChars value
    rw [text] at enough
    cases enough
  | .null, bound + 1, _, _, _ => by
    rw [renderChars]
    rfl
  | .bool true, bound + 1, _, _, _ => by
    rw [renderChars]
    rfl
  | .bool false, bound + 1, _, _, _ => by
    rw [renderChars]
    rfl
  | .number value, bound + 1, rest, _, ends => by
    obtain ⟨first, more, text, starts⟩ := exists_render value
    have scanned := scanNumber_render value ends
    rw [renderChars]
    rw [text] at scanned ⊢
    exact scanValue_number starts scanned
  | .string text, bound + 1, rest, _, _ => by
    obtain ⟨written, literal, scanned⟩ := scanString_renderString text rest
    rw [renderChars, literal]
    exact scanValue_string scanned
  | .array [], bound + 1, _, _, _ => by
    rw [renderChars, renderItems]
    exact scanValue_emptyArray
  | .array (item :: items), bound + 1, rest, enough, _ => by
    obtain ⟨first, more, text, starts⟩ := exists_renderItems item items
    rw [renderChars, List.length_cons, List.length_append, List.length_singleton] at enough
    have scanned : scanItems bound (renderItems (item :: items) ++ ']' :: rest) =
        some (item :: items, rest) := scanItems_renderItems item items (by omega)
    rw [renderChars, List.cons_append, List.append_assoc, List.singleton_append]
    rw [text] at scanned ⊢
    exact scanValue_array starts scanned
  | .object [], bound + 1, _, _, _ => by
    rw [renderChars, renderMembers]
    exact scanValue_emptyObject
  | .object ((key, value) :: members), bound + 1, rest, enough, _ => by
    rw [renderChars, List.length_cons, List.length_append, List.length_singleton] at enough
    have scanned : scanMembers bound (renderMembers ((key, value) :: members) ++ '\x7d' :: rest) =
        some ((key, value) :: members, rest) :=
      scanMembers_renderMembers key value members (by omega)
    obtain ⟨more, text⟩ := exists_renderMembers key value members
    rw [renderChars, List.cons_append, List.append_assoc, List.singleton_append]
    rw [text] at scanned ⊢
    exact scanValue_object scanned

/-- The items of an array are read back up to its closing bracket. -/
theorem scanItems_renderItems : ∀ (item : Json) (items : List Json) {bound : Nat}
    {rest : List Char},
    (renderItems (item :: items)).length < bound →
    scanItems bound (renderItems (item :: items) ++ ']' :: rest) = some (item :: items, rest)
  | item, [], bound + 1, rest, enough => by
    rw [renderItems] at enough ⊢
    apply scanItems_last
    exact scanValue_renderChars item (by omega) (endsNumber_cons (by decide) (by decide))
  | item, next :: items, bound + 1, rest, enough => by
    rw [renderItems, List.length_append, List.length_cons] at enough
    rw [renderItems, List.append_assoc, List.cons_append]
    apply scanItems_more
    case scanned =>
      exact scanValue_renderChars item (by omega) (endsNumber_cons (by decide) (by decide))
    case scannedLater => exact scanItems_renderItems next items (by omega)

/-- The members of an object are read back up to its closing brace. -/
theorem scanMembers_renderMembers : ∀ (key : Option String) (value : Json)
    (members : List (Option String × Json)) {bound : Nat} {rest : List Char},
    (renderMembers ((key, value) :: members)).length < bound →
    scanMembers bound (renderMembers ((key, value) :: members) ++ '\x7d' :: rest) =
      some ((key, value) :: members, rest)
  | key, value, [], bound + 1, rest, enough => by
    obtain ⟨written, literal, scannedKey⟩ :=
      scanString_renderString key (':' :: (value.renderChars ++ '\x7d' :: rest))
    rw [renderMembers, List.length_append, List.length_cons] at enough
    rw [renderMembers, literal, List.append_assoc, List.cons_append, List.cons_append]
    apply scanMembers_last scannedKey
    exact scanValue_renderChars value (by omega) (endsNumber_cons (by decide) (by decide))
  | key, value, (nextKey, next) :: members, bound + 1, rest, enough => by
    obtain ⟨written, literal, scannedKey⟩ := scanString_renderString key
      (':' :: (value.renderChars ++ ',' :: (renderMembers ((nextKey, next) :: members) ++
        '\x7d' :: rest)))
    rw [renderMembers, List.length_append, List.length_cons, List.length_append,
      List.length_cons] at enough
    rw [renderMembers, literal]
    simp only [List.append_assoc, List.cons_append]
    apply scanMembers_more scannedKey
    case scanned =>
      exact scanValue_renderChars value (by omega) (endsNumber_cons (by decide) (by decide))
    case scannedLater => exact scanMembers_renderMembers nextKey next members (by omega)

end

/-- The written text of a value is read as this value. -/
theorem parse?_render (value : Json) : parse? value.render = some value := by
  have scanned : scanValue (2 * value.renderChars.length + 2) (value.renderChars ++ []) =
      some (value, []) := scanValue_renderChars value (by omega) nofun
  rw [List.append_nil] at scanned
  rw [render, parse?, String.toList_ofList, parseChars?, scanFront, scanned]
  rfl

/-- Two values with the same text are the same. -/
theorem render_injective : Function.Injective render := fun first second same =>
  Option.some.inj ((parse?_render first).symm.trans ((congrArg parse? same).trans
    (parse?_render second)))

end Json

end VoxelStream
