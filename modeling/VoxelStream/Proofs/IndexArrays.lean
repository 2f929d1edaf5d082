import VoxelStream.MissingList
import VoxelStream.Proofs.JsonNumerals

/-!
# Arrays of indices

`Lists` is the grammar of arrays of natural numbers in decimal notation, with blanks around every
token.  The reader of headers accepts the arrays whose numbers all have 64 bits and nothing else
(`parse?_eq_some_iff`).  The reader of JSON reads a text as an array of natural numbers exactly if
the text lists them (`lists_iff_parseChars?`).  So there is one grammar behind the two readers.

Both stop at the closing bracket, and both count down from a bound that the length of the text makes
large enough.  What is listed is read by induction over the grammar (`scanIndices_of_items`,
`scanItems_of_items`), and what is read is listed by induction over the bound
(`items_of_scanIndices`, `items_of_scanItems`).
-/

namespace VoxelStream

namespace MissingList

open Json (Blanks EndsDigits skipBlanks)

/-! ## The grammar -/

/-- A numeral, digits without a superfluous zero, with blanks around it. -/
inductive Item : List Char → Nat → Prop
  | padded {before after : List Char} {index : Nat} :
      Blanks before → Blanks after → Item (before ++ ((toString index).toList ++ after)) index

/-- Numerals with commas between them, at least one. -/
inductive Items : List Char → List Nat → Prop
  | last {s : List Char} {index : Nat} : Item s index → Items s [index]
  | more {s later : List Char} {index : Nat} {indices : List Nat} :
      Item s index → Items later indices → Items (s ++ ',' :: later) (index :: indices)

/-- An array of numerals, with blanks around it. -/
inductive Lists : List Char → List Nat → Prop
  | empty {before inside after : List Char} :
      Blanks before → Blanks inside → Blanks after →
      Lists (before ++ '[' :: (inside ++ ']' :: after)) []
  | items {before inside after : List Char} {indices : List Nat} :
      Blanks before → Items inside indices → Blanks after →
      Lists (before ++ '[' :: (inside ++ ']' :: after)) indices

/-- Every index is a 64-bit number. -/
def Fit (indices : List Nat) : Prop := ∀ index ∈ indices, index < UInt64.size

instance (indices : List Nat) : Decidable (Fit indices) :=
  List.decidableBAll (· < UInt64.size) indices

section

variable {s inside rest : List Char} {index bound : Nat} {indices : List Nat}

theorem fit_nil : Fit [] := List.forall_mem_nil _

theorem fit_cons : Fit (index :: indices) ↔ index < UInt64.size ∧ Fit indices :=
  List.forall_mem_cons

theorem item_numeral (index : Nat) : Item (toString index).toList index := by
  have item := @Item.padded [] [] index Json.blanks_nil Json.blanks_nil
  rwa [List.append_nil] at item

/-- Blanks in front of an item belong to it. -/
theorem Item.behind {front : List Char} (blanks : Blanks front) :
    Item s index → Item (front ++ s) index
  | .padded before after => by
    rw [← List.append_assoc]
    exact .padded (Json.blanks_append.mpr ⟨blanks, before⟩) after

/-- Blanks before a list of items belong to its first item. -/
theorem Items.behind {front : List Char} (blanks : Blanks front) :
    Items s indices → Items (front ++ s) indices
  | .last item => .last (item.behind blanks)
  | .more item later => by
    rw [← List.append_assoc]
    exact .more (item.behind blanks) later

/-- Behind the blanks in front of an item there is a digit. -/
theorem Item.trim : Item s index →
    ∃ front first others, Blanks front ∧ s = front ++ first :: others ∧ first.isDigit = true ∧
      Item (first :: others) index
  | @Item.padded before after index blank blankAfter => by
    obtain ⟨first, others, digits, isDigit⟩ := Json.exists_toDigits index
    have trimmed := @Item.padded [] after index Json.blanks_nil blankAfter
    rw [Json.toList_toString, digits] at trimmed ⊢
    exact ⟨before, first, others ++ after, blank, rfl, isDigit, trimmed⟩

/-- The first item of a list begins with a digit after its blanks. -/
theorem Items.trim : Items s indices →
    ∃ front first others, Blanks front ∧ s = front ++ first :: others ∧ first.isDigit = true ∧
      Items (first :: others) indices
  | .last item => by
    obtain ⟨front, first, others, blank, rfl, isDigit, trimmed⟩ := item.trim
    exact ⟨front, first, others, blank, rfl, isDigit, .last trimmed⟩
  | @Items.more _ later _ _ item items => by
    obtain ⟨front, first, others, blank, rfl, isDigit, trimmed⟩ := item.trim
    refine ⟨front, first, others ++ ',' :: later, blank, ?_, isDigit, .more trimmed items⟩
    rw [List.append_assoc, List.cons_append]

/-- What has a numeral behind its blanks starts with an item, which takes the blanks behind it. -/
theorem exists_item (numeral : skipBlanks s = (toString index).toList ++ rest) :
    ∃ item, Item item index ∧ s = item ++ skipBlanks rest := by
  obtain ⟨before, blank, text⟩ := Json.exists_skipBlanks s
  obtain ⟨after, blankAfter, textAfter⟩ := Json.exists_skipBlanks rest
  refine ⟨_, .padded blank blankAfter, ?_⟩
  rw [List.append_assoc, List.append_assoc, ← textAfter, ← numeral, ← text]

/-- An array, token by token. -/
theorem lists_of_closed {later : List Char} (opened : skipBlanks s = '[' :: later)
    (closed : skipBlanks later = ']' :: rest) (blankAfter : Blanks rest) : Lists s [] := by
  obtain ⟨before, blank, text⟩ := Json.exists_skipBlanks s
  obtain ⟨inside, blankInside, textInside⟩ := Json.exists_skipBlanks later
  rw [text, opened, textInside, closed]
  exact .empty blank blankInside blankAfter

/-- A bracket, items, a bracket and blanks are an array of these items. -/
theorem lists_of_items {later : List Char} (opened : skipBlanks s = '[' :: later)
    (items : Items inside indices) (closed : skipBlanks later = inside ++ ']' :: rest)
    (blankAfter : Blanks rest) : Lists s indices := by
  obtain ⟨before, blank, text⟩ := Json.exists_skipBlanks s
  obtain ⟨front, blankFront, textInside⟩ := Json.exists_skipBlanks later
  rw [text, opened, textInside, closed, ← List.append_assoc]
  exact .items blank (items.behind blankFront) blankAfter

/-! ## What is listed is read -/

/-- A comma or a closing bracket ends an item. -/
theorem endsNumber_token {c : Char} (token : c ∈ [',', ']']) (rest : List Char) :
    Json.EndsNumber (c :: rest) := by
  have all : ∀ c ∈ [',', ']'], ¬Json.StartsNumber c ∧ c ≠ '.' ∧ c ≠ 'e' ∧ c ≠ 'E' :=
    Json.forall_mem_of_all (by decide)
  exact Json.endsNumber_cons (all c token).1 (all c token).2

theorem skipBlanks_token {after : List Char} (blanks : Blanks after) {c : Char}
    (token : c ∈ [',', ']']) (rest : List Char) : skipBlanks (after ++ c :: rest) = c :: rest := by
  have all : ∀ c ∈ [',', ']'], Json.isBlank c = false := Json.forall_mem_of_all (by decide)
  exact Json.skipBlanks_append_cons blanks (all c token)

/-- An item is read up to the token that ends it. -/
theorem scanIndex_item (item : Item s index) {c : Char} (token : c ∈ [',', ']'])
    (rest : List Char) :
    ∃ after, skipBlanks after = c :: rest ∧
      scanIndex (skipBlanks (s ++ c :: rest)) =
        if index < UInt64.size then some (index, after) else none := by
  obtain @⟨before, after, _, blank, blankAfter⟩ := item
  refine ⟨after ++ c :: rest, skipBlanks_token blankAfter token rest, ?_⟩
  have ends : EndsDigits (after ++ c :: rest) :=
    ((endsNumber_token token rest).behind blankAfter).endsDigits
  have scanned := Json.scanNatural_toDigits index ends
  have value := Json.value_toDigits index
  obtain ⟨first, others, digits, isDigit⟩ := Json.exists_toDigits index
  rw [digits] at scanned value
  rw [List.append_assoc, List.append_assoc, Json.toList_toString, digits, List.cons_append,
    Json.skipBlanks_append_cons blank (Json.isBlank_of_isDigit isDigit), ← List.cons_append,
    scanIndex, scanned]
  dsimp only
  rw [value]

/-- The item before the bracket is the last one, and it is taken if it fits. -/
theorem scanIndices_last (item : Item s index) (rest : List Char) :
    scanIndices (bound + 1) (s ++ ']' :: rest) =
      if index < UInt64.size then some ([index], rest) else none := by
  obtain ⟨after, skipped, scanned⟩ := scanIndex_item item (.tail _ (.head _)) rest
  rw [scanIndices, scanned]
  by_cases fits : index < UInt64.size
  · rw [if_pos fits, if_pos fits]
    dsimp only
    rw [skipped]
    rfl
  · rw [if_neg fits, if_neg fits]

/-- After a comma the reader goes on, if the item before it fits. -/
theorem scanIndices_more (item : Item s index) (later : List Char) :
    scanIndices (bound + 1) (s ++ ',' :: later) =
      if index < UInt64.size then
        (scanIndices bound later).map fun (indices, rest) => (index :: indices, rest)
      else none := by
  obtain ⟨after, skipped, scanned⟩ := scanIndex_item item (.head _) later
  rw [scanIndices, scanned]
  by_cases fits : index < UInt64.size
  · rw [if_pos fits, if_pos fits]
    dsimp only
    rw [skipped]
    rfl
  · rw [if_neg fits, if_neg fits]

/-- Numerals are read up to the closing bracket, unless one is too large. -/
theorem scanIndices_of_items (rest : List Char) (items : Items inside indices) :
    ∀ {bound : Nat}, inside.length < bound →
      scanIndices bound (inside ++ ']' :: rest) =
        if Fit indices then some (indices, rest) else none := by
  induction items with
  | last item =>
    rintro (_ | bound) enough
    · cases enough
    · rw [scanIndices_last item]
      simp only [fit_cons, fit_nil, and_true]
  | @more s later index indices item _ ih =>
    rintro (_ | bound) enough
    · cases enough
    · rw [List.length_append, List.length_cons] at enough
      rw [List.append_assoc, List.cons_append, scanIndices_more item, ih (by omega)]
      by_cases fits : index < UInt64.size
      · by_cases fit : Fit indices
        · rw [if_pos fits, if_pos fit, if_pos (fit_cons.mpr ⟨fits, fit⟩)]
          rfl
        · rw [if_pos fits, if_neg fit, if_neg fun all => fit (fit_cons.mp all).2]
          rfl
      · rw [if_neg fits, if_neg fun all => fits (fit_cons.mp all).1]

/-- Only blanks are left behind an array. -/
theorem scanArray_of_lists (lists : Lists s indices) :
    ∃ after, Blanks after ∧
      scanArray s = if Fit indices then some (indices, after) else none := by
  cases lists with
  | @empty before inside after blank blankInside blankAfter =>
    refine ⟨after, blankAfter, ?_⟩
    rw [scanArray, Json.skipBlanks_append_cons blank (by decide), if_pos fit_nil]
    simp only
    rw [Json.skipBlanks_append_cons blankInside (by decide)]
    rfl
  | @items before inside after _ blank items blankAfter =>
    refine ⟨after, blankAfter, ?_⟩
    obtain ⟨front, first, others, blankFront, rfl, isDigit, trimmed⟩ := items.trim
    have notClosed : first ≠ ']' := by
      rintro rfl
      cases isDigit
    have enough : (first :: others).length < (first :: (others ++ ']' :: after)).length := by
      simp
    rw [scanArray, Json.skipBlanks_append_cons blank (by decide)]
    simp only
    rw [List.append_assoc, List.cons_append,
      Json.skipBlanks_append_cons blankFront (Json.isBlank_of_isDigit isDigit)]
    split
    next closed =>
      cases closed
      exact absurd rfl notClosed
    · exact scanIndices_of_items after trimmed enough

/-- An array is read if all of its numbers fit. -/
theorem parse?_of_lists (lists : Lists s indices) :
    parse? s = if Fit indices then some indices else none := by
  obtain ⟨after, blankAfter, scanned⟩ := scanArray_of_lists lists
  rw [parse?, scanned]
  by_cases fit : Fit indices
  · rw [if_pos fit, if_pos fit]
    dsimp only
    rw [Json.skipBlanks_eq_nil_iff.mpr blankAfter]
    rfl
  · rw [if_neg fit, if_neg fit]

/-! ## What is read is listed -/

/-- A number that is read was written with its own digits. -/
theorem numeral_of_scanIndex (reads : scanIndex s = some (index, rest)) :
    s = (toString index).toList ++ rest ∧ index < UInt64.size := by
  rw [scanIndex] at reads
  split at reads
  next digits later found =>
    split at reads
    next fits =>
      cases reads
      rw [Json.toList_toString]
      exact ⟨Json.toDigits_of_scanNatural found, fits⟩
    · cases reads
  · cases reads

/-- Numbers that are read were written as items. -/
theorem items_of_scanIndices (reads : scanIndices bound s = some (indices, rest)) :
    Fit indices ∧ ∃ inside, Items inside indices ∧ s = inside ++ ']' :: rest := by
  induction bound generalizing s indices with
  | zero => cases reads
  | succ bound ih =>
    rw [scanIndices] at reads
    split at reads
    · cases reads
    next index after found =>
      obtain ⟨numeral, fits⟩ := numeral_of_scanIndex found
      obtain ⟨first, item, text⟩ := exists_item numeral
      split at reads
      next later skipped =>
        obtain ⟨⟨others, _⟩, readsLater, same⟩ := Option.map_eq_some_iff.mp reads
        cases same
        obtain ⟨fit, inside, items, rfl⟩ := ih readsLater
        refine ⟨fit_cons.mpr ⟨fits, fit⟩, _, .more item items, ?_⟩
        rw [text, skipped, List.append_assoc, List.cons_append]
      next later skipped =>
        cases reads
        refine ⟨fit_cons.mpr ⟨fits, fit_nil⟩, _, .last item, ?_⟩
        rw [text, skipped]
      · cases reads

theorem lists_of_scanArray (reads : scanArray s = some (indices, rest)) (blank : Blanks rest) :
    Lists s indices ∧ Fit indices := by
  rw [scanArray] at reads
  split at reads
  next later opened =>
    split at reads
    next closed =>
      cases reads
      exact ⟨lists_of_closed opened closed blank, fit_nil⟩
    · obtain ⟨fit, inside, items, closed⟩ := items_of_scanIndices reads
      exact ⟨lists_of_items opened items closed blank, fit⟩
  · cases reads

/-- A text that is read is an array whose numbers fit. -/
theorem lists_of_parse? (reads : parse? s = some indices) : Lists s indices ∧ Fit indices := by
  rw [parse?] at reads
  split at reads
  next scanned =>
    split at reads
    next ends =>
      cases reads
      exact lists_of_scanArray scanned (Json.skipBlanks_eq_nil_iff.mp (List.isEmpty_iff.mp ends))
    · cases reads
  · cases reads

/-- The reader accepts the arrays of 64-bit indices and nothing else. -/
theorem parse?_eq_some_iff : parse? s = some indices ↔ Lists s indices ∧ Fit indices := by
  refine ⟨lists_of_parse?, ?_⟩
  rintro ⟨lists, fit⟩
  rw [parse?_of_lists lists, if_pos fit]

theorem parse?_eq_none (noArray : ∀ indices, ¬Lists s indices) : parse? s = none :=
  Option.eq_none_iff_forall_ne_some.mpr fun _ reads =>
    noArray _ (parse?_eq_some_iff.mp reads).1

/-! ## Rendered lists -/

theorem items_render (index : Nat) (indices : List Nat) :
    Items (Json.renderItems ((index :: indices).map Json.nat)) (index :: indices) := by
  induction indices generalizing index with
  | nil => exact .last (item_numeral index)
  | cons next indices ih => exact .more (item_numeral index) (ih next)

/-- Headers that a store writes are arrays. -/
theorem lists_render (indices : List Nat) : Lists (render indices) indices := by
  cases indices with
  | nil => exact @Lists.empty [] [] [] Json.blanks_nil Json.blanks_nil Json.blanks_nil
  | cons index indices =>
    exact @Lists.items [] _ [] _ Json.blanks_nil (items_render index indices) Json.blanks_nil

/-! ## The values of arrays -/

/-- As a JSON value, an item is the number of its index. -/
theorem scanValue_item (item : Item s index) {c : Char} (token : c ∈ [',', ']'])
    (rest : List Char) :
    ∃ after, skipBlanks after = c :: rest ∧
      Json.scanValue (bound + 1) (s ++ c :: rest) = some (Json.nat index, after) := by
  obtain @⟨before, after, _, blank, blankAfter⟩ := item
  refine ⟨after ++ c :: rest, skipBlanks_token blankAfter token rest, ?_⟩
  have scanned := Json.scanNumber_render (.integer false index)
    ((endsNumber_token token rest).behind blankAfter)
  rw [List.append_assoc, List.append_assoc, Json.scanValue_append blank]
  change Json.scanNumber ((toString index).toList ++ (after ++ c :: rest)) = _ at scanned
  obtain ⟨first, others, digits, isDigit⟩ := Json.exists_toDigits index
  rw [Json.toList_toString, digits] at scanned ⊢
  exact Json.scanValue_number (.inr isDigit) scanned

theorem Item.length_pos (item : Item s index) : 0 < s.length := by
  obtain ⟨front, first, others, -, rfl, -⟩ := item.trim
  rw [List.length_append, List.length_cons]
  omega

/-- The reader of whole values reads the items of an array alike. -/
theorem scanItems_of_items (rest : List Char) (items : Items inside indices) :
    ∀ {bound : Nat}, inside.length < bound →
      Json.scanItems bound (inside ++ ']' :: rest) = some (indices.map Json.nat, rest) := by
  induction items with
  | last item =>
    intro bound enough
    have positive := item.length_pos
    obtain ⟨bound, rfl⟩ : ∃ less, bound = less + 2 := ⟨bound - 2, by omega⟩
    obtain ⟨after, skipped, scanned⟩ := scanValue_item item (.tail _ (.head _)) rest
    rw [Json.scanItems, scanned]
    dsimp only
    rw [skipped]
    rfl
  | @more s later index indices item _ ih =>
    intro bound enough
    have positive := item.length_pos
    rw [List.length_append, List.length_cons] at enough
    obtain ⟨bound, rfl⟩ : ∃ less, bound = less + 2 := ⟨bound - 2, by omega⟩
    obtain ⟨after, skipped, scanned⟩ := scanValue_item item (.head _) (later ++ ']' :: rest)
    rw [List.append_assoc, List.cons_append, Json.scanItems, scanned]
    dsimp only
    rw [skipped]
    show (Json.scanItems (bound + 1) (later ++ ']' :: rest)).map _ = _
    rw [ih (by omega)]
    rfl

/-- What it reads as plain numbers was written as items. -/
theorem items_of_scanItems
    (reads : Json.scanItems bound s = some (indices.map Json.nat, rest)) :
    ∃ inside, Items inside indices ∧ s = inside ++ ']' :: rest := by
  induction bound generalizing s indices with
  | zero => cases reads
  | succ bound ih =>
    rw [Json.scanItems] at reads
    split at reads
    · cases reads
    next value after found =>
      split at reads
      next later skipped =>
        obtain ⟨⟨others, _⟩, readsLater, same⟩ := Option.map_eq_some_iff.mp reads
        cases indices with
        | nil => cases same
        | cons index indices =>
          cases same
          obtain ⟨first, item, text⟩ := exists_item (Json.natural_of_scanValue found)
          obtain ⟨inside, items, rfl⟩ := ih readsLater
          refine ⟨_, .more item items, ?_⟩
          rw [text, skipped, List.append_assoc, List.cons_append]
      next later skipped =>
        cases indices with
        | nil => cases reads
        | cons index indices =>
          cases indices with
          | cons _ _ => cases reads
          | nil =>
            cases reads
            obtain ⟨first, item, text⟩ := exists_item (Json.natural_of_scanValue found)
            refine ⟨_, .last item, ?_⟩
            rw [text, skipped]
      · cases reads

theorem lists_of_scanValue
    (reads : Json.scanValue bound s = some (.array (indices.map Json.nat), rest))
    (blank : Blanks rest) : Lists s indices := by
  cases bound with
  | zero => cases reads
  | succ bound =>
    generalize same : Json.array (indices.map Json.nat) = value at reads
    cases Json.readFrom_of_scanValue reads with
    | emptyArray opened closed =>
      obtain rfl : indices = [] := by simpa using same
      exact lists_of_closed opened closed blank
    | array opened scanned =>
      cases same
      obtain ⟨inside, items, closed⟩ := items_of_scanItems scanned
      exact lists_of_items opened items closed blank
    | null | bool | string | object | number => cases same

/-- At the front of a header, the reader of whole values finds the array. -/
theorem scanFront_of_lists (lists : Lists s indices) :
    ∃ after, Blanks after ∧ Json.scanFront s = some (.array (indices.map Json.nat), after) := by
  cases lists with
  | @empty before inside after blank blankInside blankAfter =>
    refine ⟨after, blankAfter, ?_⟩
    rw [Json.scanFront, Json.scanValue_append blank, Json.scanValue_bracket blankInside]
    exact Json.scanValue_emptyArray
  | @items before inside after _ blank items blankAfter =>
    refine ⟨after, blankAfter, ?_⟩
    obtain ⟨front, first, others, blankFront, rfl, isDigit, trimmed⟩ := items.trim
    rw [Json.scanFront, Json.scanValue_append blank, List.append_assoc,
      Json.scanValue_bracket blankFront]
    have starts : Json.StartsValue first := Json.StartsNumber.startsValue (.inr isDigit)
    apply Json.scanValue_array starts
    apply scanItems_of_items after trimmed
    simp only [List.length_append, List.length_cons]
    omega

/-- The texts that list some numbers are those of the array of these numbers. -/
theorem lists_iff_parseChars? :
    Lists s indices ↔ Json.parseChars? s = some (.array (indices.map Json.nat)) := by
  constructor
  · intro lists
    obtain ⟨after, blankAfter, scanned⟩ := scanFront_of_lists lists
    rw [Json.parseChars?, scanned]
    dsimp only
    rw [Json.skipBlanks_eq_nil_iff.mpr blankAfter]
    rfl
  · intro reads
    rw [Json.parseChars?] at reads
    split at reads
    next scanned =>
      split at reads
      next ends =>
        cases reads
        exact lists_of_scanValue scanned
          (Json.skipBlanks_eq_nil_iff.mp (List.isEmpty_iff.mp ends))
      · cases reads
    · cases reads

end

end MissingList

end VoxelStream
