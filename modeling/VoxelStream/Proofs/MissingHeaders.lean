import VoxelStream.Proofs.IndexArrays
import Mathlib.Data.List.Basic

/-!
# Headers of missing buckets

A header is read as a whole or not at all (`ofHeader_whole`).  If it lists indices of 64 bits, these
are what is missing, and every other header counts for nothing.

`Spoilt` collects the ways in which a text falls short of an array.  They are refused since every
array has one pair of brackets, only blanks around it, and a numeral behind every comma
(`Lists.shape`, `Lists.closing`).  A numeral that is too large does not spoil an array, but no index
of such an array is read.
-/

namespace VoxelStream

namespace MissingList

open Json (Blanks)

section

variable {s inside : List Char} {index : Nat} {indices : List Nat}

/-! ## Refused texts -/

/-- Ways in which a text falls short of an array of numerals. -/
inductive Spoilt : List Char → Prop
  /-- Something other than blanks behind an array. -/
  | trailing {text tail : List Char} {indices : List Nat} :
      Lists text indices → ¬Blanks tail → Spoilt (text ++ tail)
  /-- Nothing between a comma and a closing bracket. -/
  | comma {front inside after : List Char} :
      Blanks inside → Spoilt (front ++ ',' :: (inside ++ ']' :: after))
  /-- A sign, a point, a letter, a quote or any other character that no array has. -/
  | foreign {text : List Char} {c : Char} :
      c ∈ text → c.isDigit = false → c ∉ [' ', '\t', '\n', '\r', '[', ',', ']'] → Spoilt text
  /-- An array inside of another. -/
  | nested {text : List Char} : 2 ≤ text.count '[' → Spoilt text
  /-- No end. -/
  | truncated {text : List Char} : ']' ∉ text → Spoilt text

/-- The characters between the brackets of an array. -/
def IsInner (c : Char) : Prop := c.isDigit = true ∨ c ∈ [' ', '\t', '\n', '\r', ',']

instance (c : Char) : Decidable (IsInner c) := inferInstanceAs (Decidable (_ ∨ _))

/-- Blanks may stand inside the brackets and are no comma. -/
theorem isInner_of_blanks (blanks : Blanks s) {c : Char} (member : c ∈ s) :
    IsInner c ∧ c ≠ ',' := by
  have all : ∀ c ∈ [' ', '\t', '\n', '\r'], c ∈ [' ', '\t', '\n', '\r', ','] ∧ c ≠ ',' :=
    Json.forall_mem_of_all (by decide)
  obtain ⟨inner, noComma⟩ := all c (blanks c member)
  exact ⟨.inr inner, noComma⟩

theorem Item.isInner {c : Char} : Item s index → c ∈ s → IsInner c ∧ c ≠ ','
  | .padded blank blankAfter, member => by
    rw [List.mem_append, List.mem_append, Json.toList_toString] at member
    rcases member with member | member | member
    · exact isInner_of_blanks blank member
    · have isDigit := Json.isDigit_of_mem_toDigits c member
      refine ⟨.inl isDigit, ?_⟩
      rintro rfl
      cases isDigit
    · exact isInner_of_blanks blankAfter member

/-- Items are made of digits, blanks and commas. -/
theorem Items.isInner (items : Items inside indices) {c : Char} (member : c ∈ inside) :
    IsInner c := by
  induction items with
  | last item => exact (item.isInner member).1
  | more item _ ih =>
    rcases List.mem_append.mp member with member | member
    · exact (item.isInner member).1
    · rcases List.mem_cons.mp member with rfl | member
      · exact .inr (by decide)
      · exact ih member

/-- Items are more than blanks. -/
theorem Items.not_blanks (items : Items inside indices) : ¬Blanks inside := by
  obtain ⟨front, first, others, -, rfl, isDigit, -⟩ := items.trim
  intro blanks
  have blank := blanks first (List.mem_append_right _ List.mem_cons_self)
  rw [← Json.isBlank_iff, Json.isBlank_of_isDigit isDigit] at blank
  cases blank

/-- A character that is not in the first of two parts is in the second. -/
theorem exists_of_notMem {first second front later : List Char} {c : Char} (absent : c ∉ first)
    (parts : first ++ second = front ++ c :: later) : ∃ more, second = more ++ c :: later := by
  rcases List.append_eq_append_iff.mp parts with ⟨more, -, same⟩ | ⟨more, rfl, same⟩
  · exact ⟨more, same⟩
  · rcases List.cons_eq_append_iff.mp same with ⟨-, same⟩ | ⟨_, rfl, -⟩
    · exact ⟨[], same⟩
    · exact absurd (List.mem_append_right _ List.mem_cons_self) absent

/-- Behind every comma there is more than blanks. -/
theorem Items.behind_comma (items : Items inside indices) {front later : List Char}
    (parts : inside = front ++ ',' :: later) : ¬Blanks later := by
  induction items generalizing front with
  | last item =>
    subst parts
    exact absurd rfl (item.isInner (List.mem_append_right _ List.mem_cons_self)).2
  | more item items ih =>
    obtain ⟨more, same⟩ := exists_of_notMem (fun member => (item.isInner member).2 rfl) parts
    rcases List.cons_eq_append_iff.mp same with ⟨-, same⟩ | ⟨more, -, same⟩
    · cases same
      exact items.not_blanks
    · exact ih same

theorem notMem_of_blanks (blanks : Blanks s) {c : Char} (token : c ∈ ['[', ',', ']']) : c ∉ s := by
  have all : ∀ c ∈ ['[', ',', ']'], c ∉ [' ', '\t', '\n', '\r'] :=
    Json.forall_mem_of_all (by decide)
  exact fun member => all c token (blanks c member)

/-- What is between the brackets of an array, whatever it lists. -/
theorem Lists.shape (lists : Lists s indices) :
    ∃ before inside after, s = (before ++ '[' :: inside) ++ ']' :: after ∧ Blanks before ∧
      Blanks after ∧ (∀ c ∈ inside, IsInner c) ∧
      ∀ front later, inside = front ++ ',' :: later → ¬Blanks later := by
  cases lists with
  | @empty before inside after blank blankInside blankAfter =>
    refine ⟨before, inside, after, ?_, blank, blankAfter,
      fun c member => (isInner_of_blanks blankInside member).1, ?_⟩
    · rw [List.append_assoc, List.cons_append]
    · rintro front later rfl
      exact absurd (List.mem_append_right _ List.mem_cons_self)
        (notMem_of_blanks blankInside (by decide))
  | @items before inside after _ blank items blankAfter =>
    refine ⟨before, inside, after, ?_, blank, blankAfter, fun c => items.isInner,
      fun _ _ => items.behind_comma⟩
    rw [List.append_assoc, List.cons_append]

/-- There is one closing bracket.  Only blanks are behind it, and a comma before it has more than
blanks behind it. -/
theorem Lists.closing (lists : Lists s indices) {front after : List Char}
    (parts : s = front ++ ']' :: after) :
    Blanks after ∧ ∀ earlier later, front = earlier ++ ',' :: later → ¬Blanks later := by
  obtain ⟨before, inside, behind, text, blank, blankBehind, inner, behindComma⟩ := lists.shape
  have noneBefore : ']' ∉ before ++ '[' :: inside := by
    intro member
    rcases List.mem_append.mp member with member | member
    · exact notMem_of_blanks blank (by decide) member
    · rcases List.mem_cons.mp member with same | member
      · cases same
      · exact absurd (inner _ member) (by decide)
  obtain ⟨rfl, -, rfl⟩ := (List.append_cons_inj_of_notMem noneBefore
    (notMem_of_blanks blankBehind (by decide))).mp (text.symm.trans parts)
  refine ⟨blankBehind, fun earlier later same => ?_⟩
  obtain ⟨more, rest⟩ := exists_of_notMem (notMem_of_blanks blank (by decide)) same
  rcases List.cons_eq_append_iff.mp rest with ⟨-, rest⟩ | ⟨more, -, rest⟩
  · cases rest
  · exact behindComma more later rest

theorem Lists.mem_alphabet (lists : Lists s indices) {c : Char} (member : c ∈ s) :
    c.isDigit = true ∨ c ∈ [' ', '\t', '\n', '\r', '[', ',', ']'] := by
  obtain ⟨before, inside, after, rfl, blank, blankAfter, inner, -⟩ := lists.shape
  have ofInner : ∀ c ∈ [' ', '\t', '\n', '\r', ','], c ∈ [' ', '\t', '\n', '\r', '[', ',', ']'] :=
    Json.forall_mem_of_all (by decide)
  rcases List.mem_append.mp member with member | member
  · rcases List.mem_append.mp member with member | member
    · exact .inr (List.mem_append_left ['[', ',', ']'] (blank c member))
    · rcases List.mem_cons.mp member with rfl | member
      · exact .inr (by decide)
      · exact (inner c member).imp_right (ofInner c)
  · rcases List.mem_cons.mp member with rfl | member
    · exact .inr (by decide)
    · exact .inr (List.mem_append_left ['[', ',', ']'] (blankAfter c member))

/-- An array opens once. -/
theorem Lists.count_open (lists : Lists s indices) : s.count '[' = 1 := by
  obtain ⟨before, inside, after, rfl, blank, blankAfter, inner, -⟩ := lists.shape
  have noneInside : '[' ∉ inside := fun member => absurd (inner _ member) (by decide)
  rw [List.count_append, List.count_append, List.count_cons_self, List.count_cons_of_ne (by decide),
    List.count_eq_zero.mpr (notMem_of_blanks blank (by decide)), List.count_eq_zero.mpr noneInside,
    List.count_eq_zero.mpr (notMem_of_blanks blankAfter (by decide))]

/-- A spoilt text is no array. -/
theorem Spoilt.not_lists (spoilt : Spoilt s) : ¬Lists s indices := by
  intro lists
  cases spoilt with
  | trailing whole notBlanks =>
    obtain ⟨before, inside, after, rfl, -⟩ := whole.shape
    rw [List.append_assoc, List.cons_append] at lists
    exact notBlanks (Json.blanks_append.mp (lists.closing rfl).1).2
  | @comma front inside after blanks =>
    rw [← List.cons_append, ← List.append_assoc] at lists
    exact (lists.closing rfl).2 front inside rfl blanks
  | foreign member notDigit other =>
    rcases lists.mem_alphabet member with isDigit | known
    · rw [notDigit] at isDigit
      cases isDigit
    · exact other known
  | nested several =>
    rw [lists.count_open] at several
    omega
  | truncated endless =>
    obtain ⟨before, inside, after, rfl, -⟩ := lists.shape
    exact endless (List.mem_append_right _ List.mem_cons_self)

end

/-- A header is read as a whole or not at all.  An array of indices is read as these indices, if all
have 64 bits, and a text that is anything else as none, whichever way it falls short of an array.
So is an absent header.  The arrays of indices are those of JSON, and every list of 64-bit indices
is read back from its text. -/
theorem ofHeader_whole :
    (∀ (header : String) (indices : List Nat), Lists header.toList indices →
      ofHeader (some header) = if Fit indices then indices else []) ∧
    (∀ header : String, (∀ indices, ¬Lists header.toList indices) → ofHeader (some header) = []) ∧
    (∀ header : String, Spoilt header.toList → ofHeader (some header) = []) ∧
    ofHeader none = [] ∧
    (∀ (header : String) (indices : List Nat), Lists header.toList indices ↔
      Json.parse? header = some (.array (indices.map Json.nat))) ∧
    ∀ indices : List Nat, Fit indices →
      ofHeader (some (String.ofList (render indices))) = indices := by
  have listed : ∀ (header : String) (indices : List Nat), Lists header.toList indices →
      ofHeader (some header) = if Fit indices then indices else [] := by
    intro header indices lists
    rw [ofHeader, parse?_of_lists lists]
    split <;> rfl
  have refused : ∀ header : String, (∀ indices, ¬Lists header.toList indices) →
      ofHeader (some header) = [] := by
    intro header noArray
    rw [ofHeader, parse?_eq_none noArray, Option.getD_none]
  refine ⟨listed, refused, ?spoilt, rfl, fun _ _ => lists_iff_parseChars?, ?rendered⟩
  case spoilt => exact fun header spoilt => refused header fun _ => spoilt.not_lists
  case rendered =>
    intro indices fit
    have lists : Lists (String.ofList (render indices)).toList indices := by
      rw [String.toList_ofList]
      exact lists_render indices
    rw [listed _ indices lists, if_pos fit]

/-- Repeated indices and blanks of every kind are read, and an index that is no 64-bit number leaves
nothing of its array.  So do a comma at the end and a sign. -/
theorem ofHeader_whole_spaced :
    Lists " [ 7,\t0 ,7]\r\n".toList [7, 0, 7] ∧ ofHeader (some " [ 7,\t0 ,7]\r\n") = [7, 0, 7] ∧
      Lists "[7,18446744073709551616]".toList [7, 18446744073709551616] ∧
      ofHeader (some "[7,18446744073709551616]") = [] ∧
      Spoilt "[7,0,]".toList ∧ ofHeader (some "[7,0,]") = [] ∧
      (∀ indices, ¬Lists "[7,-0]".toList indices) ∧ ofHeader (some "[7,-0]") = [] ∧
      Fit [18446744073709551615] ∧
      ofHeader (some (String.ofList (render [18446744073709551615]))) = [18446744073709551615] := by
  obtain ⟨listed, refused, spoilt, -, -, rendered⟩ := ofHeader_whole
  have spaced : Lists " [ 7,\t0 ,7]\r\n".toList [7, 0, 7] :=
    @Lists.items [' '] " 7,\t0 ,7".toList ['\r', '\n'] _ (by decide)
      (.more (@Item.padded [' '] [] 7 (by decide) (by decide))
        (.more (@Item.padded ['\t'] [' '] 0 (by decide) (by decide)) (.last (item_numeral 7))))
      (by decide)
  have large : Lists "[7,18446744073709551616]".toList [7, 18446744073709551616] :=
    lists_render [7, 18446744073709551616]
  have comma : Spoilt "[7,0,]".toList := @Spoilt.comma "[7,0".toList [] [] (by decide)
  have sign : ∀ indices, ¬Lists "[7,-0]".toList indices := fun _ =>
    Spoilt.not_lists (@Spoilt.foreign _ '-' (by decide) (by decide) (by decide))
  exact ⟨spaced, listed _ _ spaced, large, listed _ _ large, comma, spoilt _ comma, sign,
    refused _ sign, by decide, rendered _ (by decide)⟩

end MissingList

end VoxelStream
