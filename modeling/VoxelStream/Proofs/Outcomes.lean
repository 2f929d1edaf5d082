import Mathlib.Data.List.Forall2

/-!
# Outcomes

General facts about steps that can fail and about actions on a state.
-/

namespace VoxelStream

/-! ## Steps that can fail -/

section

variable {ε α β : Type}

theorem map_eq_ok_iff {f : α → β} {outcome : Except ε α} {value : β} :
    outcome.map f = .ok value ↔ ∃ before, outcome = .ok before ∧ f before = value := by
  cases outcome <;> simp [Except.map]

theorem mapError_eq_ok_iff {δ : Type} {f : ε → δ} {outcome : Except ε α} {value : α} :
    outcome.mapError f = .ok value ↔ outcome = .ok value := by
  cases outcome <;> simp [Except.mapError]

/-- A step succeeds on all of a list, or there is a first element that it fails on. -/
theorem all_or_first_error (f : α → Except ε β) (list : List α) :
    (∀ element ∈ list, ∃ value, f element = .ok value) ∨
      ∃ before element after error, list = before ++ element :: after ∧
        (∀ earlier ∈ before, ∃ value, f earlier = .ok value) ∧ f element = .error error := by
  induction list with
  | nil => exact .inl fun element member => by cases member
  | cons first rest ih =>
    cases here : f first with
    | error e => exact .inr ⟨[], first, rest, e, rfl, (fun earlier member => by cases member), here⟩
    | ok value =>
      have extended : ∀ {elements : List α},
          (∀ element ∈ elements, ∃ value, f element = .ok value) →
          ∀ element ∈ first :: elements, ∃ value, f element = .ok value := by
        intro elements succeeds element member
        cases List.mem_cons.mp member with
        | inl same => exact ⟨value, by rw [same, here]⟩
        | inr later => exact succeeds element later
      cases ih with
      | inl all => exact .inl (extended all)
      | inr someError =>
        obtain ⟨before, element, after, e, rfl, earlier, fails⟩ := someError
        exact .inr ⟨first :: before, element, after, e, rfl, extended earlier, fails⟩

/-- A step that succeeds on each element has a list of values. -/
theorem exists_values {f : α → Except ε β} {list : List α}
    (succeeds : ∀ element ∈ list, ∃ value, f element = .ok value) :
    ∃ values, List.Forall₂ (fun element value => f element = .ok value) list values := by
  induction list with
  | nil => exact ⟨[], .nil⟩
  | cons first rest ih =>
    obtain ⟨value, here⟩ := succeeds first List.mem_cons_self
    obtain ⟨values, later⟩ := ih fun element member =>
      succeeds element (List.mem_cons_of_mem _ member)
    exact ⟨value :: values, .cons here later⟩

end

/-! ## Actions on a state -/

/-- A run of two actions goes on where the first one ends. -/
theorem bind_run {σ α β : Type} {first : StateM σ α} {next : α → StateM σ β}
    {before between : σ} {value : α} (run : first before = (value, between)) :
    (first >>= next) before = next value between := by
  show next (first before).1 (first before).2 = next value between
  rw [run]

end VoxelStream
