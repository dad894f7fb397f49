import Mathlib.Data.List.Forall2

/-!
When a chain of steps that may fail succeeds.
-/

set_option autoImplicit false

namespace NestedStyles

universe u

variable {ε δ α β : Type u}

theorem bind_eq_ok_iff {step : Except ε α} {next : α → Except ε β} {result : β} :
    step >>= next = .ok result ↔ ∃ value, step = .ok value ∧ next value = .ok result := by
  cases step with
  | error fault =>
      constructor
      · intro ended
        cases ended
      · rintro ⟨_, ended, _⟩
        cases ended
  | ok value =>
      refine ⟨fun ended => ⟨value, rfl, ended⟩, ?_⟩
      rintro ⟨_, ⟨⟩, ended⟩
      exact ended

theorem mapError_eq_ok_iff {step : Except ε α} {told : ε → δ} {result : α} :
    step.mapError told = .ok result ↔ step = .ok result := by
  cases step <;> simp [Except.mapError]

/-- Steps for each of a list succeed together with their results in order. -/
theorem mapM_eq_ok_iff {step : α → Except ε β} {sources : List α} :
    ∀ {results : List β}, sources.mapM step = .ok results ↔
      List.Forall₂ (fun source result => step source = .ok result) sources results := by
  induction sources with
  | nil =>
      intro results
      rw [List.mapM_nil, List.forall₂_nil_left_iff]
      exact ⟨fun same => by cases same; rfl, fun same => by rw [same]; rfl⟩
  | cons source rest ih =>
      intro results
      rw [List.mapM_cons, bind_eq_ok_iff, List.forall₂_cons_left_iff]
      constructor
      · rintro ⟨first, started, ended⟩
        obtain ⟨others, further, same⟩ := bind_eq_ok_iff.mp ended
        cases same
        exact ⟨first, others, started, ih.mp further, rfl⟩
      · rintro ⟨first, others, started, further, rfl⟩
        exact ⟨first, started, bind_eq_ok_iff.mpr ⟨others, ih.mpr further, rfl⟩⟩

end NestedStyles
