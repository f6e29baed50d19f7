import Mathlib.Data.List.Induction

/-!
# Histories

What happened in the course of events, and was not undone since.

Results:
* `since_append_singleton`: what happened, and was not undone since, event by event.
* `decidableSince`: whether it did can be found out.
-/

namespace MqttRelay

/-- In a history something happened, and nothing that undoes it since. -/
def Since {α : Type} (P Q : α → Prop) (history : List α) : Prop :=
  ∃ early a late, history = early ++ a :: late ∧ P a ∧ ∀ b ∈ late, ¬ Q b

theorem not_since_nil {α : Type} (P Q : α → Prop) : ¬ Since P Q [] := by
  rintro ⟨early, a, late, h, -⟩
  simp at h

/-- The latest event of a history did it, or it was done before and not undone now. -/
theorem since_append_singleton {α : Type} (P Q : α → Prop) (history : List α) (a : α) :
    Since P Q (history ++ [a]) ↔ P a ∨ Since P Q history ∧ ¬ Q a := by
  constructor
  · rintro ⟨early, b, late, h, hb, hlate⟩
    rcases List.eq_nil_or_concat late with rfl | ⟨late, c, rfl⟩
    · obtain ⟨-, ha⟩ := List.append_inj' h rfl
      obtain rfl := List.singleton_inj.1 ha
      exact Or.inl hb
    · rw [List.concat_eq_append, ← List.cons_append, ← List.append_assoc] at h
      obtain ⟨rfl, hc⟩ := List.append_inj' h rfl
      obtain rfl := List.singleton_inj.1 hc
      rw [List.concat_eq_append] at hlate
      refine Or.inr ⟨⟨early, b, late, rfl, hb, fun d hd => ?_⟩, ?_⟩
      · exact hlate d (List.mem_append_left _ hd)
      · exact hlate a (by simp)
  · rintro (ha | ⟨⟨early, b, late, rfl, hb, hlate⟩, ha⟩)
    · exact ⟨history, a, [], rfl, ha, by simp⟩
    · refine ⟨early, b, late ++ [a], by simp, hb, fun d hd => ?_⟩
      rcases List.mem_append.1 hd with hd | hd
      · exact hlate d hd
      · rw [List.mem_singleton.1 hd]
        exact ha

theorem since_cons {α : Type} (P Q : α → Prop) (a : α) (history : List α) :
    Since P Q (a :: history) ↔ (P a ∧ ∀ b ∈ history, ¬ Q b) ∨ Since P Q history := by
  constructor
  · rintro ⟨early, b, late, h, hb, hlate⟩
    cases early with
    | nil =>
      obtain ⟨rfl, rfl⟩ := List.cons.inj h
      exact Or.inl ⟨hb, hlate⟩
    | cons c early => exact Or.inr ⟨early, b, late, (List.cons.inj h).2, hb, hlate⟩
  · rintro (⟨ha, hlate⟩ | ⟨early, b, late, rfl, hb, hlate⟩)
    · exact ⟨[], a, history, rfl, ha, hlate⟩
    · exact ⟨a :: early, b, late, rfl, hb, hlate⟩

instance decidableSince {α : Type} (P Q : α → Prop) [DecidablePred P] [DecidablePred Q] :
    (history : List α) → Decidable (Since P Q history)
  | [] => .isFalse (not_since_nil P Q)
  | a :: history =>
    have := decidableSince P Q history
    decidable_of_iff _ (since_cons P Q a history).symm

end MqttRelay
