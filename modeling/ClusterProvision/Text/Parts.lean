/-!
# `ClusterProvision.Text.Parts`: the parts between separators

A list with `n` separators has `n + 1` parts, and some of them may be empty. Putting the
separators back between the parts gives the list again (`intercalate_parts`).
-/

set_option autoImplicit false

namespace ClusterProvision.Text

variable {α : Type} [DecidableEq α]

/-- The parts of a list between separators. -/
def parts (separator : α) : List α → List (List α)
  | [] => [[]]
  | x :: rest =>
    if x = separator then [] :: parts separator rest
    else match parts separator rest with
      | part :: others => (x :: part) :: others
      | [] => [[x]]

theorem parts_ne_nil (separator : α) (xs : List α) : parts separator xs ≠ [] := by
  cases xs with
  | nil => simp [parts]
  | cons x rest =>
    rw [parts]
    split
    · simp
    · split <;> simp

theorem intercalate_parts (separator : α) (xs : List α) :
    [separator].intercalate (parts separator xs) = xs := by
  induction xs with
  | nil => simp [parts]
  | cons x rest ih =>
    obtain ⟨part, others, h⟩ := List.exists_cons_of_ne_nil (parts_ne_nil separator rest)
    rw [h] at ih
    rw [parts, h]
    by_cases hx : x = separator
    · rw [if_pos hx, hx, List.intercalate_cons_cons, ih]
      rfl
    · rw [if_neg hx]
      cases others with
      | nil => simpa using ih
      | cons next others =>
        rw [List.intercalate_cons_cons] at ih ⊢
        simpa using ih

end ClusterProvision.Text
