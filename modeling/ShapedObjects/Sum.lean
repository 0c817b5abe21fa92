/-!
# Sums over lists

Statistics and reports add up one number per item.
-/

namespace ShapedObjects

/-- The sum of a number over the items of a list. -/
def sumOf {α : Type} (number : α → Nat) (items : List α) : Nat :=
  -- The zero is named because larger libraries would find it by another instance.
  @List.sum Nat instAddNat Zero.ofOfNat0 (items.map number)

section SumOf

variable {α : Type}

/-- Where one item is replaced, its number goes out of the sum and the new one comes in. -/
theorem sumOf_set (number : α → Nat) {items : List α} {index : Nat} {old : α}
    (hold : items[index]? = some old) (new : α) :
    sumOf number (items.set index new) + number old = sumOf number items + number new := by
  unfold sumOf
  induction items generalizing index with
  | nil => cases hold
  | cons item items ih =>
    cases index with
    | zero =>
      cases hold
      simp only [List.set_cons_zero, List.map_cons, List.sum_cons]
      omega
    | succ index =>
      have hrest := ih hold
      simp only [List.set_cons_succ, List.map_cons, List.sum_cons]
      omega

/-- Items without a number need not be listed. -/
theorem sumOf_filter_pos (number : α → Nat) (items : List α) :
    sumOf number (items.filter (0 < number ·)) = sumOf number items := by
  unfold sumOf
  induction items with
  | nil => rfl
  | cons item items ih =>
    rw [List.filter_cons, List.map_cons, List.sum_cons]
    by_cases hpos : 0 < number item
    · rw [if_pos (decide_eq_true hpos), List.map_cons, List.sum_cons, ih]
    · rw [if_neg (by simpa using hpos), ih, Nat.eq_zero_of_not_pos hpos, Nat.zero_add]

end SumOf

end ShapedObjects
