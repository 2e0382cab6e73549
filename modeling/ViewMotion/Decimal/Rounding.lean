/-!
This module contains the rounding of quotients to whole numbers, and numbers with two places after
the point.
-/

namespace ViewMotion.Decimal

def roundDiv (num den : Nat) : Nat :=
  let quotient := num / den
  let rest := num % den
  if 2 * rest < den then quotient
  else if den < 2 * rest then quotient + 1
  -- a half goes to the even neighbour
  else quotient + quotient % 2

theorem roundDiv_le (num den : Nat) : 2 * den * roundDiv num den ≤ 2 * num + den := by
  have hdiv := Nat.div_add_mod num den
  have hcomm : 2 * den * roundDiv num den = 2 * (den * roundDiv num den) := by
    rw [Nat.mul_assoc]
  rw [hcomm]
  simp only [roundDiv]
  split
  · omega
  · split
    · rw [Nat.mul_add]
      omega
    · rw [Nat.mul_add]
      have : num / den % 2 = 0 ∨ num / den % 2 = 1 := by omega
      cases this with
      | inl h => rw [h]; omega
      | inr h => rw [h]; omega

theorem le_roundDiv (num : Nat) {den : Nat} (h : 0 < den) :
    2 * num ≤ 2 * den * roundDiv num den + den := by
  have hmod := Nat.mod_lt num h
  have hdiv := Nat.div_add_mod num den
  have hcomm : 2 * den * roundDiv num den = 2 * (den * roundDiv num den) := by
    rw [Nat.mul_assoc]
  rw [hcomm]
  simp only [roundDiv]
  split
  · omega
  · split
    · rw [Nat.mul_add]
      omega
    · rw [Nat.mul_add]
      have : num / den % 2 = 0 ∨ num / den % 2 = 1 := by omega
      cases this with
      | inl h => rw [h]; omega
      | inr h => rw [h]; omega

def hundredths (n : Nat) : String :=
  s!"{n / 100}.{n / 10 % 10}{n % 10}"

end ViewMotion.Decimal
