import Mathlib.Data.List.TakeWhile
import Mathlib.Data.Rat.Cast.Order
import Mathlib.Tactic.NormNum
import Mathlib.Tactic.Ring
import ViewMotion.Decimal.Rounding

/-!
This module contains how a decimal is read, as a whole number with places behind a point if there is
one. What has been written with two places is read as that many hundredths.
-/

namespace ViewMotion.Decimal

def ofDigits (digits : List Char) : Rat := (Nat.ofDigitChars 10 digits 0 : Nat)

def isNumeral (digits : List Char) : Bool := !digits.isEmpty && digits.all Char.isDigit

def read? (text : List Char) : Option Rat :=
  let whole := text.takeWhile Char.isDigit
  let rest := text.dropWhile Char.isDigit
  if whole.isEmpty then none
  else if rest.isEmpty then some (ofDigits whole)
  else if rest.head? = some '.' ∧ isNumeral rest.tail then
    some (ofDigits whole + ofDigits rest.tail / 10 ^ rest.tail.length)
  else none

section Reading

variable {whole places : List Char}

theorem takeWhile_digits (hwhole : ∀ c ∈ whole, c.isDigit) (places : List Char) :
    (whole ++ '.' :: places).takeWhile Char.isDigit = whole := by
  rw [List.takeWhile_append_of_pos hwhole]
  simp

theorem dropWhile_digits (hwhole : ∀ c ∈ whole, c.isDigit) (places : List Char) :
    (whole ++ '.' :: places).dropWhile Char.isDigit = '.' :: places := by
  rw [List.dropWhile_append_of_pos hwhole]
  simp

theorem read?_whole (hwhole : ∀ c ∈ whole, c.isDigit) (hne : whole ≠ []) :
    read? whole = some (ofDigits whole) := by
  have htake : whole.takeWhile Char.isDigit = whole := List.takeWhile_eq_self_iff.mpr hwhole
  have hdrop : whole.dropWhile Char.isDigit = [] := List.dropWhile_eq_nil_iff.mpr hwhole
  simp [read?, htake, hdrop, hne]

theorem read?_places (hwhole : ∀ c ∈ whole, c.isDigit) (hne : whole ≠ [])
    (hplaces : isNumeral places) :
    read? (whole ++ '.' :: places) =
      some (ofDigits whole + ofDigits places / 10 ^ places.length) := by
  simp [read?, takeWhile_digits hwhole, dropWhile_digits hwhole, hne, hplaces]

end Reading

theorem isDigit_of_mem (n : Nat) : ∀ c ∈ Nat.toDigits 10 n, c.isDigit :=
  fun _ => Nat.isDigit_of_mem_toDigits (by decide) (by decide)

theorem ofDigits_toDigits (n : Nat) : ofDigits (Nat.toDigits 10 n) = n := by
  rw [ofDigits, Nat.ofDigitChars_ten_toDigits]

theorem read?_toString (n : Nat) : read? (toString n).toList = some (n : Rat) := by
  rw [Nat.toString_eq_repr, Nat.toList_repr,
    read?_whole (isDigit_of_mem n) Nat.toDigits_ne_nil, ofDigits_toDigits]

theorem hundredths_toList (n : Nat) :
    (hundredths n).toList = Nat.toDigits 10 (n / 100) ++
      '.' :: [(n / 10 % 10).digitChar, (n % 10).digitChar] := by
  have htens : Nat.toDigits 10 (n / 10 % 10) = [(n / 10 % 10).digitChar] :=
    Nat.toDigits_of_lt_base (Nat.mod_lt _ (by decide))
  have hunits : Nat.toDigits 10 (n % 10) = [(n % 10).digitChar] :=
    Nat.toDigits_of_lt_base (Nat.mod_lt _ (by decide))
  simp only [hundredths, String.toList_append, Nat.toString_eq_repr, Nat.toList_repr, htens, hunits,
    List.append_assoc]
  rfl

theorem read?_hundredths (n : Nat) : read? (hundredths n).toList = some (n / 100 : Rat) := by
  have hnumeral : isNumeral [(n / 10 % 10).digitChar, (n % 10).digitChar] := by
    simp [isNumeral, Nat.mod_lt]
  have hplaces : ofDigits [(n / 10 % 10).digitChar, (n % 10).digitChar] = (n % 100 : Nat) := by
    have hvalue (m : Nat) : (m % 10).digitChar.toNat - 48 = m % 10 :=
      Nat.toNat_digitChar_sub_48_of_lt_ten (Nat.mod_lt m (by decide))
    have hsum : 10 * (n / 10 % 10) + n % 10 = n % 100 := by omega
    rw [ofDigits, Nat.ofDigitChars_cons, Nat.ofDigitChars_cons, Nat.ofDigitChars_nil]
    simp [hvalue, ← hsum]
  rw [hundredths_toList, read?_places (isDigit_of_mem _) Nat.toDigits_ne_nil hnumeral,
    ofDigits_toDigits, hplaces]
  have hn : (n : Rat) = 100 * (n / 100 : Nat) + (n % 100 : Nat) := by
    exact_mod_cast (Nat.div_add_mod n 100).symm
  rw [hn, Option.some.injEq]
  norm_num
  ring

theorem roundDiv_mono {num num' : Nat} (h : num ≤ num') (den : Nat) :
    roundDiv num den ≤ roundDiv num' den := by
  have hquotient : num / den ≤ num' / den := Nat.div_le_div_right h
  have hdiv := Nat.div_add_mod num den
  have hdiv' := Nat.div_add_mod num' den
  by_cases hsame : num / den = num' / den
  · -- the quotients agree, so the rests are in order
    have hrest : num % den ≤ num' % den := by
      rw [hsame] at hdiv
      omega
    simp only [roundDiv, hsame]
    grind
  · have hround : roundDiv num den ≤ num / den + 1 := by
      simp only [roundDiv]
      grind
    have hround' : num' / den ≤ roundDiv num' den := by
      simp only [roundDiv]
      grind
    omega

end ViewMotion.Decimal
