import ViewMotion.Proofs.Floating.Packing

/-!
This module contains what rounding does to a number: the result is a number that needs no rounding,
and no other of them is closer. Nothing is said about which of two neighbors is taken half way
between them.
-/

namespace ViewMotion.Floating

open Float.Model Float.Model.UnpackedFloat

theorem two_zpow_pos (e : Int) : (0 : Rat) < 2 ^ e := zpow_pos two_pos e

theorem two_zpow_le {e f : Int} (h : e ≤ f) : (2 : Rat) ^ e ≤ 2 ^ f :=
  zpow_le_zpow_right₀ one_le_two h

theorem natCast_mul_two_zpow (m k : Nat) (e : Int) :
    ((m * 2 ^ k : Nat) : Rat) * 2 ^ e = m * 2 ^ (e + k) := by
  rw [zpow_add₀ two_ne_zero, zpow_natCast, Nat.cast_mul, Nat.cast_pow, Nat.cast_ofNat]
  ring

theorem two_pow_le_shiftLeft {m : Nat} (hm : m ≠ 0) (k : Nat) : 2 ^ (m.log2 + k) ≤ m <<< k := by
  rw [Nat.shiftLeft_eq, pow_add]
  exact Nat.mul_le_mul_right _ (Nat.log2_self_le hm)

/--
A stored number with a smaller exponent lies below all numbers that have the larger one.
-/
theorem Stored.lt_of_exponent_lt {n : Nat} {e f : Int} (h : Stored n f) (hlt : f < e) :
    (n : Rat) * 2 ^ f < 2 ^ 52 * 2 ^ e := by
  have hn : (n : Rat) < 2 ^ 53 := by exact_mod_cast h.mantissa_lt
  calc
    (n : Rat) * 2 ^ f < 2 ^ 53 * 2 ^ f := mul_lt_mul_of_pos_right hn (two_zpow_pos f)
    _ = 2 ^ 52 * 2 ^ (f + 1) := by
      rw [zpow_add_one₀ two_ne_zero]
      ring
    _ ≤ 2 ^ 52 * 2 ^ e := mul_le_mul_of_nonneg_left (two_zpow_le hlt) (by positivity)

theorem stored_eq_mul {n : Nat} {e f : Int} (hle : e ≤ f) :
    (n : Rat) * 2 ^ f = (n * 2 ^ (f - e).toNat : Nat) * 2 ^ e := by
  rw [natCast_mul_two_zpow, Int.toNat_of_nonneg (by omega), add_sub_cancel]

def cut (em : ExtendedMantissa) : Rat := em.mantissa + if em.roundBit then 1 / 2 else 0

/--
The mantissa and the round bit are what is left of `x` without all that is less than half a unit,
and the sticky bit says whether there is any of it.
-/
structure Approximates (em : ExtendedMantissa) (x : Rat) : Prop where
  cut_le : cut em ≤ x
  lt_cut : x < cut em + 1 / 2
  exact_iff : em.stickyBit = false ↔ x = cut em

namespace Approximates

variable {em : ExtendedMantissa} {x : Rat}

theorem of_nat (m : Nat) : Approximates (.ofMantissaAndAccuracy m .exact) m := by
  have hcut : cut (.ofMantissaAndAccuracy m .exact) = m := add_zero _
  constructor
  · rw [hcut]
  · rw [hcut]
    linarith
  · rw [hcut]
    exact iff_of_true rfl rfl

theorem mantissa_le (h : Approximates em x) : em.mantissa ≤ x := by
  have hle := h.cut_le
  unfold cut at hle
  split at hle <;> linarith

theorem lt_mantissa (h : Approximates em x) : x < em.mantissa + 1 := by
  have hlt := h.lt_cut
  unfold cut at hlt
  split at hlt <;> linarith

theorem bits_iff (h : Approximates em x) :
    (em.roundBit || em.stickyBit) = false ↔ x = em.mantissa := by
  have hle := h.cut_le
  have hexact := h.exact_iff
  unfold cut at hle hexact
  cases hround : em.roundBit with
  | false => simpa [hround] using hexact
  | true =>
    rw [hround, if_pos rfl] at hle
    exact iff_of_false Bool.noConfusion (by linarith)

theorem cut_shiftRightOne (em : ExtendedMantissa) : cut em.shiftRightOne = em.mantissa / 2 := by
  have hhalf : (em.mantissa : Rat) = 2 * (em.mantissa / 2 : Nat) + (em.mantissa % 2 : Nat) := by
    exact_mod_cast (Nat.div_add_mod em.mantissa 2).symm
  change ((em.mantissa / 2 : Nat) : Rat) + (if em.mantissa % 2 != 0 then 1 / 2 else 0) = _
  rw [hhalf]
  cases Nat.mod_two_eq_zero_or_one em.mantissa with
  | inl hmod =>
    rw [hmod]
    norm_num
  | inr hmod =>
    rw [hmod]
    norm_num
    ring

theorem shiftRightOne (h : Approximates em x) : Approximates em.shiftRightOne (x / 2) := by
  have hle := h.mantissa_le
  have hlt := h.lt_mantissa
  refine ⟨?_, ?_, ?_⟩
  · rw [cut_shiftRightOne]
    linarith
  · rw [cut_shiftRightOne]
    linarith
  · change (em.roundBit || em.stickyBit) = false ↔ _
    rw [cut_shiftRightOne, h.bits_iff, div_left_inj' two_ne_zero]

theorem shiftRight (h : Approximates em x) (k : Nat) : Approximates (em >>> k) (x / 2 ^ k) := by
  induction k with
  | zero =>
    rw [pow_zero, div_one]
    exact h
  | succ k ih =>
    rw [pow_succ, ← div_div]
    exact ih.shiftRightOne

theorem near (h : Approximates em x) : |x - em.roundedMantissa| ≤ 1 / 2 := by
  obtain ⟨m, roundBit, stickyBit⟩ := em
  obtain ⟨hle, hlt, hexact⟩ := h
  unfold cut at hle hlt hexact
  rw [abs_le]
  cases roundBit with
  | false =>
    -- with or without a rest, the mantissa is taken
    have hrounded : ExtendedMantissa.roundedMantissa ⟨m, false, stickyBit⟩ = m := by
      cases stickyBit <;> rfl
    simp only [Bool.false_eq_true, if_false, add_zero] at hle hlt
    rw [hrounded]
    constructor <;> linarith
  | true =>
    simp only [if_true] at hle hlt hexact
    cases stickyBit with
    | false =>
      have hx := hexact.mp rfl
      change _ ≤ x - ((m + m % 2 : Nat) : Rat) ∧ x - ((m + m % 2 : Nat) : Rat) ≤ _
      cases Nat.mod_two_eq_zero_or_one m with
      | inl hmod =>
        rw [hmod, Nat.add_zero]
        constructor <;> linarith
      | inr hmod =>
        rw [hmod, Nat.cast_add, Nat.cast_one]
        constructor <;> linarith
    | true =>
      change _ ≤ x - ((m + 1 : Nat) : Rat) ∧ x - ((m + 1 : Nat) : Rat) ≤ _
      rw [Nat.cast_add, Nat.cast_one]
      constructor <;> linarith

end Approximates

/--
With the exponent `e`, the multiple `r` is as close to `x` as any, and no mantissa that is stored
needs a smaller exponent there.
-/
structure Neighbor (x : Rat) (r : Nat) (e : Int) : Prop where
  le_exponent : -1074 ≤ e
  normal : e = -1074 ∨ 2 ^ 52 * 2 ^ e ≤ x
  le_top : x ≤ 2 ^ 53 * 2 ^ e
  near : |x - r * 2 ^ e| ≤ 2 ^ e / 2

theorem targetExponent_eq (m : Nat) (e : Int) :
    Format.binary64.targetExponent (totalExponent m e) = max (m.log2 + 1 + e - 53) (-1074) := rfl

/--
How far a mantissa is shifted: far enough to leave no more than 53 bits, and no farther than that
unless the exponent demands it.
-/
theorem shift_spec {m : Nat} {e : Int} (h : 2 ^ 52 ≤ m ∨ e ≤ -1074) :
    let k := (Format.binary64.targetExponent (totalExponent m e) - e).toNat
    m + 1 ≤ 2 ^ (53 + k) ∧ -1074 ≤ e + k ∧ (e + k = -1074 ∨ 2 ^ (52 + k) ≤ m) := by
  intro k
  have hk : k = (max (m.log2 + 1 + e - 53) (-1074) - e).toNat := rfl
  have hpow : 2 ^ (m.log2 + 1) ≤ 2 ^ (53 + k) := Nat.pow_le_pow_right (by decide) (by omega)
  refine ⟨Nat.lt_log2_self.trans_le hpow, by omega, ?_⟩
  by_cases hmin : e + k = -1074
  · exact Or.inl hmin
  · right
    have hne : m ≠ 0 := by
      rintro rfl
      rw [Nat.log2_zero] at hk
      omega
    have hlog : 52 ≤ m.log2 ∨ e ≤ -1074 := h.imp_left (Nat.le_log2 hne).mpr
    have heq : 52 + k = m.log2 := by omega
    rw [heq]
    exact Nat.log2_self_le hne

theorem Neighbor.of_shift {m : Nat} {e : Int} {accuracy : Accuracy} {y : Rat}
    (h : Approximates (.ofMantissaAndAccuracy m accuracy) y) (hbits : 2 ^ 52 ≤ m ∨ e ≤ -1074) :
    let shifted := shiftToTargetExponent .binary64 m e accuracy
    Neighbor (y * 2 ^ e) shifted.1.roundedMantissa shifted.2 := by
  have hm : (ExtendedMantissa.ofMantissaAndAccuracy m accuracy).mantissa = m := by
    cases accuracy with
    | exact => rfl
    | inexact ordering => cases ordering <;> rfl
  have hmle := h.mantissa_le
  have hltm := h.lt_mantissa
  rw [hm] at hmle hltm
  obtain ⟨htop, hmin, hnormal⟩ := shift_spec hbits
  unfold shiftToTargetExponent shiftToExponent
  dsimp only
  generalize (Format.binary64.targetExponent (totalExponent m e) - e).toNat = k at *
  have hshift := h.shiftRight k
  have hpow : (0 : Rat) < 2 ^ k := pow_pos two_pos k
  have hpos := two_zpow_pos (e + k)
  have hy : y * 2 ^ e = y / 2 ^ k * 2 ^ (e + k) := by
    rw [zpow_add₀ two_ne_zero, zpow_natCast, mul_comm (2 ^ e), ← mul_assoc,
      div_mul_cancel₀ y (ne_of_gt hpow)]
  rw [hy]
  constructor
  · exact hmin
  · refine hnormal.imp_right fun hle => ?_
    have hle : (2 ^ 52 * 2 ^ k : Rat) ≤ m := by
      rw [← pow_add]
      exact_mod_cast hle
    exact mul_le_mul_of_nonneg_right ((le_div_iff₀ hpow).mpr (hle.trans hmle)) hpos.le
  · have hle : (m + 1 : Rat) ≤ 2 ^ 53 * 2 ^ k := by
      rw [← pow_add]
      exact_mod_cast htop
    exact mul_le_mul_of_nonneg_right ((div_le_iff₀ hpow).mpr (hltm.le.trans hle)) hpos.le
  · rw [← sub_mul, abs_mul, abs_of_pos hpos]
    linarith [mul_le_mul_of_nonneg_right hshift.near hpos.le]

section Closeness

variable {x z q : Rat} (h : |x - z| ≤ |x - q|)

include h

theorem le_of_close (hle : x ≤ q) : z ≤ q := by
  by_contra hgt
  rw [abs_of_nonpos (by linarith), abs_of_nonpos (by linarith)] at h
  linarith

theorem ge_of_close (hle : q ≤ x) : q ≤ z := by
  by_contra hlt
  rw [abs_of_nonneg (by linarith), abs_of_nonneg (by linarith)] at h
  linarith

end Closeness

namespace Neighbor

variable {x : Rat} {r : Nat} {e : Int} (h : Neighbor x r e)

include h

theorem nearest_multiple (n : Nat) : |x - r * 2 ^ e| ≤ |x - n * 2 ^ e| := by
  rcases eq_or_ne r n with rfl | hne
  · exact le_refl _
  · have hpos := two_zpow_pos e
    have hdistance : (1 : Rat) ≤ |(r : Rat) - n| := by
      exact_mod_cast Int.one_le_abs (sub_ne_zero.mpr (Int.ofNat_inj.not.mpr hne))
    have happart : (2 : Rat) ^ e ≤ |(r : Rat) * 2 ^ e - n * 2 ^ e| := by
      rw [← sub_mul, abs_mul, abs_of_pos hpos]
      exact le_mul_of_one_le_left hpos.le hdistance
    have htriangle := abs_sub_le ((r : Rat) * 2 ^ e) x (n * 2 ^ e)
    rw [abs_sub_comm ((r : Rat) * 2 ^ e) x] at htriangle
    linarith [h.near]

theorem le_two_pow : r ≤ 2 ^ 53 := by
  have hle := le_of_close (h.nearest_multiple (2 ^ 53)) (by exact_mod_cast h.le_top)
  exact_mod_cast le_of_mul_le_mul_right hle (two_zpow_pos e)

theorem two_pow_le (hne : e ≠ -1074) : 2 ^ 52 ≤ r := by
  have hge :=
    ge_of_close (h.nearest_multiple (2 ^ 52)) (by exact_mod_cast h.normal.resolve_left hne)
  exact_mod_cast le_of_mul_le_mul_right hge (two_zpow_pos e)

theorem nearest_stored {n : Nat} {f : Int} (hstored : Stored n f) :
    |x - r * 2 ^ e| ≤ |x - n * 2 ^ f| := by
  cases le_or_gt e f with
  | inl hle =>
    rw [stored_eq_mul hle]
    apply h.nearest_multiple
  | inr hlt =>
    have hmin := hstored.le_exponent
    have hbelow := hstored.lt_of_exponent_lt hlt
    have habove := h.normal.resolve_left (by omega)
    calc
      |x - r * 2 ^ e| ≤ |x - (2 ^ 52 : Nat) * 2 ^ e| := h.nearest_multiple (2 ^ 52)
      _ = x - 2 ^ 52 * 2 ^ e := by
        rw [Nat.cast_pow, Nat.cast_ofNat, abs_of_nonneg (sub_nonneg.mpr habove)]
      _ ≤ x - n * 2 ^ f := by linarith
      _ ≤ |x - n * 2 ^ f| := le_abs_self _

end Neighbor

theorem exponent_lt {k : Nat} {e : Int} (hlt : (2 : Rat) ^ k * 2 ^ e < 2 ^ 1024) :
    k + e < 1024 := by
  rw [← zpow_natCast, ← zpow_natCast, ← zpow_add₀ two_ne_zero] at hlt
  exact (zpow_lt_zpow_iff_right₀ one_lt_two).mp hlt

/--
The largest finite number.
-/
def largest : Rat := (2 ^ 53 - 1 : Nat) * 2 ^ (971 : Int)

theorem stored_largest : Stored (2 ^ 53 - 1) 971 := ⟨by decide, by decide, by decide, by decide⟩

theorem largest_lt : largest < 2 ^ 1024 := by decide +kernel

theorem two_pow_le_largest {k : Nat} (h : k < 1024) : (2 : Rat) ^ k ≤ largest :=
  calc
    (2 : Rat) ^ k ≤ 2 ^ (52 + 971) := pow_le_pow_right₀ one_le_two (Nat.le_of_lt_succ h)
    _ = 2 ^ 52 * 2 ^ (971 : Int) := by rw [pow_add, zpow_ofNat]
    _ ≤ largest := mul_le_mul_of_nonneg_right (by norm_num) (two_zpow_pos 971).le

section Renormalizing

variable {r : Nat} {e : Int} (he : -1074 ≤ e)

include he

theorem shiftToTargetExponent_of_lt (hr : r < 2 ^ 53) :
    shiftToTargetExponent .binary64 r e .exact = (⟨r, false, false⟩, e) := by
  have hlog : r.log2 ≤ 52 := by
    by_cases hzero : r = 0
    · rw [hzero, Nat.log2_zero]
      exact Nat.zero_le 52
    · have := (Nat.log2_lt hzero).mpr hr
      omega
  have hshift : (max ((r.log2 : Int) + 1 + e - 53) (-1074) - e).toNat = 0 := by omega
  unfold shiftToTargetExponent shiftToExponent
  rw [targetExponent_eq]
  dsimp only
  rw [hshift, Int.natCast_zero, add_zero]
  rfl

/--
A mantissa that rounding made too long is a power of two.
-/
theorem shiftToTargetExponent_carry :
    shiftToTargetExponent .binary64 (2 ^ 53) e .exact = (⟨2 ^ 52, false, false⟩, e + 1) := by
  have hshift : (max (((2 ^ 53 : Nat).log2 : Int) + 1 + e - 53) (-1074) - e).toNat = 1 := by
    rw [Nat.log2_two_pow]
    omega
  unfold shiftToTargetExponent shiftToExponent
  rw [targetExponent_eq]
  dsimp only
  rw [hshift]
  rfl

end Renormalizing

namespace Neighbor

variable {x : Rat} {r : Nat} {e : Int} (h : Neighbor x r e) (hle : x ≤ largest)

include h hle

theorem lt_two_pow : (r : Rat) * 2 ^ e < 2 ^ 1024 :=
  (le_of_close (h.nearest_stored stored_largest) hle).trans_lt largest_lt

theorem stored_of_lt (hlt : r < 2 ^ 53) : Stored r e := by
  refine ⟨hlt, h.le_exponent, ?_, (eq_or_ne e (-1074)).imp_right h.two_pow_le⟩
  by_contra hgt
  have hr : (2 ^ 52 : Rat) ≤ r := by exact_mod_cast h.two_pow_le (by omega)
  have hexponent : (52 : Nat) + e < 1024 :=
    exponent_lt ((mul_le_mul_of_nonneg_right hr (two_zpow_pos e).le).trans_lt (h.lt_two_pow hle))
  omega

theorem stored_of_eq (heq : r = 2 ^ 53) : Stored (2 ^ 52) (e + 1) := by
  have hlt := h.lt_two_pow hle
  rw [heq] at hlt
  have hexponent : (53 : Nat) + e < 1024 := exponent_lt (by exact_mod_cast hlt)
  have hmin := h.le_exponent
  exact ⟨by decide, by omega, by omega, Or.inr (le_refl _)⟩

end Neighbor

def Representable (q : Rat) : Prop := ∃ m e, Stored m e ∧ |q| = m * 2 ^ e

/--
Of the numbers that need no rounding, none is closer to `x` than `z`.
-/
structure Rounds (x z : Rat) : Prop where
  representable : Representable z
  nearest {q : Rat} : Representable q → |x - z| ≤ |x - q|

namespace Rounds

theorem refl {q : Rat} (h : Representable q) : Rounds q q where
  representable := h
  nearest _ := by
    rw [sub_self, abs_zero]
    exact abs_nonneg _

variable {x y z w q : Rat} (h : Rounds x z)

include h

theorem le_of_le (hq : Representable q) (hle : x ≤ q) : z ≤ q := le_of_close (h.nearest hq) hle

theorem ge_of_ge (hq : Representable q) (hle : q ≤ x) : q ≤ z := ge_of_close (h.nearest hq) hle

theorem eq_of_representable (hx : Representable x) : z = x :=
  le_antisymm (h.le_of_le hx (le_refl x)) (h.ge_of_ge hx (le_refl x))

/--
Half way between two numbers either of them may be taken, so equal numbers are left out.
-/
theorem le_of_lt (h' : Rounds y w) (hlt : x < y) : z ≤ w := by
  by_contra hgt
  have hx : |x - z| ≤ |x - w| := h.nearest h'.representable
  have hy : |y - w| ≤ |y - z| := h'.nearest h.representable
  rw [← sq_le_sq] at hx hy
  nlinarith

end Rounds

theorem Representable.neg {q : Rat} (h : Representable q) : Representable (-q) := by
  obtain ⟨m, e, hstored, heq⟩ := h
  exact ⟨m, e, hstored, by rw [abs_neg, heq]⟩

theorem representable_zero : Representable 0 :=
  ⟨0, -1074, ⟨by decide, by decide, by decide, by decide⟩, by decide +kernel⟩

/--
A mantissa that is too short is made longer as far as the exponent permits it.
-/
theorem representable_of_lt {m : Nat} {e : Int} (hm : m < 2 ^ 53) (he : -1074 ≤ e)
    (he' : e ≤ 971) : Representable (m * 2 ^ e) := by
  rcases eq_or_ne m 0 with rfl | hne
  · rw [Nat.cast_zero, zero_mul]
    exact representable_zero
  · obtain ⟨k, hk⟩ : ∃ k : Nat, (k : Int) = min (52 - (m.log2 : Int)) (e + 1074) := by
      have hlog : m.log2 < 53 := (Nat.log2_lt hne).mpr hm
      exact ⟨(min (52 - (m.log2 : Int)) (e + 1074)).toNat, by omega⟩
    have hvalue : (m : Rat) * 2 ^ e = (m * 2 ^ k : Nat) * 2 ^ (e - k) := by
      rw [natCast_mul_two_zpow, sub_add_cancel]
    refine ⟨m * 2 ^ k, e - k, ⟨?_, by omega, by omega, ?_⟩, ?_⟩
    · calc
        m * 2 ^ k < 2 ^ (m.log2 + 1) * 2 ^ k :=
          Nat.mul_lt_mul_of_pos_right Nat.lt_log2_self (Nat.two_pow_pos k)
        _ = 2 ^ (m.log2 + 1 + k) := (pow_add 2 _ _).symm
        _ ≤ 2 ^ 53 := Nat.pow_le_pow_right two_pos (by omega)
    · by_cases hmin : e - k = -1074
      · exact Or.inl hmin
      · right
        have hfull : 52 = m.log2 + k := by omega
        rw [hfull, pow_add]
        exact Nat.mul_le_mul_right _ (Nat.log2_self_le hne)
    · rw [abs_of_nonneg (mul_nonneg (Nat.cast_nonneg m) (two_zpow_pos e).le), hvalue]

theorem representable_natCast {n : Nat} (h : n ≤ 2 ^ 53) : Representable n := by
  rcases Nat.lt_or_eq_of_le h with hlt | rfl
  · have hrepresentable := representable_of_lt (e := 0) hlt (by decide) (by decide)
    rwa [zpow_zero, mul_one] at hrepresentable
  · exact ⟨2 ^ 52, 1, ⟨by decide, by decide, by decide, Or.inr (le_refl _)⟩, by norm_num⟩

theorem representable_largest : Representable largest :=
  ⟨2 ^ 53 - 1, 971, stored_largest, by decide +kernel⟩

theorem Representable.abs_le {q : Rat} (h : Representable q) : |q| ≤ largest := by
  obtain ⟨m, e, hstored, heq⟩ := h
  have hm : (m : Rat) ≤ (2 ^ 53 - 1 : Nat) := by
    exact_mod_cast Nat.le_pred_of_lt hstored.mantissa_lt
  rw [heq]
  exact mul_le_mul hm (two_zpow_le hstored.exponent_le) (two_zpow_pos e).le (Nat.cast_nonneg _)

theorem Representable.le_largest {q : Rat} (h : Representable q) : q ≤ largest :=
  (le_abs_self q).trans h.abs_le

theorem Rounds.neg {x z : Rat} (h : Rounds x z) : Rounds (-x) (-z) where
  representable := h.representable.neg
  nearest {q} hq := by
    have hnearest := h.nearest hq.neg
    rw [sub_neg_eq_add] at hnearest
    rwa [neg_sub_neg, abs_sub_comm, ← neg_add', abs_neg]

theorem Rounds.signed {x z : Rat} (s : Sign) (h : Rounds x z) :
    Rounds (signed s x) (signed s z) := by
  cases s with
  | negative => exact h.neg
  | positive => exact h

theorem abs_signed (s : Sign) (q : Rat) : |signed s q| = |q| := by
  cases s with
  | negative => exact abs_neg q
  | positive => rfl

theorem Fits.representable {u : UnpackedFloat} (h : Fits u) : Representable (value u) := by
  cases u with
  | finite s m e hm =>
    refine ⟨m, e, h, ?_⟩
    have hnonneg : (0 : Rat) ≤ m * 2 ^ e := mul_nonneg (Nat.cast_nonneg m) (two_zpow_pos e).le
    rw [value, abs_signed, abs_of_nonneg hnonneg]
  | zero s => exact representable_zero
  | infinity s => exact False.elim h
  | notANumber => exact False.elim h

/--
The result of an operation is finite, and all that keeps it from being `x` is rounding.
-/
structure IsRounding (u : UnpackedFloat) (x : Rat) : Prop where
  fits : Fits u
  rounds : Rounds x (value u)

theorem Fits.isRounding {u : UnpackedFloat} (h : Fits u) : IsRounding u (value u) :=
  ⟨h, .refl h.representable⟩

theorem Neighbor.rounds {x : Rat} {r : Nat} {e : Int} (h : Neighbor x r e) (hx : 0 ≤ x)
    (hz : Representable (r * 2 ^ e)) : Rounds x (r * 2 ^ e) where
  representable := hz
  nearest {q} := by
    rintro ⟨m, f, hstored, heq⟩
    calc
      |x - r * 2 ^ e| ≤ abs (x - |q|) := by
        rw [heq]
        exact h.nearest_stored hstored
      _ ≤ |x - q| := by
        have hsame := abs_abs_sub_abs_le x q
        rwa [abs_of_nonneg hx] at hsame

theorem roundWithAccuracy_spec {m : Nat} {e : Int} {accuracy : Accuracy} {y : Rat} (s : Sign)
    (h : Approximates (.ofMantissaAndAccuracy m accuracy) y) (hbits : 2 ^ 52 ≤ m ∨ e ≤ -1074)
    (hle : y * 2 ^ e ≤ largest) :
    Fits (roundWithAccuracy .binary64 s m e accuracy) ∧
    ∃ r f, Neighbor (y * 2 ^ e) r f ∧
      value (roundWithAccuracy .binary64 s m e accuracy) = signed s (r * 2 ^ f) := by
  have hneighbor := Neighbor.of_shift h hbits
  unfold roundWithAccuracy
  generalize shiftToTargetExponent .binary64 m e accuracy = shifted at *
  obtain ⟨em, f⟩ := shifted
  dsimp only at *
  generalize em.roundedMantissa = r at *
  cases Nat.lt_or_eq_of_le hneighbor.le_two_pow with
  | inl hlt =>
    rw [shiftToTargetExponent_of_lt hneighbor.le_exponent hlt]
    dsimp only
    split
    · next hzero =>
      refine ⟨trivial, r, f, hneighbor, ?_⟩
      rw [hzero, Nat.cast_zero, zero_mul]
      cases s <;> rfl
    · exact ⟨hneighbor.stored_of_lt hle hlt, r, f, hneighbor, rfl⟩
  | inr heq =>
    have hvalue : (r : Rat) * 2 ^ f = (2 ^ 52 : Nat) * 2 ^ (f + 1) := by
      rw [heq, zpow_add_one₀ two_ne_zero]
      push_cast
      ring
    rw [heq, shiftToTargetExponent_carry hneighbor.le_exponent]
    refine ⟨hneighbor.stored_of_eq hle heq, r, f, hneighbor, ?_⟩
    rw [hvalue]
    rfl

theorem roundWithAccuracy_isRounding {m : Nat} {e : Int} {accuracy : Accuracy} {y : Rat} (s : Sign)
    (h : Approximates (.ofMantissaAndAccuracy m accuracy) y) (hbits : 2 ^ 52 ≤ m ∨ e ≤ -1074)
    (hle : y * 2 ^ e ≤ largest) :
    IsRounding (roundWithAccuracy .binary64 s m e accuracy) (signed s (y * 2 ^ e)) := by
  have hnonneg : 0 ≤ y * 2 ^ e :=
    mul_nonneg ((Nat.cast_nonneg _).trans h.mantissa_le) (two_zpow_pos e).le
  obtain ⟨hfits, r, f, hneighbor, heq⟩ := roundWithAccuracy_spec s h hbits hle
  have hrepresentable := hfits.representable
  refine ⟨hfits, ?_⟩
  rw [heq] at hrepresentable ⊢
  refine (hneighbor.rounds hnonneg ?_).signed s
  unfold Representable at *
  rwa [abs_signed] at hrepresentable

theorem round_isRounding {m : Nat} (hm : m ≠ 0) (s : Sign) {e : Int} (hle : m * 2 ^ e ≤ largest) :
    IsRounding (UnpackedFloat.round .binary64 s m e) (signed s (m * 2 ^ e)) := by
  unfold UnpackedFloat.round decreaseExponent
  rw [targetExponent_eq]
  dsimp only
  generalize hk : (e - max (m.log2 + 1 + e - 53 : Int) (-1074)).toNat = k
  have hvalue : (m : Rat) * 2 ^ e = (m <<< k : Nat) * 2 ^ (e - k) := by
    rw [Nat.shiftLeft_eq, natCast_mul_two_zpow, sub_add_cancel]
  have hbits : 2 ^ 52 ≤ m <<< k ∨ e - k ≤ -1074 := by
    by_cases hmin : e - k ≤ -1074
    · exact Or.inr hmin
    · left
      have hpow : 2 ^ 52 ≤ 2 ^ (m.log2 + k) := Nat.pow_le_pow_right two_pos (by omega)
      exact hpow.trans (two_pow_le_shiftLeft hm k)
  rw [hvalue] at hle ⊢
  exact roundWithAccuracy_isRounding s (.of_nat _) hbits hle

theorem normalize_isRounding {n : Int} {e : Int} (s : Sign) (hle : |(n : Rat) * 2 ^ e| ≤ largest) :
    IsRounding (UnpackedFloat.normalize .binary64 n e s) (n * 2 ^ e) := by
  have hpos := two_zpow_pos e
  unfold UnpackedFloat.normalize
  split
  · next hlt =>
    rw [Int.compare_eq_lt] at hlt
    have hnat : ((-n).toNat : Rat) = -n := by exact_mod_cast Int.toNat_of_nonneg (by omega)
    have hx : (n : Rat) * 2 ^ e = signed .negative ((-n).toNat * 2 ^ e) := by
      rw [hnat, signed]
      ring
    rw [hx] at hle ⊢
    rw [abs_signed] at hle
    exact round_isRounding (by omega) .negative ((le_abs_self _).trans hle)
  · next heq =>
    rw [Int.compare_eq_eq] at heq
    rw [heq, Int.cast_zero, zero_mul]
    exact Fits.isRounding (u := .zero s) trivial
  · next hgt =>
    rw [Int.compare_eq_gt] at hgt
    have hnat : (n.toNat : Rat) = n := by exact_mod_cast Int.toNat_of_nonneg (by omega)
    rw [← hnat] at hle ⊢
    exact round_isRounding (by omega) .positive ((le_abs_self _).trans hle)

end ViewMotion.Floating
