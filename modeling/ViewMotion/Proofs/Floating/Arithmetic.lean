import ViewMotion.Proofs.Floating.Rounding
import ViewMotion.Scalar

/-!
This module contains the operations on finite floating point numbers as what they are meant to be:
exact operations whose result is rounded, and an order that is the one of the exact numbers.
-/

namespace ViewMotion.Floating

open Float.Model Float.Model.UnpackedFloat

section Signs

variable (s t : Sign) (p q : Rat)

theorem signed_neg : signed (-s) p = -signed s p := by
  cases s with
  | negative => exact (neg_neg p).symm
  | positive => rfl

theorem signed_mul : signed (s * t) (p * q) = signed s p * signed t q := by
  cases s <;> cases t
  · exact (neg_mul_neg p q).symm
  · exact (neg_mul p q).symm
  · exact (mul_neg p q).symm
  · rfl

theorem signed_div : signed (s / t) (p / q) = signed s p / signed t q := by
  cases s <;> cases t
  · exact (neg_div_neg_eq p q).symm
  · exact (neg_div q p).symm
  · exact (div_neg p).symm
  · rfl

theorem cast_apply (n : Nat) : ((s.apply n : Int) : Rat) = signed s n := by
  cases s with
  | negative => exact Int.cast_neg (n : Int)
  | positive => rfl

theorem signed_mul_right : signed s (p * q) = signed s p * q := by
  cases s with
  | negative => exact neg_mul_eq_neg_mul p q
  | positive => rfl

end Signs

/--
Two numbers are brought to the smaller one of their exponents before they are added.
-/
theorem signed_decreaseExponent (s : Sign) {m : Nat} {e f : Int} (h : f ≤ e) :
    ((s.apply (decreaseExponent m e f).1 : Int) : Rat) * 2 ^ f = signed s (m * 2 ^ e) := by
  unfold decreaseExponent
  dsimp only
  rw [cast_apply, ← signed_mul_right, Nat.shiftLeft_eq, stored_eq_mul h]

theorem Fits.zero_or_finite {u : UnpackedFloat} (h : Fits u) :
    (∃ s, u = .zero s) ∨ ∃ s m e hm, u = .finite s m e hm ∧ Stored m e := by
  cases u with
  | finite s m e hm => exact Or.inr ⟨s, m, e, hm, rfl, h⟩
  | zero s => exact Or.inl ⟨s, rfl⟩
  | infinity _ => exact False.elim h
  | notANumber => exact False.elim h

theorem isRounding_zero (s : Sign) : IsRounding (.zero s) 0 :=
  Fits.isRounding (u := .zero s) trivial

theorem value_neg (u : UnpackedFloat) : value u.neg = -value u := by
  cases u with
  | finite s m e hm => exact signed_neg s _
  | _ => exact neg_zero.symm

theorem Fits.neg {u : UnpackedFloat} (h : Fits u) : Fits u.neg := by
  cases u <;> exact h

theorem sub_eq_add (a b : UnpackedFloat) : sub .binary64 a b = add .binary64 a b.neg := by
  have happly (s : Sign) (n : Nat) : (-s).apply n = -s.apply n := by
    cases s with
    | negative => exact (Int.neg_neg n).symm
    | positive => rfl
  cases a with
  | finite s m e hm =>
    cases b with
    | finite t n f hn =>
      unfold UnpackedFloat.sub UnpackedFloat.add UnpackedFloat.neg
      dsimp only
      rw [happly, ← Int.sub_eq_add_neg]
    | _ => rfl
  | _ => cases b <;> rfl

section Operations

variable {a b : UnpackedFloat} (ha : Fits a) (hb : Fits b)

include ha hb

theorem add_isRounding (h : |value a + value b| ≤ largest) :
    IsRounding (add .binary64 a b) (value a + value b) := by
  obtain ⟨s, rfl⟩ | ⟨s, m, e, hm, rfl, -⟩ := ha.zero_or_finite
  · change IsRounding _ (0 + _)
    rw [zero_add]
    obtain ⟨t, rfl⟩ | ⟨t, n, f, hn, rfl, -⟩ := hb.zero_or_finite
    · cases s <;> cases t <;> exact isRounding_zero _
    · exact hb.isRounding
  · obtain ⟨t, rfl⟩ | ⟨t, n, f, hn, rfl, -⟩ := hb.zero_or_finite
    · change IsRounding _ (_ + 0)
      rw [add_zero]
      exact ha.isRounding
    · have hvalue : value (.finite s m e hm) + value (.finite t n f hn) =
          ((s.apply (decreaseExponent m e (min e f)).1 +
            t.apply (decreaseExponent n f (min e f)).1 : Int) : Rat) * 2 ^ min e f := by
        rw [Int.cast_add, add_mul, signed_decreaseExponent s (min_le_left e f),
          signed_decreaseExponent t (min_le_right e f)]
        rfl
      rw [hvalue] at h ⊢
      exact normalize_isRounding .positive h

theorem sub_isRounding (h : |value a - value b| ≤ largest) :
    IsRounding (sub .binary64 a b) (value a - value b) := by
  rw [sub_eq_add_neg, ← value_neg] at h ⊢
  rw [sub_eq_add]
  exact add_isRounding ha hb.neg h

theorem mul_isRounding (h : |value a * value b| ≤ largest) :
    IsRounding (mul .binary64 a b) (value a * value b) := by
  obtain ⟨s, rfl⟩ | ⟨s, m, e, hm, rfl, hm'⟩ := ha.zero_or_finite
  · change IsRounding _ (0 * _)
    rw [zero_mul]
    obtain ⟨t, rfl⟩ | ⟨t, n, f, hn, rfl, -⟩ := hb.zero_or_finite <;> exact isRounding_zero _
  · obtain ⟨t, rfl⟩ | ⟨t, n, f, hn, rfl, hn'⟩ := hb.zero_or_finite
    · change IsRounding _ (_ * 0)
      rw [mul_zero]
      exact isRounding_zero _
    · have hvalue : value (.finite s m e hm) * value (.finite t n f hn) =
          signed (s * t) ((m * n : Nat) * 2 ^ (e + f)) := by
        rw [zpow_add₀ two_ne_zero, Nat.cast_mul, mul_mul_mul_comm, signed_mul]
        rfl
      have hbits : 2 ^ 52 ≤ m * n ∨ e + f ≤ -1074 := by
        rcases hm'.normal with heq | hle
        · rcases hn'.normal with heq' | hle
          · omega
          · exact Or.inl (hle.trans (Nat.le_mul_of_pos_left n hm))
        · exact Or.inl (hle.trans (Nat.le_mul_of_pos_right m hn))
      rw [hvalue] at h ⊢
      rw [abs_signed] at h
      exact roundWithAccuracy_isRounding (s * t) (.of_nat _) hbits ((le_abs_self _).trans h)

end Operations

section Division

variable {n : Nat} (hn : 0 < n)

include hn

theorem Approximates.of_div (m : Nat) :
    Approximates (.ofMantissaAndAccuracy (m / n) (accuracyOfFraction (m % n) n)) (m / n : Rat) := by
  have hpos : (0 : Rat) < n := by exact_mod_cast hn
  have hquotient : (m / n : Rat) = (m / n : Nat) + (m % n : Nat) / n := by
    have hdiv : (m : Rat) = n * (m / n : Nat) + (m % n : Nat) := by
      exact_mod_cast (Nat.div_add_mod m n).symm
    rw [hdiv, add_div, mul_div_cancel_left₀ _ hpos.ne']
  have hlt : ((m % n : Nat) / n : Rat) < 1 := by
    rw [div_lt_one hpos]
    exact_mod_cast Nat.mod_lt m hn
  have hrest : (0 : Rat) ≤ (m % n : Nat) / n := by positivity
  rw [hquotient]
  generalize m / n = q
  generalize m % n = r at *
  unfold accuracyOfFraction
  split
  · next hzero =>
    rw [hzero, Nat.cast_zero, zero_div, add_zero]
    exact .of_nat q
  · next hne =>
    have hrest' : (r / n : Rat) ≠ 0 := div_ne_zero (Nat.cast_ne_zero.mpr hne) hpos.ne'
    rcases lt_trichotomy (2 * r) n with hbelow | hhalf | habove
    · have hbelow' : (r / n : Rat) < 1 / 2 := by
        rw [div_lt_div_iff₀ hpos two_pos, mul_comm, one_mul]
        exact_mod_cast hbelow
      have hcut : cut (.ofMantissaAndAccuracy q (.inexact .lt)) = q := add_zero _
      rw [Nat.compare_eq_lt.mpr hbelow]
      refine ⟨?_, ?_, iff_of_false Bool.noConfusion ?_⟩ <;> rw [hcut]
      · linarith
      · linarith
      · rwa [add_eq_left]
    · have hhalf' : (r / n : Rat) = 1 / 2 := by
        rw [div_eq_div_iff hpos.ne' two_ne_zero, mul_comm, one_mul]
        exact_mod_cast hhalf
      have hcut : cut (.ofMantissaAndAccuracy q (.inexact .eq)) = q + 1 / 2 := rfl
      rw [Nat.compare_eq_eq.mpr hhalf, hhalf']
      refine ⟨?_, ?_, iff_of_true rfl ?_⟩ <;> rw [hcut]
      linarith
    · have habove' : 1 / 2 < (r / n : Rat) := by
        rw [div_lt_div_iff₀ two_pos hpos, mul_comm (r : Rat), one_mul]
        exact_mod_cast habove
      have hcut : cut (.ofMantissaAndAccuracy q (.inexact .gt)) = q + 1 / 2 := rfl
      rw [Nat.compare_eq_gt.mpr habove]
      refine ⟨?_, ?_, iff_of_false Bool.noConfusion ?_⟩ <;> rw [hcut]
      · linarith
      · linarith
      · intro heq
        linarith

/--
The quotient has all the bits that are kept, whatever the two numbers are.
-/
theorem divCore_spec {m : Nat} (hm : 0 < m) (e f : Int) :
    let quotient := divCore .binary64 m e n f
    ∃ y : Rat, Approximates (.ofMantissaAndAccuracy quotient.1 quotient.2.2) y ∧
      (2 ^ 52 ≤ quotient.1 ∨ quotient.2.1 ≤ -1074) ∧
      y * 2 ^ quotient.2.1 = m * 2 ^ e / (n * 2 ^ f) := by
  unfold divCore totalExponent
  dsimp only
  generalize htarget : min (e - f) (Format.binary64.targetExponent _) = target
  generalize hk : (e - f - target).toNat = k
  replace htarget : min (e - f) (max (m.log2 + 1 + e - (n.log2 + 1 + f) - 53) (-1074)) = target :=
    htarget
  refine ⟨_, .of_div hn (m <<< k), ?_, ?_⟩
  · by_cases hmin : target ≤ -1074
    · exact Or.inr hmin
    · left
      rw [Nat.le_div_iff_mul_le hn]
      calc
        2 ^ 52 * n ≤ 2 ^ 52 * 2 ^ (n.log2 + 1) := Nat.mul_le_mul_left _ Nat.lt_log2_self.le
        _ = 2 ^ (52 + (n.log2 + 1)) := (pow_add 2 _ _).symm
        _ ≤ 2 ^ (m.log2 + k) := Nat.pow_le_pow_right two_pos (by omega)
        _ ≤ m <<< k := two_pow_le_shiftLeft hm.ne' k
  · have hexponent : e = f + target + k := by omega
    rw [Nat.shiftLeft_eq, hexponent, zpow_add₀ two_ne_zero, zpow_add₀ two_ne_zero, zpow_natCast]
    have hn' : (n : Rat) ≠ 0 := by exact_mod_cast hn.ne'
    have hf := (two_zpow_pos f).ne'
    rw [div_mul_eq_mul_div, div_eq_div_iff hn' (mul_ne_zero hn' hf)]
    push_cast
    ring

end Division

theorem div_isRounding {a b : UnpackedFloat} (ha : Fits a) (hb : Fits b) (hne : value b ≠ 0)
    (h : |value a / value b| ≤ largest) :
    IsRounding (div .binary64 a b) (value a / value b) := by
  obtain ⟨t, rfl⟩ | ⟨t, n, f, hn, rfl, -⟩ := hb.zero_or_finite
  · exact absurd rfl hne
  · obtain ⟨s, rfl⟩ | ⟨s, m, e, hm, rfl, -⟩ := ha.zero_or_finite
    · change IsRounding _ (0 / _)
      rw [zero_div]
      exact isRounding_zero _
    · obtain ⟨y, hy, hbits, hvalue⟩ := divCore_spec hn hm e f
      have hquotient : value (.finite s m e hm) / value (.finite t n f hn) =
          signed (s / t) (m * 2 ^ e / (n * 2 ^ f)) := (signed_div s t _ _).symm
      rw [hquotient, ← hvalue] at h ⊢
      rw [abs_signed] at h
      exact roundWithAccuracy_isRounding (s / t) hy hbits ((le_abs_self _).trans h)

section Order

theorem compares_finite {m n : Nat} {e f : Int} (h : Stored m e) (h' : Stored n f) :
    ((compare e f).then (compare m n)).Compares ((m : Rat) * 2 ^ e) (n * 2 ^ f) := by
  have hlt_of_lt {m n : Nat} {e f : Int} (h : Stored m e) (h' : Stored n f) (hlt : e < f) :
      (m : Rat) * 2 ^ e < n * 2 ^ f := by
    have hmin := h.le_exponent
    have hn : (2 ^ 52 : Rat) ≤ n := by exact_mod_cast h'.normal.resolve_left (by omega)
    exact (h.lt_of_exponent_lt hlt).trans_le (mul_le_mul_of_nonneg_right hn (two_zpow_pos f).le)
  rcases lt_trichotomy e f with hlt | rfl | hgt
  · rw [Int.compare_eq_lt.mpr hlt]
    exact hlt_of_lt h h' hlt
  · have hpos := two_zpow_pos e
    rw [Int.compare_eq_eq.mpr rfl]
    rcases lt_trichotomy m n with hlt | rfl | hgt
    · rw [Nat.compare_eq_lt.mpr hlt]
      exact mul_lt_mul_of_pos_right (by exact_mod_cast hlt) hpos
    · rw [Nat.compare_eq_eq.mpr rfl]
      rfl
    · rw [Nat.compare_eq_gt.mpr hgt]
      exact mul_lt_mul_of_pos_right (by exact_mod_cast hgt) hpos
  · rw [Int.compare_eq_gt.mpr hgt]
    exact hlt_of_lt h' h hgt

theorem compares_neg {o : Ordering} {p q : Rat} (h : o.Compares p q) : o.Compares (-q) (-p) := by
  cases o with
  | lt => exact neg_lt_neg h
  | eq => exact congrArg Neg.neg h.symm
  | gt => exact neg_lt_neg h

theorem compares_value {a b : UnpackedFloat} (ha : Fits a) (hb : Fits b) :
    ∃ o, a.compare b = some o ∧ o.Compares (value a) (value b) := by
  have hpos {m : Nat} (hm : 0 < m) (e : Int) : (0 : Rat) < m * 2 ^ e :=
    mul_pos (by exact_mod_cast hm) (two_zpow_pos e)
  obtain ⟨s, rfl⟩ | ⟨s, m, e, hm, rfl, hm'⟩ := ha.zero_or_finite
  · obtain ⟨t, rfl⟩ | ⟨t, n, f, hn, rfl, -⟩ := hb.zero_or_finite
    · exact ⟨.eq, rfl, rfl⟩
    · cases t with
      | negative => exact ⟨.gt, rfl, neg_neg_of_pos (hpos hn f)⟩
      | positive => exact ⟨.lt, rfl, hpos hn f⟩
  · obtain ⟨t, rfl⟩ | ⟨t, n, f, hn, rfl, hn'⟩ := hb.zero_or_finite
    · cases s with
      | negative => exact ⟨.lt, rfl, neg_neg_of_pos (hpos hm e)⟩
      | positive => exact ⟨.gt, rfl, hpos hm e⟩
    · cases s <;> cases t
      · refine ⟨_, rfl, Ordering.compares_swap.mpr ?_⟩
        exact compares_neg (compares_finite hm' hn')
      · exact ⟨.lt, rfl, (neg_neg_of_pos (hpos hm e)).trans (hpos hn f)⟩
      · exact ⟨.gt, rfl, (neg_neg_of_pos (hpos hn f)).trans (hpos hm e)⟩
      · exact ⟨_, rfl, compares_finite hm' hn'⟩

end Order

def exact (x : Float) : Rat := value x.toModel.unpack

section Floats

variable {x y : Float} (hx : x.isFinite) (hy : y.isFinite)

theorem representable_exact (hx : x.isFinite) : Representable (exact x) :=
  ((fits_unpack_iff x.toModel).mpr hx).representable

theorem pack_isRounding {u : UnpackedFloat} {q : Rat} (h : IsRounding u q) :
    (Float.ofModel (.pack u)).isFinite ∧ Rounds q (exact (.ofModel (.pack u))) := by
  have hunpack := unpack_pack h.fits
  constructor
  · change (Float.Model.pack u).isFinite
    rw [← fits_unpack_iff, hunpack]
    exact h.fits
  · change Rounds q (value (Float.Model.pack u).unpack)
    rw [hunpack]
    exact h.rounds

include hx hy

theorem add_spec (h : |exact x + exact y| ≤ largest) :
    (x + y).isFinite ∧ Rounds (exact x + exact y) (exact (x + y)) :=
  pack_isRounding (add_isRounding ((fits_unpack_iff _).mpr hx) ((fits_unpack_iff _).mpr hy) h)

theorem sub_spec (h : |exact x - exact y| ≤ largest) :
    (x - y).isFinite ∧ Rounds (exact x - exact y) (exact (x - y)) :=
  pack_isRounding (sub_isRounding ((fits_unpack_iff _).mpr hx) ((fits_unpack_iff _).mpr hy) h)

theorem mul_spec (h : |exact x * exact y| ≤ largest) :
    (x * y).isFinite ∧ Rounds (exact x * exact y) (exact (x * y)) :=
  pack_isRounding (mul_isRounding ((fits_unpack_iff _).mpr hx) ((fits_unpack_iff _).mpr hy) h)

theorem div_spec (hne : exact y ≠ 0) (h : |exact x / exact y| ≤ largest) :
    (x / y).isFinite ∧ Rounds (exact x / exact y) (exact (x / y)) :=
  pack_isRounding
    (div_isRounding ((fits_unpack_iff _).mpr hx) ((fits_unpack_iff _).mpr hy) hne h)

theorem lt_iff : x < y ↔ exact x < exact y := by
  obtain ⟨o, heq, hcompares⟩ :=
    compares_value ((fits_unpack_iff _).mpr hx) ((fits_unpack_iff _).mpr hy)
  change decide (x.toModel.unpack.lt y.toModel.unpack = true) = true ↔ _
  rw [decide_eq_true_iff, exact, exact, ← hcompares.eq_lt, UnpackedFloat.lt, heq]
  cases o <;> decide

theorem le_iff : x ≤ y ↔ exact x ≤ exact y := by
  obtain ⟨o, heq, hcompares⟩ :=
    compares_value ((fits_unpack_iff _).mpr hx) ((fits_unpack_iff _).mpr hy)
  change decide (x.toModel.unpack.le y.toModel.unpack = true) = true ↔ _
  rw [decide_eq_true_iff, exact, exact, ← hcompares.ne_gt, UnpackedFloat.le, heq]
  cases o <;> decide

end Floats

section Conversion

variable {n : Nat}

theorem toFloat_spec (h : n < 2 ^ 53) :
    n.toUInt64.toFloat.isFinite ∧ exact n.toUInt64.toFloat = n := by
  have hrepresentable := representable_natCast h.le
  have hn : n.toUInt64.toNat = n := by
    rw [Nat.toUInt64_eq, UInt64.toNat_ofNat']
    omega
  have habs : |((n : Int) : Rat) * 2 ^ (0 : Int)| ≤ largest := by
    rw [zpow_zero, mul_one, Int.cast_natCast]
    exact hrepresentable.abs_le
  obtain ⟨hfinite, hrounds⟩ := pack_isRounding (normalize_isRounding .positive habs)
  have heq : n.toUInt64.toFloat = .ofModel (.pack (.normalize .binary64 n 0 .positive)) := by
    change Float.ofModel (.pack (.normalize .binary64 (n.toUInt64.toNat : Int) 0 .positive)) = _
    rw [hn]
  rw [zpow_zero, mul_one, Int.cast_natCast] at hrounds
  rw [heq]
  exact ⟨hfinite, hrounds.eq_of_representable hrepresentable⟩

theorem ofNat_spec (h : n ≤ largest) :
    (Float.ofNat n).isFinite ∧ Rounds n (exact (Float.ofNat n)) := by
  by_cases hlt : n < 2 ^ 53
  · have hfast : Float.ofNat n = n.toUInt64.toFloat * .ofBits 0x3FF0000000000000 := by
      change Float.ofScientific n false 0 = _
      unfold Float.ofScientific
      rw [dif_pos ⟨hlt, by decide⟩]
      rfl
    have hone : (Float.ofBits 0x3FF0000000000000).isFinite ∧
        exact (.ofBits 0x3FF0000000000000) = 1 := by decide +kernel
    obtain ⟨hfinite, hexact⟩ := toFloat_spec hlt
    have hspec := mul_spec hfinite hone.1
    rw [hexact, hone.2, mul_one] at hspec
    rw [hfast]
    exact hspec (representable_natCast hlt.le).abs_le
  · have hslow : Float.ofNat n = .ofModel (.pack
        (roundWithAccuracy .binary64 .positive ((n <<< 53) * 10 ^ 0) (-53 + 0) .exact)) := by
      change Float.ofScientific n false 0 = _
      unfold Float.ofScientific
      rw [dif_neg (fun hfast => hlt hfast.1)]
      change Float.ofModel (.pack (.ofScientific .binary64 n 0)) = _
      unfold UnpackedFloat.ofScientific
      have hlarge : ¬ (0 : Int) < -(2 ^ Format.binary64.exponentBits + n.log2) :=
        not_lt.mpr (neg_nonpos.mpr (by positivity))
      rw [dif_neg (by omega), if_neg (by decide), if_neg hlarge, if_pos (le_refl 0)]
      rfl
    have hvalue : ((n <<< 53 * 10 ^ 0 : Nat) : Rat) * 2 ^ (-53 + 0 : Int) = n := by
      rw [Nat.shiftLeft_eq, pow_zero, mul_one, natCast_mul_two_zpow]
      norm_num
    have hbits : 2 ^ 52 ≤ n <<< 53 * 10 ^ 0 := by
      rw [Nat.shiftLeft_eq]
      omega
    rw [hslow]
    have hspec := roundWithAccuracy_isRounding .positive (.of_nat _) (Or.inl hbits)
      (hvalue.trans_le h)
    rw [hvalue] at hspec
    exact pack_isRounding hspec

end Conversion

end ViewMotion.Floating
