import ViewMotion.Motion.Basic
import ViewMotion.Proofs.Floating.Easing

/-!
This module contains what becomes of the order of durations if seconds are computed with rounding.
Two durations may become the same, but they never change places, so a motion is done when its time
is up.
-/

namespace ViewMotion

open Floating

namespace Floating

theorem exists_two_mul_of_representable {q : Rat} (h : Representable q) (hle : 2 ^ 53 ≤ q) :
    ∃ k : Nat, q = 2 * k := by
  obtain ⟨m, e, hstored, heq⟩ := h
  rw [abs_of_nonneg (by linarith)] at heq
  have hexponent : 1 ≤ e := by
    by_contra hlt
    have hbelow := hstored.lt_of_exponent_lt (e := 1) (by omega)
    rw [zpow_one] at hbelow
    linarith
  refine ⟨m * 2 ^ (e - 1).toNat, ?_⟩
  have hwhole := natCast_mul_two_zpow m (e - 1).toNat 1
  rw [Int.toNat_of_nonneg (by omega), add_sub_cancel, zpow_one, ← heq] at hwhole
  rw [← hwhole, mul_comm]

/--
From here on all numbers that need no rounding are even.
-/
theorem Rounds.le_of_add_lt {w r z : Rat} (h : Rounds (w + r) z) (hw : Representable w)
    (hle : 2 ^ 53 ≤ w) (hr : 0 ≤ r) (hr' : r < 1) : z ≤ w := by
  by_contra hgt
  obtain ⟨k, hk⟩ := exists_two_mul_of_representable hw hle
  obtain ⟨l, hl⟩ := exists_two_mul_of_representable h.representable (by linarith)
  have hnext : w + 2 ≤ z := by
    rw [hk, hl] at hgt ⊢
    have hlt : k < l := by
      have hlt := lt_of_mul_lt_mul_left (not_le.mp hgt) two_pos.le
      exact_mod_cast hlt
    have hle : (k + 1 : Rat) ≤ l := by exact_mod_cast hlt
    linarith
  have hnearest := h.nearest hw
  rw [add_sub_cancel_left, abs_of_nonneg hr, abs_sub_comm, abs_of_nonneg (by linarith)] at hnearest
  linarith

end Floating

namespace Duration

/--
The number of seconds, and the rest in seconds, as they are before they are added.
-/
def wholePart (seconds : Nat) : Rat := exact (Float.ofNat seconds)

def rest (subsecond : Nat) : Rat := exact (Float.ofNat subsecond / Float.ofNat 1000000000)

section Parts

variable {s t : Nat} (ht : t < 2 ^ 64)

include ht in
theorem ofNat_seconds_spec : (Float.ofNat t).isFinite ∧ Rounds t (wholePart t) := by
  apply ofNat_spec
  have hlt : (t : Rat) < 2 ^ 64 := by exact_mod_cast ht
  exact hlt.le.trans (two_pow_le_largest (by decide))

theorem wholePart_eq (hs : s < 2 ^ 53) : wholePart s = s :=
  (ofNat_seconds_spec (by omega)).2.eq_of_representable (representable_natCast hs.le)

include ht in
theorem wholePart_mono (hle : s ≤ t) : wholePart s ≤ wholePart t := by
  rcases Nat.lt_or_eq_of_le hle with hlt | rfl
  · have hs := ofNat_seconds_spec (hlt.trans ht)
    exact hs.2.le_of_lt (ofNat_seconds_spec ht).2 (by exact_mod_cast hlt)
  · exact le_refl _

end Parts

section Rest

variable {m n : Nat} (hn : n < 1000000000)

include hn

theorem rest_spec :
    (Float.ofNat n / Float.ofNat 1000000000).isFinite ∧ Rounds (n / 1000000000) (rest n) := by
  have hnumerator := ofNat_seconds_spec (t := n) (by omega)
  have hdenominator := ofNat_seconds_spec (t := 1000000000) (by decide)
  have hspec := div_spec hnumerator.1 hdenominator.1
  have hn' : exact (Float.ofNat n) = n := wholePart_eq (by omega)
  have hbillion : exact (Float.ofNat 1000000000) = 1000000000 := wholePart_eq (by decide)
  rw [hn', hbillion] at hspec
  apply hspec (by norm_num)
  have hlt : (n : Rat) < 1000000000 := by exact_mod_cast hn
  rw [abs_of_nonneg (by positivity)]
  exact ((div_lt_one (by norm_num)).mpr hlt).le.trans Easing.inRange_one.representable.le_largest

theorem rest_nonneg : 0 ≤ rest n := (rest_spec hn).2.ge_of_ge representable_zero (by positivity)

theorem rest_lt_one : rest n < 1 := by
  have hmost : Representable ((2 ^ 30 - 1 : Nat) * 2 ^ (-30 : Int)) :=
    representable_of_lt (by decide) (by decide) (by decide)
  have hle : (n : Rat) ≤ 999999999 := by exact_mod_cast Nat.le_pred_of_lt hn
  have hmost' : rest n ≤ (2 ^ 30 - 1 : Nat) * 2 ^ (-30 : Int) := by
    apply (rest_spec hn).2.le_of_le hmost
    rw [div_le_iff₀ (by norm_num)]
    norm_num
    linarith
  apply hmost'.trans_lt
  norm_num

/--
A nanosecond is longer than twice the distance that two numbers below 1 need to be told apart.
-/
theorem rest_lt_rest (hlt : m < n) : rest m < rest n := by
  obtain ⟨k, hm, hn'⟩ : ∃ k, m * 2 ^ 31 ≤ k * 1000000000 ∧ (k + 1) * 1000000000 ≤ n * 2 ^ 31 :=
    ⟨m * 2 ^ 31 / 1000000000 + 1, by omega, by omega⟩
  have hrepresentable {k : Nat} (hk : k ≤ 2 ^ 31) : Representable (k * 2 ^ (-31 : Int)) :=
    representable_of_lt (by omega) (by decide) (by decide)
  have hbelow : rest m ≤ k * 2 ^ (-31 : Int) := by
    apply (rest_spec (hlt.trans hn)).2.le_of_le (hrepresentable (by omega))
    have hm' : (m * 2 ^ 31 : Rat) ≤ k * 1000000000 := by exact_mod_cast hm
    rw [div_le_iff₀ (by norm_num)]
    norm_num
    linarith
  have habove : (k + 1 : Nat) * 2 ^ (-31 : Int) ≤ rest n := by
    apply (rest_spec hn).2.ge_of_ge (hrepresentable (by omega))
    have hn'' : ((k + 1 : Nat) * 1000000000 : Rat) ≤ n * 2 ^ 31 := by exact_mod_cast hn'
    rw [le_div_iff₀ (by norm_num)]
    norm_num at hn'' ⊢
    linarith
  calc
    rest m ≤ k * 2 ^ (-31 : Int) := hbelow
    _ < (k + 1 : Nat) * 2 ^ (-31 : Int) := by
      rw [Nat.cast_add, Nat.cast_one]
      linarith [two_zpow_pos (-31)]
    _ ≤ rest n := habove

end Rest

theorem subsecond_lt (d : Duration) : d.subsecond < 1000000000 := Nat.mod_lt _ (by decide)

section Representable

variable {d d' : Duration} (h : d.isRepresentable) (h' : d'.isRepresentable)

include h in
theorem seconds_lt : d.seconds < 2 ^ 64 := of_decide_eq_true h

include h in
theorem inSeconds_spec :
    (d.inSeconds : Float).isFinite ∧
      Rounds (wholePart d.seconds + rest d.subsecond) (exact d.inSeconds) := by
  have hseconds := seconds_lt h
  obtain ⟨hfinite, hrounds⟩ := ofNat_seconds_spec hseconds
  obtain ⟨hfinite', -⟩ := rest_spec d.subsecond_lt
  apply add_spec hfinite hfinite'
  change |wholePart d.seconds + rest d.subsecond| ≤ largest
  have hnonneg : 0 ≤ wholePart d.seconds := hrounds.ge_of_ge representable_zero (by positivity)
  have htop : Representable ((1 : Nat) * 2 ^ (64 : Int)) :=
    representable_of_lt (by decide) (by decide) (by decide)
  have hle : wholePart d.seconds ≤ (1 : Nat) * 2 ^ (64 : Int) := by
    apply hrounds.le_of_le htop
    exact_mod_cast hseconds.le
  have hnonneg' := rest_nonneg d.subsecond_lt
  have hlt := rest_lt_one d.subsecond_lt
  have hlargest : (2 : Rat) ^ 65 ≤ largest := two_pow_le_largest (by decide)
  rw [abs_of_nonneg (by linarith)]
  norm_num at hle hlargest
  linarith

include h h'

theorem inSeconds_le_of_seconds_lt (hlt : d.seconds < d'.seconds) :
    exact d.inSeconds ≤ exact d'.inSeconds := by
  have hspec := (inSeconds_spec h).2
  have hspec' := (inSeconds_spec h').2
  have hwhole' := (ofNat_seconds_spec (seconds_lt h')).2
  have hrest' := rest_nonneg d'.subsecond_lt
  by_cases hsmall : d.seconds < 2 ^ 53
  · -- the next full second needs no rounding
    have hnext : Representable (d.seconds + 1 : Nat) := representable_natCast hsmall
    calc
      exact d.inSeconds ≤ (d.seconds + 1 : Nat) := by
        apply hspec.le_of_le hnext
        rw [wholePart_eq hsmall, Nat.cast_add, Nat.cast_one]
        linarith [rest_lt_one d.subsecond_lt]
      _ ≤ exact d'.inSeconds := by
        apply hspec'.ge_of_ge hnext
        linarith [hwhole'.ge_of_ge hnext (by exact_mod_cast hlt)]
  · -- the rest of a second is lost
    have hwhole := (ofNat_seconds_spec (seconds_lt h)).2
    have hlarge : 2 ^ 53 ≤ wholePart d.seconds := by
      have hbound := hwhole.ge_of_ge (representable_natCast (le_refl (2 ^ 53)))
        (by exact_mod_cast not_lt.mp hsmall)
      exact_mod_cast hbound
    calc
      exact d.inSeconds ≤ wholePart d.seconds :=
        hspec.le_of_add_lt hwhole.representable hlarge (rest_nonneg d.subsecond_lt)
          (rest_lt_one d.subsecond_lt)
      _ ≤ wholePart d'.seconds := wholePart_mono (seconds_lt h') hlt.le
      _ ≤ exact d'.inSeconds := hspec'.ge_of_ge hwhole'.representable (by linarith)

theorem inSeconds_mono (hle : d.nanoseconds ≤ d'.nanoseconds) :
    exact d.inSeconds ≤ exact d'.inSeconds := by
  rcases Nat.lt_or_eq_of_le (Nat.div_le_div_right hle) with hlt | heq
  · exact inSeconds_le_of_seconds_lt h h' hlt
  · change d.seconds = d'.seconds at heq
    have hspec := (inSeconds_spec h).2
    have hspec' := (inSeconds_spec h').2
    rcases Nat.lt_or_ge d.subsecond d'.subsecond with hlt | hge
    · apply hspec.le_of_lt hspec'
      rw [heq]
      linarith [rest_lt_rest d'.subsecond_lt hlt]
    · have hsame : d = d' := by
        rw [← d.ofSeconds_seconds_subsecond, ← d'.ofSeconds_seconds_subsecond] at hle ⊢
        unfold ofSeconds at hle
        have hsubsecond : d.subsecond = d'.subsecond := by
          dsimp only at hle
          omega
        rw [heq, hsubsecond]
      rw [hsame]

omit h' in
/--
The quotient of two of these numbers does not overflow.
-/
theorem inSeconds_inRange (hpos : d.isZero = false) :
    InRange (1 / 2 ^ 30) (2 ^ 65) d.inSeconds := by
  let shortest : Duration := ⟨1⟩
  let longest : Duration := ⟨2 ^ 64 * 1000000000 - 1⟩
  have hshortest : shortest.isRepresentable := by decide
  have hlongest : longest.isRepresentable := by decide
  have hge : 1 / 2 ^ 30 ≤ exact shortest.inSeconds := by decide +kernel
  have hle : exact longest.inSeconds ≤ 2 ^ 65 := by decide +kernel
  have hpos' : shortest.nanoseconds ≤ d.nanoseconds := by
    unfold isZero at hpos
    rw [beq_eq_false_iff_ne] at hpos
    exact Nat.one_le_iff_ne_zero.mpr hpos
  have hbound : d.nanoseconds ≤ longest.nanoseconds := by
    have hlt := seconds_lt h
    unfold seconds at hlt
    change d.nanoseconds ≤ 2 ^ 64 * 1000000000 - 1
    omega
  exact {
    finite := (inSeconds_spec h).1
    ge := hge.trans (inSeconds_mono hshortest h hpos')
    le := (inSeconds_mono h hlongest hbound).trans hle
  }

end Representable

end Duration

theorem Scalar.one_le_clamp {x : Float} (h : InRange 1 largest x) :
    1 ≤ Scalar.min (Scalar.max 0 x) 1 := by
  have hone : 1 ≤ x := by
    rw [le_iff Easing.inRange_one.finite h.finite, Easing.inRange_one.exact_eq]
    exact h.ge
  have hpos : 0 < x := by
    rw [lt_iff Easing.inRange_zero.finite h.finite, Easing.inRange_zero.exact_eq]
    linarith [h.ge]
  have hmax : Scalar.max 0 x = x := by
    unfold Scalar.max
    rw [LawfulScalar.isNaN_zero, LawfulScalar.isNaN_of_pos hpos, if_neg Bool.false_ne_true,
      if_neg Bool.false_ne_true]
    exact if_pos hpos
  rw [hmax]
  rcases Scalar.min_cases (LawfulScalar.isNaN_of_pos hpos) Easing.isNaN_one with heq | heq
  · rw [heq]
    exact Easing.one_le_one
  · rw [heq]
    exact hone

namespace Motion

variable (motion : Motion Float) {now : Instant}

theorem isDone_of_isZero (h : motion.duration.isZero) : motion.isDone now := by
  unfold isDone progress
  rw [if_pos h]
  exact decide_eq_true Easing.one_le_one

theorem isDone_of_due (hduration : motion.duration.isRepresentable)
    (helapsed : (now.since motion.began).isRepresentable)
    (hdue : motion.duration.nanoseconds ≤ (now.since motion.began).nanoseconds) :
    motion.isDone now := by
  cases hzero : motion.duration.isZero with
  | true => exact motion.isDone_of_isZero hzero
  | false =>
    have hduration' := Duration.inSeconds_inRange hduration hzero
    have helapsed' : InRange (1 / 2 ^ 30) (2 ^ 65) (now.since motion.began).inSeconds := by
      apply Duration.inSeconds_inRange helapsed
      unfold Duration.isZero at hzero ⊢
      rw [beq_eq_false_iff_ne] at hzero ⊢
      omega
    have hle := Duration.inSeconds_mono hduration helapsed hdue
    have hpos : 0 < exact (motion.duration.inSeconds : Float) :=
      lt_of_lt_of_le (by norm_num) hduration'.ge
    unfold isDone progress
    rw [decide_eq_true_iff, if_neg (by rw [hzero]; exact Bool.false_ne_true)]
    apply Scalar.one_le_clamp
    apply div_inRange Easing.inRange_one.representable representable_largest helapsed'.finite
      hduration'.finite hpos.ne'
    · exact (one_le_div hpos).mpr hle
    · calc
        exact (now.since motion.began).inSeconds / exact motion.duration.inSeconds
            ≤ 2 ^ 65 / (1 / 2 ^ 30) :=
          div_le_div₀ (by norm_num) helapsed'.le (by norm_num) hduration'.ge
        _ = 2 ^ 95 := by norm_num
        _ ≤ largest := two_pow_le_largest (by decide)

end Motion

end ViewMotion
