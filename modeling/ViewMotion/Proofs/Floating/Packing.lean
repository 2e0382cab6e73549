import Mathlib

/-!
This module contains the rational number that a finite floating point number of 64 bits stands for,
and what becomes of a mantissa and an exponent that are packed into the 64 bits.
-/

namespace ViewMotion.Floating

open Float.Model Float.Model.UnpackedFloat

/--
The mantissas and exponents that fit into the 64 bits, each number in the one way that is stored.
-/
structure Stored (m : Nat) (e : Int) : Prop where
  mantissa_lt : m < 2 ^ 53
  le_exponent : -1074 ≤ e
  exponent_le : e ≤ 971
  normal : e = -1074 ∨ 2 ^ 52 ≤ m

section Packing

variable (s : Sign) {m : Nat} {e : Int} (hm : 0 < m)

theorem toNat_implicit_append (mantissa : BitVec 52) :
    (1#1 ++ mantissa).toNat = 2 ^ 52 + mantissa.toNat := by
  rw [BitVec.toNat_append, ← Nat.shiftLeft_add_eq_or_of_lt mantissa.isLt]
  rfl

theorem unpack_normal {exponent : BitVec 11} (h : exponent ≠ -1#_) (h' : exponent ≠ 0#_)
    (mantissa : BitVec 52) :
    ∃ hpos, UnpackedFloat.unpack .binary64 (packComponents .binary64 s exponent mantissa) =
      .finite s (2 ^ 52 + mantissa.toNat) (exponent.toNat - 1075) hpos := by
  have hpos : 0 < 2 ^ 52 + mantissa.toNat := by omega
  refine ⟨hpos, ?_⟩
  unfold UnpackedFloat.unpack
  simp only [unpackMantissa_packComponents, unpackExponent_packComponents,
    unpackSign_packComponents, Sign.ofBitVec_toBitVec, toNat_implicit_append, if_neg h, if_neg h']
  rfl

theorem unpack_subnormal {mantissa : BitVec 52} (h : mantissa ≠ 0#_) :
    ∃ hpos, UnpackedFloat.unpack .binary64 (packComponents .binary64 s 0#_ mantissa) =
      .finite s mantissa.toNat (-1074) hpos := by
  have hpos : 0 < mantissa.toNat := by
    simpa [BitVec.toNat_pos, BitVec.pos_iff_ne_zero] using h
  refine ⟨hpos, ?_⟩
  unfold UnpackedFloat.unpack
  simp only [unpackMantissa_packComponents, unpackExponent_packComponents,
    unpackSign_packComponents, Sign.ofBitVec_toBitVec, dif_neg h]
  rfl

theorem pack_finite (h : Stored m e) :
    UnpackedFloat.pack .binary64 (.finite s m e hm) =
      if 2 ^ 52 ≤ m then
        packComponents .binary64 s (BitVec.ofNat 11 (e + 1075).toNat) (BitVec.ofNat 52 m)
      else packComponents .binary64 s 0#_ (BitVec.ofNat 52 m) := by
  obtain ⟨hlt, hmin, hmax, -⟩ := h
  have hbias : e + Format.binary64.exponentBias + Format.binary64.mantissaBitsWithoutImplicit =
      e + 1075 := by
    change e + 1023 + 52 = e + 1075
    omega
  have hfits : ¬ 2 ^ Format.binary64.exponentBits ≤ (e + 1075).toNat + 1 := by
    change ¬ 2048 ≤ (e + 1075).toNat + 1
    omega
  have hbits : m.log2 + 1 = Format.binary64.mantissaBits ↔ 2 ^ 52 ≤ m := by
    change m.log2 + 1 = 53 ↔ _
    rw [← Nat.le_log2 hm.ne']
    have hlog : m.log2 < 53 := (Nat.log2_lt hm.ne').mpr hlt
    omega
  unfold UnpackedFloat.pack
  dsimp only
  rw [hbias, if_neg hfits]
  simp only [hbits]

theorem unpack_pack_finite (h : Stored m e) :
    (Float.Model.pack (.finite s m e hm)).unpack = .finite s m e hm := by
  have hpack := pack_finite s hm h
  obtain ⟨hlt, hmin, hmax, hnormal⟩ := h
  change UnpackedFloat.unpack .binary64 (UnpackedFloat.pack .binary64 _) = _
  rw [hpack]
  split
  · next hle =>
    have hexponent : (BitVec.ofNat 11 (e + 1075).toNat).toNat = (e + 1075).toNat := by
      rw [BitVec.toNat_ofNat]
      omega
    have hones : BitVec.ofNat 11 (e + 1075).toNat ≠ -1#_ := by
      intro heq
      have htoNat : (BitVec.ofNat 11 (e + 1075).toNat).toNat = 2047 := congrArg BitVec.toNat heq
      omega
    have hzero : BitVec.ofNat 11 (e + 1075).toNat ≠ 0#_ := by
      intro heq
      have htoNat : (BitVec.ofNat 11 (e + 1075).toNat).toNat = 0 := congrArg BitVec.toNat heq
      omega
    obtain ⟨_, heq⟩ := unpack_normal s hones hzero (BitVec.ofNat 52 m)
    rw [heq, UnpackedFloat.finite.injEq, BitVec.toNat_ofNat]
    refine ⟨rfl, ?_, ?_⟩ <;> omega
  · next hsubnormal =>
    have hmantissa : (BitVec.ofNat 52 m).toNat = m := by
      rw [BitVec.toNat_ofNat]
      omega
    have hne : BitVec.ofNat 52 m ≠ 0#_ := by
      intro heq
      have htoNat : (BitVec.ofNat 52 m).toNat = 0 := congrArg BitVec.toNat heq
      omega
    obtain ⟨_, heq⟩ := unpack_subnormal s hne
    rw [heq, UnpackedFloat.finite.injEq]
    exact ⟨rfl, hmantissa, by omega⟩

end Packing

/--
Whatever the bits are, they hold what fits into them.
-/
theorem stored_of_unpack {bits : BitVec Format.binary64.numBits} {s : Sign} {m : Nat} {e : Int}
    {hm : 0 < m} (h : UnpackedFloat.unpack .binary64 bits = .finite s m e hm) : Stored m e := by
  have hmantissa : (unpackMantissa bits).toNat < 2 ^ 52 := (unpackMantissa bits).isLt
  have hexponent : (unpackExponent bits).toNat < 2 ^ 11 := (unpackExponent bits).isLt
  have hbias : ((Format.binary64.exponentBias : Int) + (52 : Nat)) = 1075 := rfl
  unfold UnpackedFloat.unpack at h
  dsimp only at h
  split at h
  · split at h <;> cases h
  · next hones =>
    have hones' : (unpackExponent bits).toNat ≠ 2047 :=
      fun heq => hones (BitVec.eq_of_toNat_eq heq)
    split at h
    · next hzero =>
      split at h
      · cases h
      · rw [UnpackedFloat.finite.injEq, hbias, hzero] at h
        obtain ⟨-, rfl, rfl⟩ := h
        exact ⟨by omega, by decide, by decide, Or.inl rfl⟩
    · next hzero =>
      have hzero' : (unpackExponent bits).toNat ≠ 0 :=
        fun heq => hzero (BitVec.eq_of_toNat_eq heq)
      rw [UnpackedFloat.finite.injEq, toNat_implicit_append, hbias] at h
      obtain ⟨-, rfl, rfl⟩ := h
      refine ⟨?_, ?_, ?_, Or.inr ?_⟩ <;> omega

/--
A number that needs no more bits than there are.
-/
def Fits : UnpackedFloat → Prop
  | .finite _ m e _ => Stored m e
  | .zero _ => True
  | .infinity _ | .notANumber => False

theorem unpack_pack {u : UnpackedFloat} (h : Fits u) : (Float.Model.pack u).unpack = u := by
  cases u with
  | finite s m e hm => exact unpack_pack_finite s hm h
  | zero s => exact unpack_packedZero
  | infinity _ => exact False.elim h
  | notANumber => exact False.elim h

theorem fits_unpack_iff (x : Float.Model) : Fits x.unpack ↔ x.isFinite := by
  unfold Float.Model.isFinite
  generalize hu : x.unpack = u
  cases u with
  | finite s m e hm => exact iff_of_true (stored_of_unpack hu) rfl
  | zero s => exact iff_of_true trivial rfl
  | infinity _ => exact iff_of_false id Bool.false_ne_true
  | notANumber => exact iff_of_false id Bool.false_ne_true

def signed : Sign → Rat → Rat
  | .negative, q => -q
  | .positive, q => q

/--
The number that is meant. What is no number reads as 0.
-/
def value : UnpackedFloat → Rat
  | .finite s m e _ => signed s (m * 2 ^ e)
  | .zero _ | .infinity _ | .notANumber => 0

end ViewMotion.Floating
