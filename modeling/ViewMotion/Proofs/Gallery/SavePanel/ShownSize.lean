import Mathlib.Tactic.Linarith
import ViewMotion.Gallery.SavePanel.ShownSize
import ViewMotion.Proofs.Decimal.Reading

/-!
This module contains what a reader makes of the sizes that a save panel shows. The number is less
than 1024 except where it is rounded up to that. A file that is not smaller never reads as smaller,
and what is read is not far from the size.
-/

namespace ViewMotion

inductive SizeUnit where
  | byte
  | kilobyte
  | megabyte
  | gigabyte
deriving DecidableEq, Repr

namespace SizeUnit

def bytes : SizeUnit → Nat
  | byte => 1
  | kilobyte => 1024
  | megabyte => 1024 * 1024
  | gigabyte => 1024 * 1024 * 1024

def symbol : SizeUnit → List Char
  | byte => ['B']
  | kilobyte => ['K', 'B']
  | megabyte => ['M', 'B']
  | gigabyte => ['G', 'B']

def all : List SizeUnit := [byte, kilobyte, megabyte, gigabyte]

def ofSymbol? (symbol : List Char) : Option SizeUnit := all.find? (·.symbol = symbol)

theorem ofSymbol?_symbol (unit : SizeUnit) : ofSymbol? unit.symbol = some unit := by
  cases unit <;> decide

end SizeUnit

structure ReadSize where
  number : Rat
  unit : SizeUnit
deriving DecidableEq, Repr

namespace ReadSize

def bytes (size : ReadSize) : Rat := size.number * size.unit.bytes

/--
A size is a number, a blank and the symbol of a unit.
-/
def ofText? (text : String) : Option ReadSize := do
  let number ← Decimal.read? (text.toList.takeWhile (· != ' '))
  let unit ← SizeUnit.ofSymbol? (text.toList.dropWhile (· != ' ')).tail
  return ⟨number, unit⟩

theorem ofText?_eq {text : String} {number : List Char} {value : Rat} {unit : SizeUnit}
    (htext : text.toList = number ++ ' ' :: unit.symbol) (hblank : ' ' ∉ number)
    (hnumber : Decimal.read? number = some value) : ofText? text = some ⟨value, unit⟩ := by
  have hchars : ∀ c ∈ number, (c != ' ') = true := by
    intro c hc
    rw [bne_iff_ne]
    exact fun heq => hblank (heq ▸ hc)
  have htake : text.toList.takeWhile (· != ' ') = number := by
    rw [htext, List.takeWhile_append_of_pos hchars]
    simp
  have hdrop : text.toList.dropWhile (· != ' ') = ' ' :: unit.symbol := by
    rw [htext, List.dropWhile_append_of_pos hchars]
    simp
  simp [ofText?, htake, hdrop, hnumber, SizeUnit.ofSymbol?_symbol]

end ReadSize

namespace ShownSize

def unit : ShownSize → SizeUnit
  | bytes _ => .byte
  | kilobytes _ => .kilobyte
  | megabytes _ => .megabyte
  | gigabytes _ => .gigabyte

def number : ShownSize → Rat
  | bytes count | kilobytes count => count
  | megabytes hundredths | gigabytes hundredths => hundredths / 100

def read (size : ShownSize) : ReadSize := ⟨size.number, size.unit⟩

section Reading

theorem blank_not_mem_toString (n : Nat) : ' ' ∉ (toString n).toList := by
  rw [Nat.toString_eq_repr, Nat.toList_repr]
  intro hblank
  exact absurd (Decimal.isDigit_of_mem n ' ' hblank) (by decide)

theorem blank_not_mem_hundredths (n : Nat) : ' ' ∉ (Decimal.hundredths n).toList := by
  have hplace (m : Nat) : ' ' ≠ (m % 10).digitChar := by
    intro heq
    have hdigit : (m % 10).digitChar.isDigit := by simp [Nat.mod_lt]
    rw [← heq] at hdigit
    exact absurd hdigit (by decide)
  rw [Decimal.hundredths_toList]
  simp only [List.mem_append, List.mem_cons, List.not_mem_nil, or_false, hplace]
  rintro (hwhole | hpoint)
  · exact absurd (Decimal.isDigit_of_mem _ ' ' hwhole) (by decide)
  · exact absurd hpoint (by decide)

/--
Whatever is shown can be read.
-/
theorem ofText?_text (size : ShownSize) : ReadSize.ofText? size.text = some size.read := by
  cases size with
  | bytes count | kilobytes count =>
    apply ReadSize.ofText?_eq _ (blank_not_mem_toString count) (Decimal.read?_toString count)
    simp only [text, String.toList_append]
    rfl
  | megabytes hundredths | gigabytes hundredths =>
    apply ReadSize.ofText?_eq _ (blank_not_mem_hundredths hundredths)
      (Decimal.read?_hundredths hundredths)
    simp only [text, String.toList_append]
    rfl

end Reading

section Choosing

def inUnit (count : Nat) : SizeUnit → ShownSize
  | .byte => .bytes count
  | .kilobyte => .kilobytes (count / 1024)
  | .megabyte => .megabytes (Decimal.roundDiv (100 * (count / 1024)) 1024)
  | .gigabyte => .gigabytes (Decimal.roundDiv (100 * (count / 1024)) (1024 * 1024))

theorem inUnit_unit (count : Nat) (unit : SizeUnit) : (inUnit count unit).unit = unit := by
  cases unit <;> rfl

/--
The count is at least one of the unit, and less than one of the next greater unit.
-/
structure Fits (count : Nat) (unit : SizeUnit) : Prop where
  le : unit.bytes ≤ count
  lt : count < 1024 * unit.bytes

theorem exists_fits {bytes : UInt32} (hzero : bytes ≠ 0) (hmax : bytes ≠ 4294967295) :
    ∃ unit, Fits bytes.toNat unit ∧ ofBytes? bytes = some (inUnit bytes.toNat unit) := by
  have hlt := bytes.toNat_lt
  have hzero : bytes.toNat ≠ 0 := fun heq => hzero (UInt32.toNat_inj.mp heq)
  have hmax : bytes.toNat ≠ Nat.pow 2 32 - 1 := fun heq => hmax (UInt32.toNat_inj.mp heq)
  unfold ofBytes?
  simp only [hzero, hmax, or_self, if_false]
  split
  · refine ⟨.byte, ⟨?_, ?_⟩, rfl⟩ <;> simp only [SizeUnit.bytes] <;> omega
  · split
    · refine ⟨.kilobyte, ⟨?_, ?_⟩, rfl⟩ <;> simp only [SizeUnit.bytes] <;> omega
    · split
      · refine ⟨.megabyte, ⟨?_, ?_⟩, rfl⟩ <;> simp only [SizeUnit.bytes] <;> omega
      · refine ⟨.gigabyte, ⟨?_, ?_⟩, rfl⟩ <;> simp only [SizeUnit.bytes] <;> omega

variable {count count' : Nat} {unit unit' : SizeUnit}

theorem number_mono (h : count ≤ count') (unit : SizeUnit) :
    (inUnit count unit).number ≤ (inUnit count' unit).number := by
  have hkilobytes : count / 1024 ≤ count' / 1024 := Nat.div_le_div_right h
  have hrounded (den : Nat) : (Decimal.roundDiv (100 * (count / 1024)) den / 100 : Rat) ≤
      Decimal.roundDiv (100 * (count' / 1024)) den / 100 := by
    apply div_le_div_of_nonneg_right _ (by norm_num)
    exact Nat.cast_le.mpr (Decimal.roundDiv_mono (Nat.mul_le_mul_left 100 hkilobytes) den)
  cases unit with
  | byte => exact Nat.cast_le.mpr h
  | kilobyte => exact Nat.cast_le.mpr hkilobytes
  | megabyte => exact hrounded 1024
  | gigabyte => exact hrounded (1024 * 1024)

theorem number_bytes (unit : SizeUnit) : (inUnit unit.bytes unit).number = 1 := by
  cases unit <;> norm_num [inUnit, number, SizeUnit.bytes, Decimal.roundDiv]

theorem number_next (unit : SizeUnit) : (inUnit (1024 * unit.bytes) unit).number = 1024 := by
  cases unit <;> norm_num [inUnit, number, SizeUnit.bytes, Decimal.roundDiv]

theorem Fits.one_le_number (h : Fits count unit) : 1 ≤ (inUnit count unit).number := by
  rw [← number_bytes unit]
  exact number_mono h.le unit

theorem Fits.number_le (h : Fits count unit) : (inUnit count unit).number ≤ 1024 := by
  rw [← number_next unit]
  exact number_mono h.lt.le unit

theorem Fits.le_bytes (h : Fits count unit) (h' : Fits count' unit') (hle : count ≤ count')
    (hne : unit ≠ unit') : 1024 * unit.bytes ≤ unit'.bytes := by
  have hlt := Nat.lt_of_le_of_lt (h.le.trans hle) h'.lt
  cases unit <;> cases unit' <;> simp [SizeUnit.bytes] at hne hlt ⊢

theorem Fits.read_mono (h : Fits count unit) (h' : Fits count' unit') (hle : count ≤ count') :
    (inUnit count unit).read.bytes ≤ (inUnit count' unit').read.bytes := by
  unfold read ReadSize.bytes
  simp only [inUnit_unit]
  by_cases hsame : unit = unit'
  · rw [hsame]
    exact mul_le_mul_of_nonneg_right (number_mono hle unit') (Nat.cast_nonneg _)
  · have hnext : (1024 * unit.bytes : Rat) ≤ unit'.bytes := by
      exact_mod_cast h.le_bytes h' hle hsame
    calc (inUnit count unit).number * unit.bytes
        ≤ 1024 * unit.bytes := mul_le_mul_of_nonneg_right h.number_le (Nat.cast_nonneg _)
      _ ≤ 1 * unit'.bytes := by rwa [one_mul]
      _ ≤ (inUnit count' unit').number * unit'.bytes :=
        mul_le_mul_of_nonneg_right h'.one_le_number (Nat.cast_nonneg _)

theorem abs_kilobytes_sub_le (count : Nat) :
    |((count / 1024 : Nat) * 1024 : Rat) - count| ≤ 1024 := by
  have hdiv : (1024 * (count / 1024 : Nat) + (count % 1024 : Nat) : Rat) = count := by
    exact_mod_cast Nat.div_add_mod count 1024
  have hmod : ((count % 1024 : Nat) : Rat) ≤ 1024 := by
    exact_mod_cast (Nat.mod_lt count (by decide)).le
  have hnonneg : (0 : Rat) ≤ (count % 1024 : Nat) := Nat.cast_nonneg _
  rw [abs_le]
  constructor <;> linarith

theorem abs_rounded_sub_le (kilobytes : Nat) {den : Nat} (hden : 0 < den) :
    |(Decimal.roundDiv (100 * kilobytes) den / 100 * (1024 * den) : Rat) - kilobytes * 1024| ≤
      1024 * den / 200 := by
  have hupper : (2 * den * Decimal.roundDiv (100 * kilobytes) den : Rat) ≤
      2 * (100 * kilobytes) + den := by
    exact_mod_cast Decimal.roundDiv_le (100 * kilobytes) den
  have hlower : (2 * (100 * kilobytes) : Rat) ≤
      2 * den * Decimal.roundDiv (100 * kilobytes) den + den := by
    exact_mod_cast Decimal.le_roundDiv (100 * kilobytes) hden
  rw [abs_le]
  constructor <;> linarith

theorem abs_read_sub_le (count : Nat) (unit : SizeUnit) :
    |(inUnit count unit).read.bytes - count| ≤ 1024 + unit.bytes / 200 := by
  have hkilobytes := abs_kilobytes_sub_le count
  have hrounded {den : Nat} (hden : 0 < den) (hbytes : unit.bytes = 1024 * den) :
      |(Decimal.roundDiv (100 * (count / 1024)) den / 100 * unit.bytes : Rat) - count| ≤
        1024 + unit.bytes / 200 := by
    rw [hbytes, Nat.cast_mul, Nat.cast_ofNat]
    calc |(Decimal.roundDiv (100 * (count / 1024)) den / 100 * (1024 * den) : Rat) - count|
        ≤ _ + _ := abs_sub_le _ ((count / 1024 : Nat) * 1024 : Rat) _
      _ ≤ 1024 * den / 200 + 1024 := add_le_add (abs_rounded_sub_le _ hden) hkilobytes
      _ = 1024 + 1024 * den / 200 := add_comm _ _
  cases unit with
  | byte => norm_num [read, ReadSize.bytes, inUnit, ShownSize.unit, number, SizeUnit.bytes]
  | kilobyte =>
    apply hkilobytes.trans
    norm_num [SizeUnit.bytes]
  | megabyte => exact hrounded (by decide : 0 < 1024) rfl
  | gigabyte => exact hrounded (by decide : 0 < 1024 * 1024) rfl

theorem exists_read {bytes : UInt32} (hzero : bytes ≠ 0) (hmax : bytes ≠ 4294967295) :
    ∃ unit, Fits bytes.toNat unit ∧
      ReadSize.ofText? (describeSize bytes) = some (inUnit bytes.toNat unit).read := by
  obtain ⟨unit, hfits, hsize⟩ := exists_fits hzero hmax
  refine ⟨unit, hfits, ?_⟩
  rw [describeSize, hsize, Option.elim_some, ofText?_text]

end Choosing

section Bounds

/--
The last count before that of the next greater unit which is not rounded up to it.
-/
def lastBelowNext : SizeUnit → Nat
  | .byte => 1023
  | .kilobyte => 1024 * 1024 - 1
  | .megabyte => 1024 * 1048571 - 1
  | .gigabyte => 4294967295

theorem number_lastBelowNext (unit : SizeUnit) :
    (inUnit (lastBelowNext unit) unit).number < 1024 := by
  cases unit <;> norm_num [inUnit, number, lastBelowNext, Decimal.roundDiv]

theorem Fits.number_lt {count : Nat} {unit : SizeUnit} (h : Fits count unit)
    (hcount : count ≤ 4294967295) (hlast : unit = .megabyte → count < 1024 * 1048571) :
    (inUnit count unit).number < 1024 := by
  have hle : count ≤ lastBelowNext unit := by
    have hlt := h.lt
    cases unit <;> simp [lastBelowNext, SizeUnit.bytes] at hlast hlt ⊢ <;> omega
  exact (number_mono hle unit).trans_lt (number_lastBelowNext unit)

theorem Fits.number_eq {count : Nat} (h : Fits count .megabyte) (hcount : 1024 * 1048571 ≤ count) :
    (inUnit count .megabyte).number = 1024 := by
  apply le_antisymm h.number_le
  have hrounded : (inUnit (1024 * 1048571) .megabyte).number = 1024 := by
    norm_num [inUnit, number, Decimal.roundDiv]
  rw [← hrounded]
  exact number_mono hcount .megabyte

/--
A number is at least 1 and less than 1024, but for the last five kilobytes before a gigabyte. There
it is rounded up to 1024.
-/
theorem shown_number_bounds {bytes : UInt32} (hzero : bytes ≠ 0) (hmax : bytes ≠ 4294967295) :
    ∃ size, ReadSize.ofText? (describeSize bytes) = some size ∧ 1 ≤ size.number ∧
      if 1073736704 ≤ bytes ∧ bytes < 1073741824 then size = ⟨1024, .megabyte⟩
      else size.number < 1024 := by
  obtain ⟨unit, hfits, hread⟩ := exists_read hzero hmax
  refine ⟨_, hread, hfits.one_le_number, ?_⟩
  have hle := hfits.le
  have hlt := hfits.lt
  split
  · next hlast =>
    rw [UInt32.le_iff_toNat_le, UInt32.lt_iff_toNat_lt] at hlast
    have hunit : unit = .megabyte := by
      cases unit <;> simp [SizeUnit.bytes] at hle hlt hlast ⊢ <;> omega
    subst hunit
    have hnumber := hfits.number_eq (by simpa using hlast.1)
    rw [read, hnumber, inUnit_unit]
  · next hlast =>
    rw [UInt32.le_iff_toNat_le, UInt32.lt_iff_toNat_lt] at hlast
    apply hfits.number_lt (by have := bytes.toNat_lt; omega)
    intro hunit
    subst hunit
    simp [SizeUnit.bytes] at hlt hlast
    omega

theorem shown_number_bounds_last : ∃ size, ReadSize.ofText? (describeSize 1073736703) = some size ∧
    1 ≤ size.number ∧ size.number < 1024 := by
  simpa using shown_number_bounds (by decide : (1073736703 : UInt32) ≠ 0) (by decide)

/--
One byte less than a gigabyte shows as 1024 megabytes.
-/
theorem shown_number_reaches_next :
    describeSize 1073741823 = "1024.00 MB" ∧
      ReadSize.ofText? (describeSize 1073741823) = some ⟨1024, .megabyte⟩ ∧
      ReadSize.ofText? (describeSize 1073741824) = some ⟨1, .gigabyte⟩ := by
  decide +kernel

end Bounds

theorem sizes_read_in_order {a b : UInt32} (ha : 0 < a) (hab : a ≤ b) (hb : b < 4294967295) :
    ∃ x y, ReadSize.ofText? (describeSize a) = some x ∧ ReadSize.ofText? (describeSize b) = some y ∧
      x.bytes ≤ y.bytes ∧ |x.bytes - a.toNat| ≤ 1024 + x.unit.bytes / 200 ∧
      (x.unit = .byte → x.bytes = a.toNat) := by
  rw [UInt32.le_iff_toNat_le] at hab
  rw [UInt32.lt_iff_toNat_lt] at ha hb
  have hknown {c : UInt32} (hle : a.toNat ≤ c.toNat) (hle' : c.toNat ≤ b.toNat) :
      c ≠ 0 ∧ c ≠ 4294967295 := by
    constructor
    · rintro rfl
      simp at ha hle
      omega
    · rintro rfl
      simp at hb hle'
      omega
  obtain ⟨unit, hfits, hread⟩ := exists_read (hknown le_rfl hab).1 (hknown le_rfl hab).2
  obtain ⟨unit', hfits', hread'⟩ := exists_read (hknown hab le_rfl).1 (hknown hab le_rfl).2
  refine ⟨_, _, hread, hread', hfits.read_mono hfits' hab, ?_, ?_⟩
  · have hunit : (inUnit a.toNat unit).read.unit = unit := inUnit_unit a.toNat unit
    rw [hunit]
    exact abs_read_sub_le a.toNat unit
  · intro hbyte
    have hunit : unit = .byte := (inUnit_unit a.toNat unit).symm.trans hbyte
    subst hunit
    norm_num [read, ReadSize.bytes, inUnit, ShownSize.unit, number, SizeUnit.bytes]

theorem sizes_read_in_order_across_units : ∃ x y,
    ReadSize.ofText? (describeSize 1073741823) = some x ∧
      ReadSize.ofText? (describeSize 1073741824) = some y ∧ x.unit ≠ y.unit ∧ x.bytes ≤ y.bytes ∧
      |x.bytes - 1073741823| ≤ 1024 + x.unit.bytes / 200 := by
  obtain ⟨x, y, hx, hy, hle, hclose, -⟩ :=
    sizes_read_in_order (a := 1073741823) (b := 1073741824) (by decide) (by decide) (by decide)
  have hunits : (ReadSize.ofText? (describeSize 1073741823)).map ReadSize.unit ≠
      (ReadSize.ofText? (describeSize 1073741824)).map ReadSize.unit := by decide +kernel
  rw [hx, hy] at hunits
  exact ⟨x, y, hx, hy, fun heq => hunits (congrArg some heq), hle, by simpa using hclose⟩

end ShownSize

end ViewMotion
