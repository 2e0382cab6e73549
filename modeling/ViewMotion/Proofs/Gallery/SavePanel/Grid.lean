import Mathlib.Tactic.Linarith
import Mathlib.Tactic.Ring
import ViewMotion.Proofs.Geometry
import ViewMotion.Proofs.Gallery.SavePanel.Plan

/-!
This module contains the grid of a save panel with exact numbers. The cells of a row stand side by
side in a strip, and the strips follow each other at equal distances.
-/

namespace ViewMotion.SavePanel

variable {rows : List Row} {rect : ViewId → Rect Rat}

section Constants

theorem heightLimit_rat : (heightLimit : Rat) = 420 := rfl

theorem border_rat : (border : Rat) = 1 := rfl

theorem sideMargin_rat : (sideMargin : Rat) = 12 := rfl

theorem lineMargin_rat : (lineMargin : Rat) = 3 := rfl

theorem scrollBar_rat : (scrollBar : Rat) = 15 := rfl

end Constants

section Rows

/--
The rectangle fills a strip from its upper to its lower edge.
-/
structure InStrip (left right y height : Rat) (r : Rect Rat) : Prop where
  left_le : left ≤ r.origin.x
  le_right : r.right ≤ right
  width_nonneg : 0 ≤ r.size.width
  top_eq : r.origin.y = y
  height_eq : r.size.height = height

theorem InStrip.mono {left left' right right' y height : Rat} {r : Rect Rat}
    (h : InStrip left right y height r) (hleft : left' ≤ left) (hright : right ≤ right') :
    InStrip left' right' y height r where
  left_le := le_trans hleft h.left_le
  le_right := le_trans h.le_right hright
  width_nonneg := h.width_nonneg
  top_eq := h.top_eq
  height_eq := h.height_eq

/--
In a strip, each cell ends before the next one begins.
-/
structure SideBySide (rect : ViewId → Rect Rat) (cells : List ViewId) (left right y height : Rat) :
    Prop where
  inStrip : ∀ v ∈ cells, InStrip left right y height (rect v)
  ordered : cells.Pairwise fun v w => (rect v).right ≤ (rect w).origin.x

theorem SideBySide.cons {v : ViewId} {cells : List ViewId} {left middle right y height : Rat}
    (hfirst : InStrip left middle y height (rect v))
    (hrest : SideBySide rect cells middle right y height) (hleft : left ≤ middle)
    (hright : middle ≤ right) : SideBySide rect (v :: cells) left right y height := by
  constructor
  case inStrip =>
    rw [List.forall_mem_cons]
    exact ⟨hfirst.mono (le_refl left) hright,
      fun w hw => (hrest.inStrip w hw).mono hleft (le_refl right)⟩
  case ordered =>
    rw [List.pairwise_cons]
    exact ⟨fun w hw => le_trans hfirst.le_right (hrest.inStrip w hw).left_le, hrest.ordered⟩

variable {naturalSize : ViewId → Size Rat} {columns : List (Column Rat × Rat)}

def rowEnd (x : Rat) (columns : List (Column Rat × Rat)) : Rat :=
  columns.foldl (fun x entry => x + (entry.1.gap + entry.2)) x

variable (hcolumns : ∀ entry ∈ columns, 0 ≤ entry.1.gap ∧ 0 ≤ entry.2)

include hcolumns

theorem le_rowEnd (x : Rat) : x ≤ rowEnd x columns := by
  induction columns generalizing x with
  | nil => exact le_refl x
  | cons entry columns ih =>
    rw [List.forall_mem_cons] at hcolumns
    calc x
      _ ≤ x + (entry.1.gap + entry.2) :=
        le_add_of_nonneg_right (add_nonneg hcolumns.1.1 hcolumns.1.2)
      _ ≤ rowEnd x (entry :: columns) := ih hcolumns.2 _

theorem rowPlan_sideBySide {row : Row} {y height x : Rat}
    (hnatural : ∀ v ∈ columns.map fun entry => entry.1.cell row, 0 ≤ (naturalSize v).width)
    (hrect : ∀ entry ∈ rowPlan naturalSize row y height x columns, rect entry.1 = entry.2) :
    SideBySide rect (columns.map fun entry => entry.1.cell row) x (rowEnd x columns) y height := by
  induction columns generalizing x with
  | nil => exact ⟨fun _ hv => absurd hv List.not_mem_nil, List.Pairwise.nil⟩
  | cons entry columns ih =>
    rw [rowPlan, List.forall_mem_cons] at hrect
    rw [List.map_cons, List.forall_mem_cons] at hnatural
    rw [List.forall_mem_cons] at hcolumns
    rcases hcolumns with ⟨⟨hgap, hwidth⟩, hcolumns⟩
    have hcell : rect (entry.1.cell row) = .ofXYWH (x + entry.1.gap) y
        (min (naturalSize (entry.1.cell row)).width entry.2) height := by
      rw [← Scalar.min_rat]
      exact hrect.1
    have hfirst : InStrip x (x + entry.1.gap + entry.2) y height (rect (entry.1.cell row)) := by
      rw [hcell]
      constructor
      case left_le => exact le_add_of_nonneg_right hgap
      case le_right => exact add_le_add_right (min_le_right _ _) _
      case width_nonneg => exact le_min hnatural.1 hwidth
      case top_eq => rfl
      case height_eq => rfl
    have hend : rowEnd x (entry :: columns) = rowEnd (x + entry.1.gap + entry.2) columns := by
      rw [add_assoc]
      rfl
    rw [hend]
    apply SideBySide.cons hfirst (ih hcolumns hnatural.2 hrect.2)
    · rw [add_assoc]
      exact le_add_of_nonneg_right (add_nonneg hgap hwidth)
    · exact le_rowEnd hcolumns _

/--
The rows follow each other at equal distances.
-/
theorem rowsPlan_sideBySide {height y : Rat}
    (hcells : ∀ row : Row, (columns.map fun entry => entry.1.cell row) = row.cells)
    (hnatural : ∀ v ∈ rows.flatMap Row.cells, 0 ≤ (naturalSize v).width)
    (hrect : ∀ entry ∈ rowsPlan naturalSize columns height y rows, rect entry.1 = entry.2)
    (i : Nat) (hi : i < rows.length) :
    SideBySide rect rows[i].cells 0 (rowEnd 0 columns) (y + i * (height + lineMargin)) height := by
  induction rows generalizing y i with
  | nil => contradiction
  | cons row rows ih =>
    rw [rowsPlan, List.forall_mem_append] at hrect
    rw [List.flatMap_cons, List.forall_mem_append] at hnatural
    cases i with
    | zero =>
      rw [Nat.cast_zero, zero_mul, add_zero, List.getElem_cons_zero, ← hcells]
      apply rowPlan_sideBySide hcolumns _ hrect.1
      rw [hcells]
      exact hnatural.1
    | succ i =>
      have hrest := ih hnatural.2 hrect.2 i (Nat.lt_of_succ_lt_succ hi)
      have hy : y + (height + lineMargin) + i * (height + lineMargin) =
          y + ((i + 1 : Nat) : Rat) * (height + lineMargin) := by
        rw [Nat.cast_succ]
        ring
      rw [hy] at hrest
      exact hrest

end Rows

section Metrics

theorem foldl_max_nonneg {α : Type} (f : α → Rat) (xs : List α) :
    0 ≤ xs.foldl (fun y x => Scalar.max y (f x)) 0 := by
  have hge (y : Rat) : y ≤ xs.foldl (fun y x => Scalar.max y (f x)) y := by
    induction xs generalizing y with
    | nil => exact le_refl y
    | cons x xs ih =>
      rw [List.foldl_cons, Scalar.max_rat]
      exact le_trans (le_max_left y (f x)) (ih _)
  exact hge 0

variable (tree : ViewTree Rat) (rows : List Row)

theorem rowHeight_nonneg : 0 ≤ rowHeight tree rows := foldl_max_nonneg _ _

theorem widthIn_nonneg (column : Column Rat) (h : column.width = none) :
    0 ≤ column.widthIn tree rows := by
  unfold Column.widthIn
  rw [h]
  exact foldl_max_nonneg _ _

theorem columnsIn_nonneg : ∀ entry ∈ columnsIn tree rows, 0 ≤ entry.1.gap ∧ 0 ≤ entry.2 := by
  have h19 : (0 : Rat) ≤ 19 := by norm_num
  have h120 : (0 : Rat) ≤ 120 := by norm_num
  have h12 : (0 : Rat) ≤ 12 := by norm_num
  have h3 : (0 : Rat) ≤ 3 := by norm_num
  unfold columnsIn Column.all
  simp only [List.map_cons, List.map_nil, List.forall_mem_cons]
  exact ⟨⟨h12, h19⟩, ⟨h3, h120⟩, ⟨h12, widthIn_nonneg tree rows _ rfl⟩,
    ⟨h12, widthIn_nonneg tree rows _ rfl⟩, fun _ h => absurd h List.not_mem_nil⟩

theorem gridSize_width_rat :
    (gridSize tree rows).width = rowEnd 0 (columnsIn tree rows) + 12 := rfl

/--
That is what the gaps and the columns of fixed width take.
-/
theorem le_gridSize_width : 190 ≤ (gridSize tree rows).width := by
  have hsize := widthIn_nonneg tree rows ⟨12, none, Row.size⟩ rfl
  have hlink := widthIn_nonneg tree rows ⟨12, none, Row.link⟩ rfl
  change (190 : Rat) ≤ 0 + (12 + 19) + (3 + 120) + (12 + Column.widthIn _ tree rows) +
    (12 + Column.widthIn _ tree rows) + 12
  linarith

end Metrics

section Tops

variable {tree : ViewTree Rat} {rows : List Row}

/--
Where the row with `i` rows above it begins.
-/
def rowTop (tree : ViewTree Rat) (rows : List Row) (i : Nat) : Rat :=
  lineMargin + i * (rowHeight tree rows + lineMargin)

theorem rowTop_succ (i : Nat) :
    rowTop tree rows (i + 1) = rowTop tree rows i + rowHeight tree rows + lineMargin := by
  unfold rowTop
  rw [Nat.cast_succ]
  ring

theorem rowTop_mono {i j : Nat} (hij : i ≤ j) : rowTop tree rows i ≤ rowTop tree rows j := by
  have hheight := rowHeight_nonneg tree rows
  have hpitch : 0 ≤ rowHeight tree rows + lineMargin := by
    rw [lineMargin_rat]
    linarith
  have hcast : (i : Rat) ≤ j := Nat.cast_le.mpr hij
  unfold rowTop
  exact add_le_add_right (mul_le_mul_of_nonneg_right hcast hpitch) _

theorem rowTop_nonneg (i : Nat) : 0 ≤ rowTop tree rows i := by
  refine le_trans ?_ (rowTop_mono (Nat.zero_le i))
  unfold rowTop
  rw [Nat.cast_zero, zero_mul, lineMargin_rat]
  norm_num

theorem gridSize_height_rat : (gridSize tree rows).height = rowTop tree rows rows.length := rfl

end Tops

end ViewMotion.SavePanel
