import Mathlib.Data.List.Basic
import Mathlib.Tactic.Linarith

/-!
# Pages

The numbers `1 .. total` on pages of `size` each. Page `k` is counted from zero.
-/

namespace BhDic.Library

/-- How many items page `k` has. -/
def pageCount (size total k : Nat) : Nat := min size (total - k * size)

/-- The numbers of the items on page `k`. -/
def pageNumbers (size total k : Nat) : List Nat :=
  List.range' (k * size + 1) (pageCount size total k)

/-- How many pages there are; there is one even where there are no items. -/
def pages (size total : Nat) : Nat := max 1 ((total + size - 1) / size)

variable {size total : Nat}

/-- The items of the first pages are the first items. -/
theorem flatMap_pageNumbers (m : Nat) :
    (List.range m).flatMap (pageNumbers size total) = List.range' 1 (min (m * size) total) := by
  induction m with
  | zero => simp
  | succ m ih =>
    have hsum : min ((m + 1) * size) total = min (m * size) total + pageCount size total m := by
      rw [pageCount, Nat.add_one_mul]
      omega
    rw [List.range_succ, List.flatMap_append, ih, List.flatMap_singleton, hsum, pageNumbers]
    rcases Nat.le_total (m * size) total with hle | hle
    · have hstart : m * size + 1 = 1 + min (m * size) total := by omega
      rw [hstart, List.range'_append_1]
    · have hnone : pageCount size total m = 0 := by
        rw [pageCount]
        omega
      simp [hnone]

/-- The items of a list that are on page `k`. -/
def pageOf {α : Type} (size : Nat) (items : List α) (k : Nat) : List α :=
  (items.drop (k * size)).take size

theorem flatMap_pageOf {α : Type} (items : List α) (m : Nat) :
    (List.range m).flatMap (pageOf size items) = items.take (m * size) := by
  induction m with
  | zero => simp
  | succ m ih =>
    rw [List.range_succ, List.flatMap_append, ih, List.flatMap_singleton, pageOf, Nat.add_one_mul,
      List.take_add]

theorem sum_pageCount (m : Nat) :
    ((List.range m).map (pageCount size total)).sum = min (m * size) total := by
  have hpages : (List.range m).flatMap (pageNumbers size total) =
      List.range' 1 (min (m * size) total) := flatMap_pageNumbers m
  have h := congrArg List.length hpages
  simpa [List.length_flatMap, pageNumbers, Function.comp_def] using h

/-- The last page ends with the last item. -/
theorem total_le_pages (hsize : 0 < size) : total ≤ pages size total * size := by
  have hdiv : total ≤ (total + size - 1) / size * size := by
    have := Nat.div_add_mod (total + size - 1) size
    have := Nat.mod_lt (total + size - 1) hsize
    rw [Nat.mul_comm]
    omega
  exact hdiv.trans (Nat.mul_le_mul_right _ (Nat.le_max_right _ _))

/-- All pages together are the list. -/
theorem flatMap_pages {α : Type} (hsize : 0 < size) (items : List α) :
    (List.range (pages size items.length)).flatMap (pageOf size items) = items := by
  rw [flatMap_pageOf]
  exact List.take_of_length_le (total_le_pages hsize)

theorem pages_zero (hsize : 0 < size) : pages size 0 = 1 := by
  rw [pages, Nat.div_eq_of_lt (by omega)]
  rfl

end BhDic.Library
