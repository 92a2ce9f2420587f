import FixedWidth.Text.Unprintable
import FixedWidth.Text.Visible

/-!
# Which characters are unprintable

The unprintable characters are those that are invisible and those that extend a grapheme, with two
exceptions: the halfwidth sound marks, which extend the character before them and still have a
place of their own.

To compare the tables, the ranges of two of them are merged into one list, in which ranges that
overlap or touch are joined.  The result is the third table.
-/

namespace FixedWidth.Text

/-! ## Joining ranges -/

theorem isInRanges_cons (r : Nat × Nat) (ranges : List (Nat × Nat)) (c : Char) :
    isInRanges (r :: ranges) c =
      (decide (r.1 ≤ c.toNat) && decide (c.toNat ≤ r.2) || isInRanges ranges c) :=
  List.any_cons

theorem isInRanges_append (as bs : List (Nat × Nat)) (c : Char) :
    isInRanges (as ++ bs) c = (isInRanges as c || isInRanges bs c) :=
  List.any_append

/-- Ranges in the order of their first code points, if each list has them in that order. -/
def mergeRanges : List (Nat × Nat) → List (Nat × Nat) → List (Nat × Nat)
  | [], bs => bs
  | a :: as, bs =>
    bs.takeWhile (fun b => b.1 < a.1) ++ a :: mergeRanges as (bs.dropWhile fun b => b.1 < a.1)

theorem isInRanges_mergeRanges (as bs : List (Nat × Nat)) (c : Char) :
    isInRanges (mergeRanges as bs) c = (isInRanges as c || isInRanges bs c) := by
  induction as generalizing bs with
  | nil => rfl
  | cons a as ih =>
      have hparts : isInRanges bs c =
          (isInRanges (bs.takeWhile fun b => b.1 < a.1) c ||
            isInRanges (bs.dropWhile fun b => b.1 < a.1) c) := by
        rw [← isInRanges_append, List.takeWhile_append_dropWhile]
      rw [mergeRanges, isInRanges_append, isInRanges_cons, ih, isInRanges_cons, hparts]
      ac_rfl

/-- Extends a range by those behind it, as far as they leave no gap. -/
def joinFrom (r : Nat × Nat) : List (Nat × Nat) → List (Nat × Nat)
  | [] => [r]
  | s :: rest =>
    if r.1 ≤ s.1 ∧ s.1 ≤ r.2 + 1 then joinFrom (r.1, max r.2 s.2) rest else r :: joinFrom s rest

theorem isInRanges_joinFrom (r : Nat × Nat) (rest : List (Nat × Nat)) (c : Char) :
    isInRanges (joinFrom r rest) c = isInRanges (r :: rest) c := by
  induction rest generalizing r with
  | nil => rfl
  | cons s rest ih =>
      rw [joinFrom]
      split
      · rename_i hgap
        have hjoin : (decide (r.1 ≤ c.toNat) && decide (c.toNat ≤ max r.2 s.2)) =
            (decide (r.1 ≤ c.toNat) && decide (c.toNat ≤ r.2) ||
              decide (s.1 ≤ c.toNat) && decide (c.toNat ≤ s.2)) := by
          rw [Bool.eq_iff_iff]
          simp only [Bool.or_eq_true, Bool.and_eq_true, decide_eq_true_eq]
          omega
        rw [ih, isInRanges_cons, isInRanges_cons, isInRanges_cons, ← Bool.or_assoc, ← hjoin]
      · rw [isInRanges_cons, ih, ← isInRanges_cons]

def joinRanges : List (Nat × Nat) → List (Nat × Nat)
  | [] => []
  | r :: rest => joinFrom r rest

theorem isInRanges_joinRanges (ranges : List (Nat × Nat)) (c : Char) :
    isInRanges (joinRanges ranges) c = isInRanges ranges c := by
  cases ranges with
  | nil => rfl
  | cons r rest => exact isInRanges_joinFrom r rest c

theorem isInRanges_erase {r : Nat × Nat} {ranges : List (Nat × Nat)} (h : r ∈ ranges) (c : Char) :
    isInRanges ranges c = isInRanges (r :: ranges.erase r) c :=
  (List.perm_cons_erase h).any_eq

/-! ## The tables -/

/-- The voiced and the semi-voiced halfwidth sound mark. -/
def soundMarks : Nat × Nat := (0xFF9E, 0xFF9F)

def isSoundMark (c : Char) : Bool := soundMarks.1 ≤ c.toNat && c.toNat ≤ soundMarks.2

theorem joinRanges_tables :
    joinRanges (mergeRanges invisibleRanges (extendingRanges.erase soundMarks)) =
      (0x00, 0x1F) :: (0x7F, 0xA0) :: unprintableRanges.tail := by
  decide +kernel

theorem isUnprintable_eq_isInRanges (c : Char) :
    isUnprintable c = isInRanges ((0x00, 0x1F) :: (0x7F, 0xA0) :: unprintableRanges.tail) c := by
  rw [isUnprintable, isInRanges_cons, isInRanges_cons]
  split
  · rename_i hascii
    have hfirst : (unprintableRanges.tail.all fun r => 0x80 ≤ r.1) = true := by decide +kernel
    have htail : isInRanges unprintableRanges.tail c = false := by
      rw [isInRanges, List.any_eq_false]
      intro r hr
      have hle : 0x80 ≤ r.1 := of_decide_eq_true (List.all_eq_true.1 hfirst r hr)
      simp only [Bool.and_eq_true, decide_eq_true_eq]
      omega
    rw [htail, Bool.or_false, Bool.eq_iff_iff]
    simp only [Bool.or_eq_true, Bool.and_eq_true, decide_eq_true_eq, beq_iff_eq]
    omega
  · rename_i hbeyond
    have hparts : unprintableRanges = (0x80, 0xA0) :: unprintableRanges.tail := rfl
    change isInRanges unprintableRanges c = _
    rw [hparts, isInRanges_cons, List.tail_cons, ← Bool.or_assoc]
    congr 1
    rw [Bool.eq_iff_iff]
    simp only [Bool.or_eq_true, Bool.and_eq_true, decide_eq_true_eq]
    omega

theorem isUnprintable_eq_or (c : Char) :
    isUnprintable c = (isInvisible c || isInRanges (extendingRanges.erase soundMarks) c) := by
  rw [isUnprintable_eq_isInRanges, ← joinRanges_tables, isInRanges_joinRanges,
    isInRanges_mergeRanges, isInvisible]

theorem extendsGrapheme_eq_or (c : Char) :
    extendsGrapheme c = (isSoundMark c || isInRanges (extendingRanges.erase soundMarks) c) := by
  have hmem : soundMarks ∈ extendingRanges := by decide +kernel
  rw [extendsGrapheme, isInRanges_erase hmem, isInRanges_cons, isSoundMark]

theorem isUnprintable_of_isSoundMark {c : Char} (h : isSoundMark c = true) :
    isUnprintable c = false := by
  rw [isSoundMark, Bool.and_eq_true] at h
  have hleast : 0xFF9E ≤ c.toNat := of_decide_eq_true h.1
  have hmost : c.toNat ≤ 0xFF9F := of_decide_eq_true h.2
  obtain hvoiced | hsemi : c.toNat = 0xFF9E ∨ c.toNat = 0xFF9F := by omega
  · obtain rfl : c = '\uFF9E' := Char.toNat_inj.1 hvoiced
    decide +kernel
  · obtain rfl : c = '\uFF9F' := Char.toNat_inj.1 hsemi
    decide +kernel

/-- A character goes out as printable if it is visible and extends no grapheme, unless as one of
the sound marks. -/
theorem isUnprintable_eq_false_iff {c : Char} :
    isUnprintable c = false ↔
      isInvisible c = false ∧ (extendsGrapheme c = true → isSoundMark c = true) := by
  cases hmark : isSoundMark c with
  | true =>
      have hprintable := isUnprintable_of_isSoundMark hmark
      have hvisible := hprintable
      rw [isUnprintable_eq_or, Bool.or_eq_false_iff] at hvisible
      simp [hprintable, hvisible.1]
  | false =>
      rw [extendsGrapheme_eq_or, isUnprintable_eq_or, hmark]
      simp

end FixedWidth.Text
