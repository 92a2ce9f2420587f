import FixedWidth.Proofs.Text.EscapedText
import FixedWidth.Text.Column
import Mathlib.Algebra.Order.Floor.Div

/-!
# The fields of a text in a column

A text is cut into pieces, and each piece is filled up with spaces to the width of its column.  All
pieces but the last have that width already, so the fields one after another are the text with
spaces behind it, and they show the text up to the spaces at its end.
-/

namespace FixedWidth.Text

/-! ## Pieces -/

theorem length_pieces {α : Type} (n : Nat) (s : List α) :
    (pieces n s).length = max 1 (s.length ⌈/⌉ (n + 1)) := by
  rw [Nat.ceilDiv_eq_add_pred_div]
  fun_induction pieces n s with
  | case1 s h =>
      have hlen : s.length ≤ n + 1 := List.drop_eq_nil_iff.1 h
      have hone : (s.length + (n + 1) - 1) / (n + 1) ≤ 1 := by
        rw [Nat.div_le_iff_le_mul (Nat.succ_pos n)]
        omega
      rw [List.length_singleton, Nat.max_eq_left hone]
  | case2 s c rest h ih =>
      have hlen := congrArg List.length h
      rw [List.length_drop, List.length_cons] at hlen
      have hstep : (s.length + (n + 1) - 1) / (n + 1) =
          ((c :: rest).length + (n + 1) - 1) / (n + 1) + 1 := by
        rw [← Nat.add_div_right _ (Nat.succ_pos n), List.length_cons]
        congr 1
        omega
      have hpos : 1 ≤ ((c :: rest).length + (n + 1) - 1) / (n + 1) := by
        rw [Nat.le_div_iff_mul_le (Nat.succ_pos n), List.length_cons]
        omega
      rw [List.length_cons, ih, hstep]
      omega

theorem length_le_mul_length_pieces {α : Type} (n : Nat) (s : List α) :
    s.length ≤ (pieces n s).length * (n + 1) := by
  have hceil : s.length ⌈/⌉ (n + 1) ≤ (pieces n s).length := by
    rw [length_pieces]
    exact Nat.le_max_right _ _
  rw [Nat.mul_comm]
  exact (ceilDiv_le_iff_le_mul (Nat.succ_pos n)).1 hceil

theorem length_le_of_mem_pieces {α : Type} {n : Nat} {s p : List α} (h : p ∈ pieces n s) :
    p.length ≤ n + 1 := by
  fun_induction pieces n s with
  | case1 s hdrop =>
      rw [List.mem_singleton.1 h]
      exact List.drop_eq_nil_iff.1 hdrop
  | case2 s c rest hdrop ih =>
      rcases List.mem_cons.1 h with rfl | h
      · exact List.length_take_le (n + 1) s
      · exact ih h

theorem length_of_mem_dropLast_pieces {α : Type} {n : Nat} {s p : List α}
    (h : p ∈ (pieces n s).dropLast) : p.length = n + 1 := by
  fun_induction pieces n s with
  | case1 s hdrop => cases h
  | case2 s c rest hdrop ih =>
      rw [List.dropLast_cons_of_ne_nil (pieces_ne_nil n (c :: rest))] at h
      rcases List.mem_cons.1 h with rfl | h
      · have hlen := congrArg List.length hdrop
        rw [List.length_drop, List.length_cons] at hlen
        exact List.length_take_of_le (by omega)
      · exact ih h

/-- The parts of a text that stand on consecutive lines, of which there may be more than it
fills. -/
theorem pieces_append_replicate {α : Type} {n lines : Nat} {s : List α}
    (h : (pieces n s).length ≤ lines) :
    pieces n s ++ List.replicate (lines - (pieces n s).length) [] =
      (List.range lines).map fun i => (s.drop (i * (n + 1))).take (n + 1) := by
  fun_induction pieces n s generalizing lines with
  | case1 s hdrop =>
      obtain ⟨k, rfl⟩ := Nat.exists_eq_add_of_le' h
      have hlen : s.length ≤ n + 1 := List.drop_eq_nil_iff.1 hdrop
      rw [List.length_singleton, Nat.add_sub_cancel, List.range_succ_eq_map, List.map_cons,
        Nat.zero_mul, List.drop_zero, List.take_of_length_le hlen, List.map_map,
        List.singleton_append, List.cons.injEq]
      refine ⟨rfl, Eq.symm (List.eq_replicate_iff.2 ⟨by simp, fun p hp => ?_⟩)⟩
      obtain ⟨i, -, rfl⟩ := List.mem_map.1 hp
      have hle : s.length ≤ (i + 1) * (n + 1) := by
        rw [Nat.succ_mul]
        omega
      simp [List.drop_eq_nil_of_le hle]
  | case2 s c rest hdrop ih =>
      obtain ⟨k, rfl⟩ := Nat.exists_eq_add_of_le' (Nat.one_le_of_lt h)
      rw [List.length_cons, Nat.succ_le_succ_iff] at h
      rw [List.length_cons, Nat.succ_sub_succ, List.cons_append, ih h, List.range_succ_eq_map,
        List.map_cons, Nat.zero_mul, List.drop_zero, List.map_map, ← hdrop, List.cons.injEq]
      refine ⟨rfl, List.map_congr_left fun i _ => ?_⟩
      rw [Function.comp_apply, List.drop_drop, Nat.succ_mul, Nat.add_comm (i * (n + 1))]

theorem mem_of_mem_pieces {α : Type} {n : Nat} {s p : List α} {a : α} (hp : p ∈ pieces n s)
    (ha : a ∈ p) : a ∈ s := by
  rw [← flatten_pieces n s]
  exact List.mem_flatten.2 ⟨p, hp, ha⟩

/-! ## Filling up -/

def fill (n : Nat) (s : List Char) : List Char :=
  s ++ List.replicate (n - s.length) ' '

theorem length_fill {n : Nat} {s : List Char} (h : s.length ≤ n) : (fill n s).length = n := by
  rw [fill, List.length_append, List.length_replicate]
  omega

theorem fill_of_le_length {n : Nat} {s : List Char} (h : n ≤ s.length) : fill n s = s := by
  rw [fill, Nat.sub_eq_zero_of_le h, List.replicate_zero, List.append_nil]

theorem fill_append_replicate {n : Nat} {s : List Char} (h : s.length ≤ n) (k : Nat) :
    fill n s ++ List.replicate k ' ' = fill (n + k) s := by
  rw [fill, fill, List.append_assoc, List.replicate_append_replicate]
  congr 2
  omega

theorem append_fill (s t : List Char) (n : Nat) : s ++ fill n t = fill (s.length + n) (s ++ t) := by
  rw [fill, fill, List.append_assoc, List.length_append, Nat.add_sub_add_left]

theorem pad?_eq_fill {width : Nat} (h : width ≤ maxPad) (s : String) :
    pad? width s = some (String.ofList (fill width s.toList)) := by
  rw [pad?, if_pos h, fill, String.ofList_append, String.ofList_toList, String.length_toList]
  rfl

theorem trimSpaces_append_replicate (s : List Char) (k : Nat) :
    trimSpaces (s ++ List.replicate k ' ') = trimSpaces s := by
  induction k with
  | zero => rw [List.replicate_zero, List.append_nil]
  | succ k ih =>
      rw [List.replicate_succ', ← List.append_assoc, trimSpaces,
        List.rdropWhile_concat_pos _ _ _ rfl]
      exact ih

theorem trimSpaces_append_spaces (s : List Char) :
    ∃ k, s = trimSpaces s ++ List.replicate k ' ' := by
  refine ⟨(s.rtakeWhile (· == ' ')).length, ?_⟩
  have hspaces : s.rtakeWhile (· == ' ') =
      List.replicate (s.rtakeWhile (· == ' ')).length ' ' := by
    rw [List.eq_replicate_iff]
    exact ⟨rfl, fun c hc => by simpa using List.mem_rtakeWhile_imp hc⟩
  rw [← hspaces, trimSpaces, List.rdropWhile_append_rtakeWhile]

theorem fill_inj {n : Nat} {s t : List Char} (hs : s.length ≤ n) (ht : t.length ≤ n) :
    fill n s = fill n t ↔ trimSpaces s = trimSpaces t := by
  constructor
  · intro h
    have htrim := congrArg trimSpaces h
    rwa [fill, fill, trimSpaces_append_replicate, trimSpaces_append_replicate] at htrim
  · intro h
    obtain ⟨j, hj⟩ := trimSpaces_append_spaces s
    obtain ⟨k, hk⟩ := trimSpaces_append_spaces t
    have hfill (u : List Char) (i : Nat) (hi : (u ++ List.replicate i ' ').length ≤ n) :
        fill n (u ++ List.replicate i ' ') = fill n u := by
      rw [List.length_append, List.length_replicate] at hi
      rw [fill, fill, List.append_assoc, List.length_append, List.length_replicate,
        List.replicate_append_replicate]
      congr 2
      omega
    rw [hj] at hs ⊢
    rw [hk] at ht ⊢
    rw [hfill _ _ hs, hfill _ _ ht, h]

/-! ## Fields -/

/-- What stands in a column on each of some lines: the pieces of a text from the top down, and then
nothing but spaces. -/
def fields (width lines : Nat) (s : List Char) : List (List Char) :=
  (pieces (width - 1) s ++ List.replicate (lines - (pieces (width - 1) s).length) []).map
    (fill width)

theorem length_fields {width lines : Nat} {s : List Char}
    (h : (pieces (width - 1) s).length ≤ lines) : (fields width lines s).length = lines := by
  rw [fields, List.length_map, List.length_append, List.length_replicate]
  omega

theorem length_of_mem_fields {width lines : Nat} (hwidth : 0 < width) {s f : List Char}
    (h : f ∈ fields width lines s) : f.length = width := by
  obtain ⟨p, hp, rfl⟩ := List.mem_map.1 h
  refine length_fill ?_
  rcases List.mem_append.1 hp with hp | hp
  · have hle := length_le_of_mem_pieces hp
    omega
  · rw [List.eq_of_mem_replicate hp]
    exact Nat.zero_le width

theorem mem_or_eq_of_mem_fields {width lines : Nat} {s f : List Char} {c : Char}
    (hf : f ∈ fields width lines s) (hc : c ∈ f) : c ∈ s ∨ c = ' ' := by
  obtain ⟨p, hp, rfl⟩ := List.mem_map.1 hf
  rcases List.mem_append.1 hc with hc | hc
  · rcases List.mem_append.1 hp with hp | hp
    · exact .inl (mem_of_mem_pieces hp hc)
    · rw [List.eq_of_mem_replicate hp] at hc
      cases hc
  · exact .inr (List.eq_of_mem_replicate hc)

theorem fields_eq_map_range {width lines : Nat} (hwidth : 0 < width) {s : List Char}
    (h : (pieces (width - 1) s).length ≤ lines) :
    fields width lines s =
      (List.range lines).map fun i => fill width ((s.drop (i * width)).take width) := by
  rw [fields, pieces_append_replicate h, List.map_map, Nat.sub_add_cancel hwidth]
  rfl

theorem flatten_map_fill_pieces (n : Nat) (s : List Char) :
    ((pieces n s).map (fill (n + 1))).flatten = fill ((pieces n s).length * (n + 1)) s := by
  fun_induction pieces n s with
  | case1 s h => simp
  | case2 s c rest h ih =>
      have hlen := congrArg List.length h
      rw [List.length_drop, List.length_cons] at hlen
      have htake : (s.take (n + 1)).length = n + 1 := List.length_take_of_le (by omega)
      rw [List.map_cons, List.flatten_cons, ih, fill_of_le_length (Nat.le_of_eq htake.symm),
        append_fill, htake, ← h, List.take_append_drop, List.length_cons, Nat.succ_mul,
        Nat.add_comm (n + 1)]

theorem flatten_fields {width lines : Nat} (hwidth : 0 < width) {s : List Char}
    (h : (pieces (width - 1) s).length ≤ lines) :
    (fields width lines s).flatten = fill (lines * width) s := by
  have hpieces := flatten_map_fill_pieces (width - 1) s
  have hfit : s.length ≤ (pieces (width - 1) s).length * width := by
    have hle := length_le_mul_length_pieces (width - 1) s
    rwa [Nat.sub_add_cancel hwidth] at hle
  have hblank : ((List.replicate (lines - (pieces (width - 1) s).length) []).map
      (fill width)).flatten =
        List.replicate ((lines - (pieces (width - 1) s).length) * width) ' ' := by
    simp [fill]
  rw [Nat.sub_add_cancel hwidth] at hpieces
  rw [fields, List.map_append, List.flatten_append, hpieces, hblank, fill_append_replicate hfit,
    ← Nat.add_mul, Nat.add_sub_cancel' h]

/-- On as many lines, two texts have the same fields if they differ at most in the spaces at their
ends. -/
theorem fields_inj {width lines : Nat} (hwidth : 0 < width) {s t : List Char}
    (hs : (pieces (width - 1) s).length ≤ lines) (ht : (pieces (width - 1) t).length ≤ lines) :
    fields width lines s = fields width lines t ↔ trimSpaces s = trimSpaces t := by
  have hfit {u : List Char} (hu : (pieces (width - 1) u).length ≤ lines) :
      u.length ≤ lines * width := by
    have hle := length_le_mul_length_pieces (width - 1) u
    rw [Nat.sub_add_cancel hwidth] at hle
    exact Nat.le_trans hle (Nat.mul_le_mul_right width hu)
  have hlengths {u : List Char} (hu : (pieces (width - 1) u).length ≤ lines) :
      (fields width lines u).map List.length = List.replicate lines width := by
    rw [List.eq_replicate_iff, List.length_map, length_fields hu]
    refine ⟨rfl, fun n hn => ?_⟩
    obtain ⟨f, hf, rfl⟩ := List.mem_map.1 hn
    exact length_of_mem_fields hwidth hf
  rw [List.eq_iff_flatten_eq, hlengths hs, hlengths ht, flatten_fields hwidth hs,
    flatten_fields hwidth ht, fill_inj (hfit hs) (hfit ht)]
  exact and_iff_left rfl

end FixedWidth.Text
