import FixedWidth.Proofs.Text.ColumnFields

/-!
# Text cut to a width

There is one way only to cut a text so that all parts but the last have the width and the last part
has something left for it.  This is how a text is wrapped, so texts are wrapped one behind the other
if the first ends where a part does.
-/

namespace FixedWidth.Text

variable {α : Type}

/-- The parts make up the text and have the width, except that the last may be shorter.  It is empty
only as the only part of the empty text. -/
structure IsCut (width : Nat) (s : List α) (parts : List (List α)) : Prop where
  ne_nil : parts ≠ []
  flatten_eq : parts.flatten = s
  full : ∀ p ∈ parts.dropLast, p.length = width
  last_le : ∀ p ∈ parts.getLast?, p.length ≤ width
  last_empty : ∀ p ∈ parts.getLast?, p.length = 0 → s = [] ∧ parts = [[]]

/-! ## Wrapping is cutting -/

theorem pieces_append_of_length {n : Nat} {p t : List α} (hp : p.length = n + 1) (ht : t ≠ []) :
    pieces n (p ++ t) = p :: pieces n t := by
  have hdrop : (p ++ t).drop (n + 1) = t := List.drop_left' hp
  have htake : (p ++ t).take (n + 1) = p := List.take_left' hp
  rw [pieces]
  split
  · rename_i h
    exact absurd (hdrop.symm.trans h) ht
  · rename_i c rest h
    rw [← h, hdrop, htake]

theorem eq_nil_of_getLast?_pieces {n : Nat} {s p : List α} (h : p ∈ (pieces n s).getLast?)
    (hp : p.length = 0) : s = [] := by
  fun_induction pieces n s with
  | case1 s hdrop =>
      rw [List.getLast?_singleton, Option.mem_some_iff] at h
      rw [h]
      exact List.length_eq_zero_iff.1 hp
  | case2 s c rest hdrop ih =>
      rw [List.getLast?_cons_of_ne_nil (pieces_ne_nil n (c :: rest))] at h
      exact absurd (ih h) (List.cons_ne_nil c rest)

theorem isCut_pieces (n : Nat) (s : List α) : IsCut (n + 1) s (pieces n s) where
  ne_nil := pieces_ne_nil n s
  flatten_eq := flatten_pieces n s
  full _ hp := length_of_mem_dropLast_pieces hp
  last_le _ hp := length_le_of_mem_pieces (List.mem_of_getLast? hp)
  last_empty p hp hempty := by
    have hs : s = [] := eq_nil_of_getLast?_pieces hp hempty
    rw [hs]
    exact ⟨rfl, pieces_of_length_le (Nat.zero_le _)⟩

namespace IsCut

variable {width : Nat} {s p q : List α} {parts : List (List α)}

theorem tail (h : IsCut width s (p :: q :: parts)) :
    IsCut width (q :: parts).flatten (q :: parts) where
  ne_nil := List.cons_ne_nil q parts
  flatten_eq := rfl
  full r hr := h.full r (List.mem_cons_of_mem p hr)
  last_le r hr := h.last_le r hr
  last_empty r hr hempty := by
    obtain ⟨-, hparts⟩ := h.last_empty r hr hempty
    cases hparts

theorem eq_pieces {n : Nat} (h : IsCut (n + 1) s parts) : parts = pieces n s := by
  induction parts generalizing s with
  | nil => exact absurd rfl h.ne_nil
  | cons p parts ih =>
      cases parts with
      | nil =>
          have hs : p = s := by simpa using h.flatten_eq
          have hle : p.length ≤ n + 1 := h.last_le p rfl
          rw [← hs, pieces_of_length_le hle]
      | cons q parts =>
          have hrest := ih h.tail
          have hne : (q :: parts).flatten ≠ [] := by
            intro hnil
            rw [hnil, pieces_of_length_le (Nat.zero_le _)] at hrest
            obtain ⟨-, hparts⟩ := h.last_empty [] (by rw [hrest]; rfl) rfl
            cases hparts
          have hp : p.length = n + 1 := h.full p List.mem_cons_self
          rw [← h.flatten_eq, List.flatten_cons, pieces_append_of_length hp hne, ← hrest]

end IsCut

theorem isCut_iff {n : Nat} {s : List α} {parts : List (List α)} :
    IsCut (n + 1) s parts ↔ parts = pieces n s := by
  constructor
  · exact IsCut.eq_pieces
  · rintro rfl
    exact isCut_pieces n s

/-! ## One text behind another -/

theorem pieces_append_of_mul {n k : Nat} {s t : List α} (hs : s.length = (k + 1) * (n + 1))
    (ht : t ≠ []) : pieces n (s ++ t) = pieces n s ++ pieces n t := by
  induction k generalizing s with
  | zero =>
      have hlen : s.length = n + 1 := by omega
      rw [pieces_append_of_length hlen ht, pieces_of_length_le (Nat.le_of_eq hlen),
        List.singleton_append]
  | succ k ih =>
      have hfirst : (s.take (n + 1)).length = n + 1 := by
        apply List.length_take_of_le
        rw [hs, Nat.succ_mul]
        omega
      have hrest : (s.drop (n + 1)).length = (k + 1) * (n + 1) := by
        rw [List.length_drop, hs, Nat.succ_mul (k + 1), Nat.add_sub_cancel]
      have hne : s.drop (n + 1) ≠ [] := by
        intro hnil
        rw [hnil, List.length_nil, Nat.succ_mul] at hrest
        omega
      have hs' : s = s.take (n + 1) ++ s.drop (n + 1) := (List.take_append_drop (n + 1) s).symm
      calc
        pieces n (s ++ t) = pieces n (s.take (n + 1) ++ (s.drop (n + 1) ++ t)) := by
          rw [← List.append_assoc, ← hs']
        _ = s.take (n + 1) :: (pieces n (s.drop (n + 1)) ++ pieces n t) := by
          rw [pieces_append_of_length hfirst (List.append_ne_nil_of_left_ne_nil hne t), ih hrest]
        _ = pieces n s ++ pieces n t := by
          rw [← List.cons_append, ← pieces_append_of_length hfirst hne, ← hs']

/-- A text is wrapped in the one way in which it can be cut to the width, or to single characters if
there is no width.  So it takes as many lines as its length needs, at least one, and what stands
behind a text that fills its lines is wrapped by itself. -/
theorem wrap_only_cut (width : Nat) :
    (∀ (s : String) (parts : List String),
        IsCut (max width 1) s.toList (parts.map String.toList) ↔ parts = wrap width s) ∧
      (∀ s, (wrap width s).length = max 1 (s.length ⌈/⌉ max width 1)) ∧
        ∀ s t, 0 < s.length → max width 1 ∣ s.length → t ≠ "" →
          wrap width (s ++ t) = wrap width s ++ wrap width t := by
  obtain ⟨n, hn, hwidth⟩ : ∃ n, width - 1 = n ∧ max width 1 = n + 1 := ⟨width - 1, rfl, by omega⟩
  simp only [wrap, hn, hwidth]
  refine ⟨?_, ?_, ?_⟩
  · intro s parts
    rw [isCut_iff]
    constructor
    · intro h
      rw [← h, List.map_map]
      simp
    · rintro rfl
      simp
  · intro s
    rw [List.length_map, length_pieces, String.length_toList]
  · intro s t hpos hdvd ht
    obtain ⟨k, hk⟩ := hdvd
    have hlen : s.toList.length = (k - 1 + 1) * (n + 1) := by
      have hk' : k ≠ 0 := by
        rintro rfl
        omega
      rw [String.length_toList, hk, Nat.sub_add_cancel (Nat.one_le_iff_ne_zero.2 hk'), Nat.mul_comm]
    have hne : t.toList ≠ [] := mt String.toList_eq_nil_iff.1 ht
    rw [String.toList_append, pieces_append_of_mul hlen hne, List.map_append]

/-- Two lines that are full, and a third with accents that count as one character each. -/
theorem wrap_behind_full_lines :
    wrap 3 ("abcdef" ++ "éèêë") = ["abc", "def"] ++ ["éèê", "ë"] ∧
      wrap 0 ("ab" ++ "c") = ["a", "b", "c"] := by
  obtain ⟨hcut, -, happend⟩ := wrap_only_cut 3
  obtain ⟨-, -, hsingle⟩ := wrap_only_cut 0
  constructor
  · have hfirst : ["abc", "def"] = wrap 3 "abcdef" := by
      apply (hcut "abcdef" ["abc", "def"]).1
      exact ⟨by decide, by decide, by decide, by decide, by decide⟩
    have hrest : ["éèê", "ë"] = wrap 3 "éèêë" := by decide +kernel
    rw [happend "abcdef" "éèêë" (by decide) (by decide) (by decide), ← hfirst, ← hrest]
  · rw [hsingle "ab" "c" (by decide) (by decide) (by decide)]
    decide +kernel

end FixedWidth.Text
