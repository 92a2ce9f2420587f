import FixedWidth.Json.Value

/-!
# The turns of reading a value

A value is read in a loop that keeps what is open in frames.  A turn takes some of the text: a
scalar, an opening or a closing bracket, or a comma with what has to follow it.  Reading succeeds
exactly turn by turn, up to where no frame is left.
-/

namespace FixedWidth.Json

/-- What is left to read: a value is wanted, or one has been read and belongs to the frames. -/
inductive Pending where
  | value (frames : List Frame) (s : List Char)
  | after (frames : List Frame) (v : Value) (s : List Char)

namespace Pending

def read : Pending → Except Fault (Value × List Char)
  | value frames s => readValue frames s
  | after frames v s => readAfter frames v s

def unread : Pending → List Char
  | value _ s => s
  | after _ _ s => s

end Pending

/-- A turn of the loop in which no fault is met. -/
inductive Turn : Pending → Pending → Prop where
  | scalar {frames : List Frame} {s t u : List Char} {c : Char} {v : Value}
      (hs : skipBlanks s = c :: t) (hlist : c ≠ '[') (hrecord : c ≠ '\x7b')
      (h : readScalar c t = .ok (v, u)) : Turn (.value frames s) (.after frames v u)
  | emptyList {frames : List Frame} {s t u : List Char} (hs : skipBlanks s = '[' :: t)
      (hdepth : frames.length + 1 < maxDepth) (ht : skipBlanks t = ']' :: u) :
      Turn (.value frames s) (.after frames (.list []) u)
  | list {frames : List Frame} {s t u : List Char} {c : Char} (hs : skipBlanks s = '[' :: t)
      (hdepth : frames.length + 1 < maxDepth) (ht : skipBlanks t = c :: u) (hclose : c ≠ ']') :
      Turn (.value frames s) (.value (.list [] :: frames) (c :: u))
  | emptyRecord {frames : List Frame} {s t u : List Char} (hs : skipBlanks s = '\x7b' :: t)
      (hdepth : frames.length + 1 < maxDepth) (ht : skipBlanks t = '\x7d' :: u) :
      Turn (.value frames s) (.after frames (.record []) u)
  | record {frames : List Frame} {s t u w : List Char} {name : String}
      (hs : skipBlanks s = '\x7b' :: t) (hdepth : frames.length + 1 < maxDepth)
      (ht : skipBlanks t = '"' :: u) (hname : readName u = .ok (name, w)) :
      Turn (.value frames s) (.value (.record [] name :: frames) w)
  | closeList {frames : List Frame} {done : List Value} {v : Value} {s t : List Char}
      (hs : skipBlanks s = ']' :: t) :
      Turn (.after (.list done :: frames) v s) (.after frames (.list (v :: done).reverse) t)
  | item {frames : List Frame} {done : List Value} {v : Value} {s t u : List Char} {c : Char}
      (hs : skipBlanks s = ',' :: t) (ht : skipBlanks t = c :: u) (hclose : c ≠ ']') :
      Turn (.after (.list done :: frames) v s) (.value (.list (v :: done) :: frames) (c :: u))
  | closeRecord {frames : List Frame} {done : List (String × Value)} {name : String} {v : Value}
      {s t : List Char} (hs : skipBlanks s = '\x7d' :: t) :
      Turn (.after (.record done name :: frames) v s)
        (.after frames (.record ((name, v) :: done).reverse) t)
  | field {frames : List Frame} {done : List (String × Value)} {name next : String} {v : Value}
      {s t u w : List Char} (hs : skipBlanks s = ',' :: t) (ht : skipBlanks t = '"' :: u)
      (hname : readName u = .ok (next, w)) :
      Turn (.after (.record done name :: frames) v s)
        (.value (.record ((name, v) :: done) next :: frames) w)

theorem Turn.read_eq {p q : Pending} (h : Turn p q) : p.read = q.read := by
  cases h with
  | scalar hs hlist hrecord h =>
      rw [Pending.read, readValue, hs]
      split
      · contradiction
      · rename_i hcons
        cases hcons
        exact absurd rfl hlist
      · rename_i hcons
        cases hcons
        exact absurd rfl hrecord
      · rename_i hcons
        cases hcons
        rw [h]
        rfl
  | emptyList hs hdepth ht =>
      rw [Pending.read, readValue, hs]
      simp only [if_neg (Nat.not_le.2 hdepth)]
      rw [ht]
      rfl
  | list hs hdepth ht hclose =>
      rw [Pending.read, readValue, hs]
      simp only [if_neg (Nat.not_le.2 hdepth)]
      rw [ht]
      split
      · contradiction
      · rename_i hcons
        cases hcons
        exact absurd rfl hclose
      · rename_i hcons
        cases hcons
        rfl
  | emptyRecord hs hdepth ht =>
      rw [Pending.read, readValue, hs]
      simp only [if_neg (Nat.not_le.2 hdepth)]
      rw [ht]
      rfl
  | record hs hdepth ht hname =>
      rw [Pending.read, readValue, hs]
      simp only [if_neg (Nat.not_le.2 hdepth)]
      rw [ht]
      simp only
      rw [hname]
      rfl
  | closeList hs =>
      simp only [Pending.read]
      rw [readAfter, hs]
      rfl
  | item hs ht hclose =>
      simp only [Pending.read]
      rw [readAfter, hs]
      simp only
      rw [ht]
      split
      · contradiction
      · rename_i hcons
        cases hcons
        exact absurd rfl hclose
      · rename_i hcons
        cases hcons
        rfl
  | closeRecord hs =>
      simp only [Pending.read]
      rw [readAfter, hs]
      rfl
  | field hs ht hname =>
      simp only [Pending.read]
      rw [readAfter, hs]
      simp only
      rw [ht]
      simp only
      rw [hname]

theorem Turn.length_lt {p q : Pending} (h : Turn p q) : q.unread.length < p.unread.length := by
  cases h with
  | @scalar frames s t u c v hs hlist hrecord h =>
      have hle := length_skipBlanks_le s
      rw [hs] at hle
      exact Nat.lt_of_lt_of_le (length_of_readScalar h) hle
  | emptyList hs hdepth ht =>
      exact Nat.lt_trans (length_lt_of_skipBlanks ht) (length_lt_of_skipBlanks hs)
  | @list frames s t u c hs hdepth ht hclose =>
      have hle := length_skipBlanks_le t
      rw [ht] at hle
      exact Nat.lt_of_le_of_lt hle (length_lt_of_skipBlanks hs)
  | emptyRecord hs hdepth ht =>
      exact Nat.lt_trans (length_lt_of_skipBlanks ht) (length_lt_of_skipBlanks hs)
  | record hs hdepth ht hname =>
      have hlt := Nat.lt_trans (length_lt_of_skipBlanks ht) (length_lt_of_skipBlanks hs)
      exact Nat.lt_trans (length_of_readName hname) hlt
  | closeList hs => exact length_lt_of_skipBlanks hs
  | @item frames done v s t u c hs ht hclose =>
      have hle := length_skipBlanks_le t
      rw [ht] at hle
      exact Nat.lt_of_le_of_lt hle (length_lt_of_skipBlanks hs)
  | closeRecord hs => exact length_lt_of_skipBlanks hs
  | field hs ht hname =>
      have hlt := Nat.lt_trans (length_lt_of_skipBlanks ht) (length_lt_of_skipBlanks hs)
      exact Nat.lt_trans (length_of_readName hname) hlt

theorem exists_turn_of_readValue {frames : List Frame} {s : List Char} {r : Value × List Char}
    (h : readValue frames s = .ok r) : ∃ q, Turn (.value frames s) q ∧ q.read = .ok r := by
  rw [readValue] at h
  split at h
  · cases h
  · rename_i hs
    split at h
    · cases h
    · rename_i hdepth
      rw [Nat.not_le] at hdepth
      split at h
      · cases h
      · rename_i ht
        exact ⟨_, .emptyList hs hdepth ht, h⟩
      · rename_i hclose ht
        exact ⟨_, .list hs hdepth ht hclose, h⟩
  · rename_i hs
    split at h
    · cases h
    · rename_i hdepth
      rw [Nat.not_le] at hdepth
      split at h
      · cases h
      · rename_i ht
        exact ⟨_, .emptyRecord hs hdepth ht, h⟩
      · rename_i ht
        split at h
        · cases h
        · rename_i hname
          exact ⟨_, .record hs hdepth ht hname, h⟩
      · cases h
  · rename_i hlist hrecord hs
    split at h
    · cases h
    · rename_i hread
      exact ⟨_, .scalar hs hlist hrecord hread, h⟩

theorem exists_turn_of_readAfter {f : Frame} {frames : List Frame} {v : Value} {s : List Char}
    {r : Value × List Char} (h : readAfter (f :: frames) v s = .ok r) :
    ∃ q, Turn (.after (f :: frames) v s) q ∧ q.read = .ok r := by
  cases f with
  | list done =>
      rw [readAfter] at h
      split at h
      · cases h
      · rename_i hs
        exact ⟨_, .closeList hs, h⟩
      · rename_i hs
        split at h
        · cases h
        · cases h
        · rename_i hclose ht
          exact ⟨_, .item hs ht hclose, h⟩
      · cases h
  | record done name =>
      rw [readAfter] at h
      split at h
      · cases h
      · rename_i hs
        exact ⟨_, .closeRecord hs, h⟩
      · rename_i hs
        split at h
        · cases h
        · rename_i ht
          split at h
          · cases h
          · rename_i hname
            exact ⟨_, .field hs ht hname, h⟩
        · cases h
        · cases h
      · cases h

end FixedWidth.Json
