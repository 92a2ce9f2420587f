import FixedWidth.Json.Problem

/-!
# The smallest steps of reading JSON

White space between tokens, the words for the truth values and for null, the colon after a name,
and the four hexadecimal digits of an escape.  A step takes what is unread and gives a value with
what is left, or a fault.
-/

namespace FixedWidth.Json

/-- Drops the white space in front: spaces, tabs, carriage returns and line feeds. -/
def skipBlanks (s : List Char) : List Char :=
  s.dropWhile Char.isWhitespace

theorem length_skipBlanks_le (s : List Char) : (skipBlanks s).length ≤ s.length :=
  (List.dropWhile_suffix _).length_le

theorem length_lt_of_skipBlanks {s t : List Char} {c : Char} (h : skipBlanks s = c :: t) :
    t.length < s.length := by
  have := length_skipBlanks_le s
  rw [h, List.length_cons] at this
  omega

def readWord : List Char → List Char → Except Fault (List Char)
  | [], s => .ok s
  | _ :: _, [] => .error (.before .cutValue [])
  | w :: word, c :: s =>
    if c = w then readWord word s else .error (.on .noWord (c :: s))

theorem length_of_readWord {word s t : List Char} (h : readWord word s = .ok t) :
    t.length ≤ s.length := by
  fun_induction readWord word s with
  | case1 s => cases h; exact Nat.le_refl _
  | case2 => cases h
  | case3 word c s ih => exact Nat.le_trans (ih h) (Nat.le_succ _)
  | case4 => cases h

def readColon (s : List Char) : Except Fault (List Char) :=
  match skipBlanks s with
  | [] => .error (.before .cutObject [])
  | c :: s => if c = ':' then .ok s else .error (.on .noColon (c :: s))

theorem length_of_readColon {s t : List Char} (h : readColon s = .ok t) :
    t.length < s.length := by
  unfold readColon at h
  split at h
  · cases h
  · rename_i hb
    split at h
    · cases h
      exact length_lt_of_skipBlanks hb
    · cases h

/-- The value of the four hexadecimal digits in front.  The four bytes are read before they are
looked at. -/
def readHex4 (s : List Char) : Except Fault (Nat × List Char) :=
  match s with
  | a :: b :: c :: d :: rest =>
    match Text.hexValue? a, Text.hexValue? b, Text.hexValue? c, Text.hexValue? d with
    | some a, some b, some c, some d => .ok (((a * 16 + b) * 16 + c) * 16 + d, rest)
    | _, _, _, _ => .error ⟨.badEscape, byteCount s - 4⟩
  | _ =>
    if byteCount s < 4 then .error (.before .cutText [])
    else .error ⟨.badEscape, byteCount s - 4⟩

theorem length_of_readHex4 {s t : List Char} {n : Nat} (h : readHex4 s = .ok (n, t)) :
    t.length < s.length := by
  unfold readHex4 at h
  split at h
  · split at h
    · cases h
      simp only [List.length_cons]
      omega
    · cases h
  · split at h <;> cases h

end FixedWidth.Json
