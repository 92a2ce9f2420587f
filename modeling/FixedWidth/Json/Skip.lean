import FixedWidth.Json.Number
import FixedWidth.Json.Quoted

/-!
# Passing over a JSON value

The value of a field that nobody asked for is passed over.  It has to be well formed, but nothing
of it is kept, and it may be nested to any depth: only the opening brackets are remembered,
innermost first.
-/

namespace FixedWidth.Json

inductive Bracket where
  | list
  | record
deriving DecidableEq

/-- The problem if the text ends inside the brackets. -/
def Bracket.cut : Bracket → Problem
  | .list => .cutList
  | .record => .cutObject

/-- The problem if something other than a comma follows a value inside the brackets. -/
def Bracket.noComma : Bracket → Problem
  | .list => .noCommaInList
  | .record => .noCommaInObject

def Bracket.closing : Bracket → Char
  | .list => ']'
  | .record => '\x7d'

/-- Passes over a value that is neither a list nor a record and begins with `c`. -/
def skipScalar (c : Char) (s : List Char) : Except Fault (List Char) :=
  match c with
  | 'n' => readWord "ull".toList s
  | 't' => readWord "rue".toList s
  | 'f' => readWord "alse".toList s
  | '"' => skipQuoted s
  | c => if c = '-' ∨ c.isDigit then skipNumber (c :: s) else .error (.on .noValue (c :: s))

/-- What stands before an item: nothing in a list, a name and a colon in a record. -/
def skipLabel (b : Bracket) (s : List Char) : Except Fault (List Char) :=
  match b with
  | .list => .ok s
  | .record =>
    match skipBlanks s with
    | [] => .error (.before .cutObject [])
    | '"' :: s =>
      match skipQuoted s with
      | .error f => .error f
      | .ok s => readColon s
    | c :: s => .error (.on .nameNotText (c :: s))

theorem length_of_skipScalar {c : Char} {s t : List Char} (h : skipScalar c s = .ok t) :
    t.length < (c :: s).length := by
  unfold skipScalar at h
  split at h
  · exact Nat.lt_succ_of_le (length_of_readWord h)
  · exact Nat.lt_succ_of_le (length_of_readWord h)
  · exact Nat.lt_succ_of_le (length_of_readWord h)
  · exact Nat.lt_succ_of_lt (length_of_skipQuoted h)
  · split at h
    · exact length_of_skipNumber h
    · cases h

theorem length_of_skipLabel {b : Bracket} {s t : List Char} (h : skipLabel b s = .ok t) :
    t.length ≤ s.length := by
  unfold skipLabel at h
  split at h
  · cases h
    exact Nat.le_refl _
  · split at h
    · cases h
    · rename_i hb
      have := length_lt_of_skipBlanks hb
      split at h
      · cases h
      · rename_i hq
        have := length_of_skipQuoted hq
        have := length_of_readColon h
        omega
    · cases h

mutual

/-- Passes over a value and then what is open around it. -/
def skipValue (brackets : List Bracket) (s : List Char) : Except Fault (List Char) :=
  match _h : skipBlanks s with
  | [] => .error (.before .cutValue [])
  | '[' :: rest => skipFirst brackets .list rest
  | '\x7b' :: rest => skipFirst brackets .record rest
  | c :: rest =>
    match _h₁ : skipScalar c rest with
    | .error f => .error f
    | .ok rest => skipAfter brackets rest
termination_by (s.length, 0)
decreasing_by
  all_goals
    have := length_lt_of_skipBlanks _h
    apply Prod.Lex.left
  · assumption
  · assumption
  · have := length_of_skipScalar _h₁
    simp only [List.length_cons] at this
    omega

/-- Goes on after an opening bracket. -/
def skipFirst (brackets : List Bracket) (b : Bracket) (s : List Char) :
    Except Fault (List Char) :=
  match _h : skipBlanks s with
  | [] => .error (.before b.cut [])
  | c :: rest =>
    if c = b.closing then skipAfter brackets rest
    else
      match _h₁ : skipLabel b (c :: rest) with
      | .error f => .error f
      | .ok rest => skipValue (b :: brackets) rest
termination_by (s.length, 1)
decreasing_by
  · exact Prod.Lex.left _ _ (length_lt_of_skipBlanks _h)
  · have := length_lt_of_skipBlanks _h
    have := length_of_skipLabel _h₁
    simp only [List.length_cons] at this
    rcases Nat.lt_or_eq_of_le (show rest.length ≤ s.length by omega) with hlt | heq
    · exact Prod.Lex.left _ _ hlt
    · rw [heq]
      exact Prod.Lex.right _ Nat.zero_lt_one

/-- Goes on after a value. -/
def skipAfter (brackets : List Bracket) (s : List Char) : Except Fault (List Char) :=
  match brackets with
  | [] => .ok s
  | b :: brackets =>
    match _h : skipBlanks s with
    | [] => .error (.before b.cut [])
    | c :: rest =>
      if c = ',' then
        match _h₁ : skipLabel b rest with
        | .error f => .error f
        | .ok rest => skipValue (b :: brackets) rest
      else if c = b.closing then skipAfter brackets rest
      else .error (.on b.noComma (c :: rest))
termination_by (s.length, 0)
decreasing_by
  · have := length_lt_of_skipBlanks _h
    have := length_of_skipLabel _h₁
    exact Prod.Lex.left _ _ (by omega)
  · exact Prod.Lex.left _ _ (length_lt_of_skipBlanks _h)

end

/-- None of the three leaves more than there was. -/
theorem length_of_skip (n : Nat) :
    (∀ brackets s t, s.length < n → skipValue brackets s = .ok t → t.length ≤ s.length) ∧
      (∀ brackets s t, s.length < n → skipAfter brackets s = .ok t → t.length ≤ s.length) ∧
      (∀ brackets b s t, s.length < n → skipFirst brackets b s = .ok t →
        t.length ≤ s.length) := by
  induction n with
  | zero =>
    exact ⟨fun _ _ _ hs => absurd hs (Nat.not_lt_zero _),
      fun _ _ _ hs => absurd hs (Nat.not_lt_zero _),
      fun _ _ _ _ hs => absurd hs (Nat.not_lt_zero _)⟩
  | succ n ih =>
    obtain ⟨ihValue, ihAfter, ihFirst⟩ := ih
    have value : ∀ brackets s t, s.length < n + 1 → skipValue brackets s = .ok t →
        t.length ≤ s.length := by
      intro brackets s t hs h
      rw [skipValue] at h
      split at h
      · cases h
      · rename_i rest hb
        have := length_lt_of_skipBlanks hb
        have := ihFirst brackets .list rest t (by omega) h
        omega
      · rename_i rest hb
        have := length_lt_of_skipBlanks hb
        have := ihFirst brackets .record rest t (by omega) h
        omega
      · rename_i c rest _ _ hb
        have := length_lt_of_skipBlanks hb
        split at h
        · cases h
        · rename_i u hu
          have := length_of_skipScalar hu
          simp only [List.length_cons] at this
          have := ihAfter brackets u t (by omega) h
          omega
    have after : ∀ brackets s t, s.length < n + 1 → skipAfter brackets s = .ok t →
        t.length ≤ s.length := by
      intro brackets s t hs h
      unfold skipAfter at h
      split at h
      · cases h
        exact Nat.le_refl _
      · rename_i b brackets
        split at h
        · cases h
        · rename_i c rest hb
          have := length_lt_of_skipBlanks hb
          split at h
          · split at h
            · cases h
            · rename_i u hu
              have := length_of_skipLabel hu
              have := ihValue (b :: brackets) u t (by omega) h
              omega
          · split at h
            · have := ihAfter brackets rest t (by omega) h
              omega
            · cases h
    refine ⟨value, after, ?_⟩
    intro brackets b s t hs h
    rw [skipFirst] at h
    split at h
    · cases h
    · rename_i c rest hb
      have := length_lt_of_skipBlanks hb
      split at h
      · have := after brackets rest t (by omega) h
        omega
      · split at h
        · cases h
        · rename_i u hu
          have := length_of_skipLabel hu
          simp only [List.length_cons] at this
          have := value (b :: brackets) u t (by omega) h
          omega

theorem length_of_skipValue {brackets : List Bracket} {s t : List Char}
    (h : skipValue brackets s = .ok t) : t.length ≤ s.length :=
  (length_of_skip (s.length + 1)).1 brackets s t (Nat.lt_succ_self _) h

end FixedWidth.Json
