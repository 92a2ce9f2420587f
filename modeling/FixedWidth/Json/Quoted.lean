import FixedWidth.Json.Scan

/-!
# Quoted text in JSON

`readQuoted` reads a text after its opening quote and puts characters for its escapes.  A
character beyond U+FFFF is escaped as a pair of surrogates, of which neither may stand alone.
`skipQuoted` passes over a text that nobody asked for, and does not look at surrogates.
-/

namespace FixedWidth.Json

/-- The character for the letter after a backslash. -/
def ofEscapeLetter? : Char → Option Char
  | '"' => some '"'
  | '\\' => some '\\'
  | '/' => some '/'
  | 'b' => some '\x08'
  | 'f' => some '\x0c'
  | 'n' => some '\n'
  | 'r' => some '\r'
  | 't' => some '\t'
  | _ => none

def isLowSurrogate (n : Nat) : Bool := 0xDC00 ≤ n && n ≤ 0xDFFF

def isHighSurrogate (n : Nat) : Bool := 0xD800 ≤ n && n ≤ 0xDBFF

/-- The code point that a pair of surrogates stands for. -/
def pairValue (high low : Nat) : Nat :=
  0x10000 + (high - 0xD800) * 0x400 + (low - 0xDC00)

/-- Takes a character that has to follow the first half of a pair. -/
def readPairLink (link : Char) : List Char → Except Fault (List Char)
  | [] => .error (.before .cutText [])
  | c :: s => if c = link then .ok s else .error (.on .halfPair (c :: s))

/-- The second half of a pair, as an escape of its own. -/
def readLowSurrogate (high : Nat) (s : List Char) : Except Fault (Char × List Char) :=
  match readPairLink '\\' s with
  | .error f => .error f
  | .ok s =>
    match readPairLink 'u' s with
    | .error f => .error f
    | .ok s =>
      match readHex4 s with
      | .error f => .error f
      | .ok (low, s) =>
        if isLowSurrogate low then .ok (Char.ofNat (pairValue high low), s)
        else .error (.before .loneSurrogate s)

/-- The character of an escape by code point, after its letter. -/
def readCodePoint (s : List Char) : Except Fault (Char × List Char) :=
  match readHex4 s with
  | .error f => .error f
  | .ok (n, s) =>
    if isLowSurrogate n then .error (.before .loneSurrogate s)
    else if isHighSurrogate n then readLowSurrogate n s
    else .ok (Char.ofNat n, s)

/-- The character of an escape, after its backslash. -/
def readEscape : List Char → Except Fault (Char × List Char)
  | [] => .error (.before .cutText [])
  | 'u' :: s => readCodePoint s
  | l :: s =>
    match ofEscapeLetter? l with
    | some c => .ok (c, s)
    | none => .error (.on .badEscape (l :: s))

theorem length_of_readPairLink {link : Char} {s t : List Char} (h : readPairLink link s = .ok t) :
    t.length < s.length := by
  unfold readPairLink at h
  split at h
  · cases h
  · split at h
    · cases h
      exact Nat.lt_succ_self _
    · cases h

theorem length_of_readLowSurrogate {high : Nat} {s t : List Char} {c : Char}
    (h : readLowSurrogate high s = .ok (c, t)) : t.length < s.length := by
  unfold readLowSurrogate at h
  split at h
  · cases h
  · rename_i h₁
    split at h
    · cases h
    · rename_i h₂
      split at h
      · cases h
      · rename_i h₃
        split at h
        · simp only [Except.ok.injEq, Prod.mk.injEq] at h
          obtain ⟨-, rfl⟩ := h
          have := length_of_readPairLink h₁
          have := length_of_readPairLink h₂
          have := length_of_readHex4 h₃
          omega
        · cases h

theorem length_of_readCodePoint {s t : List Char} {c : Char} (h : readCodePoint s = .ok (c, t)) :
    t.length < s.length := by
  unfold readCodePoint at h
  cases hhex : readHex4 s with
  | error f =>
    rw [hhex] at h
    cases h
  | ok p =>
    obtain ⟨n, u⟩ := p
    have hu := length_of_readHex4 hhex
    simp only [hhex] at h
    cases hlow : isLowSurrogate n with
    | true => simp [hlow] at h
    | false =>
      cases hhigh : isHighSurrogate n with
      | true =>
        simp only [hlow, hhigh, Bool.false_eq_true, if_false, if_true] at h
        exact Nat.lt_trans (length_of_readLowSurrogate h) hu
      | false =>
        simp only [hlow, hhigh, Bool.false_eq_true, if_false, Except.ok.injEq, Prod.mk.injEq] at h
        exact h.2 ▸ hu

theorem length_of_readEscape {s t : List Char} {c : Char} (h : readEscape s = .ok (c, t)) :
    t.length < s.length := by
  unfold readEscape at h
  split at h
  · cases h
  · exact Nat.lt_succ_of_lt (length_of_readCodePoint h)
  · split at h
    · cases h
      exact Nat.lt_succ_self _
    · cases h

/-- Reads a text up to its closing quote, behind what is `done` of it, last character first. -/
def readQuotedFrom (done s : List Char) : Except Fault (List Char × List Char) :=
  match s with
  | [] => .error (.before .cutText [])
  | '"' :: s => .ok (done.reverse, s)
  | '\\' :: s =>
    match _h : readEscape s with
    | .error f => .error f
    | .ok (c, s) => readQuotedFrom (c :: done) s
  | c :: s =>
    if c.toNat < 0x20 then .error (.on .control (c :: s)) else readQuotedFrom (c :: done) s
termination_by s.length
decreasing_by
  · exact Nat.lt_succ_of_lt (length_of_readEscape _h)
  · exact Nat.lt_succ_self _

/-- Reads a text after its opening quote. -/
def readQuoted (s : List Char) : Except Fault (String × List Char) :=
  match readQuotedFrom [] s with
  | .error f => .error f
  | .ok (cs, s) => .ok (String.ofList cs, s)

theorem length_of_readQuotedFrom {done s t cs : List Char}
    (h : readQuotedFrom done s = .ok (cs, t)) : t.length < s.length := by
  fun_induction readQuotedFrom done s with
  | case1 => cases h
  | case2 => cases h; exact Nat.lt_succ_self _
  | case3 => cases h
  | case4 done s c s' hesc ih =>
    have := length_of_readEscape hesc
    have := ih h
    simp only [List.length_cons]
    omega
  | case5 => cases h
  | case6 done c s _ _ hc ih => exact Nat.lt_succ_of_lt (ih h)

theorem length_of_readQuoted {s t : List Char} {x : String} (h : readQuoted s = .ok (x, t)) :
    t.length < s.length := by
  unfold readQuoted at h
  split at h
  · cases h
  · rename_i hfrom
    cases h
    exact length_of_readQuotedFrom hfrom

/-- Passes over an escape, after its backslash. -/
def skipEscape : List Char → Except Fault (List Char)
  | [] => .error (.before .cutText [])
  | 'u' :: s => (readHex4 s).map Prod.snd
  | l :: s =>
    match ofEscapeLetter? l with
    | some _ => .ok s
    | none => .error (.on .badEscape (l :: s))

theorem length_of_skipEscape {s t : List Char} (h : skipEscape s = .ok t) :
    t.length < s.length := by
  unfold skipEscape at h
  split at h
  · cases h
  · cases hhex : readHex4 _ with
    | error f => rw [hhex] at h; cases h
    | ok p =>
      rw [hhex] at h
      cases h
      exact Nat.lt_succ_of_lt (length_of_readHex4 hhex)
  · split at h
    · cases h
      exact Nat.lt_succ_self _
    · cases h

/-- Passes over a text after its opening quote. -/
def skipQuoted (s : List Char) : Except Fault (List Char) :=
  match s with
  | [] => .error (.before .cutText [])
  | '"' :: s => .ok s
  | '\\' :: s =>
    match _h : skipEscape s with
    | .error f => .error f
    | .ok s => skipQuoted s
  | c :: s => if c.toNat < 0x20 then .error (.before .control (c :: s)) else skipQuoted s
termination_by s.length
decreasing_by
  · exact Nat.lt_succ_of_lt (length_of_skipEscape _h)
  · exact Nat.lt_succ_self _

theorem length_of_skipQuoted {s t : List Char} (h : skipQuoted s = .ok t) :
    t.length < s.length := by
  fun_induction skipQuoted s with
  | case1 => cases h
  | case2 => cases h; exact Nat.lt_succ_self _
  | case3 => cases h
  | case4 s s' hesc ih =>
    have := length_of_skipEscape hesc
    have := ih h
    simp only [List.length_cons]
    omega
  | case5 => cases h
  | case6 c s _ _ hc ih => exact Nat.lt_succ_of_lt (ih h)

end FixedWidth.Json
