import FixedWidth.Decimal.Integer
import FixedWidth.Json.Scan

/-!
# Numbers in JSON

A number is read in two steps.  `readLiteral` takes its characters apart, and `Literal.value`
says which number they denote.

A literal without fraction and exponent that fits 64 bits, signed or unsigned, denotes itself.
Every other literal denotes a binary number.  Its digits make a significand below `2⁶⁴`; a digit
that would take it further is dropped, and a dropped digit before the point counts as a factor of
ten.  The significand is rounded to binary, and then multiplied or divided by a power of ten, which
rounds again.  So the result is not always the nearest number.
-/

namespace FixedWidth.Json

-- Powers are the core operation here, also where those of a monoid are known.
attribute [local instance (1100)] instPowNat

open Decimal (Binary64)

inductive Number where
  | integer (n : Int)
  | float (x : Binary64)
deriving DecidableEq

structure Exponent where
  negative : Bool
  digits : List Char
deriving DecidableEq

/-- The characters of a number, taken apart. -/
structure Literal where
  negative : Bool
  whole : List Char
  /-- the digits after the point, if there is one -/
  fraction : Option (List Char)
  exponent : Option Exponent
deriving DecidableEq

/-! ## Taking a number apart -/

def takeDigits (s : List Char) : List Char := s.takeWhile Char.isDigit

def dropDigits (s : List Char) : List Char := s.dropWhile Char.isDigit

theorem length_dropDigits_le (s : List Char) : (dropDigits s).length ≤ s.length :=
  (List.dropWhile_suffix _).length_le

/-- Takes digits, of which there has to be one.  `cut` is the problem at the end of the text, and
any other character is consumed before it is found not to be a digit. -/
def readDigits (cut : Problem) (s : List Char) : Except Fault (List Char × List Char) :=
  match s with
  | [] => .error (.before cut [])
  | c :: _ =>
    if c.isDigit then .ok (takeDigits s, dropDigits s) else .error (.on .badNumber s)

/-- The digits before the point.  A zero in front is the only one. -/
def readWhole (cut : Problem) (s : List Char) : Except Fault (List Char × List Char) :=
  match s with
  | '0' :: rest =>
    match rest with
    | d :: _ => if d.isDigit then .error (.on .badNumber rest) else .ok (['0'], rest)
    | [] => .ok (['0'], [])
  | _ => readDigits cut s

/-- The digits after the point, if there is a point. -/
def readFraction (cut : Problem) : List Char → Except Fault (Option (List Char) × List Char)
  | '.' :: s => (readDigits cut s).map fun p => (some p.1, p.2)
  | s => .ok (none, s)

/-- The digits of an exponent and their sign, after the letter. -/
def readSigned (cut : Problem) : List Char → Except Fault (Exponent × List Char)
  | '-' :: s => (readDigits cut s).map fun p => (⟨true, p.1⟩, p.2)
  | '+' :: s => (readDigits cut s).map fun p => (⟨false, p.1⟩, p.2)
  | s => (readDigits cut s).map fun p => (⟨false, p.1⟩, p.2)

def readExponent (cut : Problem) : List Char → Except Fault (Option Exponent × List Char)
  | 'e' :: s => (readSigned cut s).map fun p => (some p.1, p.2)
  | 'E' :: s => (readSigned cut s).map fun p => (some p.1, p.2)
  | s => .ok (none, s)

def readUnsigned (negative : Bool) (cut : Problem) (s : List Char) :
    Except Fault (Literal × List Char) :=
  match readWhole cut s with
  | .error f => .error f
  | .ok (whole, s) =>
    match readFraction cut s with
    | .error f => .error f
    | .ok (fraction, s) =>
      match readExponent cut s with
      | .error f => .error f
      | .ok (exponent, s) => .ok (⟨negative, whole, fraction, exponent⟩, s)

/-- Reads a literal.  `cut` is the problem if the text ends where a digit is missing. -/
def readLiteral (cut : Problem) : List Char → Except Fault (Literal × List Char)
  | '-' :: s => readUnsigned true cut s
  | s => readUnsigned false cut s

/-! ## What a literal denotes -/

/-- Takes digits into a number as long as it stays below a bound, and leaves the others. -/
def gather (bound n : Nat) : List Char → Nat × List Char
  | [] => (n, [])
  | d :: ds =>
    if 10 * n + Decimal.digitValue d < bound then gather bound (10 * n + Decimal.digitValue d) ds
    else (n, d :: ds)

def tenPow (n : Nat) : Binary64 := .ofRatio false (10 ^ n) 1

/-- Divides by `10 ^ n`, by at most `10 ^ 308` at a time. -/
def shrink (n : Nat) (x : Binary64) : Binary64 :=
  if n ≤ 308 then x.div (tenPow n)
  else if x.isZero then x
  else shrink (n - 308) (x.div (tenPow 308))
termination_by n

/-- The number for a significand and an exponent of ten, unless it is too large. -/
def scale? (significand : Nat) (e : Int) : Option Binary64 :=
  let x := Binary64.ofRatio false significand 1
  if e < 0 then some (shrink e.natAbs x)
  else if 308 < e then
    if x.isZero then some x else none
  else
    let y := x.mul (tenPow e.toNat)
    if y.isFinite then some y else none

namespace Literal

def signed (l : Literal) (x : Binary64) : Binary64 :=
  if l.negative then x.neg else x

/-- The number that a literal without fraction and exponent denotes if its digits fit 64 bits. -/
def wholeValue (l : Literal) (n : Nat) : Number :=
  if l.negative then
    if n = 0 ∨ 2 ^ (63 : Nat) < n then .float (Binary64.ofRatio false n 1).neg else .integer (-n)
  else .integer n

/-- The binary number for a significand and what the digits say of its exponent.  An exponent
beyond 32 bits is taken as unlimited.  A number that is too large is reported with the digits that
are unread at that point. -/
def scaled (l : Literal) (significand : Nat) (e : Int) : Except Nat Number :=
  let scaledBy (e : Int) : Except Nat Number :=
    match scale? significand e with
    | some x => .ok (.float (l.signed x))
    | none => .error 0
  match l.exponent with
  | none => scaledBy e
  | some x =>
    match gather (2 ^ (31 : Nat)) 0 x.digits with
    | (k, []) => scaledBy (if x.negative then e - k else e + k)
    | (_, _ :: unread) =>
      if significand ≠ 0 ∧ !x.negative then .error unread.length
      else .ok (.float (l.signed .zero))

def value (l : Literal) : Except Nat Number :=
  let (n, dropped) := gather (2 ^ (64 : Nat)) 0 l.whole
  if l.fraction = none ∧ l.exponent = none ∧ dropped = [] then .ok (l.wholeValue n)
  else
    let fraction := l.fraction.getD []
    let (significand, lost) := gather (2 ^ (64 : Nat)) n fraction
    l.scaled significand (dropped.length - (fraction.length - lost.length : Nat))

end Literal

/-- Reads a number that begins with a minus sign or a digit. -/
def readNumber (s : List Char) : Except Fault (Number × List Char) :=
  match readLiteral .cutValue s with
  | .error f => .error f
  | .ok (l, rest) =>
    match l.value with
    | .ok n => .ok (n, rest)
    | .error unread => .error ⟨.numberTooLarge, byteCount rest + unread⟩

/-- Passes over a number that nobody asked for, however large. -/
def skipNumber (s : List Char) : Except Fault (List Char) :=
  (readLiteral .badNumber s).map Prod.snd

/-! ## Reading makes the text shorter -/

theorem length_of_readDigits {cut : Problem} {s t ds : List Char}
    (h : readDigits cut s = .ok (ds, t)) : t.length < s.length := by
  unfold readDigits at h
  split at h
  · cases h
  · rename_i c u
    split at h
    · rename_i hc
      simp only [Except.ok.injEq, Prod.mk.injEq] at h
      have hdrop : dropDigits (c :: u) = dropDigits u := by simp [dropDigits, hc]
      have := length_dropDigits_le u
      rw [← h.2, hdrop, List.length_cons]
      omega
    · cases h

theorem length_of_readWhole {cut : Problem} {s t ds : List Char}
    (h : readWhole cut s = .ok (ds, t)) : t.length < s.length := by
  unfold readWhole at h
  split at h
  · split at h
    · split at h
      · cases h
      · cases h
        exact Nat.lt_succ_self _
    · cases h
      exact Nat.lt_succ_self _
  · exact length_of_readDigits h

theorem exists_of_map_eq_ok {α β γ ε : Type} {x : Except ε (α × γ)} (f : α → β) {b : β} {c : γ}
    (h : x.map (fun q => (f q.1, q.2)) = .ok (b, c)) : ∃ a, f a = b ∧ x = .ok (a, c) := by
  cases x with
  | error e => cases h
  | ok q =>
    cases h
    exact ⟨q.1, rfl, rfl⟩

theorem length_of_readFraction {cut : Problem} {s t : List Char} {ds : Option (List Char)}
    (h : readFraction cut s = .ok (ds, t)) : t.length ≤ s.length := by
  unfold readFraction at h
  split at h
  · obtain ⟨a, -, ha⟩ := exists_of_map_eq_ok _ h
    exact Nat.le_succ_of_le (Nat.le_of_lt (length_of_readDigits ha))
  · cases h
    exact Nat.le_refl _

theorem length_of_readSigned {cut : Problem} {s t : List Char} {x : Exponent}
    (h : readSigned cut s = .ok (x, t)) : t.length ≤ s.length := by
  unfold readSigned at h
  split at h
  · obtain ⟨a, -, ha⟩ := exists_of_map_eq_ok _ h
    exact Nat.le_succ_of_le (Nat.le_of_lt (length_of_readDigits ha))
  · obtain ⟨a, -, ha⟩ := exists_of_map_eq_ok _ h
    exact Nat.le_succ_of_le (Nat.le_of_lt (length_of_readDigits ha))
  · obtain ⟨a, -, ha⟩ := exists_of_map_eq_ok _ h
    exact Nat.le_of_lt (length_of_readDigits ha)

theorem length_of_readExponent {cut : Problem} {s t : List Char} {x : Option Exponent}
    (h : readExponent cut s = .ok (x, t)) : t.length ≤ s.length := by
  unfold readExponent at h
  split at h
  · obtain ⟨a, -, ha⟩ := exists_of_map_eq_ok _ h
    exact Nat.le_succ_of_le (length_of_readSigned ha)
  · obtain ⟨a, -, ha⟩ := exists_of_map_eq_ok _ h
    exact Nat.le_succ_of_le (length_of_readSigned ha)
  · cases h
    exact Nat.le_refl _

theorem length_of_readUnsigned {negative : Bool} {cut : Problem} {s t : List Char} {l : Literal}
    (h : readUnsigned negative cut s = .ok (l, t)) : t.length < s.length := by
  unfold readUnsigned at h
  split at h
  · cases h
  · rename_i h₁
    split at h
    · cases h
    · rename_i h₂
      split at h
      · cases h
      · rename_i h₃
        cases h
        have := length_of_readWhole h₁
        have := length_of_readFraction h₂
        have := length_of_readExponent h₃
        omega

theorem length_of_readLiteral {cut : Problem} {s t : List Char} {l : Literal}
    (h : readLiteral cut s = .ok (l, t)) : t.length < s.length := by
  unfold readLiteral at h
  split at h
  · exact Nat.lt_succ_of_lt (length_of_readUnsigned h)
  · exact length_of_readUnsigned h

theorem length_of_readNumber {s t : List Char} {n : Number} (h : readNumber s = .ok (n, t)) :
    t.length < s.length := by
  unfold readNumber at h
  split at h
  · cases h
  · rename_i hl
    split at h
    · cases h
      exact length_of_readLiteral hl
    · cases h

theorem length_of_skipNumber {s t : List Char} (h : skipNumber s = .ok t) :
    t.length < s.length := by
  unfold skipNumber at h
  cases hl : readLiteral .badNumber s with
  | error f =>
    rw [hl] at h
    cases h
  | ok p =>
    rw [hl] at h
    cases h
    exact length_of_readLiteral hl

end FixedWidth.Json
