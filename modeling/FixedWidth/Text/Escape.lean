import FixedWidth.Text.Unprintable

/-!
# Escaped text

Text from a result cell is shown with every unprintable character, the double quote and the
backslash spelled out.  Six characters have a letter of their own after a backslash; the others
are written by their code point in lower-case hexadecimal between braces, as in `\u{1b}`.

Each character is escaped on its own, so escaping distributes over concatenation, and `unescape`
reads the escaped form back.
-/

namespace FixedWidth.Text

def letterOf? : Char → Option Char
  | '\x00' => some '0'
  | '\t' => some 't'
  | '\r' => some 'r'
  | '\n' => some 'n'
  | '"' => some '"'
  | '\\' => some '\\'
  | _ => none

def ofLetter? : Char → Option Char
  | '0' => some '\x00'
  | 't' => some '\t'
  | 'r' => some '\r'
  | 'n' => some '\n'
  | '"' => some '"'
  | '\\' => some '\\'
  | _ => none

def escapeChar (c : Char) : List Char :=
  match letterOf? c with
  | some l => ['\\', l]
  | none =>
    if isUnprintable c then ['\\', 'u', '{'] ++ Nat.toDigits 16 c.toNat ++ ['}'] else [c]

def escapeChars (s : List Char) : List Char :=
  s.flatMap escapeChar

/-- The escaped form of a text, without quotes around it. -/
def escape (s : String) : String :=
  String.ofList (escapeChars s.toList)

/-- The escaped form between double quotes. -/
def quote (s : String) : String :=
  "\"" ++ escape s ++ "\""

@[simp] theorem escapeChars_nil : escapeChars [] = [] := rfl

@[simp] theorem escapeChars_cons (c : Char) (s : List Char) :
    escapeChars (c :: s) = escapeChar c ++ escapeChars s := by
  simp [escapeChars]

@[simp] theorem escapeChars_append (s t : List Char) :
    escapeChars (s ++ t) = escapeChars s ++ escapeChars t := by
  simp [escapeChars]

def hexValue? (c : Char) : Option Nat :=
  if '0' ≤ c && c ≤ '9' then some (c.toNat - 0x30)
  else if 'a' ≤ c && c ≤ 'f' then some (c.toNat - 0x57)
  else if 'A' ≤ c && c ≤ 'F' then some (c.toNat - 0x37)
  else none

theorem hexValue?_digitChar {d : Nat} (h : d < 16) : hexValue? (Nat.digitChar d) = some d := by
  have hall : ∀ d < 16, hexValue? (Nat.digitChar d) = some d := by decide
  exact hall d h

theorem toNat_ofNat {n : Nat} (h : n.isValidChar) : (Char.ofNat n).toNat = n := by
  rw [Char.ofNat, dif_pos h]
  rfl

/-- How far into an escape the reader of escaped text is. -/
inductive EscapeState where
  /-- between two characters -/
  | plain
  /-- after a backslash -/
  | letter
  /-- after the letter that announces a code point -/
  | brace
  /-- among the digits of a code point, with their value so far -/
  | digits (n : Nat)

/-- Reads escaped text back, from any point of it. -/
def unescapeFrom : EscapeState → List Char → Option (List Char)
  | .plain, [] => some []
  | .plain, '\\' :: s => unescapeFrom .letter s
  | .plain, c :: s => (unescapeFrom .plain s).map (c :: ·)
  | .letter, 'u' :: s => unescapeFrom .brace s
  | .letter, l :: s =>
    match ofLetter? l with
    | some c => (unescapeFrom .plain s).map (c :: ·)
    | none => none
  | .brace, '{' :: s => unescapeFrom (.digits 0) s
  | .digits n, '}' :: s =>
    if n.isValidChar then (unescapeFrom .plain s).map (Char.ofNat n :: ·) else none
  | .digits n, d :: s =>
    match hexValue? d with
    | some v => unescapeFrom (.digits (16 * n + v)) s
    | none => none
  | _, _ => none

def unescape (s : String) : Option String :=
  (unescapeFrom .plain s.toList).map String.ofList

example : escape "say \"hi\"\x1b" = "say \\\"hi\\\"\\u\x7b1b\x7d" := by decide +kernel

example : unescape (escape "a\nb\u0301'") = some "a\nb\u0301'" := by decide +kernel

end FixedWidth.Text
