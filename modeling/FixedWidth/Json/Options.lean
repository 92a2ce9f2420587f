import FixedWidth.Json.Skip
import FixedWidth.Json.Value
import FixedWidth.Options

/-!
# Options in JSON

Options are a record with a field for the format and one for the width, in any order and among any
others, or a list of the two.  A format is its name, or a record whose only field has that name
and is null.
-/

namespace FixedWidth.Json

/-- What the reader wanted, as its messages put it. -/
def optionsName : String := "struct FormatOptions"

/-! ## Values of the wrong kind -/

def Value.found : Value → Found
  | .null => .null
  | .flag b => .flag b
  | .number (.integer n) => .integer n
  | .number (.float x) => .float x
  | .text s => .text s
  | .list _ => .list
  | .record _ => .record

/-- The fault for a value of the wrong kind that begins with `c`.  A scalar is read first, and may
be faulty itself. -/
def wrongKind (wanted : String) (c : Char) (s : List Char) : Fault :=
  match c with
  | '[' => .before (.wrongKind .list wanted) (c :: s)
  | '\x7b' => .before (.wrongKind .record wanted) (c :: s)
  | c =>
    match readScalar c s with
    | .ok (v, s) => .before (.wrongKind v.found wanted) s
    | .error f => f

/-! ## The two fields -/

def readFormatName (s : List Char) : Except Fault (Format × List Char) :=
  match readQuoted s with
  | .error f => .error f
  | .ok (name, s) =>
    match Format.ofExactName? name with
    | some f => .ok (f, s)
    | none => .error (.before (.unknownChoice name Format.names) s)

def readNull (s : List Char) : Except Fault (List Char) :=
  match skipBlanks s with
  | [] => .error (.before .cutValue [])
  | 'n' :: s => readWord "ull".toList s
  | c :: s => .error (wrongKind "unit" c s)

def readFormatRecord (s : List Char) : Except Fault (Format × List Char) :=
  match skipBlanks s with
  | [] => .error (.before .cutObject [])
  | '\x7d' :: s => .error (.on .noValue ('\x7d' :: s))
  | '"' :: s =>
    match readFormatName s with
    | .error f => .error f
    | .ok (format, s) =>
      match readColon s with
      | .error f => .error f
      | .ok s =>
        match readNull s with
        | .error f => .error f
        | .ok s =>
          match skipBlanks s with
          | [] => .error (.before .cutObject [])
          | '\x7d' :: s => .ok (format, s)
          | c :: s => .error (.before .noValue (c :: s))
  | c :: s => .error (.on .nameNotText (c :: s))

def readFormat (s : List Char) : Except Fault (Format × List Char) :=
  match skipBlanks s with
  | [] => .error (.before .cutValue [])
  | '\x7b' :: s => readFormatRecord s
  | '"' :: s => readFormatName s
  | c :: s => .error (.on .noValue (c :: s))

def readWidth (s : List Char) : Except Fault (UInt64 × List Char) :=
  match skipBlanks s with
  | [] => .error (.before .cutValue [])
  | c :: s =>
    if c = '-' ∨ c.isDigit then
      match readNumber (c :: s) with
      | .error f => .error f
      | .ok (.integer n, s) =>
        if 0 ≤ n then .ok (UInt64.ofNat n.toNat, s)
        else .error (.before (.wrongValue (.integer n) "usize") s)
      | .ok (.float x, s) => .error (.before (.wrongKind (.float x) "usize") s)
    else .error (wrongKind "usize" c s)

/-! ## The list of the two -/

/-- Goes to the next item of a list.  `length` items have been read, and are not enough. -/
def nextItem (length : Nat) (s : List Char) : Except Fault (List Char) :=
  match skipBlanks s with
  | [] => .error (.before .cutList [])
  | ']' :: s => .error (.before (.wrongLength length (optionsName ++ " with 2 elements")) s)
  | c :: s =>
    if length = 0 then .ok (c :: s)
    else if c = ',' then
      match skipBlanks s with
      | [] => .error (.before .cutValue [])
      | ']' :: s => .error (.on .trailingComma (']' :: s))
      | c :: s => .ok (c :: s)
    else .error (.on .noCommaInList (c :: s))

def closeList (s : List Char) : Except Fault (List Char) :=
  match skipBlanks s with
  | [] => .error (.before .cutList [])
  | ']' :: s => .ok s
  | ',' :: s =>
    match skipBlanks s with
    | ']' :: s => .error (.on .trailingComma (']' :: s))
    | s => .error (.on .trailingText s)
  | c :: s => .error (.on .trailingText (c :: s))

def readOptionsList (s : List Char) : Except Fault (Options × List Char) :=
  match nextItem 0 s with
  | .error f => .error f
  | .ok s =>
    match readFormat s with
    | .error f => .error f
    | .ok (format, s) =>
      match nextItem 1 s with
      | .error f => .error f
      | .ok s =>
        match readWidth s with
        | .error f => .error f
        | .ok (width, s) => (closeList s).map fun s => (⟨format, width⟩, s)

/-! ## The record -/

structure Fields where
  format : Option Format
  width : Option UInt64

/-- The options, or the problem if a field is missing. -/
def Fields.complete (got : Fields) : Except Problem Options :=
  match got.format, got.width with
  | none, _ => .error (.missingField "format")
  | some _, none => .error (.missingField "width")
  | some format, some width => .ok ⟨format, width⟩

/-- What is unread after the closing brace, if that is next. -/
def pastBrace (s : List Char) : List Char :=
  match skipBlanks s with
  | '\x7d' :: s => s
  | s => s

/-- Reads a field after the opening quote of its name.  A field that has been read already is
refused by its name. -/
def readField (got : Fields) (s : List Char) : Except Fault (Fields × List Char) :=
  match readQuoted s with
  | .error f => .error f
  | .ok ("format", s) =>
    if got.format.isSome then .error (.before (.repeatedField "format") (pastBrace s))
    else
      match readColon s with
      | .error f => .error f
      | .ok s => (readFormat s).map fun p => (⟨some p.1, got.width⟩, p.2)
  | .ok ("width", s) =>
    if got.width.isSome then .error (.before (.repeatedField "width") (pastBrace s))
    else
      match readColon s with
      | .error f => .error f
      | .ok s => (readWidth s).map fun p => (⟨got.format, some p.1⟩, p.2)
  | .ok (_, s) =>
    match readColon s with
    | .error f => .error f
    | .ok s => (skipValue [] s).map fun s => (got, s)

inductive NextField where
  /-- a name, after its opening quote -/
  | name (s : List Char)
  /-- the end, after the closing brace -/
  | close (s : List Char)

def nextField (first : Bool) (s : List Char) : Except Fault NextField :=
  match skipBlanks s with
  | [] => .error (.before .cutObject [])
  | '\x7d' :: s => .ok (.close s)
  | c :: s =>
    if first then
      if c = '"' then .ok (.name s) else .error (.on .nameNotText (c :: s))
    else if c = ',' then
      match skipBlanks s with
      | [] => .error (.before .cutValue [])
      | '"' :: s => .ok (.name s)
      | '\x7d' :: s => .error (.on .trailingComma ('\x7d' :: s))
      | c :: s => .error (.on .nameNotText (c :: s))
    else .error (.on .noCommaInObject (c :: s))

theorem length_of_readFormatName {s t : List Char} {f : Format}
    (h : readFormatName s = .ok (f, t)) : t.length < s.length := by
  unfold readFormatName at h
  split at h
  · cases h
  · rename_i hq
    split at h
    · cases h
      exact length_of_readQuoted hq
    · cases h

theorem length_of_readNull {s t : List Char} (h : readNull s = .ok t) : t.length < s.length := by
  unfold readNull at h
  split at h
  · cases h
  · rename_i hb
    exact Nat.lt_of_le_of_lt (length_of_readWord h) (length_lt_of_skipBlanks hb)
  · cases h

theorem length_of_readFormatRecord {s t : List Char} {f : Format}
    (h : readFormatRecord s = .ok (f, t)) : t.length < s.length := by
  unfold readFormatRecord at h
  split at h
  · cases h
  · cases h
  · rename_i hb
    have := length_lt_of_skipBlanks hb
    split at h
    · cases h
    · rename_i hname
      have := length_of_readFormatName hname
      split at h
      · cases h
      · rename_i hcolon
        have := length_of_readColon hcolon
        split at h
        · cases h
        · rename_i hnull
          have := length_of_readNull hnull
          split at h
          · cases h
          · rename_i hb'
            have := length_lt_of_skipBlanks hb'
            cases h
            omega
          · cases h
  · cases h

theorem length_of_readFormat {s t : List Char} {f : Format} (h : readFormat s = .ok (f, t)) :
    t.length < s.length := by
  unfold readFormat at h
  split at h
  · cases h
  · rename_i hb
    exact Nat.lt_trans (length_of_readFormatRecord h) (length_lt_of_skipBlanks hb)
  · rename_i hb
    exact Nat.lt_trans (length_of_readFormatName h) (length_lt_of_skipBlanks hb)
  · cases h

theorem length_of_readWidth {s t : List Char} {w : UInt64} (h : readWidth s = .ok (w, t)) :
    t.length < s.length := by
  unfold readWidth at h
  split at h
  · cases h
  · rename_i c rest hb
    have := length_lt_of_skipBlanks hb
    split at h
    · split at h
      · cases h
      · rename_i hn
        have := length_of_readNumber hn
        simp only [List.length_cons] at this
        split at h
        · cases h
          omega
        · cases h
      · cases h
    · cases h

theorem length_of_readField {got next : Fields} {s t : List Char}
    (h : readField got s = .ok (next, t)) : t.length < s.length := by
  unfold readField at h
  split at h
  · cases h
  · rename_i hq
    have := length_of_readQuoted hq
    split at h
    · cases h
    · split at h
      · cases h
      · rename_i hc
        have := length_of_readColon hc
        obtain ⟨a, -, ha⟩ := exists_of_map_eq_ok (fun a => Fields.mk (some a) got.width) h
        have : t.length < _ := length_of_readFormat ha
        omega
  · rename_i hq
    have := length_of_readQuoted hq
    split at h
    · cases h
    · split at h
      · cases h
      · rename_i hc
        have := length_of_readColon hc
        obtain ⟨a, -, ha⟩ := exists_of_map_eq_ok (fun a => Fields.mk got.format (some a)) h
        have : t.length < _ := length_of_readWidth ha
        omega
  · rename_i hq
    have := length_of_readQuoted hq
    split at h
    · cases h
    · rename_i u hc
      have := length_of_readColon hc
      cases hv : skipValue [] u with
      | error f =>
        rw [hv] at h
        cases h
      | ok w =>
        rw [hv] at h
        cases h
        have := length_of_skipValue hv
        omega

theorem length_of_nextField {first : Bool} {s t : List Char}
    (h : nextField first s = .ok (.name t)) : t.length < s.length := by
  unfold nextField at h
  split at h
  · cases h
  · cases h
  · rename_i c rest _ hb
    have := length_lt_of_skipBlanks hb
    split at h
    · split at h
      · cases h
        assumption
      · cases h
    · split at h
      · split at h
        · cases h
        · rename_i hb'
          have := length_lt_of_skipBlanks hb'
          cases h
          omega
        · cases h
        · cases h
      · cases h

def readFields (got : Fields) (first : Bool) (s : List Char) :
    Except Fault (Options × List Char) :=
  match _h : nextField first s with
  | .error f => .error f
  | .ok (.close s) =>
    match got.complete with
    | .error problem => .error (.before problem s)
    | .ok o => .ok (o, s)
  | .ok (.name s) =>
    match _h₁ : readField got s with
    | .error f => .error f
    | .ok (got, s) => readFields got false s
termination_by s.length
decreasing_by
  exact Nat.lt_trans (length_of_readField _h₁) (length_of_nextField _h)

/-! ## Options -/

def readOptions (s : List Char) : Except Fault (Options × List Char) :=
  match skipBlanks s with
  | [] => .error (.before .cutValue [])
  | '[' :: s => readOptionsList s
  | '\x7b' :: s => readFields ⟨none, none⟩ true s
  | c :: s => .error (wrongKind optionsName c s)

end FixedWidth.Json

namespace FixedWidth

def Options.ofJson (text : String) : Except Json.Refusal Options :=
  let s := text.toList
  let read := do
    let (o, rest) ← Json.readOptions s
    Json.finish rest
    return o
  read.mapError (.ofFault s)

end FixedWidth
