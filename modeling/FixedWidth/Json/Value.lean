import FixedWidth.Json.Number
import FixedWidth.Json.Quoted

/-!
# Reading a JSON value

A value is read from the front of a text.  The lists and records that are still open are kept in
frames, innermost first, each with what has been read of it, so that reading is one loop: a value
is wanted, or one has just been read and belongs to the innermost frame.
-/

namespace FixedWidth.Json

inductive Value where
  | null
  | flag (b : Bool)
  | number (n : Number)
  | text (s : String)
  | list (items : List Value)
  | record (fields : List (String × Value))

/-- A list or a record part way through, with what has been read of it, last first. -/
inductive Frame where
  | list (done : List Value)
  | record (done : List (String × Value)) (name : String)

/-- As many lists and records may not be open at once. -/
def maxDepth : Nat := 128

/-- Reads a value that is neither a list nor a record and begins with `c`. -/
def readScalar (c : Char) (s : List Char) : Except Fault (Value × List Char) :=
  match c with
  | 'n' => (readWord "ull".toList s).map fun s => (.null, s)
  | 't' => (readWord "rue".toList s).map fun s => (.flag true, s)
  | 'f' => (readWord "alse".toList s).map fun s => (.flag false, s)
  | '"' => (readQuoted s).map fun p => (.text p.1, p.2)
  | c =>
    if c = '-' ∨ c.isDigit then (readNumber (c :: s)).map fun p => (.number p.1, p.2)
    else .error (.on .noValue (c :: s))

/-- Reads the rest of a field's name, after its opening quote, and the colon. -/
def readName (s : List Char) : Except Fault (String × List Char) :=
  match readQuoted s with
  | .error f => .error f
  | .ok (name, s) => (readColon s).map fun s => (name, s)

theorem length_of_readScalar {c : Char} {s t : List Char} {v : Value}
    (h : readScalar c s = .ok (v, t)) : t.length < (c :: s).length := by
  have word {w : List Char} {x : Value}
      (h : (readWord w s).map (fun s => (x, s)) = .ok (v, t)) : t.length < (c :: s).length := by
    cases hw : readWord w s with
    | error f =>
      rw [hw] at h
      cases h
    | ok u =>
      rw [hw] at h
      cases h
      exact Nat.lt_succ_of_le (length_of_readWord hw)
  unfold readScalar at h
  split at h
  · exact word h
  · exact word h
  · exact word h
  · obtain ⟨a, -, ha⟩ := exists_of_map_eq_ok _ h
    exact Nat.lt_succ_of_lt (length_of_readQuoted ha)
  · split at h
    · obtain ⟨a, -, ha⟩ := exists_of_map_eq_ok _ h
      exact length_of_readNumber ha
    · cases h

theorem length_of_readName {s t : List Char} {name : String} (h : readName s = .ok (name, t)) :
    t.length < s.length := by
  unfold readName at h
  split at h
  · cases h
  · rename_i u hq
    cases hc : readColon u with
    | error f =>
      rw [hc] at h
      cases h
    | ok w =>
      rw [hc] at h
      cases h
      exact Nat.lt_trans (length_of_readColon hc) (length_of_readQuoted hq)

mutual

/-- Reads a value and then what is open around it. -/
def readValue (frames : List Frame) (s : List Char) : Except Fault (Value × List Char) :=
  match _h : skipBlanks s with
  | [] => .error (.before .cutValue [])
  | '[' :: rest =>
    if maxDepth ≤ frames.length + 1 then .error (.on .tooDeep ('[' :: rest))
    else
      match _h₁ : skipBlanks rest with
      | [] => .error (.before .cutList [])
      | ']' :: rest => readAfter frames (.list []) rest
      | c :: rest => readValue (.list [] :: frames) (c :: rest)
  | '\x7b' :: rest =>
    if maxDepth ≤ frames.length + 1 then .error (.on .tooDeep ('\x7b' :: rest))
    else
      match _h₁ : skipBlanks rest with
      | [] => .error (.before .cutObject [])
      | '\x7d' :: rest => readAfter frames (.record []) rest
      | '"' :: rest =>
        match _h₂ : readName rest with
        | .error f => .error f
        | .ok (name, rest) => readValue (.record [] name :: frames) rest
      | c :: rest => .error (.on .nameNotText (c :: rest))
  | c :: rest =>
    match _h₁ : readScalar c rest with
    | .error f => .error f
    | .ok (v, rest) => readAfter frames v rest
termination_by s.length
decreasing_by
  all_goals have := length_lt_of_skipBlanks _h
  · have := length_lt_of_skipBlanks _h₁
    omega
  · have := length_lt_of_skipBlanks _h₁
    simp only [List.length_cons]
    omega
  · have := length_lt_of_skipBlanks _h₁
    omega
  · have := length_lt_of_skipBlanks _h₁
    have := length_of_readName _h₂
    omega
  · have := length_of_readScalar _h₁
    simp only [List.length_cons] at this
    omega

/-- Puts a value into the innermost frame and reads on.  With no frame left it is the result. -/
def readAfter (frames : List Frame) (v : Value) (s : List Char) :
    Except Fault (Value × List Char) :=
  match frames with
  | [] => .ok (v, s)
  | .list done :: frames =>
    match _h : skipBlanks s with
    | [] => .error (.before .cutList [])
    | ']' :: rest => readAfter frames (.list (v :: done).reverse) rest
    | ',' :: rest =>
      match _h₁ : skipBlanks rest with
      | [] => .error (.before .cutValue [])
      | ']' :: rest => .error (.on .trailingComma (']' :: rest))
      | c :: rest => readValue (.list (v :: done) :: frames) (c :: rest)
    | c :: rest => .error (.on .noCommaInList (c :: rest))
  | .record done name :: frames =>
    match _h : skipBlanks s with
    | [] => .error (.before .cutObject [])
    | '\x7d' :: rest => readAfter frames (.record ((name, v) :: done).reverse) rest
    | ',' :: rest =>
      match _h₁ : skipBlanks rest with
      | [] => .error (.before .cutValue [])
      | '"' :: rest =>
        match _h₂ : readName rest with
        | .error f => .error f
        | .ok (next, rest) => readValue (.record ((name, v) :: done) next :: frames) rest
      | '\x7d' :: rest => .error (.on .trailingComma ('\x7d' :: rest))
      | c :: rest => .error (.on .nameNotText (c :: rest))
    | c :: rest => .error (.on .noCommaInObject (c :: rest))
termination_by s.length
decreasing_by
  all_goals have := length_lt_of_skipBlanks _h
  · omega
  · have := length_lt_of_skipBlanks _h₁
    simp only [List.length_cons]
    omega
  · omega
  · have := length_lt_of_skipBlanks _h₁
    have := length_of_readName _h₂
    omega

end

/-- Fails if anything but white space is left. -/
def finish (s : List Char) : Except Fault Unit :=
  match skipBlanks s with
  | [] => .ok ()
  | c :: rest => .error (.on .trailingText (c :: rest))

end FixedWidth.Json
