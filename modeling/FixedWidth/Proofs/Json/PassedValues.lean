import FixedWidth.Json.Skip
import FixedWidth.Proofs.Json.Documents

/-!
# Passing over values

A value that nobody asked for only has to be well formed.  Its numbers may be of any size, half of a
surrogate pair may stand alone in its texts, and it may be nested to any depth.  Whatever is open
around such a value, the reader goes on behind it.
-/

namespace FixedWidth.Json

/-! ## Well-formed text -/

/-- A character of a quoted text, or half of one. -/
inductive RawCharacter : List Char → List Char → Prop where
  | plain {c : Char} {s : List Char} (hquote : c ≠ '"') (hslash : c ≠ '\\')
      (hcontrol : 0x20 ≤ c.toNat) : RawCharacter (c :: s) s
  | letter {l c : Char} {s : List Char} (h : (l, c) ∈ escapeLetters) :
      RawCharacter ('\\' :: l :: s) s
  | unit {n : Nat} {s rest : List Char} (h : Hex4 s n rest) : RawCharacter ('\\' :: 'u' :: s) rest

/-- What follows an opening quote, up to the closing quote. -/
inductive RawBody : List Char → List Char → Prop where
  | close {rest : List Char} : RawBody ('"' :: rest) rest
  | character {s t rest : List Char} (hc : RawCharacter s t) (h : RawBody t rest) :
      RawBody s rest

inductive RawScalar : List Char → List Char → Prop where
  | null {rest : List Char} : RawScalar ("null".toList ++ rest) rest
  | true {rest : List Char} : RawScalar ("true".toList ++ rest) rest
  | false {rest : List Char} : RawScalar ("false".toList ++ rest) rest
  | number {s rest : List Char} {l : Literal} (h : Numeral s l rest) : RawScalar s rest
  | text {s rest : List Char} (h : RawBody s rest) : RawScalar ('"' :: s) rest

inductive RawField (Item : List Char → Unit → List Char → Prop) :
    List Char → Unit → List Char → Prop where
  | mk {s t u v rest : List Char} {x : Unit} (hname : RawBody s t) (hcolon : Blanks t (':' :: u))
      (hblank : Blanks u v) (hx : Item v x rest) : RawField Item ('"' :: s) x rest

/-- A value in which lists and records are nested at most so deep.  Nothing of it is kept. -/
def RawValue : Nat → List Char → Unit → List Char → Prop
  | 0, s, _, rest => RawScalar s rest
  | depth + 1, s, _, rest =>
    RawScalar s rest ∨
      (∃ items, Enclosed (RawValue depth) '[' ']' s items rest) ∨
        ∃ fields, Enclosed (RawField (RawValue depth)) '\x7b' '\x7d' s fields rest

/-- A value of JSON is in front. -/
def WellFormed (s rest : List Char) : Prop :=
  ∃ depth, RawValue depth s () rest

/-! ## Quoted texts -/

theorem skipQuoted_escape {e s : List Char} (h : skipEscape e = .ok s) :
    skipQuoted ('\\' :: e) = skipQuoted s := by
  rw [skipQuoted]
  split
  · rename_i f hf
    rw [h] at hf
    cases hf
  · rename_i t ht
    rw [h] at ht
    cases ht
    rfl

theorem skipQuoted_character {s t : List Char} (h : RawCharacter s t) :
    skipQuoted s = skipQuoted t := by
  cases h with
  | plain hquote hslash hcontrol =>
      rw [skipQuoted, if_neg (Nat.not_lt.2 hcontrol)]
      · exact hquote
      · exact hslash
  | letter hletter =>
      apply skipQuoted_escape
      rw [skipEscape, ofEscapeLetter?_eq_some_iff.2 hletter]
      rintro rfl
      simp [escapeLetters] at hletter
  | unit hhex =>
      apply skipQuoted_escape
      rw [skipEscape, readHex4_eq_ok_iff.2 hhex]
      rfl

theorem RawBody.skip {s rest : List Char} (h : RawBody s rest) : skipQuoted s = .ok rest := by
  induction h with
  | close => rw [skipQuoted]
  | character hc h ih => rw [skipQuoted_character hc, ih]

/-- Both halves of a pair are passed over one after the other. -/
theorem RawBody.of_character {c : Char} {s t rest : List Char} (hc : Character s c t)
    (h : RawBody t rest) : RawBody s rest := by
  cases hc with
  | plain hquote hslash hcontrol => exact .character (.plain hquote hslash hcontrol) h
  | letter hletter => exact .character (.letter hletter) h
  | unit hhex => exact .character (.unit hhex) h
  | pair hc hhigh hlow => exact .character (.unit hhigh) (.character (.unit hlow) h)

theorem Body.raw {s cs rest : List Char} (h : Body s cs rest) : RawBody s rest := by
  induction h with
  | close => exact .close
  | character hc h ih => exact .of_character hc ih

theorem Quoted.raw {s rest : List Char} {x : String} (h : Quoted s x rest) : RawScalar s rest := by
  obtain ⟨h⟩ := h
  exact .text h.raw

theorem skipQuoted_of_readQuoted {s rest : List Char} {x : String}
    (h : readQuoted s = .ok (x, rest)) : skipQuoted s = .ok rest := by
  obtain ⟨h⟩ := readQuoted_eq_ok_iff.1 h
  exact h.raw.skip

/-! ## Turns -/

def Bracket.opening : Bracket → Char
  | .list => '['
  | .record => '\x7b'

section Turns

variable {brackets : List Bracket} {b : Bracket} {c : Char} {s t u v : List Char}

theorem skipValue_of_beginsScalar (hs : skipBlanks s = c :: t) (hc : BeginsScalar c) :
    skipValue brackets s = (skipScalar c t).bind (skipAfter brackets) := by
  rw [skipValue, hs]
  split
  · contradiction
  · rename_i hcons
    cases hcons
    exact absurd rfl hc.ne_open
  · rename_i hcons
    cases hcons
    exact absurd rfl hc.ne_record
  · rename_i hcons
    cases hcons
    split
    · rename_i hscalar
      rw [hscalar]
      rfl
    · rename_i hscalar
      rw [hscalar]
      rfl

theorem skipValue_scalar (hs : skipBlanks s = c :: t) (hc : BeginsScalar c)
    (h : skipScalar c t = .ok u) : skipValue brackets s = skipAfter brackets u := by
  rw [skipValue_of_beginsScalar hs hc, h]
  rfl

theorem skipValue_open (hs : skipBlanks s = b.opening :: t) :
    skipValue brackets s = skipFirst brackets b t := by
  cases b with
  | list =>
      rw [skipValue, hs]
      rfl
  | record =>
      rw [skipValue, hs]
      rfl

theorem skipFirst_close (hs : skipBlanks s = b.closing :: t) :
    skipFirst brackets b s = skipAfter brackets t := by
  rw [skipFirst, hs]
  exact if_pos rfl

theorem skipFirst_item (hs : skipBlanks s = c :: t) (hc : c ≠ b.closing)
    (hlabel : skipLabel b (c :: t) = .ok u) :
    skipFirst brackets b s = skipValue (b :: brackets) u := by
  rw [skipFirst, hs]
  simp only [if_neg hc]
  rw [hlabel]

theorem skipAfter_nil (s : List Char) : skipAfter [] s = .ok s := by
  rw [skipAfter]

theorem skipAfter_close (hs : skipBlanks s = b.closing :: t) :
    skipAfter (b :: brackets) s = skipAfter brackets t := by
  have hcomma : b.closing ≠ ',' := by cases b <;> decide
  rw [skipAfter, hs]
  simp only [if_neg hcomma, if_true]

theorem skipAfter_item (hs : skipBlanks s = ',' :: t) (hlabel : skipLabel b t = .ok u) :
    skipAfter (b :: brackets) s = skipValue (b :: brackets) u := by
  rw [skipAfter, hs]
  simp only [if_true]
  rw [hlabel]

theorem skipLabel_record (hs : skipBlanks s = '"' :: t) (hname : skipQuoted t = .ok u)
    (hcolon : readColon u = .ok v) : skipLabel .record s = .ok v := by
  simp only [skipLabel, hs, hname, hcolon]

end Turns

/-! ## Values -/

theorem skipScalar_number {c : Char} (h : c = '-' ∨ c.isDigit = true) (s : List Char) :
    skipScalar c s = skipNumber (c :: s) := by
  rw [skipScalar, if_pos h]
  all_goals
    rintro rfl
    simp at h

theorem RawScalar.skip {s rest : List Char} (h : RawScalar s rest) (hrest : EndsNumber rest) :
    ∃ c t, s = c :: t ∧ BeginsScalar c ∧ skipScalar c t = .ok rest := by
  cases h with
  | null =>
      exact ⟨'n', "ull".toList ++ rest, rfl, beginsScalar_of_mem (by decide),
        readWord_eq_ok_iff.2 rfl⟩
  | true =>
      exact ⟨'t', "rue".toList ++ rest, rfl, beginsScalar_of_mem (by decide),
        readWord_eq_ok_iff.2 rfl⟩
  | false =>
      exact ⟨'f', "alse".toList ++ rest, rfl, beginsScalar_of_mem (by decide),
        readWord_eq_ok_iff.2 rfl⟩
  | number hnumeral =>
      obtain ⟨c, t, rfl, hc⟩ := hnumeral.exists_cons
      refine ⟨c, t, rfl, beginsScalar_of_number hc, ?_⟩
      rw [skipScalar_number hc, skipNumber, hnumeral.read hrest]
      rfl
  | text hbody => exact ⟨'"', _, rfl, beginsScalar_of_mem (by decide), hbody.skip⟩

/-- An item within these brackets is passed over with the label before it, and does not look like
the end. -/
structure IsPassed (b : Bracket) (Item : List Char → Unit → List Char → Prop) : Prop where
  exists_cons : ∀ {s x rest}, Item s x rest → EndsNumber rest →
    ∃ c t, s = c :: t ∧ c.isWhitespace = false ∧ c ≠ b.closing
  skip : ∀ {brackets s t x rest}, Blanks s t → Item t x rest → EndsNumber rest →
    ∃ u, skipLabel b s = .ok u ∧ skipValue (b :: brackets) u = skipAfter (b :: brackets) rest

section Brackets

variable {b : Bracket} {Item : List Char → Unit → List Char → Prop} {brackets : List Bracket}
  {s rest : List Char} {items : List Unit}

theorem Bracket.closing_mem (b : Bracket) : b.closing ∈ [',', ']', '\x7d'] := by
  cases b <;> decide

theorem Bracket.closing_not_blank (b : Bracket) : b.closing.isWhitespace = false := by
  cases b <;> decide

theorem Bracket.opening_not_blank (b : Bracket) : b.opening.isWhitespace = false := by
  cases b <;> decide

theorem skipAfter_later (hitem : IsPassed b Item) (h : Later Item b.closing s items rest) :
    skipAfter (b :: brackets) s = skipAfter brackets rest := by
  induction h with
  | close h => exact skipAfter_close (h.skip b.closing_not_blank)
  | item hcomma hblank hx hlater ih =>
      obtain ⟨u, hlabel, hskip⟩ := hitem.skip hblank hx (hlater.endsNumber b.closing_mem)
      rw [skipAfter_item (hcomma.skip (by decide)) hlabel, hskip, ih]

theorem skipValue_enclosed (hitem : IsPassed b Item) {t : List Char} (hblank : Blanks t s)
    (h : Enclosed Item b.opening b.closing s items rest) :
    skipValue brackets t = skipAfter brackets rest := by
  cases h with
  | empty h =>
      rw [skipValue_open (hblank.skip b.opening_not_blank),
        skipFirst_close (h.skip b.closing_not_blank)]
  | items hblank' hx hlater =>
      have hends := hlater.endsNumber b.closing_mem
      obtain ⟨c, u, rfl, hc, hclosing⟩ := hitem.exists_cons hx hends
      obtain ⟨v, hlabel, hskip⟩ := hitem.skip .nil hx hends
      rw [skipValue_open (hblank.skip b.opening_not_blank),
        skipFirst_item (hblank'.skip hc) hclosing hlabel, hskip, skipAfter_later hitem hlater]

end Brackets

def IsPassedValue (depth : Nat) : Prop :=
  ∀ {brackets s t x rest}, Blanks s t → RawValue depth t x rest → EndsNumber rest →
    skipValue brackets s = skipAfter brackets rest

theorem RawValue.exists_cons {depth : Nat} {s rest : List Char} {x : Unit}
    (h : RawValue depth s x rest) (hrest : EndsNumber rest) :
    ∃ c t, s = c :: t ∧ c.isWhitespace = false ∧ c ≠ ']' := by
  have scalar (h : RawScalar s rest) :
      ∃ c t, s = c :: t ∧ c.isWhitespace = false ∧ c ≠ ']' := by
    obtain ⟨c, t, rfl, hc, -⟩ := h.skip hrest
    exact ⟨c, t, rfl, hc.not_blank, hc.ne_close⟩
  cases depth with
  | zero => exact scalar h
  | succ depth =>
      rcases h with h | ⟨items, h⟩ | ⟨fields, h⟩
      · exact scalar h
      · obtain ⟨t, rfl⟩ := h.exists_cons
        exact ⟨'[', t, rfl, by decide, by decide⟩
      · obtain ⟨t, rfl⟩ := h.exists_cons
        exact ⟨'\x7b', t, rfl, by decide, by decide⟩

theorem IsPassedValue.list {depth : Nat} (h : IsPassedValue depth) :
    IsPassed .list (RawValue depth) where
  exists_cons := RawValue.exists_cons
  skip := fun {_ s _ _ _} hblank hx hrest => ⟨s, rfl, h hblank hx hrest⟩

theorem IsPassedValue.record {depth : Nat} (h : IsPassedValue depth) :
    IsPassed .record (RawField (RawValue depth)) where
  exists_cons := by
    rintro _ _ _ ⟨-, -, -, -⟩ -
    exact ⟨'"', _, rfl, by decide, by decide⟩
  skip := by
    rintro brackets s _ x rest hblank ⟨hname, hcolon, hblank', hx⟩ hrest
    exact ⟨_, skipLabel_record (hblank.skip (by decide)) hname.skip (readColon_eq_ok_iff.2 hcolon),
      h hblank' hx hrest⟩

/-- The reader goes on behind a value, whatever is open around it. -/
theorem isPassedValue (depth : Nat) : IsPassedValue depth := by
  have scalar {brackets : List Bracket} {s t rest : List Char} (hblank : Blanks s t)
      (h : RawScalar t rest) (hrest : EndsNumber rest) :
      skipValue brackets s = skipAfter brackets rest := by
    obtain ⟨c, u, rfl, hc, hskip⟩ := h.skip hrest
    exact skipValue_scalar (hblank.skip hc.not_blank) hc hskip
  induction depth with
  | zero => exact fun hblank h => scalar hblank h
  | succ depth ih =>
      rintro brackets s t x rest hblank (h | ⟨items, h⟩ | ⟨fields, h⟩) hrest
      · exact scalar hblank h hrest
      · exact skipValue_enclosed ih.list hblank h
      · exact skipValue_enclosed ih.record hblank h

theorem WellFormed.skip {s t rest : List Char} (h : WellFormed t rest) (hblank : Blanks s t)
    (hrest : EndsNumber rest) : skipValue [] s = .ok rest := by
  obtain ⟨depth, h⟩ := h
  rw [isPassedValue depth hblank h hrest, skipAfter_nil]

end FixedWidth.Json
