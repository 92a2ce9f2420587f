import FixedWidth.Json.Options
import FixedWidth.Proofs.Json.PassedValues
import FixedWidth.Proofs.Json.QuotedText
import FixedWidth.Proofs.Json.WholeNumber

/-!
# Reading options back

Options are read from a record by the names of its fields.  What has been read of it is determined
by the names so far, and so the order of the fields does not matter, nor does a field that is passed
over.  Each of the two names counts once: a second one is refused, and at the end neither may be
missing.
-/

namespace FixedWidth.Json

/-! ## Records of options -/

inductive NamedField (Value : String → List Char → List Char → Prop) :
    List Char → String → List Char → Prop where
  | mk {s t u v rest : List Char} {name : String} (hname : Quoted s name t)
      (hcolon : Blanks t (':' :: u)) (hblank : Blanks u v) (hx : Value name v rest) :
      NamedField Value s name rest

/-- The whole text is a record with fields of these names, in this order. -/
def IsRecord (Value : String → List Char → List Char → Prop) (text : String)
    (names : List String) : Prop :=
  ∃ s rest, Blanks text.toList s ∧ Enclosed (NamedField Value) '\x7b' '\x7d' s names rest ∧
    Blanks rest []

/-- What options have under a name.  Under any other name there may be any value. -/
def OptionValue (o : Options) (name : String) (s rest : List Char) : Prop :=
  if name = "format" then Quoted s o.format.name rest
  else if name = "width" then s = Decimal.integerChars o.width.toNat ++ rest
  else WellFormed s rest

/-! ## The two values -/

theorem readFormat_quoted {s t rest : List Char} {f : Format} (hblank : Blanks s t)
    (h : Quoted t f.name rest) : readFormat s = .ok (f, rest) := by
  obtain ⟨h⟩ := h
  rw [readFormat, hblank.skip (by decide)]
  simp only [readFormatName, readQuoted_eq_ok_iff.2 (.mk h), Format.ofExactName?_name]

theorem readWidth_integer {s rest : List Char} {w : UInt64}
    (hblank : Blanks s (Decimal.integerChars w.toNat ++ rest)) (hrest : EndsNumber rest) :
    readWidth s = .ok (w, rest) := by
  have hnumeral := numeral_integerChars w.toNat rest
  have hvalue : (integerLiteral w.toNat).value = .ok (.integer w.toNat) :=
    value_integerLiteral (by omega) (by have := w.toNat_lt; omega)
  have hread :
      readNumber (Decimal.integerChars w.toNat ++ rest) = .ok (.integer w.toNat, rest) := by
    rw [readNumber, hnumeral.read hrest]
    simp only [hvalue]
  obtain ⟨c, t, hcons, hc⟩ := hnumeral.exists_cons
  rw [hcons] at hblank hread
  rw [readWidth, hblank.skip (beginsScalar_of_number hc).not_blank]
  simp only [if_pos hc, hread, if_pos (Int.natCast_nonneg _), Int.toNat_natCast,
    UInt64.ofNat_toNat]

theorem skipQuoted_of_readFormatName {s rest : List Char} {f : Format}
    (h : readFormatName s = .ok (f, rest)) : skipQuoted s = .ok rest := by
  unfold readFormatName at h
  split at h
  · cases h
  · rename_i hread
    split at h
    · cases h
      exact skipQuoted_of_readQuoted hread
    · cases h

theorem skipValue_of_readNull {brackets : List Bracket} {s rest : List Char}
    (h : readNull s = .ok rest) : skipValue brackets s = skipAfter brackets rest := by
  unfold readNull at h
  split at h
  · cases h
  · rename_i hs
    exact skipValue_scalar hs (beginsScalar_of_mem (by decide)) h
  · cases h

theorem skipFirst_of_readFormatRecord {s rest : List Char} {f : Format}
    (h : readFormatRecord s = .ok (f, rest)) : skipFirst [] .record s = .ok rest := by
  unfold readFormatRecord at h
  split at h
  · cases h
  · cases h
  · rename_i hs
    split at h
    · cases h
    · rename_i hname
      split at h
      · cases h
      · rename_i hcolon
        split at h
        · cases h
        · rename_i hnull
          split at h
          · cases h
          · rename_i hclose
            cases h
            have hlabel := skipLabel_record (skipBlanks_cons (by decide) _)
              (skipQuoted_of_readFormatName hname) hcolon
            rw [skipFirst_item hs (by decide) hlabel, skipValue_of_readNull hnull,
              skipAfter_close (show skipBlanks _ = Bracket.record.closing :: _ from hclose),
              skipAfter_nil]
          · cases h
  · cases h

theorem skipValue_of_readFormat {s rest : List Char} {f : Format}
    (h : readFormat s = .ok (f, rest)) : skipValue [] s = .ok rest := by
  unfold readFormat at h
  split at h
  · cases h
  · rename_i hs
    rw [skipValue_open (show skipBlanks s = Bracket.record.opening :: _ from hs)]
    exact skipFirst_of_readFormatRecord h
  · rename_i hs
    have hquote : BeginsScalar '"' := beginsScalar_of_mem (by decide)
    rw [skipValue_scalar hs hquote (skipQuoted_of_readFormatName h), skipAfter_nil]
  · cases h

theorem exists_literal_of_readNumber {s rest : List Char} {n : Number}
    (h : readNumber s = .ok (n, rest)) : ∃ l, readLiteral .cutValue s = .ok (l, rest) := by
  unfold readNumber at h
  split at h
  · cases h
  · rename_i l t hread
    split at h
    · cases h
      exact ⟨l, hread⟩
    · cases h

theorem exists_literal_of_readWidth {s rest : List Char} {w : UInt64}
    (h : readWidth s = .ok (w, rest)) :
    ∃ c t l, skipBlanks s = c :: t ∧ (c = '-' ∨ c.isDigit = true) ∧
      readLiteral .cutValue (c :: t) = .ok (l, rest) := by
  unfold readWidth at h
  split at h
  · cases h
  · rename_i c t hs
    split at h
    · rename_i hc
      split at h
      · cases h
      · rename_i hnumber
        split at h
        · cases h
          obtain ⟨l, hl⟩ := exists_literal_of_readNumber hnumber
          exact ⟨c, t, l, hs, hc, hl⟩
        · cases h
      · cases h
    · cases h

theorem exists_literal_of_skipValue {c : Char} {s t rest : List Char} (hs : skipBlanks s = c :: t)
    (hc : c = '-' ∨ c.isDigit = true) (h : skipValue [] s = .ok rest) :
    ∃ l, readLiteral .badNumber (c :: t) = .ok (l, rest) := by
  rw [skipValue_of_beginsScalar hs (beginsScalar_of_number hc), skipScalar_number hc,
    skipNumber] at h
  cases hread : readLiteral .badNumber (c :: t) with
  | error f =>
      rw [hread] at h
      cases h
  | ok p =>
      rw [hread] at h
      obtain rfl : p.2 = rest := Except.ok.inj ((skipAfter_nil p.2).symm.trans h)
      exact ⟨p.1, rfl⟩

/-- A width ends where the number does that is passed over, since no number goes on behind it. -/
theorem eq_of_readWidth {s t rest : List Char} {w : UInt64} (h : readWidth s = .ok (w, t))
    (hskip : skipValue [] s = .ok rest) (hrest : EndsNumber rest) : t = rest := by
  obtain ⟨c, u, l, hs, hc, hread⟩ := exists_literal_of_readWidth h
  obtain ⟨l', hpassed⟩ := exists_literal_of_skipValue hs hc hskip
  have hagain : readLiteral .cutValue (c :: u) = .ok (l', rest) :=
    (numeral_of_readLiteral hpassed).read hrest
  rw [hread] at hagain
  exact congrArg Prod.snd (Except.ok.inj hagain)

/-! ## Fields -/

section Fields

variable {got next : Fields} {name : String} {s t rest : List Char}

theorem readField_format (hname : readQuoted s = .ok ("format", t)) :
    readField got s =
      if got.format.isSome then .error (.before (.repeatedField "format") (pastBrace t))
      else
        match readColon t with
        | .error f => .error f
        | .ok t => (readFormat t).map fun p => (⟨some p.1, got.width⟩, p.2) := by
  rw [readField, hname]
  rfl

theorem readField_width (hname : readQuoted s = .ok ("width", t)) :
    readField got s =
      if got.width.isSome then .error (.before (.repeatedField "width") (pastBrace t))
      else
        match readColon t with
        | .error f => .error f
        | .ok t => (readWidth t).map fun p => (⟨got.format, some p.1⟩, p.2) := by
  rw [readField, hname]
  rfl

theorem readField_other (hname : readQuoted s = .ok (name, t)) (hformat : name ≠ "format")
    (hwidth : name ≠ "width") :
    readField got s =
      match readColon t with
      | .error f => .error f
      | .ok t => (skipValue [] t).map fun t => (got, t) := by
  rw [readField, hname]
  split
  · contradiction
  · rename_i heq
    cases heq
    exact absurd rfl hformat
  · rename_i heq
    cases heq
    exact absurd rfl hwidth
  · rename_i heq
    cases heq
    rfl

theorem NamedField.exists_cons {Value : String → List Char → List Char → Prop}
    (h : NamedField Value s name rest) : ∃ t, s = '"' :: t := by
  obtain ⟨⟨-⟩, -, -, -⟩ := h
  exact ⟨_, rfl⟩

/-! ## What has been read -/

/-- What is known of options after fields of these names. -/
def Fields.after (o : Options) (seen : List String) : Fields where
  format := if "format" ∈ seen then some o.format else none
  width := if "width" ∈ seen then some o.width else none

/-- As much has been read as fields of these names allow. -/
structure Fields.Counts (got : Fields) (seen : List String) : Prop where
  format : seen.count "format" = got.format.isSome.toNat
  width : seen.count "width" = got.width.isSome.toNat

namespace Fields.Counts

variable {seen : List String}

theorem withFormat (h : got.Counts seen) (hnone : ¬got.format.isSome) (f : Format) :
    Fields.Counts ⟨some f, got.width⟩ ("format" :: seen) where
  format := by
    rw [List.count_cons_self, h.format, Bool.eq_false_iff.2 hnone]
    rfl
  width := by rw [List.count_cons_of_ne (by decide), h.width]

theorem withWidth (h : got.Counts seen) (hnone : ¬got.width.isSome) (w : UInt64) :
    Fields.Counts ⟨got.format, some w⟩ ("width" :: seen) where
  format := by rw [List.count_cons_of_ne (by decide), h.format]
  width := by
    rw [List.count_cons_self, h.width, Bool.eq_false_iff.2 hnone]
    rfl

theorem withOther (h : got.Counts seen) (hformat : name ≠ "format") (hwidth : name ≠ "width") :
    got.Counts (name :: seen) where
  format := by rw [List.count_cons_of_ne hformat, h.format]
  width := by rw [List.count_cons_of_ne hwidth, h.width]

/-- Options are complete only if both fields have been read. -/
theorem of_complete {o : Options} (h : got.Counts seen) (hcomplete : got.complete = .ok o) :
    seen.count "format" = 1 ∧ seen.count "width" = 1 := by
  obtain ⟨hformat, hwidth⟩ := h
  rw [hformat, hwidth]
  rcases got with ⟨_ | format, _ | width⟩
  · cases hcomplete
  · cases hcomplete
  · cases hcomplete
  · exact ⟨rfl, rfl⟩

end Fields.Counts

theorem readField_option {o : Options} {seen : List String}
    (h : NamedField (OptionValue o) ('"' :: s) name rest) (hrest : EndsNumber rest)
    (hformat : name = "format" → "format" ∉ seen) (hwidth : name = "width" → "width" ∉ seen) :
    readField (.after o seen) s = .ok (.after o (name :: seen), rest) := by
  obtain ⟨hname, hcolon, hblank, hx⟩ := h
  have hname := readQuoted_eq_ok_iff.2 hname
  have hcolon := readColon_eq_ok_iff.2 hcolon
  unfold OptionValue at hx
  split at hx
  · rename_i heq
    subst heq
    rw [readField_format hname]
    simp [hcolon, readFormat_quoted hblank hx, Fields.after, hformat rfl, Except.map]
  · rename_i hne
    split at hx
    · rename_i heq
      subst heq
      subst hx
      rw [readField_width hname]
      simp [hcolon, readWidth_integer hblank hrest, Fields.after, hwidth rfl, Except.map]
    · rename_i hne'
      rw [readField_other hname hne hne']
      simp [hcolon, hx.skip hblank hrest, Fields.after, Ne.symm hne, Ne.symm hne', Except.map]

theorem counts_of_readField {seen : List String}
    (h : NamedField (fun _ => WellFormed) ('"' :: s) name rest) (hrest : EndsNumber rest)
    (hgot : got.Counts seen) (hread : readField got s = .ok (next, t)) :
    t = rest ∧ next.Counts (name :: seen) := by
  obtain ⟨hname, hcolon, hblank, hx⟩ := h
  have hname := readQuoted_eq_ok_iff.2 hname
  have hcolon := readColon_eq_ok_iff.2 hcolon
  have hskip := hx.skip hblank hrest
  by_cases hformat : name = "format"
  · subst hformat
    rw [readField_format hname] at hread
    split at hread
    · cases hread
    · rename_i hnone
      simp only [hcolon] at hread
      obtain ⟨f, rfl, hf⟩ := exists_of_map_eq_ok (fun f => Fields.mk (some f) got.width) hread
      rw [skipValue_of_readFormat hf] at hskip
      exact ⟨Except.ok.inj hskip, hgot.withFormat hnone f⟩
  · by_cases hwidth : name = "width"
    · subst hwidth
      rw [readField_width hname] at hread
      split at hread
      · cases hread
      · rename_i hnone
        simp only [hcolon] at hread
        obtain ⟨w, rfl, hw⟩ :=
          exists_of_map_eq_ok (fun w => Fields.mk got.format (some w)) hread
        exact ⟨eq_of_readWidth hw hskip hrest, hgot.withWidth hnone w⟩
    · simp only [readField_other hname hformat hwidth, hcolon, hskip] at hread
      cases hread
      exact ⟨rfl, hgot.withOther hformat hwidth⟩

theorem complete_after {o : Options} {seen : List String} (hformat : "format" ∈ seen)
    (hwidth : "width" ∈ seen) : (Fields.after o seen).complete = .ok o := by
  rw [Fields.after, if_pos hformat, if_pos hwidth]
  rfl

end Fields

/-! ## The record -/

section Record

variable {got : Fields} {first : Bool} {s t u : List Char}

theorem nextField_close (hs : Blanks s ('\x7d' :: t)) : nextField first s = .ok (.close t) := by
  rw [nextField, hs.skip (by decide)]
  rfl

theorem nextField_first (hs : Blanks s ('"' :: t)) : nextField true s = .ok (.name t) := by
  rw [nextField, hs.skip (by decide)]
  rfl

theorem nextField_later (hs : Blanks s (',' :: t)) (ht : Blanks t ('"' :: u)) :
    nextField false s = .ok (.name u) := by
  rw [nextField, hs.skip (by decide)]
  simp [ht.skip]

theorem readFields_close (hs : Blanks s ('\x7d' :: t)) :
    readFields got first s =
      match got.complete with
      | .error problem => .error (.before problem t)
      | .ok o => .ok (o, t) := by
  rw [readFields]
  split
  · rename_i hnext
    cases hnext.symm.trans (nextField_close hs)
  · rename_i hnext
    cases hnext.symm.trans (nextField_close hs)
    rfl
  · rename_i hnext
    cases hnext.symm.trans (nextField_close hs)

theorem readFields_name (hs : nextField first s = .ok (.name t)) :
    readFields got first s = (readField got t).bind fun p => readFields p.1 false p.2 := by
  rw [readFields, hs]
  dsimp only
  split
  · rename_i hread
    rw [hread]
    rfl
  · rename_i hread
    rw [hread]
    rfl

theorem exists_of_bind_eq_ok {α β ε : Type} {x : Except ε α} {f : α → Except ε β} {b : β}
    (h : x.bind f = .ok b) : ∃ a, x = .ok a ∧ f a = .ok b := by
  cases x with
  | error e => cases h
  | ok a => exact ⟨a, rfl, h⟩

theorem count_append_cons (name a : String) (names seen : List String) :
    (names ++ a :: seen).count name = (a :: names ++ seen).count name :=
  List.perm_middle.count_eq name

/-- A name that counts once and comes first has not been seen. -/
theorem notMem_of_count {a name : String} {names seen : List String}
    (h : (a :: names ++ seen).count name = 1) (ha : a = name) : name ∉ seen := by
  subst ha
  rw [List.cons_append, List.count_cons_self, List.count_append] at h
  exact List.count_eq_zero.1 (by omega)

/-- After fields that have been read, the others are read to the end of the record. -/
theorem readFields_options {o : Options} {s rest : List Char} {names seen : List String}
    (h : Later (NamedField (OptionValue o)) '\x7d' s names rest)
    (hformat : (names ++ seen).count "format" = 1) (hwidth : (names ++ seen).count "width" = 1) :
    readFields (.after o seen) false s = .ok (o, rest) := by
  induction h generalizing seen with
  | close h =>
      have hseen {name : String} (hname : seen.count name = 1) : name ∈ seen :=
        List.count_pos_iff.1 (by omega)
      rw [readFields_close h, complete_after (hseen hformat) (hseen hwidth)]
  | item hcomma hblank hx hlater ih =>
      obtain ⟨u, rfl⟩ := hx.exists_cons
      rw [readFields_name (nextField_later hcomma hblank),
        readField_option hx (hlater.endsNumber (by decide)) (notMem_of_count hformat)
          (notMem_of_count hwidth)]
      exact ih (by rwa [count_append_cons]) (by rwa [count_append_cons])

/-- If anything is read of the other fields, each of the two names counts once in all. -/
theorem count_of_readFields {s rest : List Char} {names seen : List String}
    (h : Later (NamedField fun _ => WellFormed) '\x7d' s names rest) (hgot : got.Counts seen)
    {p : Options × List Char} (hread : readFields got false s = .ok p) :
    (names ++ seen).count "format" = 1 ∧ (names ++ seen).count "width" = 1 := by
  induction h generalizing got seen with
  | close h =>
      rw [readFields_close h] at hread
      split at hread
      · cases hread
      · rename_i hcomplete
        exact hgot.of_complete hcomplete
  | item hcomma hblank hx hlater ih =>
      obtain ⟨u, rfl⟩ := hx.exists_cons
      rw [readFields_name (nextField_later hcomma hblank)] at hread
      obtain ⟨⟨next, t⟩, hfield, hread⟩ := exists_of_bind_eq_ok hread
      obtain ⟨rfl, hnext⟩ := counts_of_readField hx (hlater.endsNumber (by decide)) hgot hfield
      rw [← count_append_cons, ← count_append_cons]
      exact ih hnext hread

end Record

/-! ## Options -/

section Options

variable {o : Options} {s t rest : List Char} {names : List String}

theorem readOptions_brace (h : Blanks s ('\x7b' :: t)) :
    readOptions s = readFields ⟨none, none⟩ true t := by
  rw [readOptions, h.skip (by decide)]
  rfl

theorem after_nil (o : Options) : Fields.after o [] = ⟨none, none⟩ := by
  simp [Fields.after]

theorem readOptions_record (hblank : Blanks s t)
    (h : Enclosed (NamedField (OptionValue o)) '\x7b' '\x7d' t names rest)
    (hformat : names.count "format" = 1) (hwidth : names.count "width" = 1) :
    readOptions s = .ok (o, rest) := by
  cases h with
  | empty h => cases hformat
  | items hblank' hx hlater =>
      obtain ⟨u, rfl⟩ := hx.exists_cons
      rw [readOptions_brace hblank, readFields_name (nextField_first hblank'), ← after_nil o,
        readField_option hx (hlater.endsNumber (by decide)) (fun _ => List.not_mem_nil)
          (fun _ => List.not_mem_nil)]
      exact readFields_options hlater (by rwa [count_append_cons, List.append_nil])
        (by rwa [count_append_cons, List.append_nil])

theorem count_of_readOptions {p : Options × List Char} (hblank : Blanks s t)
    (h : Enclosed (NamedField fun _ => WellFormed) '\x7b' '\x7d' t names rest)
    (hread : readOptions s = .ok p) : names.count "format" = 1 ∧ names.count "width" = 1 := by
  cases h with
  | empty h =>
      rw [readOptions_brace hblank, readFields_close h] at hread
      cases hread
  | items hblank' hx hlater =>
      obtain ⟨u, rfl⟩ := hx.exists_cons
      rw [readOptions_brace hblank, readFields_name (nextField_first hblank')] at hread
      obtain ⟨⟨next, t⟩, hfield, hread⟩ := exists_of_bind_eq_ok hread
      have hnone : Fields.Counts ⟨none, none⟩ [] := ⟨rfl, rfl⟩
      obtain ⟨rfl, hnext⟩ := counts_of_readField hx (hlater.endsNumber (by decide)) hnone hfield
      have hcount := count_of_readFields hlater hnext hread
      rwa [count_append_cons, count_append_cons, List.append_nil] at hcount

end Options

end FixedWidth.Json

namespace FixedWidth.Options

open Json

theorem isRecord_toJson (o : Options) :
    IsRecord (OptionValue o) o.toJson ["format", "width"] := by
  have hchars : o.toJson.toList =
      '\x7b' :: ((writeQuoted "format").toList ++ ':' :: ((writeQuoted o.format.name).toList ++
        ',' :: ((writeQuoted "width").toList ++ ':' ::
          (Decimal.integerChars o.width.toNat ++ ['\x7d'])))) := by
    have hfirst : "\x7b\"format\":" = "\x7b" ++ writeQuoted "format" ++ ":" := by decide +kernel
    have hsecond : ",\"width\":" = "," ++ writeQuoted "width" ++ ":" := by decide +kernel
    rw [toJson, hfirst, hsecond]
    simp [Decimal.integer]
  have hformat (rest : List Char) :
      OptionValue o "format" ((writeQuoted o.format.name).toList ++ rest) rest :=
    quoted_writeQuoted o.format.name rest
  have hwidth (rest : List Char) :
      OptionValue o "width" (Decimal.integerChars o.width.toNat ++ rest) rest :=
    rfl
  refine ⟨_, [], .nil, ?_, .nil⟩
  rw [hchars]
  exact .items .nil (.mk (quoted_writeQuoted "format" _) .nil .nil (hformat _))
    (.item .nil .nil (.mk (quoted_writeQuoted "width" _) .nil .nil (hwidth _)) (.close .nil))

theorem ofJson_of_readOptions {o : Options} {text : String} {rest : List Char}
    (h : readOptions text.toList = .ok (o, rest)) :
    ofJson text = ((finish rest).bind fun _ => .ok o).mapError (.ofFault text.toList) := by
  rw [ofJson, h]
  rfl

theorem ofJson_eq_ok_iff {o : Options} {text : String} :
    ofJson text = .ok o ↔ ∃ rest, readOptions text.toList = .ok (o, rest) ∧ Blanks rest [] := by
  constructor
  · intro h
    cases hread : readOptions text.toList with
    | error f =>
        rw [ofJson, hread] at h
        cases h
    | ok p =>
        rw [ofJson_of_readOptions hread] at h
        cases hfinish : finish p.2 with
        | error f =>
            rw [hfinish] at h
            cases h
        | ok u =>
            rw [hfinish] at h
            cases h
            exact ⟨p.2, rfl, finish_eq_ok_iff.1 hfinish⟩
  · rintro ⟨rest, hread, hrest⟩
    rw [ofJson_of_readOptions hread, finish_eq_ok_iff.2 hrest]
    rfl

/-- Options are read back from what is written for them.  More than that, they are read from any
record that has both of their fields once, whatever else it has, and from no record in which one of
the two names is missing or repeated. -/
theorem read_from_record (o : Options) :
    ofJson o.toJson = .ok o ∧
      (∀ text names, IsRecord (OptionValue o) text names → names.count "format" = 1 →
        names.count "width" = 1 → ofJson text = .ok o) ∧
      ∀ text names, IsRecord (fun _ => WellFormed) text names →
        (names.count "format" ≠ 1 ∨ names.count "width" ≠ 1) →
          ∃ refusal, ofJson text = .error refusal := by
  have hrecord : ∀ text names, IsRecord (OptionValue o) text names → names.count "format" = 1 →
      names.count "width" = 1 → ofJson text = .ok o := by
    rintro text names ⟨s, rest, hblank, h, hrest⟩ hformat hwidth
    exact ofJson_eq_ok_iff.2 ⟨rest, readOptions_record hblank h hformat hwidth, hrest⟩
  refine ⟨hrecord _ _ o.isRecord_toJson rfl rfl, hrecord, ?_⟩
  rintro text names ⟨s, rest, hblank, h, -⟩ hcount
  cases hread : ofJson text with
  | error refusal => exact ⟨refusal, rfl⟩
  | ok p =>
      obtain ⟨left, hleft, -⟩ := ofJson_eq_ok_iff.1 hread
      obtain ⟨hformat, hwidth⟩ := count_of_readOptions hblank h hleft
      rcases hcount with hcount | hcount
      · exact absurd hformat hcount
      · exact absurd hwidth hcount

/-- The width comes first, and between the two fields there is one that is passed over. -/
theorem read_beside_nested_field :
    let o : Options := ⟨.html, 7⟩
    let text := "\x7b\"width\":7,\"x\":[-5,\x7b\"width\":null\x7d],\"format\" : \"html\"\x7d\n"
    let repeated := "\x7b\"width\":7,\"format\":\"html\",\"width\":7\x7d"
    IsRecord (OptionValue o) text ["width", "x", "format"] ∧
      IsRecord (fun _ => WellFormed) repeated ["width", "format", "width"] ∧
      ofJson o.toJson = .ok o ∧ ofJson text = .ok o ∧
      ∃ refusal, ofJson repeated = .error refusal := by
  intro o text repeated
  have htext : IsRecord (OptionValue o) text ["width", "x", "format"] := by
    have hchars : text.toList =
        '\x7b' :: ((writeQuoted "width").toList ++ ':' :: (Decimal.integerChars 7 ++
          ',' :: ((writeQuoted "x").toList ++ ':' :: '[' :: (Decimal.integerChars (-5) ++
            ',' :: '\x7b' :: ((writeQuoted "width").toList ++ ':' :: ("null".toList ++
              '\x7d' :: ']' :: ',' :: ((writeQuoted "format").toList ++
                ' ' :: ':' :: ' ' :: ((writeQuoted "html").toList ++ ['\x7d', '\n'])))))))) := by
      decide +kernel
    have hnested (rest : List Char) : WellFormed ('[' :: (Decimal.integerChars (-5) ++
        ',' :: '\x7b' :: ((writeQuoted "width").toList ++ ':' :: ("null".toList ++
          '\x7d' :: ']' :: rest)))) rest := by
      refine ⟨2, .inr (.inl ⟨[(), ()], ?_⟩)⟩
      refine .items .nil (.inl (.number (numeral_integerChars (-5) _))) ?_
      refine .item .nil .nil (.inr (.inr ⟨[()], ?_⟩)) (.close .nil)
      obtain ⟨hname⟩ := quoted_writeQuoted "width" (':' :: ("null".toList ++ '\x7d' :: ']' :: rest))
      exact .items .nil (.mk hname.raw .nil .nil .null) (.close .nil)
    refine ⟨_, ['\n'], .nil, ?_, .cons (by decide) .nil⟩
    rw [hchars]
    refine .items .nil (.mk (quoted_writeQuoted "width" _) .nil .nil rfl) ?_
    refine .item .nil .nil (.mk (quoted_writeQuoted "x" _) .nil .nil (hnested _)) ?_
    exact .item .nil .nil (.mk (quoted_writeQuoted "format" _) (.cons (by decide) .nil)
      (.cons (by decide) .nil) (quoted_writeQuoted "html" _)) (.close .nil)
  have hrepeated : IsRecord (fun _ => WellFormed) repeated ["width", "format", "width"] := by
    have hchars : repeated.toList =
        '\x7b' :: ((writeQuoted "width").toList ++ ':' :: (Decimal.integerChars 7 ++
          ',' :: ((writeQuoted "format").toList ++ ':' :: ((writeQuoted "html").toList ++
            ',' :: ((writeQuoted "width").toList ++ ':' :: (Decimal.integerChars 7 ++
              ['\x7d'])))))) := by
      decide +kernel
    have hseven (rest : List Char) : WellFormed (Decimal.integerChars 7 ++ rest) rest :=
      ⟨0, .number (numeral_integerChars 7 rest)⟩
    have hhtml (rest : List Char) : WellFormed ((writeQuoted "html").toList ++ rest) rest :=
      ⟨0, (quoted_writeQuoted "html" rest).raw⟩
    refine ⟨_, [], .nil, ?_, .nil⟩
    rw [hchars]
    refine .items .nil (.mk (quoted_writeQuoted "width" _) .nil .nil (hseven _)) ?_
    refine .item .nil .nil (.mk (quoted_writeQuoted "format" _) .nil .nil (hhtml _)) ?_
    exact .item .nil .nil (.mk (quoted_writeQuoted "width" _) .nil .nil (hseven _)) (.close .nil)
  obtain ⟨hback, hread, hrefused⟩ := read_from_record o
  exact ⟨htext, hrepeated, hback, hread text _ htext rfl rfl,
    hrefused repeated _ hrepeated (.inr (by decide))⟩

end FixedWidth.Options
