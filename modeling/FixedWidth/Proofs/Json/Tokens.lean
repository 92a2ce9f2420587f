import FixedWidth.Proofs.Json.Grammar

/-!
# Reading tokens

White space, words and quoted texts are read exactly as the grammar has them.  A reader takes all
of the white space that is in front, and of an escape beyond U+FFFF both halves.
-/

namespace FixedWidth.Json

/-! ## White space -/

theorem isWhitespace_iff_mem {c : Char} :
    c.isWhitespace = true ↔ c ∈ [' ', '\t', '\r', '\n'] := by
  simp [Char.isWhitespace, or_assoc]

theorem skipBlanks_cons {c : Char} (h : c.isWhitespace = false) (s : List Char) :
    skipBlanks (c :: s) = c :: s := by
  rw [skipBlanks, List.dropWhile_cons, h]
  rfl

theorem blanks_skipBlanks (s : List Char) : Blanks s (skipBlanks s) := by
  induction s with
  | nil => exact .nil
  | cons c s ih =>
      cases hc : c.isWhitespace with
      | false =>
          rw [skipBlanks_cons hc s]
          exact .nil
      | true =>
          rw [skipBlanks, List.dropWhile_cons, hc]
          exact .cons (isWhitespace_iff_mem.1 hc) ih

theorem blanks_of_skipBlanks {s t : List Char} (h : skipBlanks s = t) : Blanks s t :=
  h ▸ blanks_skipBlanks s

theorem Blanks.skipBlanks_eq {s t : List Char} (h : Blanks s t) : skipBlanks s = skipBlanks t := by
  induction h with
  | nil => rfl
  | cons hc h ih =>
      rw [← ih, skipBlanks, List.dropWhile_cons, isWhitespace_iff_mem.2 hc]
      rfl

theorem Blanks.trans {s t u : List Char} (h : Blanks s t) (h' : Blanks t u) : Blanks s u := by
  induction h with
  | nil => exact h'
  | cons hc h ih => exact .cons hc (ih h')

theorem skipBlanks_eq_cons_iff {c : Char} (hc : c.isWhitespace = false) {s t : List Char} :
    skipBlanks s = c :: t ↔ Blanks s (c :: t) := by
  constructor
  · exact blanks_of_skipBlanks
  · intro h
    rw [h.skipBlanks_eq, skipBlanks_cons hc]

theorem Blanks.skip {c : Char} {s t : List Char} (h : Blanks s (c :: t))
    (hc : c.isWhitespace = false) : skipBlanks s = c :: t :=
  (skipBlanks_eq_cons_iff hc).2 h

theorem readColon_eq_ok_iff {s rest : List Char} :
    readColon s = .ok rest ↔ Blanks s (':' :: rest) := by
  rw [← skipBlanks_eq_cons_iff (by decide), readColon]
  cases skipBlanks s with
  | nil => simp
  | cons c t =>
      by_cases hc : c = ':'
      · simp [hc]
      · simp [hc]

theorem finish_eq_ok_iff {s : List Char} : finish s = .ok () ↔ Blanks s [] := by
  constructor
  · intro h
    unfold finish at h
    split at h
    · rename_i hnil
      exact blanks_of_skipBlanks hnil
    · cases h
  · intro h
    rw [finish, h.skipBlanks_eq]
    rfl

theorem readWord_eq_ok_iff {word s rest : List Char} :
    readWord word s = .ok rest ↔ s = word ++ rest := by
  fun_induction readWord word s with
  | case1 s => simp
  | case2 => simp
  | case3 word c s ih => simp [ih]
  | case4 w word c s hc => simp [hc]

/-! ## Characters of a quoted text -/

theorem readHex4_eq_ok_iff {s rest : List Char} {n : Nat} :
    readHex4 s = .ok (n, rest) ↔ Hex4 s n rest := by
  constructor
  · intro h
    unfold readHex4 at h
    split at h
    · split at h
      · rename_i ha hb hc hd
        cases h
        exact .mk ha hb hc hd
      · cases h
    · split at h <;> cases h
  · rintro ⟨ha, hb, hc, hd⟩
    simp only [readHex4, ha, hb, hc, hd]

theorem hexValue?_lt {c : Char} {n : Nat} (h : Text.hexValue? c = some n) : n < 16 := by
  simp only [Text.hexValue?, Bool.and_eq_true, decide_eq_true_eq, Char.le_def,
    UInt32.le_iff_toNat_le, Char.reduceVal, UInt32.reduceToNat] at h
  simp only [Char.toNat] at h
  grind

theorem Hex4.lt {s rest : List Char} {n : Nat} (h : Hex4 s n rest) : n < 0x10000 := by
  obtain ⟨ha, hb, hc, hd⟩ := h
  have := hexValue?_lt ha
  have := hexValue?_lt hb
  have := hexValue?_lt hc
  have := hexValue?_lt hd
  omega

theorem ofEscapeLetter?_eq_some_iff {l c : Char} :
    ofEscapeLetter? l = some c ↔ (l, c) ∈ escapeLetters := by
  unfold ofEscapeLetter?
  split <;> simp_all [escapeLetters, eq_comm]

theorem isHighSurrogate_iff {n : Nat} : isHighSurrogate n = true ↔ 0xD800 ≤ n ∧ n ≤ 0xDBFF := by
  rw [isHighSurrogate, Bool.and_eq_true, decide_eq_true_eq, decide_eq_true_eq]

theorem isLowSurrogate_iff {n : Nat} : isLowSurrogate n = true ↔ 0xDC00 ≤ n ∧ n ≤ 0xDFFF := by
  rw [isLowSurrogate, Bool.and_eq_true, decide_eq_true_eq, decide_eq_true_eq]

/-- No character has the number of a surrogate. -/
theorem not_surrogate (c : Char) : ¬ isLowSurrogate c.toNat ∧ ¬ isHighSurrogate c.toNat := by
  have hvalid : c.toNat < 0xD800 ∨ 0xDFFF < c.toNat ∧ c.toNat < 0x110000 := c.valid
  rw [isLowSurrogate_iff, isHighSurrogate_iff]
  omega

theorem not_isLowSurrogate {n : Nat} (h : isHighSurrogate n = true) : ¬ isLowSurrogate n := by
  rw [isHighSurrogate_iff] at h
  rw [isLowSurrogate_iff]
  omega

theorem pairValue_surrogates {c : Char} (h : 0x10000 ≤ c.toNat) :
    isHighSurrogate (surrogates c).1 = true ∧ isLowSurrogate (surrogates c).2 = true ∧
      pairValue (surrogates c).1 (surrogates c).2 = c.toNat := by
  have hvalid : c.toNat < 0xD800 ∨ 0xDFFF < c.toNat ∧ c.toNat < 0x110000 := c.valid
  rw [isHighSurrogate_iff, isLowSurrogate_iff]
  unfold pairValue surrogates
  omega

theorem surrogates_pairValue {high low : Nat} (hhigh : isHighSurrogate high = true)
    (hlow : isLowSurrogate low = true) :
    0x10000 ≤ (Char.ofNat (pairValue high low)).toNat ∧
      surrogates (Char.ofNat (pairValue high low)) = (high, low) := by
  rw [isHighSurrogate_iff] at hhigh
  rw [isLowSurrogate_iff] at hlow
  generalize hn : pairValue high low = n
  unfold pairValue at hn
  have hvalid : n.isValidChar := .inr ⟨by omega, by omega⟩
  rw [surrogates, Text.toNat_ofNat hvalid, Prod.mk.injEq]
  omega

theorem Character.ofPair {high low : Nat} {s t rest : List Char}
    (hhigh : isHighSurrogate high = true) (hlow : isLowSurrogate low = true)
    (hhex : Hex4 s high ('\\' :: 'u' :: t)) (hhex' : Hex4 t low rest) :
    Character ('\\' :: 'u' :: s) (Char.ofNat (pairValue high low)) rest := by
  obtain ⟨hc, hpair⟩ := surrogates_pairValue hhigh hlow
  apply Character.pair hc
  · rw [hpair]
    exact hhex
  · rw [hpair]
    exact hhex'

theorem readPairLink_eq_ok_iff {link : Char} {s rest : List Char} :
    readPairLink link s = .ok rest ↔ s = link :: rest := by
  cases s with
  | nil => simp [readPairLink]
  | cons c s => by_cases hc : c = link <;> simp [readPairLink, hc]

theorem readLowSurrogate_eq_ok_iff {high : Nat} {c : Char} {s rest : List Char} :
    readLowSurrogate high s = .ok (c, rest) ↔
      ∃ t low, s = '\\' :: 'u' :: t ∧ Hex4 t low rest ∧ isLowSurrogate low = true ∧
        Char.ofNat (pairValue high low) = c := by
  constructor
  · intro h
    unfold readLowSurrogate at h
    split at h
    · cases h
    · rename_i hslash
      rw [readPairLink_eq_ok_iff] at hslash
      split at h
      · cases h
      · rename_i hletter
        rw [readPairLink_eq_ok_iff] at hletter
        split at h
        · cases h
        · rename_i hhex
          split at h
          · rename_i hlow
            rw [Except.ok.injEq, Prod.mk.injEq] at h
            obtain ⟨rfl, rfl⟩ := h
            exact ⟨_, _, hletter ▸ hslash, readHex4_eq_ok_iff.1 hhex, hlow, rfl⟩
          · cases h
  · rintro ⟨t, low, rfl, hhex, hlow, rfl⟩
    have hslash : readPairLink '\\' ('\\' :: 'u' :: t) = .ok ('u' :: t) :=
      readPairLink_eq_ok_iff.2 rfl
    have hletter : readPairLink 'u' ('u' :: t) = .ok t := readPairLink_eq_ok_iff.2 rfl
    simp only [readLowSurrogate, hslash, hletter, readHex4_eq_ok_iff.2 hhex, if_pos hlow]

theorem readCodePoint_eq_ok_iff {c : Char} {s rest : List Char} :
    readCodePoint s = .ok (c, rest) ↔ Character ('\\' :: 'u' :: s) c rest := by
  constructor
  · intro h
    unfold readCodePoint at h
    split at h
    · cases h
    · rename_i n t hhex
      rw [readHex4_eq_ok_iff] at hhex
      split at h
      · cases h
      · rename_i hlow
        split at h
        · rename_i hhigh
          obtain ⟨u, low, rfl, hhex', hlow', rfl⟩ := readLowSurrogate_eq_ok_iff.1 h
          exact .ofPair hhigh hlow' hhex hhex'
        · rename_i hhigh
          cases h
          have hvalid : n.isValidChar := by
            have hlt := hhex.lt
            rw [isLowSurrogate_iff] at hlow
            rw [isHighSurrogate_iff] at hhigh
            unfold Nat.isValidChar
            omega
          exact .unit ((Text.toNat_ofNat hvalid).symm ▸ hhex)
  · intro h
    cases h with
    | plain hquote hslash hcontrol => exact absurd rfl hslash
    | letter h => simp [escapeLetters] at h
    | unit h =>
        obtain ⟨hlow, hhigh⟩ := not_surrogate c
        simp only [readCodePoint, readHex4_eq_ok_iff.2 h, if_neg hlow, if_neg hhigh,
          Char.ofNat_toNat]
    | pair hc hhigh hlow =>
        obtain ⟨hisHigh, hisLow, hvalue⟩ := pairValue_surrogates hc
        have hchar : Char.ofNat (pairValue (surrogates c).1 (surrogates c).2) = c := by
          rw [hvalue, Char.ofNat_toNat]
        simp only [readCodePoint, readHex4_eq_ok_iff.2 hhigh, if_neg (not_isLowSurrogate hisHigh),
          if_pos hisHigh]
        exact readLowSurrogate_eq_ok_iff.2 ⟨_, _, rfl, hlow, hisLow, hchar⟩

theorem readEscape_eq_ok_iff {c : Char} {s rest : List Char} :
    readEscape s = .ok (c, rest) ↔ Character ('\\' :: s) c rest := by
  constructor
  · intro h
    unfold readEscape at h
    split at h
    · cases h
    · exact readCodePoint_eq_ok_iff.1 h
    · split at h
      · rename_i hletter
        cases h
        exact .letter (ofEscapeLetter?_eq_some_iff.1 hletter)
      · cases h
  · intro h
    cases h with
    | plain hquote hslash hcontrol => exact absurd rfl hslash
    | letter hletter =>
        rw [readEscape, ofEscapeLetter?_eq_some_iff.2 hletter]
        rintro rfl
        simp [escapeLetters] at hletter
    | unit hhex => exact readCodePoint_eq_ok_iff.2 (.unit hhex)
    | pair hc hhigh hlow => exact readCodePoint_eq_ok_iff.2 (.pair hc hhigh hlow)

/-! ## Quoted texts -/

theorem readQuotedFrom_escape {c : Char} {e s : List Char} (h : readEscape e = .ok (c, s))
    (done : List Char) : readQuotedFrom done ('\\' :: e) = readQuotedFrom (c :: done) s := by
  rw [readQuotedFrom]
  split
  · rename_i f hf
    rw [h] at hf
    cases hf
  · rename_i d t ht
    rw [h] at ht
    cases ht
    rfl

theorem readQuotedFrom_character {c : Char} {s t : List Char} (h : Character s c t)
    (done : List Char) : readQuotedFrom done s = readQuotedFrom (c :: done) t := by
  cases h with
  | plain hquote hslash hcontrol =>
      rw [readQuotedFrom, if_neg (Nat.not_lt.2 hcontrol)]
      · exact hquote
      · exact hslash
  | letter hletter => exact readQuotedFrom_escape (readEscape_eq_ok_iff.2 (.letter hletter)) done
  | unit hhex => exact readQuotedFrom_escape (readEscape_eq_ok_iff.2 (.unit hhex)) done
  | pair hc hhigh hlow =>
      exact readQuotedFrom_escape (readEscape_eq_ok_iff.2 (.pair hc hhigh hlow)) done

theorem readQuotedFrom_of_body {s cs rest : List Char} (h : Body s cs rest) (done : List Char) :
    readQuotedFrom done s = .ok (done.reverse ++ cs, rest) := by
  induction h generalizing done with
  | close => rw [readQuotedFrom, List.append_nil]
  | character hc h ih =>
      rw [readQuotedFrom_character hc, ih, List.reverse_cons, List.append_assoc]
      rfl

theorem body_of_readQuotedFrom {done s cs rest : List Char}
    (h : readQuotedFrom done s = .ok (cs, rest)) :
    ∃ x, cs = done.reverse ++ x ∧ Body s x rest := by
  fun_induction readQuotedFrom done s with
  | case1 => cases h
  | case2 done s =>
      cases h
      exact ⟨[], (List.append_nil _).symm, .close⟩
  | case3 => cases h
  | case4 done s c t hescape ih =>
      obtain ⟨x, rfl, hx⟩ := ih h
      exact ⟨c :: x, by simp, .character (readEscape_eq_ok_iff.1 hescape) hx⟩
  | case5 => cases h
  | case6 done c s hquote hslash hcontrol ih =>
      obtain ⟨x, rfl, hx⟩ := ih h
      exact ⟨c :: x, by simp, .character (.plain hquote hslash (Nat.not_lt.1 hcontrol)) hx⟩

theorem readQuoted_eq_ok_iff {s rest : List Char} {x : String} :
    readQuoted s = .ok (x, rest) ↔ Quoted ('"' :: s) x rest := by
  constructor
  · intro h
    unfold readQuoted at h
    split at h
    · cases h
    · rename_i hfrom
      cases h
      obtain ⟨y, rfl, hy⟩ := body_of_readQuotedFrom hfrom
      exact .mk (by simpa using hy)
  · rintro ⟨h⟩
    rw [readQuoted, readQuotedFrom_of_body h]
    simp

theorem readName_eq_ok_iff {s rest : List Char} {name : String} :
    readName s = .ok (name, rest) ↔ ∃ t, Quoted ('"' :: s) name t ∧ Blanks t (':' :: rest) := by
  constructor
  · intro h
    unfold readName at h
    split at h
    · cases h
    · rename_i t hname
      cases hcolon : readColon t with
      | error f =>
          rw [hcolon] at h
          cases h
      | ok u =>
          rw [hcolon] at h
          cases h
          exact ⟨t, readQuoted_eq_ok_iff.1 hname, readColon_eq_ok_iff.1 hcolon⟩
  · rintro ⟨t, hname, hcolon⟩
    simp only [readName, readQuoted_eq_ok_iff.2 hname, readColon_eq_ok_iff.2 hcolon]
    rfl

end FixedWidth.Json
