import FixedWidth.Proofs.Json.Grammar

/-!
# Reading numbers

A numeral is read as the grammar has it, whatever the reader says at the end of the text.  The
grammar leaves open where the numeral ends, and the reader takes the longest: what it leaves begins
with no digit, point or exponent that could go on.
-/

namespace FixedWidth.Json

/-! ## Digits -/

/-- No digits go on in this text. -/
def EndsDigits (rest : List Char) : Prop :=
  ∀ c ∈ rest.head?, c.isDigit = false

/-- No number goes on in this text. -/
def EndsNumber (rest : List Char) : Prop :=
  ∀ c ∈ rest.head?, c.isDigit = false ∧ c ≠ '.' ∧ c ≠ 'e' ∧ c ≠ 'E'

theorem endsNumber_nil : EndsNumber [] := by
  intro c hc
  cases hc

theorem EndsNumber.endsDigits {rest : List Char} (h : EndsNumber rest) : EndsDigits rest :=
  fun c hc => (h c hc).1

theorem endsDigits_dropDigits (s : List Char) : EndsDigits (dropDigits s) := by
  intro c hc
  have hhead := List.head?_dropWhile_not Char.isDigit s
  rw [← dropDigits, Option.mem_def.1 hc] at hhead
  simpa using hhead

theorem takeDigits_append {ds rest : List Char} (hds : ∀ c ∈ ds, c.isDigit = true)
    (hrest : EndsDigits rest) : takeDigits (ds ++ rest) = ds := by
  have hnone : rest.takeWhile Char.isDigit = [] := by
    cases rest with
    | nil => rfl
    | cons c rest => rw [List.takeWhile_cons, hrest c rfl]; rfl
  rw [takeDigits, List.takeWhile_append_of_pos hds, hnone, List.append_nil]

theorem dropDigits_append {ds rest : List Char} (hds : ∀ c ∈ ds, c.isDigit = true)
    (hrest : EndsDigits rest) : dropDigits (ds ++ rest) = rest := by
  have hall : rest.dropWhile Char.isDigit = rest := by
    cases rest with
    | nil => rfl
    | cons c rest => rw [List.dropWhile_cons, hrest c rfl]; rfl
  rw [dropDigits, List.dropWhile_append_of_pos hds, hall]

variable {cut : Problem}

theorem readDigits_eq_ok_iff {s ds rest : List Char} :
    readDigits cut s = .ok (ds, rest) ↔ s = ds ++ rest ∧ IsDigits ds ∧ EndsDigits rest := by
  constructor
  · intro h
    unfold readDigits at h
    split at h
    · cases h
    · rename_i c t
      split at h
      · rename_i hc
        cases h
        refine ⟨List.takeWhile_append_dropWhile.symm, ⟨?_, ?_⟩, endsDigits_dropDigits _⟩
        · rw [takeDigits, List.takeWhile_cons, hc]
          exact List.cons_ne_nil _ _
        · exact List.all_eq_true.1 List.all_takeWhile
      · cases h
  · rintro ⟨rfl, hds, hrest⟩
    have htake := takeDigits_append hds.isDigit hrest
    have hdrop := dropDigits_append hds.isDigit hrest
    cases ds with
    | nil => exact absurd rfl hds.ne_nil
    | cons d ds =>
        have hd := hds.isDigit d List.mem_cons_self
        rw [List.cons_append] at htake hdrop ⊢
        rw [readDigits, if_pos hd, htake, hdrop]

theorem isWhole_zero : IsWhole ['0'] where
  ne_nil := List.cons_ne_nil _ _
  isDigit := by
    intro c hc
    rw [List.mem_singleton.1 hc]
    rfl
  eq_of_head := fun _ => rfl

theorem readWhole_eq_ok_iff {s ds rest : List Char} :
    readWhole cut s = .ok (ds, rest) ↔ s = ds ++ rest ∧ IsWhole ds ∧ EndsDigits rest := by
  constructor
  · intro h
    unfold readWhole at h
    split at h
    · split at h
      · rename_i d t
        cases hd : d.isDigit with
        | true => simp [hd] at h
        | false =>
            rw [if_neg (by simp [hd])] at h
            cases h
            refine ⟨rfl, isWhole_zero, fun c hc => ?_⟩
            cases hc
            exact hd
      · cases h
        exact ⟨rfl, isWhole_zero, fun c hc => by cases hc⟩
    · rename_i hzero
      obtain ⟨rfl, hds, hrest⟩ := readDigits_eq_ok_iff.1 h
      refine ⟨rfl, ⟨hds.ne_nil, hds.isDigit, fun hhead => ?_⟩, hrest⟩
      obtain ⟨ds', rfl⟩ := List.head?_eq_some_iff.1 hhead
      exact absurd rfl (hzero _)
  · rintro ⟨rfl, hds, hrest⟩
    by_cases hzero : ds.head? = some '0'
    · rw [hds.eq_of_head hzero]
      cases rest with
      | nil => rfl
      | cons c rest => simp [readWhole, hrest c rfl]
    · rw [readWhole]
      · exact readDigits_eq_ok_iff.2 ⟨rfl, hds.isDigits, hrest⟩
      · intro rest' hcons
        cases ds with
        | nil => exact hds.ne_nil rfl
        | cons d ds =>
            cases hcons
            exact hzero rfl

/-! ## The parts of a numeral -/

theorem fraction_of_readFraction {s rest : List Char} {fraction : Option (List Char)}
    (h : readFraction cut s = .ok (fraction, rest)) : Fraction s fraction rest := by
  unfold readFraction at h
  split at h
  · obtain ⟨ds, rfl, hread⟩ := exists_of_map_eq_ok _ h
    obtain ⟨rfl, hds, -⟩ := readDigits_eq_ok_iff.1 hread
    exact .digits hds
  · cases h
    exact .absent

theorem Fraction.read {s rest : List Char} {fraction : Option (List Char)}
    (h : Fraction s fraction rest) (hrest : EndsDigits rest) (hpoint : rest.head? ≠ some '.') :
    readFraction cut s = .ok (fraction, rest) := by
  cases h with
  | absent =>
      rw [readFraction]
      rintro t rfl
      exact hpoint rfl
  | digits hds => rw [readFraction, readDigits_eq_ok_iff.2 ⟨rfl, hds, hrest⟩]; rfl

theorem exists_of_readSigned {s rest : List Char} {x : Exponent}
    (h : readSigned cut s = .ok (x, rest)) :
    ∃ mark, (mark, x.negative) ∈ exponentSigns ∧ IsDigits x.digits ∧
      s = mark ++ (x.digits ++ rest) := by
  unfold readSigned at h
  split at h
  · obtain ⟨ds, rfl, hread⟩ := exists_of_map_eq_ok _ h
    obtain ⟨rfl, hds, -⟩ := readDigits_eq_ok_iff.1 hread
    exact ⟨['-'], by simp [exponentSigns], hds, rfl⟩
  · obtain ⟨ds, rfl, hread⟩ := exists_of_map_eq_ok _ h
    obtain ⟨rfl, hds, -⟩ := readDigits_eq_ok_iff.1 hread
    exact ⟨['+'], by simp [exponentSigns], hds, rfl⟩
  · obtain ⟨ds, rfl, hread⟩ := exists_of_map_eq_ok _ h
    obtain ⟨rfl, hds, -⟩ := readDigits_eq_ok_iff.1 hread
    exact ⟨[], by simp [exponentSigns], hds, rfl⟩

theorem readSigned_append {mark ds rest : List Char} {negative : Bool}
    (hmark : (mark, negative) ∈ exponentSigns) (hds : IsDigits ds) (hrest : EndsDigits rest) :
    readSigned cut (mark ++ (ds ++ rest)) = .ok (⟨negative, ds⟩, rest) := by
  have hread : readDigits cut (ds ++ rest) = .ok (ds, rest) :=
    readDigits_eq_ok_iff.2 ⟨rfl, hds, hrest⟩
  simp only [exponentSigns, List.mem_cons, Prod.mk.injEq, List.not_mem_nil, or_false] at hmark
  rcases hmark with ⟨rfl, rfl⟩ | ⟨rfl, rfl⟩ | ⟨rfl, rfl⟩
  · -- the digits themselves begin with no sign
    rw [List.nil_append, readSigned, hread]
    · rfl
    · intro t ht
      obtain ⟨d, ds, rfl⟩ := List.exists_cons_of_ne_nil hds.ne_nil
      cases ht
      have hminus := hds.isDigit '-' List.mem_cons_self
      simp at hminus
    · intro t ht
      obtain ⟨d, ds, rfl⟩ := List.exists_cons_of_ne_nil hds.ne_nil
      cases ht
      have hplus := hds.isDigit '+' List.mem_cons_self
      simp at hplus
  · change (readDigits cut (ds ++ rest)).map _ = _
    rw [hread]
    rfl
  · change (readDigits cut (ds ++ rest)).map _ = _
    rw [hread]
    rfl

theorem power_of_readExponent {s rest : List Char} {exponent : Option Exponent}
    (h : readExponent cut s = .ok (exponent, rest)) : Power s exponent rest := by
  unfold readExponent at h
  split at h
  · obtain ⟨x, rfl, hread⟩ := exists_of_map_eq_ok _ h
    obtain ⟨mark, hmark, hds, rfl⟩ := exists_of_readSigned hread
    exact .exponent (.inl rfl) hmark hds
  · obtain ⟨x, rfl, hread⟩ := exists_of_map_eq_ok _ h
    obtain ⟨mark, hmark, hds, rfl⟩ := exists_of_readSigned hread
    exact .exponent (.inr rfl) hmark hds
  · cases h
    exact .absent

theorem Power.read {s rest : List Char} {exponent : Option Exponent} (h : Power s exponent rest)
    (hrest : EndsNumber rest) : readExponent cut s = .ok (exponent, rest) := by
  cases h with
  | absent =>
      rw [readExponent]
      · rintro t rfl
        exact (hrest 'e' rfl).2.2.1 rfl
      · rintro t rfl
        exact (hrest 'E' rfl).2.2.2 rfl
  | @exponent e mark ds _ negative he hmark hds =>
      have hread : readSigned cut (mark ++ (ds ++ rest)) = .ok (⟨negative, ds⟩, rest) :=
        readSigned_append hmark hds hrest.endsDigits
      rcases he with rfl | rfl
      · rw [readExponent, hread]
        rfl
      · rw [readExponent, hread]
        rfl

/-! ## Numerals -/

theorem Power.ends {s rest : List Char} {exponent : Option Exponent} (h : Power s exponent rest)
    (hrest : EndsNumber rest) : EndsDigits s ∧ s.head? ≠ some '.' := by
  cases h with
  | absent => exact ⟨hrest.endsDigits, fun hpoint => (hrest '.' hpoint).2.1 rfl⟩
  | exponent he hmark hds =>
      constructor
      · rintro c hc
        cases hc
        rcases he with rfl | rfl <;> decide
      · rcases he with rfl | rfl <;> simp

theorem Fraction.ends {s rest : List Char} {fraction : Option (List Char)}
    (h : Fraction s fraction rest) (hrest : EndsDigits rest) : EndsDigits s := by
  cases h with
  | absent => exact hrest
  | digits hds =>
      intro c hc
      cases hc
      decide

theorem numeral_of_readUnsigned {negative : Bool} {s rest : List Char} {l : Literal}
    (h : readUnsigned negative cut s = .ok (l, rest)) :
    Numeral (sign negative ++ s) l rest := by
  unfold readUnsigned at h
  split at h
  · cases h
  · rename_i hwhole
    split at h
    · cases h
    · rename_i hfraction
      split at h
      · cases h
      · rename_i hpower
        cases h
        obtain ⟨rfl, hds, -⟩ := readWhole_eq_ok_iff.1 hwhole
        exact .mk hds (fraction_of_readFraction hfraction) (power_of_readExponent hpower)

theorem numeral_of_readLiteral {s rest : List Char} {l : Literal}
    (h : readLiteral cut s = .ok (l, rest)) : Numeral s l rest := by
  unfold readLiteral at h
  split at h
  · exact numeral_of_readUnsigned h
  · exact numeral_of_readUnsigned h

theorem Numeral.read {s rest : List Char} {l : Literal} (h : Numeral s l rest)
    (hrest : EndsNumber rest) : readLiteral cut s = .ok (l, rest) := by
  obtain @⟨negative, whole, s, t, rest, fraction, exponent, hwhole, hfraction, hpower⟩ := h
  obtain ⟨hdigits, hpoint⟩ := hpower.ends hrest
  have hread : readUnsigned negative cut (whole ++ s) =
      .ok (⟨negative, whole, fraction, exponent⟩, rest) := by
    have hfirst : readWhole cut (whole ++ s) = .ok (whole, s) :=
      readWhole_eq_ok_iff.2 ⟨rfl, hwhole, hfraction.ends hdigits⟩
    simp only [readUnsigned, hfirst, hfraction.read hdigits hpoint, hpower.read hrest]
  cases negative with
  | true => exact hread
  | false =>
      rw [sign, if_neg Bool.false_ne_true, List.nil_append, readLiteral]
      · exact hread
      · intro u hcons
        obtain ⟨d, ds, rfl⟩ := List.exists_cons_of_ne_nil hwhole.ne_nil
        cases hcons
        have hminus := hwhole.isDigit '-' List.mem_cons_self
        simp at hminus

/-- A number begins with a minus sign or a digit. -/
theorem Numeral.exists_cons {s rest : List Char} {l : Literal} (h : Numeral s l rest) :
    ∃ c t, s = c :: t ∧ (c = '-' ∨ c.isDigit = true) := by
  obtain @⟨negative, whole, s, t, rest, fraction, exponent, hwhole, -, -⟩ := h
  obtain ⟨d, ds, rfl⟩ := List.exists_cons_of_ne_nil hwhole.ne_nil
  cases negative with
  | true => exact ⟨_, _, rfl, .inl rfl⟩
  | false => exact ⟨_, _, rfl, .inr (hwhole.isDigit d List.mem_cons_self)⟩

end FixedWidth.Json
