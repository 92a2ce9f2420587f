import FixedWidth.Failure
import Mathlib.Data.List.Forall2

/-!
# Names of formats

A format is looked up by the lower case of its name.  That is no more than to disregard the case of
ASCII letters: whatever is put into lower case from beyond ASCII leaves a character beyond ASCII,
except for the Kelvin sign, which leaves a `k`, and no format has a `k` in its name.
-/

namespace FixedWidth

namespace Text

/-! ## Lower case from beyond ASCII -/

/-- All lower-case forms of the run are characters beyond ASCII. -/
def CaseRun.StaysBeyond (r : CaseRun) : Prop :=
  0x80 ≤ r.lower ∧
    (r.lower + (r.last - r.first) < 0xD800 ∨
      0xDFFF < r.lower ∧ r.lower + (r.last - r.first) < 0x110000)

instance : DecidablePred CaseRun.StaysBeyond :=
  fun _ => inferInstanceAs (Decidable (_ ∧ (_ ∨ _ ∧ _)))

/-- The Kelvin sign. -/
def kelvinRun : CaseRun := ⟨0x212A, 0x212A, 1, 0x6B⟩

theorem eq_kelvinRun_or_staysBeyond {r : CaseRun} (h : r ∈ caseRuns) :
    r = kelvinRun ∨ r.StaysBeyond := by
  have hall : (caseRuns.all fun r => r = kelvinRun ∨ r.StaysBeyond) = true := by decide +kernel
  exact of_decide_eq_true (List.all_eq_true.1 hall r h)

theorem CaseRun.le_of_contains {r : CaseRun} {n : Nat} (h : r.contains n = true) :
    r.first ≤ n ∧ n ≤ r.last := by
  simp only [CaseRun.contains, Bool.and_eq_true, decide_eq_true_eq] at h
  exact h.1

theorem CaseRun.StaysBeyond.le_toNat {r : CaseRun} (hr : r.StaysBeyond) {n : Nat}
    (h : r.contains n = true) : 0x80 ≤ (Char.ofNat (r.lowerOf n)).toNat := by
  obtain ⟨hleast, hmost⟩ := hr
  obtain ⟨hfirst, hlast⟩ := r.le_of_contains h
  have hvalid : (r.lowerOf n).isValidChar := by
    unfold CaseRun.lowerOf Nat.isValidChar
    omega
  rw [toNat_ofNat hvalid]
  exact Nat.le_trans hleast (Nat.le_add_right _ _)

theorem lowerChar_of_ascii {c : Char} (h : c.toNat < 0x80) : lowerChar c = [c.toLower] :=
  if_pos h

theorem exists_mem_lowerChar {c : Char} (h : 0x80 ≤ c.toNat) :
    ∃ d ∈ lowerChar c, d = 'k' ∨ 0x80 ≤ d.toNat := by
  unfold lowerChar
  rw [if_neg (Nat.not_lt.2 h)]
  split
  · exact ⟨'\u0307', List.mem_cons_of_mem _ List.mem_cons_self, .inr (by decide)⟩
  · split
    · rename_i r hr
      have hcontains : r.contains c.toNat = true :=
        List.find?_some (p := fun r : CaseRun => r.contains c.toNat) hr
      refine ⟨Char.ofNat (r.lowerOf c.toNat), List.mem_cons_self, ?_⟩
      rcases eq_kelvinRun_or_staysBeyond (List.mem_of_find?_eq_some hr) with rfl | hstays
      · obtain ⟨hfirst, hlast⟩ := kelvinRun.le_of_contains hcontains
        have hc : c.toNat = 0x212A := Nat.le_antisymm hlast hfirst
        rw [hc]
        exact .inl rfl
      · exact .inr (hstays.le_toNat hcontains)
    · exact ⟨c, List.mem_cons_self, .inr h⟩

theorem lowerBetween_of_ascii {c : Char} (h : c.toNat < 0x80) (before after : List Char) :
    lowerBetween before c after = [c.toLower] := by
  have hc : c ≠ 'Σ' := by
    rintro rfl
    exact absurd h (by decide)
  rw [lowerBetween, if_neg hc, lowerChar_of_ascii h]

/-- Both forms of the sigma are beyond ASCII as well, so where it stands makes no difference. -/
theorem exists_mem_lowerBetween {c : Char} (h : 0x80 ≤ c.toNat) (before after : List Char) :
    ∃ d ∈ lowerBetween before c after, d = 'k' ∨ 0x80 ≤ d.toNat := by
  unfold lowerBetween
  split
  · split
    · exact ⟨'ς', List.mem_cons_self, .inr (by decide)⟩
    · exact ⟨'σ', List.mem_cons_self, .inr (by decide)⟩
  · exact exists_mem_lowerChar h

/-! ## Texts that differ in case -/

/-- The two are the same character or one ASCII letter in both cases. -/
def SameLetter (c d : Char) : Prop :=
  c = d ∨ (0x41 ≤ c.toNat ∧ c.toNat ≤ 0x5A ∧ d.toNat = c.toNat + 0x20) ∨
    (0x41 ≤ d.toNat ∧ d.toNat ≤ 0x5A ∧ c.toNat = d.toNat + 0x20)

instance : DecidableRel SameLetter := fun _ _ => inferInstanceAs (Decidable (_ ∨ _))

/-- The texts are equally long and differ at most in the case of ASCII letters. -/
def SameButCase (s t : String) : Prop := List.Forall₂ SameLetter s.toList t.toList

instance : DecidableRel SameButCase :=
  fun s t => inferInstanceAs (Decidable (List.Forall₂ SameLetter s.toList t.toList))

theorem toNat_toLower (c : Char) :
    c.toLower.toNat = if 0x41 ≤ c.toNat ∧ c.toNat ≤ 0x5A then c.toNat + 0x20 else c.toNat := by
  have hcapital : (c.val ≥ 'A'.val ∧ c.val ≤ 'Z'.val) ↔ 0x41 ≤ c.toNat ∧ c.toNat ≤ 0x5A :=
    and_congr UInt32.le_iff_toNat_le UInt32.le_iff_toNat_le
  delta Char.toLower
  by_cases h : c.val ≥ 'A'.val ∧ c.val ≤ 'Z'.val
  · have hrange := hcapital.1 h
    rw [if_pos hrange, dif_pos h]
    calc
      (c.val + 0x20).toNat = (c.toNat + 0x20) % 2 ^ 32 := UInt32.toNat_add c.val 0x20
      _ = c.toNat + 0x20 := Nat.mod_eq_of_lt (by omega)
  · rw [dif_neg h, if_neg (mt hcapital.2 h)]

/-- A lower-case ASCII letter other than the `k`. -/
def IsNameLetter (d : Char) : Prop := (0x61 ≤ d.toNat ∧ d.toNat ≤ 0x7A) ∧ d ≠ 'k'

instance : DecidablePred IsNameLetter := fun _ => inferInstanceAs (Decidable (_ ∧ _))

theorem toLower_eq_iff {c d : Char} (hd : IsNameLetter d) :
    c.toNat < 0x80 ∧ c.toLower = d ↔ SameLetter c d := by
  obtain ⟨hrange, -⟩ := hd
  rw [SameLetter, ← Char.toNat_inj, ← Char.toNat_inj, toNat_toLower]
  split <;> omega

/-- A text has a name of such letters as its lower case only if it is ASCII.  Then each character
has its own lower case, whatever stands around it. -/
theorem lowerFrom_eq_iff {before s t : List Char} (ht : ∀ d ∈ t, IsNameLetter d) :
    lowerFrom before s = t ↔ List.Forall₂ SameLetter s t := by
  induction s generalizing before t with
  | nil => rw [List.forall₂_nil_left_iff, lowerFrom, eq_comm]
  | cons c s ih =>
      rw [lowerFrom]
      by_cases hc : c.toNat < 0x80
      · rw [lowerBetween_of_ascii hc, List.singleton_append]
        cases t with
        | nil => simp
        | cons d t =>
            rw [List.cons.injEq, List.forall₂_cons, ih fun e he => ht e (List.mem_cons_of_mem d he),
              ← toLower_eq_iff (ht d List.mem_cons_self), and_iff_right hc]
      · constructor
        · intro h
          obtain ⟨d, hd, hout⟩ := exists_mem_lowerBetween (Nat.not_lt.1 hc) before s
          have hmem : d ∈ t := by
            rw [← h]
            exact List.mem_append_left _ hd
          obtain ⟨⟨-, hmost⟩, hk⟩ := ht d hmem
          rcases hout with rfl | hbeyond
          · exact absurd rfl hk
          · omega
        · intro h
          cases h with
          | @cons _ d _ _ hcd _ =>
              have hascii := (toLower_eq_iff (ht d List.mem_cons_self)).2 hcd
              exact absurd hascii.1 hc

theorem lower_eq_iff {s name : String} (hname : ∀ d ∈ name.toList, IsNameLetter d) :
    lower s = name ↔ SameButCase s name := by
  rw [SameButCase, ← lowerFrom_eq_iff hname, lower, ← String.toList_inj, String.toList_ofList]

theorem ascii_of_forall₂ {s t : List Char} (ht : ∀ d ∈ t, IsNameLetter d)
    (h : List.Forall₂ SameLetter s t) : ∀ c ∈ s, c.toNat < 0x80 := by
  induction h with
  | nil => simp
  | @cons a d s t had _ ih =>
      intro c hc
      rcases List.mem_cons.1 hc with rfl | hc
      · exact ((toLower_eq_iff (ht d List.mem_cons_self)).2 had).1
      · exact ih (fun e he => ht e (List.mem_cons_of_mem d he)) c hc

end Text

/-! ## Looking up a name -/

namespace Format

/-- The names by which formats are looked up, in lower case. -/
def spellings : List (String × Format) :=
  [("console", .console), ("html", .html), ("xhtml", .html), ("json", .json)]

theorem isNameLetter_of_mem_spellings {p : String × Format} (h : p ∈ spellings) :
    ∀ d ∈ p.1.toList, Text.IsNameLetter d := by
  have hall : (spellings.all fun p => p.1.toList.all (Text.IsNameLetter ·)) = true := by
    decide +kernel
  have hp := List.all_eq_true.1 hall p h
  exact fun d hd => of_decide_eq_true (List.all_eq_true.1 hp d hd)

theorem ofName?_eq_some_iff_mem {s : String} {f : Format} :
    ofName? s = some f ↔ (Text.lower s, f) ∈ spellings := by
  unfold ofName?
  split
  · rename_i h
    rw [h]
    cases f <;> decide
  · rename_i name h
    unfold ofExactName?
    split <;> cases f <;> simp_all [spellings]

theorem ofName?_eq_some_iff {s : String} {f : Format} :
    ofName? s = some f ↔ ∃ name, (name, f) ∈ spellings ∧ Text.SameButCase s name := by
  rw [ofName?_eq_some_iff_mem]
  constructor
  · intro h
    exact ⟨Text.lower s, h, (Text.lower_eq_iff (isNameLetter_of_mem_spellings h)).1 rfl⟩
  · rintro ⟨name, hmem, hsame⟩
    rwa [(Text.lower_eq_iff (isNameLetter_of_mem_spellings hmem)).2 hsame]

theorem ofName?_eq_none {s : String} (h : ∀ p ∈ spellings, ¬ Text.SameButCase s p.1) :
    ofName? s = none := by
  rw [Option.eq_none_iff_forall_ne_some]
  intro f hf
  obtain ⟨name, hmem, hsame⟩ := ofName?_eq_some_iff.1 hf
  exact h (name, f) hmem hsame

/-- A name is that of a format if it differs from one of the format's names at most in the case of
ASCII letters.  Any other text is refused as it was given, so every text with a character beyond
ASCII is, whatever that character's lower case. -/
theorem ofName_up_to_case (s : String) :
    (∀ f, ofName s = .ok f ↔ ∃ name, (name, f) ∈ spellings ∧ Text.SameButCase s name) ∧
      ((∀ p ∈ spellings, ¬ Text.SameButCase s p.1) → ofName s = .error (.unknownFormat s)) ∧
        ((∃ c ∈ s.toList, 0x80 ≤ c.toNat) → ofName s = .error (.unknownFormat s)) := by
  refine ⟨?_, ?_, ?_⟩
  · intro f
    rw [ofName_eq_ok_iff, ofName?_eq_some_iff]
  · intro h
    exact ofName_eq_error (ofName?_eq_none h)
  · rintro ⟨c, hc, hbeyond⟩
    apply ofName_eq_error
    apply ofName?_eq_none
    intro p hp hsame
    have hascii := Text.ascii_of_forall₂ (isNameLetter_of_mem_spellings hp) hsame c hc
    omega

/-- Letters in either case are as good as the names' own.  A blank is not disregarded, nor is the
Kelvin sign, which has a `k` as its lower case. -/
theorem ofName_of_kelvin_sign :
    ofName "xHtMl" = .ok .html ∧
      ofName " json" = .error (.unknownFormat " json") ∧
        Text.lower "\u212Ajson" = "kjson" ∧
          ofName "\u212Ajson" = .error (.unknownFormat "\u212Ajson") := by
  obtain ⟨hok, -, -⟩ := ofName_up_to_case "xHtMl"
  obtain ⟨-, hother, -⟩ := ofName_up_to_case " json"
  obtain ⟨-, -, hbeyond⟩ := ofName_up_to_case "\u212Ajson"
  refine ⟨?_, ?_, by decide +kernel, ?_⟩
  · apply (hok .html).2
    exact ⟨"xhtml", by decide +kernel, by decide +kernel⟩
  · apply hother
    decide +kernel
  · apply hbeyond
    exact ⟨'\u212A', by decide +kernel, by decide⟩

end Format

end FixedWidth
