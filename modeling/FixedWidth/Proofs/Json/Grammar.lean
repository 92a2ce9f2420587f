import FixedWidth.Json.Cells

/-!
# The grammar of JSON

The grammar is a family of relations between a text, what the front of the text denotes, and the
rest behind that.  A character of a quoted text is spelled as itself, by its letter, or by its code
units in UTF-16, of which one beyond U+FFFF has two.  White space stands between tokens, and a list
or a record has a comma between any two items and nowhere else.

How deep a value is nested is a part of the relation, because a reader may set a limit to it.
-/

namespace FixedWidth.Json

/-! ## White space -/

/-- Some white space, or none, is in front. -/
inductive Blanks : List Char → List Char → Prop where
  | nil {s : List Char} : Blanks s s
  | cons {c : Char} {s t : List Char} (hc : c ∈ [' ', '\t', '\r', '\n']) (h : Blanks s t) :
      Blanks (c :: s) t

/-! ## Quoted texts -/

/-- Four hexadecimal digits and their value. -/
inductive Hex4 : List Char → Nat → List Char → Prop where
  | mk {a b c d : Char} {i j k l : Nat} {rest : List Char} (ha : Text.hexValue? a = some i)
      (hb : Text.hexValue? b = some j) (hc : Text.hexValue? c = some k)
      (hd : Text.hexValue? d = some l) :
      Hex4 (a :: b :: c :: d :: rest) (((i * 16 + j) * 16 + k) * 16 + l) rest

/-- The letters that stand for a character after a backslash. -/
def escapeLetters : List (Char × Char) :=
  [('"', '"'), ('\\', '\\'), ('/', '/'), ('b', '\x08'), ('f', '\x0c'), ('n', '\n'), ('r', '\r'),
    ('t', '\t')]

/-- The units in UTF-16 of a character beyond U+FFFF. -/
def surrogates (c : Char) : Nat × Nat :=
  (0xD800 + (c.toNat - 0x10000) / 0x400, 0xDC00 + (c.toNat - 0x10000) % 0x400)

inductive Character : List Char → Char → List Char → Prop where
  | plain {c : Char} {s : List Char} (hquote : c ≠ '"') (hslash : c ≠ '\\')
      (hcontrol : 0x20 ≤ c.toNat) : Character (c :: s) c s
  | letter {l c : Char} {s : List Char} (h : (l, c) ∈ escapeLetters) :
      Character ('\\' :: l :: s) c s
  | unit {c : Char} {s rest : List Char} (h : Hex4 s c.toNat rest) :
      Character ('\\' :: 'u' :: s) c rest
  | pair {c : Char} {s t rest : List Char} (hc : 0x10000 ≤ c.toNat)
      (hhigh : Hex4 s (surrogates c).1 ('\\' :: 'u' :: t)) (hlow : Hex4 t (surrogates c).2 rest) :
      Character ('\\' :: 'u' :: s) c rest

/-- Characters up to the closing quote. -/
inductive Body : List Char → List Char → List Char → Prop where
  | close {rest : List Char} : Body ('"' :: rest) [] rest
  | character {c : Char} {cs s t rest : List Char} (hc : Character s c t) (h : Body t cs rest) :
      Body s (c :: cs) rest

inductive Quoted : List Char → String → List Char → Prop where
  | mk {s rest : List Char} {x : String} (h : Body s x.toList rest) : Quoted ('"' :: s) x rest

/-! ## Numbers -/

structure IsDigits (ds : List Char) : Prop where
  ne_nil : ds ≠ []
  isDigit : ∀ c ∈ ds, c.isDigit = true

/-- Digits without a superfluous zero in front. -/
structure IsWhole (ds : List Char) : Prop where
  ne_nil : ds ≠ []
  isDigit : ∀ c ∈ ds, c.isDigit = true
  eq_of_head : ds.head? = some '0' → ds = ['0']

theorem IsWhole.isDigits {ds : List Char} (h : IsWhole ds) : IsDigits ds :=
  ⟨h.ne_nil, h.isDigit⟩

theorem isDigits_iff {ds : List Char} : IsDigits ds ↔ ds ≠ [] ∧ ds.all Char.isDigit = true := by
  rw [List.all_eq_true]
  exact ⟨fun h => ⟨h.ne_nil, h.isDigit⟩, fun h => ⟨h.1, h.2⟩⟩

theorem isWhole_iff {ds : List Char} :
    IsWhole ds ↔ IsDigits ds ∧ (ds.head? = some '0' → ds = ['0']) :=
  ⟨fun h => ⟨h.isDigits, h.eq_of_head⟩, fun h => ⟨h.1.ne_nil, h.1.isDigit, h.2⟩⟩

instance (ds : List Char) : Decidable (IsDigits ds) :=
  decidable_of_iff _ isDigits_iff.symm

instance (ds : List Char) : Decidable (IsWhole ds) :=
  decidable_of_iff _ isWhole_iff.symm

def sign (negative : Bool) : List Char :=
  if negative then ['-'] else []

inductive Fraction : List Char → Option (List Char) → List Char → Prop where
  | absent {s : List Char} : Fraction s none s
  | digits {ds s : List Char} (h : IsDigits ds) : Fraction ('.' :: (ds ++ s)) (some ds) s

/-- The spellings of the sign of an exponent. -/
def exponentSigns : List (List Char × Bool) :=
  [([], false), (['+'], false), (['-'], true)]

/-- A power of ten by its exponent. -/
inductive Power : List Char → Option Exponent → List Char → Prop where
  | absent {s : List Char} : Power s none s
  | exponent {e : Char} {mark ds s : List Char} {negative : Bool} (he : e = 'e' ∨ e = 'E')
      (hmark : (mark, negative) ∈ exponentSigns) (h : IsDigits ds) :
      Power (e :: (mark ++ (ds ++ s))) (some ⟨negative, ds⟩) s

inductive Numeral : List Char → Literal → List Char → Prop where
  | mk {negative : Bool} {whole s t rest : List Char} {fraction : Option (List Char)}
      {exponent : Option Exponent} (hwhole : IsWhole whole) (hfraction : Fraction s fraction t)
      (hpower : Power t exponent rest) :
      Numeral (sign negative ++ (whole ++ s)) ⟨negative, whole, fraction, exponent⟩ rest

/-! ## Values -/

/-- A value that is neither a list nor a record.  A number has to be in range. -/
inductive Scalar : List Char → Value → List Char → Prop where
  | null {rest : List Char} : Scalar ("null".toList ++ rest) .null rest
  | true {rest : List Char} : Scalar ("true".toList ++ rest) (.flag true) rest
  | false {rest : List Char} : Scalar ("false".toList ++ rest) (.flag false) rest
  | number {s rest : List Char} {l : Literal} {n : Number} (h : Numeral s l rest)
      (hn : l.value = .ok n) : Scalar s (.number n) rest
  | text {s rest : List Char} {x : String} (h : Quoted s x rest) : Scalar s (.text x) rest

section Enclosed

variable {α : Type} (Item : List Char → α → List Char → Prop)

/-- What follows an item: more of them, with a comma before each, and the closing bracket. -/
inductive Later (closing : Char) : List Char → List α → List Char → Prop where
  | close {s rest : List Char} (h : Blanks s (closing :: rest)) : Later closing s [] rest
  | item {s t u v rest : List Char} {x : α} {xs : List α} (hcomma : Blanks s (',' :: t))
      (hblank : Blanks t u) (hx : Item u x v) (h : Later closing v xs rest) :
      Later closing s (x :: xs) rest

/-- Items between brackets. -/
inductive Enclosed (opening closing : Char) : List Char → List α → List Char → Prop where
  | empty {s rest : List Char} (h : Blanks s (closing :: rest)) :
      Enclosed opening closing (opening :: s) [] rest
  | items {s t u rest : List Char} {x : α} {xs : List α} (hblank : Blanks s t) (hx : Item t x u)
      (h : Later Item closing u xs rest) : Enclosed opening closing (opening :: s) (x :: xs) rest

inductive Field : List Char → String × α → List Char → Prop where
  | mk {s t u v rest : List Char} {name : String} {x : α} (hname : Quoted s name t)
      (hcolon : Blanks t (':' :: u)) (hblank : Blanks u v) (hx : Item v x rest) :
      Field s (name, x) rest

end Enclosed

/-- The front of a text denotes a value in which lists and records are nested at most so deep. -/
def Denotes : Nat → List Char → Value → List Char → Prop
  | 0, s, v, rest => Scalar s v rest
  | depth + 1, s, v, rest =>
    Scalar s v rest ∨
      (∃ items, v = .list items ∧ Enclosed (Denotes depth) '[' ']' s items rest) ∨
        ∃ fields, v = .record fields ∧ Enclosed (Field (Denotes depth)) '\x7b' '\x7d' s fields rest

theorem Denotes.of_scalar {s rest : List Char} {v : Value} (h : Scalar s v rest) (depth : Nat) :
    Denotes depth s v rest := by
  cases depth with
  | zero => exact h
  | succ depth => exact .inl h

theorem Denotes.scalar_or {depth : Nat} {s rest : List Char} {v : Value}
    (h : Denotes depth s v rest) :
    Scalar s v rest ∨ (∃ items, v = .list items) ∨ ∃ fields, v = .record fields := by
  cases depth with
  | zero => exact .inl h
  | succ depth =>
      rcases h with h | ⟨items, hv, -⟩ | ⟨fields, hv, -⟩
      · exact .inl h
      · exact .inr (.inl ⟨items, hv⟩)
      · exact .inr (.inr ⟨fields, hv⟩)

theorem Denotes.list {depth : Nat} {s rest : List Char} {items : List Value}
    (h : Enclosed (Denotes depth) '[' ']' s items rest) :
    Denotes (depth + 1) s (.list items) rest :=
  .inr (.inl ⟨items, rfl, h⟩)

theorem Denotes.record {depth : Nat} {s rest : List Char} {fields : List (String × Value)}
    (h : Enclosed (Field (Denotes depth)) '\x7b' '\x7d' s fields rest) :
    Denotes (depth + 1) s (.record fields) rest :=
  .inr (.inr ⟨fields, rfl, h⟩)

/-! ## Items of another kind -/

section Items

variable {α β : Type} {P : List Char → α → List Char → Prop} {Q : List Char → β → List Char → Prop}
  {f : α → Option β}

theorem mapM_cons_eq_some_iff {x : α} {xs : List α} {ys : List β} :
    (x :: xs).mapM f = some ys ↔ ∃ y zs, f x = some y ∧ xs.mapM f = some zs ∧ ys = y :: zs := by
  simp only [List.mapM_cons, Option.bind_eq_bind, Option.bind_eq_some_iff, Option.pure_def,
    Option.some.injEq]
  grind

theorem later_iff (hitem : ∀ s y rest, Q s y rest ↔ ∃ x, P s x rest ∧ f x = some y)
    {closing : Char} {s rest : List Char} {ys : List β} :
    Later Q closing s ys rest ↔ ∃ xs, Later P closing s xs rest ∧ xs.mapM f = some ys := by
  constructor
  · intro h
    induction h with
    | close h => exact ⟨[], .close h, rfl⟩
    | item hcomma hblank hy h ih =>
        obtain ⟨x, hx, hfx⟩ := (hitem _ _ _).1 hy
        obtain ⟨xs, hxs, hfxs⟩ := ih
        exact ⟨x :: xs, .item hcomma hblank hx hxs,
          mapM_cons_eq_some_iff.2 ⟨_, _, hfx, hfxs, rfl⟩⟩
  · rintro ⟨xs, h, hf⟩
    induction h generalizing ys with
    | close h =>
        cases hf
        exact .close h
    | item hcomma hblank hx h ih =>
        obtain ⟨y, zs, hfx, hfxs, rfl⟩ := mapM_cons_eq_some_iff.1 hf
        exact .item hcomma hblank ((hitem _ _ _).2 ⟨_, hx, hfx⟩) (ih hfxs)

theorem enclosed_iff (hitem : ∀ s y rest, Q s y rest ↔ ∃ x, P s x rest ∧ f x = some y)
    {opening closing : Char} {s rest : List Char} {ys : List β} :
    Enclosed Q opening closing s ys rest ↔
      ∃ xs, Enclosed P opening closing s xs rest ∧ xs.mapM f = some ys := by
  constructor
  · intro h
    cases h with
    | empty h => exact ⟨[], .empty h, rfl⟩
    | items hblank hy h =>
        obtain ⟨x, hx, hfx⟩ := (hitem _ _ _).1 hy
        obtain ⟨xs, hxs, hfxs⟩ := (later_iff hitem).1 h
        exact ⟨x :: xs, .items hblank hx hxs, mapM_cons_eq_some_iff.2 ⟨_, _, hfx, hfxs, rfl⟩⟩
  · rintro ⟨xs, h, hf⟩
    cases h with
    | empty h =>
        cases hf
        exact .empty h
    | items hblank hx h =>
        obtain ⟨y, zs, hfx, hfxs, rfl⟩ := mapM_cons_eq_some_iff.1 hf
        exact .items hblank ((hitem _ _ _).2 ⟨_, hx, hfx⟩) ((later_iff hitem).2 ⟨_, h, hfxs⟩)

end Items

/-! ## What is left is the end of the text -/

theorem Blanks.suffix {s t : List Char} (h : Blanks s t) : t <:+ s := by
  induction h with
  | nil => exact List.suffix_rfl
  | cons hc h ih => exact ih.trans (List.suffix_cons _ _)

theorem Hex4.suffix {s rest : List Char} {n : Nat} (h : Hex4 s n rest) : rest <:+ s := by
  obtain ⟨ha, hb, hc, hd⟩ := h
  exact ⟨[_, _, _, _], rfl⟩

theorem Character.suffix {s rest : List Char} {c : Char} (h : Character s c rest) : rest <:+ s := by
  cases h with
  | plain hquote hslash hcontrol => exact List.suffix_cons _ _
  | letter hletter => exact ⟨['\\', _], rfl⟩
  | unit hhex => exact hhex.suffix.trans ⟨['\\', 'u'], rfl⟩
  | @pair _ s t _ hc hhigh hlow =>
      have hsecond : rest <:+ '\\' :: 'u' :: t := hlow.suffix.trans ⟨['\\', 'u'], rfl⟩
      exact (hsecond.trans hhigh.suffix).trans ⟨['\\', 'u'], rfl⟩

theorem Body.suffix {s cs rest : List Char} (h : Body s cs rest) : rest <:+ s := by
  induction h with
  | close => exact List.suffix_cons _ _
  | character hc h ih => exact ih.trans hc.suffix

theorem Quoted.suffix {s rest : List Char} {x : String} (h : Quoted s x rest) : rest <:+ s := by
  obtain ⟨h⟩ := h
  exact h.suffix.trans (List.suffix_cons _ _)

theorem Numeral.suffix {s rest : List Char} {l : Literal} (h : Numeral s l rest) : rest <:+ s := by
  obtain @⟨negative, whole, s, t, rest, fraction, exponent, hwhole, hfraction, hpower⟩ := h
  have hright : rest <:+ t := by
    cases hpower with
    | absent => exact List.suffix_rfl
    | @exponent e mark ds _ _ he hmark hds => exact ⟨e :: (mark ++ ds), by simp⟩
  have hmiddle : t <:+ s := by
    cases hfraction with
    | absent => exact List.suffix_rfl
    | @digits ds _ hds => exact ⟨'.' :: ds, rfl⟩
  have hleft : s <:+ sign negative ++ (whole ++ s) := ⟨sign negative ++ whole, by simp⟩
  exact (hright.trans hmiddle).trans hleft

theorem Numeral.isWhole {s rest : List Char} {l : Literal} (h : Numeral s l rest) :
    IsWhole l.whole := by
  obtain ⟨hwhole, -, -⟩ := h
  exact hwhole

section Enclosed

variable {α : Type} {Item : List Char → α → List Char → Prop} {s rest : List Char} {xs : List α}

theorem Later.suffix (hitem : ∀ {s x rest}, Item s x rest → rest <:+ s) {closing : Char}
    (h : Later Item closing s xs rest) : rest <:+ s := by
  induction h with
  | close h => exact (List.suffix_cons _ _).trans h.suffix
  | item hcomma hblank hx h ih =>
      have hinner := (ih.trans (hitem hx)).trans hblank.suffix
      exact (hinner.trans (List.suffix_cons _ _)).trans hcomma.suffix

theorem Enclosed.suffix (hitem : ∀ {s x rest}, Item s x rest → rest <:+ s) {opening closing : Char}
    (h : Enclosed Item opening closing s xs rest) : rest <:+ s := by
  cases h with
  | empty h => exact ((List.suffix_cons _ _).trans h.suffix).trans (List.suffix_cons _ _)
  | items hblank hx h =>
      have hinner := ((h.suffix hitem).trans (hitem hx)).trans hblank.suffix
      exact hinner.trans (List.suffix_cons _ _)

end Enclosed

end FixedWidth.Json
