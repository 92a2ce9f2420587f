import FixedWidth.Proofs.Json.Numerals
import FixedWidth.Proofs.Json.Tokens
import FixedWidth.Proofs.Json.Turns

/-!
# Reading values

A text is read exactly if its front denotes a value that is not nested too deeply, and then the
reader gives that value.  The reader keeps open lists and records in frames, and `Closes` says what
the frames still want of the text.
-/

namespace FixedWidth.Json

/-! ## Scalars -/

/-- No list or record is opened or closed by this character, and it is not skipped. -/
structure BeginsScalar (c : Char) : Prop where
  not_blank : c.isWhitespace = false
  ne_open : c ≠ '['
  ne_close : c ≠ ']'
  ne_record : c ≠ '\x7b'

theorem beginsScalar_of_mem {c : Char} (h : c ∈ ['n', 't', 'f', '"']) : BeginsScalar c := by
  simp only [List.mem_cons, List.not_mem_nil, or_false] at h
  rcases h with rfl | rfl | rfl | rfl <;> constructor <;> decide

theorem beginsScalar_of_number {c : Char} (h : c = '-' ∨ c.isDigit = true) : BeginsScalar c := by
  rcases h with rfl | h
  · constructor <;> decide
  · refine ⟨?_, ?_, ?_, ?_⟩
    · cases hc : c.isWhitespace with
      | false => rfl
      | true =>
          simp only [isWhitespace_iff_mem, List.mem_cons, List.not_mem_nil, or_false] at hc
          rcases hc with rfl | rfl | rfl | rfl <;> simp at h
    · rintro rfl
      simp at h
    · rintro rfl
      simp at h
    · rintro rfl
      simp at h

theorem readScalar_number {c : Char} (h : c = '-' ∨ c.isDigit = true) (s : List Char) :
    readScalar c s = (readNumber (c :: s)).map fun p => (.number p.1, p.2) := by
  rw [readScalar, if_pos h]
  all_goals
    rintro rfl
    simp at h

theorem numeral_of_readNumber {s rest : List Char} {n : Number}
    (h : readNumber s = .ok (n, rest)) : ∃ l, Numeral s l rest ∧ l.value = .ok n := by
  unfold readNumber at h
  split at h
  · cases h
  · rename_i l t hread
    split at h
    · rename_i hvalue
      cases h
      exact ⟨l, numeral_of_readLiteral hread, hvalue⟩
    · cases h

theorem word_of_map_eq_ok {word s rest : List Char} {v w : Value}
    (h : (readWord word s).map (fun s => (v, s)) = .ok (w, rest)) : v = w ∧ s = word ++ rest := by
  cases hread : readWord word s with
  | error f =>
      rw [hread] at h
      cases h
  | ok t =>
      rw [hread] at h
      cases h
      exact ⟨rfl, readWord_eq_ok_iff.1 hread⟩

theorem scalar_of_readScalar {c : Char} {s rest : List Char} {v : Value}
    (h : readScalar c s = .ok (v, rest)) : Scalar (c :: s) v rest := by
  unfold readScalar at h
  split at h
  · obtain ⟨rfl, rfl⟩ := word_of_map_eq_ok h
    exact .null
  · obtain ⟨rfl, rfl⟩ := word_of_map_eq_ok h
    exact .true
  · obtain ⟨rfl, rfl⟩ := word_of_map_eq_ok h
    exact .false
  · obtain ⟨x, rfl, hread⟩ := exists_of_map_eq_ok _ h
    exact .text (readQuoted_eq_ok_iff.1 hread)
  · split at h
    · obtain ⟨n, rfl, hread⟩ := exists_of_map_eq_ok _ h
      obtain ⟨l, hl, hvalue⟩ := numeral_of_readNumber hread
      exact .number hl hvalue
    · cases h

theorem Scalar.read {s rest : List Char} {v : Value} (h : Scalar s v rest)
    (hrest : EndsNumber rest) :
    ∃ c t, s = c :: t ∧ BeginsScalar c ∧ readScalar c t = .ok (v, rest) := by
  cases h with
  | null =>
      refine ⟨'n', "ull".toList ++ rest, rfl, beginsScalar_of_mem (by decide), ?_⟩
      rw [readScalar, readWord_eq_ok_iff.2 rfl]
      rfl
  | true =>
      refine ⟨'t', "rue".toList ++ rest, rfl, beginsScalar_of_mem (by decide), ?_⟩
      rw [readScalar, readWord_eq_ok_iff.2 rfl]
      rfl
  | false =>
      refine ⟨'f', "alse".toList ++ rest, rfl, beginsScalar_of_mem (by decide), ?_⟩
      rw [readScalar, readWord_eq_ok_iff.2 rfl]
      rfl
  | number hnumeral hvalue =>
      obtain ⟨c, t, rfl, hc⟩ := hnumeral.exists_cons
      refine ⟨c, t, rfl, beginsScalar_of_number hc, ?_⟩
      simp only [readScalar_number hc, readNumber, hnumeral.read hrest, hvalue]
      rfl
  | text hquoted =>
      obtain ⟨h⟩ := hquoted
      refine ⟨'"', _, rfl, beginsScalar_of_mem (by decide), ?_⟩
      rw [readScalar, readQuoted_eq_ok_iff.2 (.mk h)]
      rfl

/-! ## What the reader accepts -/

/-- How deep a value may be nested behind these frames. -/
def room (frames : List Frame) : Nat :=
  maxDepth - (frames.length + 1)

theorem room_eq_succ {frames : List Frame} (h : frames.length + 1 < maxDepth) (f : Frame) :
    room frames = room (f :: frames) + 1 := by
  simp only [room, List.length_cons]
  omega

/-- The frames take a value and what follows it, and end with a result and a rest. -/
def Closes : List Frame → Value → List Char → Value → List Char → Prop
  | [], v, s, result, rest => v = result ∧ s = rest
  | .list done :: frames, v, s, result, rest =>
    ∃ items t, Later (Denotes (room (.list done :: frames))) ']' s items t ∧
      Closes frames (.list ((v :: done).reverse ++ items)) t result rest
  | .record done name :: frames, v, s, result, rest =>
    ∃ fields t, Later (Field (Denotes (room (.record done name :: frames)))) '\x7d' s fields t ∧
      Closes frames (.record (((name, v) :: done).reverse ++ fields)) t result rest

def Pending.Accepts : Pending → Value → List Char → Prop
  | value frames s, result, rest =>
    ∃ t v u, Blanks s t ∧ Denotes (room frames) t v u ∧ Closes frames v u result rest
  | after frames v s, result, rest => Closes frames v s result rest

/-- A turn accepts what the rest of the loop accepts, behind what it has read itself. -/
theorem Turn.accepts {p q : Pending} (h : Turn p q) {result : Value} {rest : List Char}
    (hq : q.Accepts result rest) : p.Accepts result rest := by
  cases h with
  | @scalar frames s t u c v hs hlist hrecord h =>
      exact ⟨_, v, u, blanks_of_skipBlanks hs, .of_scalar (scalar_of_readScalar h) _, hq⟩
  | @emptyList frames s t u hs hdepth ht =>
      refine ⟨_, .list [], u, blanks_of_skipBlanks hs, ?_, hq⟩
      rw [room_eq_succ hdepth (.list [])]
      exact .list (.empty (blanks_of_skipBlanks ht))
  | list hs hdepth ht hclose =>
      obtain ⟨t', v, w, hblanks, hv, items, x, hlater, hcloses⟩ := hq
      refine ⟨_, .list (v :: items), x, blanks_of_skipBlanks hs, ?_, hcloses⟩
      rw [room_eq_succ hdepth (.list [])]
      exact .list (.items ((blanks_of_skipBlanks ht).trans hblanks) hv hlater)
  | @emptyRecord frames s t u hs hdepth ht =>
      refine ⟨_, .record [], u, blanks_of_skipBlanks hs, ?_, hq⟩
      rw [room_eq_succ hdepth (.list [])]
      exact .record (.empty (blanks_of_skipBlanks ht))
  | @record frames s t u w name hs hdepth ht hname =>
      obtain ⟨y, hquoted, hcolon⟩ := readName_eq_ok_iff.1 hname
      obtain ⟨t', v, z, hblanks, hv, fields, x, hlater, hcloses⟩ := hq
      refine ⟨_, .record ((name, v) :: fields), x, blanks_of_skipBlanks hs, ?_, hcloses⟩
      rw [room_eq_succ hdepth (.record [] name)]
      exact .record (.items (blanks_of_skipBlanks ht) (.mk hquoted hcolon hblanks hv) hlater)
  | @closeList frames done v s t hs =>
      refine ⟨[], t, .close (blanks_of_skipBlanks hs), ?_⟩
      rw [List.append_nil]
      exact hq
  | item hs ht hclose =>
      obtain ⟨t', x, w, hblanks, hx, items, y, hlater, hcloses⟩ := hq
      have hinner := (blanks_of_skipBlanks ht).trans hblanks
      refine ⟨x :: items, y, .item (blanks_of_skipBlanks hs) hinner hx hlater, ?_⟩
      rwa [List.reverse_cons, List.append_assoc] at hcloses
  | @closeRecord frames done name v s t hs =>
      refine ⟨[], t, .close (blanks_of_skipBlanks hs), ?_⟩
      rw [List.append_nil]
      exact hq
  | @field frames done name next v s t u w hs ht hname =>
      obtain ⟨a, hquoted, hcolon⟩ := readName_eq_ok_iff.1 hname
      obtain ⟨t', x, z, hblanks, hx, fields, y, hlater, hcloses⟩ := hq
      refine ⟨(next, x) :: fields, y, .item (blanks_of_skipBlanks hs) (blanks_of_skipBlanks ht)
        (.mk hquoted hcolon hblanks hx) hlater, ?_⟩
      rwa [List.reverse_cons, List.append_assoc] at hcloses

theorem accepts_of_read {p : Pending} {result : Value} {rest : List Char}
    (h : p.read = .ok (result, rest)) : p.Accepts result rest := by
  induction hn : p.unread.length using Nat.strongRecOn generalizing p with
  | ind n ih =>
      have turned {q : Pending} (hturn : Turn p q) (hq : q.read = .ok (result, rest)) :
          p.Accepts result rest :=
        hturn.accepts (ih _ (hn ▸ hturn.length_lt) hq rfl)
      cases p with
      | value frames s =>
          obtain ⟨q, hturn, hq⟩ := exists_turn_of_readValue h
          exact turned hturn hq
      | after frames v s =>
          cases frames with
          | nil =>
              rw [Pending.read, readAfter] at h
              cases h
              exact ⟨rfl, rfl⟩
          | cons f frames =>
              obtain ⟨q, hturn, hq⟩ := exists_turn_of_readAfter h
              exact turned hturn hq

/-! ## What the reader does not miss -/

theorem Blanks.endsNumber {s t : List Char} (h : Blanks s t) (ht : EndsNumber t) :
    EndsNumber s := by
  cases h with
  | nil => exact ht
  | cons hc h =>
      intro d hd
      cases hd
      simp only [List.mem_cons, List.not_mem_nil, or_false] at hc
      rcases hc with rfl | rfl | rfl | rfl <;> decide

theorem endsNumber_cons {c : Char} (h : c ∈ [',', ']', '\x7d']) (s : List Char) :
    EndsNumber (c :: s) := by
  intro d hd
  cases hd
  simp only [List.mem_cons, List.not_mem_nil, or_false] at h
  rcases h with rfl | rfl | rfl <;> decide

theorem Later.endsNumber {α : Type} {Item : List Char → α → List Char → Prop} {closing : Char}
    (hclosing : closing ∈ [',', ']', '\x7d']) {s rest : List Char} {xs : List α}
    (h : Later Item closing s xs rest) : EndsNumber s := by
  cases h with
  | close h => exact h.endsNumber (endsNumber_cons hclosing _)
  | item hcomma hblank hx h => exact hcomma.endsNumber (endsNumber_cons List.mem_cons_self _)

theorem Enclosed.exists_cons {α : Type} {Item : List Char → α → List Char → Prop}
    {opening closing : Char} {s rest : List Char} {xs : List α}
    (h : Enclosed Item opening closing s xs rest) : ∃ t, s = opening :: t := by
  cases h with
  | empty => exact ⟨_, rfl⟩
  | items => exact ⟨_, rfl⟩

/-- A value begins with a character that is neither skipped nor taken for the end of a list. -/
theorem Denotes.exists_cons {depth : Nat} {s rest : List Char} {v : Value}
    (h : Denotes depth s v rest) (hrest : EndsNumber rest) :
    ∃ c t, s = c :: t ∧ c.isWhitespace = false ∧ c ≠ ']' := by
  have scalar (h : Scalar s v rest) : ∃ c t, s = c :: t ∧ c.isWhitespace = false ∧ c ≠ ']' := by
    obtain ⟨c, t, rfl, hc, -⟩ := h.read hrest
    exact ⟨c, t, rfl, hc.not_blank, hc.ne_close⟩
  cases depth with
  | zero => exact scalar h
  | succ depth =>
      rcases h with h | ⟨items, rfl, h⟩ | ⟨fields, rfl, h⟩
      · exact scalar h
      · obtain ⟨t, rfl⟩ := h.exists_cons
        exact ⟨'[', t, rfl, by decide, by decide⟩
      · obtain ⟨t, rfl⟩ := h.exists_cons
        exact ⟨'\x7b', t, rfl, by decide, by decide⟩

theorem Field.exists_readName {α : Type} {Item : List Char → α → List Char → Prop}
    {s rest : List Char} {field : String × α} (h : Field Item s field rest) :
    ∃ t u v, s = '"' :: t ∧ readName t = .ok (field.1, u) ∧ Blanks u v ∧ Item v field.2 rest := by
  obtain ⟨hname, hcolon, hblank, hx⟩ := h
  obtain ⟨hbody⟩ := id hname
  exact ⟨_, _, _, rfl, readName_eq_ok_iff.2 ⟨_, .mk hbody, hcolon⟩, hblank, hx⟩

/-- Values nested at most so deep are read wherever there is room for them. -/
def IsRead (depth : Nat) : Prop :=
  ∀ (frames : List Frame) (s t u : List Char) (v : Value), depth ≤ room frames → Blanks s t →
    Denotes depth t v u → EndsNumber u → readValue frames s = readAfter frames v u

theorem readAfter_later_items {depth : Nat} (hread : IsRead depth) {frames : List Frame}
    (hroom : depth + 1 ≤ room frames) {s rest : List Char} {items : List Value}
    (h : Later (Denotes depth) ']' s items rest) (done : List Value) (v : Value) :
    readAfter (.list done :: frames) v s =
      readAfter frames (.list ((v :: done).reverse ++ items)) rest := by
  induction h generalizing done v with
  | close h =>
      rw [List.append_nil]
      exact (Turn.closeList (h.skip (by decide))).read_eq
  | @item s t u w rest x items hcomma hblank hx hlater ih =>
      have hends := hlater.endsNumber (by simp)
      have hinner : depth ≤ room (.list (v :: done) :: frames) := by
        simp only [room, List.length_cons] at hroom ⊢
        omega
      obtain ⟨c, u', rfl, hc, hclose⟩ := hx.exists_cons hends
      calc
        readAfter (.list done :: frames) v s
          = readValue (.list (v :: done) :: frames) (c :: u') :=
            (Turn.item (hcomma.skip (by decide))
              (hblank.skip hc) hclose).read_eq
        _ = readAfter (.list (v :: done) :: frames) x w := hread _ _ _ _ _ hinner .nil hx hends
        _ = readAfter frames (.list ((x :: v :: done).reverse ++ items)) rest := ih _ _
        _ = _ := by rw [List.reverse_cons, List.append_assoc]; rfl

theorem readAfter_later_fields {depth : Nat} (hread : IsRead depth) {frames : List Frame}
    (hroom : depth + 1 ≤ room frames) {s rest : List Char} {fields : List (String × Value)}
    (h : Later (Field (Denotes depth)) '\x7d' s fields rest) (done : List (String × Value))
    (name : String) (v : Value) :
    readAfter (.record done name :: frames) v s =
      readAfter frames (.record (((name, v) :: done).reverse ++ fields)) rest := by
  induction h generalizing done name v with
  | close h =>
      rw [List.append_nil]
      exact (Turn.closeRecord (h.skip (by decide))).read_eq
  | @item s t u w rest x fields hcomma hblank hx hlater ih =>
      have hends := hlater.endsNumber (by simp)
      obtain ⟨next, x⟩ := x
      obtain ⟨t', a, b, rfl, hname, hblank', hx⟩ := hx.exists_readName
      have hinner : depth ≤ room (.record ((name, v) :: done) next :: frames) := by
        simp only [room, List.length_cons] at hroom ⊢
        omega
      calc
        readAfter (.record done name :: frames) v s
          = readValue (.record ((name, v) :: done) next :: frames) a :=
            (Turn.field (hcomma.skip (by decide))
              (hblank.skip (by decide)) hname).read_eq
        _ = readAfter (.record ((name, v) :: done) next :: frames) x w :=
            hread _ _ _ _ _ hinner hblank' hx hends
        _ = readAfter frames (.record (((next, x) :: (name, v) :: done).reverse ++ fields)) rest :=
            ih _ _ _
        _ = _ := by rw [List.reverse_cons, List.append_assoc]; rfl

theorem isRead (depth : Nat) : IsRead depth := by
  have scalar {frames : List Frame} {s t u : List Char} {v : Value} (hs : Blanks s t)
      (h : Scalar t v u) (hu : EndsNumber u) : readValue frames s = readAfter frames v u := by
    obtain ⟨c, t', rfl, hc, hread⟩ := h.read hu
    exact (Turn.scalar (hs.skip hc.not_blank) hc.ne_open hc.ne_record
      hread).read_eq
  induction depth with
  | zero => exact fun _ _ _ _ _ _ hs h hu => scalar hs h hu
  | succ depth ih =>
      intro frames s t u v hroom hs h hu
      have hdepth : frames.length + 1 < maxDepth := by
        simp only [room] at hroom
        omega
      have hinner (f : Frame) : depth ≤ room (f :: frames) := by
        rw [room_eq_succ hdepth f] at hroom
        exact Nat.le_of_succ_le_succ hroom
      rcases h with h | ⟨items, rfl, h⟩ | ⟨fields, rfl, h⟩
      · exact scalar hs h hu
      · cases h with
        | empty hclose =>
            exact (Turn.emptyList (hs.skip (by decide)) hdepth
              (hclose.skip (by decide))).read_eq
        | @items _ t' w _ x items hblank hx hlater =>
            have hends := hlater.endsNumber (by simp)
            obtain ⟨c, t'', rfl, hc, hclose⟩ := hx.exists_cons hends
            calc
              readValue frames s = readValue (.list [] :: frames) (c :: t'') :=
                (Turn.list (hs.skip (by decide)) hdepth
                  (hblank.skip hc) hclose).read_eq
              _ = readAfter (.list [] :: frames) x w := ih _ _ _ _ _ (hinner _) .nil hx hends
              _ = readAfter frames (.list (x :: items)) u :=
                readAfter_later_items ih hroom hlater [] x
      · cases h with
        | empty hclose =>
            exact (Turn.emptyRecord (hs.skip (by decide)) hdepth
              (hclose.skip (by decide))).read_eq
        | @items _ t' w _ x fields hblank hx hlater =>
            have hends := hlater.endsNumber (by simp)
            obtain ⟨name, x⟩ := x
            obtain ⟨t'', a, b, rfl, hname, hblank', hx⟩ := hx.exists_readName
            calc
              readValue frames s = readValue (.record [] name :: frames) a :=
                (Turn.record (hs.skip (by decide)) hdepth
                  (hblank.skip (by decide)) hname).read_eq
              _ = readAfter (.record [] name :: frames) x w :=
                ih _ _ _ _ _ (hinner _) hblank' hx hends
              _ = readAfter frames (.record ((name, x) :: fields)) u :=
                readAfter_later_fields ih hroom hlater [] name x

/-! ## Whole texts -/

theorem endsNumber_of_blanks {s : List Char} (h : Blanks s []) : EndsNumber s :=
  h.endsNumber fun c hc => by cases hc

theorem readValue_eq_ok_iff {s rest : List Char} {v : Value} (hrest : EndsNumber rest) :
    readValue [] s = .ok (v, rest) ↔ ∃ t, Blanks s t ∧ Denotes (room []) t v rest := by
  constructor
  · intro h
    obtain ⟨t, v, u, hblanks, hv, rfl, rfl⟩ := accepts_of_read (p := .value [] s) h
    exact ⟨t, hblanks, hv⟩
  · rintro ⟨t, hblanks, hv⟩
    rw [isRead _ _ _ _ _ _ (Nat.le_refl _) hblanks hv hrest, readAfter]

/-- A text has a wanted shape if it denotes a value of this shape and nothing follows it. -/
theorem readShape_eq_ok_iff {α : Type} {kind text : String} {shape? : Value → Option α} {a : α} :
    readShape kind shape? text = .ok a ↔
      ∃ v s rest, Blanks text.toList s ∧ Denotes (room []) s v rest ∧ Blanks rest [] ∧
        shape? v = some a := by
  constructor
  · intro h
    unfold readShape at h
    simp only at h
    split at h
    · cases h
    · rename_i v rest hread
      split at h
      · cases h
      · rename_i hshape
        split at h
        · cases h
        · rename_i hfinish
          cases h
          have hrest := finish_eq_ok_iff.1 hfinish
          obtain ⟨s, hs, hv⟩ := (readValue_eq_ok_iff (endsNumber_of_blanks hrest)).1 hread
          exact ⟨v, s, rest, hs, hv, hrest, hshape⟩
  · rintro ⟨v, s, rest, hs, hv, hrest, hshape⟩
    have hread := (readValue_eq_ok_iff (endsNumber_of_blanks hrest)).2 ⟨s, hs, hv⟩
    simp only [readShape, hread, hshape, finish_eq_ok_iff.2 hrest]

end FixedWidth.Json
