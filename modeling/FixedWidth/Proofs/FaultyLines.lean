import FixedWidth.Proofs.LineNumbers

/-!
# Which lines fail, and how

Every failure among the rows of a stream comes from one line.  A line that is a text and no row
fails with its number.  A line that is no text fails as the stream does, and its number is lost.
-/

namespace FixedWidth.Input

theorem mem_rows_of_front {line after : List UInt8} {item : Except Failure Row}
    (hline : lineFeed ∉ line) (hafter : after = [] ∨ after.head? = some lineFeed)
    (hread : readLine 1 line = some item) : item ∈ rows (line ++ after) := by
  have hfirst : item ∈ rows line := by
    rw [rows_of_lineFeed_notMem hline, hread]
    exact List.mem_singleton_self item
  rcases hafter with rfl | hhead
  · rwa [List.append_nil]
  · obtain ⟨rest, rfl⟩ := List.head?_eq_some_iff.1 hhead
    rw [rows_append]
    exact List.mem_append_left _ hfirst

theorem IsLine.mem_rows {bytes line : List UInt8} {n : Nat} {item : Except Failure Row}
    (h : IsLine bytes n line) (hread : readLine n line = some item) : item ∈ rows bytes := by
  obtain ⟨hline, before, after, rfl, rfl, hbefore, hafter⟩ := h
  rcases hbefore with rfl | hlast
  · exact mem_rows_of_front hline hafter hread
  · obtain ⟨front, rfl⟩ := List.getLast?_eq_some_iff.1 hlast
    have hcount : (front ++ [lineFeed]).count lineFeed = front.count lineFeed + 1 := by simp
    rw [hcount, Nat.add_comm _ 1, readLine_add, Option.map_eq_some_iff] at hread
    obtain ⟨alone, halone, rfl⟩ := hread
    have hsplit : front ++ [lineFeed] ++ line ++ after = front ++ lineFeed :: (line ++ after) := by
      simp
    rw [hsplit, rows_append]
    exact List.mem_append_right _
      (List.mem_map_of_mem (mem_rows_of_front hline hafter halone))

/-- What a stream gives is what its lines give, each with its number. -/
theorem mem_rows_iff {bytes : List UInt8} {item : Except Failure Row} :
    item ∈ rows bytes ↔ ∃ n line, IsLine bytes n line ∧ readLine n line = some item :=
  ⟨exists_isLine_of_mem_rows, fun ⟨_, _, hline, hread⟩ => hline.mem_rows hread⟩

/-- Why a line with this number fails. -/
inductive Fails (n : Nat) (line : List UInt8) : Failure → Prop where
  | notText (h : String.fromUTF8? line.toByteArray = none) : Fails n line (.stream .notUtf8)
  | notRow {text : String} {refusal : Json.Refusal}
      (htext : String.fromUTF8? line.toByteArray = some text)
      (hblank : Text.trimBlanks text.toList ≠ [])
      (h : Row.ofJson (String.ofList (Text.trimBlanks text.toList)) = .error refusal) :
      Fails n line (.badLine n refusal)

theorem readLine_eq_error_iff {n : Nat} {line : List UInt8} {failure : Failure} :
    readLine n line = some (.error failure) ↔ Fails n line failure := by
  constructor
  · intro h
    cases htext : String.fromUTF8? line.toByteArray with
    | none =>
        simp only [readLine, htext, Option.some.injEq, Except.error.injEq] at h
        exact h ▸ .notText htext
    | some text =>
        cases hread : parseRow n text with
        | ok row? => cases row? <;> simp [readLine, htext, hread] at h
        | error cause =>
            obtain ⟨hblank, refusal, hrefused, rfl⟩ := parseRow_eq_error_iff.1 hread
            simp only [readLine, htext, hread, Option.some.injEq, Except.error.injEq] at h
            exact h ▸ .notRow htext hblank hrefused
  · intro h
    cases h with
    | notText htext => simp only [readLine, htext]
    | notRow htext hblank hrefused =>
        exact readLine_eq_badLine_iff.2 ⟨rfl, _, htext, hblank, hrefused⟩

/-- A stream fails exactly where one of its lines does.  The failure names the line if the line is a
text, and only then. -/
theorem error_mem_rows_iff (bytes : List UInt8) (failure : Failure) :
    .error failure ∈ rows bytes ↔ ∃ n line, IsLine bytes n line ∧ Fails n line failure := by
  simp only [mem_rows_iff, readLine_eq_error_iff]

/-- The failure of a line that is no text says nothing of where the line stands. -/
theorem rows_of_line_without_number :
    let bytes : List UInt8 := [0x5B, 0x5D, lineFeed, 0xFF, lineFeed]
    rows bytes = [.ok .empty, .error (.stream .notUtf8)] ∧
      ¬ ∀ failure, .error failure ∈ rows bytes →
          ∃ n line refusal, IsLine bytes n line ∧ failure = .badLine n refusal := by
  intro bytes
  have hrows : rows bytes = [.ok .empty, .error (.stream .notUtf8)] := by decide +kernel
  refine ⟨hrows, fun h => ?_⟩
  obtain ⟨n, line, refusal, -, hnamed⟩ := h (.stream .notUtf8) (by simp [hrows])
  cases hnamed

end FixedWidth.Input
