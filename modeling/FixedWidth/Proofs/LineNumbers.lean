import FixedWidth.Proofs.InputLines
import Mathlib.Data.List.Basic

/-!
# Lines are read on their own

What a stream gives is put together from what its lines give, one after the other.  A line that is
blank, faulty or not a text takes no part in reading the others, so a failure names the place of its
line among all of them.
-/

namespace FixedWidth

/-! ## Moving a line -/

/-- The same failure, if its line comes so many lines later. -/
def Failure.moved (k : Nat) : Failure → Failure
  | .badLine line refusal => .badLine (line + k) refusal
  | failure => failure

theorem parseRow_add (line k : Nat) (text : String) :
    parseRow (line + k) text = (parseRow line text).mapError (Failure.moved k) := by
  unfold parseRow
  split
  · rfl
  · split <;> rfl

namespace Input

def moved (k : Nat) (item : Except Failure Row) : Except Failure Row :=
  item.mapError (Failure.moved k)

theorem moved_moved (j k : Nat) (item : Except Failure Row) :
    moved j (moved k item) = moved (k + j) item := by
  rcases item with failure | row
  · cases failure <;> simp [moved, Except.mapError, Failure.moved, Nat.add_assoc]
  · rfl

theorem moved_zero (item : Except Failure Row) : moved 0 item = item := by
  rcases item with failure | row
  · cases failure <;> rfl
  · rfl

theorem readLine_add (line k : Nat) (bytes : List UInt8) :
    readLine (line + k) bytes = (readLine line bytes).map (moved k) := by
  unfold readLine
  cases String.fromUTF8? bytes.toByteArray with
  | none => rfl
  | some text =>
      simp only [parseRow_add]
      rcases parseRow line text with failure | _ | row <;> rfl

/-! ## The end of a line -/

theorem fromUTF8?_eq_some_iff {bytes : List UInt8} {text : String} :
    String.fromUTF8? bytes.toByteArray = some text ↔ bytes = utf8 text.toList := by
  constructor
  · intro h
    unfold String.fromUTF8? at h
    split at h
    · cases h
      rw [← toUTF8_eq_utf8]
      exact List.toList_data_toByteArray.symm
    · cases h
  · rintro rfl
    rw [fromUTF8?_utf8, String.ofList_toList]

theorem dropReturn_eq_or (bytes : List UInt8) :
    dropReturn bytes = bytes ∨ bytes = dropReturn bytes ++ [carriageReturn] := by
  unfold dropReturn
  split
  · rename_i hlast
    exact .inr (List.dropLast_append_getLast? _ hlast).symm
  · exact .inl rfl

/-- Whether the carriage return at its end is dropped makes no difference to a line, be it a text
or not. -/
theorem readLine_dropReturn (line : Nat) (bytes : List UInt8) :
    readLine line (dropReturn bytes) = readLine line bytes := by
  cases htext : String.fromUTF8? bytes.toByteArray with
  | some text =>
      obtain ⟨cs, hdrop, htrim⟩ := dropReturn_utf8 text.toList
      rw [fromUTF8?_eq_some_iff.1 htext, hdrop]
      simp only [readLine, fromUTF8?_utf8, parseRow_congr htrim]
  | none =>
      rcases dropReturn_eq_or bytes with hkept | hdropped
      · rw [hkept]
      · cases hread : String.fromUTF8? (dropReturn bytes).toByteArray with
        | none => simp only [readLine, htext, hread]
        | some text =>
            -- Then the carriage return would only make the text longer.
            have hreturn : utf8 ['\r'] = [carriageReturn] := by decide
            rw [hdropped, fromUTF8?_eq_some_iff.1 hread, ← hreturn, ← utf8_append,
              fromUTF8?_utf8] at htext
            cases htext

/-! ## Rows line by line -/

/-- What lines give that are numbered on from the first of them. -/
def rowsFrom (first : Nat) (parts : List (List UInt8)) : List (Except Failure Row) :=
  (parts.zipIdx first).filterMap fun p => readLine p.2 p.1

theorem rowsFrom_cons (first : Nat) (line : List UInt8) (parts : List (List UInt8)) :
    rowsFrom first (line :: parts) =
      (readLine first line).toList ++ rowsFrom (first + 1) parts := by
  cases hread : readLine first line <;> simp [rowsFrom, hread]

theorem rowsFrom_append (first : Nat) (parts others : List (List UInt8)) :
    rowsFrom first (parts ++ others) =
      rowsFrom first parts ++ rowsFrom (first + parts.length) others := by
  rw [rowsFrom, List.zipIdx_append, List.filterMap_append]
  rfl

theorem rowsFrom_add (first k : Nat) (parts : List (List UInt8)) :
    rowsFrom (first + k) parts = (rowsFrom first parts).map (moved k) := by
  induction parts generalizing first with
  | nil => rfl
  | cons line parts ih =>
      rw [rowsFrom_cons, rowsFrom_cons, readLine_add, Nat.add_right_comm, ih, List.map_append]
      cases readLine first line <;> rfl

theorem rows_eq_rowsFrom (bytes : List UInt8) :
    rows bytes = rowsFrom 1 (Text.split lineFeed bytes) := by
  obtain ⟨before, last, hparts⟩ : ∃ before last, Text.split lineFeed bytes = before ++ [last] :=
    ⟨_, _, (List.dropLast_concat_getLast (Text.split_ne_nil lineFeed bytes)).symm⟩
  have hlines : lines bytes = before.map dropReturn ++ [last] := by simp [lines, hparts]
  have hdrop : rowsFrom 1 (before.map dropReturn) = rowsFrom 1 before := by
    rw [rowsFrom, rowsFrom, List.zipIdx_map, List.filterMap_map]
    congr 1
    funext p
    exact readLine_dropReturn p.2 p.1
  calc
    rows bytes = rowsFrom 1 (before.map dropReturn ++ [last]) := by rw [rows, hlines, rowsFrom]
    _ = rowsFrom 1 (before ++ [last]) := by
      rw [rowsFrom_append, rowsFrom_append, hdrop, List.length_map]
    _ = rowsFrom 1 (Text.split lineFeed bytes) := by rw [hparts]

theorem rows_append (a b : List UInt8) :
    rows (a ++ lineFeed :: b) = rows a ++ (rows b).map (moved (a.count lineFeed + 1)) := by
  rw [rows_eq_rowsFrom, rows_eq_rowsFrom, rows_eq_rowsFrom, Text.split_append_separator,
    rowsFrom_append, Text.length_split, rowsFrom_add]

theorem rows_of_lineFeed_notMem {line : List UInt8} (h : lineFeed ∉ line) :
    rows line = (readLine 1 line).toList := by
  rw [rows_eq_rowsFrom, Text.split_of_notMem h, rowsFrom_cons]
  exact List.append_nil _

theorem rows_intercalate {parts : List (List UInt8)} (h : ∀ line ∈ parts, lineFeed ∉ line) :
    rows ([lineFeed].intercalate parts) =
      parts.zipIdx.flatMap fun p => (rows p.1).map (moved p.2) := by
  induction parts with
  | nil => decide +kernel
  | cons line parts ih =>
      rw [List.forall_mem_cons] at h
      have hfirst : (rows line).map (moved 0) = rows line := by
        rw [funext moved_zero, List.map_id']
      cases parts with
      | nil => simp [hfirst]
      | cons next parts =>
          have hlater : ((next :: parts).zipIdx 1).flatMap (fun p => (rows p.1).map (moved p.2)) =
              ((next :: parts).zipIdx.flatMap fun p => (rows p.1).map (moved p.2)).map
                (moved 1) := by
            rw [List.zipIdx_succ, List.flatMap_map, List.map_flatMap]
            simp only [List.map_map, Function.comp_def, moved_moved]
          have hcons : (line :: next :: parts).zipIdx = (line, 0) :: (next :: parts).zipIdx 1 :=
            List.zipIdx_cons
          rw [List.intercalate_cons_cons, List.append_assoc, List.singleton_append, rows_append,
            List.count_eq_zero.2 h.1, ih h.2, ← hlater, hcons, List.flatMap_cons, hfirst]

/-! ## The line of a failure -/

/-- The line with this number in a stream.  What stands before it, if anything does, is ended by a
line feed, and so is the line unless the stream ends with it. -/
structure IsLine (bytes : List UInt8) (n : Nat) (line : List UInt8) : Prop where
  lineFeed_notMem : lineFeed ∉ line
  exists_around : ∃ before after, bytes = before ++ line ++ after ∧
    n = before.count lineFeed + 1 ∧ (before = [] ∨ before.getLast? = some lineFeed) ∧
      (after = [] ∨ after.head? = some lineFeed)

theorem IsLine.only {line : List UInt8} (h : lineFeed ∉ line) : IsLine line 1 line :=
  ⟨h, [], [], by simp, rfl, .inl rfl, .inl rfl⟩

theorem IsLine.first {line : List UInt8} (h : lineFeed ∉ line) (rest : List UInt8) :
    IsLine (line ++ lineFeed :: rest) 1 line :=
  ⟨h, [], lineFeed :: rest, by simp, rfl, .inl rfl, .inr rfl⟩

theorem IsLine.later {bytes line next : List UInt8} {n : Nat} (h : IsLine bytes n line)
    (hnext : lineFeed ∉ next) : IsLine (next ++ lineFeed :: bytes) (n + 1) line := by
  obtain ⟨hline, before, after, rfl, rfl, hbefore, hafter⟩ := h
  refine ⟨hline, next ++ lineFeed :: before, after, by simp, ?_, .inr ?_, hafter⟩
  · rw [List.count_append, List.count_eq_zero.2 hnext, List.count_cons_self, Nat.zero_add]
  · rcases hbefore with rfl | hlast
    · simp
    · simp [List.getLast?_append, List.getLast?_cons, hlast]

theorem exists_isLine_of_mem_rows {bytes : List UInt8} {item : Except Failure Row}
    (h : item ∈ rows bytes) : ∃ n line, IsLine bytes n line ∧ readLine n line = some item := by
  induction hlength : bytes.length using Nat.strongRecOn generalizing bytes item with
  | ind length ih =>
      by_cases hmem : lineFeed ∈ bytes
      · obtain ⟨line, rest, rfl, hline⟩ := List.eq_append_cons_of_mem hmem
        rw [rows_append, List.mem_append] at h
        rcases h with hfirst | hrest
        · rw [rows_of_lineFeed_notMem hline, Option.mem_toList] at hfirst
          exact ⟨1, line, .first hline rest, hfirst⟩
        · obtain ⟨alone, halone, rfl⟩ := List.mem_map.1 hrest
          have hshorter : rest.length < length := by
            rw [← hlength, List.length_append, List.length_cons]
            omega
          obtain ⟨n, later, hlater, hread⟩ := ih rest.length hshorter halone rfl
          refine ⟨n + 1, later, hlater.later hline, ?_⟩
          rw [readLine_add, hread, List.count_eq_zero.2 hline]
          rfl
      · rw [rows_of_lineFeed_notMem hmem, Option.mem_toList] at h
        exact ⟨1, bytes, .only hmem, h⟩

/-- A line is refused for what stands between the blanks at its ends, and the failure names the line
that was read. -/
theorem readLine_eq_badLine_iff {n number : Nat} {line : List UInt8} {refusal : Json.Refusal} :
    readLine n line = some (.error (.badLine number refusal)) ↔
      number = n ∧ ∃ text, String.fromUTF8? line.toByteArray = some text ∧
        Text.trimBlanks text.toList ≠ [] ∧
          Row.ofJson (String.ofList (Text.trimBlanks text.toList)) = .error refusal := by
  unfold readLine parseRow
  cases String.fromUTF8? line.toByteArray with
  | none => simp
  | some text =>
      cases htrim : Text.trimBlanks text.toList with
      | nil => simp [htrim]
      | cons c cs =>
          simp only [Option.some.injEq, exists_eq_left', htrim]
          cases Row.ofJson (String.ofList (c :: cs)) with
          | ok row => simp
          | error cause => simp [eq_comm]

/-- Streams are read line by line.  What stands behind a line feed gives what it gives alone, moved
by the lines before it, and a single line gives one item at most.  So each line among others gives
what it gives alone, and a line that is refused is the one whose number the failure carries. -/
theorem rows_line_by_line :
    (∀ a b : List UInt8,
      rows (a ++ lineFeed :: b) = rows a ++ (rows b).map (moved (a.count lineFeed + 1))) ∧
      (∀ line : List UInt8, lineFeed ∉ line → (rows line).length ≤ 1) ∧
      (∀ parts : List (List UInt8), (∀ line ∈ parts, lineFeed ∉ line) →
        rows ([lineFeed].intercalate parts) =
          parts.zipIdx.flatMap fun p => (rows p.1).map (moved p.2)) ∧
      ∀ (bytes : List UInt8) (n : Nat) (refusal : Json.Refusal),
        .error (.badLine n refusal) ∈ rows bytes →
          ∃ line, IsLine bytes n line ∧ rows line = [.error (.badLine 1 refusal)] := by
  refine ⟨rows_append, ?_, fun parts => rows_intercalate, ?_⟩
  · intro line hline
    rw [rows_of_lineFeed_notMem hline]
    exact Option.length_toList_le
  · intro bytes n refusal hmem
    obtain ⟨m, line, hline, hread⟩ := exists_isLine_of_mem_rows hmem
    obtain ⟨rfl, hrefused⟩ := readLine_eq_badLine_iff.1 hread
    refine ⟨line, hline, ?_⟩
    rw [rows_of_lineFeed_notMem hline.lineFeed_notMem,
      readLine_eq_badLine_iff.2 ⟨rfl, hrefused⟩]
    rfl

/-- A row with a carriage return behind it, a byte that starts no text, a blank line, and a list
that is not closed where the stream ends. -/
theorem rows_of_faulty_stream :
    let a : List UInt8 := [0x5B, 0x31, 0x5D, carriageReturn, lineFeed, 0xFF]
    let b : List UInt8 := [0x20, lineFeed, 0x5B]
    rows (a ++ lineFeed :: b) =
      [.ok (.single (.integer 1)), .error (.stream .notUtf8),
        .error (.badLine 4 ⟨.cutList, some ⟨1, 1⟩⟩)] := by
  intro a b
  have ha : rows a = [.ok (.single (.integer 1)), .error (.stream .notUtf8)] := by decide +kernel
  have hb : rows b = [.error (.badLine 2 ⟨.cutList, some ⟨1, 1⟩⟩)] := by decide +kernel
  rw [rows_line_by_line.1 a b, ha, hb]
  rfl

end Input

end FixedWidth
