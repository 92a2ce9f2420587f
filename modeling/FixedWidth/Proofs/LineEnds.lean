import FixedWidth.Proofs.LineNumbers
import Mathlib.Data.List.Induction

/-!
# Line ends and margins

It makes no difference to a stream whether its lines are ended by a line feed or by a carriage
return and a line feed, nor whether its last line is ended.  It makes none to a line what white
space surrounds it: the position in a refusal counts from where the white space in front ends.
-/

namespace FixedWidth

/-! ## Margins -/

namespace Text

theorem trimBlanks_blanks_append {u : List Char} (hu : ∀ c ∈ u, isBlank c = true) (t : List Char) :
    trimBlanks (u ++ t) = trimBlanks t := by
  rw [trimBlanks, List.dropWhile_append_of_pos hu]
  rfl

theorem trimBlanks_append_blanks {v : List Char} (hv : ∀ c ∈ v, isBlank c = true) (t : List Char) :
    trimBlanks (t ++ v) = trimBlanks t := by
  induction v using List.reverseRecOn with
  | nil => rw [List.append_nil]
  | append_singleton v c ih =>
      have hc : isBlank c = true := hv c (List.mem_append_right v List.mem_cons_self)
      have hrest := ih fun d hd => hv d (List.mem_append_left [c] hd)
      rw [← List.append_assoc, trimBlanks_append_blank hc, hrest]

end Text

theorem parseRow_margins {u v : String} (hu : ∀ c ∈ u.toList, Text.isBlank c = true)
    (hv : ∀ c ∈ v.toList, Text.isBlank c = true) (line : Nat) (text : String) :
    parseRow line (u ++ text ++ v) = parseRow line text := by
  have htrim : Text.trimBlanks (u ++ text ++ v).toList = Text.trimBlanks text.toList := by
    rw [String.toList_append, String.toList_append, Text.trimBlanks_append_blanks hv,
      Text.trimBlanks_blanks_append hu]
  have hread := parseRow_congr htrim line
  rwa [String.ofList_toList, String.ofList_toList] at hread

/-! ## Line ends -/

namespace Input

/-- The same stream with a carriage return in front of every line feed. -/
def withReturns (bytes : List UInt8) : List UInt8 :=
  bytes.flatMap fun b => if b = lineFeed then [carriageReturn, lineFeed] else [b]

theorem withReturns_of_notMem {bytes : List UInt8} (h : lineFeed ∉ bytes) :
    withReturns bytes = bytes := by
  induction bytes with
  | nil => rfl
  | cons b bytes ih =>
      rw [List.mem_cons, not_or] at h
      have hrest := ih h.2
      rw [withReturns] at hrest ⊢
      rw [List.flatMap_cons, if_neg (Ne.symm h.1), hrest, List.singleton_append]

theorem withReturns_append_lineFeed {line : List UInt8} (h : lineFeed ∉ line) (rest : List UInt8) :
    withReturns (line ++ lineFeed :: rest) =
      (line ++ [carriageReturn]) ++ lineFeed :: withReturns rest := by
  have hline := withReturns_of_notMem h
  rw [withReturns] at hline ⊢
  rw [List.flatMap_append, List.flatMap_cons, if_pos rfl, hline, withReturns]
  simp

theorem readLine_append_return (n : Nat) (line : List UInt8) :
    readLine n (line ++ [carriageReturn]) = readLine n line := by
  have hdrop : dropReturn (line ++ [carriageReturn]) = line := by simp [dropReturn]
  rw [← readLine_dropReturn n (line ++ [carriageReturn]), hdrop]

theorem rows_append_return {line : List UInt8} (h : lineFeed ∉ line) :
    rows (line ++ [carriageReturn]) = rows line := by
  have hreturn : lineFeed ∉ line ++ [carriageReturn] := by
    rw [List.mem_append, not_or]
    exact ⟨h, by decide⟩
  rw [rows_of_lineFeed_notMem hreturn, rows_of_lineFeed_notMem h, readLine_append_return]

theorem rows_withReturns (bytes : List UInt8) : rows (withReturns bytes) = rows bytes := by
  induction hlength : bytes.length using Nat.strongRecOn generalizing bytes with
  | ind length ih =>
      by_cases hmem : lineFeed ∈ bytes
      · obtain ⟨line, rest, rfl, hline⟩ := List.eq_append_cons_of_mem hmem
        have hshorter : rest.length < length := by
          rw [← hlength, List.length_append, List.length_cons]
          omega
        have hcount : (line ++ [carriageReturn]).count lineFeed = line.count lineFeed := by
          rw [List.count_append]
          rfl
        rw [withReturns_append_lineFeed hline, rows_append, rows_append, rows_append_return hline,
          ih rest.length hshorter rest rfl, hcount]
      · rw [withReturns_of_notMem hmem]

theorem rows_append_lineFeed (bytes : List UInt8) : rows (bytes ++ [lineFeed]) = rows bytes := by
  have hnil : rows [] = [] := by decide +kernel
  rw [rows_append, hnil, List.map_nil, List.append_nil]

/-- Neither the ends of the lines nor the white space around a line make a difference to what is
read, down to the line and the column of a refusal. -/
theorem reading_ignores_ends_and_margins :
    (∀ bytes, rows (withReturns bytes) = rows bytes) ∧
      (∀ bytes, rows (bytes ++ [lineFeed]) = rows bytes) ∧
      ∀ (line : Nat) (u text v : String), (∀ c ∈ u.toList, Text.isBlank c = true) →
        (∀ c ∈ v.toList, Text.isBlank c = true) →
          parseRow line (u ++ text ++ v) = parseRow line text :=
  ⟨rows_withReturns, rows_append_lineFeed, fun line _ text _ hu hv =>
    parseRow_margins hu hv line text⟩

/-- A list with a comma too many is refused at the same column between wide blanks and line ends. -/
theorem parseRow_between_wide_blanks :
    (∀ c ∈ "\u3000\t".toList, Text.isBlank c = true) ∧
      (∀ c ∈ "\u2003\r\n".toList, Text.isBlank c = true) ∧
        parseRow 7 ("\u3000\t" ++ "[\"é\",]" ++ "\u2003\r\n") =
          .error (.badLine 7 ⟨.trailingComma, some ⟨1, 7⟩⟩) := by
  have hu : ∀ c ∈ "\u3000\t".toList, Text.isBlank c = true := List.all_eq_true.1 (by decide)
  have hv : ∀ c ∈ "\u2003\r\n".toList, Text.isBlank c = true := List.all_eq_true.1 (by decide)
  have hread : parseRow 7 "[\"é\",]" = .error (.badLine 7 ⟨.trailingComma, some ⟨1, 7⟩⟩) := by
    decide +kernel
  exact ⟨hu, hv, (reading_ignores_ends_and_margins.2.2 7 _ _ _ hu hv).trans hread⟩

end Input

end FixedWidth
