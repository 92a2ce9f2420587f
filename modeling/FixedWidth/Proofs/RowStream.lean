import FixedWidth.Proofs.CellText
import FixedWidth.Proofs.InputLines
import FixedWidth.Proofs.Json.CellList

/-!
# Rows are read back from a stream

A stream is written line by line: a status line as a text, a row as the list of its cells, and
blank lines between them.  Whatever the texts and the cells hold, a written line has no line feed
inside and no blank at its ends, so that reading gives the rows in order and nothing else.
-/

namespace FixedWidth

/-! ## What is written holds no line feed -/

namespace Json

theorem lineFeed_notMem_writeChar (c : Char) : '\n' ∉ writeChar c := by
  unfold writeChar
  cases hletter : escapeLetter? c with
  | some l =>
      have hl : l ≠ '\n' := by
        rintro rfl
        unfold escapeLetter? at hletter
        split at hletter <;> cases hletter
      simp [hl.symm]
  | none =>
      by_cases hcontrol : c.toNat < 0x20
      · have hdigits : ∀ d < 16, '\n' ≠ Nat.digitChar d := by decide
        have hhigh := hdigits (c.toNat / 16) (by omega)
        have hlow := hdigits (c.toNat % 16) (by omega)
        simp [hcontrol, hhigh, hlow]
      · have hc : c ≠ '\n' := by
          rintro rfl
          exact hcontrol (by decide)
        simp [hcontrol, hc.symm]

theorem lineFeed_notMem_writeQuoted (s : String) : '\n' ∉ (writeQuoted s).toList := by
  intro hmem
  simp only [writeQuoted, String.toList_ofList, List.mem_append, List.mem_cons, List.mem_flatMap,
    List.not_mem_nil, or_false] at hmem
  rcases hmem with (hquote | ⟨c, -, hc⟩) | hquote
  · simp at hquote
  · exact lineFeed_notMem_writeChar c hc
  · simp at hquote

end Json

theorem Decimal.lineFeed_notMem_integer (n : Int) : '\n' ∉ (Decimal.integer n).toList := by
  have hdigits : '\n' ∉ Nat.toDigits 10 n.natAbs := by
    intro hmem
    have hdigit := (Json.isWhole_toDigits n.natAbs).isDigit _ hmem
    simp at hdigit
  rw [Decimal.integer, String.toList_ofList, Decimal.integerChars]
  split
  · simp [hdigits]
  · exact hdigits

theorem Json.isPlain_numberStyle : Json.numberStyle.IsPlain where
  plus := Text.isPlain_of_all (by decide)
  notANumber := Text.isPlain_of_all (by decide)
  infinity := Text.isPlain_of_all (by decide)
  negativeInfinity := Text.isPlain_of_all (by decide)

namespace Cell

theorem lineFeed_notMem_toJson (c : Cell) : '\n' ∉ c.toJson.toList := by
  cases c with
  | text s => exact Json.lineFeed_notMem_writeQuoted s
  | integer n => exact Decimal.lineFeed_notMem_integer n.toInt
  | unsigned n => exact Decimal.lineFeed_notMem_integer n.toNat
  | float x =>
      intro hmem
      have hplain := Decimal.Style.isPlain_of_mem_render Json.isPlain_numberStyle hmem
      exact absurd hplain (by decide)
  | flag b => cases b <;> decide

theorem lineFeed_notMem_laterItems (cells : List Cell) : '\n' ∉ laterItems cells [] := by
  intro hmem
  simp only [laterItems, List.mem_append, List.mem_flatMap, List.mem_cons, List.not_mem_nil,
    or_false] at hmem
  rcases hmem with ⟨c, -, hcomma | hin⟩ | hclose
  · simp at hcomma
  · exact lineFeed_notMem_toJson c hin
  · simp at hclose

theorem lineFeed_notMem_listJson (cells : List Cell) : '\n' ∉ (listJson cells).toList := by
  cases cells with
  | nil => decide
  | cons c cells =>
      have hhead := lineFeed_notMem_toJson c
      have htail := lineFeed_notMem_laterItems cells
      rw [toList_listJson_cons]
      simp [hhead, htail]

end Cell

namespace Input

/-! ## Streams -/

inductive Content where
  | status (text : String)
  | row (cells : List Cell)
  | blank (text : String)

namespace Content

def text : Content → String
  | .status s => (Cell.text s).toJson
  | .row cells => Cell.listJson cells
  | .blank s => s

def row? : Content → Option Row
  | .status s => some (.line s)
  | .row cells => some (.ofCells cells)
  | .blank _ => none

/-- Its cells are read back exactly, and a blank line is one line of white space. -/
def IsExact : Content → Prop
  | .status _ => True
  | .row cells => ∀ c ∈ cells, c.IsExact
  | .blank s => ∀ c ∈ s.toList, Text.isBlank c = true ∧ c ≠ '\n'

instance : DecidablePred IsExact
  | .status _ => .isTrue trivial
  | .row cells => List.decidableBAll Cell.IsExact cells
  | .blank s => List.decidableBAll (fun c => Text.isBlank c = true ∧ c ≠ '\n') s.toList

theorem lineFeed_notMem_text {l : Content} (h : l.IsExact) : '\n' ∉ l.text.toList := by
  cases l with
  | status s => exact Json.lineFeed_notMem_writeQuoted s
  | row cells => exact Cell.lineFeed_notMem_listJson cells
  | blank s => exact fun hmem => (h '\n' hmem).2 rfl

end Content

inductive Ending where
  | lineFeed
  | returnLineFeed

namespace Ending

def text : Ending → String
  | .lineFeed => "\n"
  | .returnLineFeed => "\r\n"

/-- What stands before the line feed. -/
def front : Ending → List Char
  | .lineFeed => []
  | .returnLineFeed => ['\r']

theorem toList_text (e : Ending) : e.text.toList = e.front ++ ['\n'] := by
  cases e <;> rfl

theorem lineFeed_notMem_front (e : Ending) : '\n' ∉ e.front := by
  cases e <;> decide

theorem trimBlanks_front (e : Ending) (s : List Char) :
    Text.trimBlanks (s ++ e.front) = Text.trimBlanks s := by
  cases e with
  | lineFeed => rw [front, List.append_nil]
  | returnLineFeed => exact Text.trimBlanks_append_blank (by decide) s

end Ending

/-- The stream of some lines, each with its end behind it. -/
def streamText (lines : List (Content × Ending)) : String :=
  String.join (lines.map fun l => l.1.text ++ l.2.text)

/-- The bytes of a line up to the line feed. -/
def lineBytes (l : Content × Ending) : List UInt8 :=
  utf8 (l.1.text.toList ++ l.2.front)

theorem utf8_streamText (lines : List (Content × Ending)) :
    (streamText lines).toUTF8.data.toList =
      (lines.map lineBytes).flatMap fun p => p ++ [lineFeed] := by
  have hend : utf8 ['\n'] = [lineFeed] := by decide
  rw [toUTF8_eq_utf8, streamText, String.toList_join]
  induction lines with
  | nil => rfl
  | cons l lines ih =>
      simp only [List.map_cons, List.flatMap_cons, String.toList_append, Ending.toList_text,
        utf8_append, ih, lineBytes, hend, List.append_assoc]

theorem lineFeed_notMem_lineBytes {l : Content × Ending} (h : l.1.IsExact) :
    lineFeed ∉ lineBytes l := by
  refine lineFeed_notMem_utf8 fun hmem => ?_
  rcases List.mem_append.1 hmem with hmem | hmem
  · exact Content.lineFeed_notMem_text h hmem
  · exact l.2.lineFeed_notMem_front hmem

/-! ## Reading -/

theorem parseRow_of_enclosed {a b : Char} {s t : List Char} {r : Row}
    (ha : Text.isBlank a = false) (hb : Text.isBlank b = false)
    (htrim : Text.trimBlanks t = Text.trimBlanks (a :: s ++ [b]))
    (hread : Row.ofJson (String.ofList (a :: s ++ [b])) = .ok r) (line : Nat) :
    parseRow line (String.ofList t) = .ok (some r) := by
  rw [parseRow_congr htrim, parseRow_eq_some_iff, String.toList_ofList,
    Text.trimBlanks_enclosed ha hb, hread]

theorem parseRow_line {l : Content} (h : l.IsExact) (e : Ending) (line : Nat) :
    parseRow line (String.ofList (l.text.toList ++ e.front)) = .ok l.row? := by
  have htrim := e.trimBlanks_front l.text.toList
  cases l with
  | status s =>
      have hread := Row.ofJson_text s
      have hquoted : (Cell.text s).toJson.toList =
          '"' :: s.toList.flatMap Json.writeChar ++ ['"'] := String.toList_ofList
      rw [← String.ofList_toList (s := (Cell.text s).toJson), hquoted] at hread
      rw [Content.text, hquoted] at htrim ⊢
      exact parseRow_of_enclosed (by decide) (by decide) htrim hread line
  | row cells =>
      have hread := Row.ofJson_listJson h
      have hlist : (Cell.listJson cells).toList =
          '[' :: (",".intercalate (cells.map Cell.toJson)).toList ++ [']'] := by
        simp [Cell.listJson]
      rw [← String.ofList_toList (s := Cell.listJson cells), hlist] at hread
      rw [Content.text, hlist] at htrim ⊢
      exact parseRow_of_enclosed (by decide) (by decide) htrim hread line
  | blank s =>
      have hblank := Text.trimBlanks_eq_nil fun c hc => (h c hc).1
      rw [Content.text] at htrim ⊢
      exact parseRow_eq_none_iff.2 (by rw [String.toList_ofList, htrim, hblank])

theorem readLine_lineBytes {l : Content × Ending} (h : l.1.IsExact) (line : Nat) :
    readLine line (dropReturn (lineBytes l)) = l.1.row?.map .ok := by
  obtain ⟨s, hbytes, htrim⟩ := dropReturn_utf8 (l.1.text.toList ++ l.2.front)
  rw [lineBytes, hbytes]
  refine readLine_utf8 ?_
  rw [parseRow_congr htrim, parseRow_line h]

/-- Lines are read one by one, and what a line gives does not depend on its number. -/
theorem readLine_lines {lines : List (Content × Ending)} (h : ∀ l ∈ lines, l.1.IsExact) (k : Nat) :
    ((lines.map lineBytes).zipIdx k).filterMap (fun (p, n) => readLine n (dropReturn p)) =
      (lines.filterMap fun l => l.1.row?).map .ok := by
  induction lines generalizing k with
  | nil => rfl
  | cons l lines ih =>
      have hhead := readLine_lineBytes (h l List.mem_cons_self) k
      have htail := ih (fun m hm => h m (List.mem_cons_of_mem l hm)) (k + 1)
      rw [List.map_cons, List.zipIdx_cons, List.filterMap_cons, List.filterMap_cons, htail]
      simp only [hhead]
      cases l.1.row? <;> rfl

/-- Reading a written stream gives its status lines and its rows, in order and nothing else. -/
theorem rows_streamText (lines : List (Content × Ending)) (h : ∀ l ∈ lines, l.1.IsExact) :
    rows (streamText lines).toUTF8.data.toList =
      (lines.filterMap fun l => l.1.row?).map .ok := by
  have hparts : ∀ p ∈ lines.map lineBytes, lineFeed ∉ p := by
    intro p hp
    obtain ⟨l, hl, rfl⟩ := List.mem_map.1 hp
    exact lineFeed_notMem_lineBytes (h l hl)
  rw [utf8_streamText, rows_ended hparts]
  exact readLine_lines h 1

/-- Quotes, line ends and characters of four bytes inside the texts, the least and the greatest
numbers, and blank lines with both ends. -/
theorem rows_of_mixed_stream :
    let lines : List (Content × Ending) :=
      [(.status "a \"b\"\\\r\n\u2028", .returnLineFeed), (.blank "", .lineFeed),
        (.row [.text "\r\n\x00😀", .integer Int64.minValue, .unsigned 18446744073709551615,
            .flag true],
          .lineFeed),
        (.blank " \t\u3000\r", .returnLineFeed), (.row [], .lineFeed),
        (.row [.unsigned 9223372036854775808], .returnLineFeed), (.status "", .lineFeed)]
    (∀ l ∈ lines, l.1.IsExact) ∧
      rows (streamText lines).toUTF8.data.toList =
        [.ok (.line "a \"b\"\\\r\n\u2028"),
          .ok (.wide [.text "\r\n\x00😀", .integer Int64.minValue, .unsigned 18446744073709551615,
            .flag true]),
          .ok .empty, .ok (.single (.unsigned 9223372036854775808)), .ok (.line "")] := by
  intro lines
  have hexact : ∀ l ∈ lines, l.1.IsExact := by decide +kernel
  exact ⟨hexact, rows_streamText lines hexact⟩

end Input

end FixedWidth
