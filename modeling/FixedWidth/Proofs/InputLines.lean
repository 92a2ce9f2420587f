import FixedWidth.Input

/-!
# Lines of a text

A line feed and a carriage return are one byte each, and the byte occurs in no other character.  So
the bytes of a text are cut where its lines end and nowhere else, and what a line gives depends on
the text between the blanks at its ends.
-/

namespace FixedWidth

namespace Text

variable {α : Type} [DecidableEq α]

theorem split_append_separator (sep : α) (s t : List α) :
    split sep (s ++ sep :: t) = split sep s ++ split sep t := by
  induction s with
  | nil => simp
  | cons a s ih =>
      by_cases ha : a = sep
      · subst ha
        rw [List.cons_append, split_cons_self, split_cons_self, ih, List.cons_append]
      · obtain ⟨p, parts, hparts⟩ := List.exists_cons_of_ne_nil (split_ne_nil sep s)
        rw [List.cons_append, split_cons_of_ne ha, split_cons_of_ne ha, ih, hparts]
        rfl

theorem split_of_notMem {sep : α} {s : List α} (h : sep ∉ s) : split sep s = [s] := by
  induction s with
  | nil => rfl
  | cons a s ih =>
      rw [List.mem_cons, not_or] at h
      rw [split_cons_of_ne (Ne.symm h.1), ih h.2]
      rfl

theorem length_split (sep : α) (s : List α) : (split sep s).length = s.count sep + 1 := by
  induction s with
  | nil => rfl
  | cons a s ih =>
      by_cases ha : a = sep
      · subst ha
        rw [split_cons_self, List.length_cons, ih, List.count_cons_self]
      · rw [split_cons_of_ne ha, List.length_cons, List.length_tail, ih, List.count_cons_of_ne ha]
        rfl

theorem split_ended {sep : α} {parts : List (List α)}
    (h : ∀ p ∈ parts, sep ∉ p) :
    split sep (parts.flatMap fun p => p ++ [sep]) = parts ++ [[]] := by
  induction parts with
  | nil => rfl
  | cons p parts ih =>
      have hrest := ih fun q hq => h q (List.mem_cons_of_mem p hq)
      rw [List.flatMap_cons, List.append_assoc, List.singleton_append,
        split_append_separator, split_of_notMem (h p List.mem_cons_self), hrest,
        List.singleton_append, List.cons_append]

theorem split_intercalate {sep : α} {parts : List (List α)} (hne : parts ≠ [])
    (h : ∀ p ∈ parts, sep ∉ p) : split sep ([sep].intercalate parts) = parts := by
  induction parts with
  | nil => contradiction
  | cons p parts ih =>
      have hp : sep ∉ p := h p List.mem_cons_self
      cases parts with
      | nil => rw [List.intercalate_singleton, split_of_notMem hp]
      | cons q parts =>
          have hrest := ih (List.cons_ne_nil q parts) fun x hx => h x (List.mem_cons_of_mem p hx)
          rw [List.intercalate_cons_cons, List.append_assoc, List.singleton_append,
            split_append_separator, split_of_notMem hp, hrest, List.singleton_append]

theorem splitString_intercalate {sep : Char} {separator : String}
    (hseparator : separator.toList = [sep]) {parts : List String} (hne : parts ≠ [])
    (h : ∀ p ∈ parts, sep ∉ p.toList) : splitString sep (separator.intercalate parts) = parts := by
  have hsplit : split sep ([sep].intercalate (parts.map String.toList)) =
      parts.map String.toList :=
    split_intercalate (by simpa using hne) (List.forall_mem_map.2 h)
  rw [splitString, String.toList_intercalate, hseparator, hsplit, List.map_map]
  simp

/-! ## Blanks at the ends -/

theorem trimBlanks_eq_nil {s : List Char} (h : ∀ c ∈ s, isBlank c = true) :
    trimBlanks s = [] := by
  have hfront : (s ++ []).dropWhile isBlank = [] := List.dropWhile_append_of_pos h
  rw [List.append_nil] at hfront
  rw [trimBlanks, hfront]
  rfl

theorem trimBlanks_append_blank {b : Char} (hb : isBlank b = true) (s : List Char) :
    trimBlanks (s ++ [b]) = trimBlanks s := by
  have hback : [b].dropWhile isBlank = [] := List.dropWhile_cons_of_pos hb
  rw [trimBlanks, trimBlanks, List.dropWhile_append]
  split
  · rename_i hempty
    rw [hback, List.isEmpty_iff.1 hempty]
  · rw [List.reverse_append, List.reverse_singleton, List.singleton_append,
      List.dropWhile_cons_of_pos hb]

theorem trimBlanks_enclosed {a b : Char} (ha : isBlank a = false) (hb : isBlank b = false)
    (s : List Char) : trimBlanks (a :: s ++ [b]) = a :: s ++ [b] := by
  have hfront : (a :: s ++ [b]).dropWhile isBlank = a :: s ++ [b] :=
    List.dropWhile_cons_of_neg (by simp [ha])
  have hback : (a :: s ++ [b]).reverse.dropWhile isBlank = (a :: s ++ [b]).reverse := by
    rw [List.reverse_append, List.reverse_singleton, List.singleton_append]
    exact List.dropWhile_cons_of_neg (by simp [hb])
  rw [trimBlanks, hfront, hback, List.reverse_reverse]

end Text

/-! ## What a line gives -/

theorem parseRow_congr {cs ds : List Char} (h : Text.trimBlanks cs = Text.trimBlanks ds)
    (line : Nat) : parseRow line (String.ofList cs) = parseRow line (String.ofList ds) := by
  simp only [parseRow, String.toList_ofList, h]

theorem ofJson_nil : ∃ refusal, Row.ofJson (String.ofList []) = .error refusal := by
  refine ⟨.ofFault [] (.before .cutValue []), ?_⟩
  have hread : Json.readValue [] [] = .error (.before .cutValue []) := by
    rw [Json.readValue]
    rfl
  rw [Row.ofJson, Json.readShape, String.toList_ofList]
  simp only [hread]

/-- A line that is not blank is read as the JSON text without the blanks around it. -/
theorem parseRow_of_ne_nil {text : String} (h : Text.trimBlanks text.toList ≠ []) (line : Nat) :
    parseRow line text =
      match Row.ofJson (String.ofList (Text.trimBlanks text.toList)) with
      | .ok row => .ok (some row)
      | .error refusal => .error (.badLine line refusal) := by
  rw [parseRow]
  split
  · contradiction
  · rfl

theorem parseRow_eq_none_iff {line : Nat} {text : String} :
    parseRow line text = .ok none ↔ Text.trimBlanks text.toList = [] := by
  constructor
  · intro h
    by_cases hnil : Text.trimBlanks text.toList = []
    · exact hnil
    · rw [parseRow_of_ne_nil hnil] at h
      split at h <;> cases h
  · intro h
    rw [parseRow, h]

theorem parseRow_eq_some_iff {line : Nat} {text : String} {row : Row} :
    parseRow line text = .ok (some row) ↔
      Row.ofJson (String.ofList (Text.trimBlanks text.toList)) = .ok row := by
  by_cases hnil : Text.trimBlanks text.toList = []
  · obtain ⟨refusal, hrefusal⟩ := ofJson_nil
    rw [parseRow_eq_none_iff.2 hnil, hnil, hrefusal]
    simp
  · rw [parseRow_of_ne_nil hnil]
    cases Row.ofJson (String.ofList (Text.trimBlanks text.toList)) <;> simp

theorem parseRow_eq_error_iff {line : Nat} {text : String} {failure : Failure} :
    parseRow line text = .error failure ↔
      Text.trimBlanks text.toList ≠ [] ∧
        ∃ refusal, Row.ofJson (String.ofList (Text.trimBlanks text.toList)) = .error refusal ∧
          failure = .badLine line refusal := by
  by_cases hnil : Text.trimBlanks text.toList = []
  · rw [parseRow_eq_none_iff.2 hnil]
    simp [hnil]
  · rw [parseRow_of_ne_nil hnil]
    cases Row.ofJson (String.ofList (Text.trimBlanks text.toList)) <;> simp [hnil, eq_comm]

namespace Input

/-! ## The bytes of a text -/

def utf8 (cs : List Char) : List UInt8 :=
  cs.flatMap String.utf8EncodeChar

theorem toUTF8_eq_utf8 (s : String) : s.toUTF8.data.toList = utf8 s.toList := by
  rw [String.toUTF8_eq_toByteArray, ← String.utf8Encode_toList, List.utf8Encode,
    List.data_toByteArray]
  rfl

theorem fromUTF8?_utf8 (cs : List Char) :
    String.fromUTF8? (utf8 cs).toByteArray = some (String.ofList cs) := by
  have hbytes : (utf8 cs).toByteArray = (String.ofList cs).toByteArray := by
    rw [String.toByteArray_ofList, List.utf8Encode]
    rfl
  rw [hbytes, String.fromUTF8?, dif_pos (String.ofList cs).isValidUTF8]
  rfl

theorem utf8_append (cs ds : List Char) : utf8 (cs ++ ds) = utf8 cs ++ utf8 ds :=
  List.flatMap_append

/-- A byte below 128 stands for itself, and is no part of a longer character. -/
theorem toNat_eq_of_mem_utf8EncodeChar {c : Char} {b : UInt8} (h : b ∈ String.utf8EncodeChar c)
    (hb : b.toNat < 128) : c.toNat = b.toNat := by
  have hval : c.toNat = c.val.toNat := rfl
  unfold String.utf8EncodeChar at h
  simp only at h
  split at h
  · obtain rfl := List.mem_singleton.1 h
    rw [UInt8.toNat_ofNat']
    omega
  · split at h
    · simp only [List.mem_cons, List.not_mem_nil, or_false] at h
      rcases h with rfl | rfl <;> rw [UInt8.toNat_ofNat'] at hb <;> omega
    · split at h
      · simp only [List.mem_cons, List.not_mem_nil, or_false] at h
        rcases h with rfl | rfl | rfl <;> rw [UInt8.toNat_ofNat'] at hb <;> omega
      · simp only [List.mem_cons, List.not_mem_nil, or_false] at h
        rcases h with rfl | rfl | rfl | rfl <;> rw [UInt8.toNat_ofNat'] at hb <;> omega

theorem lineFeed_notMem_utf8 {cs : List Char} (h : '\n' ∉ cs) : lineFeed ∉ utf8 cs := by
  intro hmem
  obtain ⟨c, hc, hb⟩ := List.mem_flatMap.1 hmem
  have hcode : c.toNat = '\n'.toNat := toNat_eq_of_mem_utf8EncodeChar hb (by decide)
  exact h (Char.toNat_inj.1 hcode ▸ hc)

/-! ## Lines with their ends -/

/-- A carriage return that is dropped was a blank at the end of the text. -/
theorem dropReturn_utf8 (cs : List Char) :
    ∃ ds, dropReturn (utf8 cs) = utf8 ds ∧ Text.trimBlanks ds = Text.trimBlanks cs := by
  rcases List.eq_nil_or_concat cs with rfl | ⟨ds, c, rfl⟩
  · exact ⟨[], rfl, rfl⟩
  · rw [List.concat_eq_append]
    by_cases hc : c = '\r'
    · subst hc
      have hreturn : utf8 ['\r'] = [carriageReturn] := by decide
      refine ⟨ds, ?_, (Text.trimBlanks_append_blank (by decide) ds).symm⟩
      simp [dropReturn, utf8_append, hreturn]
    · refine ⟨ds ++ [c], ?_, rfl⟩
      rw [dropReturn, if_neg]
      intro hlast
      have hmem : carriageReturn ∈ String.utf8EncodeChar c := by
        rw [utf8_append, List.getLast?_append, utf8, List.flatMap_singleton,
          Option.or_of_isSome (by simp)] at hlast
        exact List.mem_of_getLast? hlast
      have hcode : c.toNat = '\r'.toNat := toNat_eq_of_mem_utf8EncodeChar hmem (by decide)
      exact hc (Char.toNat_inj.1 hcode)

theorem readLine_utf8 {line : Nat} {cs : List Char} {row? : Option Row}
    (h : parseRow line (String.ofList cs) = .ok row?) :
    readLine line (utf8 cs) = row?.map .ok := by
  rw [readLine, fromUTF8?_utf8]
  cases row? <;> simp [h]

/-- If every line is ended by a line feed, the text behind the last of them gives nothing. -/
theorem rows_ended {parts : List (List UInt8)} (h : ∀ p ∈ parts, lineFeed ∉ p) :
    rows (parts.flatMap fun p => p ++ [lineFeed]) =
      (parts.zipIdx 1).filterMap fun (p, n) => readLine n (dropReturn p) := by
  have hlast (n : Nat) : readLine n [] = none := by
    have hblank : parseRow n (String.ofList []) = .ok none := rfl
    exact readLine_utf8 hblank
  have hlines : lines (parts.flatMap fun p => p ++ [lineFeed]) = parts.map dropReturn ++ [[]] := by
    simp [lines, Text.split_ended h]
  rw [rows, hlines, List.zipIdx_append, List.filterMap_append, List.zipIdx_map, List.filterMap_map]
  simp only [List.zipIdx_cons, List.zipIdx_nil, List.filterMap_cons, List.filterMap_nil, hlast,
    List.append_nil]
  rfl

end Input

end FixedWidth
