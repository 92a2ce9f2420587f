import FixedWidth.Proofs.Json.Documents
import FixedWidth.Proofs.Json.QuotedText
import FixedWidth.Proofs.Json.WholeNumber

/-!
# Cells and rows are read back

The written form of a cell denotes a value of which the cell can be told again, and a list of cells
is written item by item.  Only binary numbers are left out, and unsigned numbers that have a signed
cell.
-/

namespace FixedWidth

/-! ## One cell -/

namespace Cell

/-- What reading gives back exactly.  An unsigned number that is also signed comes back signed. -/
def IsExact : Cell → Prop
  | .text _ | .integer _ | .flag _ => True
  | .unsigned n => 2 ^ 63 ≤ n.toNat
  | .float _ => False

instance : DecidablePred IsExact
  | .text _ | .integer _ | .flag _ => .isTrue trivial
  | .unsigned n => inferInstanceAs (Decidable (2 ^ 63 ≤ n.toNat))
  | .float _ => .isFalse id

/-- The JSON value that a cell is written as. -/
def value : Cell → Json.Value
  | .text s => .text s
  | .integer n => .number (.integer n.toInt)
  | .unsigned n => .number (.integer n.toNat)
  | .float x => .number (.float x)
  | .flag b => .flag b

theorem toCell?_value {c : Cell} (h : c.IsExact) : c.value.toCell? = some c := by
  cases c with
  | text s => rfl
  | integer n =>
      have hlt : n.toInt < 2 ^ 63 := n.toInt_lt
      simp only [value, Json.Value.toCell?, Json.Number.toCell, if_pos hlt, Int64.ofInt_toInt]
  | unsigned n =>
      have hle : ¬ (n.toNat : Int) < 2 ^ 63 := by
        have : 2 ^ 63 ≤ n.toNat := h
        omega
      simp only [value, Json.Value.toCell?, Json.Number.toCell, if_neg hle, Int.toNat_natCast,
        UInt64.ofNat_toNat]
  | float x => exact absurd h id
  | flag b => rfl

theorem mapM_toCell?_value {cells : List Cell} (h : ∀ c ∈ cells, c.IsExact) :
    (cells.map value).mapM Json.Value.toCell? = some cells := by
  induction cells with
  | nil => rfl
  | cons c cells ih =>
      have hhead := toCell?_value (h c List.mem_cons_self)
      have htail := ih fun d hd => h d (List.mem_cons_of_mem c hd)
      rw [List.map_cons, List.mapM_cons, hhead, htail]
      rfl

/-! ### Its written form -/

theorem scalar_integer {n : Int} (hleast : -2 ^ 63 ≤ n) (hmost : n < 2 ^ 64) (rest : List Char) :
    Json.Scalar ((Decimal.integer n).toList ++ rest) (.number (.integer n)) rest := by
  rw [Decimal.integer, String.toList_ofList]
  exact .number (Json.numeral_integerChars n rest) (Json.value_integerLiteral hleast hmost)

theorem scalar_toJson {c : Cell} (h : c.IsExact) (rest : List Char) :
    Json.Scalar (c.toJson.toList ++ rest) c.value rest := by
  cases c with
  | text s => exact .text (Json.quoted_writeQuoted s rest)
  | integer n => exact scalar_integer n.le_toInt (by have := n.toInt_lt; omega) rest
  | unsigned n => exact scalar_integer (by omega) (by have := n.toNat_lt; omega) rest
  | float x => exact absurd h id
  | flag b =>
      cases b with
      | false => exact .false
      | true => exact .true

/-! ## A list of cells -/

/-- The written forms of the cells between brackets, with commas. -/
def listJson (cells : List Cell) : String :=
  "[" ++ ",".intercalate (cells.map toJson) ++ "]"

/-- What is written of a list from behind its first cell on. -/
def laterItems (cells : List Cell) (rest : List Char) : List Char :=
  cells.flatMap (fun c => ',' :: c.toJson.toList) ++ ']' :: rest

theorem toList_intercalate_cons (c : Cell) (cells : List Cell) :
    (",".intercalate ((c :: cells).map toJson)).toList =
      c.toJson.toList ++ cells.flatMap (fun c => ',' :: c.toJson.toList) := by
  induction cells generalizing c with
  | nil => simp
  | cons d cells ih =>
      have hlater := ih d
      simp only [List.map_cons, String.toList_intercalate] at hlater ⊢
      rw [List.intercalate_cons_cons, hlater]
      simp

theorem toList_listJson_cons (c : Cell) (cells : List Cell) :
    (listJson (c :: cells)).toList = '[' :: (c.toJson.toList ++ laterItems cells []) := by
  rw [listJson, String.toList_append, String.toList_append, toList_intercalate_cons]
  simp [laterItems]

section

variable {α : Type} {Item : List Char → α → List Char → Prop} {f : Cell → α} {cells : List Cell}

theorem later_laterItems (h : ∀ c ∈ cells, ∀ rest, Item (c.toJson.toList ++ rest) (f c) rest)
    (rest : List Char) : Json.Later Item ']' (laterItems cells rest) (cells.map f) rest := by
  induction cells with
  | nil => exact .close .nil
  | cons c cells ih =>
      have hsplit : laterItems (c :: cells) rest =
          ',' :: (c.toJson.toList ++ laterItems cells rest) := by
        simp [laterItems]
      rw [hsplit]
      exact .item .nil .nil (h c List.mem_cons_self _)
        (ih fun d hd => h d (List.mem_cons_of_mem c hd))

/-- A list stands for whatever its items stand for one by one. -/
theorem enclosed_items (h : ∀ c ∈ cells, ∀ rest, Item (c.toJson.toList ++ rest) (f c) rest) :
    Json.Enclosed Item '[' ']' (listJson cells).toList (cells.map f) [] := by
  cases cells with
  | nil => exact .empty .nil
  | cons c cells =>
      rw [toList_listJson_cons]
      exact .items .nil (h c List.mem_cons_self _)
        (later_laterItems (fun d hd => h d (List.mem_cons_of_mem c hd)) [])

end

theorem enclosed_listJson {cells : List Cell} (h : ∀ c ∈ cells, c.IsExact) (depth : Nat) :
    Json.Enclosed (Json.Denotes depth) '[' ']' (listJson cells).toList (cells.map value) [] :=
  enclosed_items fun c hc rest => .of_scalar (scalar_toJson (h c hc) rest) depth

end Cell

/-! ## A row -/

namespace Row

theorem ofJson_listJson {cells : List Cell} (h : ∀ c ∈ cells, c.IsExact) :
    Row.ofJson (Cell.listJson cells) = .ok (Row.ofCells cells) := by
  refine Json.readShape_eq_ok_iff.2
    ⟨_, _, [], .nil, .list (Cell.enclosed_listJson h _), .nil, ?_⟩
  rw [Json.Value.toRow?, Cell.mapM_toCell?_value h]
  rfl

/-- A status line is written as a text is, and a text alone is no row of cells. -/
theorem ofJson_text (s : String) : Row.ofJson (Cell.text s).toJson = .ok (.line s) := by
  have hscalar := Cell.scalar_toJson (show (Cell.text s).IsExact from trivial) []
  rw [List.append_nil] at hscalar
  exact Json.readShape_eq_ok_iff.2 ⟨_, _, [], .nil, .of_scalar hscalar _, .nil, rfl⟩

end Row

end FixedWidth
