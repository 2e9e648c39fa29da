import SnapDesk.Keys

/-! # Reading cells back

`_values_to_line` closes every value with a semicolon, and `_get_cell_from_row` skips as
many semicolons as there are cells before the one it looks for and cuts the line at the
next.  Whether there is a next one it asks with the position `find` returns, taken as a
truth value: the position 0, where an empty cell ends, counts as no, and the whole rest of
the line is returned.  So exactly the cells that are not empty are read back
(`getCellFromRow_valuesToLine_iff`).

`get_all_keys_with_value` selects rows by the cells it reads, and all rows if the value is
empty.  Empty cells aside it is the selection by cells (`getAllKeysWithValue_exact`). -/
namespace SnapDesk
open Delimited

namespace Row
variable {n : Nat}

theorem cell_eq_getElem (r : Row n) {c : Nat} (hc : c < r.cells.length) :
    r.cell c = r.cells[c] := by
  rw [cell, List.getElem?_eq_getElem hc, Option.getD_some]

/-- An empty cell is read as a text with a semicolon. -/
theorem read_ne_nil (r : Row n) {c : Nat} (hc : c < n) : r.read c ≠ [] := by
  by_cases hempty : r.cell c = []
  · have hlt : c < r.cells.length := r.length_eq.symm ▸ hc
    rw [read, if_pos hempty, Csv.valuesToLine, List.drop_eq_getElem_cons hlt, terminate_cons]
    simp
  · rw [read_of_ne hempty]
    exact hempty

/-- Reading undoes writing unless there is nothing to read. -/
theorem read_eq_cell_iff (r : Row n) {c : Nat} (hc : c < n) : r.read c = r.cell c ↔ r.cell c ≠ [] :=
  ⟨fun h => h ▸ r.read_ne_nil hc, read_of_ne⟩

end Row

namespace Csv

/-- **A cell is read back from the line it was written to** if and only if it is not
empty. -/
theorem getCellFromRow_valuesToLine_iff {values : List Str}
    (hplain : ∀ value ∈ values, delimiter ∉ value ∧ newline ∉ value) {i : Nat}
    (hi : i < values.length) :
    getCellFromRow (valuesToLine values) i = values[i] ↔ values[i] ≠ [] := by
  have hread := Row.getCellFromRow_line (⟨values, rfl, hplain⟩ : Row values.length) hi
  have hcell := Row.cell_eq_getElem (⟨values, rfl, hplain⟩ : Row values.length) hi
  rw [Row.line] at hread
  rw [hread, ← hcell]
  exact Row.read_eq_cell_iff _ hi

theorem getCellFromRow_valuesToLine_date :
    getCellFromRow (valuesToLine [lit "a", lit "1/1"]) 1 = lit "1/1" ↔ lit "1/1" ≠ [] :=
  getCellFromRow_valuesToLine_iff (show ∀ value ∈ [lit "a", lit "1/1"], delimiter ∉ value ∧
    newline ∉ value by decide)
    (by decide)

/-- The row of an empty output reads as itself. -/
theorem not_getCellFromRow_valuesToLine :
    ¬ ∀ (values : List Str) (i : Nat) (hi : i < values.length), values ≠ [] →
      (∀ value ∈ values, delimiter ∉ value ∧ newline ∉ value) →
      getCellFromRow (valuesToLine values) i = values[i] := by
  intro h
  have hcell := h [[], lit "1/1"] 0 (by decide) (by decide) (by decide)
  exact absurd hcell (by decide)

/-! ### Selection by a cell -/

section
variable {n : Nat} {csv : Csv} {w : World} {loc : List Str} {header : Str} {rows : List (Row n)}

/-- The keys of the rows with that cell. -/
def keysOfCell (csv : Csv) (rows : List (Row n)) (columnNumber : Nat) (value : Str) : List Str :=
  (rows.filter fun r => r.cell columnNumber = value).map (Row.cell · csv.keyColumnNumber)

/-- Keys that are not empty are read as they are. -/
theorem keysWith_of_key (hkeys : ∀ r ∈ rows, r.cell csv.keyColumnNumber ≠ []) (c : Nat)
    (value : Str) :
    csv.keysWith rows c value =
      (rows.filter fun r => value = [] ∨ r.read c = value).map (Row.cell · csv.keyColumnNumber) :=
  List.map_congr_left fun r hr => Row.read_of_ne (hkeys r (List.mem_of_mem_filter hr))

/-- Where no empty cell is read as the value, the rows with that cell are selected. -/
theorem keysWith_eq_keysOfCell (hkeys : ∀ r ∈ rows, r.cell csv.keyColumnNumber ≠ []) {c : Nat}
    {value : Str} (hvalue : value ≠ []) (hrest : ∀ r ∈ rows, r.cell c = [] → r.read c ≠ value) :
    csv.keysWith rows c value = csv.keysOfCell rows c value := by
  rw [keysWith_of_key hkeys, keysOfCell]
  congr 1
  refine List.filter_congr fun r hr => ?_
  rw [decide_eq_decide]
  by_cases hempty : r.cell c = []
  · constructor
    · rintro (hnil | hread)
      · exact absurd hnil hvalue
      · exact absurd hread (hrest r hr hempty)
    · intro hcell
      exact absurd (hcell.symm.trans hempty) hvalue
  · rw [Row.read_of_ne hempty, or_iff_right hvalue]

/-- **Selection by a value.**  The empty value selects all rows.  Any other selects the
rows with that cell, unless it is what an empty cell is read as; in particular if it
contains no semicolon. -/
theorem getAllKeysWithValue_exact (h : csv.HoldsRows w loc header rows)
    (hkeys : ∀ r ∈ rows, r.cell csv.keyColumnNumber ≠ []) {c : Nat} (hc : c < n) (value : Str) :
    (value = [] → (csv.getAllKeysWithValue c value).run w =
      .ok (rows.map (Row.cell · csv.keyColumnNumber)) w) ∧
    (value ≠ [] → (∀ r ∈ rows, r.cell c = [] → valuesToLine (r.cells.drop c) ≠ value) →
      (csv.getAllKeysWithValue c value).run w = .ok (csv.keysOfCell rows c value) w) ∧
    (value ≠ [] → delimiter ∉ value →
      (csv.getAllKeysWithValue c value).run w = .ok (csv.keysOfCell rows c value) w) := by
  have hselect (hvalue : value ≠ [])
    (hrest : ∀ r ∈ rows, r.cell c = [] → valuesToLine (r.cells.drop c) ≠ value) :
      (csv.getAllKeysWithValue c value).run w = .ok (csv.keysOfCell rows c value) w := by
    rw [h.getAllKeysWithValue_run hc, keysWith_eq_keysOfCell hkeys hvalue]
    intro r hr hempty
    rw [Row.read, if_pos hempty]
    exact hrest r hr hempty
  refine ⟨?_, hselect, ?_⟩
  · rintro rfl
    rw [h.getAllKeysWithValue_run hc, keysWith_of_key hkeys, List.filter_eq_self.mpr (by simp)]
  · intro hvalue hplain
    -- the rest of a line ends with a semicolon
    refine hselect hvalue fun r hr hempty he => hplain ?_
    have hlt : c < r.cells.length := r.length_eq.symm ▸ hc
    rw [← he, valuesToLine, List.drop_eq_getElem_cons hlt, terminate_cons]
    simp

end

/-- Two rows, the output and the date of each. -/
def twoRows : List (Row 2) :=
  [⟨[lit "a", lit "1/1"], rfl, by decide⟩, ⟨[lit "b", lit "2/1"], rfl, by decide⟩]

theorem holdsRows_twoRows :
    (ofFiles (lit "t") 2 0).HoldsRows (writeFile [lit "t.csv"] (rowsText (lit "output;date;") twoRows) emptyWorld)
      [lit "t.csv"] (lit "output;date;") twoRows :=
  ⟨⟨rfl, rfl⟩, by decide, rfl, by decide⟩

theorem getAllKeysWithValue_exact_date :
    ((ofFiles (lit "t") 2 0).getAllKeysWithValue 1 (lit "2/1")).run
        (writeFile [lit "t.csv"] (rowsText (lit "output;date;") twoRows) emptyWorld) =
      .ok [lit "b"] (writeFile [lit "t.csv"] (rowsText (lit "output;date;") twoRows) emptyWorld) :=
  (getAllKeysWithValue_exact holdsRows_twoRows (by decide) (by decide) (lit "2/1")).2.2 (by decide)
    (by decide)

/-- No date is empty, and yet the empty date selects every row. -/
theorem not_getAllKeysWithValue_exact :
    ¬ ∀ (n : Nat) (csv : Csv) (w : World) (loc : List Str) (header : Str) (rows : List (Row n)),
      csv.HoldsRows w loc header rows → (∀ r ∈ rows, r.cell csv.keyColumnNumber ≠ []) →
      ∀ c < n, ∀ value, (csv.getAllKeysWithValue c value).run w =
        .ok (csv.keysOfCell rows c value) w := by
  intro h
  have hnone := h 2 _ _ _ _ _ holdsRows_twoRows (by decide) 1 (by decide) []
  rw [holdsRows_twoRows.getAllKeysWithValue_run (show 1 < 2 by decide) []] at hnone
  exact absurd (EStateM.Result.ok.inj hnone).1 (by decide)

end Csv
end SnapDesk
