import Mathlib.Data.List.Basic
import SnapDesk.Communicator

/-! # Storage files

`csv.cpp`.  A storage file is a text of lines, the first of which is a header;
every line holds cells, each closed by a semicolon.  A second file next to it
tells the number of columns and which of them is the key.

Every operation finds its rows by cutting the text again.  The file of a table,
a header and rows of the same width whose cells contain neither a semicolon nor
a newline, is cut into that table (`getAllKeysWithValue_run`), with one exception:
an empty cell is read as the whole rest of its line (`Row.read`). -/
namespace SnapDesk
open Delimited FileTree

/-- `HEADER_SIZE`. -/
def headerSize : Nat := 1

/-- `DELIMITER`. -/
def delimiter : UInt8 := 59

/-- `DATA_EXTENTION`. -/
def dataExtention : Str := lit ".csv"

/-- `METADATA_EXTENTION`. -/
def metadataExtention : Str := lit ".metadata"

/-- `KEY_LINE_NUMBER`. -/
def keyLineNumber : Nat := 0

/-- `COLUMN_NUMBER_LINE_NUMBER`. -/
def columnNumberLineNumber : Nat := 1

/-- The `size_t` that is `-1`. -/
def npos : Nat := 2 ^ 64 - 1

/-- The conversion of a `size_t` to a 32-bit `int`. -/
def toInt (n : Nat) : Int :=
  if n % 2 ^ 32 < 2 ^ 31 then (n % 2 ^ 32 : Nat) else (n % 2 ^ 32 : Nat) - 2 ^ 32

/-- `std::to_string` of an `int`. -/
def decimalInt (i : Int) : Str := if i < 0 then 45 :: decimal i.natAbs else decimal i.natAbs

/-- `Csv`, its two communicators by the names of their files. -/
structure Csv where
  numberOfColumns : Nat
  keyColumnNumber : Nat
  metadata : Str
  data : Str
  deriving DecidableEq, Repr

namespace Csv

def valuesToLine (values : List Str) : Str := terminate delimiter values

/-- The line is cut at its next delimiter unless that is its first character. -/
def getCellFromRow (row : Str) (columnNumber : Nat) : Str :=
  let cell := (afterFirst delimiter)^[columnNumber] row
  -- The position that is found is the condition, and it may be 0
  if cell.head? = some delimiter then cell else firstField delimiter cell

/-- The loop of `_get_column_position_from_header`, at column `i` with `count`
columns to go. -/
def columnFrom (columnName : Str) : Nat → Nat → Str → Nat
  | 0, _, _ => npos
  | count + 1, i, line =>
      if firstField delimiter line = columnName then i
      else columnFrom columnName count (i + 1) (afterFirst delimiter line)

def getColumnPositionFromHeader (csv : Csv) (header columnName : Str) : Nat :=
  columnFrom columnName csv.numberOfColumns 0 header

/-- `Csv::Csv`, on files that exist. -/
def new (fileName : Str) : Action Csv := do
  let data := fileName ++ dataExtention
  let metadata := fileName ++ metadataExtention
  if !(← Communicator.exist data) then
    throw (.invalidArgument (lit "The file " ++ data ++ lit " does not exist"))
  else if !(← Communicator.exist metadata) then
    throw (.invalidArgument (lit "The file " ++ metadata ++ lit " does not exist"))
  else do
    let numberOfColumns ← scanSize (← Communicator.getLine metadata columnNumberLineNumber)
    let keyColumnNumber ← scanSize (← Communicator.getLine metadata keyLineNumber)
    return ⟨numberOfColumns, keyColumnNumber, metadata, data⟩

def create (fileName : Str) (columnNames : List Str) (keyColumnNumber : Nat) : Action Csv := do
  Communicator.newFile (fileName ++ dataExtention)
  Communicator.addLine (fileName ++ dataExtention) (valuesToLine columnNames)
  Communicator.newFile (fileName ++ metadataExtention)
  Communicator.addLine (fileName ++ metadataExtention) (decimal keyColumnNumber)
  Communicator.addLine (fileName ++ metadataExtention) (decimal columnNames.length)
  new fileName

def testValuesSize (csv : Csv) (values : List Str) : Except Failure Unit :=
  if values.length ≠ csv.numberOfColumns then
    .error (.invalidArgument (lit "The size of row (" ++ decimal values.length ++
      lit ") is not equal to the number of column (" ++ decimal csv.numberOfColumns ++ lit ")"))
  else .ok ()

/-- The check of a column number. -/
def testColumnNumber (csv : Csv) (columnNumber : Nat) : Except Failure Unit :=
  if csv.numberOfColumns ≤ columnNumber then
    .error (.invalidArgument (lit "Column number " ++ decimal columnNumber ++
      lit " greater that the number of columns " ++ decimal csv.numberOfColumns))
  else .ok ()

/-- `values[_key_column_number]`. -/
def keyValue (csv : Csv) (values : List Str) : Except Failure Str :=
  match values[csv.keyColumnNumber]? with
  | some value => .ok value
  | none => .error .undefinedBehaviour

/-- The loop of `get_all_keys_with_value`, from line `i` on. -/
def keysFrom (csv : Csv) (columnNumber : Nat) (value : Str) : Nat → Nat → Action (List Str)
  | 0, _ => throw .unfinished
  | rounds + 1, i => do
      let line ← Communicator.getLine csv.data i
      if line = [] then return []
      else do
        let keys ← keysFrom csv columnNumber value rounds (i + 1)
        -- No value asks for every row
        if value = [] ∨ getCellFromRow line columnNumber = value then
          return getCellFromRow line csv.keyColumnNumber :: keys
        else return keys

/-- A round of the loop takes a line of the file. -/
def getAllKeysWithValue (csv : Csv) (columnNumber : Nat) (value : Str) : Action (List Str) := do
  testColumnNumber csv columnNumber
  let w ← get
  keysFrom csv columnNumber value (((openText w csv.data).getD []).length + 1) headerSize

def getAllKeys (csv : Csv) : Action (List Str) := csv.getAllKeysWithValue 0 []

def getKeyPosition (csv : Csv) (keyValue : Str) : Action Nat := do
  let keys ← csv.getAllKeys
  return (keys.idxOf? keyValue).getD npos

def keyExists (key : Str) : Failure :=
  .invalidArgument (lit "The key " ++ key ++ lit " does already exist")

def pushRow (csv : Csv) (values : List Str) : Action Unit := do
  csv.testValuesSize values
  let key ← csv.keyValue values
  if (← csv.getKeyPosition key) ≠ npos then throw (keyExists key)
  else Communicator.addLine csv.data (valuesToLine values)

def replaceRow (csv : Csv) (rowNumber : Nat) (values : List Str) : Action Unit := do
  csv.testValuesSize values
  let key ← csv.keyValue values
  let keyPosition ← csv.getKeyPosition key
  -- A key that is not stored goes to any row
  if ¬ (keyPosition = rowNumber ∨ keyPosition = npos) then throw (keyExists key)
  else Communicator.replaceLine csv.data (add64 rowNumber headerSize) (valuesToLine values)

/-- The row number is checked as an `int`, whose addition may overflow. -/
def testRowNumber (rowNumber : Nat) : Except Failure Unit :=
  if toInt rowNumber = 2 ^ 31 - 1 then .error .undefinedBehaviour
  else if toInt rowNumber + headerSize < headerSize then
    .error (.invalidArgument (lit "Row number " ++ decimalInt (toInt rowNumber) ++
      lit " smaller that the minimal value " ++ decimal headerSize))
  else .ok ()

def getCell (csv : Csv) (rowNumber columnNumber : Nat) : Action Str := do
  csv.testColumnNumber columnNumber
  testRowNumber rowNumber
  let line ← Communicator.getLine csv.data (add64 rowNumber headerSize)
  return getCellFromRow line columnNumber

def getRowNumber (csv : Csv) (keyValue : Str) : Action Nat := csv.getKeyPosition keyValue

def getColumnNumber (csv : Csv) (columnName : Str) : Action Nat := do
  let header ← Communicator.getLine csv.data 0
  return csv.getColumnPositionFromHeader header columnName

end Csv

/-- The rows of a data file: its lines behind the header. -/
def fileRows (w : World) (loc : List Str) : List Str := (fields newline (contentAt w loc)).tail

/-- A file that is left alone has the same rows. -/
theorem fileRows_of_fs {w w' : World} {loc : List Str} (h : w'.fs loc = w.fs loc) :
    fileRows w' loc = fileRows w loc := by
  rw [fileRows, contentAt, h]
  rfl

theorem fileRows_of_file {w : World} {loc : List Str} {content : Str}
    (h : w.fs loc = some (.file content)) : fileRows w loc = (fields newline content).tail := by
  rw [fileRows, contentAt, h]

/-! ### Tables -/

/-- Values without newlines make a line. -/
theorem newline_notMem_valuesToLine {values : List Str} (h : ∀ value ∈ values, newline ∉ value) :
    newline ∉ Csv.valuesToLine values := by
  intro hline
  obtain ⟨value, hvalue, hmem⟩ := List.mem_flatMap.mp hline
  rcases List.mem_append.mp hmem with hmem | hmem
  · exact h value hvalue hmem
  · exact absurd (List.mem_singleton.mp hmem) (by decide)

/-- The cells of a line: as many as there are columns, and each of them text
that the delimiters of cells and lines do not break. -/
structure Row (n : Nat) where
  cells : List Str
  length_eq : cells.length = n
  plain : ∀ cell ∈ cells, delimiter ∉ cell ∧ newline ∉ cell
  deriving DecidableEq

namespace Row
variable {n : Nat}

def line (r : Row n) : Str := Csv.valuesToLine r.cells

def cell (r : Row n) (c : Nat) : Str := (r.cells[c]?).getD []

/-- What `get_cell_from_row` makes of the row: an empty cell is not cut off. -/
def read (r : Row n) (c : Nat) : Str :=
  if r.cell c = [] then Csv.valuesToLine (r.cells.drop c) else r.cell c

theorem read_of_ne {r : Row n} {c : Nat} (h : r.cell c ≠ []) : r.read c = r.cell c := if_neg h

theorem newline_notMem_line (r : Row n) : newline ∉ r.line :=
  newline_notMem_valuesToLine fun cell hcell => (r.plain cell hcell).2

theorem line_ne_nil (r : Row n) (hn : 0 < n) : r.line ≠ [] := by
  have hlen : n ≤ r.line.length := by
    have hcells : r.cells.length ≤ r.line.length := length_le_terminate delimiter r.cells
    rwa [r.length_eq] at hcells
  exact List.length_pos_iff.mp (Nat.lt_of_lt_of_le hn hlen)

theorem getCellFromRow_line (r : Row n) {c : Nat} (hc : c < n) :
    Csv.getCellFromRow r.line c = r.read c := by
  have hplain : ∀ cell ∈ r.cells, delimiter ∉ cell := fun cell h => (r.plain cell h).1
  have hlt : c < r.cells.length := r.length_eq.symm ▸ hc
  have hcell : r.cell c = r.cells.get ⟨c, hlt⟩ := by simp [cell, hlt]
  have hmem : delimiter ∉ r.cell c := hcell ▸ hplain _ (List.get_mem ..)
  have hrest : r.cells.drop c = r.cell c :: r.cells.drop (c + 1) := by
    rw [hcell]
    exact List.drop_eq_getElem_cons hlt
  rw [Csv.getCellFromRow, line, Csv.valuesToLine,
    iterate_afterFirst_terminate delimiter hplain (Nat.le_of_lt hlt), read, Csv.valuesToLine, hrest,
    terminate_cons]
  by_cases hempty : r.cell c = []
  · simp [hempty]
  · obtain ⟨x, cell, hx⟩ := List.exists_cons_of_ne_nil hempty
    have hhead : x ≠ delimiter := fun he => hmem (by rw [hx, he]; exact List.mem_cons_self)
    rw [if_neg hempty, if_neg (by simp [hx, hhead]), firstField_append_sep delimiter hmem]

end Row

/-- A header and rows. -/
structure Table (n : Nat) where
  header : Row n
  rows : List (Row n)

namespace Table
variable {n : Nat}

def lines (t : Table n) : List Str := (t.header :: t.rows).map Row.line

/-- The content of the data file. -/
def text (t : Table n) : Str := terminate newline t.lines

/-- The table with one more row. -/
def push (t : Table n) (r : Row n) : Table n := { t with rows := t.rows ++ [r] }

/-- The table with another row in place of one. -/
def replace (t : Table n) (i : Nat) (r : Row n) : Table n := { t with rows := t.rows.set i r }

/-- The keys of the rows, as they are read. -/
def keys (t : Table n) (key : Nat) : List Str := t.rows.map (Row.read · key)

theorem newline_notMem_lines (t : Table n) : ∀ l ∈ t.lines, newline ∉ l := by
  intro l hl
  obtain ⟨r, -, rfl⟩ := List.mem_map.mp hl
  exact r.newline_notMem_line

theorem lineAt_text (t : Table n) (i : Nat) : lineAt t.text i = (t.lines[i]?).getD [] :=
  lineAt_terminate t.newline_notMem_lines i

theorem text_push (t : Table n) (r : Row n) : (t.push r).text = t.text ++ r.line ++ [newline] := by
  have hlines : (t.push r).lines = t.lines ++ [r.line] := by simp [lines, push]
  rw [text, hlines, terminate_append, ← text]
  simp

theorem replaceText_text (t : Table n) {i : Nat} (hi : i < t.rows.length) (r : Row n) :
    replaceText t.text (i + 1) r.line = (t.replace i r).text := by
  have hlen : i + 1 < t.lines.length := by simpa [lines] using hi
  rw [text, replaceText_terminate t.newline_notMem_lines hlen, text]
  simp [lines, replace, List.map_set]

end Table

namespace Csv

/-- In this world the files of the object hold this table. -/
structure Holds {n : Nat} (csv : Csv) (w : World) (loc : List Str) (t : Table n) : Prop where
  file : HasFile w csv.data loc t.text
  columns : csv.numberOfColumns = n
  key : csv.keyColumnNumber < n

/-- In this world the data file holds rows behind a header, whatever that is. -/
structure HoldsRows {n : Nat} (csv : Csv) (w : World) (loc : List Str) (header : Str)
    (rows : List (Row n)) : Prop where
  file : HasFile w csv.data loc (terminate newline (header :: rows.map Row.line))
  plain : newline ∉ header
  columns : csv.numberOfColumns = n
  key : csv.keyColumnNumber < n

/-- The keys of the rows whose cell has the value, all rows if there is none. -/
def keysWith {n : Nat} (csv : Csv) (rows : List (Row n)) (columnNumber : Nat) (value : Str) :
    List Str :=
  (rows.filter fun r => value = [] ∨ r.read columnNumber = value).map (Row.read · csv.keyColumnNumber)

/-- What the selection makes of lines: the first empty one is their end. -/
def keysIn (csv : Csv) (columnNumber : Nat) (value : Str) (lines : List Str) : List Str :=
  ((lines.takeWhile (· ≠ [])).filter fun line => value = [] ∨ getCellFromRow line columnNumber = value).map
    (getCellFromRow · csv.keyColumnNumber)

theorem keysIn_cons (csv : Csv) (c : Nat) (value : Str) {line : Str} (hline : line ≠ [])
    (lines : List Str) :
    csv.keysIn c value (line :: lines) =
      if value = [] ∨ getCellFromRow line c = value then
        getCellFromRow line csv.keyColumnNumber :: csv.keysIn c value lines
      else csv.keysIn c value lines := by
  have hfirst : decide (line ≠ []) = true := decide_eq_true hline
  rw [keysIn, keysIn, List.takeWhile_cons, if_pos hfirst, List.filter_cons]
  by_cases hv : value = [] ∨ getCellFromRow line c = value
  · rw [if_pos (decide_eq_true hv), if_pos hv, List.map_cons]
  · rw [if_neg (by simpa using hv), if_neg hv]

theorem length_keysIn_le (csv : Csv) (c : Nat) (value : Str) (lines : List Str) :
    (csv.keysIn c value lines).length ≤ lines.length := by
  rw [keysIn, List.length_map]
  exact (List.length_filter_le _ _).trans (List.takeWhile_prefix _).length_le

/-- The lines of rows are read as the rows. -/
theorem keysIn_rows {n : Nat} {csv : Csv} (hkey : csv.keyColumnNumber < n) (rows : List (Row n))
    {c : Nat} (hc : c < n) (value : Str) :
    csv.keysIn c value (rows.map Row.line) = csv.keysWith rows c value := by
  have hlines : (rows.map Row.line).takeWhile (· ≠ []) = rows.map Row.line := by
    refine List.takeWhile_eq_self_iff.mpr fun line hline => ?_
    obtain ⟨r, -, rfl⟩ := List.mem_map.mp hline
    exact decide_eq_true (r.line_ne_nil (Nat.zero_lt_of_lt hc))
  rw [keysIn, hlines, List.filter_map, List.map_map, keysWith]
  congr 1
  · funext r
    exact r.getCellFromRow_line hkey
  · refine List.filter_congr fun r _ => ?_
    rw [Function.comp_apply, r.getCellFromRow_line hc]

/-- A position is -1 if and only if there is none, as long as no list is longer than that. -/
theorem position_eq_npos_iff {keys : List Str} (hlen : keys.length ≤ npos) {key : Str} :
    (keys.idxOf? key).getD npos = npos ↔ key ∉ keys := by
  constructor
  · intro hposition hmem
    obtain ⟨i, hi⟩ := Option.ne_none_iff_exists'.mp (mt List.idxOf?_eq_none_iff.mp (not_not_intro hmem))
    obtain ⟨hlt, -⟩ := List.idxOf?_eq_some_iff.mp hi
    rw [hi, Option.getD_some] at hposition
    omega
  · intro hkey
    rw [List.idxOf?_eq_none_iff.mpr hkey]
    rfl

section
variable {csv : Csv} {w : World} {values : List Str} {key : Str} {position : Nat}

/-- What `push_row` does once the key has been looked up. -/
theorem pushRow_run_of_position (hvalues : csv.testValuesSize values = .ok ())
    (hkey : csv.keyValue values = .ok key)
    (hposition : (csv.getKeyPosition key).run w = .ok position w) :
    (csv.pushRow values).run w =
      (if position ≠ npos then throw (keyExists key)
        else Communicator.addLine csv.data (valuesToLine values) : Action Unit).run w := by
  rw [pushRow, hvalues, Method.run_bind_ok (Method.run_lift_ok () w), hkey,
    Method.run_bind_ok (Method.run_lift_ok _ w), Method.run_bind_ok hposition]

/-- What `replace_row` does once the key has been looked up. -/
theorem replaceRow_run_of_position (hvalues : csv.testValuesSize values = .ok ())
    (hkey : csv.keyValue values = .ok key)
    (hposition : (csv.getKeyPosition key).run w = .ok position w) (rowNumber : Nat) :
    (csv.replaceRow rowNumber values).run w =
      (if ¬ (position = rowNumber ∨ position = npos) then throw (keyExists key)
        else Communicator.replaceLine csv.data (add64 rowNumber headerSize) (valuesToLine values) :
          Action Unit).run w := by
  rw [replaceRow, hvalues, Method.run_bind_ok (Method.run_lift_ok () w), hkey,
    Method.run_bind_ok (Method.run_lift_ok _ w), Method.run_bind_ok hposition]

end

section
variable {csv : Csv} {w : World} {content : Str}

/-- The loop, from a line on, reads the lines that are left. -/
theorem keysFrom_run (h : openText w csv.data = some content) (c : Nat) (value : Str)
    (lines : List Str) {rounds i : Nat} (hlines : (fields newline content).drop i = lines)
    (hrounds : lines.length < rounds) :
    (csv.keysFrom c value rounds i).run w = .ok (csv.keysIn c value lines) w := by
  induction lines generalizing rounds i with
  | nil =>
    obtain ⟨rounds, rfl⟩ := Nat.exists_eq_add_one_of_ne_zero (Nat.ne_of_gt hrounds)
    rw [keysFrom, Method.run_bind_ok (Communicator.getLine_run_of_open h i),
      lineAt_of_drop_nil hlines, if_pos rfl]
    rfl
  | cons line lines ih =>
    obtain ⟨rounds, rfl⟩ := Nat.exists_eq_add_one_of_ne_zero (n := rounds) (by omega)
    obtain ⟨hline, hnext⟩ := lineAt_of_drop hlines
    rw [keysFrom, Method.run_bind_ok (Communicator.getLine_run_of_open h i), hline]
    by_cases hempty : line = []
    · rw [if_pos hempty, hempty]
      rfl
    · have hkeys := ih hnext (by simpa using hrounds)
      rw [if_neg hempty, Method.run_bind_ok hkeys, keysIn_cons csv c value hempty]
      by_cases hv : value = [] ∨ getCellFromRow line c = value
      · rw [if_pos hv, if_pos hv]
        rfl
      · rw [if_neg hv, if_neg hv]
        rfl

/-- **Selection reads the lines behind the header.** -/
theorem getAllKeysWithValue_run_of_open (h : openText w csv.data = some content) {c : Nat}
    (hc : c < csv.numberOfColumns) (value : Str) :
    (csv.getAllKeysWithValue c value).run w =
      .ok (csv.keysIn c value (fields newline content).tail) w := by
  have hcolumn : csv.testColumnNumber c = .ok () := if_neg (by omega)
  have hlen : (fields newline content).tail.length < content.length + 1 := by
    have hfields := length_fields_le newline content
    rw [List.length_tail]
    omega
  rw [getAllKeysWithValue, hcolumn, Method.run_bind_ok (Method.run_lift_ok () w),
    Method.run_bind_ok (Method.run_get w), h, Option.getD_some, headerSize,
    keysFrom_run h c value _ List.drop_one hlen]

/-- The keys that a file stores. -/
def storedKeys (csv : Csv) (content : Str) : List Str := csv.keysIn 0 [] (fields newline content).tail

theorem length_storedKeys_le (csv : Csv) (content : Str) :
    (csv.storedKeys content).length ≤ content.length := by
  have hfields := length_fields_le newline content
  have hkeys := length_keysIn_le csv 0 [] (fields newline content).tail
  rw [List.length_tail] at hkeys
  rw [storedKeys]
  omega

theorem getAllKeys_run_of_open (h : openText w csv.data = some content)
    (hcolumns : 0 < csv.numberOfColumns) :
    csv.getAllKeys.run w = .ok (csv.storedKeys content) w :=
  getAllKeysWithValue_run_of_open h hcolumns []

theorem getKeyPosition_run_of_open (h : openText w csv.data = some content)
    (hcolumns : 0 < csv.numberOfColumns) (key : Str) :
    (csv.getKeyPosition key).run w =
      .ok (((csv.storedKeys content).idxOf? key).getD npos) w := by
  rw [getKeyPosition, Method.run_bind_ok (getAllKeys_run_of_open h hcolumns)]
  rfl

end

namespace HoldsRows
variable {n : Nat} {csv : Csv} {w : World} {loc : List Str} {header : Str} {rows : List (Row n)}

theorem testColumnNumber (h : csv.HoldsRows w loc header rows) {c : Nat} (hc : c < n) :
    csv.testColumnNumber c = .ok () :=
  if_neg (by rw [h.columns]; omega)

theorem testValuesSize (h : csv.HoldsRows w loc header rows) (r : Row n) :
    csv.testValuesSize r.cells = .ok () :=
  if_neg (by rw [h.columns, r.length_eq]; exact not_not_intro rfl)

theorem keyValue (h : csv.HoldsRows w loc header rows) (r : Row n) :
    csv.keyValue r.cells = .ok (r.cell csv.keyColumnNumber) := by
  have hlt : csv.keyColumnNumber < r.cells.length := r.length_eq.symm ▸ h.key
  simp [Csv.keyValue, Row.cell, hlt]

theorem newline_notMem_lines (h : csv.HoldsRows w loc header rows) :
    ∀ l ∈ header :: rows.map Row.line, newline ∉ l := by
  intro l hl
  rcases List.mem_cons.mp hl with rfl | hl
  · exact h.plain
  · obtain ⟨r, -, rfl⟩ := List.mem_map.mp hl
    exact r.newline_notMem_line

theorem lineAt_text (h : csv.HoldsRows w loc header rows) (i : Nat) :
    lineAt (terminate newline (header :: rows.map Row.line)) i =
      ((header :: rows.map Row.line)[i]?).getD [] :=
  lineAt_terminate h.newline_notMem_lines i

theorem getLine_run (h : csv.HoldsRows w loc header rows) (i : Nat) :
    (Communicator.getLine csv.data i).run w =
      .ok (((header :: rows.map Row.line)[i]?).getD []) w := by
  rw [Communicator.getLine_run h.file, h.lineAt_text]

/-- **Selection cuts the text into the rows.** -/
theorem getAllKeysWithValue_run (h : csv.HoldsRows w loc header rows) {c : Nat} (hc : c < n)
    (value : Str) :
    (csv.getAllKeysWithValue c value).run w = .ok (csv.keysWith rows c value) w := by
  rw [getAllKeysWithValue_run_of_open h.file.openText (h.columns ▸ hc),
    fields_terminate newline h.newline_notMem_lines, List.tail_cons, keysIn_rows h.key rows hc]

theorem getAllKeys_run (h : csv.HoldsRows w loc header rows) :
    csv.getAllKeys.run w = .ok (rows.map (Row.read · csv.keyColumnNumber)) w := by
  have hall : csv.keysWith rows 0 [] = rows.map (Row.read · csv.keyColumnNumber) := by
    rw [keysWith, List.filter_eq_self.mpr (by simp)]
  rw [getAllKeys, h.getAllKeysWithValue_run (Nat.zero_lt_of_lt h.key), hall]

theorem getKeyPosition_run (h : csv.HoldsRows w loc header rows) (key : Str) :
    (csv.getKeyPosition key).run w =
      .ok (((rows.map (Row.read · csv.keyColumnNumber)).idxOf? key).getD npos) w := by
  rw [getKeyPosition, Method.run_bind_ok h.getAllKeys_run]
  rfl

end HoldsRows

section
variable {n : Nat} {csv : Csv} {w : World} {loc : List Str} {t : Table n}

theorem Holds.holdsRows (h : csv.Holds w loc t) : csv.HoldsRows w loc t.header.line t.rows :=
  ⟨h.file, t.header.newline_notMem_line, h.columns, h.key⟩

/-- The object holds whatever table its data file holds. -/
theorem Holds.writeFile (h : csv.Holds w loc t) (t' : Table n) :
    csv.Holds (writeFile loc t'.text w) loc t' :=
  ⟨h.file.writeFile t'.text, h.columns, h.key⟩

theorem Holds.testColumnNumber (h : csv.Holds w loc t) {c : Nat} (hc : c < n) :
    csv.testColumnNumber c = .ok () :=
  h.holdsRows.testColumnNumber hc

theorem Holds.getLine_run (h : csv.Holds w loc t) (i : Nat) :
    (Communicator.getLine csv.data i).run w = .ok ((t.lines[i]?).getD []) w :=
  h.holdsRows.getLine_run i

theorem getAllKeysWithValue_run (h : csv.Holds w loc t) {c : Nat} (hc : c < n) (value : Str) :
    (csv.getAllKeysWithValue c value).run w = .ok (csv.keysWith t.rows c value) w :=
  h.holdsRows.getAllKeysWithValue_run hc value

theorem getKeyPosition_run (h : csv.Holds w loc t) (key : Str) :
    (csv.getKeyPosition key).run w =
      .ok (((t.keys csv.keyColumnNumber).idxOf? key).getD npos) w :=
  h.holdsRows.getKeyPosition_run key

/-- A row whose key is new is added at the end. -/
theorem pushRow_run (h : csv.Holds w loc t) {r : Row n}
    (hkey : r.cell csv.keyColumnNumber ∉ t.keys csv.keyColumnNumber) :
    (csv.pushRow r.cells).run w = .ok () (writeFile loc (t.push r).text w) := by
  have hposition : ((t.keys csv.keyColumnNumber).idxOf? (r.cell csv.keyColumnNumber)).getD npos =
      npos := by
    rw [List.idxOf?_eq_none_iff.mpr hkey]
    rfl
  rw [pushRow_run_of_position (h.holdsRows.testValuesSize r) (h.holdsRows.keyValue r) (getKeyPosition_run h _),
    hposition, if_neg (not_not_intro rfl), Communicator.addLine_run h.file, t.text_push]
  rfl

/-- A row may be replaced by one with the same key. -/
theorem replaceRow_run (h : csv.Holds w loc t) {r : Row n} {i : Nat}
    (hkey : (t.keys csv.keyColumnNumber).idxOf? (r.cell csv.keyColumnNumber) = some i)
    (hi : i + 1 < 2 ^ 64) :
    (csv.replaceRow i r.cells).run w = .ok () (writeFile loc (t.replace i r).text w) := by
  have hlt : i < t.rows.length := by
    have := List.idxOf?_eq_some_iff.mp hkey
    obtain ⟨hlt, -⟩ := this
    simpa [Table.keys] using hlt
  have hline : (t.lines[i + 1]?).getD [] ≠ [] := by
    rw [Table.lines, List.map_cons, List.getElem?_cons_succ, List.getElem?_map,
      List.getElem?_eq_getElem hlt]
    exact Row.line_ne_nil _ (Nat.zero_lt_of_lt h.key)
  rw [replaceRow_run_of_position (h.holdsRows.testValuesSize r) (h.holdsRows.keyValue r) (getKeyPosition_run h _),
    hkey, Option.getD_some, if_neg (not_not_intro (Or.inl rfl)), headerSize, add64_eq hi,
    Communicator.replaceLine_run h.file (by rwa [t.lineAt_text]), ← t.replaceText_text hlt]
  rfl

/-- The row numbers that `get_cell` lets through. -/
def RowReadable (i : Nat) : Prop := i + 1 < 2 ^ 64 ∧ i % 2 ^ 32 < 2 ^ 31 - 1

theorem testRowNumber_eq_ok {i : Nat} (h : i % 2 ^ 32 < 2 ^ 31 - 1) : testRowNumber i = .ok () := by
  have hint : toInt i = (i % 2 ^ 32 : Nat) := if_pos (by omega)
  rw [testRowNumber, hint, headerSize, if_neg (by omega), if_neg (by omega)]

theorem testRowNumber_eq_error {i : Nat} (h : toInt i < 0) :
    ∃ what, testRowNumber i = .error (.invalidArgument what) := by
  rw [testRowNumber, headerSize, if_neg (by omega), if_pos (by omega)]
  exact ⟨_, rfl⟩

theorem getCell_run (h : csv.Holds w loc t) {i c : Nat} {r : Row n} (hc : c < n)
    (hi : RowReadable i) (hr : t.rows[i]? = some r) :
    (csv.getCell i c).run w = .ok (r.read c) w := by
  have hline : (t.lines[i + 1]?).getD [] = r.line := by
    rw [Table.lines, List.map_cons, List.getElem?_cons_succ, List.getElem?_map, hr]
    rfl
  rw [getCell, h.testColumnNumber hc, Method.run_bind_ok (Method.run_lift_ok () w),
    testRowNumber_eq_ok hi.2, Method.run_bind_ok (Method.run_lift_ok () w), headerSize,
    add64_eq hi.1, Method.run_bind_ok (h.getLine_run (i + 1)), hline, r.getCellFromRow_line hc]
  rfl

/-- The name is looked for from column `i` on. -/
theorem columnFrom_terminate {names : List Str} (hnames : ∀ name ∈ names, delimiter ∉ name)
    (columnName : Str) (i : Nat) :
    columnFrom columnName names.length i (terminate delimiter names) =
      ((names.idxOf? columnName).map (i + ·)).getD npos := by
  induction names generalizing i with
  | nil => rfl
  | cons name names ih =>
    have hname : delimiter ∉ name := hnames name List.mem_cons_self
    rw [List.length_cons, terminate_cons, columnFrom, firstField_append_sep delimiter hname,
      afterFirst_append_sep delimiter hname,
        ih (fun g hg => hnames g (List.mem_cons_of_mem name hg)),
      List.idxOf?_cons]
    by_cases he : name = columnName
    · simp [he]
    · rw [if_neg he, if_neg (by simpa using he), Option.map_map]
      congr 2
      funext k
      simp only [Function.comp_apply]
      omega

theorem getColumnNumber_run (h : csv.Holds w loc t) (columnName : Str) :
    (csv.getColumnNumber columnName).run w =
      .ok ((t.header.cells.idxOf? columnName).getD npos) w := by
  have hposition : csv.getColumnPositionFromHeader t.header.line columnName =
      (t.header.cells.idxOf? columnName).getD npos := by
    have hcolumns : csv.numberOfColumns = t.header.cells.length :=
      h.columns.trans t.header.length_eq.symm
    rw [getColumnPositionFromHeader, hcolumns, Row.line, valuesToLine,
      columnFrom_terminate (fun cell hcell => (t.header.plain cell hcell).1)]
    simp
  rw [getColumnNumber, Method.run_bind_ok (h.getLine_run 0), ← hposition]
  rfl

end

/-! ### Making and opening the files -/

/-- The content of the metadata file. -/
def metadataText (keyColumnNumber numberOfColumns : Nat) : Str :=
  terminate newline [decimal keyColumnNumber, decimal numberOfColumns]

theorem newline_notMem_decimal (n : Nat) : newline ∉ decimal n := fun hmem =>
  decimal_forall (P := (· ≠ newline)) (by decide) n newline hmem rfl

theorem lineAt_metadataText (keyColumnNumber numberOfColumns i : Nat) :
    lineAt (metadataText keyColumnNumber numberOfColumns) i =
      ([decimal keyColumnNumber, decimal numberOfColumns][i]?).getD [] := by
  refine lineAt_terminate (fun l hl => ?_) i
  rcases List.mem_pair.mp hl with rfl | rfl <;> exact newline_notMem_decimal _

/-- The object on the files of that name. -/
def ofFiles (fileName : Str) (numberOfColumns keyColumnNumber : Nat) : Csv :=
  ⟨numberOfColumns, keyColumnNumber, fileName ++ metadataExtention, fileName ++ dataExtention⟩

section
variable {w : World} {fileName : Str} {loc mloc : List Str} {n key : Nat}

/-- The files of a table: the data lie in one, the numbers of columns in another. -/
structure Stored (w : World) (fileName : Str) (loc mloc : List Str) (key : Nat) (t : Table n) :
    Prop where
  data : HasFile w (fileName ++ dataExtention) loc t.text
  metadata : HasFile w (fileName ++ metadataExtention) mloc (metadataText key n)

/-- The object of two files, whatever the data. -/
theorem new_run_of_files {content : Str} (hdata : HasFile w (fileName ++ dataExtention) loc content)
    (hmetadata : HasFile w (fileName ++ metadataExtention) mloc (metadataText key n)) :
    (new fileName).run w =
      .ok (ofFiles fileName (min n (2 ^ 64 - 1)) (min key (2 ^ 64 - 1))) w := by
  have hexist {path : Str} {loc : List Str} {content : Str} (h : HasFile w path loc content) :
      (Communicator.exist path).run w = .ok true w := by
    rw [Communicator.exist_run, h.openText]
    rfl
  have hline (i : Nat) :
      (Communicator.getLine (fileName ++ metadataExtention) i).run w =
        .ok (([decimal key, decimal n][i]?).getD []) w := by
    rw [Communicator.getLine_run hmetadata, lineAt_metadataText]
  rw [new, Method.run_bind_ok (hexist hdata), Bool.not_true, if_neg Bool.false_ne_true,
    Method.run_bind_ok (hexist hmetadata), Bool.not_true, if_neg Bool.false_ne_true,
    Method.run_bind_ok (hline columnNumberLineNumber)]
  simp only [columnNumberLineNumber, keyLineNumber, List.getElem?_cons_succ,
    List.getElem?_cons_zero, Option.getD_some, scanSize_decimal_min]
  rw [Method.run_bind_ok (Method.run_lift_ok _ w), Method.run_bind_ok (hline 0)]
  simp only [List.getElem?_cons_zero, Option.getD_some, scanSize_decimal_min]
  rw [Method.run_bind_ok (Method.run_lift_ok _ w)]
  rfl

theorem new_run {t : Table n} (h : Stored w fileName loc mloc key t) (hkey : key < n)
    (hn : n < 2 ^ 64) : (new fileName).run w = .ok (ofFiles fileName n key) w := by
  rw [new_run_of_files h.data h.metadata, Nat.min_eq_left (by omega), Nat.min_eq_left (by omega)]

/-- The world once the files of a new table are made. -/
def created (loc mloc : List Str) (columnNames : List Str) (keyColumnNumber : Nat) (w : World) : World :=
  writeFile mloc (metadataText keyColumnNumber columnNames.length)
    (writeFile loc (terminate newline [valuesToLine columnNames]) w)

/-- Both files lie where they were made. -/
theorem hasFile_created (hdata : locate w (fileName ++ dataExtention) = some loc)
    (hmetadata : locate w (fileName ++ metadataExtention) = some mloc)
    (hloc : isFolder w.fs loc = false) (hmloc : isFolder w.fs mloc = false) (hne : loc ≠ mloc)
    (columnNames : List Str) (key : Nat) :
    HasFile (created loc mloc columnNames key w) (fileName ++ dataExtention) loc
        (terminate newline [valuesToLine columnNames]) ∧
      HasFile (created loc mloc columnNames key w) (fileName ++ metadataExtention) mloc
        (metadataText key columnNames.length) := by
  have hother := located_writeFile hloc hmetadata hmloc (terminate newline [valuesToLine columnNames])
  refine ⟨.writeFile_of_ne ⟨(locate_writeFile hloc _ _).trans hdata, put_self ..⟩ hother.2 hne _, ?_⟩
  exact ⟨(locate_writeFile hother.2 _ _).trans hother.1, put_self ..⟩

/-- Two files are made where none or other files were. -/
theorem create_run_of_names (hdata : locate w (fileName ++ dataExtention) = some loc)
    (hmetadata : locate w (fileName ++ metadataExtention) = some mloc)
    (hloc : isFolder w.fs loc = false) (hmloc : isFolder w.fs mloc = false) (hne : loc ≠ mloc)
    (columnNames : List Str) (key : Nat) :
    (create fileName columnNames key).run w =
      .ok (ofFiles fileName (min columnNames.length (2 ^ 64 - 1)) (min key (2 ^ 64 - 1)))
        (created loc mloc columnNames key w) := by
  have htext : terminate newline [valuesToLine columnNames] =
      [] ++ valuesToLine columnNames ++ [newline] := by simp
  have hmeta : metadataText key columnNames.length =
      [] ++ decimal key ++ [newline] ++ decimal columnNames.length ++ [newline] := by
    simp [metadataText]
  -- the world once the data file is there
  have hother := located_writeFile hloc hmetadata hmloc
  obtain ⟨hdataFile, hmetadataFile⟩ :=
    hasFile_created hdata hmetadata hloc hmloc hne columnNames key
  rw [create, Method.run_bind_ok (Communicator.newFile_run hdata hloc),
    Method.run_bind_ok (Communicator.addLine_writeFile_run hdata hloc _ _),
    Method.run_bind_ok (Communicator.newFile_run (hother _).1 (hother _).2),
    Method.run_bind_ok (Communicator.addLine_writeFile_run (hother _).1 (hother _).2 _ _),
    Method.run_bind_ok (Communicator.addLine_writeFile_run (hother _).1 (hother _).2 _ _),
    ← htext, ← hmeta, ← created, new_run_of_files hdataFile hmetadataFile]

/-- A new pair of files holds the header alone. -/
theorem create_run (hdata : locate w (fileName ++ dataExtention) = some loc)
    (hmetadata : locate w (fileName ++ metadataExtention) = some mloc)
    (hloc : isFolder w.fs loc = false) (hmloc : isFolder w.fs mloc = false) (hne : loc ≠ mloc)
    (header : Row n) (hkey : key < n) (hn : n < 2 ^ 64) :
    (create fileName header.cells key).run w =
      .ok (ofFiles fileName n key)
        (writeFile mloc (metadataText key n) (writeFile loc (Table.mk header []).text w)) := by
  rw [create_run_of_names hdata hmetadata hloc hmloc hne, created, header.length_eq,
    Nat.min_eq_left (by omega), Nat.min_eq_left (by omega)]
  rfl

end

end Csv
end SnapDesk
