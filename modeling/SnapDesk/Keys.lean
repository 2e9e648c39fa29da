import Mathlib.Data.List.Nodup
import SnapDesk.Csv
import SnapDesk.Paths
import SnapDesk.Transition

/-! # Keys of a storage file

`push_row` and `replace_row` look their key up by reading the whole file again, and
a key that is not found has the position -1, the largest row number of all.  So
there is one row number more than there are rows that `replace_row` accepts: with
-1 and a new key it replaces the header.

`Keyed` is what every call keeps: the file holds a line and rows behind it, and the
keys of the rows are nonempty and distinct.  `Change` says once what a call can do,
and everything about whole histories is derived from it
(`keepsRows_of_create`). -/
namespace SnapDesk
open Delimited FileTree Transition

/-- A change of a storage file. -/
inductive CsvCall where
  | pushRow (values : List Str)
  | replaceRow (rowNumber : UInt64) (values : List Str)

namespace CsvCall

def values : CsvCall → List Str
  | pushRow values => values
  | replaceRow _ values => values

def action (csv : Csv) : CsvCall → Action Unit
  | pushRow values => csv.pushRow values
  | replaceRow rowNumber values => csv.replaceRow rowNumber.toNat values

/-- Neither cells nor lines break at the values, and the key is not empty. -/
structure Plain (call : CsvCall) : Prop where
  plain : ∀ value ∈ call.values, delimiter ∉ value ∧ newline ∉ value
  key : call.values.head? ≠ some []

end CsvCall

/-- A call and whether it has returned or thrown. -/
structure CsvEvent where
  call : CsvCall
  returned : Bool

namespace CsvEvent

/-- A row has been pushed. -/
def pushed : CsvEvent → Bool
  | ⟨.pushRow _, true⟩ => true
  | _ => false

/-- The row number `i` has been replaced. -/
def Replaced (event : CsvEvent) (i : Nat) : Prop :=
  ∃ rowNumber values, event = ⟨.replaceRow rowNumber values, true⟩ ∧ rowNumber.toNat = i

end CsvEvent

/-- Files are shorter than this: their sizes and offsets are signed 64-bit numbers. -/
def maxFileSize : Nat := 2 ^ 63

namespace Csv

/-- The rows of the data file: its lines behind the header. -/
def dataRows (csv : Csv) (w : World) : List Str :=
  (fields newline ((openText w csv.data).getD [])).tail

/-- One call. -/
inductive Step (csv : Csv) : World → CsvEvent → World → Prop
  | returns {w w' : World} {call : CsvCall} (h : (call.action csv).run w = .ok () w')
      (hsize : ((openText w' csv.data).getD []).length < maxFileSize) : Step csv w ⟨call, true⟩ w'
  | throws {w w' : World} {call : CsvCall} {e : Failure}
      (h : (call.action csv).run w = .error e w') (he : e.isException = true) :
      Step csv w ⟨call, false⟩ w'

/-! ### What a call does -/

/-- The text of a header and rows. -/
def rowsText {n : Nat} (header : Str) (rows : List (Row n)) : Str :=
  terminate newline (header :: rows.map Row.line)

/-- The keys of rows. -/
def firstCells {n : Nat} (rows : List (Row n)) : List Str := rows.map (Row.cell · 0)

theorem firstCells_concat {n : Nat} (rows : List (Row n)) (r : Row n) :
    firstCells (rows ++ [r]) = firstCells rows ++ [r.cell 0] := List.map_append

theorem firstCells_set {n : Nat} (rows : List (Row n)) (i : Nat) (r : Row n) :
    firstCells (rows.set i r) = (firstCells rows).set i (r.cell 0) := List.map_set

/-- The file holds rows whose keys are in the first column, nonempty and distinct. -/
structure Keyed {n : Nat} (csv : Csv) (w : World) (loc : List Str) (header : Str)
    (rows : List (Row n)) : Prop extends HoldsRows csv w loc header rows where
  keyColumn : csv.keyColumnNumber = 0
  header_ne : header ≠ []
  nodup : (firstCells rows).Nodup
  nonempty : [] ∉ firstCells rows
  size : rows.length < npos

/-- **What a call does to the header and the rows.** -/
inductive Change {n : Nat} (header : Str) (rows : List (Row n)) :
    CsvEvent → Str → List (Row n) → Prop
  /-- A call that throws does nothing. -/
  | nothing (call : CsvCall) : Change header rows ⟨call, false⟩ header rows
  /-- A row with a new key is added. -/
  | push {r : Row n} (hkey : r.cell 0 ∉ firstCells rows) :
      Change header rows ⟨.pushRow r.cells, true⟩ header (rows ++ [r])
  /-- A row is replaced, and its key is kept or new. -/
  | replace {r : Row n} {rowNumber : UInt64} (hrow : rowNumber.toNat < rows.length)
      (hkey : (firstCells rows)[rowNumber.toNat]? = some (r.cell 0) ∨ r.cell 0 ∉ firstCells rows) :
      Change header rows ⟨.replaceRow rowNumber r.cells, true⟩ header
        (rows.set rowNumber.toNat r)
  /-- The header is replaced by a row with a new key. -/
  | replaceHeader {r : Row n} {rowNumber : UInt64} (hrow : rowNumber.toNat = npos)
      (hkey : r.cell 0 ∉ firstCells rows) :
      Change header rows ⟨.replaceRow rowNumber r.cells, true⟩ r.line rows

section
variable {n : Nat} {csv : Csv} {w w' : World} {loc : List Str} {header : Str} {rows : List (Row n)}

/-- The first cell is never empty, so it is read as it is. -/
theorem read_eq_firstCells (h : [] ∉ firstCells rows) :
    rows.map (Row.read · 0) = firstCells rows := by
  refine List.map_congr_left fun r hr => Row.read_of_ne fun hempty => h ?_
  exact List.mem_map.mpr ⟨r, hr, hempty⟩

namespace Keyed

theorem getKeyPosition_run (h : csv.Keyed w loc header rows) (key : Str) :
    (csv.getKeyPosition key).run w = .ok (((firstCells rows).idxOf? key).getD npos) w := by
  rw [h.toHoldsRows.getKeyPosition_run, h.keyColumn, read_eq_firstCells h.nonempty]

theorem getAllKeys_run (h : csv.Keyed w loc header rows) :
    csv.getAllKeys.run w = .ok (firstCells rows) w := by
  rw [h.toHoldsRows.getAllKeys_run, h.keyColumn, read_eq_firstCells h.nonempty]

theorem keyValue (h : csv.Keyed w loc header rows) (r : Row n) :
    csv.keyValue r.cells = .ok (r.cell 0) := by
  rw [h.toHoldsRows.keyValue, h.keyColumn]

theorem dataRows_eq (h : csv.Keyed w loc header rows) : csv.dataRows w = rows.map Row.line := by
  rw [dataRows, h.file.openText, Option.getD_some, fields_terminate newline h.newline_notMem_lines]
  rfl

/-- The position of a key is a row, or -1 if there is none. -/
theorem position_eq_npos (h : csv.Keyed w loc header rows) {key : Str} :
    ((firstCells rows).idxOf? key).getD npos = npos ↔ key ∉ firstCells rows :=
  position_eq_npos_iff (by rw [firstCells, List.length_map]; exact Nat.le_of_lt h.size)

end Keyed

/-- Values of the right number make a row. -/
theorem row_of_values {values : List Str}
    (hplain : ∀ value ∈ values, delimiter ∉ value ∧ newline ∉ value) (hlen : values.length = n) :
    ∃ r : Row n, values = r.cells :=
  ⟨⟨values, hlen, hplain⟩, rfl⟩

theorem Keyed.testValuesSize_error (h : csv.Keyed w loc header rows) {values : List Str}
    (hlen : values.length ≠ n) : ∃ e, csv.testValuesSize values = .error e := by
  rw [testValuesSize, if_pos (h.columns ▸ hlen)]
  exact ⟨_, rfl⟩

/-- `push_row` throws and does nothing, or adds a row with a new key. -/
theorem Keyed.pushRow_cases (h : csv.Keyed w loc header rows) {values : List Str}
    (hplain : ∀ value ∈ values, delimiter ∉ value ∧ newline ∉ value) :
    (∃ e, (csv.pushRow values).run w = .error e w) ∨
      ∃ r : Row n, values = r.cells ∧ r.cell 0 ∉ firstCells rows ∧
        (csv.pushRow values).run w = .ok () (writeFile loc (rowsText header (rows ++ [r])) w) := by
  by_cases hlen : values.length = n
  · obtain ⟨r, rfl⟩ := row_of_values hplain hlen
    have hrun : (csv.pushRow r.cells).run w =
        (if ((firstCells rows).idxOf? (r.cell 0)).getD npos ≠ npos then throw (keyExists (r.cell 0))
        else Communicator.addLine csv.data (valuesToLine r.cells) : Action Unit).run w :=
      pushRow_run_of_position (h.testValuesSize r) (h.keyValue r) (h.getKeyPosition_run _)
    by_cases hkey : r.cell 0 ∈ firstCells rows
    · rw [if_pos (mt h.position_eq_npos.mp (not_not_intro hkey)), Method.run_throw] at hrun
      exact .inl ⟨_, hrun⟩
    · rw [if_neg (not_not_intro (h.position_eq_npos.mpr hkey)),
        Communicator.addLine_run h.file] at hrun
      refine .inr ⟨r, rfl, hkey, hrun.trans ?_⟩
      simp [rowsText, terminate_append, Row.line]
  · obtain ⟨e, he⟩ := h.testValuesSize_error hlen
    refine .inl ⟨e, ?_⟩
    rw [pushRow, he, Method.run_bind_error (Method.run_lift_error e w)]

/-- A line that is there is replaced. -/
theorem replaceLine_lines (h : csv.HoldsRows w loc header rows) {i : Nat} {line : Str}
    (hline : (header :: rows.map Row.line)[i]? = some line) (hne : line ≠ []) (newLine : Str) :
    (Communicator.replaceLine csv.data i newLine).run w =
      .ok () (writeFile loc (terminate newline ((header :: rows.map Row.line).set i newLine)) w) := by
  obtain ⟨hlt, -⟩ := List.getElem?_eq_some_iff.mp hline
  have hold : lineAt (terminate newline (header :: rows.map Row.line)) i ≠ [] := by
    rw [h.lineAt_text, hline]
    exact hne
  rw [Communicator.replaceLine_run h.file hold, replaceText_terminate h.newline_notMem_lines hlt]

/-- Behind the rows there is no line. -/
theorem replaceLine_behind (h : csv.HoldsRows w loc header rows) {i : Nat} (hi : rows.length < i)
    (newLine : Str) : ∃ e, (Communicator.replaceLine csv.data i newLine).run w = .error e w := by
  have hlen : (header :: rows.map Row.line).length ≤ i := by
    rw [List.length_cons, List.length_map]
    omega
  rw [Communicator.replaceLine, Method.run_bind_ok (h.getLine_run i),
    List.getElem?_eq_none hlen, Option.getD_none, if_pos rfl]
  exact ⟨_, rfl⟩

/-- The row number of a row, plus the header. -/
theorem Keyed.replaceLine_row (h : csv.Keyed w loc header rows) {i : Nat} (hi : i < rows.length)
    (r : Row n) :
    (Communicator.replaceLine csv.data (add64 i headerSize) r.line).run w =
      .ok () (writeFile loc (rowsText header (rows.set i r)) w) := by
  have hsize := h.size
  rw [npos] at hsize
  have hline : (header :: rows.map Row.line)[i + 1]? = some (rows.get ⟨i, hi⟩).line := by
    simp [hi]
  rw [headerSize, add64_eq (by omega),
    replaceLine_lines h.toHoldsRows hline (Row.line_ne_nil _ (Nat.zero_lt_of_lt h.key)), rowsText,
    List.set_cons_succ, List.map_set]

/-- The row number -1 is the header. -/
theorem Keyed.replaceLine_header (h : csv.Keyed w loc header rows) (r : Row n) :
    (Communicator.replaceLine csv.data (add64 npos headerSize) r.line).run w =
      .ok () (writeFile loc (rowsText r.line rows) w) :=
  replaceLine_lines h.toHoldsRows (i := 0) rfl h.header_ne r.line

theorem Keyed.replaceRow_run (h : csv.Keyed w loc header rows) (rowNumber : UInt64) (r : Row n) :
    (csv.replaceRow rowNumber.toNat r.cells).run w =
      (if ¬ (((firstCells rows).idxOf? (r.cell 0)).getD npos = rowNumber.toNat ∨
          ((firstCells rows).idxOf? (r.cell 0)).getD npos = npos) then throw (keyExists (r.cell 0))
      else Communicator.replaceLine csv.data (add64 rowNumber.toNat headerSize) r.line :
        Action Unit).run w :=
  replaceRow_run_of_position (h.testValuesSize r) (h.keyValue r) (h.getKeyPosition_run _) _

/-- With a key that is found only its own row is replaced. -/
theorem Keyed.replaceRow_known (h : csv.Keyed w loc header rows) (rowNumber : UInt64) {r : Row n}
    (hkey : r.cell 0 ∈ firstCells rows) :
    (∃ e, (csv.replaceRow rowNumber.toNat r.cells).run w = .error e w) ∨
      ∃ (header' : Str) (rows' : List (Row n)),
        Change header rows ⟨.replaceRow rowNumber r.cells, true⟩ header' rows' ∧
        (csv.replaceRow rowNumber.toNat r.cells).run w =
          .ok () (writeFile loc (rowsText header' rows') w) := by
  have hrun := h.replaceRow_run rowNumber r
  have hposition : ((firstCells rows).idxOf? (r.cell 0)).getD npos = npos ↔
      r.cell 0 ∉ firstCells rows :=
    h.position_eq_npos
  have hfound := mt hposition.mp (not_not_intro hkey)
  -- the first row with the key is the only one
  by_cases hown : ((firstCells rows).idxOf? (r.cell 0)).getD npos = rowNumber.toNat
  · obtain ⟨i, hi⟩ := Option.ne_none_iff_exists'.mp
      (mt List.idxOf?_eq_none_iff.mp (not_not_intro hkey))
    rw [hi, Option.getD_some] at hown
    obtain ⟨hlt, hcell, -⟩ := List.idxOf?_eq_some_iff.mp hi
    have hrow : rowNumber.toNat < rows.length := by
      rw [← hown]
      simpa [firstCells] using hlt
    have hkept : (firstCells rows)[rowNumber.toNat]? = some (r.cell 0) := by
      rw [← hown]
      exact List.getElem?_eq_some_iff.mpr ⟨hlt, by simpa using hcell⟩
    rw [hi, Option.getD_some, if_neg (not_not_intro (.inl hown)), h.replaceLine_row hrow] at hrun
    exact .inr ⟨header, _, .replace hrow (.inl hkept), hrun⟩
  · rw [if_pos (by simp [hown, hfound]), Method.run_throw] at hrun
    exact .inl ⟨_, hrun⟩

/-- With a new key whatever line there is is replaced: a row, the header, or none. -/
theorem Keyed.replaceRow_new (h : csv.Keyed w loc header rows) (rowNumber : UInt64) {r : Row n}
    (hkey : r.cell 0 ∉ firstCells rows) :
    (∃ e, (csv.replaceRow rowNumber.toNat r.cells).run w = .error e w) ∨
      ∃ (header' : Str) (rows' : List (Row n)),
        Change header rows ⟨.replaceRow rowNumber r.cells, true⟩ header' rows' ∧
        (csv.replaceRow rowNumber.toNat r.cells).run w =
          .ok () (writeFile loc (rowsText header' rows') w) := by
  have hrun := h.replaceRow_run rowNumber r
  have hposition : ((firstCells rows).idxOf? (r.cell 0)).getD npos = npos :=
    h.position_eq_npos.mpr hkey
  rw [if_neg (not_not_intro (.inr hposition))] at hrun
  by_cases hrow : rowNumber.toNat < rows.length
  · rw [h.replaceLine_row hrow] at hrun
    exact .inr ⟨header, _, .replace hrow (.inr hkey), hrun⟩
  by_cases hlast : rowNumber.toNat = npos
  · -- -1 and the size of the header make 0
    rw [hlast, h.replaceLine_header] at hrun
    refine .inr ⟨r.line, rows, .replaceHeader hlast hkey, ?_⟩
    rw [hlast]
    exact hrun
  · have hsize : rowNumber.toNat + 1 < 2 ^ 64 := by
      have hlt := rowNumber.toNat_lt
      rw [npos] at hlast
      omega
    rw [headerSize, add64_eq hsize] at hrun
    obtain ⟨e, he⟩ := replaceLine_behind h.toHoldsRows (i := rowNumber.toNat + 1) (by omega) r.line
    exact .inl ⟨e, hrun.trans he⟩

/-- `replace_row` throws and does nothing, or it replaces a row or the header. -/
theorem Keyed.replaceRow_cases (h : csv.Keyed w loc header rows) (rowNumber : UInt64)
    {values : List Str} (hplain : ∀ value ∈ values, delimiter ∉ value ∧ newline ∉ value) :
    (∃ e, (csv.replaceRow rowNumber.toNat values).run w = .error e w) ∨
      ∃ (r : Row n) (header' : Str) (rows' : List (Row n)), values = r.cells ∧
        Change header rows ⟨.replaceRow rowNumber r.cells, true⟩ header' rows' ∧
        (csv.replaceRow rowNumber.toNat values).run w =
          .ok () (writeFile loc (rowsText header' rows') w) := by
  by_cases hlen : values.length = n
  · obtain ⟨r, rfl⟩ := row_of_values hplain hlen
    by_cases hkey : r.cell 0 ∈ firstCells rows
    · rcases h.replaceRow_known rowNumber hkey with herror | ⟨header', rows', hchange, hrun⟩
      · exact .inl herror
      · exact .inr ⟨r, header', rows', rfl, hchange, hrun⟩
    · rcases h.replaceRow_new rowNumber hkey with herror | ⟨header', rows', hchange, hrun⟩
      · exact .inl herror
      · exact .inr ⟨r, header', rows', rfl, hchange, hrun⟩
  · obtain ⟨e, he⟩ := h.testValuesSize_error hlen
    refine .inl ⟨e, ?_⟩
    rw [replaceRow, he, Method.run_bind_error (Method.run_lift_error e w)]

/-- A call throws and does nothing, or makes one of the changes. -/
theorem Keyed.action_cases (h : csv.Keyed w loc header rows) {call : CsvCall}
    (hplain : call.Plain) :
    (∃ e, (call.action csv).run w = .error e w) ∨
      ∃ (header' : Str) (rows' : List (Row n)), Change header rows ⟨call, true⟩ header' rows' ∧
        (call.action csv).run w = .ok () (writeFile loc (rowsText header' rows') w) := by
  cases call with
  | pushRow values =>
    rcases h.pushRow_cases hplain.plain with herror | ⟨r, rfl, hkey, hrun⟩
    · exact .inl herror
    · exact .inr ⟨header, _, .push hkey, hrun⟩
  | replaceRow rowNumber values =>
    rcases h.replaceRow_cases rowNumber hplain.plain with herror | ⟨r, header', rows', rfl, hchange, hrun⟩
    · exact .inl herror
    · exact .inr ⟨header', rows', hchange, hrun⟩

/-- **Every call with plain values is one of the changes.** -/
theorem Keyed.change (h : csv.Keyed w loc header rows) {event : CsvEvent}
    (hplain : event.call.Plain) (hstep : Step csv w event w') :
    ∃ header' rows', Change header rows event header' rows' ∧
      (w' = w ∧ event.returned = false ∧ header' = header ∧ rows' = rows ∨
        event.returned = true ∧ w' = writeFile loc (rowsText header' rows') w ∧
          (rowsText header' rows').length < maxFileSize) := by
  cases hstep with
  | @returns _ call hrun hsize =>
    rcases h.action_cases hplain with ⟨e, herror⟩ | ⟨header', rows', hchange, hok⟩
    · cases hrun.symm.trans herror
    · cases hrun.symm.trans hok
      rw [(h.file.writeFile _).openText, Option.getD_some] at hsize
      exact ⟨header', rows', hchange, .inr ⟨rfl, rfl, hsize⟩⟩
  | @throws _ call e hrun he =>
    refine ⟨header, rows, .nothing call, .inl ⟨?_, rfl, rfl, rfl⟩⟩
    rcases h.action_cases hplain with ⟨e', herror⟩ | ⟨header', rows', hchange, hok⟩
    · cases hrun.symm.trans herror
      rfl
    · cases hrun.symm.trans hok

/-! ### Histories -/

/-- The first cells stay distinct and nonempty. -/
theorem Change.firstCells {event : CsvEvent} {header' : Str} {rows' : List (Row n)}
    (h : Change header rows event header' rows') (hplain : event.call.Plain) (hn : 0 < n)
    (hnodup : (firstCells rows).Nodup) (hnonempty : [] ∉ firstCells rows) :
    (Csv.firstCells rows').Nodup ∧ [] ∉ Csv.firstCells rows' := by
  have hcell (r : Row n) (hr : r.cells.head? ≠ some []) : [] ≠ r.cell 0 := by
    intro hempty
    have hpos : 0 < r.cells.length := r.length_eq.symm ▸ hn
    obtain ⟨cell, cells, hcells⟩ := List.exists_cons_of_length_pos hpos
    rw [Row.cell, hcells] at hempty
    rw [hcells] at hr
    exact hr (congrArg some hempty.symm)
  cases h with
  | nothing => exact ⟨hnodup, hnonempty⟩
  | @push r hkey =>
    rw [firstCells_concat]
    refine ⟨List.concat_eq_append ▸ hnodup.concat hkey, ?_⟩
    · intro hmem
      rcases List.mem_append.mp hmem with hmem | hmem
      · exact hnonempty hmem
      · exact hcell r hplain.key (List.mem_singleton.mp hmem)
  | @replace r rowNumber hrow hkey =>
    rw [firstCells_set]
    rcases hkey with hkept | hnew
    · obtain ⟨hlt, hget⟩ := List.getElem?_eq_some_iff.mp hkept
      rw [← hget, List.set_getElem_self hlt]
      exact ⟨hnodup, hnonempty⟩
    · refine ⟨hnodup.set hnew, fun hmem => ?_⟩
      rcases List.mem_or_eq_of_mem_set hmem with hmem | hempty
      · exact hnonempty hmem
      · exact hcell r hplain.key hempty
  | replaceHeader => exact ⟨hnodup, hnonempty⟩

/-- **A call keeps the keys.** -/
theorem Keyed.step (h : csv.Keyed w loc header rows) {event : CsvEvent} (hplain : event.call.Plain)
    (hstep : Step csv w event w') :
    ∃ header' rows', csv.Keyed w' loc header' rows' ∧ Change header rows event header' rows' ∧
      (event.returned = false → w' = w) := by
  obtain ⟨header', rows', hchange, hworld⟩ := h.change hplain hstep
  refine ⟨header', rows', ?_, hchange, ?_⟩
  · rcases hworld with ⟨rfl, -, rfl, rfl⟩ | ⟨-, rfl, hsize⟩
    · exact h
    · have hn : 0 < n := Nat.zero_lt_of_lt h.key
      have hlines : header' ≠ [] ∧ newline ∉ header' := by
        cases hchange with
        | nothing => exact ⟨h.header_ne, h.plain⟩
        | push => exact ⟨h.header_ne, h.plain⟩
        | replace => exact ⟨h.header_ne, h.plain⟩
        | replaceHeader => exact ⟨Row.line_ne_nil _ hn, Row.newline_notMem_line _⟩
      have hkeys := hchange.firstCells hplain hn h.nodup h.nonempty
      have hlen := length_le_terminate newline (header' :: rows'.map Row.line)
      rw [← rowsText, List.length_cons, List.length_map] at hlen
      rw [maxFileSize] at hsize
      exact ⟨⟨h.file.writeFile _, hlines.2, h.columns, h.key⟩, h.keyColumn, hlines.1, hkeys.1, hkeys.2,
        by rw [npos]; omega⟩
  · intro hthrown
    rcases hworld with ⟨hsame, -⟩ | ⟨hreturned, -⟩
    · exact hsame
    · exact absurd (hthrown.symm.trans hreturned) Bool.false_ne_true

/-- The number of rows grows with the rows that are pushed. -/
theorem Change.length {event : CsvEvent} {header' : Str} {rows' : List (Row n)}
    (h : Change header rows event header' rows') :
    rows'.length = rows.length + if event.pushed then 1 else 0 := by
  cases h with
  | nothing call => cases call <;> rfl
  | push => exact List.length_append
  | replace => exact List.length_set
  | replaceHeader => rfl

/-- Only the row that is replaced is another one afterwards. -/
theorem Change.others {event : CsvEvent} {header' : Str} {rows' : List (Row n)}
    (h : Change header rows event header' rows') {i : Nat} (hi : i < rows.length)
    (hother : ¬ event.Replaced i) : rows'[i]? = rows[i]? := by
  cases h with
  | nothing => rfl
  | push => exact List.getElem?_append_left hi
  | @replace r rowNumber =>
    have hne : rowNumber.toNat ≠ i := fun he => hother ⟨rowNumber, r.cells, rfl, he⟩
    exact List.getElem?_set_ne hne
  | replaceHeader => rfl

/-- What a call keeps of the data file: every row but the one it replaces, in its
place, and all of the file if it throws. -/
structure KeepsRows (csv : Csv) (w : World) (event : CsvEvent) (w' : World) : Prop where
  others : ∀ i, i < (csv.dataRows w).length → ¬ event.Replaced i →
    (csv.dataRows w')[i]? = (csv.dataRows w)[i]?
  thrown : event.returned = false → openText w' csv.data = openText w csv.data

theorem Keyed.keepsRows (h : csv.Keyed w loc header rows) {event : CsvEvent}
    (hplain : event.call.Plain) (hstep : Step csv w event w') : csv.KeepsRows w event w' := by
  obtain ⟨header', rows', h', hchange, hthrown⟩ := h.step hplain hstep
  refine ⟨fun i hi hother => ?_, fun hfalse => by rw [hthrown hfalse]⟩
  rw [h.dataRows_eq, List.length_map] at hi
  rw [h.dataRows_eq, h'.dataRows_eq, List.getElem?_map, List.getElem?_map, hchange.others hi hother]

/-- What holds after any history. -/
theorem Keyed.run (h : csv.Keyed w loc header rows) {history : List CsvEvent}
    (hplain : ∀ event ∈ history, event.call.Plain) (hrun : Run (Step csv) w history w') :
    ∃ header' rows', csv.Keyed w' loc header' rows' ∧
      (rows' : List (Row n)).length = rows.length + history.countP CsvEvent.pushed := by
  induction hrun with
  | nil => exact ⟨header, rows, h, rfl⟩
  | @snoc u v history event hbefore hstep ih =>
    obtain ⟨header₁, rows₁, h₁, hlen₁⟩ := ih fun e he => hplain e (List.mem_append_left _ he)
    obtain ⟨header₂, rows₂, h₂, hchange, -⟩ :=
      h₁.step (hplain event (List.mem_append_right _ (List.mem_singleton_self _))) hstep
    refine ⟨header₂, rows₂, h₂, ?_⟩
    rw [hchange.length, hlen₁, List.countP_append, List.countP_singleton, Nat.add_assoc]

end

/-! ### A new file -/

section
variable {w w₁ : World} {fileName : Str} {columnNames : List Str} {csv : Csv}

/-- Paths lead where they led, and the folders are the same. -/
def SameFolders (w u : World) : Prop :=
  (∀ path, locate u path = locate w path) ∧ ∀ loc, isFolder u.fs loc = isFolder w.fs loc

theorem sameFolders_writeFile {loc : List Str} (h : isFolder w.fs loc = false) (content : Str) :
    SameFolders w (writeFile loc content w) :=
  ⟨locate_writeFile h content, isFolder_put_file h content⟩

theorem openWritable_eq_some {path : Str} {loc : List Str} (h : openWritable w path = some loc) :
    locate w path = some loc ∧ isFolder w.fs loc = false := by
  obtain ⟨hloc, hfolder⟩ := Option.filter_eq_some_iff.mp h
  exact ⟨hloc, by simpa using hfolder⟩

/-- A file that cannot be made is passed over. -/
theorem newFile_ok {path : Str} (h : (Communicator.newFile path).run w = .ok () w₁) :
    SameFolders w w₁ := by
  rw [Communicator.newFile, Method.run_bind_ok (Method.run_get w)] at h
  cases hopen : openWritable w path with
  | none =>
    simp only [hopen] at h
    cases h
    exact ⟨fun _ => rfl, fun _ => rfl⟩
  | some loc =>
    simp only [hopen] at h
    cases h
    exact sameFolders_writeFile (openWritable_eq_some hopen).2 []

/-- `add_line` opens what it writes to. -/
theorem addLine_ok {path line : Str} (h : (Communicator.addLine path line).run w = .ok () w₁) :
    SameFolders w w₁ ∧ ∃ loc, locate w path = some loc ∧ isFolder w.fs loc = false := by
  rw [Communicator.addLine, Method.run_bind_ok (Method.run_get w)] at h
  cases hopen : openWritable w path with
  | none =>
    simp only [hopen] at h
    cases h
  | some loc =>
    simp only [hopen] at h
    cases h
    obtain ⟨hloc, hfolder⟩ := openWritable_eq_some hopen
    exact ⟨sameFolders_writeFile hfolder _, loc, hloc, hfolder⟩

/-- Where `create` returns, it has made both files. -/
theorem create_ok (hzero : 0 ∉ fileName) (h : (create fileName columnNames 0).run w = .ok csv w₁) :
    ∃ loc, csv.numberOfColumns = min columnNames.length (2 ^ 64 - 1) ∧ csv.keyColumnNumber = 0 ∧
      HasFile w₁ csv.data loc (terminate newline [valuesToLine columnNames]) := by
  rw [create] at h
  obtain ⟨_, u₁, hnew, h₁⟩ := Method.run_bind_eq_ok h
  obtain ⟨_, u₂, hadd, h₂⟩ := Method.run_bind_eq_ok h₁
  obtain ⟨_, u₃, hnew', h₃⟩ := Method.run_bind_eq_ok h₂
  obtain ⟨_, u₄, hadd', -⟩ := Method.run_bind_eq_ok h₃
  obtain ⟨hsame₂, loc, hdata, hloc⟩ := addLine_ok hadd
  obtain ⟨-, mloc, hmetadata, hmloc⟩ := addLine_ok hadd'
  have hsame₁ := newFile_ok hnew
  have hsame₃ := newFile_ok hnew'
  rw [hsame₁.1] at hdata
  rw [hsame₁.2] at hloc
  rw [hsame₃.1, hsame₂.1, hsame₁.1] at hmetadata
  rw [hsame₃.2, hsame₂.2, hsame₁.2] at hmloc
  have hne : loc ≠ mloc := by
    rintro rfl
    obtain ⟨name, hlast⟩ := locate_extension (w := w) hzero
    have hd := hlast (c := 99) (by decide) (by decide) (by decide) (by decide) hdata
    have hm := hlast (c := 109) (by decide) (by decide) (by decide) (by decide) hmetadata
    have hext := List.append_cancel_left (Option.some.inj (hd.symm.trans hm))
    exact absurd hext (by decide)
  have hrun := create_run_of_names hdata hmetadata hloc hmloc hne columnNames 0
  cases h.symm.trans hrun
  exact ⟨loc, rfl, rfl, (hasFile_created hdata hmetadata hloc hmloc hne columnNames 0).1⟩

/-- **A new file is keyed**: there is a header and no row. -/
theorem keyed_of_create (hzero : 0 ∉ fileName) (hcolumns : columnNames ≠ [])
    (hnames : ∀ name ∈ columnNames, newline ∉ name)
    (h : (create fileName columnNames 0).run w = .ok csv w₁) :
    ∃ loc, csv.Keyed w₁ loc (valuesToLine columnNames) ([] : List (Row csv.numberOfColumns)) := by
  obtain ⟨loc, hnumber, hkey, hfile⟩ := create_ok hzero h
  have hpos := List.length_pos_iff.mpr hcolumns
  have hline : newline ∉ valuesToLine columnNames := by
    intro hmem
    obtain ⟨name, hname, hmem⟩ := List.mem_flatMap.mp hmem
    rcases List.mem_append.mp hmem with hmem | hmem
    · exact hnames name hname hmem
    · exact absurd (List.mem_singleton.mp hmem) (by decide)
  have hne : valuesToLine columnNames ≠ [] := by
    have hlen := length_le_terminate delimiter columnNames
    rw [← valuesToLine] at hlen
    exact List.length_pos_iff.mp (Nat.lt_of_lt_of_le hpos hlen)
  have hcolumn : csv.keyColumnNumber < csv.numberOfColumns := by
    rw [hkey, hnumber]
    omega
  exact ⟨loc, ⟨hfile, hline, rfl, hcolumn⟩, hkey, hne, List.nodup_nil, List.not_mem_nil,
    show 0 < npos by decide⟩

/-- **Keys stay unique and no row is lost.**  After any history of a new file, what
`get_all_keys` returns is distinct, there are as many rows as have been pushed, and
the next call keeps every other row. -/
theorem keepsRows_of_create (hzero : 0 ∉ fileName) (hcolumns : columnNames ≠ [])
    (hnames : ∀ name ∈ columnNames, newline ∉ name)
    (hcreate : (create fileName columnNames 0).run w = .ok csv w₁) {history : List CsvEvent}
    (hplain : ∀ event ∈ history, event.call.Plain) {w₂ : World} (hrun : Run (Step csv) w₁ history w₂) :
    (∃ keys, csv.getAllKeys.run w₂ = .ok keys w₂ ∧ keys.Nodup) ∧
      (csv.dataRows w₂).length = history.countP CsvEvent.pushed ∧
      ∀ event w₃, event.call.Plain → Step csv w₂ event w₃ → csv.KeepsRows w₂ event w₃ := by
  obtain ⟨loc, hnew⟩ := keyed_of_create hzero hcolumns hnames hcreate
  obtain ⟨header, rows, h, hlen⟩ := hnew.run hplain hrun
  refine ⟨⟨_, h.getAllKeys_run, h.nodup⟩, ?_, fun event w₃ => h.keepsRows⟩
  rw [h.dataRows_eq, List.length_map, hlen, List.length_nil, Nat.zero_add]

end

/-- A world with nothing in it but the root. -/
def emptyWorld : World where
  fs := fun loc => if loc = [] then some .folder else none
  cwd := []
  commands := []

/-- A row is pushed, another one with its key is rejected, and the key is renamed. -/
def nameEvents : List CsvEvent :=
  [⟨.pushRow [lit "home", lit ""], true⟩, ⟨.pushRow [lit "home", lit "x"], false⟩,
    ⟨.replaceRow 0 [lit "work", lit ""], true⟩]

/-- A table of names is made, and goes through these calls. -/
theorem keepsRows_of_create_name :
    ∃ csv w₁ w₂, (create (lit "t") [lit "name", lit "date"] 0).run emptyWorld = .ok csv w₁ ∧
      Run (Step csv) w₁ nameEvents w₂ ∧
      (∃ keys, csv.getAllKeys.run w₂ = .ok keys w₂ ∧ keys.Nodup) ∧
      (csv.dataRows w₂).length = 1 ∧
      ∀ event w₃, event.call.Plain → Step csv w₂ event w₃ → csv.KeepsRows w₂ event w₃ := by
  have hcreate : (create (lit "t") [lit "name", lit "date"] 0).run emptyWorld =
      .ok (ofFiles (lit "t") 2 0)
        (created [lit "t.csv"] [lit "t.metadata"] [lit "name", lit "date"] 0 emptyWorld) :=
    create_run_of_names rfl rfl rfl rfl (by decide) _ _
  have hpush : Step (ofFiles (lit "t") 2 0) _ ⟨.pushRow [lit "home", lit ""], true⟩ _ :=
    .returns (w := created [lit "t.csv"] [lit "t.metadata"] [lit "name", lit "date"] 0 emptyWorld) rfl
      (by decide)
  have hpushed := Run.snoc (.nil _) hpush
  have hrejected : Run (Step (ofFiles (lit "t") 2 0)) _ [_, ⟨.pushRow [lit "home", lit "x"], false⟩]
      _ := hpushed.snoc (.throws (e := .invalidArgument _) rfl rfl)
  have hrun : Run (Step (ofFiles (lit "t") 2 0)) _ nameEvents _ :=
    hrejected.snoc (.returns rfl (by decide))
  refine ⟨_, _, _, hcreate, hrun, ?_⟩
  exact keepsRows_of_create (by decide) (by decide) (by decide) hcreate
    (by
      simp only [nameEvents, List.forall_mem_cons]
      exact ⟨⟨by decide, by decide⟩, ⟨by decide, by decide⟩, ⟨by decide, by decide⟩,
        fun _ h => absurd h List.not_mem_nil⟩) hrun

end Csv
end SnapDesk
