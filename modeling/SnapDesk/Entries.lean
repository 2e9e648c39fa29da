import SnapDesk.Database
import SnapDesk.MainLoop
import SnapDesk.Register

/-! # Entries of a database

The rows that the main loop writes are a register: the key of an item is an
output of the script, and its stamps are the dates of the first and of the latest
frame with that output.  A `Cell` is text that a row can hold and that is read
back as it is; a table of items is a header and one row of three cells for each.

`updateEntry_run` is the refinement: on a file that holds such a table, the branch
of the main loop records the visit and notifies of a new one. -/
namespace SnapDesk
open FileTree Register

/-- Text that is read back from a row. -/
def IsCell (s : Str) : Prop := s ≠ [] ∧ delimiter ∉ s ∧ newline ∉ s

instance : DecidablePred IsCell := fun s =>
  inferInstanceAs (Decidable (s ≠ [] ∧ delimiter ∉ s ∧ newline ∉ s))

/-- Text of a cell. -/
@[ext] structure Cell where
  text : Str
  isCell : IsCell text
  deriving DecidableEq

/-- An output with the dates of its first and latest frame. -/
abbrev Entry := Item Cell Cell

/-- A date has digits, letters, blanks and slashes. -/
theorem isCell_date (t : LocalTime) : IsCell t.date := by
  have hdecimal (n : Nat) : ∀ c ∈ decimal n, c ≠ delimiter ∧ c ≠ newline :=
    decimal_forall (by decide) n
  have hdigit : ∀ d < 10, UInt8.ofNat (48 + d) ≠ delimiter ∧ UInt8.ofNat (48 + d) ≠ newline := by
    decide
  have htwo (n : Nat) : ∀ c ∈ twoDigits n, c ≠ delimiter ∧ c ≠ newline := by
    intro c hc
    rcases List.mem_pair.mp hc with rfl | rfl
    · exact hdigit _ (Nat.mod_lt _ (by decide))
    · exact hdigit _ (Nat.mod_lt _ (by decide))
  have hlit : ∀ s ∈ [lit "/", lit " ", lit " h ", lit " min ", lit " sec"],
      ∀ c ∈ s, c ≠ delimiter ∧ c ≠ newline := by decide
  have hall : ∀ c ∈ t.date, c ≠ delimiter ∧ c ≠ newline := by
    intro c hc
    simp only [LocalTime.date, List.mem_append] at hc
    rcases hc with (((((((((((h | h) | h) | h) | h) | h) | h) | h) | h) | h) | h) | h)
    all_goals first
      | exact htwo _ c h
      | exact hdecimal _ c h
      | exact hlit _ (by simp) c h
  refine ⟨by simp [LocalTime.date, twoDigits], fun h => (hall _ h).1 rfl, fun h => (hall _ h).2 rfl⟩

/-- The date of a time, as text of a cell. -/
def dateCell (t : LocalTime) : Cell := ⟨t.date, isCell_date t⟩

namespace Entry

/-- The row of an entry. -/
def row (entry : Entry) : Row 3 where
  cells := [entry.key.text, entry.first.text, entry.last.text]
  length_eq := rfl
  plain := by
    intro cell hcell
    simp only [List.mem_cons, List.not_mem_nil, or_false] at hcell
    rcases hcell with rfl | rfl | rfl
    · exact entry.key.isCell.2
    · exact entry.first.isCell.2
    · exact entry.last.isCell.2

theorem read_key (entry : Entry) : entry.row.read 0 = entry.key.text :=
  Row.read_of_ne entry.key.isCell.1

theorem read_first (entry : Entry) : entry.row.read 1 = entry.first.text :=
  Row.read_of_ne entry.first.isCell.1

end Entry

/-- The header of a database. -/
def headerRow : Row 3 where
  cells := columnNames
  length_eq := rfl
  plain := by decide

/-- The table of a list of entries. -/
def tableOf (entries : List Entry) : Table 3 := ⟨headerRow, entries.map Entry.row⟩

theorem keys_tableOf (entries : List Entry) :
    (tableOf entries).keys 0 = (Register.keys entries).map Cell.text := by
  simp [tableOf, Table.keys, Register.keys, Entry.read_key]

/-- The position of a key is the one of its text. -/
theorem idxOf?_tableOf (entries : List Entry) (key : Cell) :
    ((tableOf entries).keys 0).idxOf? key.text = (Register.keys entries).idxOf? key := by
  rw [keys_tableOf]
  exact idxOf?_map (fun _ _ => Cell.ext) _ key

theorem tableOf_push (entries : List Entry) (key date : Cell) :
    (tableOf entries).push (Entry.row ⟨key, date, date⟩) =
      tableOf (entries ++ [⟨key, date, date⟩]) := by
  simp [tableOf, Table.push]

theorem tableOf_replace {entries : List Entry} {i : Nat} {entry : Entry}
    (h : entries[i]? = some entry) (date : Cell) :
    (tableOf entries).replace i (Entry.row (entry.visited date)) =
      tableOf (entries.modify i (Item.visited date)) := by
  have hset : entries.modify i (Item.visited date) = entries.set i (entry.visited date) := by
    rw [List.modify_eq_set_getElem?, h]
    rfl
  rw [tableOf, tableOf, Table.replace, hset, List.map_set]

/-- The object that the constructor makes for a database. -/
def databaseOf (fileName : Str) : Database := ⟨Csv.ofFiles fileName columnNames.length keyColumnNumber⟩

section
variable {w : World} {fileName : Str} {loc : List Str} {entries : List Entry}

/-- The data file of that name holds these entries. -/
def HoldsEntries (w : World) (fileName : Str) (loc : List Str) (entries : List Entry) : Prop :=
  (databaseOf fileName).csv.Holds w loc (tableOf entries)

theorem HoldsEntries.of_file (h : HasFile w (fileName ++ dataExtention) loc (tableOf entries).text) :
    HoldsEntries w fileName loc entries :=
  ⟨h, rfl, Nat.zero_lt_succ 2⟩

/-- The header tells the position of its columns. -/
theorem getColumnNumber_run (h : HoldsEntries w fileName loc entries) (columnName : Str) :
    ((databaseOf fileName).csv.getColumnNumber columnName).run w =
      .ok ((columnNames.idxOf? columnName).getD npos) w :=
  Csv.getColumnNumber_run h columnName

theorem getRowNumber_run (h : HoldsEntries w fileName loc entries) (key : Cell) :
    ((databaseOf fileName).csv.getRowNumber key.text).run w =
      .ok (((Register.keys entries).idxOf? key).getD npos) w := by
  rw [Csv.getRowNumber, Csv.getKeyPosition_run h, ← idxOf?_tableOf]
  rfl

/-- An output is found exactly if it is a key. -/
theorem getKeyOfEntries_run (h : HoldsEntries w fileName loc entries) (key : Cell) :
    ∃ keys, ((databaseOf fileName).getKeyOfEntries (lit "output") key.text).run w = .ok keys w ∧
      (keys = [] ↔ key ∉ Register.keys entries) := by
  have hcolumn : ((columnNames.idxOf? (lit "output")).getD npos) = 0 := by decide
  refine ⟨(databaseOf fileName).csv.keysWith (tableOf entries).rows 0 key.text, ?_, ?_⟩
  · rw [Database.getKeyOfEntries, Method.run_bind_ok (getColumnNumber_run h _), hcolumn,
      Csv.getAllKeysWithValue_run h (Nat.zero_lt_succ 2)]
  · rw [Csv.keysWith, List.map_eq_nil_iff, List.filter_eq_nil_iff, tableOf, List.forall_mem_map]
    constructor
    · intro hnone hmem
      obtain ⟨entry, hentry, hkey⟩ := List.mem_map.mp hmem
      refine hnone entry hentry (decide_eq_true (.inr ?_))
      rw [Entry.read_key, hkey]
    · intro hnotMem entry hentry heq
      rcases of_decide_eq_true heq with hempty | hread
      · exact key.isCell.1 hempty
      · rw [Entry.read_key] at hread
        exact hnotMem (List.mem_map.mpr ⟨entry, hentry, Cell.ext hread⟩)

/-- A new output gets a row of its own. -/
theorem addEntry_run (h : HoldsEntries w fileName loc entries) {key : Cell}
    (hnew : key ∉ Register.keys entries) (date : Cell) :
    ((databaseOf fileName).addEntry [key.text, date.text, date.text]).run w =
      .ok () (writeFile loc (tableOf (record entries (key, date))).text w) := by
  have hcells : [key.text, date.text, date.text] = (Entry.row ⟨key, date, date⟩).cells := rfl
  have hkey : (Entry.row ⟨key, date, date⟩).cell 0 ∉ (tableOf entries).keys 0 := by
    rw [keys_tableOf]
    intro hmem
    obtain ⟨k, hk, he⟩ := List.mem_map.mp hmem
    have hk' : k = key := Cell.ext he
    exact hnew (hk' ▸ hk)
  rw [Database.addEntry, hcells, Csv.pushRow_run h hkey, tableOf_push, record_of_notMem hnew]

theorem getCell_run (h : HoldsEntries w fileName loc entries) {key : Cell} {i : Nat} {entry : Entry}
    (hi : (Register.keys entries).idxOf? key = some i) (hentry : entries[i]? = some entry)
    (hreadable : Csv.RowReadable i) :
    ((databaseOf fileName).getCell key.text (lit "creation_date")).run w =
      .ok entry.first.text w := by
  have hcolumn : ((columnNames.idxOf? (lit "creation_date")).getD npos) = 1 := by decide
  have hrow : (tableOf entries).rows[i]? = some entry.row := by
    rw [tableOf, List.getElem?_map, hentry]
    rfl
  rw [Database.getCell, Method.run_bind_ok (getRowNumber_run h key), hi, Option.getD_some,
    Method.run_bind_ok (getColumnNumber_run h _), hcolumn,
    Csv.getCell_run h (by decide) hreadable hrow, Entry.read_first]

theorem replaceEntry_run (h : HoldsEntries w fileName loc entries) {key : Cell} {i : Nat}
    {entry : Entry} (hi : (Register.keys entries).idxOf? key = some i)
    (hentry : entries[i]? = some entry) (hlt : i + 1 < 2 ^ 64) (date : Cell) :
    ((databaseOf fileName).replaceEntry key.text [key.text, entry.first.text, date.text]).run w =
      .ok () (writeFile loc (tableOf (record entries (key, date))).text w) := by
  have hkey : entry.key = key := by
    obtain ⟨hlt, hget, -⟩ := List.idxOf?_eq_some_iff.mp hi
    have hget' : (Register.keys entries)[i]? = some key := by
      rw [List.getElem?_eq_getElem hlt, hget]
    rw [Register.keys, List.getElem?_map, hentry] at hget'
    exact Option.some.inj hget'
  have hcells : [key.text, entry.first.text, date.text] =
      (Entry.row (entry.visited date)).cells := by
    rw [← hkey]
    rfl
  have hposition : ((tableOf entries).keys 0).idxOf? ((Entry.row (entry.visited date)).cell 0) =
      some i := by
    rw [← hi, ← idxOf?_tableOf, ← hkey]
    rfl
  rw [Database.replaceEntry, Method.run_bind_ok (getRowNumber_run h key), hi, Option.getD_some,
    hcells, Csv.replaceRow_run h hposition hlt, tableOf_replace hentry, record_of_idxOf hi]

/-- The row of an output, if it is known, has a number that can be read. -/
def Readable (entries : List Entry) (key : Cell) : Prop :=
  ∀ i, (Register.keys entries).idxOf? key = some i → Csv.RowReadable i

/-- What a turn adds to the commands. -/
def alerts (entries : List Entry) (ssid : Str) (key : Cell) : List Str :=
  if key ∈ Register.keys entries then []
  else [cStr (Communicator.notifyCommand (newApMessage ssid))]

/-- **A turn records a visit** and notifies of the first one. -/
theorem updateEntry_run (h : HoldsEntries w fileName loc entries) {key : Cell}
    (hreadable : Readable entries key) (ssid : Str) (date : Cell) :
    (updateEntry (databaseOf fileName) ssid key.text date.text).run w =
      .ok () { writeFile loc (tableOf (record entries (key, date))).text w with
        commands := w.commands ++ alerts entries ssid key } := by
  obtain ⟨keys, hkeys, hnone⟩ := getKeyOfEntries_run h key
  rw [updateEntry, Method.run_bind_ok hkeys, alerts]
  by_cases hmem : key ∈ Register.keys entries
  · obtain ⟨i, hi⟩ := Option.isSome_iff_exists.mp (List.isSome_idxOf?.mpr hmem)
    obtain ⟨hlt, -, -⟩ := List.idxOf?_eq_some_iff.mp hi
    have hlt' : i < entries.length := by simpa [Register.keys] using hlt
    have hentry := List.getElem?_eq_getElem hlt'
    rw [if_neg fun he => hnone.mp he hmem,
      Method.run_bind_ok (getCell_run h hi hentry (hreadable i hi)),
      replaceEntry_run h hi hentry (hreadable i hi).1, if_pos hmem, List.append_nil]
    rfl
  · rw [if_pos (hnone.mpr hmem), Method.run_bind_ok (addEntry_run h hmem date), if_neg hmem]
    rfl

end
end SnapDesk
