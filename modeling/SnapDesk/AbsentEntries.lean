import SnapDesk.Footprint
import SnapDesk.Keys

/-! # Entries that are not there

`replace_entry` asks for the row of the key and hands the answer on to `replace_row`, and
for a key that is not stored the answer is -1, the value that also says that the new key is
not stored.  `replace_row` compares the two, adds the size of the header and replaces the
line with that number: the header itself.  `get_cell` has a check for the row -1, and
`replace_row` has none.

So an absent entry is refused only if the key of the new row is stored, or if the file
begins with an empty line (`replaceEntry_absent_iff`). -/
namespace SnapDesk
open Delimited FileTree Transition

namespace Communicator
variable {w : World} {path : Str} {loc : List Str} {content : Str}

/-- An empty line cannot be replaced. -/
theorem replaceLine_run_of_empty (h : HasFile w path loc content) {number : Nat}
    (hline : lineAt content number = []) (newLine : Str) :
    (replaceLine path number newLine).run w =
      .error (.invalidArgument (lit "The line number " ++ decimal number ++ lit " does not exist")) w := by
  rw [replaceLine, Method.run_bind_ok (getLine_run h number), if_pos hline]
  rfl

/-- The file at the location, whatever it contains, stays there. -/
theorem addLine_keepsFile (path : Str) (loc : List Str) (line : Str) :
    (addLine path line).Keeps fun w => ∃ content, HasFile w path loc content := by
  rintro w ⟨content, h⟩
  constructor
  · intro a w' hrun
    cases (addLine_run h line).symm.trans hrun
    exact ⟨_, h.writeFile _⟩
  · intro e w' hrun
    cases (addLine_run h line).symm.trans hrun

theorem replaceLine_keepsFile (path : Str) (loc : List Str) (number : Nat) (newLine : Str) :
    (replaceLine path number newLine).Keeps fun w => ∃ content, HasFile w path loc content := by
  rintro w ⟨content, h⟩
  by_cases hline : lineAt content number = []
  · have herror := replaceLine_run_of_empty h hline newLine
    constructor
    · intro a w' hrun
      cases herror.symm.trans hrun
    · intro e w' hrun
      cases herror.symm.trans hrun
      exact ⟨content, h⟩
  · have hok := replaceLine_run h hline newLine
    constructor
    · intro a w' hrun
      cases hok.symm.trans hrun
      exact ⟨_, h.writeFile _⟩
    · intro e w' hrun
      cases hok.symm.trans hrun

end Communicator

namespace Database

/-- The calls that change entries. -/
inductive EntryCall where
  | addEntry (values : List Str)
  | replaceEntry (keyValue : Str) (values : List Str)

def EntryCall.action (database : Database) : EntryCall → Action Unit
  | addEntry values => database.addEntry values
  | replaceEntry keyValue values => database.replaceEntry keyValue values

/-- A call, whether it returns or throws. -/
inductive EntryStep (database : Database) : World → EntryCall → World → Prop
  | returns {w w' : World} {call : EntryCall} (h : (call.action database).run w = .ok () w') :
      EntryStep database w call w'
  | throws {w w' : World} {call : EntryCall} {e : Failure} (h : (call.action database).run w = .error e w') :
      EntryStep database w call w'

theorem EntryCall.keepsFile (database : Database) (loc : List Str) (call : EntryCall) :
    (call.action database).Keeps fun w => ∃ content, HasFile w database.csv.data loc content := by
  have hposition (key : Str) := (database.csv.getKeyPosition_reads key).keeps
    fun w => ∃ content, HasFile w database.csv.data loc content
  cases call with
  | addEntry values =>
    refine .bind (.lift _ _) fun _ => .bind (.lift _ _) fun key =>
      .bind (hposition key) fun position => ?_
    exact .ite (.throw _ _) (Communicator.addLine_keepsFile _ _ _)
  | replaceEntry keyValue values =>
    refine .bind (hposition keyValue) fun rowNumber => ?_
    refine .bind (.lift _ _) fun _ => .bind (.lift _ _) fun key =>
      .bind (hposition key) fun position => ?_
    exact .ite (.throw _ _) (Communicator.replaceLine_keepsFile _ _ _ _)

/-- The file stays, whatever is called. -/
theorem hasFile_of_run {database : Database} {loc : List Str} {w w' : World}
    {history : List EntryCall} (hrun : Run (EntryStep database) w history w')
    (h : ∃ content, HasFile w database.csv.data loc content) :
    ∃ content, HasFile w' database.csv.data loc content := by
  have hstep (u : World) (call : EntryCall) (v : World)
    (hu : ∃ content, HasFile u database.csv.data loc content)
      (huv : EntryStep database u call v) : ∃ content, HasFile v database.csv.data loc content := by
    cases huv with
    | returns hcall => exact (call.keepsFile database loc u hu).1 _ _ hcall
    | throws hcall => exact (call.keepsFile database loc u hu).2 _ _ hcall
  exact Run.invariant (I := fun w => ∃ content, HasFile w database.csv.data loc content) hstep hrun h

/-! ### Replacing an absent entry -/

/-- The call throws, and the data file is what it was. -/
def FailsCleanly (database : Database) (w : World) (keyValue : Str) (values : List Str) : Prop :=
  ∃ e w', (database.replaceEntry keyValue values).run w = .error e w' ∧ e.isException = true ∧
    openText w' database.csv.data = openText w database.csv.data

section
variable {database : Database} {w : World} {loc : List Str} {content key : Str} {values : List Str}
  {own : Str}

/-- An absent key leads to the header, unless the new key is stored. -/
theorem replaceEntry_run_absent (h : HasFile w database.csv.data loc content)
    (hsize : content.length < maxFileSize) (habsent : key ∉ database.csv.storedKeys content)
    (hwidth : values.length = database.csv.numberOfColumns)
    (hown : values[database.csv.keyColumnNumber]? = some own) :
    (database.replaceEntry key values).run w =
      if own ∈ database.csv.storedKeys content then .error (Csv.keyExists own) w
      else (Communicator.replaceLine database.csv.data 0 (Csv.valuesToLine values)).run w := by
  have hcolumns : 0 < database.csv.numberOfColumns := by
    have hlt := (List.getElem?_eq_some_iff.mp hown).1
    omega
  -- there are fewer rows than positions, so -1 is none of them
  have hlen : (database.csv.storedKeys content).length ≤ npos := by
    have hkeys := database.csv.length_storedKeys_le content
    rw [maxFileSize] at hsize
    rw [npos]
    omega
  have hrow : ((database.csv.storedKeys content).idxOf? key).getD npos = npos :=
    (Csv.position_eq_npos_iff hlen).mpr habsent
  have hvalue : database.csv.keyValue values = .ok own := by
    rw [Csv.keyValue, hown]
  have hvalues : database.csv.testValuesSize values = .ok () := if_neg (not_not_intro hwidth)
  rw [replaceEntry, Csv.getRowNumber,
    Method.run_bind_ok (Csv.getKeyPosition_run_of_open h.openText hcolumns key),
    Csv.replaceRow_run_of_position hvalues hvalue (Csv.getKeyPosition_run_of_open h.openText hcolumns own), hrow]
  -- the row number is -1, and so is the position of the new key unless it is stored
  by_cases hstored : own ∈ database.csv.storedKeys content
  · have hposition := mt (Csv.position_eq_npos_iff hlen).mp (not_not_intro hstored)
    rw [if_pos hstored, if_pos (by simpa using hposition)]
    rfl
  · rw [if_neg hstored, if_neg (not_not_intro (.inr ((Csv.position_eq_npos_iff hlen).mpr hstored)))]
    rfl

theorem failsCleanly_iff (h : HasFile w database.csv.data loc content)
    (hsize : content.length < maxFileSize)
    (habsent : key ∉ database.csv.storedKeys content)
    (hwidth : values.length = database.csv.numberOfColumns)
    (hown : values[database.csv.keyColumnNumber]? = some own) :
    database.FailsCleanly w key values ↔ own ∈ database.csv.storedKeys content ∨
      lineAt content 0 = [] := by
  have hrun := replaceEntry_run_absent h hsize habsent hwidth hown
  by_cases hstored : own ∈ database.csv.storedKeys content
  · rw [if_pos hstored] at hrun
    exact ⟨fun _ => .inl hstored, fun _ => ⟨_, w, hrun, rfl, rfl⟩⟩
  rw [if_neg hstored] at hrun
  by_cases hline : lineAt content 0 = []
  · rw [Communicator.replaceLine_run_of_empty h hline] at hrun
    exact ⟨fun _ => .inr hline, fun _ => ⟨_, w, hrun, rfl, rfl⟩⟩
  · rw [Communicator.replaceLine_run h hline] at hrun
    constructor
    · rintro ⟨e, w', herror, -⟩
      cases hrun.symm.trans herror
    · rintro (hmem | hempty)
      · exact absurd hmem hstored
      · exact absurd hempty hline

end

/-- **An absent entry is not replaced** if and only if the key of the new row is stored, or
the file begins with an empty line; this is so after any calls on a new file. -/
theorem replaceEntry_absent_iff {fileName : Str} {csv : Csv} {w₀ w₁ w : World}
    {history : List EntryCall} (hzero : 0 ∉ fileName)
    (hcreate : (Csv.create fileName columnNames keyColumnNumber).run w₀ = .ok csv w₁)
    (hrun : Run (EntryStep ⟨csv⟩) w₁ history w) {content : Str}
    (hcontent : openText w csv.data = some content)
    (hsize : content.length < maxFileSize) {key own : Str} {values : List Str}
    (habsent : key ∉ csv.storedKeys content) (hwidth : values.length = columnNames.length)
    (hown : values[keyColumnNumber]? = some own) :
    (⟨csv⟩ : Database).FailsCleanly w key values ↔ own ∈ csv.storedKeys content ∨
      lineAt content 0 = [] := by
  obtain ⟨loc, hnumber, hkey, hfile⟩ := Csv.create_ok hzero hcreate
  obtain ⟨content', hfile'⟩ := hasFile_of_run hrun ⟨_, hfile⟩
  cases hfile'.openText.symm.trans hcontent
  exact failsCleanly_iff hfile' hsize habsent (hwidth.trans hnumber.symm) (hkey ▸ hown)

/-- A new file: the header, and no entries. -/
def newWorld : World :=
  Csv.created [lit "t.csv"] [lit "t.metadata"] columnNames keyColumnNumber Csv.emptyWorld

theorem create_newWorld :
    (Csv.create (lit "t") columnNames keyColumnNumber).run Csv.emptyWorld =
      .ok (Csv.ofFiles (lit "t") 3 0) newWorld :=
  Csv.create_run_of_names rfl rfl rfl rfl (by decide) _ _

theorem hasFile_newWorld :
    HasFile newWorld (lit "t.csv") [lit "t.csv"] (terminate newline [Csv.valuesToLine columnNames]) :=
  (Csv.hasFile_created (show locate Csv.emptyWorld (lit "t" ++ dataExtention) = some [lit "t.csv"] from rfl) rfl rfl
    rfl (by decide) columnNames keyColumnNumber).1

/-- Two entries are added to the new file; adding the first one again is refused. -/
def twoEntries : List EntryCall :=
  [.addEntry [lit "a", lit "1/1", lit "1/1"], .addEntry [lit "a", lit "2/1", lit "2/1"],
    .addEntry [lit "c", lit "2/1", lit "2/1"]]

/-- A third entry is replaced by one with the key of the second. -/
theorem replaceEntry_absent_iff_new :
    ∃ w content, Run (EntryStep ⟨Csv.ofFiles (lit "t") 3 0⟩) newWorld twoEntries w ∧
      openText w (lit "t.csv") = some content ∧
      (Csv.ofFiles (lit "t") 3 0).storedKeys content = [lit "a", lit "c"] ∧
      ((⟨Csv.ofFiles (lit "t") 3 0⟩ : Database).FailsCleanly w (lit "b")
          [lit "c", lit "3/1", lit "3/1"] ↔
        lit "c" ∈ (Csv.ofFiles (lit "t") 3 0).storedKeys content ∨ lineAt content 0 = []) := by
  have hfirst : EntryStep ⟨Csv.ofFiles (lit "t") 3 0⟩ newWorld
      (.addEntry [lit "a", lit "1/1", lit "1/1"]) _ := .returns rfl
  have hagain : Run (EntryStep ⟨Csv.ofFiles (lit "t") 3 0⟩) newWorld
      [_, .addEntry [lit "a", lit "2/1", lit "2/1"]] _ :=
    ((Run.nil _).snoc hfirst).snoc (.throws rfl)
  have hrun : Run (EntryStep ⟨Csv.ofFiles (lit "t") 3 0⟩) newWorld twoEntries _ :=
    hagain.snoc (.returns rfl)
  refine ⟨_, _, hrun, rfl, by decide, ?_⟩
  exact replaceEntry_absent_iff (by decide) create_newWorld hrun rfl (by decide) (by decide) rfl rfl

/-- The header of the new file is replaced. -/
theorem not_replaceEntry_absent :
    ¬ ∀ (fileName : Str) (csv : Csv) (w₀ w₁ w : World) (history : List EntryCall), 0 ∉ fileName →
      (Csv.create fileName columnNames keyColumnNumber).run w₀ = .ok csv w₁ →
      Run (EntryStep ⟨csv⟩) w₁ history w → ∀ content, openText w csv.data = some content →
      content.length < maxFileSize → ∀ (key : Str) (values : List Str),
        key ∉ csv.storedKeys content →
      values.length = columnNames.length → (⟨csv⟩ : Database).FailsCleanly w key values := by
  intro h
  have hfails := h _ _ _ _ _ [] (by decide) create_newWorld (.nil _) _ hasFile_newWorld.openText
    (by decide)
    (lit "b") [lit "a", lit "1/1", lit "1/1"] (by decide) rfl
  have hnot := (failsCleanly_iff hasFile_newWorld (by decide) (by decide) rfl rfl).mp hfails
  exact absurd hnot (by decide)

end Database
end SnapDesk
