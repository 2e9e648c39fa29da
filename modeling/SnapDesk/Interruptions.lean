import SnapDesk.ScriptEdits
import SnapDesk.Keys
import SnapDesk.Stepwise

/-! # Updates that are interrupted

The program is a service that is started again whenever it ends, so it may stop between
any two steps that an operation makes on the file system: making a file empty, adding a
line, writing a new content.  `create` takes five steps over two files, `push_row` one,
and `replace_row` two, the first of which empties the file.

After the stop the constructor of `Database` looks for the data file alone.  It finds the
rows from before or after the operation exactly if the operation `Survives` the stop
(`recovers_iff`): a push always does, a replacement does not between its two steps unless
there are no rows, and `create` does before its first step and after its last one; between them
the metadata file is not there, or does not have its two numbers yet. -/
namespace SnapDesk
open Delimited FileTree Stepwise

/-! ### Operations as steps -/

namespace Communicator

/-- `new_file`: the file is made, or made empty. -/
def newFileSteps (path : Str) : Program World Failure Unit := do
  match openWritable (← read get) path with
  | none => return ()
  | some loc => step (writeFile loc [])

/-- `add_line`: opening makes a file that is not there. -/
def addLineSteps (path line : Str) : Program World Failure Unit := do
  let w ← read get
  match openWritable w path with
  | none => fail (failedToOpen path)
  | some loc => do
      if w.fs loc = none then step (writeFile loc [])
      step fun w => writeFile loc (contentAt w loc ++ line ++ [newline]) w

/-- `replace_line`: opening the file for writing makes it empty. -/
def replaceLineSteps (path : Str) (number : Nat) (newLine : Str) : Program World Failure Unit := do
  let old ← read (getLine path number)
  if old = [] then
    fail (.invalidArgument (lit "The line number " ++ decimal number ++ lit " does not exist"))
  else do
    let w ← read get
    match openText w path, openWritable w path with
    | some content, some loc => do
        step (writeFile loc [])
        step (writeFile loc (replaceText content number newLine))
    | _, _ => fail (failedToOpen path)

end Communicator

namespace Csv

def createSteps (fileName : Str) (columnNames : List Str) (keyColumnNumber : Nat) :
    Program World Failure Csv := do
  Communicator.newFileSteps (fileName ++ dataExtention)
  Communicator.addLineSteps (fileName ++ dataExtention) (valuesToLine columnNames)
  Communicator.newFileSteps (fileName ++ metadataExtention)
  Communicator.addLineSteps (fileName ++ metadataExtention) (decimal keyColumnNumber)
  Communicator.addLineSteps (fileName ++ metadataExtention) (decimal columnNames.length)
  read (new fileName)

def pushRowSteps (csv : Csv) (values : List Str) : Program World Failure Unit := do
  read (csv.testValuesSize values)
  let key ← read (csv.keyValue values)
  if (← read (csv.getKeyPosition key)) ≠ npos then fail (keyExists key)
  else Communicator.addLineSteps csv.data (valuesToLine values)

def replaceRowSteps (csv : Csv) (rowNumber : Nat) (values : List Str) : Program World Failure Unit := do
  read (csv.testValuesSize values)
  let key ← read (csv.keyValue values)
  let keyPosition ← read (csv.getKeyPosition key)
  if ¬ (keyPosition = rowNumber ∨ keyPosition = npos) then fail (keyExists key)
  else Communicator.replaceLineSteps csv.data (add64 rowNumber headerSize) (valuesToLine values)

end Csv

/-! ### The steps are those of the operations -/

section
variable {α : Type} {m : Action α}

/-- What reads only takes no step. -/
theorem ReadsOnly.implements (h : ReadsOnly m) : Implements m (read m) := by
  apply Implements.read
  intro w
  obtain ⟨hok, herror⟩ := h w w rfl
  exact ⟨fun a t hrun => hok a t hrun, fun e t hrun => herror e t hrun⟩

end

namespace Communicator
variable {w : World} {path : Str} {loc : List Str}

theorem newFileSteps_apply (h : openWritable w path = some loc) :
    newFileSteps path w = ([writeFile loc [] w], .ok ()) := by
  rw [newFileSteps, bind_read_ok (Method.run_get w), h]
  rfl

/-- A line is added in one step, unless the file is made first. -/
theorem addLineSteps_apply (h : openWritable w path = some loc) (line : Str) :
    addLineSteps path line w =
      ((if w.fs loc = none then [writeFile loc [] w] else []) ++
        [writeFile loc (contentAt w loc ++ line ++ [newline]) w], .ok ()) := by
  rw [addLineSteps, bind_read_ok (Method.run_get w), h]
  by_cases hnone : w.fs loc = none
  · have hcontent : contentAt w loc = [] := by rw [contentAt, hnone]
    have hmade : contentAt (writeFile loc [] w) loc = [] := by simp [contentAt, writeFile]
    simp only [if_pos hnone, bind_step, hcontent, List.singleton_append]
    rw [step, hmade, writeFile_writeFile]
  · simp only [if_neg hnone, List.nil_append]
    rfl

/-- On a file that has been made, a line is one step. -/
theorem addLineSteps_writeFile (h : locate w path = some loc) (hf : isFolder w.fs loc = false)
    (content line : Str) :
    addLineSteps path line (writeFile loc content w) =
      ([writeFile loc (content ++ line ++ [newline]) w], .ok ()) := by
  have hopen : openWritable (writeFile loc content w) path = some loc :=
    openWritable_eq ((locate_writeFile hf content path).trans h) ((isFolder_put_file hf content loc).trans hf)
  have hentry : (writeFile loc content w).fs loc = some (.file content) := put_self ..
  have hcontent : contentAt (writeFile loc content w) loc = content := by rw [contentAt, hentry]
  rw [addLineSteps_apply hopen, if_neg (by rw [hentry]; exact Option.some_ne_none _), hcontent,
    writeFile_writeFile]
  rfl

theorem replaceLineSteps_apply {number : Nat} {old content : Str}
    (hold : (getLine path number).run w = .ok old w) (hne : old ≠ [])
    (hread : openText w path = some content) (h : openWritable w path = some loc) (newLine : Str) :
    replaceLineSteps path number newLine w =
      ([writeFile loc [] w, writeFile loc (replaceText content number newLine) w], .ok ()) := by
  rw [replaceLineSteps, bind_read_ok hold, if_neg hne, bind_read_ok (Method.run_get w), hread, h]
  simp only [bind_step, step, writeFile_writeFile]

/-- A line that is there is replaced in two steps. -/
theorem replaceLineSteps_cases {content : Str} (hread : openText w path = some content)
    (h : openWritable w path = some loc) (number : Nat) (newLine : Str) :
    (replaceLineSteps path number newLine w).1 = [] ∨
      lineAt content number ≠ [] ∧ (replaceLineSteps path number newLine w).1 =
        [writeFile loc [] w, writeFile loc (replaceText content number newLine) w] := by
  have hline := getLine_run_of_open hread number
  by_cases hold : lineAt content number = []
  · refine .inl ?_
    rw [replaceLineSteps, bind_read_ok hline, if_pos hold]
    rfl
  · refine .inr ⟨hold, ?_⟩
    rw [replaceLineSteps_apply hline hold hread h]

theorem newFile_implements (path : Str) : Implements (newFile path) (newFileSteps path) := by
  apply Implements.get_bind
  intro w
  cases openWritable w path with
  | none => rfl
  | some loc => rfl

theorem addLine_implements (path line : Str) :
    Implements (addLine path line) (addLineSteps path line) := by
  intro w
  rw [ImplementsAt, addLine, Method.run_bind_ok (Method.run_get w)]
  cases hopen : openWritable w path with
  | none =>
    rw [ends, addLineSteps, bind_read_ok (Method.run_get w), hopen]
    rfl
  | some loc =>
    rw [ends, addLineSteps_apply hopen, last, List.getLast?_concat]
    rfl

theorem replaceLine_implements (path : Str) (number : Nat) (newLine : Str) :
    Implements (replaceLine path number newLine) (replaceLineSteps path number newLine) := by
  refine .bind (getLine_reads path number).implements fun old => ?_
  by_cases hold : old = []
  · rw [if_pos hold, if_pos hold]
    exact .fail _
  · rw [if_neg hold, if_neg hold]
    apply Implements.get_bind
    intro w
    cases openText w path with
    | none => rfl
    | some content =>
      cases openWritable w path with
      | none => rfl
      | some loc =>
        simp only [ImplementsAt, ends, bind_step, step, writeFile_writeFile]
        rfl

end Communicator

namespace Csv

theorem create_implements (fileName : Str) (columnNames : List Str) (keyColumnNumber : Nat) :
    Implements (create fileName columnNames keyColumnNumber)
      (createSteps fileName columnNames keyColumnNumber) := by
  refine .bind (Communicator.newFile_implements _) fun _ => ?_
  refine .bind (Communicator.addLine_implements _ _) fun _ => ?_
  refine .bind (Communicator.newFile_implements _) fun _ => ?_
  refine .bind (Communicator.addLine_implements _ _) fun _ => ?_
  exact .bind (Communicator.addLine_implements _ _) fun _ => (new_reads fileName).implements

theorem pushRow_implements (csv : Csv) (values : List Str) :
    Implements (csv.pushRow values) (csv.pushRowSteps values) := by
  refine .bind (ReadsOnly.lift _).implements fun _ => .bind (ReadsOnly.lift _).implements fun key => ?_
  refine .bind (csv.getKeyPosition_reads key).implements fun position => ?_
  by_cases hposition : position ≠ npos
  · rw [if_pos hposition, if_pos hposition]
    exact .fail _
  · rw [if_neg hposition, if_neg hposition]
    exact Communicator.addLine_implements _ _

theorem replaceRow_implements (csv : Csv) (rowNumber : Nat) (values : List Str) :
    Implements (csv.replaceRow rowNumber values) (csv.replaceRowSteps rowNumber values) := by
  refine .bind (ReadsOnly.lift _).implements fun _ => .bind (ReadsOnly.lift _).implements fun key => ?_
  refine .bind (csv.getKeyPosition_reads key).implements fun position => ?_
  by_cases hposition : ¬ (position = rowNumber ∨ position = npos)
  · rw [if_pos hposition, if_pos hposition]
    exact .fail _
  · rw [if_neg hposition, if_neg hposition]
    exact Communicator.replaceLine_implements _ _ _

end Csv

/-! ### What the steps are -/

namespace Csv
variable {w : World} {fileName : Str} {loc mloc : List Str}

/-- The files of a table are made in five steps. -/
theorem createSteps_apply (hdata : locate w (fileName ++ dataExtention) = some loc)
    (hmetadata : locate w (fileName ++ metadataExtention) = some mloc)
    (hloc : isFolder w.fs loc = false) (hmloc : isFolder w.fs mloc = false)
    (columnNames : List Str) (key : Nat) :
    (createSteps fileName columnNames key w).1 =
      [writeFile loc [] w, writeFile loc (terminate newline [valuesToLine columnNames]) w,
        writeFile mloc [] (writeFile loc (terminate newline [valuesToLine columnNames]) w),
        writeFile mloc (terminate newline [decimal key])
          (writeFile loc (terminate newline [valuesToLine columnNames]) w),
        created loc mloc columnNames key w] := by
  have hother := located_writeFile hloc hmetadata hmloc
  have htext : [] ++ valuesToLine columnNames ++ [newline] =
      terminate newline [valuesToLine columnNames] := by
    simp
  have hkey : [] ++ decimal key ++ [newline] = terminate newline [decimal key] := by simp
  have hboth : terminate newline [decimal key] ++ decimal columnNames.length ++ [newline] =
      metadataText key columnNames.length := by simp [metadataText]
  unfold createSteps
  rw [steps_bind_one (Communicator.newFileSteps_apply (openWritable_eq hdata hloc)),
    steps_bind_one (Communicator.addLineSteps_writeFile hdata hloc _ _), htext,
    steps_bind_one (Communicator.newFileSteps_apply (openWritable_eq (hother _).1 (hother _).2)),
    steps_bind_one (Communicator.addLineSteps_writeFile (hother _).1 (hother _).2 _ _), hkey,
    steps_bind_one (Communicator.addLineSteps_writeFile (hother _).1 (hother _).2 _ _), hboth,
      steps_read,
    created]

/-- Both changes look the key up before their first step. -/
theorem lookup_cases (csv : Csv) (values : List Str) (f : Str → Nat → Program World Failure Unit)
    (w : World) :
    ((do
      read (csv.testValuesSize values)
      let key ← read (csv.keyValue values)
      let position ← read (csv.getKeyPosition key)
      f key position : Program World Failure Unit) w).1 = [] ∨
    ∃ key position, (do
      read (csv.testValuesSize values)
      let key ← read (csv.keyValue values)
      let position ← read (csv.getKeyPosition key)
      f key position : Program World Failure Unit) w = f key position w := by
  rcases bind_read_cases (liftM (csv.testValuesSize values) : Action Unit) _ w with h | ⟨_, _, -, h⟩
  · exact .inl h
  rw [h]
  rcases bind_read_cases (liftM (csv.keyValue values) : Action Str) _ w with h | ⟨key, _, -, h⟩
  · exact .inl h
  rw [h]
  rcases bind_read_cases (csv.getKeyPosition key) _ w with h | ⟨position, _, -, h⟩
  · exact .inl h
  · exact .inr ⟨key, position, h⟩

/-- A push takes no step or adds a line. -/
theorem pushRowSteps_cases (csv : Csv) (values : List Str) (w : World) :
    (csv.pushRowSteps values w).1 = [] ∨
      csv.pushRowSteps values w = Communicator.addLineSteps csv.data (valuesToLine values) w := by
  rcases csv.lookup_cases values _ w with h | ⟨key, position, h⟩
  · exact .inl h
  · by_cases hposition : position ≠ npos
    · rw [if_pos hposition] at h
      exact .inl (congrArg Prod.fst h)
    · rw [if_neg hposition] at h
      exact .inr h

/-- A replacement takes no step or replaces a line. -/
theorem replaceRowSteps_cases (csv : Csv) (rowNumber : Nat) (values : List Str) (w : World) :
    (csv.replaceRowSteps rowNumber values w).1 = [] ∨
      csv.replaceRowSteps rowNumber values w =
        Communicator.replaceLineSteps csv.data (add64 rowNumber headerSize)
          (valuesToLine values) w := by
  rcases csv.lookup_cases values _ w with h | ⟨key, position, h⟩
  · exact .inl h
  · by_cases hposition : ¬ (position = rowNumber ∨ position = npos)
    · rw [if_pos hposition] at h
      exact .inl (congrArg Prod.fst h)
    · rw [if_neg hposition] at h
      exact .inr h

/-- A row of a table is replaced in two steps. -/
theorem replaceRowSteps_table {n : Nat} {csv : Csv} {w : World} {loc : List Str} {t : Table n}
    (h : csv.Holds w loc t) {r : Row n} {i : Nat}
    (hkey : (t.keys csv.keyColumnNumber).idxOf? (r.cell csv.keyColumnNumber) = some i)
    (hi : i + 1 < 2 ^ 64) :
    (csv.replaceRowSteps i r.cells w).1 =
      [writeFile loc [] w, writeFile loc (t.replace i r).text w] := by
  have hlt : i < t.rows.length := by
    obtain ⟨hlt, -⟩ := List.idxOf?_eq_some_iff.mp hkey
    simpa [Table.keys] using hlt
  have hline : lineAt t.text (i + 1) ≠ [] := by
    rw [t.lineAt_text, Table.lines, List.map_cons, List.getElem?_cons_succ, List.getElem?_map,
      List.getElem?_eq_getElem hlt]
    exact Row.line_ne_nil _ (Nat.zero_lt_of_lt h.key)
  have hposition := getKeyPosition_run h (r.cell csv.keyColumnNumber)
  rw [hkey, Option.getD_some] at hposition
  rw [replaceRowSteps, h.holdsRows.testValuesSize, bind_read_ok (Method.run_lift_ok () w),
    h.holdsRows.keyValue,
    bind_read_ok (Method.run_lift_ok _ w), bind_read_ok hposition,
      if_neg (not_not_intro (Or.inl rfl)),
    headerSize, add64_eq hi,
    Communicator.replaceLineSteps_apply (Communicator.getLine_run h.file (i + 1)) hline h.file.openText
      (openWritable_eq h.file.locate h.file.notFolder), ← t.replaceText_text hlt]
  rfl

end Csv

/-! ### Opening the database again -/

/-- The two numbers of a metadata file can be read. -/
def MetadataReads (w : World) (loc : List Str) : Prop :=
  ∃ numberOfColumns keyColumnNumber,
    scanSize (lineAt (contentAt w loc) columnNumberLineNumber) = .ok numberOfColumns ∧
      scanSize (lineAt (contentAt w loc) keyLineNumber) = .ok keyColumnNumber

/-- The folders of a code are there, and from them an SSID leads to its site. -/
structure Lodged (digest : Str → Vector UInt8 32) (codeFileName code ssid : Str) (site : Site) (w : World) :
    Prop where
  cwd : w.fs w.cwd = some .folder
  root : w.fs (Database.rootLoc w.cwd) = some .folder
  codeFolder : w.fs (Database.codeLoc w.cwd codeFileName) = some .folder
  hashFolder : w.fs (Database.hashLoc digest codeFileName code w.cwd) = some .folder
  site : siteFrom w.fs (Database.hashLoc digest codeFileName code w.cwd) ssid = some site

/-- The database is opened again, and its rows are those of one of two worlds. -/
def Recovers (digest : Str → Vector UInt8 32) (codeFileName ssid : Str) (site : Site)
    (before after w : World) : Prop :=
  ∃ database w', (Database.new digest ssid codeFileName).run w = .ok database w' ∧
    (database.csv.dataRows w' = fileRows before site.data ∨ database.csv.dataRows w' = fileRows after site.data)

theorem scanSize_nil : scanSize [] = .error .undefinedBehaviour := rfl

theorem lineAt_nil (number : Nat) : lineAt [] number = [] := by
  rw [lineAt_eq]
  rfl

/-- Without a second line there is no second number. -/
theorem not_scanned_of_nil {numbers : Str} (h : lineAt numbers columnNumberLineNumber = []) :
    ¬ ∃ numberOfColumns keyColumnNumber,
      scanSize (lineAt numbers columnNumberLineNumber) = .ok numberOfColumns ∧
        scanSize (lineAt numbers keyLineNumber) = .ok keyColumnNumber := by
  rintro ⟨numberOfColumns, keyColumnNumber, hcolumns, -⟩
  rw [h, scanSize_nil] at hcolumns
  cases hcolumns

/-- Without text there are no numbers. -/
theorem not_metadataReads_of_nil {w : World} {loc : List Str} (h : contentAt w loc = []) :
    ¬ MetadataReads w loc :=
  not_scanned_of_nil (by rw [h, lineAt_nil])

theorem metadataReads_of_fs {w w' : World} {loc : List Str} (h : w'.fs loc = w.fs loc) :
    MetadataReads w' loc ↔ MetadataReads w loc := by
  have hcontent : contentAt w' loc = contentAt w loc := by
    rw [contentAt, h]
    rfl
  rw [MetadataReads, MetadataReads, hcontent]

/-- What is read under a path is the content of its location. -/
theorem openText_getD {w : World} {path : Str} {loc : List Str} (h : locate w path = some loc) :
    (openText w path).getD [] = contentAt w loc := by
  rw [openText, h, Option.bind_some, contentAt]
  rcases w.fs loc with - | (- | content)
  · rfl
  · rfl
  · rfl

/-- **Two files are opened** exactly if the numbers in the second can be read. -/
theorem Csv.new_run_iff {w : World} {fileName : Str} {mloc : List Str}
    (hdata : (openText w (fileName ++ dataExtention)).isSome = true)
    (hmetadata : locate w (fileName ++ metadataExtention) = some mloc) :
    (∃ csv w', (Csv.new fileName).run w = .ok csv w') ↔ MetadataReads w mloc := by
  have hcontent := openText_getD hmetadata
  rw [Csv.new, Method.run_bind_ok (Communicator.exist_run w _), hdata, Bool.not_true,
    if_neg Bool.false_ne_true, Method.run_bind_ok (Communicator.exist_run w _)]
  cases hopen : openText w (fileName ++ metadataExtention) with
  | none =>
    rw [hopen, Option.getD_none] at hcontent
    constructor
    · rintro ⟨csv, w', hrun⟩
      cases hrun
    · intro hreads
      exact absurd hreads (not_metadataReads_of_nil hcontent.symm)
  | some content =>
    rw [hopen, Option.getD_some] at hcontent
    rw [Option.isSome_some, Bool.not_true, if_neg Bool.false_ne_true,
      Method.run_bind_ok (Communicator.getLine_run_of_open hopen _), MetadataReads, ← hcontent]
    cases hcolumns : scanSize (lineAt content columnNumberLineNumber) with
    | error e =>
      rw [Method.run_bind_error (Method.run_lift_error e w)]
      constructor
      · rintro ⟨csv, w', hrun⟩
        cases hrun
      · rintro ⟨numberOfColumns, keyColumnNumber, h, -⟩
        cases h
    | ok numberOfColumns =>
      rw [Method.run_bind_ok (Method.run_lift_ok _ w),
        Method.run_bind_ok (Communicator.getLine_run_of_open hopen _)]
      cases hkey : scanSize (lineAt content keyLineNumber) with
      | error e =>
        rw [Method.run_bind_error (Method.run_lift_error e w)]
        constructor
        · rintro ⟨csv, w', hrun⟩
          cases hrun
        · rintro ⟨numberOfColumns, keyColumnNumber, -, h⟩
          cases h
      | ok keyColumnNumber =>
        rw [Method.run_bind_ok (Method.run_lift_ok _ w)]
        constructor
        · intro _
          exact ⟨numberOfColumns, keyColumnNumber, rfl, rfl⟩
        · intro _
          exact ⟨_, w, rfl⟩

namespace Lodged
variable {digest : Str → Vector UInt8 32} {codeFileName code ssid : Str} {site : Site} {w : World}

theorem house (h : Lodged digest codeFileName code ssid site w) :
    Database.house digest codeFileName code w = w :=
  Database.house_of_folders h.codeFolder h.hashFolder

theorem ground (h : Lodged digest codeFileName code ssid site w) :
    Database.Ground digest codeFileName code w :=
  ⟨h.cwd, h.root, free_of_folder h.codeFolder, free_of_folder h.hashFolder⟩

/-- The folders are all that counts. -/
theorem of_folders (h : Lodged digest codeFileName code ssid site w) {w' : World}
    (hcwd : w'.cwd = w.cwd) (hfolders : ∀ loc, isFolder w'.fs loc = isFolder w.fs loc) :
    Lodged digest codeFileName code ssid site w' := by
  have hfolder {loc : List Str} (hloc : w.fs loc = some .folder) : w'.fs loc = some .folder :=
    isFolder_iff.mp ((hfolders loc).trans (isFolder_iff.mpr hloc))
  refine ⟨?_, ?_, ?_, ?_, ?_⟩
  · rw [hcwd]
    exact hfolder h.cwd
  · rw [hcwd]
    exact hfolder h.root
  · rw [hcwd]
    exact hfolder h.codeFolder
  · rw [hcwd]
    exact hfolder h.hashFolder
  · rw [hcwd]
    exact (siteFrom_congr hfolders _ _).trans h.site

theorem writeFile (h : Lodged digest codeFileName code ssid site w) {loc : List Str}
    (hf : isFolder w.fs loc = false) (content : Str) :
    Lodged digest codeFileName code ssid site (SnapDesk.writeFile loc content w) :=
  h.of_folders rfl (isFolder_put_file hf content)

variable (hne : codeFileName ≠ []) (hzero : 0 ∉ codeFileName)
include hne hzero

theorem leadsTo (h : Lodged digest codeFileName code ssid site w) :
    LeadsTo w (Database.hashFolder digest codeFileName code) (Database.hashLoc digest codeFileName code w.cwd) := by
  have hleads := Database.leadsTo_house h.ground hne hzero
  rwa [h.house] at hleads

/-- The paths of the two files. -/
theorem locate (h : Lodged digest codeFileName code ssid site w) (hssid : 0 ∉ ssid) :
    SnapDesk.locate w (Database.destinationFileName digest codeFileName code ssid ++ dataExtention) =
        some site.data ∧
      SnapDesk.locate w (Database.destinationFileName digest codeFileName code ssid ++ metadataExtention) =
        some site.metadata := by
  have hfiles := Database.locate_files (h.leadsTo hne hzero) hssid
  rwa [h.site] at hfiles

/-- The constructor opens the files, or makes them. -/
theorem new_run (h : Lodged digest codeFileName code ssid site w)
    (hcode : Database.codeOf w codeFileName = code) :
    (Database.new digest ssid codeFileName).run w =
      (Database.openCsv (Database.destinationFileName digest codeFileName code ssid) >>= fun csv =>
        (pure ⟨csv⟩ : Action Database)).run w := by
  have hmade : Database.codeOf (makeFolder (Database.codeLoc w.cwd codeFileName) w) codeFileName =
      code := by
    rwa [makeFolder_of_folder h.codeFolder]
  rw [Database.new_run h.ground hne hzero hmade, h.house]

/-- A data file that is there is read again, if the other file can be. -/
theorem recovers_of_file (h : Lodged digest codeFileName code ssid site w)
    (hcode : Database.codeOf w codeFileName = code) (hssid : 0 ∉ ssid) {content : Str}
    (hdata : w.fs site.data = some (.file content)) (before after : World) :
    Recovers digest codeFileName ssid site before after w ↔
      MetadataReads w site.metadata ∧
        (fileRows w site.data = fileRows before site.data ∨ fileRows w site.data = fileRows after site.data) := by
  obtain ⟨hdataLoc, hmetadataLoc⟩ := h.locate hne hzero hssid
  have hopen : (openText w (Database.destinationFileName digest codeFileName code ssid ++ dataExtention)).isSome =
      true := by
    rw [openText, hdataLoc, Option.bind_some, hdata]
    rfl
  -- the data file is there, so the database is opened as soon as its numbers are read
  have hcsv := Csv.new_run_iff hopen hmetadataLoc
  have hrows {csv : Csv} {w' : World}
      (hrun : (Csv.new (Database.destinationFileName digest codeFileName code ssid)).run w = .ok csv w') :
      csv.dataRows w = fileRows w site.data := by
    rw [Csv.dataRows, (Database.csv_new_files hrun).1, openText_getD hdataLoc, fileRows]
  have hopenCsv : (Database.openCsv (Database.destinationFileName digest codeFileName code ssid)).run w =
      (Csv.new (Database.destinationFileName digest codeFileName code ssid)).run w := by
    rw [Database.openCsv, Method.run_bind_ok (Communicator.exist_run w _), hopen, if_pos rfl]
  rw [Recovers, h.new_run hne hzero hcode]
  constructor
  · rintro ⟨database, w', hrun, hkept⟩
    obtain ⟨csv, w₁, hnew, hpure⟩ := Method.run_bind_eq_ok hrun
    rw [hopenCsv] at hnew
    obtain rfl : w₁ = w := (Csv.new_reads _ w w rfl).1 csv w₁ hnew
    cases hpure
    rw [hrows hnew] at hkept
    exact ⟨hcsv.mp ⟨csv, _, hnew⟩, hkept⟩
  · rintro ⟨hreads, hkept⟩
    obtain ⟨csv, w₁, hnew⟩ := hcsv.mpr hreads
    obtain rfl : w₁ = w := (Csv.new_reads _ w w rfl).1 csv w₁ hnew
    refine ⟨⟨csv⟩, _, Method.run_bind_ok (hopenCsv.trans hnew), ?_⟩
    rwa [hrows hnew]

/-- Where no data file is, an empty one is made. -/
theorem recovers_of_none (h : Lodged digest codeFileName code ssid site w)
    (hcode : Database.codeOf w codeFileName = code) (hssid : 0 ∉ ssid)
    (hstands : Stands w.fs site none)
    {before : World} (after : World) (hbefore : fileRows before site.data = []) :
    Recovers digest codeFileName ssid site before after w := by
  obtain ⟨hdataLoc, -⟩ := h.locate hne hzero hssid
  have hmade := Database.openCsv_run_new (h.leadsTo hne hzero) hssid h.site hstands
  have hrun : (Database.new digest ssid codeFileName).run w =
      .ok (databaseOf (Database.destinationFileName digest codeFileName code ssid))
        { w with fs := putEntries w.fs site [] } := by
    rw [h.new_run hne hzero hcode]
    exact Method.run_bind_ok hmade
  refine ⟨_, _, hrun, .inl ?_⟩
  have hdata : putEntries w.fs site [] site.data = some (.file (tableOf []).text) :=
    (stands_putEntries w.fs site []).1
  have hloc : SnapDesk.locate { w with fs := putEntries w.fs site [] }
      (Database.destinationFileName digest codeFileName code ssid ++ dataExtention) =
        some site.data := by
    rw [SnapDesk.locate, walk_congr (isFolder_putEntries hstands [])]
    exact hdataLoc
  have hopen : (openText { w with fs := putEntries w.fs site [] }
      (Database.destinationFileName digest codeFileName code ssid ++ dataExtention)).getD [] =
        (tableOf []).text := by
    rw [openText_getD hloc, contentAt]
    simp only [hdata]
  have hpath : (databaseOf (Database.destinationFileName digest codeFileName code ssid)).csv.data =
      Database.destinationFileName digest codeFileName code ssid ++ dataExtention := rfl
  rw [hbefore, Csv.dataRows, hpath, hopen, Table.text,
    fields_terminate newline (tableOf []).newline_notMem_lines]
  rfl

end Lodged

/-! ### The operations -/

/-- An operation that writes a storage file. -/
inductive Update where
  | create (columnNames : List Str) (keyColumnNumber : Nat)
  | change (csv : Csv) (call : CsvCall)

def CsvCall.steps (csv : Csv) : CsvCall → Program World Failure Unit
  | pushRow values => csv.pushRowSteps values
  | replaceRow rowNumber values => csv.replaceRowSteps rowNumber.toNat values

/-- The files of a site hold lines, the first of which is a header, and their numbers. -/
structure Filed (w : World) (site : Site) (lines : List Str) : Prop where
  data : w.fs site.data = some (.file (terminate newline lines))
  plain : ∀ l ∈ lines, newline ∉ l
  metadata : MetadataReads w site.metadata

namespace Update

def action (fileName : Str) : Update → Action Unit
  | create columnNames keyColumnNumber => do
      let _ ← Csv.create fileName columnNames keyColumnNumber
      return ()
  | change csv call => call.action csv

def steps (fileName : Str) : Update → Program World Failure Unit
  | create columnNames keyColumnNumber => do
      let _ ← Csv.createSteps fileName columnNames keyColumnNumber
      return ()
  | change csv call => call.steps csv

/-- The world in which the operation is called: the files are there, and the rows are those
of the object that is changed, or they are made. -/
def Begins (fileName : Str) (site : Site) (w : World) : Update → Prop
  | create columnNames _ =>
      (∀ name ∈ columnNames, newline ∉ name) ∧ (Stands w.fs site none ∨ ∃ lines, Filed w site lines)
  | change csv _ => csv.data = fileName ++ dataExtention ∧ ∃ lines, Filed w site lines

/-- The stops after which the rows are found again. -/
def Survives (site : Site) (w : World) (k : Nat) : Update → Prop
  | create _ _ => k = 5 ∨ (k ≤ 2 ∧ MetadataReads w site.metadata) ∨ (k = 0 ∧ w.fs site.data = none)
  | change _ (.pushRow _) => True
  | change _ (.replaceRow _ _) => k ≠ 1 ∨ fileRows w site.data = []

theorem steps_create (fileName : Str) (columnNames : List Str) (keyColumnNumber : Nat) (w : World) :
    ((create columnNames keyColumnNumber).steps fileName w).1 =
      (Csv.createSteps fileName columnNames keyColumnNumber w).1 := steps_bind_pure ..

/-- The steps are those of the operation. -/
theorem implements (fileName : Str) (update : Update) :
    Implements (update.action fileName) (update.steps fileName) := by
  cases update with
  | create columnNames keyColumnNumber =>
    exact .bind (Csv.create_implements fileName columnNames keyColumnNumber) fun _ => .pure ()
  | change csv call =>
    cases call with
    | pushRow values => exact csv.pushRow_implements values
    | replaceRow rowNumber values => exact csv.replaceRow_implements rowNumber.toNat values

end Update

section
variable {digest : Str → Vector UInt8 32} {codeFileName code ssid : Str} {site : Site} {w t : World}
  {lines : List Str} {k : Nat}

/-- The whole table is read back from the files it is in. -/
theorem Filed.fileRows (h : Filed w site lines) : fileRows w site.data = lines.tail := by
  rw [fileRows_of_file h.data, fields_terminate newline h.plain]

theorem Filed.notFolder (h : Filed w site lines) : isFolder w.fs site.data = false := by
  rw [isFolder, h.data]

/-- Writing the data file leaves the numbers. -/
theorem metadataReads_writeFile (site : Site) (content : Str) (w : World) :
    MetadataReads (writeFile site.data content w) site.metadata ↔ MetadataReads w site.metadata :=
  metadataReads_of_fs (put_of_ne (site.data_ne_metadata site).symm _)

/-- Another line in place of one does not make fewer rows. -/
theorem rows_replaceText {number : Nat} (hplain : ∀ l ∈ lines, newline ∉ l)
    (hline : lineAt (terminate newline lines) number ≠ []) (newLine : Str)
    (hrows : lines.tail ≠ []) :
    (fields newline (replaceText (terminate newline lines) number newLine)).tail ≠ [] := by
  have hlt : number < lines.length := by
    by_contra hge
    rw [lineAt_terminate hplain, List.getElem?_eq_none (Nat.le_of_not_lt hge),
      Option.getD_none] at hline
    exact hline rfl
  have hlen := length_le_fields_terminate newline (lines.set number newLine)
  have htail := List.length_pos_iff.mpr hrows
  rw [List.length_tail] at htail
  rw [List.length_set] at hlen
  rw [replaceText_terminate hplain hlt, ← List.length_pos_iff, List.length_tail]
  omega

/-- A replacement takes no step, or empties the data file and writes it anew. -/
theorem Filed.replaceRowSteps_apply {csv : Csv} (hfiled : Filed w site lines)
    (hloc : locate w csv.data = some site.data) (rowNumber : Nat) (values : List Str) :
    (csv.replaceRowSteps rowNumber values w).1 = [] ∨ ∃ number,
      lineAt (terminate newline lines) number ≠ [] ∧
      (csv.replaceRowSteps rowNumber values w).1 =
        [writeFile site.data [] w, writeFile site.data
          (replaceText (terminate newline lines) number (Csv.valuesToLine values)) w] := by
  have hread : openText w csv.data = some (terminate newline lines) := by
    rw [openText, hloc, Option.bind_some, hfiled.data]
  rcases csv.replaceRowSteps_cases rowNumber values w with hnil | hreplace
  · exact .inl hnil
  · rw [hreplace]
    rcases Communicator.replaceLineSteps_cases hread (openWritable_eq hloc hfiled.notFolder)
      (add64 rowNumber headerSize) (Csv.valuesToLine values) with hnil | ⟨hline, htwo⟩
    · exact .inl hnil
    · exact .inr ⟨_, hline, htwo⟩

/-- Where a table can be made, or is, no folder is in the way. -/
theorem notFolder_of_begins (hbegins : Stands w.fs site none ∨ ∃ lines, Filed w site lines) :
    isFolder w.fs site.data = false ∧ isFolder w.fs site.metadata = false := by
  rcases hbegins with hstands | ⟨lines, hfiled⟩
  · refine ⟨by rw [isFolder, hstands.1], ?_⟩
    rw [Bool.eq_false_iff, ne_eq, isFolder_iff]
    exact hstands.2
  · refine ⟨hfiled.notFolder, ?_⟩
    rw [Bool.eq_false_iff, ne_eq, isFolder_iff]
    intro hfolder
    exact not_metadataReads_of_nil (by rw [contentAt, hfolder]) hfiled.metadata

/-- A new table has no rows. -/
theorem fileRows_created {columnNames : List Str} (hnames : ∀ name ∈ columnNames, newline ∉ name)
    (site : Site) (keyColumnNumber : Nat) (w : World) :
    (fields newline (terminate newline [Csv.valuesToLine columnNames])).tail = [] ∧
      fileRows (Csv.created site.data site.metadata columnNames keyColumnNumber w) site.data =
        [] := by
  have hheader : newline ∉ Csv.valuesToLine columnNames := newline_notMem_valuesToLine hnames
  have hrows : (fields newline (terminate newline [Csv.valuesToLine columnNames])).tail = [] := by
    rw [fields_terminate newline (by simpa using hheader)]
    rfl
  have hfile : (Csv.created site.data site.metadata columnNames keyColumnNumber w).fs site.data =
      some (.file (terminate newline [Csv.valuesToLine columnNames])) :=
    (put_of_ne (site.data_ne_metadata site) _).trans (put_self ..)
  exact ⟨hrows, by rw [fileRows_of_file hfile, hrows]⟩

section
variable (hne : codeFileName ≠ []) (hzero : 0 ∉ codeFileName) (hssid : 0 ∉ ssid)
  (hlodged : Lodged digest codeFileName code ssid site w)
include hne hzero hssid hlodged

/-- Before the first step nothing is lost. -/
theorem recovers_start (hfiled : Filed w site lines) (hcode : Database.codeOf w codeFileName = code)
    (after : World) : Recovers digest codeFileName ssid site w after w :=
  (hlodged.recovers_of_file hne hzero hcode hssid hfiled.data w after).mpr
    ⟨hfiled.metadata, .inl rfl⟩

/-- Another content of the data file is found if it has the rows of one of the worlds. -/
theorem recovers_writeFile_iff (hf : isFolder w.fs site.data = false) {content : Str}
    (hcode : Database.codeOf (writeFile site.data content w) codeFileName = code)
    (before after : World) :
    Recovers digest codeFileName ssid site before after (writeFile site.data content w) ↔
      MetadataReads w site.metadata ∧
        ((fields newline content).tail = fileRows before site.data ∨
          (fields newline content).tail = fileRows after site.data) := by
  have hdata : (writeFile site.data content w).fs site.data = some (.file content) := put_self ..
  rw [(hlodged.writeFile hf content).recovers_of_file hne hzero hcode hssid hdata,
    metadataReads_writeFile, fileRows_of_file hdata]

/-- **A push** survives every stop. -/
theorem recovers_pushRow {csv : Csv} {values : List Str} (hfiled : Filed w site lines)
    (hcsv : csv.data = Database.destinationFileName digest codeFileName code ssid ++ dataExtention)
    (hstop : StopsAt (csv.pushRowSteps values) w k t)
    (hcode : Database.codeOf t codeFileName = code) :
    Recovers digest codeFileName ssid site w (ends (csv.pushRowSteps values) w) t := by
  rcases csv.pushRowSteps_cases values w with hnil | hadd
  · obtain ⟨-, rfl⟩ := hstop.eq_of_nil hnil
    exact recovers_start hne hzero hssid hlodged hfiled hcode _
  · have hopen : openWritable w csv.data = some site.data := by
      rw [hcsv]
      exact openWritable_eq (hlodged.locate hne hzero hssid).1 hfiled.notFolder
    rw [Communicator.addLineSteps_apply hopen,
      if_neg (by rw [hfiled.data]; exact Option.some_ne_none _),
      List.nil_append] at hadd
    rcases hstop.cases with ⟨-, rfl⟩ | ⟨i, -, hi⟩
    · exact recovers_start hne hzero hssid hlodged hfiled hcode _
    · -- the one step is the end of the operation
      obtain ⟨content, hone⟩ : ∃ content,
        (csv.pushRowSteps values w).1 = [writeFile site.data content w] :=
        ⟨_, congrArg Prod.fst hadd⟩
      have hends : ends (csv.pushRowSteps values) w = writeFile site.data content w := by
        rw [ends, hone]
        rfl
      have hdata : (writeFile site.data content w).fs site.data = some (.file content) :=
        put_self ..
      rw [hone] at hi
      obtain ⟨hlt, ht⟩ := List.getElem?_eq_some_iff.mp hi
      obtain rfl : i = 0 := Nat.lt_one_iff.mp hlt
      obtain rfl : t = writeFile site.data content w := ht.symm
      rw [recovers_writeFile_iff hne hzero hssid hlodged hfiled.notFolder hcode, hends,
        fileRows_of_file hdata]
      exact ⟨hfiled.metadata, .inr rfl⟩

/-- An empty data file is found in place of the old rows if there were none. -/
theorem recovers_emptied_iff (hfiled : Filed w site lines) {number : Nat} {newLine : Str}
    (hline : lineAt (terminate newline lines) number ≠ [])
    (hcode : Database.codeOf (writeFile site.data [] w) codeFileName = code) :
    Recovers digest codeFileName ssid site w
        (writeFile site.data (replaceText (terminate newline lines) number newLine) w)
          (writeFile site.data [] w) ↔
      fileRows w site.data = [] := by
  have hafter : fileRows (writeFile site.data (replaceText (terminate newline lines) number newLine) w) site.data =
      (fields newline (replaceText (terminate newline lines) number newLine)).tail :=
        fileRows_of_file (put_self ..)
  rw [recovers_writeFile_iff hne hzero hssid hlodged hfiled.notFolder hcode, hafter,
    hfiled.fileRows]
  constructor
  · rintro ⟨-, hbefore | hrows⟩
    · exact hbefore.symm
    · -- the new content has rows if the old one had
      by_contra hlost
      exact rows_replaceText hfiled.plain hline newLine hlost hrows.symm
  · intro hrows
    exact ⟨hfiled.metadata, .inl hrows.symm⟩

/-- **A replacement** loses the rows, if there are any, when it stops between its steps. -/
theorem recovers_replaceRow_iff {csv : Csv} {rowNumber : Nat} {values : List Str}
    (hfiled : Filed w site lines)
    (hcsv : csv.data = Database.destinationFileName digest codeFileName code ssid ++ dataExtention)
    (hstop : StopsAt (csv.replaceRowSteps rowNumber values) w k t)
    (hcode : Database.codeOf t codeFileName = code) :
    Recovers digest codeFileName ssid site w (ends (csv.replaceRowSteps rowNumber values) w) t ↔
      k ≠ 1 ∨ fileRows w site.data = [] := by
  have hstart (hk : k = 0) (ht : t = w) (after : World) :
      Recovers digest codeFileName ssid site w after t ↔ k ≠ 1 ∨ fileRows w site.data = [] := by
    subst hk ht
    exact iff_of_true (recovers_start hne hzero hssid hlodged hfiled hcode _) (.inl Nat.zero_ne_one)
  have hloc := (hlodged.locate hne hzero hssid).1
  rw [← hcsv] at hloc
  rcases hfiled.replaceRowSteps_apply hloc rowNumber values with hnil | ⟨number, hline, htwo⟩
  · obtain ⟨hk, ht⟩ := hstop.eq_of_nil hnil
    exact hstart hk ht _
  · have hends : ends (csv.replaceRowSteps rowNumber values) w =
        writeFile site.data (replaceText (terminate newline lines) number (Csv.valuesToLine values)) w := by
      rw [ends, htwo]
      rfl
    rcases hstop.cases with ⟨hk, ht⟩ | ⟨i, rfl, hi⟩
    · exact hstart hk ht _
    · rw [htwo] at hi
      rcases i with - | - | i
      · -- the file is empty
        obtain rfl : writeFile site.data [] w = t := Option.some.inj hi
        rw [hends, recovers_emptied_iff hne hzero hssid hlodged hfiled hline hcode]
        exact (or_iff_right (not_not_intro rfl)).symm
      · -- the new content is there
        obtain rfl : writeFile site.data _ w = t := Option.some.inj hi
        refine iff_of_true ?_ (.inl (by omega))
        rw [recovers_writeFile_iff hne hzero hssid hlodged hfiled.notFolder hcode, hends]
        exact ⟨hfiled.metadata, .inr (fileRows_of_file (put_self ..)).symm⟩
      · cases hi

/-- Once the metadata file is made too, it must have both numbers. -/
theorem recovers_writeBoth_iff (hdata : isFolder w.fs site.data = false)
    (hmetadata : isFolder w.fs site.metadata = false) {content numbers : Str}
    (hcode : Database.codeOf (writeFile site.metadata numbers (writeFile site.data content w)) codeFileName = code)
    {before after : World} (hrows : (fields newline content).tail = fileRows after site.data) :
    Recovers digest codeFileName ssid site before after
        (writeFile site.metadata numbers (writeFile site.data content w)) ↔
      ∃ numberOfColumns keyColumnNumber,
        scanSize (lineAt numbers columnNumberLineNumber) = .ok numberOfColumns ∧
          scanSize (lineAt numbers keyLineNumber) = .ok keyColumnNumber := by
  have hlodged' := (hlodged.writeFile hdata content).writeFile
    ((isFolder_put_file hdata content site.metadata).trans hmetadata) numbers
  have hfile : (writeFile site.metadata numbers (writeFile site.data content w)).fs site.data =
      some (.file content) := (put_of_ne (site.data_ne_metadata site) _).trans (put_self ..)
  have hcontent : contentAt (writeFile site.metadata numbers (writeFile site.data content w)) site.metadata =
      numbers := by simp [contentAt, writeFile]
  rw [hlodged'.recovers_of_file hne hzero hcode hssid hfile, MetadataReads, hcontent,
    fileRows_of_file hfile]
  exact ⟨fun h => h.1, fun h => ⟨h, .inr hrows⟩⟩

/-- Before the first step of a creation the rows are those of the old table, if there is one. -/
theorem recovers_uncreated (hbegins : Stands w.fs site none ∨ ∃ lines, Filed w site lines)
    (hcode : Database.codeOf w codeFileName = code) (after : World) :
    Recovers digest codeFileName ssid site w after w ∧
      (MetadataReads w site.metadata ∨ w.fs site.data = none) := by
  rcases hbegins with hstands | ⟨lines, hfiled⟩
  · have hnone : fileRows w site.data = [] := by
      rw [fileRows, contentAt, hstands.1]
      rfl
    exact ⟨hlodged.recovers_of_none hne hzero hcode hssid hstands _ hnone, .inr hstands.1⟩
  · exact ⟨recovers_start hne hzero hssid hlodged hfiled hcode _, .inl hfiled.metadata⟩

/-- **A creation** survives its stops while an old metadata file is there, before the first
step, and after the last one. -/
theorem recovers_create_iff {columnNames : List Str} {keyColumnNumber : Nat}
    (hnames : ∀ name ∈ columnNames, newline ∉ name)
    (hbegins : Stands w.fs site none ∨ ∃ lines, Filed w site lines)
    (hstop : StopsAt ((Update.create columnNames keyColumnNumber).steps
      (Database.destinationFileName digest codeFileName code ssid)) w k t)
    (hcode : Database.codeOf t codeFileName = code) :
    Recovers digest codeFileName ssid site w (ends ((Update.create columnNames keyColumnNumber).steps
        (Database.destinationFileName digest codeFileName code ssid)) w) t ↔
      k = 5 ∨ (k ≤ 2 ∧ MetadataReads w site.metadata) ∨ (k = 0 ∧ w.fs site.data = none) := by
  obtain ⟨hdataLoc, hmetadataLoc⟩ := hlodged.locate hne hzero hssid
  obtain ⟨hdata, hmetadata⟩ := notFolder_of_begins hbegins
  obtain ⟨hrows, hcreated⟩ := fileRows_created hnames site keyColumnNumber w
  have hsteps := Csv.createSteps_apply hdataLoc hmetadataLoc hdata hmetadata columnNames keyColumnNumber
  rw [← Update.steps_create] at hsteps
  have hafter : fileRows (ends ((Update.create columnNames keyColumnNumber).steps
      (Database.destinationFileName digest codeFileName code ssid)) w) site.data = [] := by
    rw [ends, hsteps, last, List.getLast?_cons_cons, List.getLast?_cons_cons,
      List.getLast?_cons_cons,
      List.getLast?_cons_cons, List.getLast?_singleton, Option.getD_some, hcreated]
  rcases hstop.cases with ⟨rfl, rfl⟩ | ⟨i, rfl, hi⟩
  · obtain ⟨hrecovers, hold⟩ := recovers_uncreated hne hzero hssid hlodged hbegins hcode
      (ends ((Update.create columnNames keyColumnNumber).steps
        (Database.destinationFileName digest codeFileName code ssid)) t)
    refine iff_of_true hrecovers (.inr ?_)
    exact hold.imp (fun h => ⟨Nat.zero_le 2, h⟩) (fun h => ⟨rfl, h⟩)
  · rw [hsteps] at hi
    rcases i with - | - | - | - | - | i
    · -- an empty data file
      obtain rfl := Option.some.inj hi
      rw [recovers_writeFile_iff hne hzero hssid hlodged hdata hcode, hafter]
      simp
    · -- the header
      obtain rfl := Option.some.inj hi
      rw [recovers_writeFile_iff hne hzero hssid hlodged hdata hcode, hafter, hrows]
      simp
    · -- an empty metadata file
      obtain rfl := Option.some.inj hi
      rw [recovers_writeBoth_iff hne hzero hssid hlodged hdata hmetadata hcode (hrows.trans hafter.symm)]
      exact iff_of_false (not_scanned_of_nil (lineAt_nil _)) (by omega)
    · -- one number
      obtain rfl := Option.some.inj hi
      rw [recovers_writeBoth_iff hne hzero hssid hlodged hdata hmetadata hcode (hrows.trans hafter.symm)]
      have hline : lineAt (terminate newline [decimal keyColumnNumber]) columnNumberLineNumber = [] := by
        rw [lineAt_terminate (by simpa using Csv.newline_notMem_decimal keyColumnNumber)]
        rfl
      exact iff_of_false (not_scanned_of_nil hline) (by omega)
    · -- both numbers
      obtain rfl := Option.some.inj hi
      rw [Csv.created] at hcode ⊢
      rw [recovers_writeBoth_iff hne hzero hssid hlodged hdata hmetadata hcode (hrows.trans hafter.symm)]
      refine iff_of_true ⟨min columnNames.length (2 ^ 64 - 1), min keyColumnNumber (2 ^ 64 - 1), ?_, ?_⟩
        (.inl rfl)
      · rw [Csv.lineAt_metadataText]
        exact scanSize_decimal_min columnNames.length
      · rw [Csv.lineAt_metadataText]
        exact scanSize_decimal_min keyColumnNumber
    · cases hi

/-- **What an interruption loses**: nothing, exactly if the operation survives the stop. -/
theorem recovers_iff {update : Update}
    (hbegins : update.Begins (Database.destinationFileName digest codeFileName code ssid) site w)
    (hstop : StopsAt (update.steps (Database.destinationFileName digest codeFileName code ssid)) w k t)
    (hcode : Database.codeOf t codeFileName = code) :
    Recovers digest codeFileName ssid site w
        (ends (update.steps (Database.destinationFileName digest codeFileName code ssid)) w) t ↔
      update.Survives site w k := by
  cases update with
  | create columnNames keyColumnNumber =>
    exact recovers_create_iff hne hzero hssid hlodged hbegins.1 hbegins.2 hstop hcode
  | change csv call =>
    obtain ⟨hcsv, lines, hfiled⟩ := hbegins
    cases call with
    | pushRow values =>
      exact iff_of_true (recovers_pushRow hne hzero hssid hlodged hfiled hcsv hstop hcode) trivial
    | replaceRow rowNumber values =>
      exact recovers_replaceRow_iff hne hzero hssid hlodged hfiled hcsv hstop hcode

end
end

/-- The site of a list of entries is one whose rows can be changed. -/
theorem filed_of_stands {w : World} {site : Site} {entries : List Entry}
    (h : Stands w.fs site (some entries)) : Filed w site (tableOf entries).lines where
  data := h.1
  plain := (tableOf entries).newline_notMem_lines
  metadata := by
    have hcontent : contentAt w site.metadata = databaseMetadata := by rw [contentAt, h.2]
    refine ⟨columnNames.length, keyColumnNumber, ?_, ?_⟩
    · rw [hcontent, databaseMetadata, Csv.lineAt_metadataText]
      exact scanSize_decimal (by decide)
    · rw [hcontent, databaseMetadata, Csv.lineAt_metadataText]
      exact scanSize_decimal (by decide)

/-! ### A row that is lost -/

section
variable (digest : Str → Vector UInt8 32)

/-- The site of an SSID without a code file. -/
def homeSite : Site := ⟨Database.hashLoc digest codeFile [] [], lit "home"⟩

/-- The folders without a code file. -/
def homeFolders : World :=
  Database.house digest codeFile [] (makeFolder (Database.rootLoc []) (homeWorld ssidScript))

/-- A world with the files of one network. -/
def seenWorld (entries : List Entry) : World :=
  { homeFolders digest with fs := putEntries (homeFolders digest).fs (homeSite digest) entries }

theorem homeFolders_fs {loc : List Str} (h : 3 < loc.length) :
    (homeFolders digest).fs loc = none := by
  have hne (loc' : List Str) (hloc' : loc'.length ≤ 3) : loc ≠ loc' := by
    rintro rfl
    omega
  rw [homeFolders, Database.house_of_ne
    (hne _ (by simp [Database.codeLoc, Database.rootLoc, homeWorld]))
    (hne _ (by simp [Database.hashLoc, Database.codeLoc, Database.rootLoc, homeWorld])),
      makeFolder_fs,
    put_of_ne (hne _ (by simp [Database.rootLoc])), homeWorld_fs, if_neg (hne _ (by simp)),
    if_neg (hne _ (by simp [scriptLoc]))]

theorem stands_homeFolders : Stands (homeFolders digest).fs (homeSite digest) none := by
  have hlen (name : Str) : 3 < (Database.hashLoc digest codeFile [] [] ++ [name]).length := by
    simp [Database.hashLoc, Database.codeLoc, Database.rootLoc]
  refine ⟨homeFolders_fs digest (hlen _), ?_⟩
  rw [Site.metadata, homeSite, homeFolders_fs digest (hlen _)]
  exact fun h => by cases h

theorem lodged_seenWorld (entries : List Entry) :
    Lodged digest codeFile [] (lit "home") (homeSite digest) (seenWorld digest entries) := by
  have hroot : (makeFolder (Database.rootLoc []) (homeWorld ssidScript)).fs (Database.rootLoc []) =
      some .folder := by rw [makeFolder_fs, put_self]
  have hcwd : (makeFolder (Database.rootLoc []) (homeWorld ssidScript)).fs [] = some .folder := by
    rw [makeFolder_fs, put_of_ne (by simp [Database.rootLoc]), homeWorld_fs, if_pos rfl]
  have hfolders : (homeFolders digest).fs (Database.codeLoc [] codeFile) = some .folder ∧
      (homeFolders digest).fs (Database.hashLoc digest codeFile [] []) = some .folder :=
    Database.house_folders _
  have hlodged : Lodged digest codeFile [] (lit "home") (homeSite digest) (homeFolders digest) :=
    ⟨folder_makeFolder (folder_makeFolder hcwd _) _, folder_makeFolder (folder_makeFolder hroot _) _,
      hfolders.1, hfolders.2, siteFrom_plain hfolders.2 (by decide)⟩
  exact hlodged.of_folders rfl (isFolder_putEntries (stands_homeFolders digest) entries)

/-- There is no code file, and writing a table makes none. -/
theorem codeOf_seenWorld (entries : List Entry) (content : Str) :
    Database.codeOf (writeFile (homeSite digest).data content (seenWorld digest entries)) codeFile =
      [] := by
  have hfile (site : Site) : codeFileLoc [] ≠ site.data := concat_ne_data site (.inl (by decide))
  have hfile' (site : Site) : codeFileLoc [] ≠ site.metadata :=
    concat_ne_metadata site (.inl (by decide))
  have hcode : codeFileLoc [] ≠ Database.codeLoc [] codeFile := by decide
  have hhash : codeFileLoc [] ≠ Database.hashLoc digest codeFile [] [] := by
    intro he
    have hlen := congrArg List.length he
    simp [codeFileLoc, Database.hashLoc, Database.codeLoc, Database.rootLoc] at hlen
  have hnone : (writeFile (homeSite digest).data content (seenWorld digest entries)).fs
      (codeFileLoc []) = none := by
    have hput : (writeFile (homeSite digest).data content (seenWorld digest entries)).fs
      (codeFileLoc []) =
        putEntries (homeFolders digest).fs (homeSite digest) entries (codeFileLoc []) :=
      put_of_ne (hfile (homeSite digest)) (.file content)
    rw [hput, putEntries_of_ne (hfile _) (hfile' _), homeFolders, Database.house_of_ne hcode hhash,
      makeFolder_fs,
      put_of_ne (by decide), homeWorld_fs, if_neg (by decide), if_neg (by decide)]
  have hfree : isFolder (seenWorld digest entries).fs (homeSite digest).data = false :=
    (filed_of_stands (stands_putEntries (homeFolders digest).fs (homeSite digest) entries)).notFolder
  have hcwd := ((lodged_seenWorld digest entries).writeFile hfree content).cwd
  rw [codeOf_codeFile hcwd]
  exact congrArg codeOfEntry hnone

/-- The row of the one entry, seen again. -/
def seenLater : Entry := ⟨cellA, dateCell someTime, dateCell ⟨1, 1, 2025, 12, 0, 1⟩⟩

/-- The object of the storage file. -/
def homeCsv : Csv := (databaseOf (Database.destinationFileName digest codeFile [] (lit "home"))).csv

/-- The row of the one entry is replaced in two steps. -/
theorem steps_homeCsv :
    ((homeCsv digest).replaceRowSteps 0 seenLater.row.cells
        (seenWorld digest [⟨cellA, dateCell someTime, dateCell someTime⟩])).1 =
      [writeFile (homeSite digest).data [] (seenWorld digest [⟨cellA, dateCell someTime, dateCell someTime⟩]),
        writeFile (homeSite digest).data (tableOf [seenLater]).text
          (seenWorld digest [⟨cellA, dateCell someTime, dateCell someTime⟩])] := by
  have hloc := ((lodged_seenWorld digest [⟨cellA, dateCell someTime, dateCell someTime⟩]).locate (by decide)
    (by decide) (by decide)).1
  have hholds : HoldsEntries (seenWorld digest [⟨cellA, dateCell someTime, dateCell someTime⟩])
      (Database.destinationFileName digest codeFile [] (lit "home")) (homeSite digest).data
      [⟨cellA, dateCell someTime, dateCell someTime⟩] :=
    .of_file ⟨hloc, (stands_putEntries _ _ _).1⟩
  have hkey : ((tableOf [⟨cellA, dateCell someTime, dateCell someTime⟩]).keys 0).idxOf?
      (seenLater.row.cell 0) =
      some 0 := by decide
  exact Csv.replaceRowSteps_table hholds hkey (by decide)

end

/-- A replacement that has taken both steps has lost nothing. -/
theorem recovers_iff_home :
    ∃ t, StopsAt ((homeCsv zeroDigest).replaceRowSteps 0 seenLater.row.cells)
        (seenWorld zeroDigest [⟨cellA, dateCell someTime, dateCell someTime⟩]) 2 t ∧
      Recovers zeroDigest codeFile (lit "home") (homeSite zeroDigest)
        (seenWorld zeroDigest [⟨cellA, dateCell someTime, dateCell someTime⟩])
        (ends ((homeCsv zeroDigest).replaceRowSteps 0 seenLater.row.cells)
          (seenWorld zeroDigest [⟨cellA, dateCell someTime, dateCell someTime⟩])) t := by
  have hstop : StopsAt ((homeCsv zeroDigest).replaceRowSteps 0 seenLater.row.cells)
      (seenWorld zeroDigest [⟨cellA, dateCell someTime, dateCell someTime⟩]) 2
      (writeFile (homeSite zeroDigest).data (tableOf [seenLater]).text
        (seenWorld zeroDigest [⟨cellA, dateCell someTime, dateCell someTime⟩])) := by
    rw [StopsAt, steps_homeCsv]
    rfl
  have hbegins : (Update.change (homeCsv zeroDigest) (.replaceRow 0 seenLater.row.cells)).Begins
      (Database.destinationFileName zeroDigest codeFile [] (lit "home")) (homeSite zeroDigest)
      (seenWorld zeroDigest [⟨cellA, dateCell someTime, dateCell someTime⟩]) :=
    ⟨rfl, _, filed_of_stands (stands_putEntries _ _ _)⟩
  exact ⟨_, hstop, (recovers_iff (by decide) (by decide) (by decide) (lodged_seenWorld zeroDigest _) hbegins hstop
    (codeOf_seenWorld zeroDigest _ _)).mpr (.inl (by decide))⟩

/-- **A row may be lost**: whatever the digest is, the one row of a table is gone when its
replacement stops between the two steps. -/
theorem not_recovers_replaceRow :
    ¬ ∃ digest : Str → Vector UInt8 32, ∀ (codeFileName code ssid : Str) (site : Site) (w t : World)
      (update : Update) (k : Nat), codeFileName ≠ [] → 0 ∉ codeFileName → 0 ∉ ssid →
        Lodged digest codeFileName code ssid site w →
        update.Begins (Database.destinationFileName digest codeFileName code ssid) site w →
        StopsAt (update.steps (Database.destinationFileName digest codeFileName code ssid)) w k t →
        Database.codeOf t codeFileName = code →
        Recovers digest codeFileName ssid site w
          (ends (update.steps (Database.destinationFileName digest codeFileName code ssid)) w) t := by
  rintro ⟨digest, hall⟩
  obtain ⟨entries, hentries⟩ : ∃ entries : List Entry,
      entries = [⟨cellA, dateCell someTime, dateCell someTime⟩] :=
    ⟨_, rfl⟩
  have hlodged := lodged_seenWorld digest entries
  have hfiled : Filed (seenWorld digest entries) (homeSite digest) (tableOf entries).lines :=
    filed_of_stands (stands_putEntries _ _ entries)
  have hsteps := steps_homeCsv digest
  rw [← hentries] at hsteps
  have hstop : StopsAt ((homeCsv digest).replaceRowSteps 0 seenLater.row.cells)
    (seenWorld digest entries) 1
      (writeFile (homeSite digest).data [] (seenWorld digest entries)) := by
    rw [StopsAt, hsteps]
    rfl
  have hrecovers := hall codeFile [] (lit "home") (homeSite digest) _ _
    (.change (homeCsv digest) (.replaceRow 0 seenLater.row.cells)) 1 (by decide) (by decide)
      (by decide) hlodged
    ⟨rfl, _, hfiled⟩ hstop (codeOf_seenWorld digest entries [])
  rcases (recovers_replaceRow_iff (by decide) (by decide) (by decide) hlodged hfiled rfl hstop
    (codeOf_seenWorld digest entries [])).mp hrecovers with hone | hrows
  · exact hone rfl
  · rw [hfiled.fileRows, hentries] at hrows
    exact absurd hrows (by decide)

end SnapDesk
