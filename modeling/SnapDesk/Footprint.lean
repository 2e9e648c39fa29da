import SnapDesk.OutputRows

/-! # What a turn may write

A location is spelled by a path whether or not the path can be walked, so what an
operation may write is settled before anything is known of the file system:
`ChangesOnly` relates two worlds that agree but for a set of locations, and every
operation keeps it whose paths spell locations of the set.

A turn that looks at an SSID writes the folders of the code and the two files of
that SSID (`turn_keeps`), and reads nothing else of the code but what is under the
name of the code file. -/
namespace SnapDesk
open Delimited FileTree BigNumber

/-- The location that a path spells. -/
def spelled (cwd : List Str) (path : Str) : List Str :=
  (pathSteps (cStr path)).foldl Step.next (if (cStr path).head? = some slash then [] else cwd)

/-- Where a path leads, it leads to what it spells. -/
theorem spelled_of_locate {w : World} {path : Str} {loc : List Str} (h : locate w path = some loc) :
    loc = spelled w.cwd path := by
  rw [locate] at h
  split at h
  · cases h
  · exact walk_eq_foldl h

/-- A path that goes on from another one. -/
theorem spelled_append (cwd : List Str) {path rest : Str} (hne : path ≠ []) (hpath : 0 ∉ path)
    (hrest : 0 ∉ rest) :
    spelled cwd (path ++ slash :: rest) = (pathSteps rest).foldl Step.next (spelled cwd path) := by
  have hzero : 0 ∉ path ++ slash :: rest := by
    simp only [List.mem_append, List.mem_cons, not_or]
    exact ⟨hpath, by decide, hrest⟩
  obtain ⟨c, path, rfl⟩ := List.exists_cons_of_ne_nil hne
  rw [spelled, spelled, cStr_eq_self hzero, cStr_eq_self hpath, pathSteps_append, List.foldl_append]
  rfl

/-- The site that an SSID spells, seen from a folder. -/
def placeOf (home : List Str) (ssid : Str) : Site :=
  ⟨(pathSteps ssid).dropLast.foldl Step.next home, baseName ssid⟩

/-- The path of an SSID with one of the extensions spells the file of its place. -/
theorem spelled_site (cwd : List Str) {path : Str} (hne : path ≠ []) (hpath : 0 ∉ path) {ssid : Str}
    (hssid : 0 ∉ ssid) {extention : Str}
    (hext : extention = dataExtention ∨ extention = metadataExtention) :
    spelled cwd (path ++ slash :: (ssid ++ extention)) =
      (placeOf (spelled cwd path) ssid).folder ++ [(placeOf (spelled cwd path) ssid).name ++ extention] := by
  have hplain := Database.extention_plain hext
  have hname : IsName (baseName ssid ++ extention) :=
    Database.isName_extended (slash_notMem_baseName ssid) hext
  rw [spelled_append cwd hne hpath (by simp [hssid, hplain.2]), pathSteps_extended ssid hplain.1,
    hname.2,
    List.foldl_append]
  rfl

/-! ### Worlds that agree but for some locations -/

/-- Only these locations differ, and no folder is gone. -/
structure ChangesOnly (allowed : List Str → Prop) (w w' : World) : Prop where
  cwd : w'.cwd = w.cwd
  folders : ∀ loc, isFolder w.fs loc = true → isFolder w'.fs loc = true
  fs : ∀ loc, ¬ allowed loc → w'.fs loc = w.fs loc

namespace ChangesOnly
variable {allowed : List Str → Prop} {w w' : World}

theorem refl (allowed : List Str → Prop) (w : World) : ChangesOnly allowed w w :=
  ⟨rfl, fun _ h => h, fun _ _ => rfl⟩

theorem mono (h : ChangesOnly allowed w w') {allowed' : List Str → Prop}
    (hallowed : ∀ loc, allowed loc → allowed' loc) : ChangesOnly allowed' w w' :=
  ⟨h.cwd, h.folders, fun loc hloc => h.fs loc (mt (hallowed loc) hloc)⟩

theorem writeFile (h : ChangesOnly allowed w w') {loc : List Str} (hloc : allowed loc)
    (hf : isFolder w'.fs loc = false) (content : Str) :
    ChangesOnly allowed w (SnapDesk.writeFile loc content w') where
  cwd := h.cwd
  folders := fun loc' hloc' => (isFolder_put_file hf content loc').trans (h.folders loc' hloc')
  fs := by
    intro loc' hloc'
    have hne : loc' ≠ loc := by
      rintro rfl
      exact hloc' hloc
    exact (put_of_ne hne _).trans (h.fs loc' hloc')

theorem makeFolder (h : ChangesOnly allowed w w') {loc : List Str} (hloc : allowed loc) :
    ChangesOnly allowed w (SnapDesk.makeFolder loc w') where
  cwd := h.cwd
  folders := by
    intro loc' hloc'
    rw [makeFolder_fs, isFolder_iff]
    by_cases he : loc' = loc
    · rw [he, put_self]
    · rw [put_of_ne he]
      exact isFolder_iff.mp (h.folders loc' hloc')
  fs := by
    intro loc' hloc'
    have hne : loc' ≠ loc := by
      rintro rfl
      exact hloc' hloc
    exact (put_of_ne hne _).trans (h.fs loc' hloc')

end ChangesOnly

/-! ### Operations that only read -/

/-- Whether it returns or throws, the action leaves the world as it is. -/
def ReadsOnly {α : Type} (m : Action α) : Prop := ∀ w, m.Keeps (· = w)

namespace ReadsOnly
variable {α β : Type} {m : Action α} {f : α → Action β}

theorem keeps (h : ReadsOnly m) (P : World → Prop) : m.Keeps P := by
  intro w hw
  constructor
  · intro a w' hrun
    rw [(h w w rfl).1 a w' hrun]
    exact hw
  · intro e w' hrun
    rw [(h w w rfl).2 e w' hrun]
    exact hw

theorem bind (h : ReadsOnly m) (hf : ∀ a, ReadsOnly (f a)) : ReadsOnly (m >>= f) :=
  fun w => (h w).bind fun a => hf a w

theorem pure (a : α) : ReadsOnly (Pure.pure a : Action α) := fun w => .pure (· = w) a

theorem throw (e : Failure) : ReadsOnly (MonadExcept.throw e : Action α) :=
  fun w => .throw (· = w) e

theorem get : ReadsOnly (MonadState.get : Action World) := fun w => .get (· = w)

theorem lift (y : Except Failure α) : ReadsOnly (liftM y : Action α) := fun w => .lift (· = w) y

theorem ite {p : Prop} [Decidable p] {m m' : Action α} (h : ReadsOnly m) (h' : ReadsOnly m') :
    ReadsOnly (if p then m else m') := fun w => (h w).ite (h' w)

end ReadsOnly

namespace Communicator

theorem exist_reads (path : Str) : ReadsOnly (exist path) := .bind .get fun _ => .pure _

theorem getLine_reads (path : Str) (number : Nat) : ReadsOnly (getLine path number) := by
  refine .bind .get fun w => ?_
  match openText w path with
  | none => exact .throw _
  | some content => exact .pure _

theorem getFileType_reads (path : Str) : ReadsOnly (getFileType path) := by
  refine .bind .get fun w => ?_
  match (locate w path).bind w.fs with
  | none => exact .pure _
  | some .folder => exact .pure _
  | some (.file _) => exact .pure _

end Communicator

namespace Csv

theorem new_reads (fileName : Str) : ReadsOnly (new fileName) := by
  refine .bind (Communicator.exist_reads _) fun _ => .ite (.throw _) ?_
  refine .bind (Communicator.exist_reads _) fun _ => .ite (.throw _) ?_
  refine .bind (Communicator.getLine_reads _ _) fun _ => .bind (.lift _) fun _ => ?_
  exact .bind (Communicator.getLine_reads _ _) fun _ => .bind (.lift _) fun _ => .pure _

theorem keysFrom_reads (csv : Csv) (columnNumber : Nat) (value : Str) (rounds i : Nat) :
    ReadsOnly (csv.keysFrom columnNumber value rounds i) := by
  induction rounds generalizing i with
  | zero => exact .throw _
  | succ rounds ih =>
    refine .bind (Communicator.getLine_reads _ _) fun _ => .ite (.pure _) ?_
    exact .bind (ih (i + 1)) fun _ => .ite (.pure _) (.pure _)

theorem getAllKeysWithValue_reads (csv : Csv) (columnNumber : Nat) (value : Str) :
    ReadsOnly (csv.getAllKeysWithValue columnNumber value) :=
  .bind (.lift _) fun _ => .bind .get fun _ => csv.keysFrom_reads _ _ _ _

theorem getKeyPosition_reads (csv : Csv) (keyValue : Str) :
    ReadsOnly (csv.getKeyPosition keyValue) :=
  .bind (csv.getAllKeysWithValue_reads _ _) fun _ => .pure _

theorem getColumnNumber_reads (csv : Csv) (columnName : Str) :
    ReadsOnly (csv.getColumnNumber columnName) :=
  .bind (Communicator.getLine_reads _ _) fun _ => .pure _

theorem getCell_reads (csv : Csv) (rowNumber columnNumber : Nat) :
    ReadsOnly (csv.getCell rowNumber columnNumber) := by
  refine .bind (.lift _) fun _ => .bind (.lift _) fun _ => ?_
  exact .bind (Communicator.getLine_reads _ _) fun _ => .pure _

end Csv

namespace Database

theorem getCell_reads (database : Database) (keyValue columnName : Str) :
    ReadsOnly (database.getCell keyValue columnName) :=
  .bind (database.csv.getKeyPosition_reads _) fun _ =>
    .bind (database.csv.getColumnNumber_reads _) fun _ => database.csv.getCell_reads _ _

theorem getKeyOfEntries_reads (database : Database) (columnName cellValue : Str) :
    ReadsOnly (database.getKeyOfEntries columnName cellValue) :=
  .bind (database.csv.getColumnNumber_reads _) fun _ => database.csv.getAllKeysWithValue_reads _ _

end Database

/-! ### Operations that write -/

section
variable {allowed : List Str → Prop} {w : World}

/-- What is opened for writing is no folder, and lies where the path says. -/
theorem openWritable_spelled {w' : World} (h : ChangesOnly allowed w w') {path : Str}
    {loc : List Str} (hopen : openWritable w' path = some loc) :
    loc = spelled w.cwd path ∧ isFolder w'.fs loc = false := by
  obtain ⟨hlocate, hfolder⟩ := Option.filter_eq_some_iff.mp hopen
  refine ⟨?_, by simpa using hfolder⟩
  rw [← h.cwd]
  exact spelled_of_locate hlocate

namespace Communicator
variable {path : Str}

theorem addLine_keeps (hpath : allowed (spelled w.cwd path)) (line : Str) :
    (addLine path line).Keeps (ChangesOnly allowed w) := by
  refine .bind_get fun w' hw => ?_
  match hopen : openWritable w' path with
  | none => exact .throw _ _
  | some loc =>
    obtain ⟨rfl, hfolder⟩ := openWritable_spelled hw hopen
    exact .set (hw.writeFile hpath hfolder _)

theorem newFile_keeps (hpath : allowed (spelled w.cwd path)) :
    (newFile path).Keeps (ChangesOnly allowed w) := by
  refine .bind_get fun w' hw => ?_
  match hopen : openWritable w' path with
  | none => exact .pure _ _
  | some loc =>
    obtain ⟨rfl, hfolder⟩ := openWritable_spelled hw hopen
    exact .set (hw.writeFile hpath hfolder _)

theorem replaceLine_keeps (hpath : allowed (spelled w.cwd path)) (number : Nat) (line : Str) :
    (replaceLine path number line).Keeps (ChangesOnly allowed w) := by
  refine .bind ((getLine_reads path number).keeps _) fun old => .ite (.throw _ _) ?_
  refine .bind_get fun w' hw => ?_
  match openText w' path, hopen : openWritable w' path with
  | none, _ => exact .throw _ _
  | some _, none => exact .throw _ _
  | some content, some loc =>
    obtain ⟨rfl, hfolder⟩ := openWritable_spelled hw hopen
    exact .set (hw.writeFile hpath hfolder _)

theorem createFolder_keeps (hpath : allowed (spelled w.cwd path)) :
    (createFolder path).Keeps (ChangesOnly allowed w) := by
  refine .bind ((getFileType_reads path).keeps _) fun type =>
    .ite (.throw _ _) (.ite (.pure _ _) ?_)
  refine .bind_get fun w' hw => ?_
  match hlocate : locate w' path with
  | none => exact .throw _ _
  | some loc =>
    obtain rfl : loc = spelled w.cwd path := hw.cwd ▸ spelled_of_locate hlocate
    exact .set (hw.makeFolder hpath)

theorem notify_keeps (message : Str) : (notify message).Keeps (ChangesOnly allowed w) := by
  intro w' hw
  exact ⟨fun _ _ hrun => by cases hrun; exact ⟨hw.cwd, hw.folders, hw.fs⟩, fun _ _ hrun => by cases hrun⟩

end Communicator

namespace Csv

theorem pushRow_keeps {csv : Csv} (hdata : allowed (spelled w.cwd csv.data)) (values : List Str) :
    (csv.pushRow values).Keeps (ChangesOnly allowed w) := by
  refine .bind (.lift _ _) fun _ => .bind (.lift _ _) fun key => ?_
  refine .bind ((csv.getKeyPosition_reads key).keeps _) fun position => .ite (.throw _ _) ?_
  exact Communicator.addLine_keeps hdata _

theorem replaceRow_keeps {csv : Csv} (hdata : allowed (spelled w.cwd csv.data)) (rowNumber : Nat)
    (values : List Str) : (csv.replaceRow rowNumber values).Keeps (ChangesOnly allowed w) := by
  refine .bind (.lift _ _) fun _ => .bind (.lift _ _) fun key => ?_
  refine .bind ((csv.getKeyPosition_reads key).keeps _) fun position => .ite (.throw _ _) ?_
  exact Communicator.replaceLine_keeps hdata _ _

theorem create_keeps {fileName : Str} (hdata : allowed (spelled w.cwd (fileName ++ dataExtention)))
    (hmetadata : allowed (spelled w.cwd (fileName ++ metadataExtention))) (columnNames : List Str)
    (keyColumnNumber : Nat) :
    (create fileName columnNames keyColumnNumber).Keeps (ChangesOnly allowed w) := by
  refine .bind (Communicator.newFile_keeps hdata) fun _ => ?_
  refine .bind (Communicator.addLine_keeps hdata _) fun _ => ?_
  refine .bind (Communicator.newFile_keeps hmetadata) fun _ => ?_
  refine .bind (Communicator.addLine_keeps hmetadata _) fun _ => ?_
  exact .bind (Communicator.addLine_keeps hmetadata _) fun _ => (new_reads fileName).keeps _

end Csv

theorem Database.openCsv_keeps {fileName : Str}
    (hdata : allowed (spelled w.cwd (fileName ++ dataExtention)))
    (hmetadata : allowed (spelled w.cwd (fileName ++ metadataExtention))) :
    (openCsv fileName).Keeps (ChangesOnly allowed w) :=
  .bind ((Communicator.exist_reads _).keeps _) fun _ =>
    .ite ((Csv.new_reads _).keeps _) (Csv.create_keeps hdata hmetadata _ _)

theorem updateEntry_keeps {database : Database} (hdata : allowed (spelled w.cwd database.csv.data))
    (ssid output date : Str) :
    (updateEntry database ssid output date).Keeps (ChangesOnly allowed w) := by
  refine .bind ((database.getKeyOfEntries_reads _ _).keeps _) fun keys => .ite ?_ ?_
  · exact .bind (Csv.pushRow_keeps hdata _) fun _ => Communicator.notify_keeps _
  · refine .bind ((database.getCell_reads _ _).keeps _) fun creationDate => ?_
    exact .bind ((database.csv.getKeyPosition_reads _).keeps _) fun _ =>
      Csv.replaceRow_keeps hdata _ _

end

/-! ### What a turn writes -/

section
variable (digest : Str → Vector UInt8 32) (code : Str) (cwd : List Str)

/-- The folders of the code and the files of an SSID. -/
def Touches (ssid : Str) (loc : List Str) : Prop :=
  loc = Database.codeLoc cwd codeFile ∨ loc = Database.hashLoc digest codeFile code cwd ∨
    loc = (placeOf (Database.hashLoc digest codeFile code cwd) ssid).data ∨
    loc = (placeOf (Database.hashLoc digest codeFile code cwd) ssid).metadata

/-- An open database is the one of the SSID and the code. -/
def Session.Fits (session : Session) : Prop :=
  ∀ database, session.database = some database →
    database.csv.data =
      Database.destinationFileName digest codeFile code session.currentSsid ++ dataExtention

end

section
variable {digest : Str → Vector UInt8 32} {code : Str} {ssid : Str}

theorem spelled_codeFolder (cwd : List Str) :
    spelled cwd (Database.codeFolder codeFile) = Database.codeLoc cwd codeFile := by
  have hsteps : pathSteps (cStr (Database.codeFolder codeFile)) =
      [.down databaseRoot, .down (Database.codeName codeFile)] := by decide
  rw [spelled, hsteps, if_neg (by decide)]
  rfl

theorem spelled_hashFolder (cwd : List Str) :
    spelled cwd (Database.hashFolder digest codeFile code) =
      Database.hashLoc digest codeFile code cwd := by
  have hzero : 0 ∉ Database.hash digest code := fun h => (Database.hash_plain digest code 0 h).1 rfl
  have hpath : Database.hashFolder digest codeFile code =
      Database.codeFolder codeFile ++ slash :: Database.hash digest code := by
    rw [Database.hashFolder, List.append_assoc]
    rfl
  rw [hpath, spelled_append cwd (by decide) (by decide) hzero,
    pathSteps_of_isName (Database.isName_hash digest code), spelled_codeFolder]
  rfl

theorem zero_notMem_hashFolder : 0 ∉ Database.hashFolder digest codeFile code := by
  intro h
  rcases List.mem_append.mp h with h | h
  · exact absurd h (by rw [List.mem_append]; decide)
  · exact (Database.hash_plain digest code 0 h).1 rfl

/-- The paths of an SSID spell the files of its place. -/
theorem spelled_files (cwd : List Str) (hssid : 0 ∉ ssid) :
    spelled cwd (Database.destinationFileName digest codeFile code ssid ++ dataExtention) =
        (placeOf (Database.hashLoc digest codeFile code cwd) ssid).data ∧
      spelled cwd (Database.destinationFileName digest codeFile code ssid ++ metadataExtention) =
        (placeOf (Database.hashLoc digest codeFile code cwd) ssid).metadata := by
  have hne : Database.hashFolder digest codeFile code ≠ [] :=
    List.append_ne_nil_of_left_ne_nil (List.append_ne_nil_of_right_ne_nil _ (by decide)) _
  have hpath (extention : Str) :
      Database.destinationFileName digest codeFile code ssid ++ extention =
      Database.hashFolder digest codeFile code ++ slash :: (ssid ++ extention) := by
    rw [Database.destinationFileName, List.append_assoc, List.append_assoc]
    rfl
  rw [hpath, hpath, spelled_site cwd hne zero_notMem_hashFolder hssid (.inl rfl),
    spelled_site cwd hne zero_notMem_hashFolder hssid (.inr rfl), spelled_hashFolder]
  exact ⟨rfl, rfl⟩

/-- The code file is neither one of the folders nor a file of a site. -/
theorem not_touches_codeFile (cwd : List Str) :
    ¬ Touches digest code cwd ssid (codeFileLoc cwd) := by
  have hlen (loc : List Str) (hloc : loc.length ≠ cwd.length + 1) : codeFileLoc cwd ≠ loc := by
    rintro rfl
    exact hloc (by rw [codeFileLoc, List.length_append, List.length_singleton])
  rintro (h | h | h | h)
  · exact hlen _ (by simp [Database.codeLoc, Database.rootLoc]) h
  · exact hlen _ (by simp [Database.hashLoc, Database.codeLoc, Database.rootLoc]) h
  · exact concat_ne_data _ (.inl (by decide)) h
  · exact concat_ne_metadata _ (.inl (by decide)) h

/-- The only data file is the one of the SSID. -/
theorem placeOf_of_touches {cwd : List Str} {site : Site}
    (h : Touches digest code cwd ssid site.data) :
    site = placeOf (Database.hashLoc digest codeFile code cwd) ssid := by
  have hhash : 46 ∉ Database.hash digest code :=
    fun h => (Database.hash_plain digest code 46 h).2.1 rfl
  rcases h with h | h | h | h
  · exact absurd h.symm (concat_ne_data site (.inr (by decide)))
  · exact absurd h.symm (concat_ne_data site (.inr hhash))
  · exact Site.data_injective h
  · exact absurd h (site.data_ne_metadata _)

variable {allowed : List Str → Prop} {w w' : World}

/-- The code stays what it is where the code file is left alone. -/
theorem codeOf_of_changes (hfolder : w.fs w.cwd = some .folder)
    (hcode : ¬ allowed (codeFileLoc w.cwd))
    (h : ChangesOnly allowed w w') : Database.codeOf w' codeFile = Database.codeOf w codeFile := by
  have hfolder' : w'.fs w'.cwd = some .folder := by
    rw [h.cwd]
    exact isFolder_iff.mp (h.folders _ (isFolder_iff.mpr hfolder))
  rw [codeOf_codeFile hfolder', codeOf_codeFile hfolder, h.cwd, h.fs _ hcode]

theorem Database.readCode_reads (codeFileName : Str) : ReadsOnly (readCode codeFileName) := by
  rintro w _ rfl
  rw [readCode_run]
  exact ⟨fun _ _ hrun => by cases hrun; rfl, fun _ _ hrun => by cases hrun⟩

/-- The world is one in which the program runs with this code. -/
structure Hosts (code : Str) (w : World) : Prop where
  folder : w.fs w.cwd = some .folder
  code : Database.codeOf w codeFile = code

theorem Hosts.of_changes (hw : Hosts code w) (hcode : ¬ allowed (codeFileLoc w.cwd))
    (h : ChangesOnly allowed w w') : Hosts code w' where
  folder := by
    rw [h.cwd]
    exact isFolder_iff.mp (h.folders _ (isFolder_iff.mpr hw.folder))
  code := (codeOf_of_changes hw.folder hcode h).trans hw.code

/-- What may be written: the files of the SSID among it, the code file not. -/
structure Permits (digest : Str → Vector UInt8 32) (code : Str) (w : World) (ssid : Str)
    (allowed : List Str → Prop) : Prop where
  touches : ∀ loc, Touches digest code w.cwd ssid loc → allowed loc
  codeFile : ¬ allowed (codeFileLoc w.cwd)

/-- The constructor makes the folders and the files of the SSID. -/
theorem Database.new_keeps (hw : Hosts code w) (h : Permits digest code w ssid allowed)
    (hssid : 0 ∉ ssid) :
    (new digest ssid codeFile).Keeps (ChangesOnly allowed w) := by
  have hfolder := h.touches _ (.inl (spelled_codeFolder w.cwd))
  have hhash := h.touches _ (.inr (.inl (spelled_hashFolder w.cwd)))
  have hdata := h.touches _ (.inr (.inr (.inl (spelled_files w.cwd hssid).1)))
  have hmetadata := h.touches _ (.inr (.inr (.inr (spelled_files w.cwd hssid).2)))
  refine .bind (Communicator.createFolder_keeps hfolder) fun _ => ?_
  refine .bind_of_run ((readCode_reads _).keeps _) fun w₁ code' w₂ hw₁ hrun => ?_
  -- the code that is read is the code of the world the turn began in
  obtain rfl : code' = code := by
    rw [readCode_run] at hrun
    cases hrun
    exact (hw.of_changes h.codeFile hw₁).code
  refine .bind (Communicator.createFolder_keeps hhash) fun _ => ?_
  exact .bind (openCsv_keeps hdata hmetadata) fun _ => .pure _ _

theorem Database.new_data (hw : Hosts code w) (h : Permits digest code w ssid allowed)
    (hchanges : ChangesOnly allowed w w') {database : Database} {v : World}
    (hrun : (new digest ssid codeFile).run w' = .ok database v) :
    database.csv.data = destinationFileName digest codeFile code ssid ++ dataExtention := by
  have hfolder := h.touches _ (.inl (spelled_codeFolder w.cwd))
  obtain ⟨_, w₁, hcreate, hrest⟩ := Method.run_bind_eq_ok hrun
  have hchanges₁ := (Communicator.createFolder_keeps hfolder w' hchanges).1 _ _ hcreate
  rw [Method.run_bind_ok (readCode_run w₁ codeFile),
    (hw.of_changes h.codeFile hchanges₁).code] at hrest
  obtain ⟨_, w₂, -, hrest⟩ := Method.run_bind_eq_ok hrest
  obtain ⟨csv, w₃, hcsv, hrest⟩ := Method.run_bind_eq_ok hrest
  cases hrest
  exact (openCsv_files hcsv).1

theorem openDatabase_keeps (hw : Hosts code w) (h : Permits digest code w ssid allowed)
    (hssid : 0 ∉ ssid) (session : Session) :
    (openDatabase digest session ssid).Keeps (ChangesOnly allowed w) := by
  rw [openDatabase]
  cases (if ssid ≠ session.currentSsid then none else session.database) with
  | none => exact Database.new_keeps hw h hssid
  | some database => exact .pure _ _

/-- The database that a turn writes to is the one of its SSID. -/
theorem openDatabase_data (hw : Hosts code w) (h : Permits digest code w ssid allowed)
    {session : Session} (hfits : session.Fits digest code) (hchanges : ChangesOnly allowed w w')
    {database : Database} {v : World} (hrun : (openDatabase digest session ssid).run w' = .ok database v) :
    database.csv.data = Database.destinationFileName digest codeFile code ssid ++
      dataExtention := by
  rw [openDatabase] at hrun
  cases hopen : (if ssid ≠ session.currentSsid then none else session.database) with
  | none =>
    rw [hopen] at hrun
    exact Database.new_data hw h hchanges hrun
  | some current =>
    rw [hopen] at hrun
    cases hrun
    split at hopen
    · cases hopen
    · rename_i hsame
      rw [not_not.mp hsame]
      exact hfits _ hopen

/-- What a turn may write, by what it sees of the frame. -/
def TurnTouches (digest : Str → Vector UInt8 32) (code : Str) (cwd : List Str)
    (observation : Except Failure (Str × BigNumber)) (loc : List Str) : Prop :=
  ∃ ssid output, seenOf observation = some (ssid, output) ∧ Touches digest code cwd ssid loc

theorem seenOf_of_charString {output : Str} {element : BigNumber}
    (h : element.charString = .ok ssid) :
    seenOf (.ok (output, element)) = some (ssid, output) := by
  rw [seenOf, h]

theorem permits_of_seen {observation : Except Failure (Str × BigNumber)} {output : Str}
    (h : seenOf observation = some (ssid, output)) :
    Permits digest code w ssid (TurnTouches digest code w.cwd observation) where
  touches := fun _ hloc => ⟨ssid, output, h, hloc⟩
  codeFile := fun ⟨_, _, _, hloc⟩ => not_touches_codeFile w.cwd hloc

/-- **A turn writes nothing but the files of the SSID it sees.** -/
theorem turn_keeps (hw : Hosts code w) {session : Session} (hfits : session.Fits digest code)
    (observation : Except Failure (Str × BigNumber)) (date : Str) :
    (turn digest observation date session).Keeps
      (ChangesOnly (TurnTouches digest code w.cwd observation) w) := by
  refine .bind_of_run (.lift _ _) fun w₁ seen w₂ hw₁ hseen => ?_
  obtain rfl := Method.run_lift_eq_ok hseen
  obtain ⟨output, element⟩ := seen
  refine .ite (.pure _ _) ?_
  refine .bind_of_run (.lift _ _) fun w₃ ssid w₄ hw₃ hssid => ?_
  have helement := Method.run_lift_eq_ok hssid
  have hpermits : Permits digest code w ssid (TurnTouches digest code w.cwd (.ok (output, element))) :=
    permits_of_seen (seenOf_of_charString helement)
  have hzero : 0 ∉ ssid := zero_notMem_charString helement
  refine .bind_of_run (openDatabase_keeps hw hpermits hzero session) fun w₅ database w₆ hw₅ hopen => ?_
  have hdata := openDatabase_data hw hpermits hfits hw₅ hopen
  refine .bind (updateEntry_keeps ?_ _ _ _) fun _ => .pure _ _
  rw [hdata]
  exact hpermits.touches _ (.inr (.inr (.inl (spelled_files w.cwd hzero).1)))

/-- A turn that returns leaves the script that is run and a fitting session. -/
theorem turn_fits (hw : Hosts code w) {session session' : Session}
    (hfits : session.Fits digest code)
    {observation : Except Failure (Str × BigNumber)} {date : Str} {w' : World}
    (hrun : (turn digest observation date session).run w = .ok session' w') :
    session'.tree = session.tree ∧ session'.Fits digest code := by
  obtain ⟨seen, w₁, hseen, hrest⟩ := Method.run_bind_eq_ok hrun
  obtain rfl := Method.run_lift_eq_ok hseen
  obtain ⟨output, element⟩ := seen
  cases hseen
  simp only at hrest
  by_cases hnull : element.isNull = true
  · rw [if_pos hnull] at hrest
    cases hrest
    exact ⟨rfl, hfits⟩
  · rw [if_neg hnull] at hrest
    obtain ⟨ssid, w₂, hssid, hrest⟩ := Method.run_bind_eq_ok hrest
    have helement := Method.run_lift_eq_ok hssid
    rw [helement] at hssid
    cases hssid
    obtain ⟨database, w₃, hopen, hrest⟩ := Method.run_bind_eq_ok hrest
    obtain ⟨_, w₄, -, hrest⟩ := Method.run_bind_eq_ok hrest
    cases hrest
    have hpermits : Permits digest code w ssid (TurnTouches digest code w.cwd (.ok (output, element))) :=
      permits_of_seen (seenOf_of_charString helement)
    refine ⟨rfl, ?_⟩
    rintro _ ⟨⟩
    exact openDatabase_data hw hpermits hfits (.refl _ _) hopen

end
end SnapDesk
