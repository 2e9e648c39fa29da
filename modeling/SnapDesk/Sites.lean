import SnapDesk.DatabaseFiles
import SnapDesk.Entries

/-! # Where an SSID is stored

An SSID may contain slashes, so its files may lie anywhere that can be walked to
from the folder of the code.  A `Site` is a folder and a name without extension;
`siteFrom` finds the site of an SSID, and it depends on the folders of the file
system alone.  Different sites have different files, and no data file is a
metadata file.

`Stands` says what a site holds: nothing yet, or the files of a list of entries.
The constructor of `Database` first makes the folders (`new_run`) and then opens
the files of the site, makes them, or throws where there is no site. -/
namespace SnapDesk
open Delimited FileTree Register

structure Site where
  folder : List Str
  name : Str
  deriving DecidableEq

namespace Site

def data (site : Site) : List Str := site.folder ++ [site.name ++ dataExtention]

def metadata (site : Site) : List Str := site.folder ++ [site.name ++ metadataExtention]

/-- Sites whose files with the same extension are the same. -/
theorem file_injective {site site' : Site} {extention : Str}
    (h : site.folder ++ [site.name ++ extention] = site'.folder ++ [site'.name ++ extention]) :
    site = site' := by
  obtain ⟨hfolder, hname⟩ := List.append_inj' h rfl
  have hname' : site.name = site'.name := List.append_cancel_right (List.cons.inj hname).1
  cases site
  cases site'
  simp_all

theorem data_injective {site site' : Site} (h : site.data = site'.data) : site = site' :=
  file_injective h

theorem metadata_injective {site site' : Site} (h : site.metadata = site'.metadata) :
    site = site' :=
  file_injective h

theorem data_ne_metadata (site site' : Site) : site.data ≠ site'.metadata := by
  intro h
  exact Database.extended_ne _ _ (List.cons.inj (List.append_inj' h rfl).2).1

end Site

/-- The last component of a path. -/
def baseName (path : Str) : Str := ((fields slash (path ++ [slash])).getLast?).getD []

/-- A path with an extension differs in its last component. -/
theorem pathSteps_extended (path : Str) {extention : Str} (h : slash ∉ extention) :
    pathSteps (path ++ extention) =
      (pathSteps path).dropLast ++ [pathStep (baseName path ++ extention)] := by
  obtain ⟨fs, f, hfs, hf, rfl⟩ := exists_terminate_append slash path
  have hbase : fields slash (terminate slash fs ++ f ++ [slash]) = fs ++ [f] := by
    rw [List.append_assoc, fields_terminate_append slash hfs, fields_append_sep slash hf]
    rfl
  have hextended : fields slash (terminate slash fs ++ f ++ extention ++ [slash]) =
      fs ++ [f ++ extention] := by
    have hf' : slash ∉ f ++ extention := by simp [hf, h]
    rw [List.append_assoc, List.append_assoc, fields_terminate_append slash hfs,
      ← List.append_assoc, fields_append_sep slash hf']
    rfl
  rw [pathSteps, pathSteps, baseName, hbase, hextended]
  simp

theorem slash_notMem_baseName (path : Str) : slash ∉ baseName path := by
  rw [baseName]
  match h : (fields slash (path ++ [slash])).getLast? with
  | none => simp
  | some f => exact sep_notMem_of_mem_fields slash (List.mem_of_getLast? h)

/-- The site of an SSID, seen from a folder. -/
def siteFrom (t : Tree Str Str) (loc : List Str) (ssid : Str) : Option Site :=
  ((walk t loc (pathSteps ssid).dropLast).filter fun folder => isFolder t folder).map
    (⟨·, baseName ssid⟩)

theorem siteFrom_congr {t t' : Tree Str Str} (h : ∀ loc, isFolder t loc = isFolder t' loc)
    (loc : List Str) (ssid : Str) : siteFrom t loc ssid = siteFrom t' loc ssid := by
  simp only [siteFrom, walk_congr h, h]

/-- An SSID without slashes is stored in the folder itself. -/
theorem siteFrom_plain {t : Tree Str Str} {loc : List Str} (hloc : t loc = some .folder)
    {ssid : Str} (h : slash ∉ ssid) : siteFrom t loc ssid = some ⟨loc, ssid⟩ := by
  have hsteps : pathSteps ssid = [pathStep ssid] := by
    rw [pathSteps, fields_append_sep slash h]
    rfl
  have hbase : baseName ssid = ssid := by
    rw [baseName, fields_append_sep slash h]
    rfl
  rw [siteFrom, hsteps, hbase]
  simp [walk, isFolder_iff.mpr hloc]

/-- The path of an SSID with one of the extensions leads to its site. -/
theorem locate_site {w : World} {path : Str} {loc : List Str} (hne : path ≠ []) (hpath : 0 ∉ path)
    (hloc : locate w path = some loc) {ssid : Str} (hssid : 0 ∉ ssid) {extention : Str}
    (hext : extention = dataExtention ∨ extention = metadataExtention) :
    locate w (path ++ slash :: (ssid ++ extention)) =
      (siteFrom w.fs loc ssid).map fun site => site.folder ++ [site.name ++ extention] := by
  have hplain := Database.extention_plain hext
  have hname : IsName (baseName ssid ++ extention) :=
    Database.isName_extended (slash_notMem_baseName ssid) hext
  rw [locate_append hne hpath (by simp [hssid, hplain.2]), hloc, Option.bind_some,
    pathSteps_extended ssid hplain.1, hname.2, walk_append, siteFrom]
  match walk w.fs loc (pathSteps ssid).dropLast with
  | none => rfl
  | some folder =>
    rw [Option.bind_some, walk]
    by_cases hfolder : isFolder w.fs folder = true
    · rw [if_pos hfolder, Option.filter_some, if_pos hfolder]
      rfl
    · rw [if_neg hfolder, Option.filter_some, if_neg hfolder]
      rfl

/-! ### What a site holds -/

/-- The content of the metadata file of a database. -/
def databaseMetadata : Str := Csv.metadataText keyColumnNumber columnNames.length

/-- Nothing yet, or the files of a list of entries. -/
def Stands (t : Tree Str Str) (site : Site) : Option (List Entry) → Prop
  | none => t site.data = none ∧ t site.metadata ≠ some .folder
  | some entries => t site.data = some (.file (tableOf entries).text) ∧
      t site.metadata = some (.file databaseMetadata)

/-- The tree with the files of a list of entries at a site. -/
def putEntries (t : Tree Str Str) (site : Site) (entries : List Entry) : Tree Str Str :=
  put (put t site.data (.file (tableOf entries).text)) site.metadata (.file databaseMetadata)

theorem stands_putEntries (t : Tree Str Str) (site : Site) (entries : List Entry) :
    Stands (putEntries t site entries) site (some entries) :=
  ⟨by rw [putEntries, put_of_ne (site.data_ne_metadata site), put_self], put_self ..⟩

/-- A site stands by its two files. -/
theorem Stands.congr {t t' : Tree Str Str} {site : Site} {o : Option (List Entry)}
    (h : Stands t site o)
    (hdata : t' site.data = t site.data) (hmetadata : t' site.metadata = t site.metadata) :
    Stands t' site o := by
  cases o with
  | none => exact ⟨hdata.trans h.1, hmetadata ▸ h.2⟩
  | some entries => exact ⟨hdata.trans h.1, hmetadata.trans h.2⟩

/-- Other sites are left alone. -/
theorem Stands.putEntries {t : Tree Str Str} {site site' : Site} {o : Option (List Entry)}
    (h : Stands t site o) (hne : site ≠ site') (entries : List Entry) :
    Stands (SnapDesk.putEntries t site' entries) site o := by
  have hdata : SnapDesk.putEntries t site' entries site.data = t site.data := by
    rw [SnapDesk.putEntries, put_of_ne (site.data_ne_metadata site'),
      put_of_ne fun he => hne (Site.data_injective he)]
  have hmetadata : SnapDesk.putEntries t site' entries site.metadata = t site.metadata := by
    rw [SnapDesk.putEntries, put_of_ne fun he => hne (Site.metadata_injective he),
      put_of_ne (site'.data_ne_metadata site).symm]
  exact h.congr hdata hmetadata

/-- What is not a file of the site is left alone. -/
theorem putEntries_of_ne {t : Tree Str Str} {site : Site} {loc : List Str} (hdata : loc ≠ site.data)
    (hmetadata : loc ≠ site.metadata) (entries : List Entry) :
    putEntries t site entries loc = t loc := by
  rw [putEntries, put_of_ne hmetadata, put_of_ne hdata]

/-- Writing the data file again is putting the new entries. -/
theorem put_data_eq {t : Tree Str Str} {site : Site} {old : List Entry}
    (h : Stands t site (some old)) (entries : List Entry) :
    put t site.data (.file (tableOf entries).text) = putEntries t site entries := by
  funext loc
  by_cases hmetadata : loc = site.metadata
  · rw [hmetadata, put_of_ne (site.data_ne_metadata site).symm, h.2, putEntries, put_self]
  · rw [putEntries, put_of_ne hmetadata]

theorem isFolder_putEntries {t : Tree Str Str} {site : Site} {o : Option (List Entry)}
    (h : Stands t site o) (entries : List Entry) (loc : List Str) :
    isFolder (putEntries t site entries) loc = isFolder t loc := by
  have hdata : isFolder t site.data = false := by
    cases o with
    | none => simp [isFolder, h.1]
    | some old => simp [isFolder, h.1]
  have hmetadata : isFolder t site.metadata = false := by
    rw [Bool.eq_false_iff, ne_eq, isFolder_iff]
    cases o with
    | none => exact h.2
    | some old => rw [h.2]; exact fun he => by cases he
  rw [putEntries, isFolder_put_file ((isFolder_put_file hdata _ _).trans hmetadata),
    isFolder_put_file hdata]

/-! ### Opening the files of a site -/

section
variable {w : World} {path : Str} {loc : List Str} {ssid : Str}

/-- The path of a folder, as it is walked from. -/
structure LeadsTo (w : World) (path : Str) (loc : List Str) : Prop where
  ne_nil : path ≠ []
  zero : 0 ∉ path
  locate : locate w path = some loc

namespace Database

theorem locate_files (h : LeadsTo w path loc) (hssid : 0 ∉ ssid) :
    SnapDesk.locate w (path ++ lit "/" ++ ssid ++ dataExtention) =
        (siteFrom w.fs loc ssid).map Site.data ∧
      SnapDesk.locate w (path ++ lit "/" ++ ssid ++ metadataExtention) =
        (siteFrom w.fs loc ssid).map Site.metadata := by
  have hpath (extention : Str) : path ++ lit "/" ++ ssid ++ extention =
      path ++ slash :: (ssid ++ extention) := by
    rw [List.append_assoc, List.append_assoc]
    rfl
  exact ⟨hpath _ ▸ locate_site h.ne_nil h.zero h.locate hssid (.inl rfl),
    hpath _ ▸ locate_site h.ne_nil h.zero h.locate hssid (.inr rfl)⟩

/-- The files of a site that stands are opened. -/
theorem openCsv_run_stored (h : LeadsTo w path loc) (hssid : 0 ∉ ssid) {site : Site}
    (hsite : siteFrom w.fs loc ssid = some site) {entries : List Entry}
    (hstands : Stands w.fs site (some entries)) :
    (openCsv (path ++ lit "/" ++ ssid)).run w =
      .ok (databaseOf (path ++ lit "/" ++ ssid)).csv w := by
  obtain ⟨hdata, hmetadata⟩ := locate_files h hssid
  rw [hsite] at hdata hmetadata
  have hstored : Csv.Stored w (path ++ lit "/" ++ ssid) site.data site.metadata keyColumnNumber
      (tableOf entries) := ⟨⟨hdata, hstands.1⟩, ⟨hmetadata, hstands.2⟩⟩
  have hexist : (openText w (path ++ lit "/" ++ ssid ++ dataExtention)).isSome = true := by
    rw [hstored.data.openText]
    rfl
  rw [openCsv, Method.run_bind_ok (Communicator.exist_run w _), hexist, if_pos rfl,
    Csv.new_run hstored (by decide) (by decide)]
  rfl

/-- The files of a new site are made. -/
theorem openCsv_run_new (h : LeadsTo w path loc) (hssid : 0 ∉ ssid) {site : Site}
    (hsite : siteFrom w.fs loc ssid = some site) (hstands : Stands w.fs site none) :
    (openCsv (path ++ lit "/" ++ ssid)).run w =
      .ok (databaseOf (path ++ lit "/" ++ ssid)).csv { w with fs := putEntries w.fs site [] } := by
  obtain ⟨hdata, hmetadata⟩ := locate_files h hssid
  rw [hsite] at hdata hmetadata
  have hexist : (openText w (path ++ lit "/" ++ ssid ++ dataExtention)).isSome = false := by
    rw [openText, hdata, Option.map_some, Option.bind_some, hstands.1]
    rfl
  have hfree : isFolder w.fs site.data = false := by simp [isFolder, hstands.1]
  have hfree' : isFolder w.fs site.metadata = false := by
    rw [Bool.eq_false_iff, ne_eq, isFolder_iff]
    exact hstands.2
  rw [openCsv, Method.run_bind_ok (Communicator.exist_run w _), hexist, if_neg Bool.false_ne_true]
  exact Csv.create_run hdata hmetadata hfree hfree' (site.data_ne_metadata site) headerRow
    (by decide) (by decide)

/-- Where an SSID has no site, nothing can be opened. -/
theorem openCsv_run_nowhere (h : LeadsTo w path loc) (hssid : 0 ∉ ssid)
    (hsite : siteFrom w.fs loc ssid = none) :
    (openCsv (path ++ lit "/" ++ ssid)).run w =
      .error (Communicator.failedToOpen (path ++ lit "/" ++ ssid ++ dataExtention)) w := by
  obtain ⟨hdata, -⟩ := locate_files h hssid
  rw [hsite] at hdata
  have hexist : (openText w (path ++ lit "/" ++ ssid ++ dataExtention)).isSome = false := by
    rw [openText, hdata]
    rfl
  have hwritable : openWritable w (path ++ lit "/" ++ ssid ++ dataExtention) = none := by
    rw [openWritable, hdata]
    rfl
  have hnewFile : (Communicator.newFile (path ++ lit "/" ++ ssid ++ dataExtention)).run w =
      .ok () w := by
    rw [Communicator.newFile, Method.run_bind_ok (Method.run_get w)]
    simp only [hwritable, Method.run_pure]
  have haddLine (line : Str) :
      (Communicator.addLine (path ++ lit "/" ++ ssid ++ dataExtention) line).run w =
        .error (Communicator.failedToOpen (path ++ lit "/" ++ ssid ++ dataExtention)) w := by
    rw [Communicator.addLine, Method.run_bind_ok (Method.run_get w)]
    simp only [hwritable, Method.run_throw]
  rw [openCsv, Method.run_bind_ok (Communicator.exist_run w _), hexist, if_neg Bool.false_ne_true,
    Csv.create, Method.run_bind_ok hnewFile, Method.run_bind_error (haddLine _)]

end Database
end

/-! ### Making the folders -/

theorem LeadsTo.child {w : World} {path : Str} {loc : List Str} (h : LeadsTo w path loc)
    (hfolder : w.fs loc = some .folder) {name : Str} (hname : IsName name) (hzero : 0 ∉ name) :
    LeadsTo w (path ++ lit "/" ++ name) (loc ++ [name]) := by
  have hpath : path ++ lit "/" ++ name = path ++ slash :: name := by
    rw [List.append_assoc]
    rfl
  rw [hpath]
  refine ⟨by simp, ?_, locate_child h.ne_nil h.zero h.locate hfolder hname hzero⟩
  simp only [List.mem_append, List.mem_cons, not_or]
  exact ⟨h.zero, by decide, hzero⟩

theorem LeadsTo.makeFolder {w : World} {path : Str} {loc : List Str} (h : LeadsTo w path loc)
    (loc' : List Str) : LeadsTo (SnapDesk.makeFolder loc' w) path loc :=
  ⟨h.ne_nil, h.zero, locate_makeFolder h.locate loc'⟩

/-- A plain name in the folder the program runs in. -/
theorem leadsTo_relative {w : World} (hcwd : w.fs w.cwd = some .folder) {name : Str}
    (hname : IsName name) (hne : name ≠ []) (hzero : 0 ∉ name) :
    LeadsTo w name (w.cwd ++ [name]) := by
  refine ⟨hne, hzero, ?_⟩
  have hhead : name.head? ≠ some slash := fun h => hname.1 (List.mem_of_head? h)
  rw [locate_relative hne hzero hhead, pathSteps_of_isName hname, walk,
    if_pos (isFolder_iff.mpr hcwd)]
  rfl

/-- Nothing, or a folder. -/
def Free (t : Tree Str Str) (loc : List Str) : Prop := ∀ content, t loc ≠ some (.file content)

theorem free_of_folder {t : Tree Str Str} {loc : List Str} (h : t loc = some .folder) :
    Free t loc :=
  fun _ he => by rw [h] at he; cases he

theorem free_makeFolder {w : World} {loc loc' : List Str} (h : Free w.fs loc) :
    Free (makeFolder loc' w).fs loc := by
  intro content
  by_cases he : loc = loc'
  · exact free_of_folder (he ▸ put_self ..) content
  · rw [makeFolder_fs, put_of_ne he]
    exact h content

theorem folder_makeFolder {w : World} {loc : List Str} (h : w.fs loc = some .folder)
    (loc' : List Str) : (makeFolder loc' w).fs loc = some .folder := by
  by_cases he : loc = loc'
  · rw [he, makeFolder_fs, put_self]
  · rw [makeFolder_fs, put_of_ne he]
    exact h

namespace Database

/-- Where the database folder lies. -/
def rootLoc (cwd : List Str) : List Str := cwd ++ [databaseRoot]

/-- Where the folder of a code file lies. -/
def codeLoc (cwd : List Str) (codeFileName : Str) : List Str :=
  rootLoc cwd ++ [codeName codeFileName]

section
variable (digest : Str → Vector UInt8 32) (codeFileName code : Str)

/-- Where the folder of a code lies. -/
def hashLoc (cwd : List Str) : List Str := codeLoc cwd codeFileName ++ [hash digest code]

/-- The world with the folders of a code. -/
def house (w : World) : World :=
  makeFolder (hashLoc digest codeFileName code w.cwd) (makeFolder (codeLoc w.cwd codeFileName) w)

/-- The program runs in a folder, and nothing is in the way of the database. -/
structure Ground (w : World) : Prop where
  cwd : w.fs w.cwd = some .folder
  root : w.fs (rootLoc w.cwd) = some .folder
  codeFree : Free w.fs (codeLoc w.cwd codeFileName)
  hashFree : Free w.fs (hashLoc digest codeFileName code w.cwd)

variable {digest codeFileName code} {w : World}

/-- The folder of a code file, before it is made. -/
theorem leadsTo_codeFolder (h : Ground digest codeFileName code w) (hne : codeFileName ≠ [])
    (hzero : 0 ∉ codeFileName) :
    LeadsTo w (codeFolder codeFileName) (codeLoc w.cwd codeFileName) := by
  have hroot : LeadsTo w databaseRoot (rootLoc w.cwd) :=
    leadsTo_relative h.cwd ⟨by decide, by decide⟩ (by decide) (by decide)
  exact hroot.child h.root (isName_codeName hne) (zero_notMem_codeName hzero)

/-- The folder of a code, before it is made. -/
theorem leadsTo_hashFolder (h : Ground digest codeFileName code w) (hne : codeFileName ≠ [])
    (hzero : 0 ∉ codeFileName) :
    LeadsTo (makeFolder (codeLoc w.cwd codeFileName) w) (hashFolder digest codeFileName code)
      (hashLoc digest codeFileName code w.cwd) :=
  ((leadsTo_codeFolder h hne hzero).makeFolder _).child (put_self ..) (isName_hash digest code)
    fun hmem => (hash_plain digest code 0 hmem).1 rfl

theorem leadsTo_house (h : Ground digest codeFileName code w) (hne : codeFileName ≠ [])
    (hzero : 0 ∉ codeFileName) :
    LeadsTo (house digest codeFileName code w) (hashFolder digest codeFileName code)
      (hashLoc digest codeFileName code w.cwd) :=
  (leadsTo_hashFolder h hne hzero).makeFolder _

/-- **The constructor** makes the folders of the code it reads and opens the files
of the SSID there. -/
theorem new_run (h : Ground digest codeFileName code w) (hne : codeFileName ≠ [])
    (hzero : 0 ∉ codeFileName)
    (hcode : codeOf (makeFolder (codeLoc w.cwd codeFileName) w) codeFileName = code) (ssid : Str) :
    (new digest ssid codeFileName).run w =
      (openCsv (destinationFileName digest codeFileName code ssid) >>= fun csv =>
        (pure ⟨csv⟩ : Action Database)).run (house digest codeFileName code w) := by
  have hmade := leadsTo_hashFolder h hne hzero
  rw [new, Method.run_bind_ok (createFolder_run (leadsTo_codeFolder h hne hzero).locate h.codeFree),
    Method.run_bind_ok (readCode_run _ codeFileName), hcode,
    Method.run_bind_ok (createFolder_run hmade.locate (free_makeFolder h.hashFree))]
  rfl

/-- Nothing but the two folders changes. -/
theorem house_of_ne {loc : List Str} (hcode : loc ≠ codeLoc w.cwd codeFileName)
    (hhash : loc ≠ hashLoc digest codeFileName code w.cwd) :
    (house digest codeFileName code w).fs loc = w.fs loc := by
  rw [house, makeFolder_fs, put_of_ne hhash, makeFolder_fs, put_of_ne hcode]

theorem codeLoc_ne_hashLoc (cwd : List Str) :
    codeLoc cwd codeFileName ≠ hashLoc digest codeFileName code cwd := by
  intro he
  have hlen := congrArg List.length he
  rw [hashLoc, List.length_append, List.length_singleton] at hlen
  omega

theorem house_folders (w : World) :
    (house digest codeFileName code w).fs (codeLoc w.cwd codeFileName) = some .folder ∧
      (house digest codeFileName code w).fs (hashLoc digest codeFileName code w.cwd) =
        some .folder := by
  refine ⟨?_, put_self ..⟩
  rw [house, makeFolder_fs, put_of_ne (codeLoc_ne_hashLoc w.cwd), makeFolder_fs, put_self]

/-- Once they are there, the folders are not made again. -/
theorem house_of_folders (hcode : w.fs (codeLoc w.cwd codeFileName) = some .folder)
    (hhash : w.fs (hashLoc digest codeFileName code w.cwd) = some .folder) :
    house digest codeFileName code w = w := by
  rw [house, makeFolder_of_folder hcode, makeFolder_of_folder hhash]

theorem house_house (w : World) :
    house digest codeFileName code (house digest codeFileName code w) =
      house digest codeFileName code w :=
  house_of_folders (house_folders w).1 (house_folders w).2

end
end Database
end SnapDesk
