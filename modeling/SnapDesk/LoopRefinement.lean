import SnapDesk.Sites

/-! # The main loop keeps a ledger

Between two turns the database of an installation is a ledger: on the site of
every SSID the entries of the frames seen there.  `Standing` relates a world to a
ledger, and `Ready` a session to both.  A turn that sees an SSID whose output can
stand in a cell records one visit in the ledger and notifies of a new one
(`turn_run`); an SSID that has no site makes the turn throw and changes nothing
(`turn_run_nowhere`).

Nothing the loop writes lies in the way of the script, of the code that is hashed,
or of a folder, so an installation stays what it is: `run` starts again after an
exception as it has started before (`start_run`). -/
namespace SnapDesk
open Delimited FileTree Register BigNumber

/-- What a run of the program finds and does not change. -/
structure Installation where
  cwd : List Str
  script : Str
  tree : Node
  compiled : Compiler.getExecutableTree script = .ok tree
  /-- What is found under the name of the code file. -/
  codeEntry : Option (FileTree.Entry Str)
  /-- A tree with the folders there are once the database has been opened. -/
  housed : Tree Str Str

/-- The code that is hashed, by what is found under the name of its file. -/
def codeOfEntry : Option (FileTree.Entry Str) → Str
  | some (.file content) => Database.codeText content
  | _ => []

namespace Installation

def code (i : Installation) : Str := codeOfEntry i.codeEntry

section
variable (digest : Str → Vector UInt8 32) (i : Installation)

/-- The folder of the databases. -/
def home : List Str := Database.hashLoc digest codeFile i.code i.cwd

/-- Where an SSID is stored. -/
def siteOf (ssid : Str) : Option Site := siteFrom i.housed (i.home digest) ssid

end
end Installation

/-- The visits that the main loop records. -/
abbrev Sighting := Visit Str Site Cell Cell

/-- What the program keeps: the entries of every site and the commands it has run. -/
structure Books where
  ledger : Ledger Site Cell Cell
  commands : List Str

namespace Books

/-- The books with the entries of one site and the commands as given. -/
def write (b : Books) (site : Site) (entries : List Entry) (commands : List Str) : Books :=
  ⟨Function.update b.ledger site (some entries), commands⟩

/-- One more sighting. -/
def record (b : Books) (s : Sighting) : Books :=
  b.write s.shelf (Register.record (b.ledger.items s.shelf) (s.key, s.stamp))
    (b.commands ++ alerts (b.ledger.items s.shelf) s.who s.key)

theorem record_ledger (b : Books) (s : Sighting) : (b.record s).ledger = b.ledger.record s := rfl

theorem write_self (b : Books) (site : Site) (entries : List Entry) (commands : List Str) :
    (b.write site entries commands).ledger site = some entries := Function.update_self ..

theorem write_of_ne (b : Books) {site site' : Site} (h : site' ≠ site) (entries : List Entry)
    (commands : List Str) : (b.write site entries commands).ledger site' = b.ledger site' :=
  Function.update_of_ne h ..

theorem write_write (b : Books) (site : Site) (entries entries' : List Entry)
    (commands commands' : List Str) :
    (b.write site entries commands).write site entries' commands' =
      b.write site entries' commands' := by
  rw [write, write, write, Function.update_idem]

/-- Writing what is there changes nothing. -/
theorem write_items (b : Books) {site : Site} {entries : List Entry}
    (h : b.ledger site = some entries) : b.write site (b.ledger.items site) b.commands = b := by
  rw [write, Ledger.items, h, Option.getD_some, ← h, Function.update_eq_self]

end Books

/-! ### Files that the databases leave alone -/

/-- A name without an extension: its last character is another one, or it has no dot. -/
theorem concat_ne_file {loc folder : List Str} {name base extention : Str}
    (hne : extention ≠ []) (hdot : 46 ∈ extention)
    (h : name.getLast? ≠ extention.getLast? ∨ 46 ∉ name) :
    loc ++ [name] ≠ folder ++ [base ++ extention] := by
  intro he
  rw [(List.cons.inj (List.append_inj' he rfl).2).1,
    List.getLast?_append_of_ne_nil _ hne] at h
  rcases h with h | h
  · exact h rfl
  · exact h (List.mem_append_right _ hdot)

theorem concat_ne_data {loc : List Str} {name : Str} (site : Site)
    (h : name.getLast? ≠ some 118 ∨ 46 ∉ name) : loc ++ [name] ≠ site.data :=
  concat_ne_file (by decide) (by decide) h

theorem concat_ne_metadata {loc : List Str} {name : Str} (site : Site)
    (h : name.getLast? ≠ some 97 ∨ 46 ∉ name) : loc ++ [name] ≠ site.metadata :=
  concat_ne_file (by decide) (by decide) h

/-- Where the script file lies. -/
def scriptLoc (cwd : List Str) : List Str := cwd ++ [lit "code.txt"]

/-- Where the code file lies. -/
def codeFileLoc (cwd : List Str) : List Str := cwd ++ [codeFile]

section
variable (digest : Str → Vector UInt8 32) (i : Installation) (own : Site → Prop)

/-- The locations that a run relies on. -/
def Relied (loc : List Str) : Prop :=
  loc = scriptLoc i.cwd ∨ loc = codeFileLoc i.cwd ∨ loc = Database.rootLoc i.cwd ∨
    loc = Database.codeLoc i.cwd codeFile ∨ loc = i.home digest

theorem Relied.ne_files {digest : Str → Vector UInt8 32} {i : Installation} {loc : List Str}
    (h : Relied digest i loc) (site : Site) : loc ≠ site.data ∧ loc ≠ site.metadata := by
  have hhash : 46 ∉ Database.hash digest i.code := fun h =>
    (Database.hash_plain digest i.code 46 h).2.1 rfl
  rcases h with rfl | rfl | rfl | rfl | rfl
  · exact ⟨concat_ne_data site (.inl (by decide)), concat_ne_metadata site (.inl (by decide))⟩
  · exact ⟨concat_ne_data site (.inl (by decide)), concat_ne_metadata site (.inl (by decide))⟩
  · exact ⟨concat_ne_data site (.inr (by decide)), concat_ne_metadata site (.inr (by decide))⟩
  · exact ⟨concat_ne_data site (.inr (by decide)), concat_ne_metadata site (.inr (by decide))⟩
  · exact ⟨concat_ne_data site (.inr hhash), concat_ne_metadata site (.inr hhash)⟩

/-- **A world of the installation** that keeps the books on its own sites. -/
structure Standing (w : World) (b : Books) : Prop where
  cwd : w.cwd = i.cwd
  ground : Database.Ground digest codeFile i.code w
  folders : ∀ loc, isFolder (Database.house digest codeFile i.code w).fs loc = isFolder i.housed loc
  script : w.fs (scriptLoc i.cwd) = some (.file i.script)
  codeEntry : w.fs (codeFileLoc i.cwd) = i.codeEntry
  sites : ∀ site, own site → Stands w.fs site (b.ledger site)
  commands : w.commands = b.commands

/-- The folders of the code are there. -/
def Housed (w : World) : Prop := Database.house digest codeFile i.code w = w

/-- **A session between two turns**: an open database is the one of the SSID. -/
structure Ready (w : World) (b : Books) (session : Session) : Prop where
  tree : session.tree = i.tree
  database : ∀ database, session.database = some database →
    database = databaseOf (Database.destinationFileName digest codeFile i.code session.currentSsid) ∧
      Housed digest i w ∧
      ∃ site, i.siteOf digest session.currentSsid = some site ∧ own site ∧ (b.ledger site).isSome

end

section
variable {digest : Str → Vector UInt8 32} {i : Installation} {own : Site → Prop} {w : World}
  {b : Books}

/-- A session that begins. -/
theorem ready_fresh (w : World) (b : Books) : Ready digest i own w b ⟨i.tree, [], none⟩ :=
  ⟨rfl, fun _ h => by cases h⟩

/-! ### What reading finds -/

theorem openText_scriptFile (h : Standing digest i own w b) :
    openText w scriptFile = some i.script := by
  have hsteps : pathSteps scriptFile = [.stay, .down (lit "code.txt")] := by decide
  have hfolder : isFolder w.fs w.cwd = true := isFolder_iff.mpr h.ground.cwd
  have hlocate : locate w scriptFile = some (scriptLoc w.cwd) := by
    rw [locate_relative (by decide) (by decide) (by decide), hsteps, walk, if_pos hfolder, walk,
      Step.next, if_pos hfolder]
    rfl
  rw [openText, hlocate, Option.bind_some, h.cwd, h.script]

theorem codeOf_codeFile (hcwd : w.fs w.cwd = some .folder) :
    Database.codeOf w codeFile = codeOfEntry (w.fs (codeFileLoc w.cwd)) := by
  have hleads : LeadsTo w codeFile (codeFileLoc w.cwd) :=
    leadsTo_relative hcwd ⟨by decide, by decide⟩ (by decide) (by decide)
  rw [Database.codeOf, openText, hleads.locate, Option.bind_some]
  rcases w.fs (codeFileLoc w.cwd) with _ | _ | content
  · rfl
  · rfl
  · rfl

theorem compileScript_run (h : Standing digest i own w b) :
    compileScript.run w = .ok i.tree w := by
  rw [compileScript, Method.run_bind_ok (Method.run_get w)]
  simp only [openText_scriptFile h, i.compiled]
  rfl

/-- `run` starts as it did before. -/
theorem start_run (h : Standing digest i own w b) : start.run w = .ok ⟨i.tree, [], none⟩ w := by
  have hroot : LeadsTo w databaseRoot (Database.rootLoc w.cwd) :=
    leadsTo_relative h.ground.cwd ⟨by decide, by decide⟩ (by decide) (by decide)
  rw [start, Method.run_bind_ok (Communicator.createFolder_run_of_folder hroot.locate h.ground.root),
    Method.run_bind_ok (compileScript_run h)]
  rfl

/-! ### What a turn changes -/

theorem house_of_short {loc : List Str} (h : loc.length < w.cwd.length + 2) :
    (Database.house digest codeFile i.code w).fs loc = w.fs loc := by
  refine Database.house_of_ne (fun he => ?_) fun he => ?_
  · rw [he, Database.codeLoc, Database.rootLoc] at h
    simp at h
  · rw [he, Database.hashLoc, Database.codeLoc, Database.rootLoc] at h
    simp at h

/-- The fewer sites are its own, the less is asked of a world. -/
theorem Standing.mono (h : Standing digest i own w b) {own' : Site → Prop}
    (hown : ∀ site, own' site → own site) : Standing digest i own' w b where
  cwd := h.cwd
  ground := h.ground
  folders := h.folders
  script := h.script
  codeEntry := h.codeEntry
  sites := fun site hsite => h.sites site (hown site hsite)
  commands := h.commands

/-- Making the folders of the code leaves everything else as it is. -/
theorem Standing.house (h : Standing digest i own w b) :
    Standing digest i own (Database.house digest codeFile i.code w) b where
  cwd := h.cwd
  ground := by
    refine ⟨?_, ?_, free_of_folder (Database.house_folders w).1,
      free_of_folder (Database.house_folders w).2⟩
    · exact (house_of_short (by simp [Database.house])).trans h.ground.cwd
    · exact (house_of_short (by simp [Database.house, Database.rootLoc])).trans h.ground.root
  folders := by
    rw [Database.house_house]
    exact h.folders
  script := (house_of_short (by simp [scriptLoc, h.cwd])).trans h.script
  codeEntry := (house_of_short (by simp [codeFileLoc, h.cwd])).trans h.codeEntry
  sites := by
    intro site hsite
    have hne (loc : List Str) (hloc : Relied digest i loc) := hloc.ne_files site
    have hcode := hne (Database.codeLoc w.cwd codeFile) (by rw [h.cwd, Relied]; simp)
    have hhash := hne (Database.hashLoc digest codeFile i.code w.cwd) (by
      rw [h.cwd, Relied]
      simp [Installation.home])
    have hdata : (Database.house digest codeFile i.code w).fs site.data = w.fs site.data :=
      Database.house_of_ne hcode.1.symm hhash.1.symm
    have hmetadata : (Database.house digest codeFile i.code w).fs site.metadata =
        w.fs site.metadata := Database.house_of_ne hcode.2.symm hhash.2.symm
    exact (h.sites site hsite).congr hdata hmetadata
  commands := h.commands

/-- Writing the entries of one of its sites leaves the installation as it is. -/
theorem Standing.putEntries (h : Standing digest i own w b) (hhoused : Housed digest i w)
    {site : Site} (hown : own site) (entries : List Entry) (commands : List Str) :
    Standing digest i own { w with fs := putEntries w.fs site entries, commands := commands }
        (b.write site entries commands) ∧
      Housed digest i { w with fs := putEntries w.fs site entries, commands := commands } := by
  have hrelied (loc : List Str) (hloc : Relied digest i loc) :
      SnapDesk.putEntries w.fs site entries loc = w.fs loc :=
    putEntries_of_ne (hloc.ne_files site).1 (hloc.ne_files site).2 entries
  have hfolders (loc : List Str) :
      isFolder (SnapDesk.putEntries w.fs site entries) loc = isFolder w.fs loc :=
    isFolder_putEntries (h.sites site hown) entries loc
  have hfolder {loc : List Str} (hloc : w.fs loc = some .folder) :
      SnapDesk.putEntries w.fs site entries loc = some .folder :=
    isFolder_iff.mp ((hfolders loc).trans (isFolder_iff.mpr hloc))
  -- the folders of the code are there, and a file in them does not take them away
  have hmade : w.fs (Database.codeLoc w.cwd codeFile) = some .folder ∧
      w.fs (Database.hashLoc digest codeFile i.code w.cwd) = some .folder := by
    have hfolders : (Database.house digest codeFile i.code w).fs _ = _ ∧
        (Database.house digest codeFile i.code w).fs _ = _ := Database.house_folders w
    rwa [show Database.house digest codeFile i.code w = w from hhoused] at hfolders
  have hhoused' : Housed digest i
      { w with fs := SnapDesk.putEntries w.fs site entries, commands := commands } :=
    Database.house_of_folders (hfolder hmade.1) (hfolder hmade.2)
  refine ⟨⟨h.cwd, ⟨hfolder h.ground.cwd, hfolder h.ground.root, free_of_folder (hfolder hmade.1),
    free_of_folder (hfolder hmade.2)⟩, fun loc => ?_, ?_, ?_, fun site' hsite' => ?_, rfl⟩,
    hhoused'⟩
  · rw [show Database.house digest codeFile i.code _ = _ from hhoused']
    refine (hfolders loc).trans ((congrArg (fun w => isFolder w.fs loc) hhoused.symm).trans ?_)
    exact h.folders loc
  · exact (hrelied _ (.inl rfl)).trans h.script
  · exact (hrelied _ (.inr (.inl rfl))).trans h.codeEntry
  · by_cases he : site' = site
    · subst he
      rw [b.write_self]
      exact stands_putEntries w.fs site' entries
    · rw [b.write_of_ne he]
      exact (h.sites site' hsite').putEntries he entries

/-- The path of the folder of the code, once the folder is there. -/
theorem Standing.leadsTo (h : Standing digest i own w b) (hhoused : Housed digest i w) :
    LeadsTo w (Database.hashFolder digest codeFile i.code) (i.home digest) := by
  have hleads := Database.leadsTo_house h.ground (by decide) (by decide)
  rw [show Database.house digest codeFile i.code w = w from hhoused, h.cwd] at hleads
  exact hleads

theorem Standing.siteFrom_eq (h : Standing digest i own w b) (hhoused : Housed digest i w)
    (ssid : Str) : siteFrom w.fs (i.home digest) ssid = i.siteOf digest ssid := by
  refine siteFrom_congr (fun loc => ?_) _ ssid
  rw [← h.folders loc, show Database.house digest codeFile i.code w = w from hhoused]

/-- The data file of an SSID holds the entries of its site. -/
theorem Standing.holdsEntries (h : Standing digest i own w b) (hhoused : Housed digest i w)
    {ssid : Str} (hssid : 0 ∉ ssid) {site : Site} (hsite : i.siteOf digest ssid = some site)
    (hown : own site) {entries : List Entry} (hentries : b.ledger site = some entries) :
    HoldsEntries w (Database.destinationFileName digest codeFile i.code ssid) site.data entries := by
  have hlocate := (Database.locate_files (h.leadsTo hhoused) hssid).1
  rw [h.siteFrom_eq hhoused, hsite] at hlocate
  have hstands := h.sites site hown
  rw [hentries] at hstands
  exact .of_file ⟨hlocate, hstands.1⟩

/-- The constructor, on a world of the installation. -/
theorem Standing.new_run (h : Standing digest i own w b) (ssid : Str) :
    (Database.new digest ssid codeFile).run w =
      (Database.openCsv (Database.destinationFileName digest codeFile i.code ssid) >>= fun csv =>
        (pure ⟨csv⟩ : Action Database)).run (Database.house digest codeFile i.code w) := by
  refine Database.new_run h.ground (by decide) (by decide) ?_ ssid
  have hcwd : (makeFolder (Database.codeLoc w.cwd codeFile) w).fs w.cwd = some .folder :=
    folder_makeFolder h.ground.cwd _
  have hne : codeFileLoc w.cwd ≠ Database.codeLoc w.cwd codeFile := by
    intro he
    have hlen := congrArg List.length he
    simp [codeFileLoc, Database.codeLoc, Database.rootLoc] at hlen
  have hentry : (makeFolder (Database.codeLoc w.cwd codeFile) w).fs (codeFileLoc w.cwd) =
      i.codeEntry := by
    rw [makeFolder_fs, put_of_ne hne, h.cwd, h.codeEntry]
  exact (codeOf_codeFile hcwd).trans (congrArg codeOfEntry hentry)

/-- Opening the database of an SSID that has a site. -/
theorem openDatabase_run (h : Standing digest i own w b) {session : Session}
    (hready : Ready digest i own w b session) {ssid : Str} (hssid : 0 ∉ ssid) {site : Site}
    (hsite : i.siteOf digest ssid = some site) (hown : own site) :
    ∃ w', (openDatabase digest session ssid).run w =
        .ok (databaseOf (Database.destinationFileName digest codeFile i.code ssid)) w' ∧
      Standing digest i own w'
        (b.write site (b.ledger.items site) b.commands) ∧
      Housed digest i w' := by
  rw [openDatabase]
  -- the database is open already, or its folders are made and its files looked for
  by_cases hopen : ssid = session.currentSsid ∧ session.database.isSome
  · obtain ⟨rfl, hsome⟩ := hopen
    obtain ⟨database, hdatabase⟩ := Option.isSome_iff_exists.mp hsome
    obtain ⟨rfl, hhoused, site', hsite', hown', hledger⟩ := hready.database database hdatabase
    obtain rfl : site' = site := Option.some.inj (hsite'.symm.trans hsite)
    obtain ⟨entries, hentries⟩ := Option.isSome_iff_exists.mp hledger
    refine ⟨w, ?_, ?_, hhoused⟩
    · simp only [ne_eq, not_true_eq_false, if_false, hdatabase]
      rfl
    · rw [b.write_items hentries]
      exact h
  · have hnone : (if ssid ≠ session.currentSsid then none else session.database) = none := by
      by_cases he : ssid = session.currentSsid
      · rw [if_neg (not_not_intro he)]
        exact Option.not_isSome_iff_eq_none.mp fun hs => hopen ⟨he, hs⟩
      · rw [if_pos he]
    have hhouse := h.house
    have hhoused : Housed digest i (Database.house digest codeFile i.code w) :=
      Database.house_house w
    have hleads := hhouse.leadsTo hhoused
    have hfrom := (hhouse.siteFrom_eq hhoused ssid).trans hsite
    have hstands := hhouse.sites site hown
    rw [hnone]
    simp only [h.new_run ssid]
    match hledger : b.ledger site with
    | some entries =>
      rw [hledger] at hstands
      refine ⟨_, ?_, ?_, hhoused⟩
      · rw [Database.destinationFileName,
          Method.run_bind_ok (Database.openCsv_run_stored hleads hssid hfrom hstands)]
        rfl
      · rw [b.write_items hledger]
        exact hhouse
    | none =>
      rw [hledger] at hstands
      obtain ⟨hstanding, hhoused'⟩ :=
        hhouse.putEntries hhoused hown [] (Database.house digest codeFile i.code w).commands
      have hitems : b.ledger.items site = [] := by
        rw [Ledger.items, hledger]
        rfl
      refine ⟨_, ?_, ?_, hhoused'⟩
      · rw [Database.destinationFileName,
          Method.run_bind_ok (Database.openCsv_run_new hleads hssid hfrom hstands)]
        rfl
      · rw [hitems, ← hhouse.commands]
        exact hstanding

/-- Opening a database that has entries changes nothing. -/
theorem openDatabase_run_known (h : Standing digest i own w b) (hhoused : Housed digest i w)
    {session : Session} (hready : Ready digest i own w b session) {ssid : Str} (hssid : 0 ∉ ssid)
    {site : Site} (hsite : i.siteOf digest ssid = some site) (hown : own site)
    {entries : List Entry} (hledger : b.ledger site = some entries) :
    (openDatabase digest session ssid).run w =
      .ok (databaseOf (Database.destinationFileName digest codeFile i.code ssid)) w := by
  have hnew : (Database.new digest ssid codeFile).run w =
      .ok (databaseOf (Database.destinationFileName digest codeFile i.code ssid)) w := by
    have hfrom := (h.siteFrom_eq hhoused ssid).trans hsite
    have hstands := h.sites site hown
    rw [hledger] at hstands
    rw [h.new_run ssid, show Database.house digest codeFile i.code w = w from hhoused,
      Database.destinationFileName,
      Method.run_bind_ok (Database.openCsv_run_stored (h.leadsTo hhoused) hssid hfrom hstands)]
    rfl
  rw [openDatabase]
  cases hopen : (if ssid ≠ session.currentSsid then none else session.database) with
  | none => exact hnew
  | some database =>
    split at hopen
    · cases hopen
    · rename_i he
      obtain ⟨rfl, -⟩ := hready.database database hopen
      rw [not_not.mp he]
      rfl

/-- **A turn records a sighting.** -/
theorem turn_run (h : Standing digest i own w b) {session : Session}
    (hready : Ready digest i own w b session) {output : Cell} {element : BigNumber} {ssid : Str}
    (helement : element.isNull = false) (hssid : element.charString = .ok ssid) {site : Site}
    (hsite : i.siteOf digest ssid = some site) (hown : own site)
    (hreadable : Readable (b.ledger.items site) output) (date : Cell) :
    ∃ w' session', (turn digest (.ok (output.text, element)) date.text session).run w =
        .ok session' w' ∧
      Standing digest i own w' (b.record ⟨ssid, site, output, date⟩) ∧
      Ready digest i own w' (b.record ⟨ssid, site, output, date⟩) session' ∧
      Housed digest i w' := by
  have hzero := zero_notMem_charString hssid
  obtain ⟨w₁, hopen, hstanding, hhoused⟩ := openDatabase_run h hready hzero hsite hown
  have hentries := hstanding.holdsEntries hhoused hzero hsite hown (b.write_self ..)
  obtain ⟨hstanding', hhoused'⟩ := hstanding.putEntries hhoused hown
    (Register.record (b.ledger.items site) (output, date))
    (w₁.commands ++ alerts (b.ledger.items site) ssid output)
  rw [b.write_write, hstanding.commands] at hstanding'
  -- the data file alone is written again
  have hstands := hstanding.sites site hown
  rw [b.write_self] at hstands
  have hworld : { writeFile site.data (tableOf (Register.record (b.ledger.items site)
        (output, date))).text w₁ with
      commands := w₁.commands ++ alerts (b.ledger.items site) ssid output } =
      { w₁ with
        fs := putEntries w₁.fs site (Register.record (b.ledger.items site) (output, date)),
        commands := b.commands ++ alerts (b.ledger.items site) ssid output } := by
    rw [writeFile, put_data_eq hstands, hstanding.commands]
    rfl
  refine ⟨_, ⟨i.tree, ssid, some (databaseOf (Database.destinationFileName digest codeFile i.code
    ssid))⟩, ?_, hstanding', ⟨rfl, ?_⟩, hstanding.commands ▸ hhoused'⟩
  · rw [turn_run_named helement hssid, Method.run_bind_ok hopen,
      Method.run_bind_ok (updateEntry_run hentries hreadable ssid date), hready.tree, hworld]
    rfl
  · rintro _ ⟨⟩
    rw [hstanding.commands] at hhoused'
    refine ⟨rfl, hhoused', site, hsite, hown, ?_⟩
    rw [Books.record, b.write_self]
    rfl

/-- **A turn that sees a known output** writes the data file of the SSID and nothing
else. -/
theorem turn_run_known (h : Standing digest i own w b) (hhoused : Housed digest i w)
    {session : Session} (hready : Ready digest i own w b session) {output : Cell}
    {element : BigNumber}
    {ssid : Str} (helement : element.isNull = false) (hssid : element.charString = .ok ssid)
    {site : Site} (hsite : i.siteOf digest ssid = some site) (hown : own site)
    {entries : List Entry} (hledger : b.ledger site = some entries) (hknown : output ∈ keys entries)
    (hreadable : Readable entries output) (date : Cell) :
    ∃ session', (turn digest (.ok (output.text, element)) date.text session).run w =
      .ok session' (writeFile site.data (tableOf (Register.record entries (output, date))).text w) := by
  have hzero := zero_notMem_charString hssid
  have hentries := h.holdsEntries hhoused hzero hsite hown hledger
  have hupdate := updateEntry_run hentries hreadable ssid date
  rw [alerts, if_pos hknown, List.append_nil] at hupdate
  rw [turn_run_named helement hssid,
    Method.run_bind_ok (openDatabase_run_known h hhoused hready hzero hsite hown hledger),
    Method.run_bind_ok hupdate]
  exact ⟨_, rfl⟩

/-- An SSID without a site makes the turn throw. -/
theorem turn_run_nowhere (h : Standing digest i own w b) {session : Session}
    (hready : Ready digest i own w b session) (output : Str) {element : BigNumber} {ssid : Str}
    (helement : element.isNull = false) (hssid : element.charString = .ok ssid)
    (hsite : i.siteOf digest ssid = none) (date : Str) :
    ∃ w' e, (turn digest (.ok (output, element)) date session).run w = .error e w' ∧
      e.isException = true ∧ Standing digest i own w' b ∧ Housed digest i w' := by
  have hzero := zero_notMem_charString hssid
  have hnone : (if ssid ≠ session.currentSsid then none else session.database) = none := by
    by_cases he : ssid = session.currentSsid
    · rw [if_neg (not_not_intro he)]
      by_contra hopen
      obtain ⟨database, hdatabase⟩ := Option.ne_none_iff_exists'.mp hopen
      obtain ⟨-, -, site, hsite', -⟩ := hready.database database hdatabase
      rw [← he, hsite] at hsite'
      cases hsite'
    · rw [if_pos he]
  have hhouse := h.house
  have hhoused : Housed digest i (Database.house digest codeFile i.code w) := Database.house_house w
  have hfrom := (hhouse.siteFrom_eq hhoused ssid).trans hsite
  have hnew : (Database.new digest ssid codeFile).run w =
      .error (Communicator.failedToOpen (Database.destinationFileName digest codeFile i.code ssid ++
        dataExtention)) (Database.house digest codeFile i.code w) := by
    rw [h.new_run ssid, Database.destinationFileName,
      Method.run_bind_error (Database.openCsv_run_nowhere (hhouse.leadsTo hhoused) hzero hfrom)]
  refine ⟨_, Communicator.failedToOpen (Database.destinationFileName digest codeFile i.code ssid ++
    dataExtention), ?_, rfl, hhouse, hhoused⟩
  · rw [turn_run_named helement hssid, openDatabase, hnone, Method.run_bind_error hnew]

/-- A known output whose row number is negative as an `int` makes the turn throw. -/
theorem turn_run_unreadable (h : Standing digest i own w b) {session : Session}
    (hready : Ready digest i own w b session) {output : Cell} {element : BigNumber} {ssid : Str}
    (helement : element.isNull = false) (hssid : element.charString = .ok ssid) {site : Site}
    (hsite : i.siteOf digest ssid = some site) (hown : own site) {entries : List Entry}
    (hledger : b.ledger site = some entries) {row : Nat}
    (hrow : (keys entries).idxOf? output = some row) (hnegative : toInt row < 0) (date : Str) :
    ∃ w' e, (turn digest (.ok (output.text, element)) date session).run w = .error e w' ∧
      e.isException = true ∧ Standing digest i own w' b ∧ Housed digest i w' := by
  have hzero := zero_notMem_charString hssid
  obtain ⟨w₁, hopen, hstanding, hhoused⟩ := openDatabase_run h hready hzero hsite hown
  rw [b.write_items hledger] at hstanding
  have hentries := hstanding.holdsEntries hhoused hzero hsite hown hledger
  obtain ⟨found, hfound, hnone⟩ := getKeyOfEntries_run hentries output
  have hknown : output ∈ keys entries :=
    List.isSome_idxOf?.mp (Option.isSome_iff_exists.mpr ⟨_, hrow⟩)
  have hcolumn : ((columnNames.idxOf? (lit "creation_date")).getD npos) = 1 := by decide
  obtain ⟨what, htest⟩ := Csv.testRowNumber_eq_error hnegative
  have hcell : ((databaseOf (Database.destinationFileName digest codeFile i.code ssid)).getCell
      output.text (lit "creation_date")).run w₁ = .error (.invalidArgument what) w₁ := by
    rw [Database.getCell, Method.run_bind_ok (getRowNumber_run hentries output), hrow,
      Option.getD_some, Method.run_bind_ok (getColumnNumber_run hentries _), hcolumn, Csv.getCell,
      Csv.Holds.testColumnNumber hentries (by decide),
        Method.run_bind_ok (Method.run_lift_ok () w₁),
      htest, Method.run_bind_error (Method.run_lift_error _ w₁)]
  have hupdate : (updateEntry (databaseOf (Database.destinationFileName digest codeFile i.code ssid))
      ssid output.text date).run w₁ = .error (.invalidArgument what) w₁ := by
    rw [updateEntry, Method.run_bind_ok hfound, if_neg fun he => hnone.mp he hknown,
      Method.run_bind_error hcell]
  refine ⟨w₁, .invalidArgument what, ?_, rfl, hstanding, hhoused⟩
  rw [turn_run_named helement hssid, Method.run_bind_ok hopen, Method.run_bind_error hupdate]

/-! ### Runs -/

/-- The program, between two turns, keeps these books; once a database has been
opened, its folders are there. -/
def Refines (digest : Str → Vector UInt8 32) (i : Installation) (own : Site → Prop) (opened : Prop)
    (p : Process) (b : Books) : Prop :=
  ∃ session w, p = .running session w ∧ Standing digest i own w b ∧
    Ready digest i own w b session ∧ (opened → Housed digest i w)

/-- After an exception the program runs again. -/
theorem refines_restart (h : Standing digest i own w b) {opened : Prop}
    (hopened : opened → Housed digest i w) {e : Failure} (he : e.isException = true) :
    Refines digest i own opened (Process.restart e w).resume b := by
  refine ⟨⟨i.tree, [], none⟩, w, ?_, h, ready_fresh w b, hopened⟩
  rw [Process.restart, if_pos he, Process.resume, start_run h]

end

section
variable (digest : Str → Vector UInt8 32) (i : Installation)

/-- The sighting that a turn records, if it records one. -/
def Installation.sighting (observation : Except Failure (Str × BigNumber)) (date : Cell) :
    Option Sighting :=
  match observation with
  | .error _ => none
  | .ok (output, element) =>
      if element.isNull then none
      else match i.siteOf digest (element.number.filter (· ≠ 0)) with
        | none => none
        | some site =>
            if h : IsCell output then
              some ⟨element.number.filter (· ≠ 0), site, ⟨output, h⟩, date⟩
            else none

/-- The books after a turn. -/
def Books.see (b : Books) : Option Sighting → Books
  | none => b
  | some s => b.record s

/-- What a turn must find to go well: an exception, no SSID element, or an output
that can stand in a cell, on a site of the installation where its row can be
read. -/
def Proper (own : Site → Prop) (b : Books) (observation : Except Failure (Str × BigNumber)) : Prop :=
  match observation with
  | .error e => e.isException = true
  | .ok (output, element) => element.isNull = false → ∃ h : IsCell output,
      ∀ site, i.siteOf digest (element.number.filter (· ≠ 0)) = some site →
        own site ∧ Readable (b.ledger.items site) ⟨output, h⟩

variable {α : Type} (observe : Node → α → Except Failure (Str × BigNumber))

/-- The sightings of a list of frames, in order. -/
def Installation.sightings (inputs : List (α × LocalTime)) : List Sighting :=
  inputs.filterMap fun input => i.sighting digest (observe i.tree input.1) (dateCell input.2)

/-- The books after a list of frames. -/
def Installation.booksAfter (b : Books) (inputs : List (α × LocalTime)) : Books :=
  (i.sightings digest observe inputs).foldl Books.record b

end

section
variable {digest : Str → Vector UInt8 32} {i : Installation} {own : Site → Prop} {b : Books}
  {α : Type} {observe : Node → α → Except Failure (Str × BigNumber)}

theorem booksAfter_concat (inputs : List (α × LocalTime)) (input : α × LocalTime) :
    i.booksAfter digest observe b (inputs ++ [input]) =
      (i.booksAfter digest observe b inputs).see
        (i.sighting digest (observe i.tree input.1) (dateCell input.2)) := by
  rw [Installation.booksAfter, Installation.sightings, List.filterMap_append, List.foldl_append,
    ← Installation.sightings, ← Installation.booksAfter]
  match h : i.sighting digest (observe i.tree input.1) (dateCell input.2) with
  | none => simp [h, Books.see]
  | some s => simp [h, Books.see]

/-- **One frame.** -/
theorem feed_refines {p : Process} {opened : Prop} (h : Refines digest i own opened p b)
    (input : α × LocalTime) (hproper : Proper digest i own b (observe i.tree input.1)) :
    Refines digest i own
      (opened ∨ (i.sighting digest (observe i.tree input.1) (dateCell input.2)).isSome)
      (p.feed digest observe input)
      (b.see (i.sighting digest (observe i.tree input.1) (dateCell input.2))) := by
  obtain ⟨session, w, rfl, hstanding, hready, hopened⟩ := h
  rw [Process.feed, hready.tree]
  match hobs : observe i.tree input.1 with
  | .error e =>
    rw [hobs] at hproper
    rw [turn_run_error]
    exact refines_restart hstanding (fun ho => hopened (ho.resolve_right (by simp [Installation.sighting]))) hproper
  | .ok (output, element) =>
    rw [hobs] at hproper
    by_cases helement : element.isNull = true
    · rw [turn_run_null helement, Installation.sighting, if_pos helement]
      exact ⟨session, w, rfl, hstanding, hready, fun ho => hopened (ho.resolve_right (by simp))⟩
    · have helement' : element.isNull = false := Bool.eq_false_iff.mpr helement
      obtain ⟨hcell, hsites⟩ := hproper helement'
      rw [Installation.sighting, if_neg helement]
      match hsite : i.siteOf digest (element.number.filter (· ≠ 0)) with
      | none =>
        obtain ⟨w', e, hturn, he, hstanding', hhoused⟩ := turn_run_nowhere hstanding hready output
          helement' (charString_eq helement') hsite input.2.date
        rw [hturn]
        exact refines_restart hstanding' (fun _ => hhoused) he
      | some site =>
        obtain ⟨hown, hreadable⟩ := hsites site hsite
        have hoption : (if h : IsCell output then
            some (Visit.mk (element.number.filter (· ≠ 0)) site (⟨output, h⟩ : Cell)
              (dateCell input.2)) else none) = some _ := dif_pos hcell
        obtain ⟨w', session', hturn, hstanding', hready', hhoused⟩ := turn_run hstanding hready
          helement' (charString_eq helement') hsite hown hreadable (dateCell input.2)
        rw [show (turn digest (.ok (output, element)) input.2.date session).run w = _ from hturn]
        simp only [hoption, Books.see]
        exact ⟨session', w', rfl, hstanding', hready', fun _ => hhoused⟩

/-- The world in which the program is started: only the database folder may be
missing. -/
structure Boots (digest : Str → Vector UInt8 32) (i : Installation) (own : Site → Prop) (w : World)
    (b : Books) : Prop where
  cwd : w.fs w.cwd = some .folder
  root : Free w.fs (Database.rootLoc w.cwd)
  standing : Standing digest i own (makeFolder (Database.rootLoc w.cwd) w) b

theorem Boots.mono {w : World} (h : Boots digest i own w b) {own' : Site → Prop}
    (hown : ∀ site, own' site → own site) : Boots digest i own' w b :=
  ⟨h.cwd, h.root, h.standing.mono hown⟩

theorem boot_refines {w : World} (h : Boots digest i own w b) :
    Refines digest i own False (Process.restarting w).resume b := by
  have hroot : LeadsTo w databaseRoot (Database.rootLoc w.cwd) :=
    leadsTo_relative h.cwd ⟨by decide, by decide⟩ (by decide) (by decide)
  have hcompile : compileScript.run (makeFolder (Database.rootLoc w.cwd) w) =
      .ok i.tree (makeFolder (Database.rootLoc w.cwd) w) := compileScript_run h.standing
  refine ⟨⟨i.tree, [], none⟩, _, ?_, h.standing, ready_fresh _ b, False.elim⟩
  rw [Process.resume, start, Method.run_bind_ok (createFolder_run hroot.locate h.root),
    Method.run_bind_ok hcompile]
  rfl

/-- **A run keeps the books of its sightings**, if every frame is proper. -/
theorem run_refines {w : World} (h : Boots digest i own w b) {inputs : List (α × LocalTime)}
    (hproper : ∀ before input after, inputs = before ++ input :: after →
      Proper digest i own (i.booksAfter digest observe b before) (observe i.tree input.1)) :
    Refines digest i own (i.sightings digest observe inputs ≠ [])
      (Process.run digest observe w inputs) (i.booksAfter digest observe b inputs) := by
  induction inputs using List.reverseRecOn with
  | nil =>
    obtain ⟨session, w', hp, hstanding, hready, -⟩ := boot_refines h
    exact ⟨session, w', hp, hstanding, hready, fun ho => absurd rfl ho⟩
  | append_singleton inputs input ih =>
    have hrun := ih fun before x after he => hproper before x (after ++ [input]) (by
      rw [he, List.append_assoc, List.cons_append])
    obtain ⟨session, w', hp, hstanding, hready, hhoused⟩ :=
      feed_refines hrun input (hproper inputs input [] rfl)
    rw [booksAfter_concat, Process.run_concat]
    refine ⟨session, w', hp, hstanding, hready, fun ho => hhoused ?_⟩
    rw [Installation.sightings, List.filterMap_append, ← Installation.sightings] at ho
    by_cases hbefore : i.sightings digest observe inputs = []
    · rw [hbefore, List.nil_append] at ho
      right
      by_contra hnone
      rw [Option.not_isSome_iff_eq_none] at hnone
      exact ho (by simp only [List.filterMap_cons, hnone, List.filterMap_nil])
    · exact .inl hbefore

theorem foldl_record_ledger (b : Books) (sightings : List Sighting) :
    (sightings.foldl Books.record b).ledger = b.ledger.recordAll sightings := by
  induction sightings using List.reverseRecOn with
  | nil => rfl
  | append_singleton sightings s ih =>
    rw [List.foldl_append, Ledger.recordAll_concat, ← ih]
    rfl

/-- The ledger of the books records the sightings. -/
theorem booksAfter_ledger (b : Books) (inputs : List (α × LocalTime)) :
    (i.booksAfter digest observe b inputs).ledger =
      b.ledger.recordAll (i.sightings digest observe inputs) := foldl_record_ledger b _

/-- The command that notifies of a sighting. -/
def alertOf (s : Sighting) : Str := cStr (Communicator.notifyCommand (newApMessage s.who))

/-- The commands of the books notify of the news. -/
theorem booksAfter_commands (b : Books) (inputs : List (α × LocalTime)) :
    (i.booksAfter digest observe b inputs).commands =
      b.commands ++ (b.ledger.news (i.sightings digest observe inputs)).map alertOf := by
  rw [Installation.booksAfter]
  induction i.sightings digest observe inputs using List.reverseRecOn with
  | nil => rw [Ledger.news, List.map_nil, List.append_nil]; rfl
  | append_singleton sightings s ih =>
    rw [List.foldl_append, Ledger.news_concat, List.map_append, ← List.append_assoc, ← ih,
      ← foldl_record_ledger]
    show (_ : List Str) ++ alerts _ _ _ = _
    rw [alerts]
    split <;> rfl

end
end SnapDesk
