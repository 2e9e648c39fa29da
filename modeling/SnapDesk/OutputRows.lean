import Mathlib.Data.List.Nodup
import SnapDesk.LoopRefinement

/-! # One row for every output

The frames of an SSID are a list of visits, its data file the register of that
list: a row for every distinct output, in the order of their first frames, with
the dates of the first and of the latest frame.  The program keeps these files and
notifies once of every pair of an SSID and an output (`run_keepsRegisters`), as
long as `get_cell` lets the number of a row that is seen again through: it is
narrowed to an `int` there. -/
namespace SnapDesk
open Delimited FileTree Register BigNumber

/-- The SSID and the output of a frame, if it has both. -/
def seenOf : Except Failure (Str × BigNumber) → Option (Str × Str)
  | .error _ => none
  | .ok (output, element) =>
      match element.charString with
      | .ok ssid => some (ssid, output)
      | .error _ => none

section
variable {α : Type} (observe : Node → α → Except Failure (Str × BigNumber)) (tree : Node)

/-- The frames with an SSID: the SSID, the output and the date of each. -/
def seenFrames (inputs : List (α × LocalTime)) : List (Str × Str × Str) :=
  inputs.filterMap fun input =>
    (seenOf (observe tree input.1)).map fun seen => (seen.1, seen.2, input.2.date)

/-- The outputs and dates of the frames of one SSID. -/
def framesOf (inputs : List (α × LocalTime)) (ssid : Str) : List (Str × Str) :=
  ((seenFrames observe tree inputs).filter fun seen => seen.1 = ssid).map Prod.snd

/-- The pairs of an SSID and an output, one for every frame. -/
def seenPairs (inputs : List (α × LocalTime)) : List (Str × Str) :=
  (seenFrames observe tree inputs).map fun seen => (seen.1, seen.2.1)

end

/-- The content of a data file: the header and a row for every item. -/
def registerText (items : List (Item Str Str)) : Str :=
  terminate newline ((columnNames :: items.map fun item => [item.key, item.first, item.last]).map
    Csv.valuesToLine)

/-- Where the data file of an SSID lies, for the code that a world has. -/
def dataLoc (digest : Str → Vector UInt8 32) (w : World) (ssid : Str) : List Str :=
  Database.hashLoc digest codeFile (Database.codeOf w codeFile) w.cwd ++ [ssid ++ dataExtention]

/-- The path of the data file of an SSID. -/
def dataPath (digest : Str → Vector UInt8 32) (w : World) (ssid : Str) : Str :=
  Database.destinationFileName digest codeFile (Database.codeOf w codeFile) ssid ++ dataExtention

section
variable {α : Type} (digest : Str → Vector UInt8 32)
  (observe : Node → α → Except Failure (Str × BigNumber)) (tree : Node) (w₀ : World)

/-- **What the program keeps** of the frames it has seen. -/
structure KeepsRegisters (inputs : List (α × LocalTime)) : Prop where
  /-- The program runs, and every data file is the register of its SSID. -/
  kept : ∃ session w, Process.run digest observe w₀ inputs = .running session w ∧
    (∀ ssid, slash ∉ ssid → 0 ∉ ssid →
      (framesOf observe tree inputs ssid = [] ∧ w.fs (dataLoc digest w₀ ssid) = none) ∨
      ∃ items, Kept (framesOf observe tree inputs ssid) items ∧
        HasFile w (dataPath digest w₀ ssid) (dataLoc digest w₀ ssid) (registerText items)) ∧
    w.commands = w₀.commands ++ (seenPairs observe tree inputs).eraseDups.map fun pair =>
      cStr (Communicator.notifyCommand (newApMessage pair.1))
  /-- A frame that throws or has no SSID element changes no file. -/
  unchanged : ∀ before input after, inputs = before ++ input :: after →
    seenOf (observe tree input.1) = none →
    ∀ session w session' w', Process.run digest observe w₀ before = .running session w →
      Process.run digest observe w₀ (before ++ [input]) = .running session' w' → w'.fs = w.fs

/-- The program starts in a folder with its script and an empty database. -/
structure StartsEmpty (script : Str) : Prop where
  cwd : w₀.fs w₀.cwd = some .folder
  root : Free w₀.fs (Database.rootLoc w₀.cwd)
  empty : ∀ path, path ≠ [] → w₀.fs (Database.rootLoc w₀.cwd ++ path) = none
  scriptEntry : w₀.fs (scriptLoc w₀.cwd) = some (.file script)
  compiled : Compiler.getExecutableTree script = .ok tree

/-- An output of `Sha256`. -/
def IsDigest (output : Str) : Prop := output.length = 64 ∧ ∀ c ∈ output, isXDigit c = true

/-- What a turn sees of a frame: an exception, or an output of `Sha256` and the
element of an SSID without slashes, if there is one. -/
def Fingerprints : Except Failure (Str × BigNumber) → Prop
  | .error e => e.isException = true
  | .ok (output, element) =>
      IsDigest output ∧ ∀ ssid, element.charString = .ok ssid → slash ∉ ssid

end

theorem isCell_of_isDigest {output : Str} (h : IsDigest output) : IsCell output := by
  refine ⟨?_, fun hmem => ?_, fun hmem => ?_⟩
  · rintro rfl
    exact absurd h.1 (by decide)
  · exact absurd (h.2 _ hmem) (by decide)
  · exact absurd (h.2 _ hmem) (by decide)

/-! ### The installation of an empty start -/

section
variable {digest : Str → Vector UInt8 32} {tree : Node} {w₀ : World} {script : Str}

/-- The installation that a start with an empty database finds. -/
def StartsEmpty.installation (digest : Str → Vector UInt8 32) (h : StartsEmpty tree w₀ script) :
    Installation where
  cwd := w₀.cwd
  script := script
  tree := tree
  compiled := h.compiled
  codeEntry := w₀.fs (codeFileLoc w₀.cwd)
  housed := (Database.house digest codeFile (Database.codeOf w₀ codeFile)
    (makeFolder (Database.rootLoc w₀.cwd) w₀)).fs

theorem StartsEmpty.code_eq (h : StartsEmpty tree w₀ script) :
    (h.installation digest).code = Database.codeOf w₀ codeFile := (codeOf_codeFile h.cwd).symm

theorem StartsEmpty.home_eq (h : StartsEmpty tree w₀ script) :
    (h.installation digest).home digest =
      Database.hashLoc digest codeFile (Database.codeOf w₀ codeFile) w₀.cwd := by
  rw [Installation.home, h.code_eq]
  rfl

/-- An SSID without slashes is stored in the folder of the code. -/
theorem StartsEmpty.siteOf_eq (h : StartsEmpty tree w₀ script) {ssid : Str} (hssid : slash ∉ ssid) :
    (h.installation digest).siteOf digest ssid =
      some ⟨(h.installation digest).home digest, ssid⟩ := by
  refine siteFrom_plain ?_ hssid
  rw [h.home_eq]
  exact (Database.house_folders (makeFolder (Database.rootLoc w₀.cwd) w₀)).2

/-- The books of an empty database. -/
def emptyBooks (w₀ : World) : Books := ⟨fun _ => none, w₀.commands⟩

theorem StartsEmpty.boots (h : StartsEmpty tree w₀ script) :
    Boots digest (h.installation digest)
      (fun site => site.folder = (h.installation digest).home digest) w₀ (emptyBooks w₀) where
  cwd := h.cwd
  root := h.root
  standing := by
    -- nothing is below the database folder
    have hbelow (path : List Str) (hpath : path ≠ []) :
        (makeFolder (Database.rootLoc w₀.cwd) w₀).fs (Database.rootLoc w₀.cwd ++ path) = none := by
      rw [makeFolder_fs, put_of_ne (by simpa using hpath), h.empty path hpath]
    have hbeside {name : Str} (hname : name ≠ databaseRoot) :
        (makeFolder (Database.rootLoc w₀.cwd) w₀).fs (w₀.cwd ++ [name]) =
          w₀.fs (w₀.cwd ++ [name]) := by
      refine put_of_ne (fun he => hname ?_) _
      exact (List.cons.inj (List.append_cancel_left he)).1
    have hfree {path : List Str} (hpath : path ≠ []) :
        Free (makeFolder (Database.rootLoc w₀.cwd) w₀).fs (Database.rootLoc w₀.cwd ++ path) := by
      intro content he
      rw [hbelow path hpath] at he
      cases he
    have hhome : (h.installation digest).home digest = Database.rootLoc w₀.cwd ++
        [Database.codeName codeFile, Database.hash digest (Database.codeOf w₀ codeFile)] := by
      rw [h.home_eq, Database.hashLoc, Database.codeLoc, List.append_assoc]
      rfl
    refine ⟨rfl, ⟨folder_makeFolder h.cwd _, put_self .., hfree (by simp), ?_⟩,
      fun loc => ?_, ?_, ?_,
      fun site hsite => ⟨?_, ?_⟩, rfl⟩
    · rw [h.code_eq]
      show Free _ (Database.hashLoc digest codeFile _ w₀.cwd)
      rw [← h.home_eq, hhome]
      exact hfree (by simp)
    · rw [h.code_eq]
      rfl
    · exact (hbeside (by decide)).trans h.scriptEntry
    · exact hbeside (by decide)
    · rw [Site.data, hsite, hhome, List.append_assoc]
      exact hbelow _ (by simp)
    · rw [Site.metadata, hsite, hhome, List.append_assoc, hbelow _ (by simp)]
      exact fun he => by cases he

end

/-! ### Sightings of frames -/

section
variable (digest : Str → Vector UInt8 32) {tree : Node} {w₀ : World} {script : Str}

theorem seenOf_ok {output : Str} {element : BigNumber} (h : element.isNull = false) :
    seenOf (.ok (output, element)) = some (element.number.filter (· ≠ 0), output) := by
  rw [seenOf, charString_eq h]

theorem seenOf_null {output : Str} {element : BigNumber} (h : element.isNull = true) :
    seenOf (.ok (output, element)) = none := by
  simp only [seenOf, charString, throwIfNull, h, if_true]
  rfl

/-- A turn records what is seen of a frame. -/
theorem sighting_of_seen (h : StartsEmpty tree w₀ script)
    {observation : Except Failure (Str × BigNumber)}
    (hobs : Fingerprints observation) (date : Cell) {ssid output : Str}
    (hseen : seenOf observation = some (ssid, output)) :
    ∃ hcell : IsCell output, (h.installation digest).sighting digest observation date =
      some ⟨ssid, ⟨(h.installation digest).home digest, ssid⟩, ⟨output, hcell⟩, date⟩ := by
  match observation with
  | .error e => cases hseen
  | .ok (output', element) =>
    by_cases helement : element.isNull = true
    · rw [seenOf_null helement] at hseen
      cases hseen
    · have helement' : element.isNull = false := Bool.eq_false_iff.mpr helement
      rw [seenOf_ok helement'] at hseen
      cases hseen
      have hslash := hobs.2 _ (charString_eq helement')
      have hcell := isCell_of_isDigest hobs.1
      refine ⟨hcell, ?_⟩
      rw [Installation.sighting, if_neg helement]
      simp only [h.siteOf_eq hslash, dif_pos hcell]

theorem sighting_of_unseen (h : StartsEmpty tree w₀ script)
    {observation : Except Failure (Str × BigNumber)} (date : Cell)
    (hseen : seenOf observation = none) :
    (h.installation digest).sighting digest observation date = none := by
  match observation with
  | .error e => rfl
  | .ok (output, element) =>
    by_cases helement : element.isNull = true
    · rw [Installation.sighting, if_pos helement]
    · rw [seenOf_ok (Bool.eq_false_iff.mpr helement)] at hseen
      cases hseen

section
variable {α : Type} {observe : Node → α → Except Failure (Str × BigNumber)}

/-- What a sighting shows of the frame. -/
def viewOf (s : Sighting) : Str × Str × Str := (s.who, s.key.text, s.stamp.text)

theorem sightings_cons (i : Installation) (input : α × LocalTime) (inputs : List (α × LocalTime)) :
    i.sightings digest observe (input :: inputs) =
      (i.sighting digest (observe i.tree input.1) (dateCell input.2)).toList ++
        i.sightings digest observe inputs := by
  rw [Installation.sightings, List.filterMap_cons, ← Installation.sightings]
  cases i.sighting digest (observe i.tree input.1) (dateCell input.2) with
  | none => rfl
  | some s => rfl

theorem seenFrames_cons (input : α × LocalTime) (inputs : List (α × LocalTime)) :
    seenFrames observe tree (input :: inputs) =
      ((seenOf (observe tree input.1)).map fun seen => (seen.1, seen.2, input.2.date)).toList ++
        seenFrames observe tree inputs := by
  rw [seenFrames, List.filterMap_cons, ← seenFrames]
  match seenOf (observe tree input.1) with
  | none => rfl
  | some seen => rfl

/-- The sightings are the frames with an SSID, each on the site of its SSID. -/
theorem sightings_view (h : StartsEmpty tree w₀ script) (inputs : List (α × LocalTime))
    (hobserve : ∀ input ∈ inputs, Fingerprints (observe tree input.1)) :
    ((h.installation digest).sightings digest observe inputs).map viewOf =
        seenFrames observe tree inputs ∧
      ∀ s ∈ (h.installation digest).sightings digest observe inputs,
        s.shelf = ⟨(h.installation digest).home digest, s.who⟩ := by
  induction inputs with
  | nil => exact ⟨rfl, by simp [Installation.sightings]⟩
  | cons input inputs ih =>
    obtain ⟨hview, hshelf⟩ := ih fun x hx => hobserve x (List.mem_cons_of_mem input hx)
    have hobs := hobserve input List.mem_cons_self
    have hcons : (h.installation digest).sightings digest observe (input :: inputs) =
        ((h.installation digest).sighting digest (observe tree input.1) (dateCell input.2)).toList ++
          (h.installation digest).sightings digest observe inputs :=
            sightings_cons digest _ input inputs
    rw [hcons, seenFrames_cons, List.map_append, hview]
    cases hseen : seenOf (observe tree input.1) with
    | none =>
      rw [sighting_of_unseen digest h (dateCell input.2) hseen]
      exact ⟨rfl, hshelf⟩
    | some seen =>
      obtain ⟨ssid, output⟩ := seen
      obtain ⟨hcell, hsighting⟩ := sighting_of_seen digest h hobs (dateCell input.2) hseen
      rw [hsighting]
      refine ⟨rfl, fun s hs => ?_⟩
      rcases List.mem_append.mp hs with hs | hs
      · obtain rfl : _ = s := Option.some.inj (Option.mem_toList.mp hs)
        rfl
      · exact hshelf s hs

/-- The frames of an SSID are the visits to its site. -/
theorem visitsAt_eq (h : StartsEmpty tree w₀ script) (inputs : List (α × LocalTime))
    (hobserve : ∀ input ∈ inputs, Fingerprints (observe tree input.1)) (ssid : Str) :
    (Ledger.visitsAt ((h.installation digest).sightings digest observe inputs)
        ⟨(h.installation digest).home digest, ssid⟩).map (Prod.map Cell.text Cell.text) =
      framesOf observe tree inputs ssid := by
  obtain ⟨hview, hshelf⟩ := sightings_view digest h inputs hobserve
  rw [framesOf, ← hview, List.filter_map, List.map_map, Ledger.visitsAt, List.map_map]
  refine congrArg₂ List.map (funext fun s => rfl) (List.filter_congr fun s hs => ?_)
  rw [hshelf s hs]
  exact decide_eq_decide.mpr (by simp [viewOf])

/-- **The entries of an SSID** are the register of its frames. -/
theorem items_eq (h : StartsEmpty tree w₀ script) (inputs : List (α × LocalTime))
    (hobserve : ∀ input ∈ inputs, Fingerprints (observe tree input.1)) (ssid : Str) :
    ((((h.installation digest).booksAfter digest observe (emptyBooks w₀) inputs).ledger.items
        ⟨(h.installation digest).home digest, ssid⟩).map (Item.map Cell.text Cell.text)) =
      ofVisits (framesOf observe tree inputs ssid) := by
  rw [booksAfter_ledger, Ledger.items_recordAll, ← visitsAt_eq digest h inputs hobserve]
  exact ofVisits_map (fun _ _ => Cell.ext) Cell.text _


/-! ### The files and the commands -/

/-- Every output that is seen again stands in a row whose number `get_cell` lets
through. -/
def RowsReadable (observe : Node → α → Except Failure (Str × BigNumber)) (tree : Node)
    (inputs : List (α × LocalTime)) : Prop :=
  ∀ before input after ssid output row, inputs = before ++ input :: after →
    seenOf (observe tree input.1) = some (ssid, output) →
    ((framesOf observe tree before ssid).map Prod.fst).eraseDups.idxOf? output = some row →
    Csv.RowReadable row

theorem RowsReadable.of_append {inputs inputs' : List (α × LocalTime)}
    (h : RowsReadable observe tree (inputs ++ inputs')) : RowsReadable observe tree inputs := by
  intro before input after ssid output row he
  refine h before input (after ++ inputs') ssid output row ?_
  rw [he, List.append_assoc, List.cons_append]

/-- The number of the row of an output, among the entries and among the frames. -/
theorem idxOf?_items (h : StartsEmpty tree w₀ script) {inputs : List (α × LocalTime)}
    (hobserve : ∀ input ∈ inputs, Fingerprints (observe tree input.1)) (ssid : Str) (key : Cell) :
    (keys (((h.installation digest).booksAfter digest observe (emptyBooks w₀) inputs).ledger.items
        ⟨(h.installation digest).home digest, ssid⟩)).idxOf? key =
      ((framesOf observe tree inputs ssid).map Prod.fst).eraseDups.idxOf? key.text := by
  have hkeys := (kept_ofVisits (framesOf observe tree inputs ssid)).keys
  rw [← items_eq digest h inputs hobserve ssid, keys_map] at hkeys
  -- the two sides compare texts in two ways that agree
  have hposition := idxOf?_map (fun _ _ => Cell.ext) (keys
    (((h.installation digest).booksAfter digest observe (emptyBooks w₀) inputs).ledger.items
      ⟨(h.installation digest).home digest, ssid⟩)) key
  rw [hkeys] at hposition
  convert hposition.symm

/-- Every turn finds what it needs. -/
theorem StartsEmpty.proper (h : StartsEmpty tree w₀ script) {inputs : List (α × LocalTime)}
    (hobserve : ∀ input ∈ inputs, Fingerprints (observe tree input.1))
    (hrows : RowsReadable observe tree inputs) (before : List (α × LocalTime))
    (input : α × LocalTime)
    (after : List (α × LocalTime)) (he : inputs = before ++ input :: after) :
    Proper digest (h.installation digest)
      (fun site => site.folder = (h.installation digest).home digest)
      ((h.installation digest).booksAfter digest observe (emptyBooks w₀) before)
      (observe tree input.1) := by
  have hbefore : ∀ x ∈ before, Fingerprints (observe tree x.1) := by
    intro x hx
    refine hobserve x ?_
    rw [he]
    exact List.mem_append_left _ hx
  have hinput : Fingerprints (observe tree input.1) := hobserve input (by simp [he])
  match hobs : observe tree input.1 with
  | .error e =>
    rw [hobs] at hinput
    exact hinput
  | .ok (output, element) =>
    rw [hobs] at hinput
    intro helement
    refine ⟨isCell_of_isDigest hinput.1, fun site hsite => ?_⟩
    rw [h.siteOf_eq (hinput.2 _ (charString_eq helement))] at hsite
    obtain rfl : _ = site := Option.some.inj hsite
    refine ⟨rfl, fun row hrow => ?_⟩
    rw [idxOf?_items digest h hbefore] at hrow
    exact hrows before input after _ output row he (hobs ▸ seenOf_ok helement) hrow

theorem registerText_eq (entries : List Entry) :
    registerText (entries.map (Item.map Cell.text Cell.text)) = (tableOf entries).text := by
  simp only [registerText, Table.text, Table.lines, tableOf, List.map_map, List.map_cons]
  rfl

/-- A data file is the register of its SSID, or is not there. -/
theorem StartsEmpty.file_kept (h : StartsEmpty tree w₀ script) {inputs : List (α × LocalTime)}
    (hobserve : ∀ input ∈ inputs, Fingerprints (observe tree input.1)) {w : World}
    (hstanding : Standing digest (h.installation digest)
      (fun site => site.folder = (h.installation digest).home digest) w
      ((h.installation digest).booksAfter digest observe (emptyBooks w₀) inputs))
    (hhoused : (h.installation digest).sightings digest observe inputs ≠ [] →
      Housed digest (h.installation digest) w)
    {ssid : Str} (hslash : slash ∉ ssid) (hzero : 0 ∉ ssid) :
    (framesOf observe tree inputs ssid = [] ∧ w.fs (dataLoc digest w₀ ssid) = none) ∨
      ∃ items, Kept (framesOf observe tree inputs ssid) items ∧
        HasFile w (dataPath digest w₀ ssid) (dataLoc digest w₀ ssid) (registerText items) := by
  have hdata : dataLoc digest w₀ ssid = Site.data ⟨(h.installation digest).home digest, ssid⟩ := by
    rw [Site.data, h.home_eq]
    rfl
  have hitems := items_eq digest h inputs hobserve ssid
  have hkept := kept_ofVisits (framesOf observe tree inputs ssid)
  match hledger : ((h.installation digest).booksAfter digest observe (emptyBooks w₀) inputs).ledger
      ⟨(h.installation digest).home digest, ssid⟩ with
  | none =>
    left
    have hstands := hstanding.sites ⟨(h.installation digest).home digest, ssid⟩ rfl
    rw [hledger] at hstands
    refine ⟨?_, hdata ▸ hstands.1⟩
    rw [Ledger.items, hledger] at hitems
    refine List.eq_nil_iff_forall_not_mem.mpr fun frame hframe => ?_
    have hmem := hkept.mem_keys.mpr (List.mem_map_of_mem hframe)
    rw [← hitems] at hmem
    exact absurd hmem List.not_mem_nil
  | some entries =>
    right
    have hvisited := booksAfter_ledger (emptyBooks w₀) inputs ▸ hledger
    have hsome := (Ledger.isSome_recordAll _ _ _).mp (Option.isSome_iff_exists.mpr ⟨_, hvisited⟩)
    have hseen : (h.installation digest).sightings digest observe inputs ≠ [] := by
      rcases hsome with hnone | hmem
      · cases hnone
      · rintro he
        rw [he] at hmem
        cases hmem
    have hholds := hstanding.holdsEntries (hhoused hseen) hzero (h.siteOf_eq hslash) rfl hledger
    rw [Ledger.items, hledger, Option.getD_some] at hitems
    refine ⟨_, hkept, ?_⟩
    rw [← hitems, registerText_eq, hdata, dataPath, ← h.code_eq]
    exact hholds.file

/-- Every pair of an SSID and an output is notified of once. -/
theorem StartsEmpty.commands_eq (h : StartsEmpty tree w₀ script) {inputs : List (α × LocalTime)}
    (hobserve : ∀ input ∈ inputs, Fingerprints (observe tree input.1)) :
    ((h.installation digest).booksAfter digest observe (emptyBooks w₀) inputs).commands =
      w₀.commands ++ (seenPairs observe tree inputs).eraseDups.map fun pair =>
        cStr (Communicator.notifyCommand (newApMessage pair.1)) := by
  obtain ⟨hview, hshelf⟩ := sightings_view digest h inputs hobserve
  have hinjective : Function.Injective fun who =>
      (⟨(h.installation digest).home digest, who⟩ : Site) := fun _ _ he => (Site.mk.inj he).2
  have htext : Function.Injective (Prod.map id Cell.text : Str × Cell → Str × Str) :=
    fun p q he => Prod.ext (Prod.mk.inj he).1 (Cell.ext (Prod.mk.inj he).2)
  have hpairs : seenPairs observe tree inputs =
      (((h.installation digest).sightings digest observe inputs).map fun visit =>
        (visit.who, visit.key)).map (Prod.map id Cell.text) := by
    rw [seenPairs, ← hview, List.map_map, List.map_map]
    rfl
  rw [booksAfter_commands, hpairs, eraseDups_map htext, ← Ledger.news_eq hinjective hshelf,
    List.map_map, List.map_map]
  rfl

/-- **A run from an empty database keeps the registers of its frames**: every
distinct output has one row, in the order of first appearance, with the dates of
its first and latest frames, and has been notified of once. -/
theorem run_keepsRegisters (h : StartsEmpty tree w₀ script) {inputs : List (α × LocalTime)}
    (hobserve : ∀ input ∈ inputs, Fingerprints (observe tree input.1))
    (hrows : RowsReadable observe tree inputs) : KeepsRegisters digest observe tree w₀ inputs where
  kept := by
    obtain ⟨session, w, hrun, hstanding, -, hhoused⟩ :=
      run_refines h.boots (h.proper digest hobserve hrows)
    refine ⟨session, w, hrun, fun ssid hslash hzero => ?_, ?_⟩
    · exact h.file_kept digest hobserve hstanding hhoused hslash hzero
    · exact hstanding.commands.trans (h.commands_eq digest hobserve)
  unchanged := by
    intro before input after he hunseen session w session' w' hrun hnext
    have hbefore : ∀ x ∈ before, Fingerprints (observe tree x.1) := fun x hx =>
      hobserve x (by rw [he]; exact List.mem_append_left _ hx)
    obtain ⟨s, v, hrun', hstanding, hready, -⟩ := run_refines h.boots (h.proper digest hbefore
      (RowsReadable.of_append (he ▸ hrows)))
    obtain ⟨rfl, rfl⟩ := Process.running.inj (hrun.symm.trans hrun')
    -- what is not seen has thrown, or has no name
    have htree : session.tree = tree := hready.tree
    have hinput := hobserve input (by simp [he])
    rw [Process.run_concat, hrun, Process.feed, htree] at hnext
    cases hobs : observe tree input.1 with
    | error e =>
      rw [hobs] at hnext hinput
      have hexception : e.isException = true := hinput
      rw [turn_run_error] at hnext
      simp only [Process.restart, hexception, if_true, Process.resume, start_run hstanding] at hnext
      rw [← (Process.running.inj hnext).2]
    | ok observation =>
      obtain ⟨output, element⟩ := observation
      rw [hobs] at hnext hunseen
      have hnull : element.isNull = true := by
        by_contra hne
        rw [seenOf_ok (Bool.eq_false_iff.mpr hne)] at hunseen
        cases hunseen
      rw [turn_run_null hnull] at hnext
      rw [← (Process.running.inj hnext).2]

end
end

/-! ### Short and long runs -/

/-- A home folder with a script and nothing else. -/
def homeWorld (script : Str) : World where
  fs loc := if loc = [] then some .folder else if loc = scriptLoc [] then some (.file script) else none
  cwd := []
  commands := []

theorem homeWorld_fs (script : Str) (loc : List Str) : (homeWorld script).fs loc =
    if loc = [] then some .folder else if loc = scriptLoc [] then some (.file script) else none := rfl

theorem startsEmpty_homeWorld {script : Str} {tree : Node}
    (h : Compiler.getExecutableTree script = .ok tree) :
    StartsEmpty tree (homeWorld script) script where
  cwd := rfl
  root := by
    intro content he
    have hnone : (homeWorld script).fs (Database.rootLoc []) = none := by
      rw [homeWorld_fs, if_neg (by decide), if_neg (by decide)]
    rw [show Database.rootLoc (homeWorld script).cwd = Database.rootLoc [] from rfl, hnone] at he
    cases he
  empty := by
    intro path hpath
    have hne : Database.rootLoc [] ++ path ≠ scriptLoc [] := by
      intro he
      have hlen := congrArg List.length he
      simp only [Database.rootLoc, scriptLoc, List.nil_append, List.length_append,
        List.length_singleton]
        at hlen
      exact hpath (List.eq_nil_of_length_eq_zero (by omega))
    show (homeWorld script).fs (Database.rootLoc [] ++ path) = none
    rw [homeWorld_fs, if_neg (by simp [Database.rootLoc]), if_neg hne]
  scriptEntry := by
    show (homeWorld script).fs (scriptLoc []) = some (.file script)
    rw [homeWorld_fs, if_neg (by decide), if_pos rfl]
  compiled := h

section
variable {α : Type} {observe : Node → α → Except Failure (Str × BigNumber)} {tree : Node}

theorem length_framesOf_le (inputs : List (α × LocalTime)) (ssid : Str) :
    (framesOf observe tree inputs ssid).length ≤ inputs.length := by
  rw [framesOf, List.length_map]
  exact (List.length_filter_le _ _).trans (List.length_filterMap_le _ _)

/-- A run that is short enough has no row out of reach. -/
theorem rowsReadable_of_length {inputs : List (α × LocalTime)} (h : inputs.length < 2 ^ 31 - 1) :
    RowsReadable observe tree inputs := by
  intro before input after ssid output row he _ hrow
  obtain ⟨hlt, -⟩ := List.idxOf?_eq_some_iff.mp hrow
  have houtputs : ((framesOf observe tree before ssid).map Prod.fst).eraseDups.length ≤
      before.length := by
    refine (length_eraseDups_le _).trans ?_
    rw [List.length_map]
    exact length_framesOf_le before ssid
  have hbefore : before.length ≤ inputs.length := by
    rw [he, List.length_append]
    omega
  refine ⟨by omega, ?_⟩
  rw [Nat.mod_eq_of_lt (by omega)]
  omega

end

/-- A script that hashes the SSID. -/
def ssidScript : Str := lit "Sha256 \x7b\n>0\n\x7d\n"

def ssidTree : Node := .root (some (.function .sha256 [.getter (lit "0")]))

theorem compiled_ssidScript : Compiler.getExecutableTree ssidScript = .ok ssidTree := rfl

/-- Frames as what a turn sees of them. -/
abbrev Observation := Except Failure (Str × BigNumber)

def asSeen (_ : Node) (observation : Observation) : Observation := observation

/-- A network that is seen, lost and seen again. -/
theorem run_keepsRegisters_again :
    KeepsRegisters (fun _ => Vector.replicate 32 0) asSeen ssidTree
      (homeWorld ssidScript)
      [(.ok (List.replicate 64 97, ofVector (lit "home")), ⟨1, 1, 2024, 10, 0, 0⟩),
       (.error (.outOfRange (lit "stoi")), ⟨1, 1, 2024, 10, 0, 1⟩),
       (.ok (List.replicate 64 97, ofVector (lit "home")), ⟨1, 1, 2024, 10, 0, 2⟩)] := by
  have hdigest : IsDigest (List.replicate 64 97) :=
    ⟨by decide, fun c hc => List.eq_of_mem_replicate hc ▸ by decide⟩
  have hhome : Fingerprints (.ok (List.replicate 64 97, ofVector (lit "home"))) := by
    refine ⟨hdigest, fun ssid hssid => ?_⟩
    obtain rfl : lit "home" = ssid := Except.ok.inj hssid
    decide
  refine run_keepsRegisters _ (startsEmpty_homeWorld compiled_ssidScript) ?_
    (rowsReadable_of_length (by decide))
  intro input hinput
  simp only [List.mem_cons, List.not_mem_nil, or_false] at hinput
  rcases hinput with rfl | rfl | rfl
  · exact hhome
  · rfl
  · exact hhome

/-- Output number `i`: its bits, as digits. -/
def numberedOutput (i : Nat) : Str := (List.range 64).map fun k => if i.testBit k then 49 else 48

theorem numberedOutput_digits (i : Nat) : ∀ c ∈ numberedOutput i, c = 48 ∨ c = 49 := by
  intro c hc
  obtain ⟨k, -, rfl⟩ := List.mem_map.mp hc
  by_cases hk : i.testBit k = true
  · exact .inr (if_pos hk)
  · exact .inl (if_neg hk)

theorem numberedOutput_injective {i j : Nat} (hi : i < 2 ^ 64) (hj : j < 2 ^ 64)
    (h : numberedOutput i = numberedOutput j) : i = j := by
  refine Nat.eq_of_testBit_eq fun k => ?_
  by_cases hk : k < 64
  · have hbit := List.map_inj_left.mp h k (List.mem_range.mpr hk)
    by_contra hne
    rcases Bool.eq_false_or_eq_true (i.testBit k) with hi | hi <;>
      rcases Bool.eq_false_or_eq_true (j.testBit k) with hj | hj <;> simp_all
  · have hle : 2 ^ 64 ≤ 2 ^ k := Nat.pow_le_pow_right (by decide) (by omega)
    rw [Nat.testBit_lt_two_pow (by omega), Nat.testBit_lt_two_pow (by omega)]

theorem isDigest_numberedOutput (i : Nat) : IsDigest (numberedOutput i) := by
  refine ⟨by rw [numberedOutput, List.length_map, List.length_range], fun c hc => ?_⟩
  rcases numberedOutput_digits i c hc with rfl | rfl <;> decide

/-- The frame of output number `i`. -/
def numberedFrame (t : LocalTime) (i : Nat) : Observation × LocalTime :=
  (.ok (numberedOutput i, ofVector (lit "home")), t)

theorem fingerprints_numberedFrame (t : LocalTime) (i : Nat) :
    Fingerprints (numberedFrame t i).1 := by
  refine ⟨isDigest_numberedOutput i, fun ssid hssid => ?_⟩
  obtain rfl : lit "home" = ssid := Except.ok.inj hssid
  decide

section
variable {tree : Node}

theorem framesOf_append (inputs inputs' : List (Observation × LocalTime)) (ssid : Str) :
    framesOf asSeen tree (inputs ++ inputs') ssid =
      framesOf asSeen tree inputs ssid ++ framesOf asSeen tree inputs' ssid := by
  rw [framesOf, seenFrames, List.filterMap_append, List.filter_append, List.map_append]
  rfl

theorem framesOf_numbered (t : LocalTime) (l : List Nat) :
    framesOf asSeen tree (l.map (numberedFrame t)) (lit "home") =
      l.map fun i => (numberedOutput i, t.date) := by
  have hseen (i : Nat) : seenOf (asSeen tree (numberedFrame t i).1) =
      some (lit "home", numberedOutput i) := seenOf_ok rfl
  induction l with
  | nil => rfl
  | cons i l ih =>
    rw [List.map_cons, List.map_cons, ← ih, framesOf, seenFrames_cons, hseen]
    rfl

theorem nodup_numbered {n : Nat} (hn : n ≤ 2 ^ 64) : ((List.range n).map numberedOutput).Nodup := by
  refine List.Nodup.map_on (fun i hi j hj h => ?_) List.nodup_range
  rw [List.mem_range] at hi hj
  exact numberedOutput_injective (by omega) (by omega) h

/-- No output of a numbered run is seen again. -/
theorem rowsReadable_numbered (t : LocalTime) {n : Nat} (hn : n ≤ 2 ^ 64) :
    RowsReadable asSeen tree ((List.range n).map (numberedFrame t)) := by
  intro before input after ssid output row he hseen hrow
  obtain ⟨l₁, l₂, hrange, rfl, hmap⟩ := List.map_eq_append_iff.mp he
  obtain ⟨k, l₃, rfl, rfl, -⟩ := List.map_eq_cons_iff.mp hmap
  obtain ⟨rfl, rfl⟩ : lit "home" = ssid ∧ numberedOutput k = output :=
    Prod.mk.inj (Option.some.inj hseen)
  have hnodup : ((l₁ ++ k :: l₃).map numberedOutput).Nodup := hrange ▸ nodup_numbered hn
  rw [List.map_append, List.map_cons, List.nodup_append] at hnodup
  have hmem := List.isSome_idxOf?.mp (Option.isSome_iff_exists.mpr ⟨row, hrow⟩)
  rw [List.mem_eraseDups, framesOf_numbered, List.map_map] at hmem
  exact absurd rfl (hnodup.2.2 _ hmem _ List.mem_cons_self)

/-- The output of the last frame stands in the last row. -/
theorem idxOf?_numbered (t : LocalTime) {n : Nat} (hn : n < 2 ^ 64) :
    ((framesOf asSeen tree ((List.range (n + 1)).map (numberedFrame t)) (lit "home")).map
      Prod.fst).eraseDups.idxOf? (numberedOutput n) = some n := by
  have houtputs : (framesOf asSeen tree ((List.range (n + 1)).map (numberedFrame t))
      (lit "home")).map Prod.fst = (List.range (n + 1)).map numberedOutput := by
    rw [framesOf_numbered, List.map_map]
    rfl
  rw [houtputs, eraseDups_of_nodup (nodup_numbered hn), List.idxOf?_eq_some_iff]
  refine ⟨by simp, by simp, fun j hj he => ?_⟩
  simp only [List.getElem_map, List.getElem_range] at he
  exact absurd (numberedOutput_injective (by omega) hn he) (Nat.ne_of_lt hj)

end

/-! ### Texts of registers -/

/-- What holds of the characters of the cells and of the delimiters holds of the
whole text. -/
theorem registerText_forall {P : UInt8 → Prop} {items : List (Item Str Str)}
    (hnewline : P newline) (hdelimiter : P delimiter)
    (hheader : ∀ cell ∈ columnNames, ∀ c ∈ cell, P c)
    (hitems : ∀ item ∈ items, ∀ cell ∈ [item.key, item.first, item.last], ∀ c ∈ cell, P c) :
    ∀ c ∈ registerText items, P c := by
  intro c hc
  obtain ⟨line, hline, hcline⟩ := List.mem_flatMap.mp hc
  rcases List.mem_append.mp hcline with hcells | hlast
  · obtain ⟨cells, hmem, rfl⟩ := List.mem_map.mp hline
    obtain ⟨cell, hcell, hccell⟩ := List.mem_flatMap.mp hcells
    rcases List.mem_append.mp hccell with htext | hlast
    · rcases List.mem_cons.mp hmem with rfl | hmem
      · exact hheader cell hcell c htext
      · obtain ⟨item, hitem, rfl⟩ := List.mem_map.mp hmem
        exact hitems item hitem cell hcell c htext
    · exact List.mem_singleton.mp hlast ▸ hdelimiter
  · exact List.mem_singleton.mp hlast ▸ hnewline

theorem mem_registerText {items : List (Item Str Str)} {item : Item Str Str} (hitem : item ∈ items)
    {c : UInt8} (hc : c ∈ item.last) : c ∈ registerText items := by
  refine List.mem_flatMap.mpr ⟨_, List.mem_map.mpr ⟨_, List.mem_cons_of_mem _
    (List.mem_map.mpr ⟨item, hitem, rfl⟩), rfl⟩, List.mem_append_left _ ?_⟩
  exact List.mem_flatMap.mpr ⟨item.last, by simp, List.mem_append_left _ hc⟩

/-- A numbered run whose last output is seen again in a row with a negative number
ends with the file as it was before. -/
theorem run_numbered (digest : Str → Vector UInt8 32) {tree : Node} {w₀ : World} {script : Str}
    (h : StartsEmpty tree w₀ script) (t₀ t₁ : LocalTime) {n : Nat} (hn : n < 2 ^ 64)
    (hnegative : toInt n < 0) :
    ∃ session w, Process.run digest asSeen w₀
        ((List.range (n + 1)).map (numberedFrame t₀) ++ [numberedFrame t₁ n]) = .running session w ∧
      w.fs (dataLoc digest w₀ (lit "home")) =
        some (.file (registerText (ofVisits ((List.range (n + 1)).map fun i =>
          (numberedOutput i, t₀.date))))) := by
  have hobserve : ∀ input ∈ (List.range (n + 1)).map (numberedFrame t₀),
      Fingerprints (asSeen tree input.1) := by
    intro input hinput
    obtain ⟨i, -, rfl⟩ := List.mem_map.mp hinput
    exact fingerprints_numberedFrame t₀ i
  obtain ⟨session, w, hrun, hstanding, hready, hhoused⟩ := run_refines h.boots
    (h.proper digest hobserve (rowsReadable_numbered t₀ (by omega)))
  have hrow := idxOf?_items digest h hobserve (lit "home")
    ⟨numberedOutput n, isCell_of_isDigest (isDigest_numberedOutput n)⟩
  rw [idxOf?_numbered t₀ hn] at hrow
  have hitems := items_eq digest h _ hobserve (lit "home")
  have hsite : (h.installation digest).siteOf digest (lit "home") = some _ :=
    h.siteOf_eq (by decide)
  match hledger : ((h.installation digest).booksAfter digest asSeen (emptyBooks w₀)
      ((List.range (n + 1)).map (numberedFrame t₀))).ledger
        ⟨(h.installation digest).home digest, lit "home"⟩ with
  | none =>
    rw [Ledger.items, hledger] at hrow
    cases hrow
  | some entries =>
    rw [Ledger.items, hledger, Option.getD_some] at hrow hitems
    -- the turn throws, and the program starts again with the files as they are
    have hhome : (ofVector (lit "home")).charString = .ok (lit "home") := rfl
    obtain ⟨w', e, hturn, he, hstanding', -⟩ := turn_run_unreadable hstanding hready rfl hhome hsite
      rfl hledger hrow hnegative t₁.date
    obtain ⟨session', w'', hp, hstanding'', -⟩ : Refines digest _ _ False _ _ :=
      refines_restart hstanding' False.elim he
    have hturn' : (turn digest (asSeen session.tree (numberedFrame t₁ n).1)
        (numberedFrame t₁ n).2.date session).run w = .error e w' := hturn
    refine ⟨session', w'', ?_, ?_⟩
    · rw [Process.run_concat, hrun, Process.feed, hturn']
      exact hp
    · have hstands := hstanding''.sites ⟨(h.installation digest).home digest, lit "home"⟩ rfl
      have hdata : dataLoc digest w₀ (lit "home") =
          Site.data ⟨(h.installation digest).home digest, lit "home"⟩ := by
        rw [Site.data, h.home_eq]
        rfl
      rw [hledger] at hstands
      rw [hdata, hstands.1, ← registerText_eq, hitems, framesOf_numbered]

/-- The file of a table with more than `2 ^ 31` rows no longer follows its last
network: the number of its row is negative as an `int`, and `get_cell` throws. -/
theorem not_keepsRegisters_longTable :
    ¬ ∀ (α : Type) (digest : Str → Vector UInt8 32) (observe : Node → α → Observation) (tree : Node)
        (w₀ : World) (script : Str) (inputs : List (α × LocalTime)), StartsEmpty tree w₀ script →
      (∀ input ∈ inputs, Fingerprints (observe tree input.1)) →
      KeepsRegisters digest observe tree w₀ inputs := by
  intro hall
  obtain ⟨n, hn⟩ : ∃ n, n = 2 ^ 31 := ⟨_, rfl⟩
  let t₀ : LocalTime := ⟨1, 1, 2024, 10, 0, 0⟩
  let t₁ : LocalTime := ⟨1, 1, 2027, 10, 0, 0⟩
  let digest : Str → Vector UInt8 32 := fun _ => Vector.replicate 32 0
  let before := (List.range (n + 1)).map (numberedFrame t₀)
  have hstarts := startsEmpty_homeWorld compiled_ssidScript
  have hobserve : ∀ input ∈ before, Fingerprints (asSeen ssidTree input.1) := by
    intro input hinput
    obtain ⟨i, -, rfl⟩ := List.mem_map.mp hinput
    exact fingerprints_numberedFrame t₀ i
  have hkeeps := hall _ digest asSeen ssidTree (homeWorld ssidScript) ssidScript
    (before ++ [numberedFrame t₁ n]) hstarts (by
      intro input hinput
      rcases List.mem_append.mp hinput with hinput | hinput
      · exact hobserve input hinput
      · exact List.mem_singleton.mp hinput ▸ fingerprints_numberedFrame t₁ n)
  obtain ⟨session, w, hrun, hfiles, -⟩ := hkeeps.kept
  -- what the file would have to hold after the last frame
  have hframes : framesOf asSeen ssidTree (before ++ [numberedFrame t₁ n]) (lit "home") =
      framesOf asSeen ssidTree before (lit "home") ++ [(numberedOutput n, t₁.date)] := by
    rw [framesOf_append]
    exact congrArg _ (framesOf_numbered t₁ [n])
  obtain ⟨items, hkept, hfile⟩ := (hfiles (lit "home") (by decide) (by decide)).resolve_left
    fun hnone => by simp [hframes] at hnone
  rw [hframes] at hkept
  obtain ⟨item, hitem, hkey⟩ : ∃ item ∈ items, item.key = numberedOutput n :=
    List.mem_map.mp (hkept.mem_keys.mpr (by simp))
  have hlast : item.last = t₁.date := by
    have hstamp := hkept.last item hitem
    rw [hkey, stamps_concat, if_pos rfl, List.getLast?_concat] at hstamp
    exact (Option.some.inj hstamp).symm
  have hseven : 55 ∈ registerText items := mem_registerText hitem (hlast ▸ by decide)
  -- what the run does
  obtain ⟨session', w', hrun', hcontent⟩ :=
    run_numbered digest hstarts t₀ t₁ (by omega : n < 2 ^ 64)
    (hn ▸ by decide)
  obtain ⟨-, rfl⟩ := Process.running.inj (hrun.symm.trans hrun')
  have hsame := hfile.entry.symm.trans hcontent
  have hregister := kept_ofVisits ((List.range (n + 1)).map fun i => (numberedOutput i, t₀.date))
  refine registerText_forall (P := (· ≠ 55)) (by decide) (by decide) (by decide) ?_ 55
    (FileTree.Entry.file.inj (Option.some.inj hsame) ▸ hseven) rfl
  intro entry hentry
  obtain ⟨hkeys, hfirsts, hlasts⟩ := hregister.of_visits hentry
  rw [List.map_map, List.mem_map] at hkeys hfirsts hlasts
  obtain ⟨i, -, houtput⟩ := hkeys
  obtain ⟨-, -, hfirst⟩ : ∃ i ∈ _, t₀.date = entry.first := hfirsts
  obtain ⟨-, -, hlast'⟩ : ∃ i ∈ _, t₀.date = entry.last := hlasts
  have hdate : ∀ c ∈ t₀.date, c ≠ 55 := by decide
  have hdigits : ∀ c ∈ numberedOutput i, c ≠ 55 := by
    intro c hc
    rcases numberedOutput_digits i c hc with rfl | rfl <;> decide
  rw [← hfirst, ← hlast', ← show numberedOutput i = entry.key from houtput]
  simp only [List.mem_cons, List.not_mem_nil, or_false, forall_eq_or_imp, forall_eq]
  exact ⟨hdigits, hdate, hdate⟩

end SnapDesk
