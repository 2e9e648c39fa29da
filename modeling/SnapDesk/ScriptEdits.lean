import SnapDesk.Footprint
import SnapDesk.SeenAgain
import SnapDesk.Transition

/-! # Editing the script between runs

`run` compiles one file and hashes another: the script is `./code.txt`, and the
folder of the databases is named after the text of `snappy.txt`.  Editing the script
changes neither that text nor the folder, so the runs before and after the edit keep
their rows in the same files (`not_unmixed_edited`).

A history is any sequence of runs, turns and edits in between.  A turn writes rows in
the data file of the SSID it sees and nowhere else, so the rows of one file come from
one script wherever frames seen under different scripts have SSIDs with different
files (`unmixed_of_separate`). -/
namespace SnapDesk
open Delimited FileTree Register BigNumber Transition

/-- A turn of the loop: the script that is run, the frame, and the worlds before and after. -/
structure LoopTurn (α : Type) where
  tree : Node
  input : α × LocalTime
  before : World
  after : World

/-- The turn has written this row of the file. -/
def LoopTurn.Writes {α : Type} (t : LoopTurn α) (loc : List Str) (i : Nat) : Prop :=
  ∃ row, (fileRows t.after loc)[i]? = some row ∧ (fileRows t.before loc)[i]? ≠ some row

/-- What happens to the program and its script. -/
inductive HistoryEvent (α : Type) where
  | edit (script : Str)
  | launch
  | turn (t : LoopTurn α)
  | stop

/-- **The rows of one data file are made by one script.** -/
def Unmixed {α : Type} (events : List (HistoryEvent α)) : Prop :=
  ∀ s t : LoopTurn α, .turn s ∈ events → .turn t ∈ events →
    ∀ (site : Site) (i j : Nat), s.Writes site.data i → t.Writes site.data j → s.tree = t.tree

section
variable {α : Type} (digest : Str → Vector UInt8 32)
  (observe : Node → α → Except Failure (Str × BigNumber))

/-- One event: between two runs the script may be edited and the program launched; a
run makes turns until one of them throws or the program is stopped. -/
inductive HistoryStep : Process → HistoryEvent α → Process → Prop
  | edit (script : Str) (w : World) :
      HistoryStep (.restarting w) (.edit script) (.restarting (writeFile (scriptLoc w.cwd) script w))
  | launch (w : World) : HistoryStep (.restarting w) .launch (Process.restarting w).resume
  | turn {session session' : Session} {w w' : World} {input : α × LocalTime}
      (h : (turn digest (observe session.tree input.1) input.2.date session).run w = .ok session' w') :
      HistoryStep (.running session w) (.turn ⟨session.tree, input, w, w'⟩) (.running session' w')
  | throws {session : Session} {w w' : World} {input : α × LocalTime} {e : Failure}
      (h : (SnapDesk.turn digest (observe session.tree input.1) input.2.date session).run w = .error e w') :
      HistoryStep (.running session w) (.turn ⟨session.tree, input, w, w'⟩) (Process.restart e w')
  | stop (session : Session) (w : World) : HistoryStep (.running session w) .stop (.restarting w)

/-- The SSID that a turn sees. -/
def LoopTurn.ssid (t : LoopTurn α) : Option Str := (seenOf (observe t.tree t.input.1)).map Prod.fst

/-- The folder of the databases, for the code that a world has. -/
def homeOf (w : World) : List Str :=
  Database.hashLoc digest codeFile (Database.codeOf w codeFile) w.cwd

/-- Frames that are seen under different scripts have SSIDs with different files. -/
def Separate (w₀ : World) (events : List (HistoryEvent α)) : Prop :=
  ∀ s t : LoopTurn α, .turn s ∈ events → .turn t ∈ events → s.tree ≠ t.tree →
    ∀ ssid ssid', s.ssid observe = some ssid → t.ssid observe = some ssid' →
      placeOf (homeOf digest w₀) ssid ≠ placeOf (homeOf digest w₀) ssid'

end

/-! ### The code stays what it is -/

/-- The code depends on the folder the program runs in and on what is under the name of
the code file. -/
theorem codeOf_congr {w w' : World} (hcwd : w'.cwd = w.cwd) (hfolder : w'.fs w.cwd = w.fs w.cwd)
    (hentry : w'.fs (codeFileLoc w.cwd) = w.fs (codeFileLoc w.cwd)) :
    Database.codeOf w' codeFile = Database.codeOf w codeFile := by
  have hlocate (v : World) : locate v codeFile =
      if isFolder v.fs v.cwd then some (codeFileLoc v.cwd) else none := by
    have hname : IsName codeFile := ⟨by decide, by decide⟩
    rw [locate_relative (by decide) (by decide) (by decide), pathSteps_of_isName hname, walk]
    rfl
  have hopen : openText w' codeFile = openText w codeFile := by
    have hsame : isFolder w'.fs w.cwd = isFolder w.fs w.cwd := by rw [isFolder, hfolder, ← isFolder]
    rw [openText, openText, hlocate, hlocate, hcwd, hsame]
    by_cases hisFolder : isFolder w.fs w.cwd = true
    · rw [if_pos hisFolder, Option.bind_some, Option.bind_some, hentry]
    · rw [if_neg hisFolder, Option.bind_none, Option.bind_none]
  rw [Database.codeOf, Database.codeOf, hopen]

/-- A location one name below the folder the program runs in. -/
theorem concat_ne_self (cwd : List Str) (name : Str) : cwd ≠ cwd ++ [name] := by
  intro he
  have hlen := congrArg List.length he
  rw [List.length_append, List.length_singleton] at hlen
  omega

theorem codeOf_edited (w : World) (script : Str) :
    Database.codeOf (writeFile (scriptLoc w.cwd) script w) codeFile =
      Database.codeOf w codeFile := by
  have hne : codeFileLoc w.cwd ≠ scriptLoc w.cwd := by
    intro he
    exact absurd (List.cons.inj (List.append_cancel_left he)).1 (by decide)
  exact codeOf_congr rfl (put_of_ne (concat_ne_self _ _) _) (put_of_ne hne _)

theorem compileScript_reads : ReadsOnly compileScript := by
  refine .bind .get fun w => ?_
  cases openText w scriptFile with
  | none => exact .throw _
  | some script => exact .lift _

theorem spelled_databaseRoot (cwd : List Str) :
    spelled cwd databaseRoot = Database.rootLoc cwd := by
  have hsteps : pathSteps (cStr databaseRoot) = [.down databaseRoot] := by decide
  rw [spelled, hsteps, if_neg (by decide)]
  rfl

/-- Before its loop `run` makes the database folder. -/
theorem start_keeps (w : World) : start.Keeps (ChangesOnly (· = Database.rootLoc w.cwd) w) := by
  refine .bind (Communicator.createFolder_keeps (spelled_databaseRoot w.cwd)) fun _ => ?_
  exact .bind (compileScript_reads.keeps _) fun _ => .pure _ _

/-- The database folder cannot be made but in a folder. -/
theorem folder_of_start {session : Session} {w w' : World} (h : start.run w = .ok session w') :
    w.fs w.cwd = some .folder ∧ session.database = none := by
  obtain ⟨_, w₁, hcreate, hrest⟩ := Method.run_bind_eq_ok h
  obtain ⟨tree, w₂, -, hrest⟩ := Method.run_bind_eq_ok hrest
  cases hrest
  refine ⟨?_, rfl⟩
  by_contra hfolder
  have hname : IsName databaseRoot := ⟨by decide, by decide⟩
  have hlocate : locate w databaseRoot = none := by
    rw [locate_relative (by decide) (by decide) (by decide), pathSteps_of_isName hname, walk,
      if_neg (by rwa [isFolder_iff])]
  have htype : (Communicator.getFileType databaseRoot).run w = .ok .none w := by
    rw [Communicator.getFileType, Method.run_bind_ok (Method.run_get w), hlocate]
    rfl
  rw [Communicator.createFolder, Method.run_bind_ok htype, if_neg (by decide), if_neg (by decide),
    Communicator.createDirectory, Method.run_bind_ok (Method.run_get w), hlocate] at hcreate
  cases hcreate

/-! ### Whole histories -/

section
variable {α : Type} {digest : Str → Vector UInt8 32}
  {observe : Node → α → Except Failure (Str × BigNumber)} {w₀ : World}

/-- Between two events the program runs where it was started and finds the same code. -/
def Settled (digest : Str → Vector UInt8 32) (w₀ : World) : Process → Prop
  | .running session w => w.cwd = w₀.cwd ∧ Hosts (Database.codeOf w₀ codeFile) w ∧
      session.Fits digest (Database.codeOf w₀ codeFile)
  | .restarting w => w.cwd = w₀.cwd ∧ Database.codeOf w codeFile = Database.codeOf w₀ codeFile
  | .undefined => True

theorem Settled.restart {e : Failure} {w : World} (hcwd : w.cwd = w₀.cwd)
    (hcode : Database.codeOf w codeFile = Database.codeOf w₀ codeFile) :
    Settled digest w₀ (Process.restart e w) := by
  rw [Process.restart]
  split
  · exact ⟨hcwd, hcode⟩
  · exact trivial

/-- A launch makes the database folder at most. -/
theorem Settled.resume {w : World} (h : Settled digest w₀ (.restarting w)) :
    Settled digest w₀ (Process.restarting w).resume := by
  obtain ⟨hcwd, hcode⟩ := h
  have hchanges {w' : World} (hw' : ChangesOnly (· = Database.rootLoc w.cwd) w w') :
      w'.cwd = w₀.cwd ∧ Database.codeOf w' codeFile = Database.codeOf w₀ codeFile := by
    have hne : codeFileLoc w.cwd ≠ Database.rootLoc w.cwd := by
      intro he
      exact absurd (List.cons.inj (List.append_cancel_left he)).1 (by decide)
    exact ⟨hw'.cwd.trans hcwd,
      (codeOf_congr hw'.cwd (hw'.fs _ (concat_ne_self _ _)) (hw'.fs _ hne)).trans hcode⟩
  obtain ⟨hreturns, hfails⟩ := start_keeps w w (.refl _ w)
  rw [Process.resume]
  cases hstart : start.run w with
  | ok session w' =>
    have hw' := hreturns session w' hstart
    obtain ⟨hfolder, hnone⟩ := folder_of_start hstart
    refine ⟨(hchanges hw').1, ⟨?_, (hchanges hw').2⟩, ?_⟩
    · rw [hw'.cwd]
      exact isFolder_iff.mp (hw'.folders _ (isFolder_iff.mpr hfolder))
    · intro database hdatabase
      rw [hnone] at hdatabase
      cases hdatabase
  | error e w' => exact .restart (hchanges (hfails e w' hstart)).1 (hchanges (hfails e w' hstart)).2

/-- What the files of a turn are, that has begun in a settled state. -/
theorem Settled.turn_changes {session : Session} {w : World}
    (h : Settled digest w₀ (.running session w))
    (observation : Except Failure (Str × BigNumber)) (date : Str) :
    (turn digest observation date session).Keeps
      (ChangesOnly (TurnTouches digest (Database.codeOf w₀ codeFile) w₀.cwd observation) w) := by
  obtain ⟨hcwd, hhosts, hfits⟩ := h
  rw [← hcwd]
  exact turn_keeps hhosts hfits observation date

theorem Settled.of_turn {session : Session} {w w' : World}
    (h : Settled digest w₀ (.running session w)) {observation : Except Failure (Str × BigNumber)}
    (hchanges : ChangesOnly (TurnTouches digest (Database.codeOf w₀ codeFile) w₀.cwd observation) w w') :
    w'.cwd = w₀.cwd ∧ Hosts (Database.codeOf w₀ codeFile) w' := by
  obtain ⟨hcwd, hhosts, -⟩ := h
  refine ⟨hchanges.cwd.trans hcwd, hhosts.of_changes (fun hmem => ?_) hchanges⟩
  obtain ⟨ssid, output, -, htouches⟩ := hmem
  rw [hcwd] at htouches
  exact not_touches_codeFile w₀.cwd htouches

/-- **Every event keeps the place and the code.** -/
theorem Settled.step {p q : Process} {event : HistoryEvent α} (h : Settled digest w₀ p)
    (hstep : HistoryStep digest observe p event q) : Settled digest w₀ q := by
  cases hstep with
  | edit script w => exact ⟨h.1, (codeOf_edited w script).trans h.2⟩
  | launch w => exact h.resume
  | turn hturn =>
    have hchanges := (h.turn_changes _ _ _ (.refl _ _)).1 _ _ hturn
    obtain ⟨hcwd, hhosts⟩ := h.of_turn hchanges
    exact ⟨hcwd, hhosts, (turn_fits h.2.1 h.2.2 hturn).2⟩
  | throws hturn =>
    have hchanges := (h.turn_changes _ _ _ (.refl _ _)).2 _ _ hturn
    obtain ⟨hcwd, hhosts⟩ := h.of_turn hchanges
    exact .restart hcwd hhosts.code
  | stop session w => exact ⟨h.1, h.2.1.code⟩

theorem HistoryStep.of_resume {w : World} {p : Process} (h : (Process.restarting w).resume = p) :
    HistoryStep digest observe (.restarting w) .launch p := h ▸ .launch w

/-- A turn writes rows in the data file of its SSID alone. -/
theorem site_of_writes {t : LoopTurn α}
    (h : ChangesOnly (TurnTouches digest (Database.codeOf w₀ codeFile) w₀.cwd (observe t.tree t.input.1))
      t.before t.after) {site : Site} {i : Nat} (hwrites : t.Writes site.data i) :
    ∃ ssid, t.ssid observe = some ssid ∧ site = placeOf (homeOf digest w₀) ssid := by
  obtain ⟨row, hafter, hbefore⟩ := hwrites
  by_contra hnone
  have hleft : ¬ TurnTouches digest (Database.codeOf w₀ codeFile) w₀.cwd
      (observe t.tree t.input.1) site.data := by
    rintro ⟨ssid, output, hseen, htouches⟩
    exact hnone ⟨ssid, by rw [LoopTurn.ssid, hseen]; rfl, placeOf_of_touches htouches⟩
  rw [fileRows_of_fs (h.fs _ hleft)] at hafter
  exact hbefore hafter

/-- The turns of a history write nothing but the files of the SSIDs they see. -/
theorem turns_of_run {events : List (HistoryEvent α)} {p : Process}
    (h : Run (HistoryStep digest observe) (.restarting w₀) events p) :
    Settled digest w₀ p ∧ ∀ t : LoopTurn α, .turn t ∈ events →
      ChangesOnly (TurnTouches digest (Database.codeOf w₀ codeFile) w₀.cwd (observe t.tree t.input.1))
        t.before t.after := by
  have hstart : Settled digest w₀ (.restarting w₀) := ⟨rfl, rfl⟩
  refine Run.history (I := fun events p => Settled digest w₀ p ∧ ∀ t : LoopTurn α, .turn t ∈ events →
    ChangesOnly (TurnTouches digest (Database.codeOf w₀ codeFile) w₀.cwd (observe t.tree t.input.1))
      t.before t.after) ⟨hstart, fun t ht => absurd ht List.not_mem_nil⟩ ?_ h
  rintro events p event q - ⟨hsettled, hturns⟩ hstep
  refine ⟨hsettled.step hstep, fun t ht => ?_⟩
  rcases List.mem_append.mp ht with ht | ht
  · exact hturns t ht
  · obtain rfl := List.mem_singleton.mp ht
    cases hstep with
    | turn hturn => exact (hsettled.turn_changes _ _ _ (.refl _ _)).1 _ _ hturn
    | throws hturn => exact (hsettled.turn_changes _ _ _ (.refl _ _)).2 _ _ hturn

/-- **Rows of different scripts are kept apart** in every history in which the frames
that are seen under different scripts have SSIDs with different files. -/
theorem unmixed_of_separate {events : List (HistoryEvent α)} {p : Process}
    (h : Run (HistoryStep digest observe) (.restarting w₀) events p)
    (hseparate : Separate digest observe w₀ events) : Unmixed events := by
  obtain ⟨-, hturns⟩ := turns_of_run h
  intro s t hs ht site i j hwrites hwrites'
  obtain ⟨ssid, hssid, hsite⟩ := site_of_writes (hturns s hs) hwrites
  obtain ⟨ssid', hssid', hsite'⟩ := site_of_writes (hturns t ht) hwrites'
  by_contra hne
  exact hseparate s t hs ht hne ssid ssid' hssid hssid' (hsite.symm.trans hsite')

/-- The world of a program that has ended with an exception. -/
theorem eq_of_world?_restart {e : Failure} {w w' : World}
    (h : (Process.restart e w).world? = some w') :
    w' = w := by
  rw [Process.restart] at h
  split at h
  · exact (Option.some.inj h).symm
  · cases h

/-- Turns apart, an event leaves the data files alone. -/
theorem HistoryStep.rows {p q : Process} {event : HistoryEvent α}
    (h : HistoryStep digest observe p event q)
    {w : World} (hw : q.world? = some w) : ∃ v, p.world? = some v ∧
      ((∃ t : LoopTurn α, event = .turn t ∧ t.before = v ∧ t.after = w) ∨
        ∀ site : Site, fileRows w site.data = fileRows v site.data) := by
  cases h with
  | edit script v =>
    cases hw
    exact ⟨v, rfl, .inr fun site =>
      fileRows_of_fs (put_of_ne (concat_ne_data site (.inl (by decide))).symm _)⟩
  | launch v =>
    obtain ⟨hreturns, hfails⟩ := start_keeps v v (.refl _ v)
    have hrows {w' : World} (hw' : ChangesOnly (· = Database.rootLoc v.cwd) v w') (site : Site) :
        fileRows w' site.data = fileRows v site.data :=
      fileRows_of_fs (hw'.fs _ (concat_ne_data site (.inr (by decide))).symm)
    refine ⟨v, rfl, .inr ?_⟩
    rw [Process.resume] at hw
    cases hstart : start.run v with
    | ok session w' =>
      rw [hstart] at hw
      cases hw
      exact hrows (hreturns session w hstart)
    | error e w' =>
      rw [hstart] at hw
      obtain rfl := eq_of_world?_restart hw
      exact hrows (hfails e w hstart)
  | turn hturn =>
    cases hw
    exact ⟨_, rfl, .inl ⟨_, rfl, rfl, rfl⟩⟩
  | throws hturn => exact ⟨_, rfl, .inl ⟨_, rfl, rfl, (eq_of_world?_restart hw).symm⟩⟩
  | stop session v =>
    cases hw
    exact ⟨w, rfl, .inr fun _ => rfl⟩

/-- **Every row has its turn**: it has been there from the start, or a turn of the
history has written it. -/
theorem exists_writer {events : List (HistoryEvent α)} {p : Process}
    (h : Run (HistoryStep digest observe) (.restarting w₀) events p) {w : World}
    (hw : p.world? = some w)
    (site : Site) {i : Nat} {row : Str} (hrow : (fileRows w site.data)[i]? = some row) :
    (fileRows w₀ site.data)[i]? = some row ∨ ∃ t : LoopTurn α, .turn t ∈ events ∧
      t.Writes site.data i := by
  induction h generalizing w row with
  | nil =>
    cases hw
    exact .inl hrow
  | snoc hrun hstep ih =>
    obtain ⟨v, hv, hrows⟩ := hstep.rows hw
    by_cases hsame : (fileRows v site.data)[i]? = some row
    · rcases ih hv hsame with hstart | ⟨t, ht, hwrites⟩
      · exact .inl hstart
      · exact .inr ⟨t, List.mem_append_left _ ht, hwrites⟩
    · rcases hrows with ⟨t, rfl, rfl, rfl⟩ | hleft
      · exact .inr ⟨t, List.mem_append_right _ (List.mem_singleton_self _), row, hrow, hsame⟩
      · exact absurd (hleft site ▸ hrow) hsame

/-- The runs of the loop are histories without an edit. -/
theorem history_of_run (w : World) (inputs : List (α × LocalTime)) :
    ∃ events, Run (HistoryStep digest observe) (.restarting w) events (Process.run digest observe w inputs) := by
  have hresume (e : Failure) (w : World) : ∃ events : List (HistoryEvent α),
      Run (HistoryStep digest observe) (Process.restart e w) events (Process.restart e w).resume := by
    rw [Process.restart]
    split
    · exact ⟨[] ++ [.launch], .snoc (.nil _) (.launch w)⟩
    · exact ⟨[], .nil _⟩
  induction inputs using List.reverseRecOn with
  | nil => exact ⟨[] ++ [.launch], .snoc (.nil _) (.launch w)⟩
  | append_singleton inputs input ih =>
    obtain ⟨events, hrun⟩ := ih
    rw [Process.run_concat]
    cases hp : Process.run digest observe w inputs with
    | running session v =>
      rw [hp] at hrun
      rw [Process.feed]
      cases hturn : (turn digest (observe session.tree input.1) input.2.date session).run v with
      | ok session' v' => exact ⟨_, .snoc hrun (.turn hturn)⟩
      | error e v' =>
        obtain ⟨launches, hlaunches⟩ := hresume e v'
        exact ⟨_, Run.append (.snoc hrun (.throws hturn)) hlaunches⟩
    | restarting v =>
      rw [hp] at hrun
      exact ⟨_, .snoc hrun (.launch v)⟩
    | undefined =>
      rw [hp] at hrun
      exact ⟨_, hrun⟩

end

/-! ### An edit moves nothing -/

/-- The installation with another script. -/
def Installation.edited (i : Installation) (script : Str) (tree : Node)
    (h : Compiler.getExecutableTree script = .ok tree) : Installation :=
  { i with script := script, tree := tree, compiled := h }

section
variable {digest : Str → Vector UInt8 32} {i : Installation} {own : Site → Prop} {w : World} {b : Books}

/-- **Editing the script leaves the databases where they are.** -/
theorem Standing.edited (h : Standing digest i own w b) {script : Str} {tree : Node}
    (hcompiled : Compiler.getExecutableTree script = .ok tree) :
    Standing digest (i.edited script tree hcompiled) own (writeFile (scriptLoc w.cwd) script w) b := by
  have hbelow {loc : List Str} (hlen : loc.length ≠ w.cwd.length + 1) : loc ≠ scriptLoc w.cwd := by
    rintro rfl
    exact hlen (by rw [scriptLoc, List.length_append, List.length_singleton])
  have hroot : Database.rootLoc w.cwd ≠ scriptLoc w.cwd := fun he =>
    absurd (List.cons.inj (List.append_cancel_left he)).1 (by decide)
  have hentry : codeFileLoc w.cwd ≠ scriptLoc w.cwd := fun he =>
    absurd (List.cons.inj (List.append_cancel_left he)).1 (by decide)
  have hcode : Database.codeLoc w.cwd codeFile ≠ scriptLoc w.cwd :=
    hbelow (by simp [Database.codeLoc, Database.rootLoc])
  have hhash : Database.hashLoc digest codeFile i.code w.cwd ≠ scriptLoc w.cwd :=
    hbelow (by simp [Database.hashLoc, Database.codeLoc, Database.rootLoc])
  -- the folders of the code are made in the same places
  have hhouse : (Database.house digest codeFile i.code (writeFile (scriptLoc w.cwd) script w)).fs =
      put (Database.house digest codeFile i.code w).fs (scriptLoc w.cwd) (.file script) := by
    show put (put (put w.fs _ _) (Database.codeLoc w.cwd codeFile) _)
      (Database.hashLoc digest codeFile i.code w.cwd) _ = put (put (put w.fs _ _) _ _) _ _
    rw [put_comm hcode.symm, put_comm hhash.symm]
  have hfile : isFolder (Database.house digest codeFile i.code w).fs (scriptLoc w.cwd) = false := by
    rw [isFolder, house_of_short (by simp [scriptLoc]), h.cwd, h.script]
  have hleft {loc : List Str} (hne : loc ≠ scriptLoc w.cwd) :
      (writeFile (scriptLoc w.cwd) script w).fs loc = w.fs loc := put_of_ne hne _
  have hself : w.cwd ≠ scriptLoc w.cwd := concat_ne_self w.cwd (lit "code.txt")
  refine ⟨h.cwd, ⟨?_, ?_, ?_, ?_⟩, fun loc => ?_, ?_, ?_, fun site hsite => ?_, h.commands⟩
  · exact (hleft hself).trans h.ground.cwd
  · exact (hleft hroot).trans h.ground.root
  · intro content he
    exact h.ground.codeFree content ((hleft hcode).symm.trans he)
  · intro content he
    exact h.ground.hashFree content ((hleft hhash).symm.trans he)
  · show isFolder (Database.house digest codeFile i.code _).fs loc = isFolder i.housed loc
    rw [hhouse, isFolder_put_file hfile, h.folders loc]
  · show (writeFile (scriptLoc w.cwd) script w).fs (scriptLoc i.cwd) = some (.file script)
    rw [← h.cwd]
    exact put_self ..
  · show (writeFile (scriptLoc w.cwd) script w).fs (codeFileLoc i.cwd) = i.codeEntry
    rw [← h.codeEntry, ← h.cwd]
    exact hleft hentry
  · have hdata : scriptLoc w.cwd ≠ site.data := concat_ne_data site (.inl (by decide))
    have hmetadata : scriptLoc w.cwd ≠ site.metadata := concat_ne_metadata site (.inl (by decide))
    exact (h.sites site hsite).congr (hleft hdata.symm) (hleft hmetadata.symm)

/-- The rows of a site. -/
theorem fileRows_of_stands {site : Site} {o : Option (List Entry)} (h : Stands w.fs site o) :
    fileRows w site.data = ((o.getD []).map Entry.row).map Row.line := by
  cases o with
  | none =>
    rw [fileRows, contentAt, h.1]
    rfl
  | some entries =>
    rw [fileRows, contentAt, h.1]
    simp only [Table.text]
    rw [fields_terminate newline (tableOf entries).newline_notMem_lines]
    rfl

end

/-! ### Two scripts of one line -/

/-- The tree of a script that is one value. -/
def valueTree (value : Str) : Node := .root (some (.value value))

theorem compiled_a : Compiler.getExecutableTree (lit "a\n") = .ok (valueTree (lit "a")) := rfl

theorem compiled_b : Compiler.getExecutableTree (lit "b\n") = .ok (valueTree (lit "b")) := rfl

/-- The sighting of an output on the site of an SSID. -/
def sightingAt (home : List Str) (ssid : Str) (output : Cell) (t : LocalTime) : Sighting :=
  ⟨ssid, ⟨home, ssid⟩, output, dateCell t⟩

/-- A new output is readable, since it has no row. -/
theorem readable_of_notMem {entries : List Entry} {key : Cell} (h : key ∉ keys entries) :
    Readable entries key := by
  intro i hi
  rw [List.idxOf?_eq_none_iff.mpr h] at hi
  cases hi

section
variable {α : Type} {observe : Node → α → Except Failure (Str × BigNumber)}

/-- One network is seen under the first script and one, after an edit, under the second:
what the sites hold at each turn. -/
theorem edited_run (digest : Str → Vector UInt8 32) {x y : α × LocalTime} {ssid ssid' : Str}
    {a b : Cell} (hx : observe (valueTree (lit "a")) x.1 = .ok (a.text, ofVector ssid))
    (hy : observe (valueTree (lit "b")) y.1 = .ok (b.text, ofVector ssid')) (hne : b ≠ a)
    (hssid : (ofVector ssid).charString = .ok ssid)
    (hssid' : (ofVector ssid').charString = .ok ssid')
    (hslash : slash ∉ ssid) (hslash' : slash ∉ ssid') {w₀ : World}
    (hw₀ : w₀ = homeWorld (lit "a\n"))
    {home : List Str} (hhome : home = homeOf digest w₀) {first second : Books}
    (hfirst : first = (emptyBooks w₀).record (sightingAt home ssid a x.2))
    (hsecond : second = first.record (sightingAt home ssid' b y.2)) :
    ∃ s t : LoopTurn α, ∃ p, s.tree = valueTree (lit "a") ∧ t.tree = valueTree (lit "b") ∧
      s.input = x ∧ t.input = y ∧
      Run (HistoryStep digest observe) (.restarting w₀)
        [.launch, .turn s, .stop, .edit (lit "b\n"), .launch, .turn t] p ∧
      ∀ site : Site, site.folder = home →
        Stands s.before.fs site none ∧ Stands s.after.fs site (first.ledger site) ∧
          Stands t.before.fs site (first.ledger site) ∧
            Stands t.after.fs site (second.ledger site) := by
  have hstarts : StartsEmpty (valueTree (lit "a")) w₀ (lit "a\n") :=
    hw₀ ▸ startsEmpty_homeWorld compiled_a
  obtain ⟨i, hi⟩ : ∃ i, i = hstarts.installation digest := ⟨_, rfl⟩
  have htree : i.tree = valueTree (lit "a") := by rw [hi]; rfl
  have hfolder : i.home digest = home := by rw [hi, hhome]; exact hstarts.home_eq
  have hsite {ssid : Str} (h : slash ∉ ssid) : i.siteOf digest ssid = some ⟨home, ssid⟩ := by
    rw [← hfolder, hi]
    exact hstarts.siteOf_eq h
  have hboots : Boots digest i (fun site => site.folder = home) w₀ (emptyBooks w₀) := by
    rw [← hfolder, hi]
    exact hstarts.boots
  obtain ⟨session, w₁, hlaunch, hstanding, hready, -⟩ := boot_refines hboots
  have hlaunched : Run (HistoryStep digest observe) (.restarting w₀) ([] ++ [.launch])
      (.running session w₁) :=
    .snoc (.nil _) (.of_resume hlaunch)
  -- the first turn writes the first row
  have hunread : Readable ((emptyBooks w₀).ledger.items ⟨home, ssid⟩) a :=
    readable_of_notMem List.not_mem_nil
  obtain ⟨w₂, session₂, hturn, hstanding₂, -, -⟩ :=
    turn_run hstanding hready rfl hssid (hsite hslash) rfl hunread (dateCell x.2)
  have hseen : observe session.tree x.1 = .ok (a.text, ofVector ssid) := by rw [hready.tree, htree, hx]
  have hfirstTurn : HistoryStep digest observe (.running session w₁) (.turn ⟨session.tree, x, w₁, w₂⟩)
      (.running session₂ w₂) := .turn (by rw [hseen]; exact hturn)
  -- the second run finds the same sites
  have hstands₂ : Standing digest i _ w₂ first := hfirst ▸ hstanding₂
  have hedited := hstands₂.edited compiled_b
  obtain ⟨w₃, hw₃⟩ : ∃ w₃, w₃ = writeFile (scriptLoc w₂.cwd) (lit "b\n") w₂ := ⟨_, rfl⟩
  obtain ⟨j, hj⟩ : ∃ j, j = i.edited _ _ compiled_b := ⟨_, rfl⟩
  rw [← hw₃, ← hj] at hedited
  have hlaunch₃ : (Process.restarting w₃).resume = .running ⟨j.tree, [], none⟩ w₃ := by
    rw [Process.resume, start_run hedited]
  have htree₃ : j.tree = valueTree (lit "b") := by rw [hj]; rfl
  have hsite₃ : j.siteOf digest ssid' = some ⟨home, ssid'⟩ := by
    rw [hj]
    exact hsite hslash'
  have hnew : b ∉ keys (first.ledger.items ⟨home, ssid'⟩) := by
    rw [hfirst, Books.record_ledger, Ledger.items_record]
    split
    · exact fun hmem => (mem_keys_record.mp hmem).elim hne List.not_mem_nil
    · exact List.not_mem_nil
  obtain ⟨w₄, session₄, hturn₄, hstanding₄, -, -⟩ :=
    turn_run hedited (ready_fresh w₃ first) rfl hssid'
    hsite₃ rfl (readable_of_notMem hnew) (dateCell y.2)
  have hsecondTurn : HistoryStep digest observe (.running ⟨j.tree, [], none⟩ w₃)
      (.turn ⟨j.tree, y, w₃, w₄⟩) (.running session₄ w₄) :=
    .turn (by rw [show observe j.tree y.1 = _ from htree₃ ▸ hy]; exact hturn₄)
  have hrun := hlaunched.snoc hfirstTurn |>.snoc (.stop session₂ w₂) |>.snoc (.edit (lit "b\n") w₂)
  rw [← hw₃] at hrun
  have hrun₄ := (hrun.snoc (.of_resume hlaunch₃)).snoc hsecondTurn
  refine ⟨_, _, _, hready.tree.trans htree, htree₃, rfl, rfl, hrun₄, fun site hfolder => ⟨?_, ?_, ?_, ?_⟩⟩
  · exact hstanding.sites site hfolder
  · exact hstands₂.sites site hfolder
  · exact hedited.sites site hfolder
  · rw [hsecond]
    exact hstanding₄.sites site hfolder

end

/-- The cells of the two scripts. -/
def cellA : Cell := ⟨lit "a", by decide⟩

def cellB : Cell := ⟨lit "b", by decide⟩

theorem valueTree_injective {value value' : Str} (h : valueTree value = valueTree value') :
    value = value' := by
  injection h with h
  injection h with h
  injection h

/-- Two networks, seen under one script each. -/
theorem unmixed_of_separate_work :
    ∃ events p, Run (HistoryStep zeroDigest asSeen) (.restarting (homeWorld (lit "a\n"))) events p ∧
      (∃ s t : LoopTurn Observation, .turn s ∈ events ∧ .turn t ∈ events ∧ s.tree ≠ t.tree) ∧
      Unmixed events := by
  have hx : asSeen (valueTree (lit "a")) (.ok (lit "a", ofVector (lit "home"))) =
      .ok (cellA.text, ofVector (lit "home")) := rfl
  have hy : asSeen (valueTree (lit "b")) (.ok (lit "b", ofVector (lit "work"))) =
      .ok (cellB.text, ofVector (lit "work")) := rfl
  obtain ⟨s, t, p, hs, ht, hsinput, htinput, hrun, -⟩ :=
    edited_run (x := (_, someTime)) (y := (_, someTime))
    zeroDigest hx hy (by decide) (by decide) (by decide) (by decide) (by decide) rfl rfl rfl rfl
  have hne : s.tree ≠ t.tree := by
    rw [hs, ht]
    exact fun he => absurd (valueTree_injective he) (by decide)
  refine ⟨_, p, hrun, ⟨s, t, by simp, by simp, hne⟩, unmixed_of_separate hrun ?_⟩
  have hplaces (home : List Str) : placeOf home (lit "home") ≠ placeOf home (lit "work") :=
    fun he =>
    absurd (congrArg Site.name he) (by decide : baseName (lit "home") ≠ baseName (lit "work"))
  have hturns {u : LoopTurn Observation} (hu : .turn u ∈ [HistoryEvent.launch, .turn s, .stop,
      .edit (lit "b\n"), .launch, .turn t]) : u = s ∨ u = t := by
    simpa using hu
  have hssid : s.ssid asSeen = some (lit "home") := by rw [LoopTurn.ssid, hsinput]; rfl
  have hssid' : t.ssid asSeen = some (lit "work") := by rw [LoopTurn.ssid, htinput]; rfl
  intro u v hu hv huv ssid ssid' hseen hseen'
  rcases hturns hu with rfl | rfl <;> rcases hturns hv with rfl | rfl
  · exact absurd rfl huv
  · obtain rfl := Option.some.inj (hssid.symm.trans hseen)
    obtain rfl := Option.some.inj (hssid'.symm.trans hseen')
    exact hplaces _
  · obtain rfl := Option.some.inj (hssid'.symm.trans hseen)
    obtain rfl := Option.some.inj (hssid.symm.trans hseen')
    exact (hplaces _).symm
  · exact absurd rfl huv

/-- **An edit does not part the rows**: whatever the digest is, there is a history in
which two scripts write rows of one file. -/
theorem not_unmixed_edited :
    ¬ ∃ digest : Str → Vector UInt8 32, ∀ (w₀ : World) (events : List (HistoryEvent (Except Failure Frame)))
      (p : Process), Run (HistoryStep digest (observeFrame digest)) (.restarting w₀) events p →
        Unmixed events := by
  rintro ⟨digest, hall⟩
  have hx : observeFrame digest (valueTree (lit "a")) homeInput.1 =
    .ok (cellA.text, ofVector (lit "home")) := rfl
  have hy : observeFrame digest (valueTree (lit "b")) homeInput.1 =
    .ok (cellB.text, ofVector (lit "home")) := rfl
  have hssid : (ofVector (lit "home")).charString = .ok (lit "home") := by decide
  obtain ⟨home, hhome⟩ : ∃ home, home = homeOf digest (homeWorld (lit "a\n")) := ⟨_, rfl⟩
  obtain ⟨first, hfirst⟩ : ∃ first, first =
      (emptyBooks (homeWorld (lit "a\n"))).record (sightingAt home (lit "home") cellA someTime) :=
        ⟨_, rfl⟩
  obtain ⟨s, t, p, hs, ht, -, -, hrun, hsites⟩ :=
    edited_run digest hx hy (by decide) hssid hssid (by decide)
    (by decide) rfl hhome hfirst rfl
  obtain ⟨hbefore, hafter, hbefore', hafter'⟩ := hsites ⟨home, lit "home"⟩ rfl
  -- each of the turns adds a row to the file
  have hone : first.ledger ⟨home, lit "home"⟩ =
      some [⟨cellA, dateCell someTime, dateCell someTime⟩] := by
    rw [hfirst]
    exact Books.write_self ..
  have htwo : (first.record (sightingAt home (lit "home") cellB someTime)).ledger
    ⟨home, lit "home"⟩ =
      some [⟨cellA, dateCell someTime, dateCell someTime⟩, ⟨cellB, dateCell someTime, dateCell someTime⟩] := by
    have hnew : cellB ∉ keys [(⟨cellA, dateCell someTime, dateCell someTime⟩ : Entry)] := by decide
    refine (Books.write_self ..).trans ?_
    rw [Ledger.items, sightingAt, hone, Option.getD_some, record_of_notMem hnew]
    rfl
  rw [hone] at hafter hbefore'
  have hwrites : s.Writes (Site.mk home (lit "home")).data 0 := by
    refine ⟨_, by rw [fileRows_of_stands hafter]; rfl, ?_⟩
    rw [fileRows_of_stands hbefore]
    intro hrow
    cases hrow
  have hwrites' : t.Writes (Site.mk home (lit "home")).data 1 := by
    refine ⟨_, by rw [fileRows_of_stands hafter', show homeInput.2 = someTime from rfl, htwo]; rfl, ?_⟩
    rw [fileRows_of_stands hbefore']
    intro hrow
    cases hrow
  have hsame : s.tree = t.tree := hall _ _ _ hrun s t (by simp) (by simp) _ 0 1 hwrites hwrites'
  rw [hs, ht] at hsame
  exact absurd (valueTree_injective hsame) (by decide)

end SnapDesk
