import SnapDesk.FieldLookup
import SnapDesk.OutputRows
import SnapDesk.ScriptAccepted

/-! # Seeing a network again

Whether an output is known is decided by looking for it among the cells that the
data file is cut into, so it must be text that a cell can hold: `get_key_of_entries`
takes the empty value for any value, and a semicolon ends a cell.  A compiled script
never yields a newline (`newline_notMem_getValue`), but its result may be empty, and
a value of the script may contain a semicolon.

For a script whose outputs are neither, a frame with an SSID and an output that have
been processed before adds nothing: no row, no file, no notification
(`turn_addsNothing`). -/
namespace SnapDesk
open Delimited FileTree Register BigNumber

/-! ### What a script yields -/

namespace Node

set_option maxRecDepth 4000 in
/-- A byte is printed in digits. -/
theorem newline_notMem_hexByte : ∀ b : UInt8, newline ∉ hexByte b ∧ newline ∉ lowerHexByte b :=
  byte_forall (by decide)

theorem newline_notMem_hexString {number : BigNumber} {s : Str} (h : number.hexString = .ok s) :
    newline ∉ s := by
  obtain ⟨-, -, h⟩ := bind_eq_ok h
  cases h
  intro hmem
  obtain ⟨b, -, hb⟩ := List.mem_flatMap.mp hmem
  exact (newline_notMem_hexByte b).1 hb

/-- Any exception stays one. -/
theorem inCode_eq_ok {α : Type} {x : Except Failure α} {a : α} (h : inCode x = .ok a) :
    x = .ok a := by
  match x, h with
  | .ok _, h => exact h
  | .error (.invalidArgument _), h => cases h
  | .error (.runtimeError _), h => cases h
  | .error (.outOfRange _), h => cases h
  | .error (.filesystemError _), h => cases h
  | .error .undefinedBehaviour, h => cases h
  | .error .unfinished, h => cases h

theorem newline_notMem_applyCut {name : Str} {cut : Nat → Nat → Method BigNumber Unit}
    {st : CutArgs} {s : Str} (h : applyCut name cut st = .ok s) : newline ∉ s := by
  rw [applyCut] at h
  split_ifs at h
  · cases h
    exact List.not_mem_nil
  · split at h
    · exact newline_notMem_hexString h
    · cases h

/-- **The value of a tree has no newline**, if its text has none in a line. -/
theorem newline_notMem_getValue {digest : Str → Vector UInt8 32} {frame : Frame} (node : Node)
    (hlines : ∀ line ∈ node.printLines, newline ∉ line) {output : Str}
    (h : node.getValue digest frame = .ok output) : newline ∉ output := by
  match node, hlines, h with
  | .value v, hlines, h =>
    rw [getValue] at h
    obtain ⟨-, -, h⟩ := bind_eq_ok h
    cases h
    exact hlines _ (List.mem_singleton_self _)
  | .getter fieldName, _, h =>
    rw [getValue] at h
    obtain ⟨-, -, h⟩ := bind_eq_ok h
    obtain ⟨number, -, h⟩ := bind_eq_ok h
    split at h
    · cases h
      exact List.not_mem_nil
    · exact newline_notMem_hexString h
  | .root none, _, h =>
    rw [getValue] at h
    obtain ⟨-, -, h⟩ := bind_eq_ok h
    cases h
  | .root (some node), hlines, h =>
    rw [getValue] at h
    obtain ⟨-, -, h⟩ := bind_eq_ok h
    exact newline_notMem_getValue node hlines (inCode_eq_ok h)
  | .function .sha256 args, _, h =>
    rw [getValue] at h
    obtain ⟨-, -, h⟩ := bind_eq_ok h
    obtain ⟨data, -, h⟩ := bind_eq_ok h
    cases h
    intro hmem
    obtain ⟨b, -, hb⟩ := List.mem_flatMap.mp hmem
    exact (newline_notMem_hexByte b).2 hb
  | .function .cutBit args, _, h =>
    rw [getValue] at h
    obtain ⟨-, -, h⟩ := bind_eq_ok h
    obtain ⟨st, -, h⟩ := bind_eq_ok h
    exact newline_notMem_applyCut h
  | .function .cutByte args, _, h =>
    rw [getValue] at h
    obtain ⟨-, -, h⟩ := bind_eq_ok h
    obtain ⟨st, -, h⟩ := bind_eq_ok h
    exact newline_notMem_applyCut h

end Node

/-- What a turn of the loop sees of a frame, or of the exception thrown by reading or
decoding it. -/
def observeFrame (digest : Str → Vector UInt8 32) (tree : Node) (frame : Except Failure Frame) :
    Except Failure (Str × BigNumber) := do
  let frame ← frame
  let output ← tree.getValue digest frame
  let element ← frame.getValue (lit "0")
  return (output, element)

theorem newline_notMem_output {digest : Str → Vector UInt8 32} {i : Installation}
    {frame : Except Failure Frame} {output : Str} {element : BigNumber}
    (h : observeFrame digest i.tree frame = .ok (output, element)) : newline ∉ output := by
  obtain ⟨f, -, h⟩ := bind_eq_ok h
  obtain ⟨output', hvalue, h⟩ := bind_eq_ok h
  obtain ⟨element', -, h⟩ := bind_eq_ok h
  cases h
  exact i.tree.newline_notMem_getValue (Compiler.newline_notMem_compiled i.compiled) hvalue

/-! ### What a frame adds -/

/-- The number of lines of a file, nothing if there is no file. -/
def lineCount (w : World) (loc : List Str) : Option Nat :=
  match w.fs loc with
  | some (.file content) => some (fields newline content).length
  | _ => none

/-- A turn goes well and adds nothing: no command is run, and every file has as many
lines as before. -/
def AddsNothing (digest : Str → Vector UInt8 32) (observation : Except Failure (Str × BigNumber))
    (date : Str) (session : Session) (w : World) : Prop :=
  ∃ session' w', (turn digest observation date session).run w = .ok session' w' ∧
    w'.commands = w.commands ∧ ∀ loc, lineCount w' loc = lineCount w loc

section
variable (digest : Str → Vector UInt8 32) (i : Installation)

/-- The frames that a run is fed with. -/
abbrev Frames := List (Except Failure Frame × LocalTime)

/-- What a turn of this installation sees of a frame: its SSID and its output. -/
def Installation.sees (frame : Except Failure Frame) : Option (Str × Str) :=
  seenOf (observeFrame digest i.tree frame)

/-- The sites of the SSIDs that are seen. -/
def Installation.visited (inputs : Frames) (site : Site) : Prop :=
  ∃ input ∈ inputs, ∃ ssid output, i.sees digest input.1 = some (ssid, output) ∧
    i.siteOf digest ssid = some site

/-- The output of a frame can be found again: it is neither empty nor broken by a
delimiter, and the number of its row, if it has one, is readable. -/
def Orderly (b : Books) (frame : Except Failure Frame) : Prop :=
  ∀ ssid output, i.sees digest frame = some (ssid, output) →
    output ≠ [] ∧ delimiter ∉ output ∧
      ∀ site (h : IsCell output), i.siteOf digest ssid = some site →
        Readable (b.ledger.items site) ⟨output, h⟩

/-- Every frame is orderly when its turn comes. -/
def AllOrderly (b : Books) (inputs : Frames) : Prop :=
  ∀ before input after, inputs = before ++ input :: after →
    Orderly digest i (i.booksAfter digest (observeFrame digest) b before) input.1

/-- A run from a world has come to the turn of this frame, and the turn has returned. -/
def Processed (w₀ : World) (before : Frames) (input : Except Failure Frame × LocalTime) : Prop :=
  ∃ session w session' w',
    Process.run digest (observeFrame digest) w₀ before = .running session w ∧
      (turn digest (observeFrame digest session.tree input.1) input.2.date session).run w =
        .ok session' w'

end

section
variable {digest : Str → Vector UInt8 32} {i : Installation} {own : Site → Prop} {b : Books}
  {w₀ : World} {inputs : Frames}

/-- What is seen of a frame has an SSID element. -/
theorem seenOf_eq_some {observation : Except Failure (Str × BigNumber)} {ssid output : Str}
    (h : seenOf observation = some (ssid, output)) :
    ∃ element, observation = .ok (output, element) ∧ element.isNull = false ∧
      element.charString = .ok ssid := by
  match observation with
  | .error e => cases h
  | .ok (output', element) =>
    by_cases hnull : element.isNull = true
    · rw [seenOf_null hnull] at h
      cases h
    · have helement := Bool.eq_false_iff.mpr hnull
      rw [seenOf_ok helement] at h
      cases h
      exact ⟨element, rfl, helement, charString_eq helement⟩

/-- An orderly output is text of a cell. -/
theorem Orderly.isCell {frame : Except Failure Frame} (h : Orderly digest i b frame)
    {ssid output : Str} (hseen : i.sees digest frame = some (ssid, output)) : IsCell output := by
  obtain ⟨hne, hdelimiter, -⟩ := h ssid output hseen
  obtain ⟨element, hobs, -, -⟩ := seenOf_eq_some hseen
  exact ⟨hne, hdelimiter, newline_notMem_output hobs⟩

/-- Orderly frames are proper, if their evaluation has a meaning. -/
theorem Orderly.proper {input : Except Failure Frame × LocalTime} (h : Orderly digest i b input.1)
    (hinput : ∀ site, i.visited digest [input] site → own site)
    (hdefined : ∀ e, observeFrame digest i.tree input.1 = .error e → e.isException = true) :
    Proper digest i own b (observeFrame digest i.tree input.1) := by
  match hobs : observeFrame digest i.tree input.1 with
  | .error e => exact hdefined e hobs
  | .ok (output, element) =>
    intro helement
    have hseen : i.sees digest input.1 = some (element.number.filter (· ≠ 0), output) := by
      rw [Installation.sees, hobs, seenOf_ok helement]
    have hcell := h.isCell hseen
    exact ⟨hcell, fun site hsite =>
      ⟨hinput site ⟨input, List.mem_singleton_self _, _, _, hseen, hsite⟩,
        (h _ _ hseen).2.2 site hcell hsite⟩⟩

theorem AllOrderly.of_append {inputs' : Frames} (h : AllOrderly digest i b (inputs ++ inputs')) :
    AllOrderly digest i b inputs :=
  fun before input after he => h before input (after ++ inputs') (by
    rw [he, List.append_assoc, List.cons_append])

/-- The evaluation of every frame has a meaning. -/
def AllDefined (digest : Str → Vector UInt8 32) (i : Installation) (inputs : Frames) : Prop :=
  ∀ input ∈ inputs, ∀ e, observeFrame digest i.tree input.1 = .error e → e.isException = true

/-- **A run of orderly frames keeps its books**, if they all have a meaning. -/
theorem run_orderly (h : Boots digest i own w₀ b)
    (hvisited : ∀ site, i.visited digest inputs site → own site)
    (horderly : AllOrderly digest i b inputs) (hdefined : AllDefined digest i inputs) :
    Refines digest i own (i.sightings digest (observeFrame digest) inputs ≠ [])
      (Process.run digest (observeFrame digest) w₀ inputs)
      (i.booksAfter digest (observeFrame digest) b inputs) := by
  refine run_refines h fun before input after he => ?_
  have hmem : input ∈ inputs := by simp [he]
  refine (horderly before input after he).proper (fun site hsite => ?_) (hdefined input hmem)
  obtain ⟨x, hx, hseen⟩ := hsite
  exact hvisited site ⟨x, List.mem_singleton.mp hx ▸ hmem, hseen⟩

/-- A frame without meaning ends the program for good. -/
theorem allDefined_of_running (h : Boots digest i own w₀ b)
    (hvisited : ∀ site, i.visited digest inputs site → own site)
    (horderly : AllOrderly digest i b inputs)
    (hrun : Process.run digest (observeFrame digest) w₀ inputs ≠ .undefined) :
    AllDefined digest i inputs := by
  induction inputs using List.reverseRecOn with
  | nil => exact fun input hinput => absurd hinput List.not_mem_nil
  | append_singleton inputs input ih =>
    have hvisited' : ∀ site, i.visited digest inputs site → own site := fun site hsite => by
      obtain ⟨x, hx, hseen⟩ := hsite
      exact hvisited site ⟨x, List.mem_append_left _ hx, hseen⟩
    have hbefore := ih hvisited' horderly.of_append fun hundefined => hrun (by
      rw [Process.run_concat, hundefined]
      rfl)
    intro x hx e he
    rcases List.mem_append.mp hx with hx | hx
    · exact hbefore x hx e he
    · rw [List.mem_singleton.mp hx] at he
      by_contra hmeaningless
      obtain ⟨session, w, hrunning, -, hready, -⟩ :=
        run_orderly h hvisited' horderly.of_append hbefore
      refine hrun ?_
      rw [Process.run_concat, hrunning, Process.feed, hready.tree, he, turn_run_error]
      simp only [Process.restart, if_neg hmeaningless, Process.resume]

/-- **Recording a known output again changes no number of lines.** -/
theorem lineCount_record {w : World} {site : Site} {entries : List Entry} {output : Cell}
    (hstands : w.fs site.data = some (.file (tableOf entries).text))
    (hknown : output ∈ keys entries) (date : Cell) (loc : List Str) :
    lineCount (writeFile site.data (tableOf (Register.record entries (output, date))).text w) loc =
      lineCount w loc := by
  have hlines (entries : List Entry) :
      (fields newline (tableOf entries).text).length = (keys entries).length + 1 := by
    rw [Table.text, fields_terminate newline (tableOf entries).newline_notMem_lines]
    simp [Table.lines, tableOf, Register.keys]
  by_cases he : loc = site.data
  · subst he
    rw [lineCount, lineCount, hstands, writeFile]
    simp only [put_self]
    rw [hlines, hlines, keys_record, if_pos hknown]
  · rw [lineCount, lineCount, writeFile]
    simp only [put_of_ne he]

/-- Where the turn of a frame has returned, its SSID has a site, and its sighting has
been recorded. -/
theorem sighting_of_processed (h : Boots digest i own w₀ b) {x : Except Failure Frame × LocalTime}
    (hvisited : ∀ site, i.visited digest inputs site → own site)
    (horderly : AllOrderly digest i b inputs) (hdefined : AllDefined digest i inputs)
    (hx : Orderly digest i (i.booksAfter digest (observeFrame digest) b inputs) x.1)
    (hprocessed : Processed digest w₀ inputs x) {ssid output : Str}
    (hseen : i.sees digest x.1 = some (ssid, output)) :
    ∃ (site : Site) (hcell : IsCell output), i.siteOf digest ssid = some site ∧
      i.sighting digest (observeFrame digest i.tree x.1) (dateCell x.2) =
        some ⟨ssid, site, ⟨output, hcell⟩, dateCell x.2⟩ := by
  obtain ⟨session, w, session', w', hrun, hturn⟩ := hprocessed
  obtain ⟨s, v, hrun', hstanding, hready, -⟩ := run_orderly h hvisited horderly hdefined
  obtain ⟨rfl, rfl⟩ := Process.running.inj (hrun.symm.trans hrun')
  have hcell := hx.isCell hseen
  obtain ⟨element, hobs, helement, hssid⟩ := seenOf_eq_some hseen
  rw [hready.tree, hobs] at hturn
  match hsite : i.siteOf digest ssid with
  | none =>
    obtain ⟨v, e, hthrows, -⟩ :=
      turn_run_nowhere hstanding hready output helement hssid hsite x.2.date
    cases hturn.symm.trans hthrows
  | some site =>
    refine ⟨site, hcell, rfl, ?_⟩
    obtain rfl : element.number.filter (· ≠ 0) = ssid :=
      Except.ok.inj ((charString_eq helement).symm.trans hssid)
    rw [hobs, Installation.sighting, if_neg (by simp [helement])]
    simp only [hsite, dif_pos hcell]

/-- **Seeing a network again adds nothing.**  In a run whose frames are orderly, once
the turn of a frame has returned, the turn of any later frame with the same SSID and
the same output returns, runs no command and adds no line to a file. -/
theorem turn_addsNothing (h : Boots digest i (i.visited digest inputs) w₀ b)
    (horderly : AllOrderly digest i b inputs) {before mid after : Frames}
    {x y : Except Failure Frame × LocalTime} (hinputs : inputs = before ++ x :: (mid ++ y :: after))
    (hprocessed : Processed digest w₀ before x) {ssid output : Str}
    (hx : i.sees digest x.1 = some (ssid, output)) (hy : i.sees digest y.1 = some (ssid, output))
    {session : Session} {w : World}
    (hrun : Process.run digest (observeFrame digest) w₀ (before ++ x :: mid) = .running session w) :
    AddsNothing digest (observeFrame digest session.tree y.1) y.2.date session w := by
  have hsplit : inputs = (before ++ x :: mid) ++ (y :: after) := by simp [hinputs]
  have hvisited {inputs' : Frames} (hsub : ∀ input ∈ inputs', input ∈ inputs) (site : Site)
      (hsite : i.visited digest inputs' site) : i.visited digest inputs site := by
    obtain ⟨input, hinput, hseen⟩ := hsite
    exact ⟨input, hsub input hinput, hseen⟩
  have hmem₁ : ∀ input ∈ before ++ x :: mid, input ∈ inputs := fun input hinput =>
    hsplit ▸ List.mem_append_left _ hinput
  have horderly₁ : AllOrderly digest i b (before ++ x :: mid) := (hsplit ▸ horderly).of_append
  have hdefined := allDefined_of_running h (hvisited hmem₁) horderly₁ (by
    rw [hrun]
    exact fun hp => by cases hp)
  -- the first of the two frames has been recorded
  obtain ⟨site, hcell, hsite, hsighting⟩ := sighting_of_processed h
    (hvisited fun input hinput => hmem₁ input (List.mem_append_left _ hinput)) horderly₁.of_append
    (fun input hinput => hdefined input (List.mem_append_left _ hinput))
    (horderly before x _ hinputs) hprocessed hx
  obtain ⟨s, v, hrun', hstanding, hready, hopened⟩ :=
    run_orderly h (hvisited hmem₁) horderly₁ hdefined
  obtain ⟨rfl, rfl⟩ := Process.running.inj (hrun.symm.trans hrun')
  have hrecorded : (⟨ssid, site, ⟨output, hcell⟩, dateCell x.2⟩ : Sighting) ∈
      i.sightings digest (observeFrame digest) (before ++ x :: mid) :=
    List.mem_filterMap.mpr ⟨x, by simp, hsighting⟩
  obtain ⟨entries, hledger⟩ :=
    Option.isSome_iff_exists.mp ((Ledger.isSome_recordAll b.ledger _ site).mpr
    (.inr (List.mem_map.mpr ⟨_, hrecorded, rfl⟩)))
  rw [← booksAfter_ledger] at hledger
  have hitems : (i.booksAfter digest (observeFrame digest) b (before ++ x :: mid)).ledger.items site =
      entries := by
    rw [Ledger.items, hledger]
    rfl
  have hknown : (⟨output, hcell⟩ : Cell) ∈ keys entries := by
    rw [← hitems, booksAfter_ledger]
    exact Ledger.mem_keys_recordAll.mpr (.inr ⟨_, hrecorded, rfl, rfl⟩)
  -- so the second one finds it
  have hreadable := ((horderly (before ++ x :: mid) y after hsplit) ssid output hy).2.2 site hcell hsite
  rw [hitems] at hreadable
  obtain ⟨element, hobs, helement, hssid⟩ := seenOf_eq_some hy
  have hown : i.visited digest inputs site := ⟨x, hmem₁ x (by simp), ssid, output, hx, hsite⟩
  obtain ⟨session', hturn⟩ :=
    turn_run_known hstanding (hopened (List.ne_nil_of_mem hrecorded)) hready
    helement hssid hsite hown hledger hknown hreadable (dateCell y.2)
  have hstands := hstanding.sites site hown
  rw [hledger] at hstands
  rw [hready.tree, hobs]
  exact ⟨session', _, hturn, rfl, lineCount_record hstands.1 hknown _⟩

/-- An orderly frame whose SSID has a site is processed. -/
theorem processed_of_site (h : Boots digest i own w₀ b) {x : Except Failure Frame × LocalTime}
    (hvisited : ∀ site, i.visited digest (inputs ++ [x]) site → own site)
    (horderly : AllOrderly digest i b (inputs ++ [x])) (hdefined : AllDefined digest i inputs)
    {ssid output : Str} (hseen : i.sees digest x.1 = some (ssid, output)) {site : Site}
    (hsite : i.siteOf digest ssid = some site) : Processed digest w₀ inputs x := by
  have hx := horderly inputs x [] rfl
  have hown : own site := hvisited site ⟨x, by simp, ssid, output, hseen, hsite⟩
  have hvisited' : ∀ site, i.visited digest inputs site → own site := by
    rintro site ⟨input, hinput, hseen⟩
    exact hvisited site ⟨input, List.mem_append_left _ hinput, hseen⟩
  obtain ⟨session, w, hrun, hstanding, hready, -⟩ :=
    run_orderly h hvisited' horderly.of_append hdefined
  have hcell := hx.isCell hseen
  obtain ⟨element, hobs, helement, hssid⟩ := seenOf_eq_some hseen
  have hreadable := (hx ssid output hseen).2.2 site hcell hsite
  obtain ⟨w', session', hturn, -⟩ := turn_run hstanding hready helement hssid hsite hown hreadable
    (dateCell x.2)
  refine ⟨session, w, session', w', hrun, ?_⟩
  rw [hready.tree, hobs]
  exact hturn

end

/-! ### Scripts that hash -/

section
variable {digest : Str → Vector UInt8 32} {tree : Node} {w₀ : World} {script : Str}
  {inputs : Frames}

/-- Fingerprints are orderly, in an empty database whose rows stay readable. -/
theorem StartsEmpty.allOrderly (h : StartsEmpty tree w₀ script)
    (hobserve : ∀ input ∈ inputs, Fingerprints (observeFrame digest tree input.1))
    (hrows : RowsReadable (observeFrame digest) tree inputs) :
    AllOrderly digest (h.installation digest) (emptyBooks w₀) inputs := by
  intro before input after he ssid output hseen
  obtain ⟨element, hobs, helement, hssid⟩ := seenOf_eq_some hseen
  have hproper := h.proper digest hobserve hrows before input after he
  rw [show observeFrame digest tree input.1 = .ok (output, element) from hobs] at hproper
  obtain ⟨hcell, hsites⟩ := hproper helement
  obtain rfl : element.number.filter (· ≠ 0) = ssid :=
    Except.ok.inj ((charString_eq helement).symm.trans hssid)
  exact ⟨hcell.1, hcell.2.1, fun site _ hsite => (hsites site hsite).2⟩

theorem StartsEmpty.boots_visited (h : StartsEmpty tree w₀ script)
    (hslash : ∀ input ∈ inputs, ∀ ssid output,
      (h.installation digest).sees digest input.1 = some (ssid, output) → slash ∉ ssid) :
    Boots digest (h.installation digest) ((h.installation digest).visited digest inputs) w₀
      (emptyBooks w₀) := by
  refine h.boots.mono fun site hsite => ?_
  obtain ⟨input, hinput, ssid, output, hseen, hsite⟩ := hsite
  rw [h.siteOf_eq (hslash input hinput ssid output hseen)] at hsite
  rw [← Option.some.inj hsite]

end

/-! ### Two frames of one network -/

/-- A digest that is the same for every text. -/
def zeroDigest (_ : Str) : Vector UInt8 32 := Vector.replicate 32 0

/-- Some time. -/
def someTime : LocalTime := ⟨1, 1, 2025, 12, 0, 0⟩

/-- A frame of the network `home`. -/
def homeInput : Except Failure Frame × LocalTime := (.ok Frame.homeFrame, someTime)

theorem observeFrame_home : observeFrame zeroDigest ssidTree homeInput.1 =
    .ok (List.replicate 64 48, ofVector (lit "home")) := by
  decide

/-- Both frames of a short run are fingerprints of the network. -/
theorem homeInputs_orderly {inputs : Frames} (hinputs : ∀ input ∈ inputs, input = homeInput)
    (hlen : inputs.length < 2 ^ 31 - 1) :
    AllOrderly zeroDigest ((startsEmpty_homeWorld compiled_ssidScript).installation zeroDigest)
      (emptyBooks (homeWorld ssidScript)) inputs := by
  refine StartsEmpty.allOrderly _ (fun input hinput => ?_) (rowsReadable_of_length hlen)
  rw [hinputs input hinput, observeFrame_home]
  refine ⟨⟨by decide, by decide⟩, ?_⟩
  rintro ssid ⟨⟩
  decide

/-- The second frame of the network adds nothing. -/
theorem turn_addsNothing_home : ∃ session w,
    Process.run zeroDigest (observeFrame zeroDigest) (homeWorld ssidScript) [homeInput] =
        .running session w ∧
      AddsNothing zeroDigest (observeFrame zeroDigest session.tree homeInput.1) homeInput.2.date
        session w := by
  have hstarts := startsEmpty_homeWorld compiled_ssidScript
  have hsees : (hstarts.installation zeroDigest).sees zeroDigest homeInput.1 =
      some (lit "home", List.replicate 64 48) := by
    rw [Installation.sees,
      show observeFrame zeroDigest (hstarts.installation zeroDigest).tree homeInput.1 = _ from
      observeFrame_home]
    decide
  have hall {inputs : Frames} (hinputs : ∀ input ∈ inputs, input = homeInput) :
      Boots zeroDigest (hstarts.installation zeroDigest)
        ((hstarts.installation zeroDigest).visited zeroDigest inputs) (homeWorld ssidScript)
        (emptyBooks (homeWorld ssidScript)) := by
    refine hstarts.boots_visited fun input hinput ssid output hseen => ?_
    rw [hinputs input hinput, hsees] at hseen
    cases hseen
    decide
  have hdefined : AllDefined zeroDigest (hstarts.installation zeroDigest) [homeInput] := by
    intro input hinput e he
    rw [List.mem_singleton.mp hinput,
      show observeFrame zeroDigest (hstarts.installation zeroDigest).tree
      homeInput.1 = _ from observeFrame_home] at he
    cases he
  have hone : ∀ input ∈ [homeInput], input = homeInput := fun input => List.mem_singleton.mp
  have htwo : ∀ input ∈ [homeInput, homeInput], input = homeInput := by simp
  obtain ⟨session, w, hrun, -⟩ := run_orderly (hall hone) (fun _ => id)
    (homeInputs_orderly hone (by decide)) hdefined
  have hnone : AllDefined zeroDigest (hstarts.installation zeroDigest) [] := by rintro input ⟨⟩
  have hprocessed : Processed zeroDigest (homeWorld ssidScript) [] homeInput :=
    processed_of_site (hall hone) (fun _ => id) (homeInputs_orderly hone (by decide)) hnone hsees
      (hstarts.siteOf_eq (by decide))
  have htwice : [homeInput, homeInput] = [] ++ homeInput :: ([] ++ homeInput :: []) := rfl
  exact ⟨session, w, hrun, turn_addsNothing (hall htwo) (homeInputs_orderly htwo (by decide)) htwice
    hprocessed hsees hsees hrun⟩

/-! ### The empty output -/

/-- The row of the empty output. -/
def emptyRow (date : Cell) : Row 3 where
  cells := [[], date.text, date.text]
  length_eq := rfl
  plain := by
    intro cell hcell
    simp only [List.mem_cons, List.not_mem_nil, or_false] at hcell
    rcases hcell with rfl | rfl | rfl
    · exact ⟨List.not_mem_nil, List.not_mem_nil⟩
    · exact date.isCell.2
    · exact date.isCell.2

section
variable {w : World} {fileName : Str} {loc : List Str}

/-- In an empty table the empty output gets a row. -/
theorem updateEntry_run_empty (h : HoldsEntries w fileName loc []) (ssid : Str) (date : Cell) :
    (updateEntry (databaseOf fileName) ssid [] date.text).run w =
      .ok () { writeFile loc ((tableOf []).push (emptyRow date)).text w with
        commands := w.commands ++ [cStr (Communicator.notifyCommand (newApMessage ssid))] } := by
  have hcolumn : ((columnNames.idxOf? (lit "output")).getD npos) = 0 := by decide
  have hkeys : ((databaseOf fileName).getKeyOfEntries (lit "output") []).run w = .ok [] w := by
    rw [Database.getKeyOfEntries, Method.run_bind_ok (getColumnNumber_run h _), hcolumn,
      Csv.getAllKeysWithValue_run h (Nat.zero_lt_succ 2)]
    rfl
  have hpush : ((databaseOf fileName).addEntry [[], date.text, date.text]).run w =
      .ok () (writeFile loc ((tableOf []).push (emptyRow date)).text w) :=
    Csv.pushRow_run h (r := emptyRow date) (by simp [tableOf, Table.keys])
  rw [updateEntry, Method.run_bind_ok hkeys, if_pos rfl, Method.run_bind_ok hpush]
  rfl

/-- Its row is found for every value, but not under the empty key. -/
theorem updateEntry_throws_empty {date : Cell}
    (h : (databaseOf fileName).csv.Holds w loc ((tableOf []).push (emptyRow date)))
    (ssid date' : Str) :
    ∃ e, (updateEntry (databaseOf fileName) ssid [] date').run w = .error e w := by
  have hcolumn : ((columnNames.idxOf? (lit "output")).getD npos) = 0 := by decide
  have hcolumn' : ((columnNames.idxOf? (lit "creation_date")).getD npos) = 1 := by decide
  have hkeys : ((databaseOf fileName).getKeyOfEntries (lit "output") []).run w =
      .ok [(emptyRow date).read 0] w := by
    rw [Database.getKeyOfEntries, Method.run_bind_ok (Csv.getColumnNumber_run h _)]
    show ((databaseOf fileName).csv.getAllKeysWithValue ((columnNames.idxOf? (lit "output")).getD npos)
      []).run w = _
    rw [hcolumn, Csv.getAllKeysWithValue_run h (Nat.zero_lt_succ 2)]
    rfl
  -- the empty key is there, but it is read as the rest of its line and not found
  have hposition : ((databaseOf fileName).csv.getRowNumber []).run w = .ok npos w := by
    have hne : [] ∉ ((tableOf []).push (emptyRow date)).keys 0 := by
      intro hmem
      have hread := List.mem_singleton.mp hmem
      exact absurd hread.symm (List.append_ne_nil_of_left_ne_nil (by simp) _)
    rw [Csv.getRowNumber, Csv.getKeyPosition_run h]
    show EStateM.Result.ok ((List.idxOf? [] (((tableOf []).push (emptyRow date)).keys 0)).getD npos) w = _
    rw [List.idxOf?_eq_none_iff.mpr hne]
    rfl
  obtain ⟨what, htest⟩ := Csv.testRowNumber_eq_error (i := npos) (by decide)
  have hcell : ((databaseOf fileName).getCell [] (lit "creation_date")).run w =
      .error (.invalidArgument what) w := by
    rw [Database.getCell, Method.run_bind_ok hposition,
      Method.run_bind_ok (Csv.getColumnNumber_run h _)]
    show ((databaseOf fileName).csv.getCell npos ((columnNames.idxOf? (lit "creation_date")).getD
      npos)).run w = _
    rw [hcolumn', Csv.getCell, Csv.Holds.testColumnNumber h (by decide),
      Method.run_bind_ok (Method.run_lift_ok () w), htest,
        Method.run_bind_error (Method.run_lift_error _ w)]
  refine ⟨.invalidArgument what, ?_⟩
  rw [updateEntry, Method.run_bind_ok hkeys, if_neg (List.cons_ne_nil _ _),
    Method.run_bind_error hcell]

end

/-- A script that asks for an element that no frame here has. -/
def missingScript : Str := lit ">63\n"

def missingTree : Node := .root (some (.getter (lit "63")))

theorem compiled_missingScript : Compiler.getExecutableTree missingScript = .ok missingTree := rfl

theorem observeFrame_missing : observeFrame zeroDigest missingTree homeInput.1 =
    .ok ([], ofVector (lit "home")) := by
  decide

/-- Where a script yields the empty output, the second frame makes the turn throw. -/
theorem not_turn_addsNothing_empty :
    ¬ ∀ (digest : Str → Vector UInt8 32) (i : Installation) (b : Books) (w₀ : World)
        (inputs before mid after : Frames) (x y : Except Failure Frame × LocalTime) (ssid output : Str)
        (session : Session) (w : World),
      Boots digest i (i.visited digest inputs) w₀ b → inputs = before ++ x :: (mid ++ y :: after) →
      Processed digest w₀ before x → i.sees digest x.1 = some (ssid, output) →
      i.sees digest y.1 = some (ssid, output) →
      Process.run digest (observeFrame digest) w₀ (before ++ x :: mid) = .running session w →
      AddsNothing digest (observeFrame digest session.tree y.1) y.2.date session w := by
  intro hall
  have hstarts := startsEmpty_homeWorld compiled_missingScript
  obtain ⟨i, hi⟩ : ∃ i, i = hstarts.installation zeroDigest := ⟨_, rfl⟩
  have htree : i.tree = missingTree := by rw [hi]; rfl
  have hsees : i.sees zeroDigest homeInput.1 = some (lit "home", []) := by
    rw [Installation.sees, htree, observeFrame_missing]
    decide
  have hsite : i.siteOf zeroDigest (lit "home") = some ⟨i.home zeroDigest, lit "home"⟩ := by
    rw [hi]
    exact hstarts.siteOf_eq (by decide)
  have hboots : Boots zeroDigest i (i.visited zeroDigest [homeInput, homeInput])
      (homeWorld missingScript) (emptyBooks (homeWorld missingScript)) := by
    rw [hi]
    refine hstarts.boots_visited fun input hinput ssid output hseen => ?_
    have hinput' : input = homeInput := by simpa using hinput
    rw [hinput', ← hi, hsees] at hseen
    cases hseen
    decide
  have hown : i.visited zeroDigest [homeInput, homeInput] ⟨i.home zeroDigest, lit "home"⟩ :=
    ⟨homeInput, by simp, _, _, hsees, hsite⟩
  obtain ⟨session, w, hrun, hstanding, hready, -⟩ := boot_refines hboots
  have htree' : session.tree = i.tree := hready.tree
  obtain ⟨w₁, hopen₁, hstanding₁, hhoused⟩ :=
    openDatabase_run hstanding hready (by decide) hsite hown
  have hentries : HoldsEntries w₁ _ _ [] := hstanding₁.holdsEntries hhoused (by decide) hsite hown
    (Books.write_self ..)
  -- the first turn adds a row for the empty output, the second one finds it without a position
  obtain ⟨database, w₂, hopen, hupdate, e, hthrows⟩ : ∃ database w₂,
      (openDatabase zeroDigest session (lit "home")).run w = .ok database w₁ ∧
      (updateEntry database (lit "home") [] homeInput.2.date).run w₁ = .ok () w₂ ∧
      ∃ e, (updateEntry database (lit "home") [] homeInput.2.date).run w₂ = .error e w₂ := by
    have hholds := hentries.writeFile ((tableOf []).push (emptyRow (dateCell someTime)))
    refine ⟨_, _, hopen₁, updateEntry_run_empty hentries (lit "home") (dateCell someTime), ?_⟩
    apply updateEntry_throws_empty
    exact ⟨⟨hholds.file.locate, hholds.file.entry⟩, hholds.columns, hholds.key⟩
  have hturn (session : Session) {w w' : World} (hsession : session.tree = i.tree)
      (hopen : (openDatabase zeroDigest session (lit "home")).run w = .ok database w') :
      (turn zeroDigest (observeFrame zeroDigest session.tree homeInput.1) homeInput.2.date session).run w =
        (updateEntry database (lit "home") [] homeInput.2.date >>= fun _ =>
          (pure ⟨session.tree, lit "home", some database⟩ : Action Session)).run w' := by
    have hssid : (⟨lit "home", false⟩ : BigNumber).charString = .ok (lit "home") := by decide
    have hobserve : observeFrame zeroDigest session.tree homeInput.1 =
        .ok ([], ofVector (lit "home")) := by
      rw [hsession, htree, observeFrame_missing]
    rw [hobserve, turn, Method.run_bind_ok (Method.run_lift_ok _ w)]
    simp only [ofVector, Bool.false_eq_true, if_false]
    rw [hssid, Method.run_bind_ok (Method.run_lift_ok _ w), Method.run_bind_ok hopen]
  have hfirst := (hturn session htree' hopen).trans (Method.run_bind_ok hupdate)
  have hrun₁ : Process.run zeroDigest (observeFrame zeroDigest) (homeWorld missingScript)
    [homeInput] =
      .running ⟨session.tree, lit "home", some database⟩ w₂ := by
    rw [Process.run, List.foldl_cons, List.foldl_nil, hrun, Process.feed, hfirst]
    rfl
  obtain ⟨session', w', hsecond, -⟩ :=
    hall zeroDigest i _ _ _ [] [] [] homeInput homeInput _ _ _ _ hboots rfl
    ⟨session, w, _, _, hrun, hfirst⟩ hsees hsees hrun₁
  have hreopen : (openDatabase zeroDigest ⟨session.tree, lit "home", some database⟩ (lit "home")).run w₂ =
      .ok database w₂ := rfl
  have hfails : (turn zeroDigest (observeFrame zeroDigest session.tree homeInput.1) homeInput.2.date
      ⟨session.tree, lit "home", some database⟩).run w₂ = .error e w₂ :=
    Eq.trans (hturn ⟨session.tree, lit "home", some database⟩ htree' hreopen)
      (Method.run_bind_error hthrows)
  cases hsecond.symm.trans hfails

end SnapDesk
