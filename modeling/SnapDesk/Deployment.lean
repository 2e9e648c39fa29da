import SnapDesk.Board
import SnapDesk.Program

/-! # The program at its device

`main.cpp` and `my_module.h` together.  A turn opens the device, reads it until `in_buffer`
has enough or a read returns nothing, and closes it.  Before, between and after these
accesses the drivers publish beacons, and other processes open, read and close the device.

Whatever they do, the program is the program of `Program.run` on the beacons that its opens
have found on the board, in full and one a turn (`sampled_of_run`); if no other process
opens the device, they are the latest ones (`sampled_latest_of_run`).  A turn that has
opened the device always comes to its end (`turn_ends`). -/
namespace SnapDesk
open Transition

/-! ### A file stream on the device -/

/-- The file stream of `in_buffer`: its handle, and what its reads have returned. -/
structure OpenFile where
  handle : Handle
  pieces : List (List UInt8)

/-- `in_buffer` asks for no more: its buffer is full, or a read has returned nothing. -/
def OpenFile.isDone (file : OpenFile) : Bool :=
  beaconFrameMaxLength ≤ file.pieces.flatten.length || file.pieces.getLast? = some []

/-- Reads that return nothing do not show in the buffer. -/
theorem fillFrom_replicate (count k : Nat) (chunk buffer : List UInt8) (byteRead : Nat) :
    fillFrom count ⟨chunk, List.replicate k []⟩ buffer byteRead =
      fillFrom count ⟨chunk, []⟩ buffer byteRead := by
  induction count generalizing chunk buffer byteRead with
  | zero => rfl
  | succ count ih =>
    cases chunk with
    | nil =>
      have hend : (⟨[], List.replicate k []⟩ : DeviceStream).get = none := by cases k <;> rfl
      rw [fillFrom, hend, fillFrom]
      rfl
    | cons c chunk => exact ih chunk (buffer.set byteRead c) (byteRead + 1)

/-- So a beacon may as well be read at once. -/
theorem fillFrom_whole (count k : Nat) (b buffer : List UInt8) :
    fillFrom count ⟨[], b :: List.replicate k []⟩ buffer 0 = fillFrom count ⟨[], [b]⟩ buffer 0 := by
  cases count with
  | zero => rfl
  | succ count =>
    cases b with
    | nil => rfl
    | cons c chunk => exact fillFrom_replicate count k chunk (buffer.set 0 c) 1

theorem inBuffer_whole (fileName : Str) (k : Nat) (b buffer : List UInt8) (bufferSize : Nat) :
    inBuffer fileName (some (b :: List.replicate k [])) buffer bufferSize =
      inBuffer fileName (some [b]) buffer bufferSize :=
  congrArg Except.ok (fillFrom_whole bufferSize k b buffer)

theorem glance_whole (digest : Str → Vector UInt8 32) (tree : Node) (k : Nat) (b : List UInt8) :
    glance digest tree (some (b :: List.replicate k [])) = glance digest tree (some [b]) := by
  have hread : Frame.updateRawData characterDeviceFile (some (b :: List.replicate k [])) =
      Frame.updateRawData characterDeviceFile (some [b]) := by
    funext f
    simp only [Frame.updateRawData, inBuffer_whole]
  rw [glance, hread]
  rfl

/-- A turn that reads it in pieces is the turn that reads it at once. -/
theorem Program.feed_whole (digest : Str → Vector UInt8 32) (p : Program) (k : Nat)
    (b : List UInt8) (time : LocalTime) (memory : List UInt8) :
    p.feed digest ⟨some (b :: List.replicate k []), time, memory⟩ =
      p.feed digest ⟨some [b], time, memory⟩ := by
  cases p with
  | running session desk w =>
    simp only [feed]
    rw [glance_whole]
  | restarting w terminal => rfl
  | undefined => rfl

/-! ### The program and the device -/

/-- The program, the device, and the file that a turn has open there. -/
structure Deployment where
  device : DeviceState
  program : Program
  file : Option OpenFile

/-- What happens: a call by anyone else; the open, a read and the close of a turn, with the
rest of this turn; and a turn that cannot open the device, or a new begin of `run`. -/
inductive DeployEvent where
  | called (c : DeviceCall)
  | opened (h : Handle)
  | read (h : Handle) (r : ReadResult)
  | turned (h : Handle) (time : LocalTime) (memory : List UInt8)
  | missed (time : LocalTime) (memory : List UInt8)

/-- The call is made through the handle. -/
def DeviceCall.isOn (h : Handle) : DeviceCall → Bool
  | .updateBeacon _ => false
  | .myOpen h' => h' = h
  | .myRead h' .. => h' = h
  | .myRelease h' => h' = h

namespace DeployEvent
variable (bufferSize : Nat)

/-- The call on the device. -/
def call? : DeployEvent → Option DeviceCall
  | called c => some c
  | opened h => some (.myOpen h)
  | read h r => some (.myRead h bufferSize r)
  | turned h .. => some (.myRelease h)
  | missed .. => none

/-- The calls on the device, in order. -/
def calls (events : List DeployEvent) : List DeviceCall := events.filterMap (call? bufferSize)

theorem calls_concat (events : List DeployEvent) (e : DeployEvent) :
    calls bufferSize (events ++ [e]) = calls bufferSize events ++ (e.call? bufferSize).toList := by
  rw [calls, List.filterMap_append, ← calls]
  cases e <;> rfl

end DeployEvent

namespace Deployment
section
variable (digest : Str → Vector UInt8 32) (bufferSize : Nat)

/-- One event.  The file stream asks for as many bytes as its own buffer holds. -/
inductive Step : Deployment → DeployEvent → Deployment → Prop
  | called {s : Deployment} {c : DeviceCall} {d : DeviceState}
      (hc : ∀ file, s.file = some file → c.isOn file.handle = false)
      (hd : DeviceState.Step s.device c d) :
      Step s (.called c) { s with device := d }
  | opened {s : Deployment} {session : Session} {desk : Desk} {w : World} {h : Handle}
      {d : DeviceState} (hp : s.program = .running session desk w) (hfile : s.file = none)
      (hd : DeviceState.Step s.device (.myOpen h) d) :
      Step s (.opened h) { s with device := d, file := some ⟨h, []⟩ }
  | read {s : Deployment} {file : OpenFile} {r : ReadResult} {d : DeviceState}
      (hfile : s.file = some file) (hmore : file.isDone = false)
      (hd : DeviceState.Step s.device (.myRead file.handle bufferSize r) d) :
      Step s (.read file.handle r)
        { s with device := d, file := some ⟨file.handle, file.pieces ++ [r.copied]⟩ }
  | turned {s : Deployment} {file : OpenFile} {d : DeviceState} {time : LocalTime}
      {memory : List UInt8} (hfile : s.file = some file) (hdone : file.isDone = true)
      (hd : DeviceState.Step s.device (.myRelease file.handle) d)
      (hmemory : memory.length = beaconFrameMaxLength) :
      Step s (.turned file.handle time memory)
        ⟨d, s.program.feed digest ⟨some file.pieces, time, memory⟩, none⟩
  | missed {s : Deployment} {time : LocalTime} {memory : List UInt8} (hfile : s.file = none)
      (hmemory : memory.length = beaconFrameMaxLength) :
      Step s (.missed time memory)
        { s with program := s.program.feed digest ⟨none, time, memory⟩ }

/-- The device after `my_init`, and the program at its start. -/
structure Initial (w : World) (memory : List UInt8) (s : Deployment) : Prop where
  device : s.device.Initial
  program : s.program = Program.run digest w memory []
  file : s.file = none

end
end Deployment

/-! ### What the turns sample -/

/-- The board, the beacon that the last open has found on it, and the turns so far. -/
structure Sampling where
  board : Board
  picked : List UInt8
  moments : List Moment

namespace Sampling

def start : Sampling := ⟨Board.blank, [], []⟩

def next (s : Sampling) : DeployEvent → Sampling
  | .called c => { s with board := s.board.call c }
  | .opened h =>
      { s with
        board := s.board.call (.myOpen h)
        picked := (s.board.call (.myOpen h)).shown }
  | .read .. => s
  | .turned h time memory =>
      ⟨s.board.call (.myRelease h), s.picked, s.moments ++ [⟨some [s.picked], time, memory⟩]⟩
  | .missed time memory => { s with moments := s.moments ++ [⟨none, time, memory⟩] }

/-- An open that always finds the latest beacon. -/
def nextLatest (s : Sampling) : DeployEvent → Sampling
  | .opened h => { s with board := s.board.call (.myOpen h), picked := s.board.latest }
  | e => s.next e

end Sampling

/-- The turns, each with the beacon on the board at its open. -/
def sampled (events : List DeployEvent) : List Moment :=
  (events.foldl Sampling.next Sampling.start).moments

/-- The turns, each with the latest beacon at its open. -/
def sampledLatest (events : List DeployEvent) : List Moment :=
  (events.foldl Sampling.nextLatest Sampling.start).moments

namespace Sampling

theorem next_board (bufferSize : Nat) (s : Sampling) (e : DeployEvent) :
    (s.next e).board = (e.call? bufferSize).toList.foldl Board.call s.board := by cases e <;> rfl

/-- The board has been through the calls. -/
theorem board_eq (bufferSize : Nat) (events : List DeployEvent) :
    (events.foldl next start).board = Board.after (DeployEvent.calls bufferSize events) := by
  induction events using List.reverseRecOn with
  | nil => rfl
  | append_singleton events e ih =>
    rw [List.foldl_concat, next_board bufferSize, DeployEvent.calls_concat, Board.after, List.foldl_append,
      ← Board.after, ih]

end Sampling

theorem sampled_concat (events : List DeployEvent) (e : DeployEvent) :
    sampled (events ++ [e]) = ((events.foldl Sampling.next Sampling.start).next e).moments := by
  rw [sampled, List.foldl_concat]

/-- While someone reads, what is shown stays. -/
theorem Board.call_shown {board : Board} {h : Handle} (hh : h ∈ board.readers) (c : DeviceCall) :
    (board.call c).shown = board.shown := by
  cases c with
  | myOpen x => rw [call, if_neg (Finset.ne_empty_of_mem hh)]
  | _ => rfl

/-- A beacon is sampled that was published before. -/
theorem mem_published_of_sampled (bufferSize : Nat) (events : List DeployEvent) :
    (events.foldl Sampling.next Sampling.start).picked ∈
        DeviceCall.published (DeployEvent.calls bufferSize events) ∧
      ∀ moment ∈ sampled events, moment.device = none ∨
        ∃ b ∈ DeviceCall.published (DeployEvent.calls bufferSize events),
          moment.device = some [b] := by
  induction events using List.reverseRecOn with
  | nil => exact ⟨List.mem_cons_self, nofun⟩
  | append_singleton events e ih =>
    obtain ⟨hpicked, hmoments⟩ := ih
    have hboard := Sampling.board_eq bufferSize events
    rw [sampled] at hmoments
    rw [sampled_concat, List.foldl_concat, DeployEvent.calls_concat]
    generalize events.foldl Sampling.next Sampling.start = a at *
    -- what was published before the event is published after it
    have hmore : ∀ b ∈ DeviceCall.published (DeployEvent.calls bufferSize events),
        b ∈ DeviceCall.published
          (DeployEvent.calls bufferSize events ++ (e.call? bufferSize).toList) := by
      intro b hb
      rw [DeviceCall.published, List.filterMap_append]
      exact List.mem_append_left _ hb
    have hbefore : ∀ moment ∈ a.moments, moment.device = none ∨
        ∃ b ∈ DeviceCall.published
            (DeployEvent.calls bufferSize events ++ (e.call? bufferSize).toList),
          moment.device = some [b] := by
      intro moment hm
      refine (hmoments moment hm).imp_right ?_
      rintro ⟨b, hb, hdevice⟩
      exact ⟨b, hmore b hb, hdevice⟩
    cases e with
    | called c => exact ⟨hmore _ hpicked, hbefore⟩
    | opened h =>
      refine ⟨?_, hbefore⟩
      have hmem := (Board.after_mem
        (DeployEvent.calls bufferSize events ++ [.myOpen h])).2
      rw [Board.after_concat, ← hboard] at hmem
      exact hmem
    | read h r => exact ⟨hmore _ hpicked, hbefore⟩
    | turned h time memory =>
      refine ⟨hmore _ hpicked, fun moment hm => ?_⟩
      rcases List.mem_append.mp hm with hm | hm
      · exact hbefore moment hm
      · obtain rfl := List.mem_singleton.mp hm
        exact .inr ⟨a.picked, hmore _ hpicked, rfl⟩
    | missed time memory =>
      refine ⟨hmore _ hpicked, fun moment hm => ?_⟩
      rcases List.mem_append.mp hm with hm | hm
      · exact hbefore moment hm
      · obtain rfl := List.mem_singleton.mp hm
        exact .inl rfl

/-! ### The program samples the board -/

namespace Deployment
variable {digest : Str → Vector UInt8 32} {bufferSize : Nat} {w : World} {memory : List UInt8}
  {calls : List DeviceCall} {s t : Deployment} {a : Sampling}

/-- What a file has read of a beacon: nothing yet, or all of it at once and nothing since. -/
structure Reads (b : List UInt8) (file : OpenFile) (d : DeviceState) : Prop where
  live : file.handle ∈ d.live
  pieces : file.pieces = [] ∧ d.offset file.handle = 0 ∨
    ∃ k, file.pieces = b :: List.replicate k [] ∧ d.offset file.handle = b.length

/-- **The simulation relation**: the device is the board, and the program has come from the
turns so far; a file that is open reads what the last open has found. -/
structure Follows (digest : Str → Vector UInt8 32) (w : World) (memory : List UInt8)
    (calls : List DeviceCall) (s : Deployment) (a : Sampling) : Prop where
  shows : a.board.Shows calls s.device
  program : s.program = Program.run digest w memory a.moments
  file : ∀ file, s.file = some file → a.picked = a.board.shown ∧ Reads a.picked file s.device

theorem Initial.follows (h : s.Initial digest w memory) :
    Follows digest w memory [] s Sampling.start where
  shows := Board.shows_blank h.device
  program := h.program
  file := fun file hfile => by rw [h.file] at hfile; cases hfile

/-- A call of another process leaves an open file alone. -/
theorem Reads.of_step {b : List UInt8} {file : OpenFile} {d d' : DeviceState} {c : DeviceCall}
    (h : Reads b file d) (hc : c.isOn file.handle = false) (hd : DeviceState.Step d c d') :
    Reads b file d' := by
  have hkeeps : file.handle ∈ d'.live ∧ d'.offset file.handle = d.offset file.handle := by
    cases hd with
    | updateBeacon _ _ => exact ⟨h.live, rfl⟩
    | @myOpen x _ hx _ =>
      have hne : file.handle ≠ x := fun he => hx (he ▸ h.live)
      exact ⟨Finset.mem_insert_of_mem h.live, Function.update_of_ne hne _ _⟩
    | @myRead x _ _ hx _ =>
      have hne : file.handle ≠ x := fun he => of_decide_eq_false hc he.symm
      exact ⟨h.live, Function.update_of_ne hne _ _⟩
    | @myRelease x hx =>
      have hne : file.handle ≠ x := fun he => of_decide_eq_false hc he.symm
      exact ⟨Finset.mem_erase_of_ne_of_mem hne h.live, rfl⟩
  exact ⟨hkeeps.1, by rw [hkeeps.2]; exact h.pieces⟩

/-- A read of the file itself. -/
theorem Reads.read {board : Board} {file : OpenFile} {d d' : DeviceState} {r : ReadResult}
    (h : Reads board.shown file d) (hshows : board.Shows calls d)
    (hbuffer : beaconMaxSize ≤ bufferSize)
    (hd : DeviceState.Step d (.myRead file.handle bufferSize r) d') :
    Reads board.shown ⟨file.handle, file.pieces ++ [r.copied]⟩ d' := by
  cases hd with
  | myRead hx hr =>
    have hsmall := hshows.shown_length
    refine ⟨hx, .inr ?_⟩
    show ∃ k, _ ∧ Function.update d.offset file.handle r.offset file.handle = _
    rw [Function.update_self]
    rcases h.pieces with ⟨hnil, h0⟩ | ⟨k, hpieces, hend⟩
    · -- the first read takes the whole beacon
      rw [hshows.myRead hx, h0, Nat.sub_zero, Nat.min_eq_left (by omega), List.take_length,
        Nat.zero_add] at hr
      cases hr
      exact ⟨0, by rw [hnil]; rfl, rfl⟩
    · -- later ones find the offset at its end
      rw [hshows.myRead hx, hend, Nat.sub_self, Nat.zero_min, List.take_zero, Nat.add_zero] at hr
      cases hr
      exact ⟨k + 1, by rw [hpieces, List.replicate_succ']; rfl, rfl⟩

/-- A file that is done has read its beacon. -/
theorem Reads.of_isDone {b : List UInt8} {file : OpenFile} {d : DeviceState}
    (h : Reads b file d) (hdone : file.isDone = true) :
    ∃ k, file.pieces = b :: List.replicate k [] := by
  rcases h.pieces with ⟨hnil, -⟩ | ⟨k, hpieces, -⟩
  · rw [OpenFile.isDone, hnil] at hdone
    exact absurd hdone (by decide)
  · exact ⟨k, hpieces⟩

/-- **One event.** -/
theorem Follows.step (h : Follows digest w memory calls s a) (hbuffer : beaconMaxSize ≤ bufferSize)
    {e : DeployEvent} (hstep : Step digest bufferSize s e t) :
    Follows digest w memory (calls ++ (e.call? bufferSize).toList) t (a.next e) := by
  cases hstep with
  | called hc hd =>
    refine ⟨h.shows.step hd, h.program, fun file hfile => ?_⟩
    obtain ⟨hpicked, hreads⟩ := h.file file hfile
    have hreader : file.handle ∈ a.board.readers := by
      rw [h.shows.readers]
      exact hreads.live
    exact ⟨hpicked.trans (Board.call_shown hreader _).symm, hreads.of_step (hc file hfile) hd⟩
  | opened hp hfile hd =>
    refine ⟨h.shows.step hd, h.program, fun file hfile' => ?_⟩
    cases hfile'
    cases hd with
    | myOpen _ _ =>
      exact ⟨rfl, Finset.mem_insert_self _ _, .inl ⟨rfl, Function.update_self ..⟩⟩
  | read hfile hmore hd =>
    refine ⟨h.shows.step hd, h.program, fun file hfile' => ?_⟩
    cases hfile'
    obtain ⟨hpicked, hreads⟩ := h.file _ hfile
    refine ⟨hpicked, ?_⟩
    show Reads a.picked _ _
    rw [hpicked] at hreads ⊢
    exact hreads.read h.shows hbuffer hd
  | turned hfile hdone hd hmemory =>
    refine ⟨h.shows.step hd, ?_, fun file hfile' => by cases hfile'⟩
    obtain ⟨k, hpieces⟩ := (h.file _ hfile).2.of_isDone hdone
    show s.program.feed digest _ = Program.run digest w memory (a.moments ++ [_])
    rw [hpieces, Program.feed_whole, Program.run_concat, h.program]
  | @missed time memory' hfile hmemory =>
    refine ⟨?_, ?_, fun file hfile' => ?_⟩
    · show a.board.Shows (calls ++ []) s.device
      rw [List.append_nil]
      exact h.shows
    · show s.program.feed digest ⟨none, time, memory'⟩ =
        Program.run digest w memory (a.moments ++ [⟨none, time, memory'⟩])
      rw [Program.run_concat, h.program]
    · have hnone : s.file = some file := hfile'
      rw [hfile] at hnone
      cases hnone

/-- The relation holds in every state that a run reaches. -/
theorem follows_of_run (hs : s.Initial digest w memory) (hbuffer : beaconMaxSize ≤ bufferSize)
    {events : List DeployEvent} (hrun : Run (Step digest bufferSize) s events t) :
    Follows digest w memory (DeployEvent.calls bufferSize events) t
      (events.foldl Sampling.next Sampling.start) := by
  refine Run.history (I := fun events t => Follows digest w memory
    (DeployEvent.calls bufferSize events) t (events.foldl Sampling.next Sampling.start))
    hs.follows ?_ hrun
  intro events t e u _ h hstep
  rw [DeployEvent.calls_concat, List.foldl_concat]
  exact h.step hbuffer hstep

/-- What happens to the device is a run of it. -/
theorem device_of_run {events : List DeployEvent} (hrun : Run (Step digest bufferSize) s events t) :
    Run DeviceState.Step s.device (DeployEvent.calls bufferSize events) t.device := by
  refine Run.history (I := fun events t => Run DeviceState.Step s.device
    (DeployEvent.calls bufferSize events) t.device) (.nil _) ?_ hrun
  intro events u e v _ h hstep
  rw [DeployEvent.calls_concat]
  refine h.append ?_
  cases hstep with
  | called _ hd => exact (Run.nil _).snoc hd
  | opened _ _ hd => exact (Run.nil _).snoc hd
  | read _ _ hd => exact (Run.nil _).snoc hd
  | turned _ _ hd _ => exact (Run.nil _).snoc hd
  | missed _ _ => exact .nil _

/-- The memory of a frame has its size. -/
theorem length_memory_of_run {events : List DeployEvent}
    (hrun : Run (Step digest bufferSize) s events t) :
    ∀ moment ∈ sampled events, moment.memory.length = beaconFrameMaxLength := by
  refine Run.history (I := fun events _ => ∀ moment ∈ sampled events,
    moment.memory.length = beaconFrameMaxLength) (fun _ h => absurd h List.not_mem_nil) ?_ hrun
  intro events t e u _ h hstep
  rw [sampled_concat]
  cases hstep with
  | turned _ _ _ hmemory =>
    exact List.forall_mem_append.mpr ⟨h, List.forall_mem_singleton.mpr hmemory⟩
  | missed _ hmemory => exact List.forall_mem_append.mpr ⟨h, List.forall_mem_singleton.mpr hmemory⟩
  | _ => exact h

/-! ### A turn ends -/

/-- The turn can close a file that is done. -/
theorem Follows.turned (h : Follows digest w memory calls s a) {file : OpenFile}
    (hfile : s.file = some file) (hdone : file.isDone = true) (time : LocalTime)
    {memory' : List UInt8} (hmemory : memory'.length = beaconFrameMaxLength) :
    ∃ t, Step digest bufferSize s (.turned file.handle time memory') t := by
  obtain ⟨-, hreads⟩ := h.file file hfile
  obtain ⟨d, hd⟩ := h.shows.invariant.enabled.2.2.2 file.handle hreads.live
  exact ⟨_, .turned hfile hdone hd hmemory⟩

/-- The turn can read a file that is not. -/
theorem Follows.read (h : Follows digest w memory calls s a) {file : OpenFile}
    (hfile : s.file = some file) (hmore : file.isDone = false) :
    ∃ r t, Step digest bufferSize s (.read file.handle r) t ∧
      t.file = some ⟨file.handle, file.pieces ++ [r.copied]⟩ := by
  obtain ⟨-, hreads⟩ := h.file file hfile
  obtain ⟨r, d, hd⟩ := h.shows.invariant.enabled.2.2.1 file.handle hreads.live bufferSize
  exact ⟨r, _, .read hfile hmore hd, rfl⟩

/-- After two reads it is done: the second has returned nothing. -/
theorem Reads.isDone {b : List UInt8} {file : OpenFile} {d : DeviceState} (h : Reads b file d)
    (htwo : 2 ≤ file.pieces.length) : file.isDone = true := by
  rcases h.pieces with ⟨hnil, -⟩ | ⟨k, hpieces, -⟩
  · rw [hnil] at htwo
    exact absurd htwo (by decide)
  · rw [hpieces, List.length_cons, List.length_replicate] at htwo
    obtain ⟨k, rfl⟩ : ∃ j, k = j + 1 := ⟨k - 1, by omega⟩
    have hlast : file.pieces.getLast? = some [] := by
      rw [hpieces, List.replicate_succ', ← List.cons_append, List.getLast?_concat]
    rw [OpenFile.isDone, hlast, decide_eq_true rfl, Bool.or_true]

/-- **A turn that has opened the device ends** after at most two reads and the close. -/
theorem Follows.ends (h : Follows digest w memory calls s a) (hbuffer : beaconMaxSize ≤ bufferSize)
    {file : OpenFile} (hfile : s.file = some file) (time : LocalTime) {memory' : List UInt8}
    (hmemory : memory'.length = beaconFrameMaxLength) :
    ∃ (rs : List ReadResult) (t : Deployment), rs.length ≤ 2 - file.pieces.length ∧
      Run (Step digest bufferSize) s
        (rs.map (DeployEvent.read file.handle) ++ [.turned file.handle time memory']) t := by
  -- the reads that are left, one after the other
  induction hleft : 2 - file.pieces.length generalizing s calls file with
  | zero =>
    have hdone := (h.file file hfile).2.isDone (by omega)
    obtain ⟨t, hstep⟩ : ∃ t, Step digest bufferSize s _ t := h.turned hfile hdone time hmemory
    exact ⟨[], t, Nat.le_refl _, (Run.nil s).snoc hstep⟩
  | succ left ih =>
    by_cases hdone : file.isDone = true
    · obtain ⟨t, hstep⟩ : ∃ t, Step digest bufferSize s _ t := h.turned hfile hdone time hmemory
      exact ⟨[], t, Nat.zero_le _, (Run.nil s).snoc hstep⟩
    · obtain ⟨r, u, hstep, hu⟩ : ∃ r u, Step digest bufferSize s (.read file.handle r) u ∧
          u.file = some ⟨file.handle, file.pieces ++ [r.copied]⟩ :=
        h.read hfile (Bool.eq_false_iff.mpr hdone)
      have hless : 2 - (file.pieces ++ [r.copied]).length = left := by
        rw [List.length_append, List.length_singleton]
        omega
      obtain ⟨rs, t, hlen, hrun⟩ := ih (h.step hbuffer hstep) hu hless
      exact ⟨r :: rs, t, Nat.succ_le_succ hlen, Run.cons_iff.mpr ⟨u, hstep, hrun⟩⟩

/-! ### A reader alone -/

/-- The program's file is the only one on the device. -/
def Alone (s : Deployment) : Prop :=
  s.device.live = s.file.elim ∅ fun file => {file.handle}

theorem Alone.step {e : DeployEvent} (h : s.Alone) (he : ∀ x, e ≠ .called (.myOpen x))
    (hstep : Step digest bufferSize s e t) : t.Alone := by
  cases hstep with
  | @called c d hc hd =>
    have hlive : d.live = s.device.live := by
      cases hd with
      | updateBeacon _ _ => rfl
      | @myOpen x _ _ _ => exact absurd rfl (he x)
      | myRead _ _ => rfl
      | @myRelease x hx =>
        -- only the program could release its handle
        rw [h] at hx
        cases hfile : s.file with
        | none =>
          rw [hfile] at hx
          exact absurd hx (Finset.notMem_empty x)
        | some file =>
          rw [hfile] at hx
          have hsame : x = file.handle := Finset.mem_singleton.mp hx
          exact absurd hsame (of_decide_eq_false (hc file hfile))
    exact hlive.trans h
  | @opened _ _ _ x _ hp hfile hd =>
    have hnone : s.device.live = ∅ := by rw [h, hfile, Option.elim_none]
    cases hd with
    | myOpen _ _ =>
      show insert x s.device.live = {x}
      rw [hnone, insert_empty_eq]
  | read hfile hmore hd =>
    rw [Alone, hfile] at h
    cases hd with
    | myRead _ _ => exact h
  | @turned file _ _ _ hfile hdone hd hmemory =>
    have hone : s.device.live = {file.handle} := by rw [h, hfile, Option.elim_some]
    cases hd with
    | myRelease _ =>
      show s.device.live.erase file.handle = ∅
      rw [hone, Finset.erase_singleton]
  | missed hfile hmemory => exact h

/-- An open then finds the latest beacon. -/
theorem Follows.next_latest (h : Follows digest w memory calls s a) (halone : s.Alone)
    {e : DeployEvent} (hstep : Step digest bufferSize s e t) : a.next e = a.nextLatest e := by
  cases hstep with
  | @opened _ _ _ x _ hp hfile hd =>
    have hnone : a.board.readers = ∅ := by
      rw [h.shows.readers, halone, hfile, Option.elim_none]
    have hshown : (a.board.call (.myOpen x)).shown = a.board.latest := by
      rw [Board.call, if_pos hnone]
    rw [Sampling.next, Sampling.nextLatest, hshown]
  | _ => rfl

/-! ### Whole runs -/

/-- **The program works on what its turns sample**: whatever others do with the device at the
same time, every turn that can open it gets one published beacon in full, the one that the
board shows at the open. -/
theorem sampled_of_run (hs : s.Initial digest w memory) (hbuffer : beaconMaxSize ≤ bufferSize)
    {events : List DeployEvent} (hrun : Run (Step digest bufferSize) s events t) :
    t.program = Program.run digest w memory (sampled events) ∧
      ∀ moment ∈ sampled events, moment.device = none ∨
        ∃ b ∈ DeviceCall.published (DeployEvent.calls bufferSize events),
          moment.device = some [b] :=
  ⟨(follows_of_run hs hbuffer hrun).program, (mem_published_of_sampled bufferSize events).2⟩

/-- The device after `my_init`, and the program at its start in a home folder. -/
def boot : Deployment where
  device := DeviceState.boot
  program := Program.run zeroDigest (homeWorld ssidScript) Frame.zeroMemory []
  file := none

theorem boot_initial : boot.Initial zeroDigest (homeWorld ssidScript) Frame.zeroMemory where
  device := DeviceState.boot_initial
  program := rfl
  file := rfl

theorem boot_running : ∃ session desk w, boot.program = .running session desk w := by
  have hboots : Boots zeroDigest _ _ _ _ := (startsEmpty_homeWorld compiled_ssidScript).boots
  obtain ⟨session, w, hrun, -⟩ := boot_refines hboots
  have hmemory : Frame.zeroMemory.length = beaconFrameMaxLength := List.length_replicate
  have hmatches := matches_resume hmemory (homeWorld ssidScript) [] not_false
  have hprocess : boot.program.process = .running session w := hmatches.process.trans hrun
  cases hprogram : boot.program with
  | running session desk w => exact ⟨session, desk, w, rfl⟩
  | restarting w terminal => rw [hprogram] at hprocess; cases hprocess
  | undefined => rw [hprogram] at hprocess; cases hprocess

/-- A beacon, and a turn. -/
def turnEvents (b : List UInt8) (rs : List ReadResult) : List DeployEvent :=
  [.called (.updateBeacon b), .opened 0] ++
    (rs.map (DeployEvent.read 0) ++ [.turned 0 someTime Frame.zeroMemory])

theorem boot_opened {b : List UInt8} (hb : b.length ≤ beaconMaxSize) :
    ∃ t, Run (Step zeroDigest 8191) boot [.called (.updateBeacon b), .opened 0] t ∧
      t.file = some ⟨0, []⟩ := by
  obtain ⟨session, desk, w, hp⟩ := boot_running
  have hinv := DeviceState.boot_initial.invariant
  obtain ⟨d, hd⟩ := hinv.enabled.1 b hb
  have hlive : (0 : Handle) ∉ d.live := by
    cases hd with
    | updateBeacon _ _ => exact Finset.notMem_empty 0
  obtain ⟨d', hd'⟩ := (hinv.step hd).enabled.2.1 0 hlive
  have hcalled : Step zeroDigest 8191 boot (.called (.updateBeacon b)) ⟨d, boot.program, none⟩ :=
    .called (fun _ h => by cases h) hd
  have hopened : Step zeroDigest 8191 ⟨d, boot.program, none⟩ (.opened 0)
      ⟨d', boot.program, some ⟨0, []⟩⟩ := .opened hp rfl hd'
  exact ⟨_, ((Run.nil boot).snoc hcalled).snoc hopened, rfl⟩

theorem boot_run {b : List UInt8} (hb : b.length ≤ beaconMaxSize) :
    ∃ (rs : List ReadResult) (t : Deployment),
      Run (Step zeroDigest 8191) boot (turnEvents b rs) t := by
  obtain ⟨u, hrun, hfile⟩ := boot_opened hb
  have hbuffer : beaconMaxSize ≤ 8191 := by decide
  have hmemory : Frame.zeroMemory.length = beaconFrameMaxLength := List.length_replicate
  obtain ⟨rs, t, -, hends⟩ :=
    (follows_of_run boot_initial hbuffer hrun).ends hbuffer hfile someTime hmemory
  exact ⟨rs, t, hrun.append hends⟩

theorem foldl_reads (a : Sampling) (h : Handle) (rs : List ReadResult) :
    (rs.map (DeployEvent.read h)).foldl Sampling.next a = a := by
  induction rs with
  | nil => rfl
  | cons r rs ih => exact ih

theorem sampled_turnEvents (b : List UInt8) (rs : List ReadResult) :
    sampled (turnEvents b rs) = [⟨some [b], someTime, Frame.zeroMemory⟩] := by
  rw [sampled, turnEvents, List.foldl_append, List.foldl_append, foldl_reads]
  rfl

theorem calls_turnEvents (bufferSize : Nat) (b : List UInt8) (rs : List ReadResult) :
    DeployEvent.calls bufferSize (turnEvents b rs) = .updateBeacon b :: .myOpen 0 ::
      (rs.map (DeviceCall.myRead 0 bufferSize) ++ [.myRelease 0]) := by
  have hreads : DeployEvent.calls bufferSize
      (rs.map (DeployEvent.read 0) ++ [.turned 0 someTime Frame.zeroMemory]) =
        rs.map (DeviceCall.myRead 0 bufferSize) ++ [.myRelease 0] := by
    induction rs with
    | nil => rfl
    | cons r rs ih => exact congrArg (DeviceCall.myRead 0 bufferSize r :: ·) ih
  exact congrArg (fun calls => DeviceCall.updateBeacon b :: .myOpen 0 :: calls) hreads

theorem published_turnEvents (bufferSize : Nat) (b : List UInt8) (rs : List ReadResult) :
    DeviceCall.published (DeployEvent.calls bufferSize (turnEvents b rs)) = [[], b] := by
  have hreads : DeviceCall.published
      (rs.map (DeviceCall.myRead 0 bufferSize) ++ [.myRelease 0]) = [[]] := by
    induction rs with
    | nil => rfl
    | cons r rs ih => exact ih
  rw [calls_turnEvents]
  exact congrArg (fun beacons => [] :: b :: beacons.tail) hreads

/-- One turn on a beacon of two bytes. -/
theorem sampled_of_run_boot : ∃ (rs : List ReadResult) (t : Deployment),
    Run (Step zeroDigest 8191) boot (turnEvents [1, 2] rs) t ∧
      t.program = Program.run zeroDigest (homeWorld ssidScript) Frame.zeroMemory
        [⟨some [[1, 2]], someTime, Frame.zeroMemory⟩] := by
  have hb : ([1, 2] : List UInt8).length ≤ beaconMaxSize := by decide
  obtain ⟨rs, t, hrun⟩ := boot_run hb
  have hsampled := (sampled_of_run boot_initial (by decide) hrun).1
  rw [sampled_turnEvents] at hsampled
  exact ⟨rs, t, hrun, hsampled⟩

/-- **A program alone with its device gets the latest beacon** in every turn. -/
theorem sampled_latest_of_run (hs : s.Initial digest w memory)
    (hbuffer : beaconMaxSize ≤ bufferSize) {events : List DeployEvent}
    (hrun : Run (Step digest bufferSize) s events t)
    (halone : ∀ x, .called (.myOpen x) ∉ events) :
    t.program = Program.run digest w memory (sampledLatest events) := by
  have hsame : (∀ x, .called (.myOpen x) ∉ events) → t.Alone ∧
      events.foldl Sampling.next Sampling.start =
        events.foldl Sampling.nextLatest Sampling.start := by
    refine Run.history (I := fun events t => (∀ x, .called (.myOpen x) ∉ events) → t.Alone ∧
      events.foldl Sampling.next Sampling.start =
        events.foldl Sampling.nextLatest Sampling.start) ?_ ?_ hrun
    · intro _
      refine ⟨?_, rfl⟩
      rw [Alone, hs.file, hs.device.live]
      rfl
    · intro events u e v hbefore ih hstep hnone
      obtain ⟨hu, heq⟩ := ih fun x hx => hnone x (List.mem_append_left _ hx)
      have hother : ∀ x, e ≠ .called (.myOpen x) := fun x he =>
        hnone x (he ▸ List.mem_append_right _ List.mem_cons_self)
      refine ⟨hu.step hother hstep, ?_⟩
      rw [List.foldl_concat, List.foldl_concat, ← heq,
        (follows_of_run hs hbuffer hbefore).next_latest hu hstep]
  rw [(follows_of_run hs hbuffer hrun).program, (hsame halone).2]
  rfl

/-- That turn, again. -/
theorem sampled_latest_of_run_boot : ∃ (rs : List ReadResult) (t : Deployment),
    Run (Step zeroDigest 8191) boot (turnEvents [1, 2] rs) t ∧
      t.program = Program.run zeroDigest (homeWorld ssidScript) Frame.zeroMemory
        (sampledLatest (turnEvents [1, 2] rs)) := by
  have hb : ([1, 2] : List UInt8).length ≤ beaconMaxSize := by decide
  obtain ⟨rs, t, hrun⟩ := boot_run hb
  refine ⟨rs, t, hrun, sampled_latest_of_run boot_initial (by decide) hrun fun x hx => ?_⟩
  simp [turnEvents] at hx

/-- **No turn stays in its reads**: in every state that is reached with the device open, two
reads at most and the close lead the program through its turn. -/
theorem turn_ends (hs : s.Initial digest w memory) (hbuffer : beaconMaxSize ≤ bufferSize)
    {events : List DeployEvent} (hrun : Run (Step digest bufferSize) s events t)
    {file : OpenFile} (hfile : t.file = some file) (time : LocalTime) {memory' : List UInt8}
    (hmemory : memory'.length = beaconFrameMaxLength) :
    ∃ (rs : List ReadResult) (u : Deployment), rs.length ≤ 2 ∧
      Run (Step digest bufferSize) t
        (rs.map (DeployEvent.read file.handle) ++ [.turned file.handle time memory']) u := by
  obtain ⟨rs, u, hlen, hends⟩ := (follows_of_run hs hbuffer hrun).ends hbuffer hfile time hmemory
  exact ⟨rs, u, by omega, hends⟩

/-- A turn that has just opened the device. -/
theorem turn_ends_boot : ∃ (t : Deployment) (rs : List ReadResult) (u : Deployment),
    t.file = some ⟨0, []⟩ ∧ rs.length ≤ 2 ∧ Run (Step zeroDigest 8191) t
      (rs.map (DeployEvent.read 0) ++ [.turned 0 someTime Frame.zeroMemory]) u := by
  have hb : ([1, 2] : List UInt8).length ≤ beaconMaxSize := by decide
  obtain ⟨t, hrun, hfile⟩ := boot_opened hb
  obtain ⟨rs, u, hlen, hends⟩ :=
    turn_ends boot_initial (by decide) hrun hfile someTime List.length_replicate
  exact ⟨t, rs, u, hfile, hlen, hends⟩

end Deployment
end SnapDesk
