import SnapDesk.DeviceRuns

/-! # The device as a board

What the two arrays and the counter of `my_module.h` are for, without them: the drivers put
beacons up on a board, and the first of the processes that read it at the same time takes
down the latest one, which they all read then.  Every run of the device is one of the board
(`shows_of_run`), so that what a process finds at its open is a beacon in full, the latest
one if nobody reads the device then. -/
namespace SnapDesk
open Transition

/-- The latest beacon, the one that is shown to whoever reads the device, and these. -/
structure Board where
  latest : List UInt8
  shown : List UInt8
  readers : Finset Handle

namespace Board
open DeviceCall SnapDesk.Module

/-- Before any call. -/
def blank : Board := ⟨[], [], ∅⟩

/-- What a call does to the board. -/
def call (board : Board) : DeviceCall → Board
  | .updateBeacon b => { board with latest := b }
  | .myOpen h =>
      { board with
        shown := if board.readers = ∅ then board.latest else board.shown
        readers := insert h board.readers }
  | .myRead .. => board
  | .myRelease h => { board with readers := board.readers.erase h }

/-- The board after a list of calls. -/
def after (calls : List DeviceCall) : Board := calls.foldl call blank

theorem after_concat (calls : List DeviceCall) (c : DeviceCall) :
    after (calls ++ [c]) = (after calls).call c := List.foldl_concat ..

/-- What is on the board has been published. -/
theorem after_mem (calls : List DeviceCall) :
    (after calls).latest ∈ published calls ∧ (after calls).shown ∈ published calls := by
  induction calls using List.reverseRecOn with
  | nil => exact ⟨List.mem_cons_self, List.mem_cons_self⟩
  | append_singleton calls c ih =>
    obtain ⟨hlatest, hshown⟩ := ih
    have hlatest' := mem_published_snoc hlatest c
    have hshown' := mem_published_snoc hshown c
    rw [after_concat]
    cases c with
    | updateBeacon b => exact ⟨mem_published_update b calls, hshown'⟩
    | myOpen h =>
      refine ⟨hlatest', ?_⟩
      rw [call]
      split
      · exact hlatest'
      · exact hshown'
    | myRead h bufferSize r => exact ⟨hlatest', hshown'⟩
    | myRelease h => exact ⟨hlatest', hshown'⟩

/-- **The device after some calls is this board.** -/
structure Shows (board : Board) (calls : List DeviceCall) (s : DeviceState) : Prop where
  invariant : DeviceState.Invariant calls s
  readers : board.readers = s.live
  latest_length : board.latest.length ≤ beaconMaxSize
  latest : s.module.Published board.latest
  shown_length : board.shown.length ≤ beaconMaxSize
  shown : s.live.Nonempty → s.module.Loaded board.shown

section
variable {board : Board} {calls : List DeviceCall} {s t : DeviceState}

theorem shows_blank (h : s.Initial) : blank.Shows [] s where
  invariant := h.invariant
  readers := h.live.symm
  latest_length := Nat.zero_le _
  latest := ⟨h.frameSize, List.nil_prefix⟩
  shown_length := Nat.zero_le _
  shown := fun hl => by rw [h.live] at hl; exact absurd hl Finset.not_nonempty_empty

/-- A call that does not publish leaves the published beacon. -/
theorem Shows.latest_of_eq (h : board.Shows calls s) (hbuffer : t.module.buffer = s.module.buffer)
    (hsize : t.module.frameSize = s.module.frameSize) : t.module.Published board.latest := by
  rw [Published, hbuffer, hsize]
  exact h.latest

/-- What is shown stays as long as someone reads. -/
theorem Shows.shown_of_step (h : board.Shows calls s) (hlive : s.live.Nonempty) {c : DeviceCall}
    (hstep : DeviceState.Step s c t) : t.module.Loaded board.shown := by
  obtain ⟨hframe, hsize⟩ := DeviceState.container_of_step h.invariant hlive hstep
  rw [Loaded, hframe, hsize]
  exact h.shown hlive

/-- **One call.** -/
theorem Shows.step (h : board.Shows calls s) {c : DeviceCall} (hstep : DeviceState.Step s c t) :
    (board.call c).Shows (calls ++ [c]) t := by
  have hinv := h.invariant.step hstep
  have hshown := fun hlive => h.shown_of_step hlive hstep
  cases hstep with
  | @updateBeacon b m hb hm =>
    rw [updateBeacon_ok h.invariant.sound.buffer_length hb] at hm
    cases hm
    exact ⟨hinv, h.readers, hb, ⟨rfl, List.prefix_append _ _⟩, h.shown_length, hshown⟩
  | @myOpen x m hx hm =>
    rcases Finset.eq_empty_or_nonempty s.live with hempty | hlive
    · -- the first to read takes the latest beacon
      have hcount : s.module.container.openCount = 0 := by
        rw [h.invariant.openCount, hempty, Finset.card_empty]
      have hnone : board.readers = ∅ := h.readers.trans hempty
      rw [myOpen_first h.invariant.sound hcount, h.latest.take_eq] at hm
      cases hm
      rw [call, if_pos hnone]
      exact ⟨hinv, congrArg (insert x) h.readers, h.latest_length, h.latest, h.latest_length,
        fun _ => ⟨h.latest.1, List.prefix_append _ _⟩⟩
    · have hcount : 1 ≤ s.module.container.openCount := by
        rw [h.invariant.openCount]
        exact Finset.card_pos.mpr hlive
      have hsome : board.readers ≠ ∅ := by
        rw [h.readers]
        exact hlive.ne_empty
      rw [myOpen_later hcount] at hm
      cases hm
      rw [call, if_neg hsome]
      exact ⟨hinv, congrArg (insert x) h.readers, h.latest_length, h.latest_of_eq rfl rfl,
        h.shown_length, fun _ => hshown hlive⟩
  | myRead hx hr =>
    exact ⟨hinv, h.readers, h.latest_length, h.latest, h.shown_length, hshown⟩
  | @myRelease x hx =>
    exact ⟨hinv, congrArg (Finset.erase · x) h.readers, h.latest_length, h.latest_of_eq rfl rfl,
      h.shown_length, fun _ => hshown ⟨x, hx⟩⟩

/-- **The device is its board**, in every state that a run reaches. -/
theorem shows_of_run (hs : s.Initial) (hrun : Run DeviceState.Step s calls t) :
    (after calls).Shows calls t := by
  refine Run.history (I := fun calls t => (after calls).Shows calls t) (shows_blank hs) ?_ hrun
  intro calls t c u _ h hstep
  rw [after_concat]
  exact h.step hstep

/-- What a read on the board returns: the rest of what is shown. -/
theorem Shows.myRead (h : board.Shows calls s) {x : Handle} (hx : x ∈ s.live) {bufferSize : Nat} :
    s.module.myRead bufferSize (s.offset x) =
      .ok ⟨(min (board.shown.length - s.offset x) bufferSize : Nat),
        board.shown.take (min (board.shown.length - s.offset x) bufferSize),
        s.offset x + min (board.shown.length - s.offset x) bufferSize⟩ := by
  have hload := h.shown ⟨x, hx⟩
  have hle := h.invariant.offset_le x hx
  rw [hload.1] at hle
  exact myRead_ok hload h.shown_length hle bufferSize

end
end Board
end SnapDesk
