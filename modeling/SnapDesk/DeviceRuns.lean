import Mathlib.Algebra.GroupWithZero.Nat
import Mathlib.Data.Fintype.Card
import SnapDesk.Device
import SnapDesk.Frame
import SnapDesk.Transition

/-! # Runs of the beacon device

Any number of processes use the device while the driver publishes beacons, one
call after the other in any order.  A handle is a `struct file *`, a 64-bit
address that is not null, and an open makes a handle that is not live.

The invariant of a run speaks of the beacons published so far (`Invariant`): the
counter counts the live handles, the global buffer holds the last of these
beacons, and while a handle is live the container holds one of them. -/
namespace SnapDesk

/-- The addresses that a `struct file *` can have, counted from the first one
that is not null. -/
abbrev Handle := Fin (2 ^ 64 - 1)

instance neZero_handles : NeZero (2 ^ 64 - 1) := ⟨by decide⟩

structure DeviceState where
  module : Module
  live : Finset Handle
  offset : Handle → Nat

/-- A call, with what `my_read` was asked and returned. -/
inductive DeviceCall where
  | updateBeacon (b : List UInt8)
  | myOpen (h : Handle)
  | myRead (h : Handle) (bufferSize : Nat) (r : ReadResult)
  | myRelease (h : Handle)

namespace DeviceCall

/-- The beacons published by a sequence of calls, the initial empty frame first. -/
def published (calls : List DeviceCall) : List (List UInt8) :=
  [] :: calls.filterMap fun
    | updateBeacon b => some b
    | _ => none

/-- What the reads on a handle have copied, in order. -/
def copiedTo (h : Handle) (calls : List DeviceCall) : List (List UInt8) :=
  calls.filterMap fun
    | myRead h' _ r => if h' = h then some r.copied else none
    | _ => none

/-- What the reads on a handle have asked for, in order. -/
def askedOn (h : Handle) (calls : List DeviceCall) : List Nat :=
  calls.filterMap fun
    | myRead h' bufferSize _ => if h' = h then some bufferSize else none
    | _ => none

theorem mem_published_snoc {b : List UInt8} {calls : List DeviceCall} (hb : b ∈ published calls)
    (c : DeviceCall) : b ∈ published (calls ++ [c]) := by
  rw [published, List.filterMap_append]
  exact List.mem_append_left _ hb

theorem mem_published_update (b : List UInt8) (calls : List DeviceCall) :
    b ∈ published (calls ++ [updateBeacon b]) := by
  rw [published, List.filterMap_append]
  exact List.mem_cons_of_mem _ (List.mem_append_right _ List.mem_cons_self)

end DeviceCall

namespace DeviceState
open DeviceCall SnapDesk.Module

/-- One call. -/
inductive Step : DeviceState → DeviceCall → DeviceState → Prop
  | updateBeacon {s : DeviceState} {b : List UInt8} {m : Module} (hb : b.length ≤ beaconMaxSize)
      (hm : s.module.updateBeacon b b.length = .ok m) :
      Step s (.updateBeacon b) { s with module := m }
  | myOpen {s : DeviceState} {h : Handle} {m : Module} (hh : h ∉ s.live)
      (hm : s.module.myOpen = .ok m) :
      Step s (.myOpen h) ⟨m, insert h s.live, Function.update s.offset h 0⟩
  | myRead {s : DeviceState} {h : Handle} {bufferSize : Nat} {r : ReadResult} (hh : h ∈ s.live)
      (hr : s.module.myRead bufferSize (s.offset h) = .ok r) :
      Step s (.myRead h bufferSize r) { s with offset := Function.update s.offset h r.offset }
  | myRelease {s : DeviceState} {h : Handle} (hh : h ∈ s.live) :
      Step s (.myRelease h) { s with module := s.module.myRelease, live := s.live.erase h }

/-- After `my_init`: nothing is published, nothing is open, and both arrays hold
whatever the memory held. -/
structure Initial (s : DeviceState) : Prop where
  buffer_length : s.module.buffer.length = beaconMaxSize
  loadedFrame_length : s.module.container.loadedFrame.length = beaconMaxSize
  frameSize : s.module.frameSize = 0
  openCount : s.module.container.openCount = 0
  live : s.live = ∅

/-- What holds after a sequence of calls. -/
structure Invariant (calls : List DeviceCall) (s : DeviceState) : Prop where
  sound : s.module.Sound
  openCount : s.module.container.openCount = s.live.card
  published : ∃ b ∈ published calls, b.length ≤ beaconMaxSize ∧ s.module.Published b
  loaded : s.live.Nonempty →
    ∃ b ∈ DeviceCall.published calls, b.length ≤ beaconMaxSize ∧ s.module.Loaded b
  offset_le : ∀ h ∈ s.live, s.offset h ≤ s.module.container.frameSize

theorem Initial.invariant {s : DeviceState} (h : s.Initial) : Invariant [] s where
  sound := ⟨h.buffer_length, h.loadedFrame_length, by rw [h.frameSize]; exact Nat.zero_le _⟩
  openCount := by rw [h.openCount, h.live, Finset.card_empty]
  published := ⟨[], List.mem_cons_self, Nat.zero_le _, h.frameSize, List.nil_prefix⟩
  loaded := fun hl => by rw [h.live] at hl; exact absurd hl Finset.not_nonempty_empty
  offset_le := fun x hx => by rw [h.live] at hx; exact absurd hx (Finset.notMem_empty x)

theorem card_lt (s : Finset Handle) : s.card < 2 ^ 64 := by
  have hle := Finset.card_le_univ s
  rw [Fintype.card_fin] at hle
  omega

section
variable {calls : List DeviceCall} {s : DeviceState}

/-- What is published before a call is published after it. -/
theorem Invariant.published_snoc (hs : Invariant calls s) (c : DeviceCall) :
    ∃ b ∈ DeviceCall.published (calls ++ [c]), b.length ≤ beaconMaxSize ∧ s.module.Published b := by
  obtain ⟨b, hb, hlen, hpub⟩ := hs.published
  exact ⟨b, mem_published_snoc hb c, hlen, hpub⟩

theorem Invariant.loaded_snoc (hs : Invariant calls s) (hlive : s.live.Nonempty) (c : DeviceCall) :
    ∃ b ∈ DeviceCall.published (calls ++ [c]), b.length ≤ beaconMaxSize ∧ s.module.Loaded b := by
  obtain ⟨b, hb, hlen, hload⟩ := hs.loaded hlive
  exact ⟨b, mem_published_snoc hb c, hlen, hload⟩

/-- The offset of one handle moves, and the others stay. -/
theorem update_le {live : Finset Handle} {offset : Handle → Nat} {bound value : Nat}
    (hall : ∀ x ∈ live, offset x ≤ bound) (hvalue : value ≤ bound) (h : Handle) :
    ∀ x ∈ insert h live, Function.update offset h value x ≤ bound := by
  intro x hx
  by_cases he : x = h
  · rw [he, Function.update_self]
    exact hvalue
  · rw [Function.update_of_ne he]
    exact hall x (Finset.mem_of_mem_insert_of_ne hx he)

theorem Invariant.step_updateBeacon (hs : Invariant calls s) {b : List UInt8} {m : Module}
    (hb : b.length ≤ beaconMaxSize) (hm : s.module.updateBeacon b b.length = .ok m) :
    Invariant (calls ++ [.updateBeacon b]) { s with module := m } := by
  rw [updateBeacon_ok hs.sound.buffer_length hb] at hm
  cases hm
  refine ⟨⟨?_, hs.sound.loadedFrame_length, hb⟩, hs.openCount, ?_, ?_, hs.offset_le⟩
  · have hlen := hs.sound.buffer_length
    simp only [List.length_append, List.length_drop]
    omega
  · exact ⟨b, mem_published_update _ _, hb, rfl, List.prefix_append _ _⟩
  · intro hlive
    exact hs.loaded_snoc hlive _

/-- The first open loads what is published. -/
theorem Invariant.step_myOpen_first (hs : Invariant calls s) (hempty : s.live = ∅) {m : Module}
    (hm : s.module.myOpen = .ok m) (h : Handle) :
    Invariant (calls ++ [.myOpen h]) ⟨m, insert h s.live, Function.update s.offset h 0⟩ := by
  obtain ⟨b, hb, hblen, hpub⟩ := hs.published
  have hcount : s.module.container.openCount = 0 := by
    rw [hs.openCount, hempty, Finset.card_empty]
  rw [myOpen_first hs.sound hcount, hpub.take_eq] at hm
  cases hm
  refine ⟨⟨hs.sound.buffer_length, ?_, hs.sound.frameSize_le⟩, ?_, hs.published_snoc _,
    fun _ => ?_, ?_⟩
  · have hlen := hs.sound.loadedFrame_length
    have hle := hs.sound.frameSize_le
    have hsize := hpub.1
    simp only [List.length_append, List.length_drop]
    omega
  · rw [hempty, insert_empty_eq, Finset.card_singleton]
  · exact ⟨b, mem_published_snoc hb _, hblen, hpub.1, List.prefix_append _ _⟩
  · -- no other handle is live, so none has an offset to keep
    refine update_le (fun x hx => ?_) (Nat.zero_le _) h
    rw [hempty] at hx
    exact absurd hx (Finset.notMem_empty x)

/-- Later ones only count. -/
theorem Invariant.step_myOpen_later (hs : Invariant calls s) (hlive : s.live.Nonempty) {h : Handle}
    {m : Module} (hh : h ∉ s.live) (hm : s.module.myOpen = .ok m) :
    Invariant (calls ++ [.myOpen h]) ⟨m, insert h s.live, Function.update s.offset h 0⟩ := by
  have hcount : 1 ≤ s.module.container.openCount := by
    rw [hs.openCount]
    exact Finset.card_pos.mpr hlive
  have hcard : (insert h s.live).card = s.live.card + 1 := Finset.card_insert_of_notMem hh
  have hlt := card_lt (insert h s.live)
  rw [myOpen_later hcount] at hm
  cases hm
  refine ⟨⟨hs.sound.buffer_length, hs.sound.loadedFrame_length, hs.sound.frameSize_le⟩, ?_,
    hs.published_snoc _, fun _ => hs.loaded_snoc hlive _, update_le hs.offset_le (Nat.zero_le _) h⟩
  show add64 s.module.container.openCount 1 = _
  rw [hs.openCount, hcard, add64_eq (by omega)]

/-- A read stops at the end of the frame at the latest. -/
theorem Invariant.step_myRead (hs : Invariant calls s) {h : Handle} {bufferSize : Nat}
    {r : ReadResult} (hh : h ∈ s.live) (hr : s.module.myRead bufferSize (s.offset h) = .ok r) :
    Invariant (calls ++ [.myRead h bufferSize r])
      { s with offset := Function.update s.offset h r.offset } := by
  obtain ⟨l, -, hlen, hload⟩ := hs.loaded ⟨h, hh⟩
  have hle := hs.offset_le h hh
  rw [hload.1] at hle
  rw [myRead_ok hload hlen hle] at hr
  cases hr
  refine ⟨hs.sound, hs.openCount, hs.published_snoc _, fun hlive => hs.loaded_snoc hlive _,
    fun x hx => ?_⟩
  have hend : s.offset h + min (l.length - s.offset h) bufferSize ≤
      s.module.container.frameSize := by
    rw [hload.1]
    omega
  exact update_le hs.offset_le hend h x (Finset.mem_insert_of_mem hx)

theorem Invariant.step_myRelease (hs : Invariant calls s) {h : Handle} (hh : h ∈ s.live) :
    Invariant (calls ++ [.myRelease h])
      { s with module := s.module.myRelease, live := s.live.erase h } := by
  obtain ⟨l, hl, hlen, hload⟩ := hs.loaded_snoc ⟨h, hh⟩ (.myRelease h)
  refine ⟨hs.sound.myRelease, ?_, hs.published_snoc _, fun _ => ⟨l, hl, hlen, hload.myRelease⟩,
    fun x hx => ?_⟩
  · show sub64 s.module.container.openCount 1 = _
    rw [hs.openCount, Finset.card_erase_of_mem hh, sub64_eq (Finset.card_pos.mpr ⟨h, hh⟩)]
  · rw [myRelease_frameSize]
    exact hs.offset_le x (Finset.mem_of_mem_erase hx)

end

theorem Invariant.step {calls : List DeviceCall} {s t : DeviceState} {c : DeviceCall}
    (hs : Invariant calls s) (h : Step s c t) : Invariant (calls ++ [c]) t := by
  cases h with
  | updateBeacon hb hm => exact hs.step_updateBeacon hb hm
  | @myOpen h m hh hm =>
    rcases Finset.eq_empty_or_nonempty s.live with hempty | hlive
    · exact hs.step_myOpen_first hempty hm h
    · exact hs.step_myOpen_later hlive hh hm
  | myRead hh hr => exact hs.step_myRead hh hr
  | myRelease hh => exact hs.step_myRelease hh

/-- The invariant holds in every reachable state. -/
theorem invariant_of_run {s t : DeviceState} {calls : List DeviceCall} (hs : s.Initial)
    (h : Transition.Run Step s calls t) : Invariant calls t :=
  Transition.Run.history hs.invariant (fun _ _ _ _ _ hi hstep => hi.step hstep) h

/-- No call in a reachable state is without meaning. -/
theorem Invariant.enabled {calls : List DeviceCall} {s : DeviceState} (hs : Invariant calls s) :
    (∀ b : List UInt8, b.length ≤ beaconMaxSize → ∃ t, Step s (.updateBeacon b) t) ∧
    (∀ h, h ∉ s.live → ∃ t, Step s (.myOpen h) t) ∧
    (∀ h, h ∈ s.live → ∀ bufferSize, ∃ r t, Step s (.myRead h bufferSize r) t) ∧
    ∀ h, h ∈ s.live → ∃ t, Step s (.myRelease h) t := by
  refine ⟨fun b hb => ⟨_, .updateBeacon hb (updateBeacon_ok hs.sound.buffer_length hb)⟩, fun h hh => ?_,
    fun h hh bufferSize => ?_, fun h hh => ⟨_, .myRelease hh⟩⟩
  · rcases Nat.eq_zero_or_pos s.module.container.openCount with h0 | hpos
    · exact ⟨_, .myOpen hh (myOpen_first hs.sound h0)⟩
    · exact ⟨_, .myOpen hh (myOpen_later hpos)⟩
  · obtain ⟨b, -, hlen, hload⟩ := hs.loaded ⟨h, hh⟩
    have hle := hs.offset_le h hh
    rw [hload.1] at hle
    exact ⟨_, _, .myRead hh (myRead_ok hload hlen hle bufferSize)⟩

theorem Step.live_of_myOpen {s t : DeviceState} {h : Handle} (hstep : Step s (.myOpen h) t) :
    h ∈ t.live ∧ t.offset h = 0 := by
  cases hstep with
  | myOpen _ _ => exact ⟨Finset.mem_insert_self _ _, Function.update_self ..⟩

/-- A process that has the device open may read with any requests. -/
theorem Invariant.reads {calls : List DeviceCall} {s : DeviceState} {h : Handle}
    (hs : Invariant calls s) (hh : h ∈ s.live) (sizes : List Nat) :
    ∃ t reads, Transition.Run Step s reads t ∧ askedOn h reads = sizes ∧
      ∀ c ∈ reads, ∃ bufferSize r, c = .myRead h bufferSize r := by
  induction sizes generalizing calls s with
  | nil => exact ⟨s, [], .nil s, rfl, fun _ hc => absurd hc List.not_mem_nil⟩
  | cons bufferSize sizes ih =>
    obtain ⟨r, u, hstep⟩ := hs.enabled.2.2.1 h hh bufferSize
    have hlive : h ∈ u.live := by
      cases hstep
      exact hh
    obtain ⟨t, reads, hrun, hasked, hall⟩ := ih (hs.step hstep) hlive
    refine ⟨t, _, Transition.Run.cons_iff.mpr ⟨u, hstep, hrun⟩, ?_,
      List.forall_mem_cons.mpr ⟨⟨bufferSize, r, rfl⟩, hall⟩⟩
    rw [← hasked]
    simp [askedOn]

/-- While a handle is live no call changes what the container holds. -/
theorem container_of_step {calls : List DeviceCall} {s t : DeviceState} {c : DeviceCall}
    (hs : Invariant calls s) (hlive : s.live.Nonempty) (h : Step s c t) :
    t.module.container.loadedFrame = s.module.container.loadedFrame ∧
      t.module.container.frameSize = s.module.container.frameSize := by
  cases h with
  | updateBeacon hb hm =>
    rw [updateBeacon_ok hs.sound.buffer_length hb] at hm
    cases hm
    exact ⟨rfl, rfl⟩
  | myOpen hh hm =>
    have hcount : 1 ≤ s.module.container.openCount := by
      rw [hs.openCount]
      exact Finset.card_pos.mpr hlive
    rw [myOpen_later hcount] at hm
    cases hm
    exact ⟨rfl, rfl⟩
  | myRead hh hr => exact ⟨rfl, rfl⟩
  | myRelease hh => exact ⟨myRelease_loadedFrame, myRelease_frameSize⟩

/-! ### One reader among others -/

/-- The call leaves the handle open, and if it reads there, it asks for a whole
frame. -/
def KeepsReading (h : Handle) (c : DeviceCall) : Prop :=
  c ≠ .myRelease h ∧ ∀ bufferSize r, c = .myRead h bufferSize r → beaconMaxSize ≤ bufferSize

/-- What holds of a handle after some calls since it was opened: the container
holds the same beacon, and every read has copied a beginning of it, as long as what
was left of it. -/
structure Session (h : Handle) (b : List UInt8) (calls : List DeviceCall) (s : DeviceState) :
    Prop where
  live : h ∈ s.live
  loaded : s.module.Loaded b
  copied : copiedTo h calls = beginnings b 0 (askedOn h calls)
  offset : s.offset h = min b.length (askedOn h calls).sum

theorem copiedTo_snoc_of_not_read {h : Handle} (calls : List DeviceCall) {c : DeviceCall}
    (hc : ∀ bufferSize r, c ≠ .myRead h bufferSize r) :
    copiedTo h (calls ++ [c]) = copiedTo h calls ∧ askedOn h (calls ++ [c]) = askedOn h calls := by
  have hnone : copiedTo h [c] = [] ∧ askedOn h [c] = [] := by
    cases c with
    | myRead h' bufferSize r =>
      have hne : h' ≠ h := fun he => hc bufferSize r (he ▸ rfl)
      simp [copiedTo, askedOn, hne]
    | _ => exact ⟨rfl, rfl⟩
  rw [copiedTo, askedOn, List.filterMap_append, List.filterMap_append, ← copiedTo, ← copiedTo,
    ← askedOn, ← askedOn, hnone.1, hnone.2, List.append_nil, List.append_nil]
  exact ⟨rfl, rfl⟩

theorem copiedTo_snoc_read (h : Handle) (calls : List DeviceCall) (bufferSize : Nat)
    (r : ReadResult) :
    copiedTo h (calls ++ [.myRead h bufferSize r]) = copiedTo h calls ++ [r.copied] ∧
      askedOn h (calls ++ [.myRead h bufferSize r]) = askedOn h calls ++ [bufferSize] := by
  rw [copiedTo, askedOn, List.filterMap_append, List.filterMap_append, ← copiedTo, ← askedOn]
  simp

/-- A call by anyone that leaves the handle open keeps its session. -/
theorem Session.step {before calls : List DeviceCall} {s t : DeviceState} {c : DeviceCall}
    {h : Handle} {b : List UInt8} (hs : Invariant before s) (hb : b.length ≤ beaconMaxSize)
    (hses : Session h b calls s) (hc : c ≠ .myRelease h) (hstep : Step s c t) :
    Session h b (calls ++ [c]) t := by
  obtain ⟨hloadedFrame, hframeSize⟩ := container_of_step hs ⟨h, hses.live⟩ hstep
  have hloaded : t.module.Loaded b := by
    rw [Loaded, hloadedFrame, hframeSize]
    exact hses.loaded
  -- all calls but a read on this handle leave its offset and copy nothing to it
  have hother : (∀ bufferSize r, c ≠ .myRead h bufferSize r) → h ∈ t.live →
      t.offset h = s.offset h → Session h b (calls ++ [c]) t := by
    intro hread hlive hoffset
    obtain ⟨hcopied, hasked⟩ := copiedTo_snoc_of_not_read calls hread
    exact ⟨hlive, hloaded, by rw [hcopied, hasked]; exact hses.copied,
      by rw [hoffset, hasked]; exact hses.offset⟩
  cases hstep with
  | updateBeacon _ _ => exact hother (fun _ _ h => by cases h) hses.live rfl
  | @myOpen h' _ hh _ =>
    have hne : h ≠ h' := fun he => hh (he ▸ hses.live)
    exact hother (fun _ _ h => by cases h) (Finset.mem_insert_of_mem hses.live)
      (Function.update_of_ne hne _ _)
  | @myRelease h' _ =>
    have hne : h ≠ h' := fun he => hc (he ▸ rfl)
    exact hother (fun _ _ h => by cases h) (Finset.mem_erase_of_ne_of_mem hne hses.live) rfl
  | @myRead h' bufferSize r hh hr =>
    by_cases hne : h = h'
    · subst hne
      -- what is left of the beacon after the earlier reads
      have hleft : b.length - s.offset h = b.length - (askedOn h calls).sum := by
        rw [hses.offset]
        omega
      have hle : s.offset h ≤ b.length := by
        rw [hses.offset]
        exact Nat.min_le_left _ _
      rw [myRead_ok hses.loaded hb hle, hleft] at hr
      cases hr
      obtain ⟨hcopied, hasked⟩ := copiedTo_snoc_read h calls bufferSize
        ⟨(min (b.length - (askedOn h calls).sum) bufferSize : Nat),
          b.take (min (b.length - (askedOn h calls).sum) bufferSize),
          s.offset h + min (b.length - (askedOn h calls).sum) bufferSize⟩
      refine ⟨hses.live, hloaded, ?_, ?_⟩
      · rw [hcopied, hasked, beginnings_snoc, hses.copied, Nat.zero_add]
      · rw [hasked, List.sum_append_nat, List.sum_singleton]
        show Function.update s.offset h _ h = _
        rw [Function.update_self, hses.offset]
        simp only
        omega
    · exact hother (fun _ _ he => by cases he; exact hne rfl) hses.live
        (Function.update_of_ne hne _ _)

/-- Opening a handle begins a session, on a beacon published before. -/
theorem session_of_myOpen {calls : List DeviceCall} {s t : DeviceState} {h : Handle}
    (hs : Invariant calls s) (hstep : Step s (.myOpen h) t) :
    ∃ b ∈ published calls, b.length ≤ beaconMaxSize ∧ Session h b [] t := by
  have hinv := hs.step hstep
  have hlive := hstep.live_of_myOpen
  obtain ⟨b, hb, hlen, hloaded⟩ := hinv.loaded ⟨h, hlive.1⟩
  refine ⟨b, ?_, hlen, hlive.1, hloaded, rfl, ?_⟩
  · rwa [published, List.filterMap_append, List.filterMap_cons_none rfl, List.filterMap_nil,
      List.append_nil] at hb
  · rw [hlive.2]
    exact (Nat.min_zero _).symm

/-- The session lasts for as long as the handle is open. -/
theorem session_of_run {s t : DeviceState} {before calls : List DeviceCall} {h : Handle}
    {b : List UInt8} (hs : Invariant before s) (hb : b.length ≤ beaconMaxSize)
    (hses : Session h b [] s) (hcalls : .myRelease h ∉ calls)
    (hrun : Transition.Run Step s calls t) : Session h b calls t := by
  have hboth : Invariant (before ++ calls) t ∧ (.myRelease h ∉ calls → Session h b calls t) := by
    refine Transition.Run.history (I := fun calls t => Invariant (before ++ calls) t ∧
      (.myRelease h ∉ calls → Session h b calls t)) ?_ ?_ hrun
    · exact ⟨by rwa [List.append_nil], fun _ => hses⟩
    · rintro calls u c v - ⟨hinv, hu⟩ hstep
      refine ⟨by rw [← List.append_assoc]; exact hinv.step hstep, fun hall => ?_⟩
      rw [List.mem_append, not_or] at hall
      exact (hu hall.1).step hinv hb (fun he => hall.2 (he ▸ List.mem_singleton_self _)) hstep
  exact hboth.2 hcalls

/-- What is read through a handle are beginnings of one beacon that was published before
its open. -/
theorem copied_of_run {s t : DeviceState} {before during : List DeviceCall} {h : Handle}
    (hs : s.Initial) (hrun : Transition.Run Step s (before ++ .myOpen h :: during) t)
    (hduring : .myRelease h ∉ during) :
    ∃ b ∈ published before, copiedTo h during = beginnings b 0 (askedOn h during) := by
  obtain ⟨u, hbefore, hrun⟩ := Transition.Run.split hrun
  obtain ⟨v, hopen, hrun⟩ := Transition.Run.cons_iff.mp hrun
  have hu := invariant_of_run hs hbefore
  obtain ⟨b, hb, hlen, hses⟩ := session_of_myOpen hu hopen
  exact ⟨b, hb, (session_of_run (hu.step hopen) hlen hses hduring hrun).copied⟩

/-- Reads that ask for a whole frame get it at once, and nothing after it. -/
theorem beginnings_of_keepsReading {b : List UInt8} (hb : b.length ≤ beaconMaxSize) {h : Handle}
    {calls : List DeviceCall} (hcalls : ∀ c ∈ calls, KeepsReading h c) :
    beginnings b 0 (askedOn h calls) = [] ∨
      ∃ n, beginnings b 0 (askedOn h calls) = b :: List.replicate n [] := by
  have hasked : ∀ bufferSize ∈ askedOn h calls, b.length ≤ bufferSize := by
    intro bufferSize hmem
    obtain ⟨c, hc, hsome⟩ := List.mem_filterMap.mp hmem
    cases c with
    | myRead h' bufferSize' r =>
      by_cases hne : h' = h
      · simp only [hne, if_true, Option.some.injEq] at hsome
        subst hne hsome
        exact hb.trans ((hcalls _ hc).2 _ r rfl)
      · simp only [hne, if_false] at hsome
        cases hsome
    | _ => cases hsome
  cases hsizes : askedOn h calls with
  | nil => exact .inl rfl
  | cons bufferSize sizes =>
    rw [hsizes, List.forall_mem_cons] at hasked
    exact .inr ⟨sizes.length, beginnings_whole hasked.1 sizes⟩

/-- **Snapshots are never mixed.**  After any run the counter counts the live
handles; while one is live the container holds one published beacon and no call
changes that; and what `update_raw_data` reads through a handle, from its open
until a read returns nothing, is one beacon published before the open. -/
theorem snapshots_not_mixed {s t : DeviceState} {calls : List DeviceCall} (hs : s.Initial)
    (hrun : Transition.Run Step s calls t) :
    t.module.container.openCount = t.live.card ∧
    (t.live.Nonempty → ∃ b ∈ published calls, t.module.Loaded b) ∧
    (t.live.Nonempty → ∀ c u, Step t c u →
      u.module.container.loadedFrame = t.module.container.loadedFrame ∧
      u.module.container.frameSize = t.module.container.frameSize) ∧
    ∀ before h during after, calls = before ++ .myOpen h :: (during ++ after) →
      (∀ c ∈ during, KeepsReading h c) → copiedTo h during ≠ [] →
      ∀ (fileName : Str) (f : Frame), f.rawBufferSize = beaconFrameMaxLength →
        f.rawFrameBuffer.length = beaconFrameMaxLength →
        ∃ b ∈ published before, ∃ f',
          (Frame.updateRawData fileName (some (copiedTo h during))).run f = .ok () f' ∧
          f'.rawFrameSize = b.length ∧ f'.rawFrameBuffer.take f'.rawFrameSize = b := by
  have hinv := invariant_of_run hs hrun
  refine ⟨hinv.openCount, fun hlive => ?_, fun hlive c u hstep => container_of_step hinv hlive hstep,
    ?_⟩
  · obtain ⟨b, hb, -, hloaded⟩ := hinv.loaded hlive
    exact ⟨b, hb, hloaded⟩
  · rintro before h during after rfl hduring hreads fileName f hsize hbuffer
    -- before the open, the open, and the session that it begins
    obtain ⟨u, hbefore, hrun⟩ := Transition.Run.split hrun
    obtain ⟨v, hopen, hrun⟩ := Transition.Run.cons_iff.mp hrun
    obtain ⟨w, hmid, -⟩ := Transition.Run.split hrun
    have hu := invariant_of_run hs hbefore
    obtain ⟨b, hb, hlen, hses⟩ := session_of_myOpen hu hopen
    have hkept : .myRelease h ∉ during := fun hmem => (hduring _ hmem).1 rfl
    have hcopied := (session_of_run (hu.step hopen) hlen hses hkept hmid).copied
    obtain hnil | ⟨k, hwhole⟩ := beginnings_of_keepsReading hlen hduring
    · exact absurd (hcopied.trans hnil) hreads
    · have hin : inBuffer fileName (some (copiedTo h during)) f.rawFrameBuffer f.rawBufferSize =
          .ok (b ++ f.rawFrameBuffer.drop b.length, b.length) := by
        rw [hcopied, hwhole]
        exact inBuffer_piece fileName k (by rw [hsize]; exact hlen) (by rw [hsize, hbuffer])
      refine ⟨b, hb, _, Frame.updateRawData_run hin (by rw [hsize]; exact hlen), rfl, ?_⟩
      exact List.take_left

/-- The device after `my_init`, on memory full of zeros. -/
def boot : DeviceState where
  module := ⟨List.replicate beaconMaxSize 0, 0, ⟨List.replicate beaconMaxSize 0, 0, 0⟩⟩
  live := ∅
  offset := fun _ => 0

theorem boot_initial : boot.Initial where
  buffer_length := List.length_replicate
  loadedFrame_length := List.length_replicate
  frameSize := rfl
  openCount := rfl
  live := rfl

/-- A beacon of one byte, an open and a read. -/
theorem boot_run : ∃ t, Transition.Run Step boot
    ([.updateBeacon [7]] ++ .myOpen 0 :: ([.myRead 0 8191 ⟨1, [7], 1⟩] ++ [])) t := by
  have hboot := boot_initial.invariant
  have h₁ := Step.updateBeacon (s := boot) (b := [7]) (by decide)
    (updateBeacon_ok hboot.sound.buffer_length (by decide))
  have h₂ := Step.myOpen (h := 0) (Finset.notMem_empty 0) (myOpen_first (hboot.step h₁).sound rfl)
  obtain ⟨t, ht⟩ : ∃ t, Transition.Run Step boot ([.updateBeacon [7]] ++ [.myOpen 0]) t ∧
      0 ∈ t.live ∧ t.offset 0 = 0 ∧ t.module.Loaded [7] :=
    ⟨_, ((Transition.Run.nil boot).snoc h₁).snoc h₂, Finset.mem_insert_self 0 ∅,
      rfl, rfl, List.prefix_append [7] _⟩
  obtain ⟨hrun, hlive, hoffset, hloaded⟩ := ht
  have hread : t.module.myRead 8191 (t.offset 0) = .ok ⟨1, [7], 1⟩ := by
    rw [hoffset]
    exact myRead_ok hloaded (by decide) (Nat.zero_le 1) 8191
  exact ⟨_, hrun.snoc (.myRead hlive hread)⟩

/-- What `update_raw_data` reads in that run. -/
theorem snapshots_not_mixed_boot : ∃ b ∈ published [.updateBeacon [7]], ∃ f',
    (Frame.updateRawData (lit "/dev/beacon-sniffer-0") (some [[7]])).run
      (Frame.new (List.replicate beaconFrameMaxLength 0)) = .ok () f' ∧
    f'.rawFrameSize = b.length ∧ f'.rawFrameBuffer.take f'.rawFrameSize = b := by
  obtain ⟨t, hrun⟩ := boot_run
  refine (snapshots_not_mixed boot_initial hrun).2.2.2 _ 0 [.myRead 0 8191 ⟨1, [7], 1⟩] [] rfl ?_
    (by decide) _ _ rfl List.length_replicate
  intro c hc
  rw [List.mem_singleton.mp hc]
  exact ⟨fun h => (by cases h), fun bufferSize r h => by cases h; decide⟩

end DeviceState
end SnapDesk
