import SnapDesk.RecvTasklet

/-! # Buffers and memory of the other driver

Every buffer of `struct recv_priv` is with the device, in a queue, in the hands of a function,
not yet come to by the loop of `rtl8188eu_inirp_init`, or lost: to a submission or a transfer
that has failed.  Every piece of memory is free, with a buffer or with the tasklet
(`Circulates`).

A buffer may also be put aside while the memory that it waits for is freed, so that nobody
takes it up again.  That happens to one buffer at most, and to two if the loop has found no
memory and ended early; the device has all others to fill, and as long as the driver is not
stopped no transfer waits for ever (`settles_of_run`). -/
namespace SnapDesk
open Transition

namespace ReadPort

/-- How much memory is on its way to the device. -/
def skbs : ReadPort → Nat
  | entered pskb => pskb.toNat
  | granted => 1
  | _ => 0

/-- How many buffers are about to be put aside. -/
def aside : ReadPort → Nat
  | refused => 1
  | _ => 0

/-- **What a step of `usb_read_port` does** while the driver can receive: no buffer and no
memory gets lost, and a buffer is about to be put aside only where no memory is free. -/
theorem Step.effect {bs bs' : RecvBuffers} {r : ReadPort} {e : PortEvent} {r' : Option ReadPort}
    (h : r.Step false bs e bs' r') :
    (bs.submitted + bs.recvBufPendingQueue + bs.lost + 1 =
      bs'.submitted + bs'.recvBufPendingQueue + bs'.lost + r'.elim 0 fun _ => 1) ∧
    (bs.freeRecvSkbQueue + bs.submitted + bs.lost + r.skbs =
      bs'.freeRecvSkbQueue + bs'.submitted + bs'.lost + r'.elim 0 skbs) ∧
    (bs'.recvBufPendingQueue + r'.elim 0 aside = bs.recvBufPendingQueue + r.aside ∨
      bs.freeRecvSkbQueue = 0 ∧ bs' = bs ∧ r = .asking ∧ r' = some .refused) := by
  cases h with
  | stopped h => cases h
  | @entered pskb _ => cases pskb <;> exact ⟨rfl, rfl, .inl rfl⟩
  | granted hfree => exact ⟨rfl, by simp only [hfree, skbs, Option.elim]; omega, .inl rfl⟩
  | refused hfree => exact ⟨rfl, rfl, .inr ⟨hfree, rfl, rfl, rfl⟩⟩
  | enqueued => exact ⟨by simp only [Option.elim]; omega, rfl, .inl rfl⟩
  | submitted =>
    exact ⟨by simp only [Option.elim]; omega, by simp only [skbs, Option.elim]; omega, .inl rfl⟩
  | failed =>
    exact ⟨by simp only [Option.elim]; omega, by simp only [skbs, Option.elim]; omega, .inl rfl⟩

end ReadPort

namespace Completing

/-- The buffers that `usb_read_port_complete` has in its hands. -/
def bufs : Completing → Nat
  | none => 0
  | _ => 1

def skbs : Completing → Nat
  | passed _ => 1
  | reading r => r.skbs
  | _ => 0

def aside : Completing → Nat
  | reading r => r.aside
  | _ => 0

/-- The transfer that is to come into the queue. -/
def received : Completing → List RecvBuf
  | passed (.received buf) => [buf]
  | _ => []

theorem aside_add_skbs_le (c : Completing) : c.aside + c.skbs ≤ c.bufs := by
  cases c with
  | reading r =>
    cases r with
    | entered pskb => cases pskb <;> decide
    | _ => decide
  | passed => exact Nat.le_refl 1
  | _ => decide

theorem bufs_le (c : Completing) : c.bufs ≤ 1 := by
  cases c <;> simp [bufs]

end Completing

namespace RecvTasklet

/-- The buffers that the tasklet has in its hands. -/
def recvBufs : RecvTasklet → Nat
  | reading _ => 1
  | _ => 0

def skbs : RecvTasklet → Nat
  | taken _ | handing _ => 1
  | reading r => r.skbs
  | _ => 0

def aside : RecvTasklet → Nat
  | reading r => r.aside
  | _ => 0

/-- The turns in which it has still to look for a buffer that waits. -/
def turns : RecvTasklet → Nat
  | taken _ | handing _ | returned => 1
  | _ => 0

theorem skbs_add_aside_le (tasklet : RecvTasklet) :
    tasklet.skbs + tasklet.aside ≤ tasklet.turns + tasklet.recvBufs := by
  cases tasklet with
  | reading r =>
    cases r with
    | entered pskb => cases pskb <;> decide
    | _ => decide
  | taken => exact Nat.le_refl 1
  | handing => exact Nat.le_refl 1
  | _ => decide

end RecvTasklet

namespace Inirp

/-- The buffers that the loop has in its hands, and those that it has not come to. -/
def bufs : Inirp → Nat
  | looping left => left
  | reading left _ => left + 1
  | finished => 0
  | failed left => left

def skbs : Inirp → Nat
  | reading _ r => r.skbs
  | _ => 0

def aside : Inirp → Nat
  | reading _ r => r.aside
  | _ => 0

/-- It ends early, or is about to. -/
def fails : Inirp → Nat
  | reading _ r => r.aside
  | failed _ => 1
  | _ => 0

/-- It has ended. -/
def IsDone : Inirp → Prop
  | finished | failed _ => True
  | _ => False

theorem aside_add_skbs_le (i : Inirp) : i.aside + i.skbs ≤ i.bufs := by
  cases i with
  | reading left r =>
    have hone : r.aside + r.skbs ≤ 1 := by
      cases r with
      | entered pskb => cases pskb <;> decide
      | _ => decide
    simp only [aside, skbs, bufs]
    omega
  | _ => exact Nat.zero_le _

theorem aside_le_fails (i : Inirp) : i.aside ≤ i.fails := by
  cases i <;> simp [aside, fails]

end Inirp

namespace RecvQueue

section
variable {k : Ieee80211} {mode : RxAggMode} {mpMode : Bool} {events : List RecvEvent}
variable {s t : RecvQueue} {bufs skbs : Nat}

/-- No buffer and no memory gets lost without being counted; the buffers that wait are as many
as there are turns of the tasklet to come, or one, or two if the loop ends early; and a
transfer that waits has a tasklet that comes to it. -/
structure Circulates (bufs skbs : Nat) (s : RecvQueue) : Prop where
  bufs_eq : s.buffers.submitted + s.buffers.recvBufPendingQueue + s.buffers.lost +
    s.completing.bufs + s.tasklet.recvBufs + s.inirp.bufs = bufs
  skbs_eq : s.buffers.freeRecvSkbQueue + s.buffers.submitted + s.buffers.lost +
    s.rxSkbQueue.length + s.completing.skbs + s.tasklet.skbs + s.inirp.skbs = skbs
  waiting_le : s.buffers.recvBufPendingQueue + s.completing.aside + s.tasklet.aside +
    s.inirp.aside ≤ max (s.rxSkbQueue.length + s.tasklet.turns) (1 + s.inirp.fails)
  awake : s.rxSkbQueue ≠ [] → s.scheduled = true ∨ s.tasklet ≠ .idle ∨ s.completing = .queued

theorem Initial.circulates (h : s.Initial bufs skbs) : Circulates bufs skbs s where
  bufs_eq := by
    simp only [h.buffers, h.completing, h.tasklet, h.inirp, Completing.bufs, RecvTasklet.recvBufs,
      Inirp.bufs, Nat.zero_add]
  skbs_eq := by
    simp only [h.buffers, h.rxSkbQueue, h.completing, h.tasklet, h.inirp, Completing.skbs,
      RecvTasklet.skbs, Inirp.skbs, List.length_nil, Nat.add_zero]
  waiting_le := by
    simp only [h.buffers, h.completing, h.tasklet, h.inirp, Completing.aside, RecvTasklet.aside,
      Inirp.aside]
    exact Nat.zero_le _
  awake := fun hne => absurd h.rxSkbQueue hne

/-- A driver that is stopped stays so. -/
theorem cannotRx_of_step {e : RecvEvent} (hstep : Step k mode mpMode s e t)
    (h : t.cannotRx = false) : s.cannotRx = false := by
  unfold cannotRx at h ⊢
  have hor {removed : Bool} (h : (s.cannotRun || removed || s.rxDisabled) = false) :
      (s.cannotRun || s.rxDisabled) = false := by
    rw [Bool.or_eq_false_iff, Bool.or_eq_false_iff] at h
    rw [h.1.1, h.2]
    rfl
  cases hstep with
  | transient => exact hor h
  | other => exact hor h
  | fatal => cases h
  | stopped => cases h
  | disabled =>
    rw [Bool.or_true] at h
    cases h
  | _ => exact h

namespace Circulates

/-- Where transfers wait and none has just come, the tasklet is scheduled or runs. -/
theorem awake_of_ne (h : Circulates bufs skbs s) (hcompleting : s.completing ≠ .queued)
    (hne : s.rxSkbQueue ≠ []) : s.scheduled = true ∨ s.tasklet ≠ .idle :=
  (h.awake hne).imp_right fun h => h.resolve_right hcompleting

/-- A buffer goes back to the device with its memory. -/
theorem resubmitted (h : Circulates bufs skbs s) {c : Completion}
    (hpassed : s.completing = .passed c) (cannotRun : Bool) :
    Circulates bufs skbs
      { s with cannotRun := cannotRun, completing := .reading (.entered true) } := by
  have hawake := h.awake_of_ne (by rw [hpassed]; exact Completing.noConfusion)
  obtain ⟨hbufs, hskbs, hwaiting, -⟩ := h
  rw [hpassed] at hbufs hskbs hwaiting
  exact ⟨hbufs, hskbs, hwaiting, fun hne => (hawake hne).imp_right .inl⟩

/-- A step of `usb_read_port` for `usb_read_port_complete`. -/
theorem completionReads (h : Circulates bufs skbs s) (hle : bufs ≤ skbs) {r : ReadPort}
    {e : PortEvent} {bs : RecvBuffers} {r' : Option ReadPort} (hreading : s.completing = .reading r)
    (hport : r.Step false s.buffers e bs r') :
    Circulates bufs skbs { s with buffers := bs, completing := r'.elim .none .reading } := by
  have hawake := h.awake_of_ne (by rw [hreading]; exact Completing.noConfusion)
  obtain ⟨hbufs, hskbs, hwaiting, -⟩ := h
  obtain ⟨hport_bufs, hport_skbs, hport_aside⟩ := hport.effect
  simp only [hreading, Completing.bufs, Completing.skbs, Completing.aside]
    at hbufs hskbs hwaiting
  have htasklet := s.tasklet.skbs_add_aside_le
  have hinirp := s.inirp.aside_add_skbs_le
  have hafter : (r'.elim .none .reading : Completing).bufs = (r'.elim 0 fun _ => 1) ∧
      (r'.elim .none .reading : Completing).skbs = r'.elim 0 ReadPort.skbs ∧
      (r'.elim .none .reading : Completing).aside = r'.elim 0 ReadPort.aside := by
    cases r' <;> exact ⟨rfl, rfl, rfl⟩
  obtain ⟨hafter_bufs, hafter_skbs, hafter_aside⟩ := hafter
  refine ⟨?_, ?_, ?_, fun hne => (hawake hne).imp_right .inl⟩
  · simp only [hafter_bufs]
    omega
  · simp only [hafter_skbs]
    omega
  · rcases hport_aside with hsame | ⟨hfree, rfl, rfl, rfl⟩
    · simp only [hafter_aside]
      omega
    · -- all memory is with the device, in the queue or in the hands of the tasklet
      simp only [ReadPort.skbs, ReadPort.aside] at hskbs hwaiting
      simp only [Option.elim, Completing.aside, ReadPort.aside]
      omega

/-- A step of `usb_read_port` for the tasklet. -/
theorem taskletReads (h : Circulates bufs skbs s) (hle : bufs ≤ skbs) {r : ReadPort}
    {e : PortEvent} {bs : RecvBuffers} {r' : Option ReadPort} (hreading : s.tasklet = .reading r)
    (hport : r.Step false s.buffers e bs r') :
    Circulates bufs skbs { s with buffers := bs, tasklet := r'.elim .looping .reading } := by
  obtain ⟨hbufs, hskbs, hwaiting, -⟩ := h
  obtain ⟨hport_bufs, hport_skbs, hport_aside⟩ := hport.effect
  simp only [hreading, RecvTasklet.recvBufs, RecvTasklet.skbs, RecvTasklet.aside,
    RecvTasklet.turns] at hbufs hskbs hwaiting
  have hcompleting := s.completing.aside_add_skbs_le
  have hinirp := s.inirp.aside_add_skbs_le
  have hafter : (r'.elim .looping .reading : RecvTasklet).recvBufs = (r'.elim 0 fun _ => 1) ∧
      (r'.elim .looping .reading : RecvTasklet).skbs = r'.elim 0 ReadPort.skbs ∧
      (r'.elim .looping .reading : RecvTasklet).aside = r'.elim 0 ReadPort.aside ∧
      (r'.elim .looping .reading : RecvTasklet).turns = 0 ∧
      (r'.elim .looping .reading : RecvTasklet) ≠ .idle := by
    cases r' <;> exact ⟨rfl, rfl, rfl, rfl, RecvTasklet.noConfusion⟩
  obtain ⟨hafter_bufs, hafter_skbs, hafter_aside, hafter_turns, hbusy⟩ := hafter
  refine ⟨?_, ?_, ?_, fun _ => .inr (.inl hbusy)⟩
  · simp only [hafter_bufs]
    omega
  · simp only [hafter_skbs]
    omega
  · rcases hport_aside with hsame | ⟨hfree, rfl, rfl, rfl⟩
    · simp only [hafter_aside, hafter_turns]
      omega
    · simp only [ReadPort.skbs, ReadPort.aside] at hskbs hwaiting
      simp only [Option.elim, RecvTasklet.aside, RecvTasklet.turns, ReadPort.aside]
      omega

/-- A step of `usb_read_port` for the loop. -/
theorem inirpReads (h : Circulates bufs skbs s) (hle : bufs ≤ skbs) {n : Nat} {r : ReadPort}
    {e : PortEvent} {bs : RecvBuffers} {r' : Option ReadPort} (hreading : s.inirp = .reading n r)
    (hport : r.Step false s.buffers e bs r') :
    Circulates bufs skbs { s with
      buffers := bs
      inirp := r'.elim (if e.ret then .looping n else .failed n) (.reading n) } := by
  obtain ⟨hbufs, hskbs, hwaiting, hawake⟩ := h
  obtain ⟨hport_bufs, hport_skbs, hport_aside⟩ := hport.effect
  simp only [hreading, Inirp.bufs, Inirp.skbs, Inirp.aside, Inirp.fails] at hbufs hskbs hwaiting
  have hcompleting := s.completing.aside_add_skbs_le
  have htasklet := s.tasklet.skbs_add_aside_le
  have hafter : (r'.elim (if e.ret then .looping n else .failed n) (.reading n) : Inirp).bufs =
        n + (r'.elim 0 fun _ => 1) ∧
      (r'.elim (if e.ret then .looping n else .failed n) (.reading n) : Inirp).skbs =
        r'.elim 0 ReadPort.skbs ∧
      (r'.elim (if e.ret then .looping n else .failed n) (.reading n) : Inirp).aside =
        r'.elim 0 ReadPort.aside ∧
      r.aside ≤ (r'.elim (if e.ret then .looping n else .failed n) (.reading n) : Inirp).fails ∧
      r'.elim 0 ReadPort.aside ≤
        (r'.elim (if e.ret then .looping n else .failed n) (.reading n) : Inirp).fails := by
    cases hport with
    | stopped h => cases h
    | @entered pskb _ => cases pskb <;> exact ⟨rfl, rfl, rfl, Nat.zero_le _, Nat.zero_le _⟩
    | @failed eperm => cases eperm <;> exact ⟨rfl, rfl, rfl, Nat.zero_le _, Nat.zero_le _⟩
    | granted => exact ⟨rfl, rfl, rfl, Nat.zero_le _, Nat.zero_le _⟩
    | refused => exact ⟨rfl, rfl, rfl, Nat.zero_le _, Nat.le_refl 1⟩
    | enqueued => exact ⟨rfl, rfl, rfl, Nat.le_refl 1, Nat.zero_le _⟩
    | submitted => exact ⟨rfl, rfl, rfl, Nat.zero_le _, Nat.zero_le _⟩
  obtain ⟨hafter_bufs, hafter_skbs, hafter_aside, hfails, hfails'⟩ := hafter
  refine ⟨?_, ?_, ?_, hawake⟩
  · simp only [hafter_bufs]
    omega
  · simp only [hafter_skbs]
    omega
  · rcases hport_aside with hsame | ⟨hfree, rfl, rfl, rfl⟩
    · simp only [hafter_aside]
      omega
    · simp only [ReadPort.skbs, ReadPort.aside] at hskbs hwaiting
      simp only [Option.elim, Inirp.aside, Inirp.fails, ReadPort.aside]
      omega

/-- Every access keeps the buffers and the memory going around, as long as the driver is not
stopped. -/
theorem step (h : Circulates bufs skbs s) (hle : bufs ≤ skbs) {e : RecvEvent}
    (hstep : Step k mode mpMode s e t) (hrx : t.cannotRx = false) : Circulates bufs skbs t := by
  have hrx_before := cannotRx_of_step hstep hrx
  cases hstep with
  | completionReads hreading hport =>
    rw [hrx_before] at hport
    exact h.completionReads hle hreading hport
  | taskletReads hreading hport =>
    rw [hrx_before] at hport
    exact h.taskletReads hle hreading hport
  | inirpReads hreading hport =>
    rw [hrx_before] at hport
    exact h.inirpReads hle hreading hport
  | next hlooping =>
    obtain ⟨hbufs, hskbs, hwaiting, hawake⟩ := h
    rw [hlooping] at hbufs hskbs hwaiting
    exact ⟨hbufs, hskbs, hwaiting, hawake⟩
  | initialized hlooping =>
    obtain ⟨hbufs, hskbs, hwaiting, hawake⟩ := h
    rw [hlooping] at hbufs hskbs hwaiting
    exact ⟨hbufs, hskbs, hwaiting, hawake⟩
  | completed hnone hsubmitted _ =>
    have hawake := h.awake_of_ne (by rw [hnone]; exact Completing.noConfusion)
    obtain ⟨hbufs, hskbs, hwaiting, -⟩ := h
    simp only [hnone, hsubmitted, Completing.bufs, Completing.skbs] at hbufs hskbs hwaiting
    refine ⟨?_, ?_, hwaiting, fun hne => (hawake hne).imp_right .inl⟩
    · simp only [Completing.bufs]
      omega
    · simp only [Completing.skbs]
      omega
  | received hpassed =>
    obtain ⟨hbufs, hskbs, hwaiting, -⟩ := h
    simp only [hpassed, Completing.bufs, Completing.skbs,
      Completing.aside] at hbufs hskbs hwaiting
    refine ⟨hbufs, ?_, ?_, fun _ => .inr (.inr rfl)⟩
    · simp only [List.length_append, List.length_singleton, Completing.skbs]
      omega
    · simp only [List.length_append, List.length_singleton, Completing.aside]
      omega
  | scheduled hqueued =>
    obtain ⟨hbufs, hskbs, hwaiting, -⟩ := h
    rw [hqueued] at hbufs hskbs hwaiting
    exact ⟨hbufs, hskbs, hwaiting, fun _ => .inl rfl⟩
  | wrongLength hpassed => exact h.resubmitted hpassed s.cannotRun
  | transient hpassed => exact h.resubmitted hpassed _
  | other hpassed =>
    have hawake := h.awake_of_ne (by rw [hpassed]; exact Completing.noConfusion)
    obtain ⟨hbufs, hskbs, hwaiting, -⟩ := h
    simp only [hpassed, Completing.bufs, Completing.skbs,
      Completing.aside] at hbufs hskbs hwaiting
    refine ⟨?_, ?_, hwaiting, fun hne => (hawake hne).imp_right .inl⟩
    · simp only [Completing.bufs]
      omega
    · simp only [Completing.skbs]
      omega
  | started hidle _ =>
    obtain ⟨hbufs, hskbs, hwaiting, -⟩ := h
    rw [hidle] at hbufs hskbs hwaiting
    exact ⟨hbufs, hskbs, hwaiting, fun _ => .inr (.inl RecvTasklet.noConfusion)⟩
  | dequeued hlooping hqueue =>
    obtain ⟨hbufs, hskbs, hwaiting, -⟩ := h
    simp only [hlooping, hqueue, List.length_cons, RecvTasklet.recvBufs, RecvTasklet.skbs,
      RecvTasklet.aside, RecvTasklet.turns] at hbufs hskbs hwaiting
    refine ⟨hbufs, ?_, ?_, fun _ => .inr (.inl RecvTasklet.noConfusion)⟩
    · simp only [RecvTasklet.skbs]
      omega
    · simp only [RecvTasklet.aside, RecvTasklet.turns]
      omega
  | unpacked htaken _ _ =>
    obtain ⟨hbufs, hskbs, hwaiting, -⟩ := h
    rw [htaken] at hbufs hskbs hwaiting
    exact ⟨hbufs, hskbs, hwaiting, fun _ => .inr (.inl RecvTasklet.noConfusion)⟩
  | hooked hhanding _ _ =>
    obtain ⟨hbufs, hskbs, hwaiting, -⟩ := h
    rw [hhanding] at hbufs hskbs hwaiting
    exact ⟨hbufs, hskbs, hwaiting, fun _ => .inr (.inl RecvTasklet.noConfusion)⟩
  | returned hhanding =>
    obtain ⟨hbufs, hskbs, hwaiting, -⟩ := h
    rw [hhanding] at hbufs hskbs hwaiting
    refine ⟨hbufs, ?_, hwaiting, fun _ => .inr (.inl RecvTasklet.noConfusion)⟩
    simp only [RecvTasklet.skbs] at hskbs ⊢
    omega
  | resumed hreturned hwaits =>
    obtain ⟨hbufs, hskbs, hwaiting, -⟩ := h
    simp only [hreturned, hwaits, RecvTasklet.recvBufs, RecvTasklet.skbs, RecvTasklet.aside,
      RecvTasklet.turns] at hbufs hskbs hwaiting
    refine ⟨?_, hskbs, ?_, fun _ => .inr (.inl RecvTasklet.noConfusion)⟩
    · simp only [RecvTasklet.recvBufs]
      omega
    · simp only [RecvTasklet.aside, ReadPort.aside, RecvTasklet.turns]
      omega
  | resumed_none hreturned hnone =>
    obtain ⟨hbufs, hskbs, -, -⟩ := h
    rw [hreturned] at hbufs hskbs
    refine ⟨hbufs, hskbs, ?_, fun _ => .inr (.inl RecvTasklet.noConfusion)⟩
    -- nothing waits, and one buffer at most is about to
    have hcompleting := s.completing.aside_add_skbs_le
    have hone := s.completing.bufs_le
    have hinirp := s.inirp.aside_le_fails
    simp only [hnone, RecvTasklet.aside, RecvTasklet.turns]
    omega
  | ended hlooping hqueue =>
    obtain ⟨hbufs, hskbs, hwaiting, -⟩ := h
    rw [hlooping] at hbufs hskbs hwaiting
    exact ⟨hbufs, hskbs, hwaiting, fun hne => absurd hqueue hne⟩
  | called => exact ⟨h.bufs_eq, h.skbs_eq, h.waiting_le, h.awake⟩
  | cancelled _ _ hstopped => exact absurd (hrx_before.symm.trans hstopped) Bool.noConfusion
  | dropped _ hstopped =>
    rw [cannotRx, hstopped] at hrx_before
    cases hrx_before
  | fatal => cases hrx
  | stopped => cases hrx
  | disabled =>
    rw [cannotRx, Bool.or_true] at hrx
    cases hrx

end Circulates

theorem circulates_of_run (hs : s.Initial bufs skbs) (hle : bufs ≤ skbs)
    (hrun : Run (Step k mode mpMode) s events t) :
    t.cannotRx = false → Circulates bufs skbs t :=
  Run.invariant (I := fun t => t.cannotRx = false → Circulates bufs skbs t)
    (fun _ _ _ h hstep hrx => (h (cannotRx_of_step hstep hrx)).step hle hstep hrx) hrun
    fun _ => hs.circulates

/-- The buffers that are lost. -/
theorem lost_of_run (hs : s.Initial bufs skbs) (hrun : Run (Step k mode mpMode) s events t) :
    t.buffers.lost = events.countP RecvEvent.loses := by
  refine Run.history (I := fun events t => t.buffers.lost = events.countP RecvEvent.loses)
    (by rw [hs.buffers]; rfl) ?_ hrun
  intro events u e t _ ih hstep
  rw [List.countP_append, ← ih, List.countP_singleton]
  have hport {cannotRx : Bool} {bs : RecvBuffers} {r : ReadPort} {e : PortEvent}
      {r' : Option ReadPort} (h : r.Step cannotRx u.buffers e bs r') :
      bs.lost = u.buffers.lost + if e.loses then 1 else 0 := by
    cases h <;> rfl
  cases hstep with
  | completionReads _ h => exact hport h
  | taskletReads _ h => exact hport h
  | inirpReads _ h => exact hport h
  | _ => rfl

/-- Nothing is under way. -/
structure Quiet (s : RecvQueue) : Prop where
  completing : s.completing = .none
  tasklet : s.tasklet = .idle
  scheduled : s.scheduled = false
  inirp : s.inirp.IsDone

/-- Where nothing is under way no transfer waits, and at most one buffer has been put aside, or
two if the loop ended early. -/
theorem Circulates.quiet (h : Circulates bufs skbs s) (hquiet : s.Quiet) :
    s.rxSkbQueue = [] ∧
      bufs ≤ s.buffers.submitted + s.buffers.lost + s.inirp.bufs + (1 + s.inirp.fails) := by
  have hempty : s.rxSkbQueue = [] := by
    by_contra hne
    rcases h.awake hne with hscheduled | htasklet | hcompleting
    · rw [hquiet.scheduled] at hscheduled
      cases hscheduled
    · exact htasklet hquiet.tasklet
    · rw [hquiet.completing] at hcompleting
      cases hcompleting
  refine ⟨hempty, ?_⟩
  have hbufs := h.bufs_eq
  have hwaiting := h.waiting_le
  rw [hquiet.completing, hquiet.tasklet] at hbufs hwaiting
  simp only [hempty, Completing.bufs, Completing.aside, RecvTasklet.recvBufs, RecvTasklet.aside,
    RecvTasklet.turns, List.length_nil] at hbufs hwaiting
  omega

/-! ### The driver comes to rest -/

/-- The driver alone comes from one state to another. -/
def Settles (k : Ieee80211) (mode : RxAggMode) (mpMode : Bool) (s t : RecvQueue) : Prop :=
  ∃ more, Run (Step k mode mpMode) s more t ∧ ∀ e ∈ more, e.isDriver = true

theorem Settles.refl (s : RecvQueue) : Settles k mode mpMode s s :=
  ⟨[], .nil s, fun _ he => absurd he List.not_mem_nil⟩

theorem Settles.cons {u : RecvQueue} {e : RecvEvent} (hstep : Step k mode mpMode s e t)
    (he : e.isDriver = true) (h : Settles k mode mpMode t u) : Settles k mode mpMode s u := by
  obtain ⟨more, hrun, hdriver⟩ := h
  exact ⟨e :: more, Run.cons_iff.mpr ⟨t, hstep, hrun⟩, List.forall_mem_cons.mpr ⟨he, hdriver⟩⟩

theorem Settles.trans {u : RecvQueue} (h : Settles k mode mpMode s t)
    (h' : Settles k mode mpMode t u) : Settles k mode mpMode s u := by
  obtain ⟨more, hrun, hdriver⟩ := h
  obtain ⟨more', hrun', hdriver'⟩ := h'
  exact ⟨more ++ more', hrun.append hrun', List.forall_mem_append.mpr ⟨hdriver, hdriver'⟩⟩

/-- What waits can be read, and what is still to come to the hook fits into the module's
buffer. -/
structure Fits (mode : RxAggMode) (mpMode : Bool) (s : RecvQueue) : Prop where
  roomy : ∀ buf ∈ s.tasklet.bufs ++ (s.rxSkbQueue ++ s.completing.received), buf.Roomy mode
  waiting : ∀ buf ∈ s.tasklet.bufs ++ (s.rxSkbQueue ++ s.completing.received),
    ∀ frames, buf.Carries mpMode 0 frames → ∀ f ∈ frames, f.rxData.length ≤ beaconMaxSize
  frames : ∀ f ∈ s.tasklet.frames, f.rxData.length ≤ beaconMaxSize

section
variable (k mode mpMode)

/-- `usb_read_port` ends, for whoever has called it: where every step of it is one of the
driver, with what it leaves of the buffers, what it returns and where it is then. -/
theorem settles_port {caller : PortCaller} (put : RecvBuffers → Bool → Option ReadPort → RecvQueue)
    (hput : ∀ {bs ret r e bs' r'}, r.Step false bs e bs' r' →
      Step k mode mpMode (put bs ret (some r)) (.port caller e) (put bs' e.ret r'))
    (bs : RecvBuffers) (ret : Bool) (r : ReadPort) :
    ∃ bs' ret', Settles k mode mpMode (put bs ret (some r)) (put bs' ret' none) := by
  have hrefused (bs : RecvBuffers) (ret : Bool) :
      ∃ bs', Settles k mode mpMode (put bs ret (some .refused)) (put bs' false none) :=
    ⟨_, .cons (hput .enqueued) rfl (.refl _)⟩
  have hgranted (bs : RecvBuffers) (ret : Bool) :
      ∃ bs', Settles k mode mpMode (put bs ret (some .granted)) (put bs' true none) :=
    ⟨_, .cons (hput .submitted) rfl (.refl _)⟩
  have hasking (bs : RecvBuffers) (ret : Bool) :
      ∃ bs' ret', Settles k mode mpMode (put bs ret (some .asking)) (put bs' ret' none) := by
    cases hfree : bs.freeRecvSkbQueue with
    | zero =>
      obtain ⟨bs', h⟩ := hrefused bs false
      exact ⟨bs', false, .cons (hput (.refused hfree)) rfl h⟩
    | succ n =>
      obtain ⟨bs', h⟩ := hgranted { bs with freeRecvSkbQueue := n } false
      exact ⟨bs', true, .cons (hput (.granted hfree)) rfl h⟩
  cases r with
  | refused => exact (hrefused bs ret).imp fun _ h => ⟨false, h⟩
  | granted => exact (hgranted bs ret).imp fun _ h => ⟨true, h⟩
  | asking => exact hasking bs ret
  | entered pskb =>
    cases pskb with
    | true =>
      obtain ⟨bs', h⟩ := hgranted bs false
      exact ⟨bs', true, .cons (hput (.entered rfl)) rfl h⟩
    | false =>
      obtain ⟨bs', ret', h⟩ := hasking bs false
      exact ⟨bs', ret', .cons (hput (.entered rfl)) rfl h⟩

/-- `usb_read_port` ends, for `usb_read_port_complete`. -/
theorem settles_completionReads {s : RecvQueue} (hrx : s.cannotRx = false) (r : ReadPort)
    (h : s.completing = .reading r) :
    ∃ bs, Settles k mode mpMode s { s with buffers := bs, completing := .none } := by
  obtain ⟨bs, -, hport⟩ := settles_port k mode mpMode
    (fun bs _ r' => { s with buffers := bs, completing := r'.elim .none .reading })
    (fun hport => .completionReads rfl (hrx.symm ▸ hport)) s.buffers true r
  rw [Option.elim, ← h] at hport
  exact ⟨bs, hport⟩

/-- `usb_read_port` ends, for the tasklet. -/
theorem settles_taskletReads {s : RecvQueue} (hrx : s.cannotRx = false) (r : ReadPort)
    (h : s.tasklet = .reading r) :
    ∃ bs, Settles k mode mpMode s { s with buffers := bs, tasklet := .looping } := by
  obtain ⟨bs, -, hport⟩ := settles_port k mode mpMode
    (fun bs _ r' => { s with buffers := bs, tasklet := r'.elim .looping .reading })
    (fun hport => .taskletReads rfl (hrx.symm ▸ hport)) s.buffers true r
  rw [Option.elim, ← h] at hport
  exact ⟨bs, hport⟩

/-- `usb_read_port` ends, for the loop. -/
theorem settles_inirpReads {s : RecvQueue} (hrx : s.cannotRx = false) {n : Nat} (r : ReadPort)
    (h : s.inirp = .reading n r) : ∃ bs, ∃ ret : Bool, Settles k mode mpMode s
      { s with buffers := bs, inirp := if ret then .looping n else .failed n } := by
  obtain ⟨bs, ret, hport⟩ := settles_port k mode mpMode
    (fun bs ret r' => { s with
      buffers := bs
      inirp := r'.elim (if ret then .looping n else .failed n) (.reading n) })
    (fun hport => .inirpReads rfl (hrx.symm ▸ hport)) s.buffers true r
  rw [Option.elim, ← h] at hport
  exact ⟨bs, ret, hport⟩

/-- The loop of `rtl8188eu_inirp_init` ends. -/
theorem settles_looping_inirp {n : Nat} {s : RecvQueue} (hrx : s.cannotRx = false)
    (h : s.inirp = .looping n) : ∃ bs inirp,
      Settles k mode mpMode s { s with buffers := bs, inirp := inirp } ∧ inirp.IsDone := by
  induction n generalizing s with
  | zero => exact ⟨s.buffers, .finished, .cons (.initialized h) rfl (.refl _), trivial⟩
  | succ n ih =>
    have hstep : Step k mode mpMode s .next _ := .next h
    obtain ⟨bs, ret, hreads⟩ := settles_inirpReads k mode mpMode
      (s := { s with inirp := .reading n (.entered false) }) hrx _ rfl
    cases ret with
    | false => exact ⟨bs, .failed n, .cons hstep rfl hreads, trivial⟩
    | true =>
      obtain ⟨bs', inirp, hrest, hdone⟩ :=
        ih (s := { s with buffers := bs, inirp := .looping n }) hrx rfl
      exact ⟨bs', inirp, .cons hstep rfl (hreads.trans hrest), hdone⟩

theorem settles_inirp {s : RecvQueue} (hrx : s.cannotRx = false) : ∃ bs inirp,
    Settles k mode mpMode s { s with buffers := bs, inirp := inirp } ∧ inirp.IsDone := by
  cases hinirp : s.inirp with
  | looping n => exact settles_looping_inirp k mode mpMode hrx hinirp
  | reading n r =>
    obtain ⟨bs, ret, hreads⟩ := settles_inirpReads k mode mpMode hrx r hinirp
    cases ret with
    | false => exact ⟨bs, .failed n, hreads, trivial⟩
    | true =>
      obtain ⟨bs', inirp, hrest, hdone⟩ := settles_looping_inirp k mode mpMode
        (s := { s with buffers := bs, inirp := .looping n }) hrx rfl
      exact ⟨bs', inirp, hreads.trans hrest, hdone⟩
  | finished =>
    refine ⟨s.buffers, .finished, ?_, trivial⟩
    rw [← hinirp]
    exact .refl s
  | failed n =>
    refine ⟨s.buffers, .failed n, ?_, trivial⟩
    rw [← hinirp]
    exact .refl s

/-- `usb_read_port_complete` ends, if it does not stop the driver. -/
theorem settles_completing {s : RecvQueue} (hrx : s.cannotRx = false)
    (hstops : s.completing ≠ .passed .fatal) : ∃ bs scheduled, Settles k mode mpMode s { s with
      buffers := bs
      rxSkbQueue := s.rxSkbQueue ++ s.completing.received
      scheduled := scheduled
      completing := .none } := by
  have hrun : (s.cannotRun || false) = s.cannotRun := Bool.or_false _
  cases hcompleting : s.completing with
  | none =>
    refine ⟨s.buffers, s.scheduled, ?_⟩
    simp only [Completing.received, List.append_nil]
    rw [← hcompleting]
    exact .refl s
  | queued =>
    have hstep : Step k mode mpMode s .scheduled _ := .scheduled hcompleting
    obtain ⟨bs, h⟩ := settles_completionReads k mode mpMode
      (s := { s with scheduled := true, completing := .reading (.entered false) }) hrx _ rfl
    simp only [Completing.received, List.append_nil]
    exact ⟨bs, true, .cons hstep rfl h⟩
  | reading r =>
    obtain ⟨bs, h⟩ := settles_completionReads k mode mpMode hrx r hcompleting
    simp only [Completing.received, List.append_nil]
    exact ⟨bs, s.scheduled, h⟩
  | passed c =>
    cases c with
    | received buf =>
      have hstep₁ : Step k mode mpMode s (.received buf) _ := .received hcompleting
      have hstep₂ : Step k mode mpMode
        { s with rxSkbQueue := s.rxSkbQueue ++ [buf], completing := .queued } .scheduled _ :=
        .scheduled rfl
      obtain ⟨bs, h⟩ := settles_completionReads k mode mpMode (s := { s with
        rxSkbQueue := s.rxSkbQueue ++ [buf]
        scheduled := true
        completing := .reading (.entered false) }) hrx _ rfl
      exact ⟨bs, true, .cons hstep₁ rfl (.cons hstep₂ rfl h)⟩
    | wrongLength =>
      have hstep : Step k mode mpMode s .wrongLength _ := .wrongLength hcompleting
      obtain ⟨bs, h⟩ := settles_completionReads k mode mpMode
        (s := { s with completing := .reading (.entered true) }) hrx _ rfl
      simp only [Completing.received, List.append_nil]
      exact ⟨bs, s.scheduled, .cons hstep rfl h⟩
    | transient =>
      have hstep : Step k mode mpMode s (.urbFailed true false) _ := .transient hcompleting
      obtain ⟨bs, h⟩ := settles_completionReads k mode mpMode
        (s := { s with completing := .reading (.entered true) }) hrx _ rfl
      simp only [hrun] at hstep
      simp only [Completing.received, List.append_nil]
      exact ⟨bs, s.scheduled, .cons hstep rfl h⟩
    | other =>
      have hstep : Step k mode mpMode s (.urbFailed false false) _ := .other hcompleting
      simp only [hrun] at hstep
      simp only [Completing.received, List.append_nil]
      exact ⟨_, s.scheduled, .cons hstep rfl (.refl _)⟩
    | fatal => exact absurd hcompleting hstops

/-- A buffer that waits is taken up. -/
theorem settles_returned {s : RecvQueue} (hrx : s.cannotRx = false) (h : s.tasklet = .returned) :
    ∃ bs, Settles k mode mpMode s { s with buffers := bs, tasklet := .looping } := by
  cases hwaits : s.buffers.recvBufPendingQueue with
  | zero => exact ⟨_, .cons (.resumed_none h hwaits) rfl (.refl _)⟩
  | succ n =>
    have hstep : Step k mode mpMode s .resumed _ := .resumed h hwaits
    obtain ⟨bs, hreads⟩ := settles_taskletReads k mode mpMode (s := { s with
      buffers := { s.buffers with recvBufPendingQueue := n }
      tasklet := .reading (.entered false) }) hrx _ rfl
    exact ⟨bs, .cons hstep rfl hreads⟩

/-- A packet that fits can be hooked in every state of the device. -/
theorem hook_of_fits (skb : SkBuff) {device : DeviceState} {calls : List DeviceCall}
    (hdevice : device.Invariant calls) (hfits : skb.data.length ≤ beaconMaxSize) :
    ∃ device' calls', Run DeviceState.Step device (skb.hook k) device' ∧
      device'.Invariant calls' := by
  rw [SkBuff.hook]
  split
  · obtain ⟨device', hstep⟩ := hdevice.enabled.1 skb.data hfits
    exact ⟨device', _, (Run.nil device).snoc hstep, hdevice.step hstep⟩
  · exact ⟨device, calls, .nil device, hdevice⟩

/-- The packets of a transfer come to the hook, and its memory is freed. -/
theorem settles_handing {calls : List DeviceCall} {frames : List RecvFrame} {s : RecvQueue}
    (hrx : s.cannotRx = false) (h : s.tasklet = .handing frames)
    (hdevice : s.device.Invariant calls) (hfits : ∀ f ∈ frames, f.rxData.length ≤ beaconMaxSize) :
    ∃ bs device calls', Settles k mode mpMode s
        { s with buffers := bs, tasklet := .looping, device := device } ∧
      device.Invariant calls' := by
  induction frames generalizing s calls with
  | nil =>
    have hstep : Step k mode mpMode s .returned _ := .returned h
    obtain ⟨bs, hreturned⟩ := settles_returned k mode mpMode (s := { s with
      buffers := { s.buffers with freeRecvSkbQueue := s.buffers.freeRecvSkbQueue + 1 }
      tasklet := .returned }) hrx rfl
    exact ⟨bs, s.device, calls, .cons hstep rfl hreturned, hdevice⟩
  | cons f frames ih =>
    rw [List.forall_mem_cons] at hfits
    obtain ⟨device, calls', hhook, hdevice⟩ := hook_of_fits k ⟨f.rxData, fun _ => 0⟩ hdevice hfits.1
    have hstep : Step k mode mpMode s (.hooked ⟨f.rxData, fun _ => 0⟩) _ := .hooked h rfl hhook
    obtain ⟨bs, device', calls'', hrest, hdevice⟩ :=
      ih (s := { s with tasklet := .handing frames, device := device }) hrx rfl hdevice hfits.2
    exact ⟨bs, device', calls'', .cons hstep rfl hrest, hdevice⟩

/-- A transfer that the tasklet has taken is worked on. -/
theorem settles_taken {calls : List DeviceCall} {buf : RecvBuf} {s : RecvQueue}
    (hrx : s.cannotRx = false) (h : s.tasklet = .taken buf) (hdevice : s.device.Invariant calls)
    (hroomy : buf.Roomy mode) (hfits : ∀ frames, buf.Carries mpMode 0 frames →
      ∀ f ∈ frames, f.rxData.length ≤ beaconMaxSize) :
    ∃ bs device calls', Settles k mode mpMode s
        { s with buffers := bs, tasklet := .looping, device := device } ∧
      device.Invariant calls' := by
  obtain ⟨frames, hframes⟩ := RecvBuf.ok_of_roomy hroomy mpMode (fun _ => true) fun _ => true
  have hstep : Step k mode mpMode s (.unpacked buf frames) _ :=
    .unpacked h (Bool.or_eq_false_iff.mp hrx).1 hframes
  obtain ⟨bs, device, calls', hhanding, hdevice⟩ := settles_handing k mode mpMode
    (s := { s with tasklet := .handing frames }) hrx rfl hdevice
    (hfits frames (RecvBuf.carries_of_ok hframes))
  exact ⟨bs, device, calls', .cons hstep rfl hhanding, hdevice⟩

/-- The tasklet empties the queue. -/
theorem settles_looping {calls : List DeviceCall} {rx : List RecvBuf} {s : RecvQueue}
    (hrx : s.cannotRx = false) (h : s.tasklet = .looping) (hqueue : s.rxSkbQueue = rx)
    (hdevice : s.device.Invariant calls) (hroomy : ∀ buf ∈ rx, buf.Roomy mode)
    (hfits : ∀ buf ∈ rx, ∀ frames, buf.Carries mpMode 0 frames →
      ∀ f ∈ frames, f.rxData.length ≤ beaconMaxSize) :
    ∃ bs device calls', Settles k mode mpMode s
        { s with buffers := bs, rxSkbQueue := [], tasklet := .idle, device := device } ∧
      device.Invariant calls' := by
  induction rx generalizing s calls with
  | nil =>
    have hstep : Step k mode mpMode s .ended _ := .ended h hqueue
    refine ⟨s.buffers, s.device, calls, .cons hstep rfl ?_, hdevice⟩
    rw [← hqueue]
    exact .refl _
  | cons buf rx ih =>
    rw [List.forall_mem_cons] at hroomy hfits
    have hstep : Step k mode mpMode s (.dequeued buf) _ := .dequeued h hqueue
    obtain ⟨bs, device, calls', htaken, hdevice⟩ := settles_taken k mode mpMode
      (s := { s with rxSkbQueue := rx, tasklet := .taken buf }) hrx rfl hdevice hroomy.1 hfits.1
    obtain ⟨bs', device', calls'', hrest, hdevice⟩ := ih (s := { s with
      buffers := bs, rxSkbQueue := rx, tasklet := .looping, device := device }) hrx rfl rfl hdevice
        hroomy.2 hfits.2
    exact ⟨bs', device', calls'', .cons hstep rfl (htaken.trans hrest), hdevice⟩

/-- A tasklet that is scheduled runs. -/
theorem settles_idle {calls : List DeviceCall} {s : RecvQueue} (hrx : s.cannotRx = false)
    (hidle : s.tasklet = .idle) (hdevice : s.device.Invariant calls)
    (hroomy : ∀ buf ∈ s.rxSkbQueue, buf.Roomy mode)
    (hfits : ∀ buf ∈ s.rxSkbQueue, ∀ frames, buf.Carries mpMode 0 frames →
      ∀ f ∈ frames, f.rxData.length ≤ beaconMaxSize) :
    ∃ bs rx device, Settles k mode mpMode s { s with
      buffers := bs, rxSkbQueue := rx, scheduled := false, tasklet := .idle,
      device := device } := by
  cases hscheduled : s.scheduled with
  | false =>
    refine ⟨s.buffers, s.rxSkbQueue, s.device, ?_⟩
    rw [← hscheduled, ← hidle]
    exact .refl s
  | true =>
    have hstep : Step k mode mpMode s .started _ := .started hidle hscheduled
    obtain ⟨bs, device, -, h, -⟩ := settles_looping k mode mpMode
      (s := { s with scheduled := false, tasklet := .looping }) hrx rfl rfl hdevice hroomy hfits
    exact ⟨bs, [], device, .cons hstep rfl h⟩

/-- So does one that looks for a transfer. -/
theorem settles_busy {calls : List DeviceCall} {s : RecvQueue} (hrx : s.cannotRx = false)
    (hlooping : s.tasklet = .looping) (hdevice : s.device.Invariant calls)
    (hroomy : ∀ buf ∈ s.rxSkbQueue, buf.Roomy mode)
    (hfits : ∀ buf ∈ s.rxSkbQueue, ∀ frames, buf.Carries mpMode 0 frames →
      ∀ f ∈ frames, f.rxData.length ≤ beaconMaxSize) :
    ∃ bs rx device, Settles k mode mpMode s { s with
      buffers := bs, rxSkbQueue := rx, scheduled := false, tasklet := .idle,
      device := device } := by
  obtain ⟨bs, device, calls', h, hdevice⟩ :=
    settles_looping k mode mpMode hrx hlooping rfl hdevice hroomy hfits
  obtain ⟨bs', rx, device', hrest⟩ := settles_idle k mode mpMode (s := { s with
    buffers := bs, rxSkbQueue := [], tasklet := .idle, device := device }) hrx rfl hdevice
      (fun _ hbuf => absurd hbuf List.not_mem_nil) fun _ hbuf => absurd hbuf List.not_mem_nil
  exact ⟨bs', rx, device', h.trans hrest⟩

/-- The tasklet ends, wherever it is. -/
theorem settles_tasklet {calls : List DeviceCall} {s : RecvQueue} (hrx : s.cannotRx = false)
    (hdevice : s.device.Invariant calls) (hfits : s.Fits mode mpMode) :
    ∃ bs rx device, Settles k mode mpMode s { s with
      buffers := bs, rxSkbQueue := rx, scheduled := false, tasklet := .idle,
      device := device } := by
  obtain ⟨hroomy, hwaiting, hframes⟩ := hfits
  rw [List.forall_mem_append, List.forall_mem_append] at hroomy hwaiting
  have hbusy {bs : RecvBuffers} {device : DeviceState} {calls : List DeviceCall}
      (hdevice : device.Invariant calls)
      (h : Settles k mode mpMode s { s with
        buffers := bs, tasklet := .looping, device := device }) :
      ∃ bs rx device, Settles k mode mpMode s { s with
        buffers := bs, rxSkbQueue := rx, scheduled := false, tasklet := .idle,
        device := device } := by
    obtain ⟨bs', rx, device', hrest⟩ := settles_busy k mode mpMode (s := { s with
      buffers := bs, tasklet := .looping, device := device }) hrx rfl hdevice hroomy.2.1
        hwaiting.2.1
    exact ⟨bs', rx, device', h.trans hrest⟩
  cases htasklet : s.tasklet with
  | idle => exact settles_idle k mode mpMode hrx htasklet hdevice hroomy.2.1 hwaiting.2.1
  | looping => exact settles_busy k mode mpMode hrx htasklet hdevice hroomy.2.1 hwaiting.2.1
  | returned =>
    obtain ⟨bs, h⟩ := settles_returned k mode mpMode hrx htasklet
    exact hbusy hdevice h
  | reading r =>
    obtain ⟨bs, h⟩ := settles_taskletReads k mode mpMode hrx r htasklet
    exact hbusy hdevice h
  | taken buf =>
    rw [htasklet] at hroomy hwaiting
    obtain ⟨bs, device, calls', h, hdevice⟩ := settles_taken k mode mpMode hrx htasklet hdevice
      (hroomy.1 buf (List.mem_singleton_self buf)) (hwaiting.1 buf (List.mem_singleton_self buf))
    exact hbusy hdevice h
  | handing frames =>
    rw [htasklet] at hframes
    obtain ⟨bs, device, calls', h, hdevice⟩ :=
      settles_handing k mode mpMode hrx htasklet hdevice hframes
    exact hbusy hdevice h

/-- The driver alone comes to rest. -/
theorem settles {calls : List DeviceCall} {s : RecvQueue} (hrx : s.cannotRx = false)
    (hdevice : s.device.Invariant calls) (hfits : s.Fits mode mpMode) :
    ∃ u, Settles k mode mpMode s u ∧ u.Quiet := by
  by_cases hstops : s.completing = .passed .fatal
  · -- the step that stops the driver comes last
    obtain ⟨bs, inirp, hinirp, hdone⟩ := settles_inirp k mode mpMode hrx
    obtain ⟨bs', rx, device, htasklet⟩ := settles_tasklet k mode mpMode
      (s := { s with buffers := bs, inirp := inirp }) hrx hdevice
        ⟨hfits.roomy, hfits.waiting, hfits.frames⟩
    have hstep : Step k mode mpMode { s with
        buffers := bs', rxSkbQueue := rx, scheduled := false, tasklet := .idle, inirp := inirp,
        device := device } (.urbFailed false false) _ := .fatal hstops
    exact ⟨_, hinirp.trans (htasklet.trans (.cons hstep rfl (.refl _))), rfl, rfl, rfl, hdone⟩
  · obtain ⟨bs, scheduled, hcompleting⟩ := settles_completing k mode mpMode hrx hstops
    obtain ⟨bs', inirp, hinirp, hdone⟩ := settles_inirp k mode mpMode (s := { s with
      buffers := bs, rxSkbQueue := s.rxSkbQueue ++ s.completing.received, scheduled := scheduled,
      completing := .none }) hrx
    obtain ⟨bs'', rx, device, htasklet⟩ := settles_tasklet k mode mpMode (s := { s with
      buffers := bs', rxSkbQueue := s.rxSkbQueue ++ s.completing.received, scheduled := scheduled,
      completing := .none, inirp := inirp }) hrx hdevice
      ⟨by simpa only [Completing.received, List.append_nil] using hfits.roomy,
        by simpa only [Completing.received, List.append_nil] using hfits.waiting, hfits.frames⟩
    exact ⟨_, hcompleting.trans (hinirp.trans htasklet), rfl, rfl, rfl, hdone⟩

end

/-- **Reception never stalls** before the driver is stopped.  With at least as many pieces of
memory as buffers, in every state that a run reaches with nothing under way all transfers have
been taken and all their packets have come to the hook, in order, and the device has all
buffers to fill but those that were lost to a failure and at most one; where the loop has ended
early, but those that it has not come to and at most two.  And from every state that a run
reaches the driver alone comes to such a state, if what waits can be read and fits. -/
theorem settles_of_run (hs : s.Initial bufs skbs) (hle : bufs ≤ skbs) (hdevice : s.device.Initial)
    (hrun : Run (Step k mode mpMode) s events t) (hrx : t.cannotRx = false) :
    (t.Quiet → RecvEvent.completedBufs events = (RecvEvent.taken events).map Prod.fst ∧
      RecvEvent.handedOn events =
        (RecvEvent.taken events).flatMap (fun p => p.2.map RecvFrame.rxData) ∧
      (∀ p ∈ RecvEvent.taken events, p.1.Carries mpMode 0 p.2) ∧
      (t.inirp = .finished → bufs ≤ t.buffers.submitted + events.countP RecvEvent.loses + 1) ∧
      ∀ n, t.inirp = .failed n →
        bufs ≤ t.buffers.submitted + events.countP RecvEvent.loses + n + 2) ∧
    (t.Fits mode mpMode → ∃ more u, Run (Step k mode mpMode) t more u ∧
      (∀ e ∈ more, e.isDriver = true) ∧ u.Quiet) := by
  refine ⟨fun hquiet => ?_, fun hfits => ?_⟩
  · obtain ⟨hempty, hsubmitted⟩ := (circulates_of_run hs hle hrun hrx).quiet hquiet
    rw [lost_of_run hs hrun] at hsubmitted
    obtain ⟨hcompleted, hdropped, hhanded, hcarried⟩ := ordered_of_run hs hrun
    have hnone : RecvEvent.droppedBufs events = [] := by
      by_contra hne
      rw [cannotRx, hdropped hne] at hrx
      cases hrx
    rw [hempty, hnone, hquiet.tasklet] at hcompleted
    simp only [hquiet.tasklet, RecvTasklet.frames, List.map_nil, List.append_nil] at hhanded
    refine ⟨by simpa only [RecvTasklet.bufs, List.append_nil] using hcompleted, hhanded.symm,
      hcarried, fun hfinished => ?_, fun n hfailed => ?_⟩
    · simp only [hfinished, Inirp.bufs, Inirp.fails] at hsubmitted
      omega
    · simp only [hfailed, Inirp.bufs, Inirp.fails] at hsubmitted
      omega
  · obtain ⟨u, ⟨more, hmore, hdriver⟩, hquiet⟩ := settles k mode mpMode hrx
      (DeviceState.invariant_of_run hdevice (device_of_run hrun)) hfits
    exact ⟨more, u, hmore, hdriver, hquiet⟩

end

/-- All buffers are given to the device. -/
theorem submissions_run (k : Ieee80211) (mode : RxAggMode) (mpMode : Bool)
    (n left free : Nat) {s : RecvQueue} (hrx : s.cannotRx = false)
    (hinirp : s.inirp = .looping (left + n)) (hfree : s.buffers.freeRecvSkbQueue = free + n) :
    Run (Step k mode mpMode) s (List.replicate n submission).flatten { s with
      buffers := { s.buffers with
        submitted := s.buffers.submitted + n, freeRecvSkbQueue := free }
      inirp := .looping left } := by
  induction n generalizing s with
  | zero =>
    simp only [Nat.add_zero] at hinirp hfree ⊢
    rw [← hinirp, ← hfree]
    exact .nil s
  | succ n ih =>
    rw [List.replicate_succ, List.flatten_cons]
    have hone := submission_run k mode mpMode hrx hinirp hfree
    have hrest := ih (s := { s with
      buffers := { s.buffers with
        submitted := s.buffers.submitted + 1, freeRecvSkbQueue := free + n }
      inirp := .looping (left + n) }) hrx rfl rfl
    simp only [Nat.add_assoc, Nat.add_comm 1 n] at hrest
    exact hone.append hrest

/-- The loop comes to its end. -/
def inirpEvents : List RecvEvent :=
  (List.replicate nrRecvbuff submission).flatten ++ [.initialized]

/-- A transfer is completed and its buffer finds no memory; the tasklet, for which memory is
refused as well, finds no buffer that waits; and then the buffer is put aside. -/
def asideEvents : List RecvEvent :=
  [.completed (.received aggBuf), .received aggBuf, .scheduled, .port .completion .entered,
    .port .completion .refused, .started, .dequeued aggBuf, .unpacked aggBuf [], .returned,
    .resumed, .ended, .port .completion .enqueued]

/-- **A buffer is put aside** while the memory that it waits for is freed. -/
theorem recvBoot_aside : ∃ t,
    Run (Step linuxIeee80211 .usb false) recvBoot (inirpEvents ++ asideEvents) t ∧
    t.buffers = ⟨7, 1, 0, 1⟩ ∧ t.inirp = .finished ∧ t.cannotRx = false ∧ t.Quiet := by
  have hnothing : aggBuf.recvbuf2recvframe .usb false (fun _ => false) (fun _ => true) =
      .ok [] := by
    rw [RecvBuf.recvbuf2recvframe, aggBuf.read_first]
    simp only
    rw [Receiving.loop, if_pos rfl]
  have hloop := submissions_run linuxIeee80211 .usb false nrRecvbuff 0 0 (s := recvBoot)
    rfl rfl rfl
  have h₁ := (hloop.snoc (.initialized rfl)).snoc (.completed (c := .received aggBuf) rfl rfl rfl)
  have h₂ := ((h₁.snoc (.received rfl)).snoc (.scheduled rfl)).snoc
    (.completionReads rfl (.entered rfl))
  have h₃ := (h₂.snoc (.completionReads rfl (.refused rfl))).snoc (.started rfl rfl)
  have h₄ := (h₃.snoc (.dequeued rfl rfl)).snoc (.unpacked rfl rfl hnothing)
  have h₅ := ((h₄.snoc (.returned rfl)).snoc (.resumed_none rfl rfl)).snoc (.ended rfl rfl)
  exact ⟨_, h₅.snoc (.completionReads rfl .enqueued), rfl, rfl, rfl, rfl, rfl, rfl, trivial⟩

/-- What holds then. -/
theorem settles_of_run_aside : ∃ t,
    Run (Step linuxIeee80211 .usb false) recvBoot (inirpEvents ++ asideEvents) t ∧
    t.buffers = ⟨7, 1, 0, 1⟩ ∧ t.Quiet ∧
    RecvEvent.completedBufs (inirpEvents ++ asideEvents) =
      (RecvEvent.taken (inirpEvents ++ asideEvents)).map Prod.fst ∧
    nrRecvbuff ≤ t.buffers.submitted +
      (inirpEvents ++ asideEvents).countP RecvEvent.loses + 1 := by
  obtain ⟨t, hrun, hbuffers, hfinished, hrx, hquiet⟩ := recvBoot_aside
  obtain ⟨hcompleted, -, -, hsubmitted, -⟩ := (settles_of_run recvBoot_initial (Nat.le_refl _)
    DeviceState.boot_initial hrun hrx).1 hquiet
  exact ⟨t, hrun, hbuffers, hquiet, hcompleted, hsubmitted hfinished⟩

end RecvQueue

end SnapDesk
