import SnapDesk.RecvBuf
import SnapDesk.RxQueue

/-! # The receive tasklet of the other driver

`usb_read_port_complete`, `usb_read_port` and `usb_recv_tasklet` (`usb_ops_linux.c`), around
`recvbuf2recvframe` and its hook, with the loop of `rtl8188eu_inirp_init`
(`usb_halinit.c`) that starts them, as `autoconf.h` configures them.  There are
`NR_RECVBUFF` buffers and `NR_PREALLOC_RECV_SKB` pieces of memory.  A buffer is given memory
and to the device; with a transfer in it its memory goes into `rx_skb_queue` and the buffer
asks for other memory, or waits in `recv_buf_pending_queue` until the tasklet has worked on a
transfer and frees its memory.

One step is one access to a queue or to the flags that stop the driver.  The transfers of a
device are completed one after the other, a tasklet does not run twice at once, the loop runs
once, and between any two steps other processes may use the device.  A transfer may fail, and
so may `usb_submit_urb`; and the driver may be stopped at any time, for good.

What a process reads are beginnings of a packet of a transfer (`reads_carried`). -/
namespace SnapDesk
open Transition

/-- `NR_RECVBUFF`. -/
def nrRecvbuff : Nat := 8

/-- `NR_PREALLOC_RECV_SKB`. -/
def nrPreallocRecvSkb : Nat := 8

/-! ### A buffer for the device -/

/-- Where a call of `usb_read_port` is, for a buffer with or without memory. -/
inductive ReadPort where
  | entered (pskb : Bool)
  | asking
  | refused
  | granted

/-- How many buffers the device has to fill, how many wait for memory and how many are in no
queue any more, and how much memory is free. -/
structure RecvBuffers where
  submitted : Nat
  recvBufPendingQueue : Nat
  lost : Nat
  freeRecvSkbQueue : Nat

/-- What `usb_read_port` does next. -/
inductive PortEvent where
  /-- It returns, since the driver cannot receive. -/
  | stopped
  | entered
  | granted
  | refused
  | enqueued
  | submitted
  /-- `usb_submit_urb` fails; `eperm` says whether with `-EPERM`. -/
  | failed (eperm : Bool)

namespace PortEvent

/-- What it returns, where it does: `-EPERM` is not taken for a failure. -/
def ret : PortEvent → Bool
  | submitted => true
  | failed eperm => eperm
  | _ => false

/-- The buffer goes to no queue. -/
def loses : PortEvent → Bool
  | stopped | failed _ => true
  | _ => false

end PortEvent

/-- `usb_read_port`, where `cannotRx` is `RTW_CANNOT_RX`. -/
inductive ReadPort.Step (cannotRx : Bool) :
    RecvBuffers → ReadPort → PortEvent → RecvBuffers → Option ReadPort → Prop
  | stopped {bs : RecvBuffers} {pskb : Bool} (h : cannotRx = true) :
      Step cannotRx bs (.entered pskb) .stopped { bs with lost := bs.lost + 1 } none
  | entered {bs : RecvBuffers} {pskb : Bool} (h : cannotRx = false) :
      Step cannotRx bs (.entered pskb) .entered bs (some (if pskb then .granted else .asking))
  | granted {bs : RecvBuffers} {n : Nat} (h : bs.freeRecvSkbQueue = n + 1) :
      Step cannotRx bs .asking .granted { bs with freeRecvSkbQueue := n } (some .granted)
  | refused {bs : RecvBuffers} (h : bs.freeRecvSkbQueue = 0) :
      Step cannotRx bs .asking .refused bs (some .refused)
  | enqueued {bs : RecvBuffers} :
      Step cannotRx bs .refused .enqueued
        { bs with recvBufPendingQueue := bs.recvBufPendingQueue + 1 } none
  | submitted {bs : RecvBuffers} :
      Step cannotRx bs .granted .submitted { bs with submitted := bs.submitted + 1 } none
  | failed {bs : RecvBuffers} {eperm : Bool} :
      Step cannotRx bs .granted (.failed eperm) { bs with lost := bs.lost + 1 } none

/-! ### The functions that are under way -/

/-- What the device returns a buffer with. -/
inductive Completion where
  /-- A transfer. -/
  | received (buf : RecvBuf)
  /-- A transfer that is too short for a descriptor, or too long. -/
  | wrongLength
  /-- `-EPROTO`, `-EILSEQ`, `-ETIME`, `-ECOMM`, `-EOVERFLOW`. -/
  | transient
  /-- `-EINVAL`, `-EPIPE`, `-ENODEV`, `-ESHUTDOWN`, `-ENOENT`. -/
  | fatal
  /-- Another status. -/
  | other

/-- Where `usb_read_port_complete` is. -/
inductive Completing where
  | none
  | passed (c : Completion)
  | queued
  | reading (r : ReadPort)

/-- Where `usb_recv_tasklet` is. -/
inductive RecvTasklet where
  | idle
  | looping
  | taken (buf : RecvBuf)
  | handing (frames : List RecvFrame)
  | returned
  | reading (r : ReadPort)

/-- The packets of the transfer that are still to come to the hook. -/
def RecvTasklet.frames : RecvTasklet → List RecvFrame
  | handing frames => frames
  | _ => []

/-- The transfer whose packets are still to be found. -/
def RecvTasklet.bufs : RecvTasklet → List RecvBuf
  | taken buf => [buf]
  | _ => []

/-- Where the loop of `rtl8188eu_inirp_init` is, with the buffers that it has not come to. -/
inductive Inirp where
  | looping (left : Nat)
  | reading (left : Nat) (r : ReadPort)
  | finished
  | failed (left : Nat)

/-- `struct recv_priv`, with the flags, the functions that are under way and the device that
the packets are published to. -/
structure RecvQueue where
  buffers : RecvBuffers
  rxSkbQueue : List RecvBuf
  scheduled : Bool
  /-- `RTW_CANNOT_RUN`. -/
  cannotRun : Bool
  /-- `DF_RX_BIT`. -/
  rxDisabled : Bool
  completing : Completing
  tasklet : RecvTasklet
  inirp : Inirp
  device : DeviceState

/-- `RTW_CANNOT_RX`. -/
def RecvQueue.cannotRx (s : RecvQueue) : Bool := s.cannotRun || s.rxDisabled

/-- Who has called `usb_read_port`. -/
inductive PortCaller where
  | completion
  | tasklet
  | inirp

/-- One access to a queue or a flag, or a call of the device. -/
inductive RecvEvent where
  /-- The loop of `rtl8188eu_inirp_init` comes to the next buffer. -/
  | next
  /-- It comes to its end. -/
  | initialized
  /-- The device returns a buffer. -/
  | completed (c : Completion)
  /-- The device returns a buffer while the driver cannot receive. -/
  | cancelled
  /-- `usb_read_port_complete` puts a transfer into the queue. -/
  | received (buf : RecvBuf)
  /-- `usb_read_port_complete` schedules the tasklet. -/
  | scheduled
  /-- `usb_read_port_complete` has a transfer of the wrong length. -/
  | wrongLength
  /-- `usb_read_port_complete` has a transfer that failed; `removed` says whether there were
  too many errors in a row. -/
  | urbFailed (resubmitted removed : Bool)
  /-- `usb_read_port` goes on. -/
  | port (caller : PortCaller) (e : PortEvent)
  | started
  /-- The tasklet takes a transfer. -/
  | dequeued (buf : RecvBuf)
  /-- The tasklet ends, since the driver cannot run. -/
  | dropped (buf : RecvBuf)
  /-- `recvbuf2recvframe` makes packets of the transfer. -/
  | unpacked (buf : RecvBuf) (frames : List RecvFrame)
  /-- A packet comes to the hook. -/
  | hooked (skb : SkBuff)
  /-- The tasklet frees the memory of the transfer. -/
  | returned
  /-- The tasklet looks for a buffer that waits. -/
  | resumed
  | ended
  /-- The driver is stopped, or the device removed. -/
  | stopped
  /-- Reception is disabled. -/
  | disabled
  /-- A process opens, reads or releases the device. -/
  | called (c : DeviceCall)

namespace RecvEvent

/-- The transfers that came into the queue. -/
def completedBufs (events : List RecvEvent) : List RecvBuf :=
  events.filterMap fun
    | received buf => some buf
    | _ => none

/-- The transfers that the tasklet has worked on, with their packets. -/
def taken (events : List RecvEvent) : List (RecvBuf × List RecvFrame) :=
  events.filterMap fun
    | unpacked buf frames => some (buf, frames)
    | _ => none

/-- The transfers that it has dropped. -/
def droppedBufs (events : List RecvEvent) : List RecvBuf :=
  events.filterMap fun
    | dropped buf => some buf
    | _ => none

/-- The packets that have come to the hook. -/
def handedOn (events : List RecvEvent) : List (List UInt8) :=
  events.filterMap fun
    | hooked skb => some skb.data
    | _ => none

theorem completedBufs_append (events more : List RecvEvent) :
    completedBufs (events ++ more) = completedBufs events ++ completedBufs more :=
  List.filterMap_append

theorem taken_append (events more : List RecvEvent) :
    taken (events ++ more) = taken events ++ taken more := List.filterMap_append

theorem droppedBufs_append (events more : List RecvEvent) :
    droppedBufs (events ++ more) = droppedBufs events ++ droppedBufs more := List.filterMap_append

theorem handedOn_append (events more : List RecvEvent) :
    handedOn (events ++ more) = handedOn events ++ handedOn more := List.filterMap_append

/-- Nothing happens to transfers and packets. -/
def isSilent : RecvEvent → Bool
  | received _ | dequeued _ | dropped _ | unpacked _ _ | hooked _ => false
  | _ => true

theorem isSilent_parts {e : RecvEvent} (h : e.isSilent = true) : completedBufs [e] = [] ∧
    taken [e] = [] ∧ droppedBufs [e] = [] ∧ handedOn [e] = [] := by
  cases e with
  | received | dequeued | dropped | unpacked | hooked => cases h
  | _ => exact ⟨rfl, rfl, rfl, rfl⟩

/-- A buffer goes to no queue. -/
def loses : RecvEvent → Bool
  | cancelled => true
  | urbFailed resubmitted _ => !resubmitted
  | port _ e => e.loses
  | _ => false

/-- Neither the device nor another process does it, and nobody stops the driver. -/
def isDriver : RecvEvent → Bool
  | completed _ | cancelled | stopped | disabled | called _ => false
  | _ => true

end RecvEvent

section
variable (k : Ieee80211)

/-- The hook. -/
def SkBuff.hook (skb : SkBuff) : List DeviceCall :=
  if k.isBeacon skb.frameControl then [.updateBeacon skb.data] else []

/-- What happened to the device. -/
def RecvEvent.calls : RecvEvent → List DeviceCall
  | hooked skb => skb.hook k
  | called c => [c]
  | _ => []

end

namespace RecvQueue

/-- One access. -/
inductive Step (k : Ieee80211) (mode : RxAggMode) (mpMode : Bool) :
    RecvQueue → RecvEvent → RecvQueue → Prop
  | next {s : RecvQueue} {n : Nat} (h : s.inirp = .looping (n + 1)) :
      Step k mode mpMode s .next { s with inirp := .reading n (.entered false) }
  | initialized {s : RecvQueue} (h : s.inirp = .looping 0) :
      Step k mode mpMode s .initialized { s with inirp := .finished }
  | completed {s : RecvQueue} {c : Completion} {n : Nat} (hnone : s.completing = .none)
      (h : s.buffers.submitted = n + 1) (hrx : s.cannotRx = false) :
      Step k mode mpMode s (.completed c) { s with
        buffers := { s.buffers with submitted := n }
        completing := .passed c }
  | cancelled {s : RecvQueue} {n : Nat} (hnone : s.completing = .none)
      (h : s.buffers.submitted = n + 1) (hrx : s.cannotRx = true) :
      Step k mode mpMode s .cancelled { s with
        buffers := { s.buffers with submitted := n, lost := s.buffers.lost + 1 } }
  | received {s : RecvQueue} {buf : RecvBuf} (h : s.completing = .passed (.received buf)) :
      Step k mode mpMode s (.received buf)
        { s with rxSkbQueue := s.rxSkbQueue ++ [buf], completing := .queued }
  | scheduled {s : RecvQueue} (h : s.completing = .queued) :
      Step k mode mpMode s .scheduled
        { s with scheduled := true, completing := .reading (.entered false) }
  | wrongLength {s : RecvQueue} (h : s.completing = .passed .wrongLength) :
      Step k mode mpMode s .wrongLength { s with completing := .reading (.entered true) }
  | transient {s : RecvQueue} {removed : Bool} (h : s.completing = .passed .transient) :
      Step k mode mpMode s (.urbFailed true removed) { s with
        cannotRun := s.cannotRun || removed
        completing := .reading (.entered true) }
  | fatal {s : RecvQueue} {removed : Bool} (h : s.completing = .passed .fatal) :
      Step k mode mpMode s (.urbFailed false removed) { s with
        buffers := { s.buffers with lost := s.buffers.lost + 1 }
        cannotRun := true
        completing := .none }
  | other {s : RecvQueue} {removed : Bool} (h : s.completing = .passed .other) :
      Step k mode mpMode s (.urbFailed false removed) { s with
        buffers := { s.buffers with lost := s.buffers.lost + 1 }
        cannotRun := s.cannotRun || removed
        completing := .none }
  | completionReads {s : RecvQueue} {r : ReadPort} {e : PortEvent} {bs : RecvBuffers}
      {r' : Option ReadPort} (h : s.completing = .reading r)
      (hport : r.Step s.cannotRx s.buffers e bs r') :
      Step k mode mpMode s (.port .completion e)
        { s with buffers := bs, completing := r'.elim .none .reading }
  | taskletReads {s : RecvQueue} {r : ReadPort} {e : PortEvent} {bs : RecvBuffers}
      {r' : Option ReadPort} (h : s.tasklet = .reading r)
      (hport : r.Step s.cannotRx s.buffers e bs r') :
      Step k mode mpMode s (.port .tasklet e)
        { s with buffers := bs, tasklet := r'.elim .looping .reading }
  | inirpReads {s : RecvQueue} {n : Nat} {r : ReadPort} {e : PortEvent} {bs : RecvBuffers}
      {r' : Option ReadPort} (h : s.inirp = .reading n r)
      (hport : r.Step s.cannotRx s.buffers e bs r') :
      Step k mode mpMode s (.port .inirp e) { s with
        buffers := bs
        inirp := r'.elim (if e.ret then .looping n else .failed n) (.reading n) }
  | started {s : RecvQueue} (hidle : s.tasklet = .idle) (h : s.scheduled = true) :
      Step k mode mpMode s .started { s with scheduled := false, tasklet := .looping }
  | dequeued {s : RecvQueue} {buf : RecvBuf} {rest : List RecvBuf} (hlooping : s.tasklet = .looping)
      (h : s.rxSkbQueue = buf :: rest) :
      Step k mode mpMode s (.dequeued buf) { s with rxSkbQueue := rest, tasklet := .taken buf }
  | dropped {s : RecvQueue} {buf : RecvBuf} (h : s.tasklet = .taken buf)
      (hrun : s.cannotRun = true) :
      Step k mode mpMode s (.dropped buf) { s with tasklet := .idle }
  | unpacked {s : RecvQueue} {buf : RecvBuf} {alloc copy : Nat → Bool} {frames : List RecvFrame}
      (h : s.tasklet = .taken buf) (hrun : s.cannotRun = false)
      (hframes : buf.recvbuf2recvframe mode mpMode alloc copy = .ok frames) :
      Step k mode mpMode s (.unpacked buf frames) { s with tasklet := .handing frames }
  | hooked {s : RecvQueue} {f : RecvFrame} {frames : List RecvFrame} {skb : SkBuff}
      {device : DeviceState} (h : s.tasklet = .handing (f :: frames)) (hskb : skb.data = f.rxData)
      (hdevice : Run DeviceState.Step s.device (skb.hook k) device) :
      Step k mode mpMode s (.hooked skb) { s with tasklet := .handing frames, device := device }
  | returned {s : RecvQueue} (h : s.tasklet = .handing []) :
      Step k mode mpMode s .returned { s with
        buffers := { s.buffers with freeRecvSkbQueue := s.buffers.freeRecvSkbQueue + 1 }
        tasklet := .returned }
  | resumed {s : RecvQueue} {n : Nat} (h : s.tasklet = .returned)
      (hwaits : s.buffers.recvBufPendingQueue = n + 1) :
      Step k mode mpMode s .resumed { s with
        buffers := { s.buffers with recvBufPendingQueue := n }
        tasklet := .reading (.entered false) }
  | resumed_none {s : RecvQueue} (h : s.tasklet = .returned)
      (hnone : s.buffers.recvBufPendingQueue = 0) :
      Step k mode mpMode s .resumed { s with tasklet := .looping }
  | ended {s : RecvQueue} (hlooping : s.tasklet = .looping) (h : s.rxSkbQueue = []) :
      Step k mode mpMode s .ended { s with tasklet := .idle }
  | stopped {s : RecvQueue} : Step k mode mpMode s .stopped { s with cannotRun := true }
  | disabled {s : RecvQueue} : Step k mode mpMode s .disabled { s with rxDisabled := true }
  | called {s : RecvQueue} {c : DeviceCall} {device : DeviceState}
      (hc : ∀ b, c ≠ .updateBeacon b) (hdevice : DeviceState.Step s.device c device) :
      Step k mode mpMode s (.called c) { s with device := device }

/-- After `usb_init_recv_priv`, before `rtl8188eu_inirp_init`. -/
structure Initial (s : RecvQueue) (bufs skbs : Nat) : Prop where
  buffers : s.buffers = ⟨0, 0, 0, skbs⟩
  rxSkbQueue : s.rxSkbQueue = []
  scheduled : s.scheduled = false
  completing : s.completing = .none
  tasklet : s.tasklet = .idle
  inirp : s.inirp = .looping bufs

section
variable {k : Ieee80211} {mode : RxAggMode} {mpMode : Bool} {events : List RecvEvent}
variable {s t : RecvQueue} {bufs skbs : Nat}

/-! ### Order -/

/-- Nothing is lost, doubled or overtaken before the driver is stopped: the transfers that came
into the queue are those that the tasklet has worked on, those that it has dropped, the one
that it has taken and those in the queue; and the packets that have come to the hook, with
those still to come, are what the transfers carry. -/
structure Ordered (mpMode : Bool) (events : List RecvEvent) (s : RecvQueue) : Prop where
  completed : RecvEvent.completedBufs events =
    (RecvEvent.taken events).map Prod.fst ++ RecvEvent.droppedBufs events ++ s.tasklet.bufs ++
      s.rxSkbQueue
  dropped : RecvEvent.droppedBufs events ≠ [] → s.cannotRun = true
  handed : (RecvEvent.taken events).flatMap (fun p => p.2.map RecvFrame.rxData) =
    RecvEvent.handedOn events ++ s.tasklet.frames.map RecvFrame.rxData
  carried : ∀ p ∈ RecvEvent.taken events, p.1.Carries mpMode 0 p.2

/-- Most steps leave the transfers and packets where they are. -/
theorem Ordered.silent {e : RecvEvent} (h : Ordered mpMode events s) (he : e.isSilent = true)
    (hbufs : t.tasklet.bufs = s.tasklet.bufs) (hframes : t.tasklet.frames = s.tasklet.frames)
    (hqueue : t.rxSkbQueue = s.rxSkbQueue) (hstopped : s.cannotRun = true → t.cannotRun = true) :
    Ordered mpMode (events ++ [e]) t := by
  obtain ⟨hcompleted, htaken, hdropped, hhanded⟩ := RecvEvent.isSilent_parts he
  constructor
  · rw [RecvEvent.completedBufs_append, RecvEvent.taken_append, RecvEvent.droppedBufs_append,
      hcompleted, htaken, hdropped, hbufs, hqueue, List.append_nil, List.append_nil,
      List.append_nil]
    exact h.completed
  · rw [RecvEvent.droppedBufs_append, hdropped, List.append_nil]
    exact fun hne => hstopped (h.dropped hne)
  · rw [RecvEvent.taken_append, RecvEvent.handedOn_append, htaken, hhanded, hframes,
      List.append_nil, List.append_nil]
    exact h.handed
  · rw [RecvEvent.taken_append, htaken, List.append_nil]
    exact h.carried

theorem Ordered.received {buf : RecvBuf} (h : Ordered mpMode events s) (completing : Completing) :
    Ordered mpMode (events ++ [.received buf])
      { s with rxSkbQueue := s.rxSkbQueue ++ [buf], completing := completing } where
  completed := by
    rw [RecvEvent.completedBufs_append, h.completed, RecvEvent.taken_append,
      RecvEvent.droppedBufs_append]
    simp [RecvEvent.completedBufs, RecvEvent.taken, RecvEvent.droppedBufs]
  dropped := by
    rw [RecvEvent.droppedBufs_append]
    simpa [RecvEvent.droppedBufs] using h.dropped
  handed := by
    rw [RecvEvent.taken_append, RecvEvent.handedOn_append]
    simpa [RecvEvent.taken, RecvEvent.handedOn] using h.handed
  carried := by
    rw [RecvEvent.taken_append]
    simpa [RecvEvent.taken] using h.carried

theorem Ordered.dequeued {buf : RecvBuf} {rest : List RecvBuf} (h : Ordered mpMode events s)
    (hlooping : s.tasklet = .looping) (hqueue : s.rxSkbQueue = buf :: rest) :
    Ordered mpMode (events ++ [.dequeued buf])
      { s with rxSkbQueue := rest, tasklet := .taken buf } where
  completed := by
    rw [RecvEvent.completedBufs_append, h.completed, RecvEvent.taken_append,
      RecvEvent.droppedBufs_append, hlooping, hqueue]
    simp [RecvEvent.completedBufs, RecvEvent.taken, RecvEvent.droppedBufs, RecvTasklet.bufs]
  dropped := by
    rw [RecvEvent.droppedBufs_append]
    simpa [RecvEvent.droppedBufs] using h.dropped
  handed := by
    have hhanded := h.handed
    rw [hlooping] at hhanded
    rw [RecvEvent.taken_append, RecvEvent.handedOn_append]
    simpa [RecvEvent.taken, RecvEvent.handedOn, RecvTasklet.frames] using hhanded
  carried := by
    rw [RecvEvent.taken_append]
    simpa [RecvEvent.taken] using h.carried

theorem Ordered.dropped_buf {buf : RecvBuf} (h : Ordered mpMode events s)
    (htaken : s.tasklet = .taken buf) (hrun : s.cannotRun = true) :
    Ordered mpMode (events ++ [.dropped buf]) { s with tasklet := .idle } where
  completed := by
    rw [RecvEvent.completedBufs_append, h.completed, RecvEvent.taken_append,
      RecvEvent.droppedBufs_append, htaken]
    simp [RecvEvent.completedBufs, RecvEvent.taken, RecvEvent.droppedBufs, RecvTasklet.bufs]
  dropped := fun _ => hrun
  handed := by
    have hhanded := h.handed
    rw [htaken] at hhanded
    rw [RecvEvent.taken_append, RecvEvent.handedOn_append]
    simpa [RecvEvent.taken, RecvEvent.handedOn, RecvTasklet.frames] using hhanded
  carried := by
    rw [RecvEvent.taken_append]
    simpa [RecvEvent.taken] using h.carried

/-- As long as the tasklet works on transfers none has been dropped. -/
theorem Ordered.unpacked {buf : RecvBuf} {alloc copy : Nat → Bool} {frames : List RecvFrame}
    (h : Ordered mpMode events s) (htaken : s.tasklet = .taken buf) (hrun : s.cannotRun = false)
    (hframes : buf.recvbuf2recvframe mode mpMode alloc copy = .ok frames) :
    Ordered mpMode (events ++ [.unpacked buf frames]) { s with tasklet := .handing frames } where
  completed := by
    have hnil : RecvEvent.droppedBufs events = [] := by
      by_contra hne
      rw [h.dropped hne] at hrun
      cases hrun
    rw [RecvEvent.completedBufs_append, h.completed, RecvEvent.taken_append,
      RecvEvent.droppedBufs_append, htaken, hnil]
    simp [RecvEvent.completedBufs, RecvEvent.taken, RecvEvent.droppedBufs, RecvTasklet.bufs]
  dropped := by
    rw [RecvEvent.droppedBufs_append]
    simpa [RecvEvent.droppedBufs] using h.dropped
  handed := by
    have hhanded := h.handed
    rw [htaken] at hhanded
    rw [RecvEvent.taken_append, RecvEvent.handedOn_append]
    simpa [RecvEvent.taken, RecvEvent.handedOn, RecvTasklet.frames] using hhanded
  carried := by
    rw [RecvEvent.taken_append]
    refine List.forall_mem_append.mpr ⟨h.carried, List.forall_mem_singleton.mpr ?_⟩
    exact RecvBuf.carries_of_ok hframes

theorem Ordered.hooked {f : RecvFrame} {frames : List RecvFrame} {skb : SkBuff}
    (h : Ordered mpMode events s) (hhanding : s.tasklet = .handing (f :: frames))
    (hskb : skb.data = f.rxData) (device : DeviceState) :
    Ordered mpMode (events ++ [.hooked skb])
      { s with tasklet := .handing frames, device := device } where
  completed := by
    rw [RecvEvent.completedBufs_append, h.completed, RecvEvent.taken_append,
      RecvEvent.droppedBufs_append, hhanding]
    simp [RecvEvent.completedBufs, RecvEvent.taken, RecvEvent.droppedBufs, RecvTasklet.bufs]
  dropped := by
    rw [RecvEvent.droppedBufs_append]
    simpa [RecvEvent.droppedBufs] using h.dropped
  handed := by
    have hhanded := h.handed
    rw [hhanding] at hhanded
    rw [RecvEvent.taken_append, RecvEvent.handedOn_append]
    simpa [RecvEvent.taken, RecvEvent.handedOn, RecvTasklet.frames, hskb] using hhanded
  carried := by
    rw [RecvEvent.taken_append]
    simpa [RecvEvent.taken] using h.carried

theorem Ordered.step {e : RecvEvent} (h : Ordered mpMode events s)
    (hstep : Step k mode mpMode s e t) : Ordered mpMode (events ++ [e]) t := by
  cases hstep with
  | received hpassed => exact h.received _
  | dequeued hlooping hqueue => exact h.dequeued hlooping hqueue
  | dropped htaken hrun => exact h.dropped_buf htaken hrun
  | unpacked htaken hrun hframes => exact h.unpacked htaken hrun hframes
  | hooked hhanding hskb _ => exact h.hooked hhanding hskb _
  | taskletReads hreading _ =>
    rename_i r' _
    refine h.silent rfl ?_ ?_ rfl id
    all_goals
      rw [hreading]
      cases r' <;> rfl
  | started hidle _ => exact h.silent rfl (by rw [hidle]; rfl) (by rw [hidle]; rfl) rfl id
  | returned hhanding =>
    exact h.silent rfl (by rw [hhanding]; rfl) (by rw [hhanding]; rfl) rfl id
  | resumed hreturned _ =>
    exact h.silent rfl (by rw [hreturned]; rfl) (by rw [hreturned]; rfl) rfl id
  | resumed_none hreturned _ =>
    exact h.silent rfl (by rw [hreturned]; rfl) (by rw [hreturned]; rfl) rfl id
  | ended hlooping _ => exact h.silent rfl (by rw [hlooping]; rfl) (by rw [hlooping]; rfl) rfl id
  | transient _ => exact h.silent rfl rfl rfl rfl fun hrun => by simp [hrun]
  | other _ => exact h.silent rfl rfl rfl rfl fun hrun => by simp [hrun]
  | fatal _ => exact h.silent rfl rfl rfl rfl fun _ => rfl
  | stopped => exact h.silent rfl rfl rfl rfl fun _ => rfl
  | _ => exact h.silent rfl rfl rfl rfl id

theorem Initial.ordered (h : s.Initial bufs skbs) : Ordered mpMode [] s where
  completed := by rw [h.rxSkbQueue, h.tasklet]; rfl
  dropped := fun hne => absurd rfl hne
  handed := by rw [h.tasklet]; rfl
  carried := fun _ hp => absurd hp List.not_mem_nil

theorem ordered_of_run (hs : s.Initial bufs skbs) (hrun : Run (Step k mode mpMode) s events t) :
    Ordered mpMode events t :=
  Run.history hs.ordered (fun _ _ _ _ _ h hstep => h.step hstep) hrun

/-- The device has been called by the hook, and by the other processes. -/
theorem device_of_run (hrun : Run (Step k mode mpMode) s events t) :
    Run DeviceState.Step s.device (events.flatMap (RecvEvent.calls k)) t.device := by
  refine Run.project (fun u e t hstep => ?_) hrun
  cases hstep with
  | hooked _ _ hdevice => exact hdevice
  | called _ hdevice => exact (Run.nil _).snoc hdevice
  | _ => exact .nil _

/-- Other processes may go on with the device. -/
theorem called_run (k : Ieee80211) (mode : RxAggMode) (mpMode : Bool) (s : RecvQueue)
    {calls : List DeviceCall} {d : DeviceState} (hrun : Run DeviceState.Step s.device calls d)
    (hcalls : ∀ c ∈ calls, ∀ b, c ≠ .updateBeacon b) :
    Run (Step k mode mpMode) s (calls.map .called) { s with device := d } :=
  Run.embed (f := fun d => { s with device := d }) (fun _ _ _ hc hstep => .called hc hstep) hrun
    hcalls

theorem mem_hook {skb : SkBuff} {c : DeviceCall} (hc : c ∈ skb.hook k) :
    k.isBeacon skb.frameControl = true ∧ c = .updateBeacon skb.data := by
  rw [SkBuff.hook] at hc
  split at hc
  · rename_i hbeacon
    exact ⟨hbeacon, List.mem_singleton.mp hc⟩
  · exact absurd hc List.not_mem_nil

/-- The other processes do not publish. -/
theorem called_of_run (hrun : Run (Step k mode mpMode) s events t) {c : DeviceCall}
    (hmem : .called c ∈ events) (b : List UInt8) : c ≠ .updateBeacon b := by
  refine Run.forall_label (P := fun e => ∀ c, e = .called c → c ≠ .updateBeacon b) ?_ hrun _ hmem
    c rfl
  rintro u e t hstep c rfl
  cases hstep with
  | called hc _ => exact hc b

/-- What is published has come to the hook as a beacon. -/
theorem hooked_of_published (hrun : Run (Step k mode mpMode) s events t) {b : List UInt8}
    (hb : b ∈ DeviceCall.published (events.flatMap (RecvEvent.calls k))) :
    b = [] ∨ ∃ skb : SkBuff, .hooked skb ∈ events ∧ skb.data = b ∧
      k.isBeacon skb.frameControl = true := by
  refine (List.mem_cons.mp hb).imp_right fun hb => ?_
  obtain ⟨c, hc, hb⟩ := List.mem_filterMap.mp hb
  obtain ⟨e, he, hc⟩ := List.mem_flatMap.mp hc
  cases e with
  | hooked skb =>
    obtain ⟨hbeacon, rfl⟩ := mem_hook hc
    cases hb
    exact ⟨skb, he, rfl, hbeacon⟩
  | called c' =>
    obtain rfl := List.mem_singleton.mp hc
    cases c with
    | updateBeacon b' => exact absurd rfl (called_of_run hrun he b')
    | _ => cases hb
  | _ => cases hc

/-- A packet that has come to the hook is described by a transfer. -/
theorem Ordered.describes (h : Ordered mpMode events s) {skb : SkBuff}
    (hskb : .hooked skb ∈ events) : ∃ buf ∈ RecvEvent.completedBufs events, ∃ pos f,
      buf.Describes mpMode pos f ∧ f.rxData = skb.data := by
  have hhanded : skb.data ∈ RecvEvent.handedOn events :=
    List.mem_filterMap.mpr ⟨_, hskb, rfl⟩
  have hmem : skb.data ∈ (RecvEvent.taken events).flatMap fun p => p.2.map RecvFrame.rxData := by
    rw [h.handed]
    exact List.mem_append_left _ hhanded
  obtain ⟨p, hp, hdata⟩ := List.mem_flatMap.mp hmem
  obtain ⟨f, hf, hdata⟩ := List.mem_map.mp hdata
  obtain ⟨pos, hdescribes⟩ := (h.carried p hp).describes hf
  refine ⟨p.1, ?_, pos, f, hdescribes, hdata⟩
  rw [h.completed, List.append_assoc, List.append_assoc]
  exact List.mem_append_left _ (List.mem_map_of_mem hp)

/-- What is published is a packet of a transfer. -/
theorem carried_of_published (hs : s.Initial bufs skbs)
    (hrun : Run (Step k mode mpMode) s events t) {b : List UInt8}
    (hb : b ∈ DeviceCall.published (events.flatMap (RecvEvent.calls k))) :
    b = [] ∨ ∃ buf ∈ RecvEvent.completedBufs events, ∃ (pos : Nat) (f : RecvFrame) (skb : SkBuff),
      buf.Describes mpMode pos f ∧ f.rxData = b ∧ skb.data = b ∧
        k.isBeacon skb.frameControl = true := by
  refine (hooked_of_published hrun hb).imp_right ?_
  rintro ⟨skb, hskb, rfl, hbeacon⟩
  obtain ⟨buf, hbuf, pos, f, hdescribes, hdata⟩ := (ordered_of_run hs hrun).describes hskb
  exact ⟨buf, hbuf, pos, f, skb, hdescribes, hdata, rfl, hbeacon⟩

/-- **A process reads nothing but a packet of a transfer**: for as long as it has the device
open, all its reads copy beginnings of one beacon, the packet of a transfer that was completed
before the open and whose descriptor says that it is whole, while the accesses to the queues
and the calls of other processes go on in any order. -/
theorem reads_carried {before during : List RecvEvent} {h : Handle} (hs : s.Initial bufs skbs)
    (hdevice : s.device.Initial)
    (hrun : Run (Step k mode mpMode) s (before ++ .called (.myOpen h) :: during) t)
    (hduring : .called (.myRelease h) ∉ during) :
    ∃ b, (b = [] ∨ ∃ buf ∈ RecvEvent.completedBufs before, ∃ (pos : Nat) (f : RecvFrame)
        (skb : SkBuff), buf.Describes mpMode pos f ∧ f.rxData = b ∧ skb.data = b ∧
          k.isBeacon skb.frameControl = true) ∧
      DeviceCall.copiedTo h (during.flatMap (RecvEvent.calls k)) =
        Module.beginnings b 0 (DeviceCall.askedOn h (during.flatMap (RecvEvent.calls k))) := by
  obtain ⟨u, hbefore, -⟩ := Run.split hrun
  have hcalls := device_of_run hrun
  rw [List.flatMap_append, List.flatMap_cons] at hcalls
  have hkept : .myRelease h ∉ during.flatMap (RecvEvent.calls k) := by
    intro hmem
    obtain ⟨e, he, hc⟩ := List.mem_flatMap.mp hmem
    cases e with
    | hooked skb => cases (mem_hook hc).2
    | called c =>
      obtain rfl := List.mem_singleton.mp hc
      exact hduring he
    | _ => cases hc
  obtain ⟨b, hb, hcopied⟩ := DeviceState.copied_of_run hdevice hcalls hkept
  exact ⟨b, carried_of_published hs hbefore hb, hcopied⟩

end

/-- The driver after `usb_init_recv_priv`. -/
def recvBoot : RecvQueue :=
  ⟨⟨0, 0, 0, nrPreallocRecvSkb⟩, [], false, false, false, .none, .idle, .looping nrRecvbuff,
    DeviceState.boot⟩

theorem recvBoot_initial : recvBoot.Initial nrRecvbuff nrPreallocRecvSkb :=
  ⟨rfl, rfl, rfl, rfl, rfl, rfl⟩

/-- A buffer is given to the device. -/
def submission : List RecvEvent :=
  [.next, .port .inirp .entered, .port .inirp .granted, .port .inirp .submitted]

/-- As long as there is memory the loop goes on. -/
theorem submission_run (k : Ieee80211) (mode : RxAggMode) (mpMode : Bool) {s : RecvQueue}
    {left free : Nat} (hrx : s.cannotRx = false) (hinirp : s.inirp = .looping (left + 1))
    (hfree : s.buffers.freeRecvSkbQueue = free + 1) :
    Run (Step k mode mpMode) s submission { s with
      buffers := { s.buffers with
        submitted := s.buffers.submitted + 1, freeRecvSkbQueue := free }
      inirp := .looping left } := by
  have h₁ : Run (Step k mode mpMode) s [.next] _ := (Run.nil s).snoc (.next hinirp)
  have h₂ := h₁.snoc (.inirpReads rfl (.entered hrx))
  have h₃ := h₂.snoc (.inirpReads rfl (.granted hfree))
  exact h₃.snoc (.inirpReads rfl .submitted)

theorem aggBuf_frames : aggBuf.recvbuf2recvframe .usb false (fun _ => true) (fun _ => true) =
    .ok (([aggFirst] ++ [aggLast]).map AggPacket.frame) := by
  have hdesc : aggBuf.slice 0 rxdescSize = aggFirst.prxstat := rfl
  have hcnt : pktCntOf aggFirst.prxstat = 2 := by decide +kernel
  have hbytes : aggBuf.memory.drop 0 = List.flatMap AggPacket.wire [aggFirst] ++
    (aggLast.body ++ List.replicate 15360 0) := rfl
  have hle : (List.flatMap AggPacket.wire [aggFirst]).length + aggLast.body.length ≤
    aggBuf.transferLen := by decide
  have hend : aggBuf.transferLen ≤
    (List.flatMap AggPacket.wire [aggFirst]).length + aggLast.wire.length := by decide
  rw [RecvBuf.recvbuf2recvframe, aggBuf.read_first, hdesc]
  simp only [hcnt]
  exact Receiving.loop_aggregate hbytes hle hend (.inr (by decide)) (by decide) (by decide)

/-- The first packet of that transfer. -/
def aggSkb : SkBuff := ⟨aggFirst.payload, fun _ => 0⟩

/-- A transfer is completed and its first packet comes to the hook. -/
def hookedEvents (buf : RecvBuf) (frames : List RecvFrame) (skb : SkBuff) : List RecvEvent :=
  submission ++ [.completed (.received buf), .received buf, .scheduled, .started, .dequeued buf,
    .unpacked buf frames, .hooked skb]

/-- Its beacon is published. -/
theorem recvBoot_hooked (k : Ieee80211) (mode : RxAggMode) (mpMode : Bool) (skb : SkBuff)
    {buf : RecvBuf} {f : RecvFrame} {frames : List RecvFrame} {alloc copy : Nat → Bool}
    {d : DeviceState} (hframes : buf.recvbuf2recvframe mode mpMode alloc copy = .ok (f :: frames))
    (hskb : skb.data = f.rxData) (hbeacon : k.isBeacon skb.frameControl = true)
    (hpublish : DeviceState.Step DeviceState.boot (.updateBeacon skb.data) d) :
    ∃ t, Run (Step k mode mpMode) recvBoot (hookedEvents buf (f :: frames) skb) t ∧
      t.device = d := by
  have hhook : Run DeviceState.Step DeviceState.boot (skb.hook k) d := by
    rw [SkBuff.hook, if_pos hbeacon]
    exact (Run.nil _).snoc hpublish
  have h₀ := submission_run k mode mpMode (s := recvBoot) rfl rfl rfl
  have h₁ := (h₀.snoc (.completed (c := .received buf) rfl rfl rfl)).snoc (.received rfl)
  have h₂ := ((h₁.snoc (.scheduled rfl)).snoc (.started rfl rfl)).snoc (.dequeued rfl rfl)
  have h₃ := (h₂.snoc (.unpacked rfl rfl hframes)).snoc (.hooked rfl hskb hhook)
  exact ⟨_, h₃, rfl⟩

/-- Two bytes of that beacon are read, and then as much as there is. -/
theorem reads_carried_agg : ∃ before during t,
    Run (Step linuxIeee80211 .usb false) recvBoot (before ++ .called (.myOpen 0) :: during) t ∧
    DeviceCall.askedOn 0 (during.flatMap (RecvEvent.calls linuxIeee80211)) = [2, 8191] ∧
    ∃ b, (b = [] ∨ ∃ buf ∈ RecvEvent.completedBufs before, ∃ (pos : Nat) (f : RecvFrame)
        (skb : SkBuff), buf.Describes false pos f ∧ f.rxData = b ∧ skb.data = b ∧
          linuxIeee80211.isBeacon skb.frameControl = true) ∧
      DeviceCall.copiedTo 0 (during.flatMap (RecvEvent.calls linuxIeee80211)) =
        Module.beginnings b 0
          (DeviceCall.askedOn 0 (during.flatMap (RecvEvent.calls linuxIeee80211))) := by
  obtain ⟨d, d', d'', reads, hpublish, hopen, hreads, hasked, hall⟩ := RxQueue.boot_reads
    (show aggFirst.payload.length ≤ beaconMaxSize by decide) [2, 8191]
  obtain ⟨t, hrun, rfl⟩ := recvBoot_hooked linuxIeee80211 .usb false aggSkb
    aggBuf_frames rfl rfl hpublish
  have hopened := hrun.snoc (.called (fun _ => DeviceCall.noConfusion) hopen)
  have hne : ∀ c ∈ reads, ∀ b, c ≠ .updateBeacon b := by
    rintro c hc b rfl
    obtain ⟨_, _, he⟩ := hall _ hc
    cases he
  have hduring : .called (.myRelease 0) ∉ reads.map RecvEvent.called := by
    intro hmem
    obtain ⟨c, hc, he⟩ := List.mem_map.mp hmem
    obtain ⟨_, _, rfl⟩ := hall c hc
    cases he
  have hrun := hopened.append (called_run linuxIeee80211 .usb false _ hreads hne)
  rw [List.append_assoc _ [_] (reads.map _), List.singleton_append] at hrun
  refine ⟨_, _, _, hrun, ?_, reads_carried recvBoot_initial DeviceState.boot_initial hrun hduring⟩
  rw [flatMap_map_of_singleton fun _ => rfl]
  exact hasked

end RecvQueue

end SnapDesk
