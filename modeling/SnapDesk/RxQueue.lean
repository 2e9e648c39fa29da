import SnapDesk.DeviceRuns
import SnapDesk.Reception
import SnapDesk.SlotQueue

/-! # The receive queue of the driver

`ath9k_htc_rxep`, `ath9k_rx_tasklet` and `ath9k_rx_init` (`htc_drv_txrx.c`), around the
`ath9k_rx_prepare` that publishes beacons.  The packets wait in the list of the 256 buffers
`priv->rx.rxbuf`: `ath9k_htc_rxep` fills a free one, the tasklet prepares the packet of the
first one in process, hands it to `ieee80211_rx` and frees the buffer.

One step is one critical section of `rxbuflock`.  `ath9k_htc_rxep` has two of them and finds
a buffer in the first that it fills in the second (`found`); the tasklet lets go of the lock
while `ieee80211_rx` runs (`processing`).  In between anything may happen, also calls of the
device by other processes.  A tasklet does not run twice at once.  Whether
`ath9k_htc_rxep` does is up to its caller, and decides whether packets are lost
(`run_fifo`, `overlap_loses`). -/
namespace SnapDesk
open Transition SlotQueue

/-- `ATH9K_HTC_RXBUF`. -/
def htcRxbuf : Nat := 256

/-- `struct ath9k_htc_rxbuf`. -/
abbrev RxBuf := Slot Nat SkBuff

/-- `priv->rx` and the functions that are between two of their critical sections, with the
device that the packets are published to. -/
structure RxQueue where
  initialized : Bool
  rxbuf : List RxBuf
  found : List (Nat × SkBuff)
  processing : Option Nat
  device : DeviceState

/-- One critical section, or a call of the device. -/
inductive RxEvent where
  /-- `ath9k_rx_init`. -/
  | initialized
  /-- `ath9k_htc_rxep` frees the packet. -/
  | refused (skb : SkBuff)
  /-- `ath9k_htc_rxep` has found a free buffer. -/
  | found (skb : SkBuff)
  /-- `ath9k_htc_rxep` fills the buffer that it has found. -/
  | filled (skb : SkBuff)
  /-- The tasklet frees a buffer in process that has no packet. -/
  | emptied
  /-- The tasklet frees a packet that `ath9k_rx_prepare` does not want, and its buffer. -/
  | rejected (skb : SkBuff)
  /-- The tasklet hands a packet to `ieee80211_rx`. -/
  | passed (skb : SkBuff)
  /-- The tasklet frees the buffer of that packet. -/
  | finished
  /-- A process opens, reads or releases the device. -/
  | called (c : DeviceCall)

namespace RxEvent

/-- The packets that `ath9k_htc_rxep` was called with. -/
def offered (events : List RxEvent) : List SkBuff :=
  events.filterMap fun
    | refused skb => some skb
    | found skb => some skb
    | _ => none

/-- The packets that it did not refuse. -/
def accepted (events : List RxEvent) : List SkBuff :=
  events.filterMap fun
    | found skb => some skb
    | _ => none

/-- The packets that the tasklet has prepared. -/
def prepared (events : List RxEvent) : List SkBuff :=
  events.filterMap fun
    | rejected skb => some skb
    | passed skb => some skb
    | _ => none

/-- How many buffers the tasklet has freed. -/
def freed (events : List RxEvent) : Nat :=
  events.countP fun
    | rejected _ => true
    | finished => true
    | _ => false

/-- The tasklet does it. -/
def isTasklet : RxEvent → Bool
  | emptied | rejected _ | passed _ | finished => true
  | _ => false

theorem prepared_append (events more : List RxEvent) :
    prepared (events ++ more) = prepared events ++ prepared more := List.filterMap_append

theorem accepted_subset (events : List RxEvent) : accepted events ⊆ offered events := by
  intro skb hskb
  obtain ⟨e, he, hskb⟩ := List.mem_filterMap.mp hskb
  refine List.mem_filterMap.mpr ⟨e, he, ?_⟩
  cases e with
  | found => exact hskb
  | _ => cases hskb

theorem accepted_eq {events : List RxEvent} (h : ∀ skb, refused skb ∉ events) :
    accepted events = offered events := by
  refine List.filterMap_congr fun e he => ?_
  cases e with
  | refused skb => exact absurd he (h skb)
  | _ => rfl

end RxEvent

/-- The buffers of `ath9k_rx_init`. -/
def RxQueue.rxInit : List RxBuf := (List.range htcRxbuf).map (Slot.ofFree SkBuff)

section
variable (k : Ieee80211) (priv : RxPriv) (process : Acceptance → Bool)

/-- What the preparation of a packet calls of the device. -/
def SkBuff.calls (skb : SkBuff) : List DeviceCall :=
  ((rxPrepare k priv process skb).published.map DeviceCall.updateBeacon).toList

/-- What the preparation of the packet publishes fits into the module's buffer. -/
def SkBuff.Fits (skb : SkBuff) : Prop :=
  ∀ packet, (rxPrepare k priv process skb).published = some packet → packet.length ≤ beaconMaxSize

/-- What happened to the device. -/
def RxEvent.calls : RxEvent → List DeviceCall
  | rejected skb => skb.calls k priv process
  | passed skb => skb.calls k priv process
  | called c => [c]
  | _ => []

end

namespace RxQueue

section
variable (k : Ieee80211) (priv : RxPriv) (process : Acceptance → Bool)

/-- One critical section.  The tasklet works on the first buffer in process. -/
inductive Step : RxQueue → RxEvent → RxQueue → Prop
  | initialized {s : RxQueue} (h : s.initialized = false) :
      Step s .initialized { s with initialized := true, rxbuf := rxInit }
  | refused {s : RxQueue} {skb : SkBuff}
      (h : s.initialized = false ∨ firstFree s.rxbuf = none) :
      Step s (.refused skb) s
  | found {s : RxQueue} {skb : SkBuff} {rxbuf : RxBuf} (hinit : s.initialized = true)
      (h : firstFree s.rxbuf = some rxbuf) :
      Step s (.found skb) { s with found := s.found ++ [(rxbuf.id, skb)] }
  | filled {s : RxQueue} {skb : SkBuff} {i : Nat} {before after : List (Nat × SkBuff)}
      (h : s.found = before ++ (i, skb) :: after) :
      Step s (.filled skb) { s with rxbuf := fill i skb s.rxbuf, found := before ++ after }
  | emptied {s : RxQueue} {rxbuf : RxBuf} (hfree : s.processing = none)
      (h : firstBusy s.rxbuf = some rxbuf) (hskb : rxbuf.content = none) :
      Step s .emptied { s with rxbuf := release rxbuf.id s.rxbuf }
  | rejected {s : RxQueue} {rxbuf : RxBuf} {skb : SkBuff} {device : DeviceState}
      (hfree : s.processing = none) (h : firstBusy s.rxbuf = some rxbuf)
      (hskb : rxbuf.content = some skb) (hret : (rxPrepare k priv process skb).ret = false)
      (hdevice : Run DeviceState.Step s.device (skb.calls k priv process) device) :
      Step s (.rejected skb) { s with rxbuf := release rxbuf.id s.rxbuf, device := device }
  | passed {s : RxQueue} {rxbuf : RxBuf} {skb : SkBuff} {device : DeviceState}
      (hfree : s.processing = none) (h : firstBusy s.rxbuf = some rxbuf)
      (hskb : rxbuf.content = some skb) (hret : (rxPrepare k priv process skb).ret = true)
      (hdevice : Run DeviceState.Step s.device (skb.calls k priv process) device) :
      Step s (.passed skb) { s with processing := some rxbuf.id, device := device }
  | finished {s : RxQueue} {i : Nat} (h : s.processing = some i) :
      Step s .finished { s with rxbuf := release i s.rxbuf, processing := none }
  | called {s : RxQueue} {c : DeviceCall} {device : DeviceState}
      (hc : ∀ b, c ≠ .updateBeacon b) (hdevice : DeviceState.Step s.device c device) :
      Step s (.called c) { s with device := device }

/-- A step where `ath9k_htc_rxep` is not called while it is between its critical sections:
the transfers of an endpoint are completed one after the other. -/
def SerialStep (s : RxQueue) (e : RxEvent) (t : RxQueue) : Prop :=
  Step k priv process s e t ∧ ((∃ skb, e = .found skb) → s.found = [])

end

/-- Before `ath9k_rx_init`. -/
structure Initial (s : RxQueue) : Prop where
  initialized : s.initialized = false
  rxbuf : s.rxbuf = []
  found : s.found = []
  processing : s.processing = none

/-- The packets in the buffers that the tasklet has not come to. -/
def waiting (s : RxQueue) : List SkBuff :=
  (s.rxbuf.filter fun rxbuf => rxbuf.busy && s.processing ≠ some rxbuf.id).filterMap Slot.content

/-- What holds of the buffers after some events: the one that the tasklet works on stands
in front, then those that wait, and `ath9k_htc_rxep` has found the first one behind them. -/
structure Queued (events : List RxEvent) (s : RxQueue) (held : Option (Nat × SkBuff))
    (queue : List (Nat × SkBuff)) (free : List Nat) : Prop where
  layout : Layout s.rxbuf (held.toList ++ queue) free
  processing : s.processing = held.map Prod.fst
  accepted : RxEvent.accepted events =
    RxEvent.prepared events ++ queue.map Prod.snd ++ s.found.map Prod.snd
  freed : (RxEvent.prepared events).length = RxEvent.freed events + held.toList.length
  found_head : ∀ p ∈ s.found, free.head? = some p.1
  found_le : s.found.length ≤ 1
  capacity : s.rxbuf.length = if s.initialized then htcRxbuf else 0

/-- The buffers are queued. -/
def Orderly (events : List RxEvent) (s : RxQueue) : Prop :=
  ∃ held queue free, Queued events s held queue free

section
variable {k : Ieee80211} {priv : RxPriv} {process : Acceptance → Bool}
variable {events : List RxEvent} {s : RxQueue} {held : Option (Nat × SkBuff)}
variable {queue : List (Nat × SkBuff)} {free : List Nat}

theorem Initial.queued (h : s.Initial) : Queued [] s none [] [] where
  layout := by rw [h.rxbuf]; exact Layout.ofFree List.nodup_nil
  processing := h.processing
  accepted := by rw [h.found]; rfl
  freed := rfl
  found_head := by rw [h.found]; exact fun _ hp => absurd hp List.not_mem_nil
  found_le := by rw [h.found]; exact Nat.zero_le 1
  capacity := by rw [h.rxbuf, h.initialized]; rfl

/-- Those that wait are in process, and the tasklet does not work on them. -/
theorem waiting_eq (hlayout : Layout s.rxbuf (held.toList ++ queue) free)
    (hprocessing : s.processing = held.map Prod.fst) : s.waiting = queue.map Prod.snd := by
  have hkept : ∀ p ∈ queue, s.processing ≠ some p.1 := by
    intro p hp hsome
    rw [hprocessing, Option.map_eq_some_iff] at hsome
    obtain ⟨q, rfl, hq⟩ := hsome
    have hnodup := hlayout.nodup
    rw [Option.toList_some, List.singleton_append, List.map_cons, List.cons_append] at hnodup
    exact (List.nodup_cons.mp hnodup).1
      (List.mem_append_left _ (hq ▸ List.mem_map_of_mem hp))
  have hqueue : (queue.map Slot.ofBusy).filter
      (fun rxbuf : RxBuf => decide (s.processing ≠ some rxbuf.id)) = queue.map Slot.ofBusy := by
    refine List.filter_eq_self.mpr fun rxbuf hmem => ?_
    obtain ⟨p, hp, rfl⟩ := List.mem_map.mp hmem
    exact decide_eq_true (hkept p hp)
  have hheld : (held.toList.map Slot.ofBusy).filter
      (fun rxbuf : RxBuf => decide (s.processing ≠ some rxbuf.id)) = [] := by
    refine List.filter_eq_nil_iff.mpr fun rxbuf hmem => ?_
    obtain ⟨p, hp, rfl⟩ := List.mem_map.mp hmem
    rw [Option.mem_toList] at hp
    rw [decide_eq_true_eq, not_not, hprocessing, hp]
    rfl
  rw [waiting, ← List.filter_filter, List.filter_comm, hlayout.filter_busy, List.map_append,
    List.filter_append, hheld, hqueue, List.nil_append, List.filterMap_map]
  exact congrFun List.filterMap_eq_map queue

namespace Queued

theorem initialized (h : Queued events s held queue free) (hinit : s.initialized = false) :
    Queued (events ++ [.initialized]) { s with initialized := true, rxbuf := rxInit } none []
      (List.range htcRxbuf) := by
  have hlength := h.layout.length
  rw [h.capacity, hinit] at hlength
  have hnone : held = none ∧ queue = [] ∧ free = [] := by
    cases held <;> cases queue <;> cases free <;> simp_all
  obtain ⟨rfl, rfl, rfl⟩ := hnone
  have hfound : s.found = [] := by
    cases hs : s.found with
    | nil => rfl
    | cons p found =>
      have hp := h.found_head p (hs ▸ List.mem_cons_self)
      cases hp
  exact {
    layout := Layout.ofFree List.nodup_range
    processing := h.processing
    accepted := by simpa [RxEvent.accepted, RxEvent.prepared] using h.accepted
    freed := by simpa [RxEvent.freed, RxEvent.prepared] using h.freed
    found_head := by rw [hfound]; exact fun _ hp => absurd hp List.not_mem_nil
    found_le := h.found_le
    capacity := by simp [rxInit] }

theorem refused (h : Queued events s held queue free) (skb : SkBuff) :
    Queued (events ++ [.refused skb]) s held queue free where
  layout := h.layout
  processing := h.processing
  accepted := by simpa [RxEvent.accepted, RxEvent.prepared] using h.accepted
  freed := by simpa [RxEvent.freed, RxEvent.prepared] using h.freed
  found_head := h.found_head
  found_le := h.found_le
  capacity := h.capacity

theorem found (h : Queued events s held queue free) {skb : SkBuff} {rxbuf : RxBuf}
    (hfirst : firstFree s.rxbuf = some rxbuf) (hserial : s.found = []) :
    Queued (events ++ [.found skb]) { s with found := s.found ++ [(rxbuf.id, skb)] }
      held queue free where
  layout := h.layout
  processing := h.processing
  accepted := by
    have haccepted := h.accepted
    simp only [RxEvent.accepted, RxEvent.prepared] at haccepted ⊢
    simp [haccepted]
  freed := by simpa [RxEvent.freed, RxEvent.prepared] using h.freed
  found_head := by
    rw [h.layout.firstFree_eq, Option.map_eq_some_iff] at hfirst
    obtain ⟨i, hi, rfl⟩ := hfirst
    intro p hp
    rw [hserial, List.nil_append, List.mem_singleton] at hp
    rw [hi, hp]
    rfl
  found_le := by rw [hserial]; exact Nat.le_refl 1
  capacity := h.capacity

theorem filled (h : Queued events s held queue free) {skb : SkBuff} {i : Nat}
    {before after : List (Nat × SkBuff)} (hfound : s.found = before ++ (i, skb) :: after) :
    ∃ rest, free = i :: rest ∧ Queued (events ++ [.filled skb])
      { s with rxbuf := fill i skb s.rxbuf, found := before ++ after } held
        (queue ++ [(i, skb)]) rest := by
  have hle := h.found_le
  rw [hfound, List.length_append, List.length_cons] at hle
  obtain rfl : before = [] := List.length_eq_zero_iff.mp (by omega)
  obtain rfl : after = [] := List.length_eq_zero_iff.mp (by omega)
  have hhead := h.found_head (i, skb) (hfound ▸ List.mem_cons_self)
  obtain ⟨rest, rfl⟩ : ∃ rest, free = i :: rest := List.head?_eq_some_iff.mp hhead
  refine ⟨rest, rfl, ?_⟩
  exact {
    layout := by
      rw [← List.append_assoc]
      exact h.layout.fill skb
    processing := h.processing
    accepted := by
      have haccepted := h.accepted
      simp only [RxEvent.accepted, RxEvent.prepared] at haccepted ⊢
      simp [haccepted, hfound]
    freed := by simpa [RxEvent.freed, RxEvent.prepared] using h.freed
    found_head := fun _ hp => absurd hp List.not_mem_nil
    found_le := Nat.zero_le 1
    capacity := by
      rw [fill, List.length_map]
      exact h.capacity }

/-- A buffer in process has a packet. -/
theorem not_emptied (h : Queued events s held queue free) {rxbuf : RxBuf}
    (hfirst : firstBusy s.rxbuf = some rxbuf) : rxbuf.content ≠ none := by
  rw [h.layout.firstBusy_eq, Option.map_eq_some_iff] at hfirst
  obtain ⟨p, -, rfl⟩ := hfirst
  exact Option.some_ne_none p.2

/-- The tasklet works on the packet that has waited longest. -/
theorem first (h : Queued events s held queue free) {rxbuf : RxBuf} {skb : SkBuff}
    (hfree : s.processing = none) (hfirst : firstBusy s.rxbuf = some rxbuf)
    (hskb : rxbuf.content = some skb) :
    held = none ∧ ∃ rest, queue = (rxbuf.id, skb) :: rest := by
  have hheld : held = none := by
    rw [h.processing, Option.map_eq_none_iff] at hfree
    exact hfree
  subst hheld
  refine ⟨rfl, ?_⟩
  rw [h.layout.firstBusy_eq, Option.toList_none, List.nil_append, Option.map_eq_some_iff] at hfirst
  obtain ⟨p, hp, rfl⟩ := hfirst
  obtain ⟨rest, rfl⟩ := List.head?_eq_some_iff.mp hp
  cases hskb
  exact ⟨rest, rfl⟩

theorem head?_append {i : Nat} (hhead : ∀ p ∈ s.found, free.head? = some p.1) :
    ∀ p ∈ s.found, (free ++ [i]).head? = some p.1 := by
  intro p hp
  rw [List.head?_append, hhead p hp, Option.some_or]

theorem rejected {i : Nat} {skb : SkBuff} {rest : List (Nat × SkBuff)}
    (h : Queued events s none ((i, skb) :: rest) free) (device : DeviceState) :
    Queued (events ++ [.rejected skb]) { s with rxbuf := release i s.rxbuf, device := device }
      none rest (free ++ [i]) where
  layout := h.layout.release
  processing := h.processing
  accepted := by
    have haccepted := h.accepted
    simp only [RxEvent.accepted, RxEvent.prepared] at haccepted ⊢
    simp [haccepted]
  freed := by
    have hfreed := h.freed
    simp only [RxEvent.freed, RxEvent.prepared] at hfreed ⊢
    simp [hfreed]
  found_head := head?_append h.found_head
  found_le := h.found_le
  capacity := by
    have hlength := h.layout.length
    have hrelease := h.layout.release.length
    rw [← h.capacity, ← hlength]
    simp only [Option.toList_none, List.nil_append, List.length_cons, List.length_append,
      List.length_nil] at hrelease ⊢
    omega

theorem passed {i : Nat} {skb : SkBuff} {rest : List (Nat × SkBuff)}
    (h : Queued events s none ((i, skb) :: rest) free) (device : DeviceState) :
    Queued (events ++ [.passed skb]) { s with processing := some i, device := device }
      (some (i, skb)) rest free where
  layout := h.layout
  processing := rfl
  accepted := by
    have haccepted := h.accepted
    simp only [RxEvent.accepted, RxEvent.prepared] at haccepted ⊢
    simp [haccepted]
  freed := by
    have hfreed := h.freed
    simp only [RxEvent.freed, RxEvent.prepared] at hfreed ⊢
    simp [hfreed]
  found_head := h.found_head
  found_le := h.found_le
  capacity := h.capacity

theorem finished {i : Nat} (h : Queued events s held queue free)
    (hprocessing : s.processing = some i) :
    Queued (events ++ [.finished]) { s with rxbuf := release i s.rxbuf, processing := none }
      none queue (free ++ [i]) := by
  have hheld : ∃ skb, held = some (i, skb) := by
    rw [h.processing, Option.map_eq_some_iff] at hprocessing
    obtain ⟨⟨j, skb⟩, rfl, rfl⟩ := hprocessing
    exact ⟨skb, rfl⟩
  obtain ⟨skb, rfl⟩ := hheld
  exact {
    layout := h.layout.release
    processing := rfl
    accepted := by simpa [RxEvent.accepted, RxEvent.prepared] using h.accepted
    freed := by
      have hfreed := h.freed
      simp only [RxEvent.freed, RxEvent.prepared] at hfreed ⊢
      simp [hfreed]
    found_head := head?_append h.found_head
    found_le := h.found_le
    capacity := by
      have hlength := h.layout.length
      have hrelease : queue.length + (free ++ [i]).length = (release i s.rxbuf).length :=
        h.layout.release.length
      rw [← h.capacity, ← hlength]
      simp only [Option.toList_some, List.singleton_append, List.length_cons, List.length_append,
        List.length_nil] at hrelease ⊢
      omega }

theorem called (h : Queued events s held queue free) (c : DeviceCall) (device : DeviceState) :
    Queued (events ++ [.called c]) { s with device := device } held queue free where
  layout := h.layout
  processing := h.processing
  accepted := by simpa [RxEvent.accepted, RxEvent.prepared] using h.accepted
  freed := by simpa [RxEvent.freed, RxEvent.prepared] using h.freed
  found_head := h.found_head
  found_le := h.found_le
  capacity := h.capacity

end Queued

/-- Every serial step keeps the buffers queued. -/
theorem Orderly.step {t : RxQueue} {e : RxEvent} (h : Orderly events s)
    (hstep : SerialStep k priv process s e t) : Orderly (events ++ [e]) t := by
  obtain ⟨held, queue, free, h⟩ := h
  obtain ⟨hstep, hserial⟩ := hstep
  cases hstep with
  | initialized hinit => exact ⟨_, _, _, h.initialized hinit⟩
  | @refused skb _ => exact ⟨_, _, _, h.refused skb⟩
  | @found skb _ _ hfirst => exact ⟨_, _, _, h.found hfirst (hserial ⟨skb, rfl⟩)⟩
  | filled hfound =>
    obtain ⟨rest, -, h⟩ := h.filled hfound
    exact ⟨_, _, _, h⟩
  | emptied _ hfirst hskb => exact absurd hskb (h.not_emptied hfirst)
  | rejected hfree hfirst hskb =>
    obtain ⟨rfl, rest, rfl⟩ := h.first hfree hfirst hskb
    exact ⟨_, _, _, h.rejected _⟩
  | passed hfree hfirst hskb =>
    obtain ⟨rfl, rest, rfl⟩ := h.first hfree hfirst hskb
    exact ⟨_, _, _, h.passed _⟩
  | finished hprocessing => exact ⟨_, _, _, h.finished hprocessing⟩
  | called => exact ⟨_, _, _, h.called _ _⟩

theorem orderly_of_run {t : RxQueue} (hs : s.Initial)
    (hrun : Run (SerialStep k priv process) s events t) : Orderly events t :=
  Run.history ⟨_, _, _, hs.queued⟩ (fun _ _ _ _ _ h hstep => h.step hstep) hrun

/-- The device has been called for what was prepared, and by the other processes. -/
theorem device_of_run {t : RxQueue} (hrun : Run (SerialStep k priv process) s events t) :
    Run DeviceState.Step s.device (events.flatMap (RxEvent.calls k priv process)) t.device := by
  refine Run.project ?_ hrun
  rintro u e t ⟨hstep, -⟩
  cases hstep with
  | rejected _ _ _ _ hdevice => exact hdevice
  | passed _ _ _ _ hdevice => exact hdevice
  | called _ hdevice => exact (Run.nil _).snoc hdevice
  | _ => exact .nil _

theorem initialized_iff {t : RxQueue} (hs : s.Initial)
    (hrun : Run (SerialStep k priv process) s events t) :
    t.initialized = true ↔ .initialized ∈ events := by
  refine Run.history (I := fun events t => t.initialized = true ↔ .initialized ∈ events)
    (by simp [hs.initialized]) ?_ hrun
  rintro events u e t - ih ⟨hstep, -⟩
  rw [List.mem_append, ← ih, List.mem_singleton]
  cases hstep with
  | initialized => simp
  | _ => simp

/-! ### The queue -/

/-- The driver before `ath9k_rx_init`. -/
def rxBoot : RxQueue := ⟨false, [], [], none, DeviceState.boot⟩

theorem rxBoot_initial : rxBoot.Initial := ⟨rfl, rfl, rfl, rfl⟩

/-- A packet is put into the first free buffer. -/
theorem Queued.arrive {i : Nat} (h : Queued events s none queue (i :: free))
    (hinit : s.initialized = true) (hfound : s.found = []) (skb : SkBuff) :
    ∃ t, Run (SerialStep k priv process) s [.found skb, .filled skb] t ∧
      Queued (events ++ [.found skb, .filled skb]) t none (queue ++ [(i, skb)]) free ∧
      t.initialized = true ∧ t.found = [] ∧ t.device = s.device := by
  have hfirst : firstFree s.rxbuf = some (Slot.ofFree SkBuff i) := h.layout.firstFree_eq
  have hone : s.found ++ [(i, skb)] = [] ++ (i, skb) :: [] := by rw [hfound]
  have hrun : Run (SerialStep k priv process) s [.found skb] _ :=
    (Run.nil s).snoc ⟨.found hinit hfirst, fun _ => hfound⟩
  obtain ⟨rest, hrest, hqueued⟩ := (Queued.found h hfirst hfound).filled hone
  obtain rfl := (List.cons.inj hrest).2
  rw [List.append_assoc] at hqueued
  exact ⟨_, hrun.snoc ⟨.filled hone, fun ⟨_, he⟩ => by cases he⟩, hqueued, hinit, rfl, rfl⟩

/-- `ath9k_htc_rxep` is called for a number of packets. -/
def arrivals (skb : SkBuff) : Nat → List RxEvent
  | 0 => [.initialized]
  | n + 1 => arrivals skb n ++ [.found skb, .filled skb]

/-- As long as there are buffers it finds one. -/
theorem rxBoot_arrivals (k : Ieee80211) (priv : RxPriv) (process : Acceptance → Bool)
    (skb : SkBuff) {n : Nat} (hn : n ≤ htcRxbuf) :
    ∃ t queue, Run (SerialStep k priv process) rxBoot (arrivals skb n) t ∧
      Queued (arrivals skb n) t none queue ((List.range htcRxbuf).drop n) ∧
      queue.map Prod.snd = List.replicate n skb ∧ t.initialized = true ∧ t.found = [] ∧
      t.device = DeviceState.boot := by
  induction n with
  | zero =>
    exact ⟨_, [], (Run.nil rxBoot).snoc ⟨.initialized rfl, fun _ => rfl⟩,
      rxBoot_initial.queued.initialized rfl, rfl, rfl, rfl, rfl⟩
  | succ n ih =>
    obtain ⟨t, queue, hrun, hqueued, hqueue, hinit, hfound, hboot⟩ := ih (by omega)
    rw [List.drop_eq_getElem_cons (by rw [List.length_range]; omega)] at hqueued
    obtain ⟨u, hnext, hqueued, hinit, hfound, hdevice⟩ := hqueued.arrive hinit hfound skb
    refine ⟨u, _, hrun.append hnext, hqueued, ?_, hinit, hfound, hdevice.trans hboot⟩
    rw [List.map_append, hqueue, List.replicate_succ']
    rfl

/-- What was not refused is what was prepared, what waits and what a buffer is found for. -/
theorem accepted_of_run {t : RxQueue} (hs : s.Initial)
    (hrun : Run (SerialStep k priv process) s events t) :
    RxEvent.accepted events =
      RxEvent.prepared events ++ t.waiting ++ t.found.map Prod.snd := by
  obtain ⟨held, queue, free, h⟩ := orderly_of_run hs hrun
  rw [h.accepted, waiting_eq h.layout h.processing]

/-- **Nothing is lost, doubled or overtaken** on the way through the buffers, in any order of
the critical sections and of the calls of other processes: what `ath9k_htc_rxep` did not
refuse is what the tasklet has prepared, then what waits, then the packet whose buffer is
found.  It refuses a packet only if all buffers are in process. -/
theorem run_fifo {t : RxQueue} (hs : s.Initial)
    (hrun : Run (SerialStep k priv process) s events t) :
    RxEvent.accepted events =
      RxEvent.prepared events ++ t.waiting ++ t.found.map Prod.snd ∧
    ∀ before skb after, events = before ++ .refused skb :: after → .initialized ∈ before →
      (RxEvent.accepted before).length = RxEvent.freed before + htcRxbuf := by
  constructor
  · exact accepted_of_run hs hrun
  · rintro before skb after rfl hinit
    obtain ⟨u, hbefore, hrun⟩ := Run.split hrun
    obtain ⟨v, ⟨hrefused, -⟩, -⟩ := Run.cons_iff.mp hrun
    obtain ⟨held, queue, free, h⟩ := orderly_of_run hs hbefore
    have hready : u.initialized = true := (initialized_iff hs hbefore).mpr hinit
    have hfull : firstFree u.rxbuf = none := by
      cases hrefused with
      | refused h => exact h.resolve_left (by simp [hready])
    rw [h.layout.firstFree_eq, Option.map_eq_none_iff, List.head?_eq_none_iff] at hfull
    subst hfull
    have hfound : u.found = [] := List.eq_nil_iff_forall_not_mem.mpr fun p hp => by
      cases h.found_head p hp
    have hlength := h.layout.length
    rw [h.capacity, hready, if_pos rfl, List.length_append, List.length_nil] at hlength
    rw [h.accepted, hfound, List.map_nil, List.append_nil, List.length_append, h.freed,
      List.length_map]
    omega

theorem receivedBeacon_published :
    (rxPrepare linuxIeee80211 plainStation (fun _ => true) (receivedBeacon 0)).published =
      some (0x80 :: List.replicate 35 0) := by decide

/-- The packet that has waited longest is prepared and published. -/
theorem Queued.pass {i : Nat} {skb : SkBuff} {rest : List (Nat × SkBuff)} {b : List UInt8}
    {d : DeviceState} (h : Queued events s none ((i, skb) :: rest) free)
    (hret : (rxPrepare k priv process skb).ret = true)
    (hpublished : (rxPrepare k priv process skb).published = some b)
    (hpublish : DeviceState.Step s.device (.updateBeacon b) d) :
    SerialStep k priv process s (.passed skb) { s with processing := some i, device := d } := by
  have hfirst : firstBusy s.rxbuf = some (Slot.ofBusy (i, skb)) := h.layout.firstBusy_eq
  have hcalls : Run DeviceState.Step s.device (skb.calls k priv process) d := by
    rw [SkBuff.calls, hpublished]
    exact (Run.nil _).snoc hpublish
  exact ⟨.passed h.processing hfirst rfl hret hcalls, fun ⟨_, he⟩ => by cases he⟩

/-- All buffers are filled, one packet more is refused, and the first one is prepared. -/
theorem run_fifo_full : ∃ before t,
    Run (SerialStep linuxIeee80211 plainStation fun _ => true) rxBoot
      (before ++ .refused (receivedBeacon 0) :: [.passed (receivedBeacon 0)]) t ∧
    RxEvent.accepted (before ++ .refused (receivedBeacon 0) :: [.passed (receivedBeacon 0)]) =
      RxEvent.prepared (before ++ .refused (receivedBeacon 0) :: [.passed (receivedBeacon 0)]) ++
        t.waiting ++ t.found.map Prod.snd ∧
    (RxEvent.accepted before).length = RxEvent.freed before + htcRxbuf := by
  obtain ⟨t, queue, hrun, hqueued, hqueue, hinit, -, hboot⟩ := rxBoot_arrivals linuxIeee80211
    plainStation (fun _ => true) (receivedBeacon 0) (Nat.le_refl htcRxbuf)
  rw [List.drop_eq_nil_of_le (by rw [List.length_range])] at hqueued
  have hfull : firstFree t.rxbuf = none := hqueued.layout.firstFree_eq
  have hrefuse : Step linuxIeee80211 plainStation (fun _ => true) t (.refused (receivedBeacon 0))
    t := .refused (.inr hfull)
  have hrefused := hrun.snoc ⟨hrefuse, fun ⟨_, he⟩ => by cases he⟩
  obtain ⟨⟨i, skb⟩, rest, rfl⟩ : ∃ p rest, queue = p :: rest := by
    refine List.exists_cons_of_length_pos ?_
    rw [← List.length_map (f := Prod.snd), hqueue, List.length_replicate]
    decide
  obtain rfl : skb = receivedBeacon 0 := by
    have hmem : skb ∈ List.replicate htcRxbuf (receivedBeacon 0) := by
      rw [← hqueue]
      exact List.mem_cons_self
    exact List.eq_of_mem_replicate hmem
  obtain ⟨d, hpublish⟩ := DeviceState.boot_initial.invariant.enabled.1
    (0x80 :: List.replicate 35 0) (by decide)
  have hpassed := hrefused.snoc
    (hqueued.pass (by decide) receivedBeacon_published (hboot ▸ hpublish))
  rw [List.append_assoc] at hpassed
  obtain ⟨haccepted, hrefuses⟩ := run_fifo rxBoot_initial hpassed
  refine ⟨_, _, hpassed, haccepted, hrefuses _ _ _ rfl ?_⟩
  have hmem (n : Nat) : .initialized ∈ arrivals (receivedBeacon 0) n := by
    induction n with
    | zero => exact List.mem_cons_self
    | succ n ih => exact List.mem_append_left _ ih
  exact hmem htcRxbuf

theorem published_append (calls more : List DeviceCall) : DeviceCall.published (calls ++ more) =
    DeviceCall.published calls ++ (DeviceCall.published more).tail := by
  simp [DeviceCall.published]

theorem published_calls (skb : SkBuff) : DeviceCall.published (skb.calls k priv process) =
    [] :: (rxPrepare k priv process skb).published.toList := by
  rw [SkBuff.calls]
  cases (rxPrepare k priv process skb).published <;> rfl

/-- What is published is what was prepared. -/
theorem published_of_run {t : RxQueue} (hrun : Run (SerialStep k priv process) s events t) :
    DeviceCall.published (events.flatMap (RxEvent.calls k priv process)) =
      [] :: (RxEvent.prepared events).filterMap fun skb =>
        (rxPrepare k priv process skb).published := by
  refine Run.history (I := fun events _ =>
    DeviceCall.published (events.flatMap (RxEvent.calls k priv process)) =
      [] :: (RxEvent.prepared events).filterMap fun skb =>
        (rxPrepare k priv process skb).published) rfl ?_ hrun
  rintro events u e t - ih ⟨hstep, -⟩
  have hprepared (skb : SkBuff) : (DeviceCall.published (skb.calls k priv process)).tail =
      [skb].filterMap fun skb => (rxPrepare k priv process skb).published := by
    rw [published_calls, List.tail_cons, List.filterMap_cons]
    cases (rxPrepare k priv process skb).published <;> rfl
  rw [List.flatMap_append, List.flatMap_singleton, published_append, ih,
    RxEvent.prepared_append, List.filterMap_append, List.cons_append]
  congr 2
  cases hstep with
  | rejected => exact hprepared _
  | passed => exact hprepared _
  | @called c _ hc _ =>
    cases c with
    | updateBeacon b => exact absurd rfl (hc b)
    | _ => rfl
  | _ => rfl

/-- Releasing the device is up to the process that has it open. -/
theorem release_notMem {events : List RxEvent} {h : Handle}
    (hevents : .called (.myRelease h) ∉ events) :
    .myRelease h ∉ events.flatMap (RxEvent.calls k priv process) := by
  intro hmem
  obtain ⟨e, he, hc⟩ := List.mem_flatMap.mp hmem
  have hpublishes (skb : SkBuff) : DeviceCall.myRelease h ∉ skb.calls k priv process := by
    intro hc
    rw [SkBuff.calls, Option.mem_toList, Option.map_eq_some_iff] at hc
    obtain ⟨b, -, hb⟩ := hc
    cases hb
  cases e with
  | rejected skb => exact hpublishes skb hc
  | passed skb => exact hpublishes skb hc
  | called c =>
    obtain rfl := List.mem_singleton.mp hc
    exact hevents he
  | _ => cases hc

/-- What a process reads while it has the device open are beginnings of one beacon that was
prepared before, or of the empty frame. -/
theorem reads_prepared {t : RxQueue} {before during : List RxEvent} {h : Handle}
    (hdevice : s.device.Initial)
    (hrun : Run (SerialStep k priv process) s (before ++ .called (.myOpen h) :: during) t)
    (hduring : .called (.myRelease h) ∉ during) :
    ∃ b, (b = [] ∨ ∃ skb ∈ RxEvent.prepared before, ReachesHook k skb ∧
        (skb.pull htcRxFrameHeaderSize).data = b) ∧
      DeviceCall.copiedTo h (during.flatMap (RxEvent.calls k priv process)) =
        Module.beginnings b 0
          (DeviceCall.askedOn h (during.flatMap (RxEvent.calls k priv process))) := by
  obtain ⟨u, hbefore, -⟩ := Run.split hrun
  have hcalls := device_of_run hrun
  rw [List.flatMap_append, List.flatMap_cons] at hcalls
  obtain ⟨b, hb, hcopied⟩ := DeviceState.copied_of_run hdevice hcalls (release_notMem hduring)
  refine ⟨b, ?_, hcopied⟩
  rw [published_of_run hbefore] at hb
  refine (List.mem_cons.mp hb).imp_right fun hb => ?_
  obtain ⟨skb, hskb, hpublished⟩ := List.mem_filterMap.mp hb
  exact ⟨skb, hskb, (published_iff process b).mp hpublished⟩

/-- The device publishes a beacon, is opened, and is read with any requests. -/
theorem boot_reads {b : List UInt8} (hb : b.length ≤ beaconMaxSize) (sizes : List Nat) :
    ∃ d d' d'' reads, DeviceState.Step DeviceState.boot (.updateBeacon b) d ∧
      DeviceState.Step d (.myOpen 0) d' ∧ Run DeviceState.Step d' reads d'' ∧
      DeviceCall.askedOn 0 reads = sizes ∧
      ∀ c ∈ reads, ∃ bufferSize r, c = .myRead 0 bufferSize r := by
  have hinitial := DeviceState.boot_initial.invariant
  obtain ⟨d, hpublish⟩ := hinitial.enabled.1 b hb
  have hinv := hinitial.step hpublish
  have hlive : d.live = ∅ := by
    cases hpublish
    rfl
  obtain ⟨d', hopen⟩ := hinv.enabled.2.1 0 (hlive ▸ Finset.notMem_empty 0)
  obtain ⟨d'', reads, hreads, hasked, hall⟩ := (hinv.step hopen).reads hopen.live_of_myOpen.1 sizes
  exact ⟨d, d', d'', reads, hpublish, hopen, hreads, hasked, hall⟩

/-- A packet arrives, is prepared and published. -/
theorem rxBoot_passed {skb : SkBuff} {b : List UInt8} {d : DeviceState}
    (hret : (rxPrepare k priv process skb).ret = true)
    (hpublished : (rxPrepare k priv process skb).published = some b)
    (hpublish : DeviceState.Step DeviceState.boot (.updateBeacon b) d) :
    ∃ t, Run (SerialStep k priv process) rxBoot (arrivals skb 1 ++ [.passed skb]) t ∧
      t.waiting = [] ∧ t.found = [] ∧ t.device = d := by
  obtain ⟨t, queue, hrun, hqueued, hqueue, -, hfound, hboot⟩ :=
    rxBoot_arrivals k priv process skb (show 1 ≤ htcRxbuf by decide)
  obtain ⟨⟨i, skb⟩, rfl, rfl⟩ := List.map_eq_singleton_iff.mp hqueue
  have hafter := hqueued.passed d
  exact ⟨_, hrun.snoc (hqueued.pass hret hpublished (hboot ▸ hpublish)),
    waiting_eq hafter.layout hafter.processing, hfound, rfl⟩

theorem offered_called (calls : List DeviceCall) :
    RxEvent.offered (calls.map RxEvent.called) = [] := by
  refine List.filterMap_eq_nil_iff.mpr fun e he => ?_
  obtain ⟨c, -, rfl⟩ := List.mem_map.mp he
  rfl

/-- Other processes may go on with the device. -/
theorem called_run (k : Ieee80211) (priv : RxPriv) (process : Acceptance → Bool) (s : RxQueue)
    {calls : List DeviceCall} {d : DeviceState} (hrun : Run DeviceState.Step s.device calls d)
    (hcalls : ∀ c ∈ calls, ∀ b, c ≠ .updateBeacon b) :
    Run (SerialStep k priv process) s (calls.map .called) { s with device := d } :=
  Run.embed (f := fun d => { s with device := d })
    (fun _ _ _ hc hstep => ⟨.called hc hstep, fun ⟨_, he⟩ => by cases he⟩) hrun hcalls

/-! ### The tasklet empties the queue -/

/-- A packet that fits can be published in every state of the device. -/
theorem publish_of_fits {device : DeviceState} {calls : List DeviceCall}
    (hdevice : device.Invariant calls) {skb : SkBuff} (hfits : skb.Fits k priv process) :
    ∃ device' calls', Run DeviceState.Step device (skb.calls k priv process) device' ∧
      device'.Invariant calls' := by
  cases hpublished : (rxPrepare k priv process skb).published with
  | none =>
    refine ⟨device, calls, ?_, hdevice⟩
    rw [SkBuff.calls, hpublished]
    exact .nil device
  | some packet =>
    obtain ⟨device', hstep⟩ := hdevice.enabled.1 packet (hfits packet hpublished)
    refine ⟨device', _, ?_, hdevice.step hstep⟩
    rw [SkBuff.calls, hpublished]
    exact (Run.nil device).snoc hstep

/-- With nothing between its critical sections the tasklet needs two steps a packet. -/
theorem Queued.drain {calls : List DeviceCall} (h : Queued events s none queue free)
    (hdevice : s.device.Invariant calls) (hfits : ∀ p ∈ queue, p.2.Fits k priv process) :
    ∃ more t, Run (SerialStep k priv process) s more t ∧ (∀ e ∈ more, e.isTasklet = true) ∧
      more.length ≤ 2 * queue.length ∧ t.processing = none ∧ t.waiting = [] := by
  induction queue generalizing events s free calls with
  | nil =>
    exact ⟨[], s, .nil s, fun _ he => absurd he List.not_mem_nil, Nat.zero_le _, h.processing,
      waiting_eq h.layout h.processing⟩
  | cons p queue ih =>
    obtain ⟨i, skb⟩ := p
    rw [List.forall_mem_cons] at hfits
    obtain ⟨device, calls', hrun, hdevice⟩ := publish_of_fits hdevice hfits.1
    have hfirst : firstBusy s.rxbuf = some (Slot.ofBusy (i, skb)) := h.layout.firstBusy_eq
    cases hret : (rxPrepare k priv process skb).ret with
    | false =>
      have hstep : SerialStep k priv process s (.rejected skb) _ :=
        ⟨.rejected h.processing hfirst rfl hret hrun, fun ⟨_, he⟩ => by cases he⟩
      obtain ⟨more, t, hmore, htasklet, hlength, ht⟩ := ih (h.rejected device) hdevice hfits.2
      refine ⟨.rejected skb :: more, t, Run.cons_iff.mpr ⟨_, hstep, hmore⟩,
        List.forall_mem_cons.mpr ⟨rfl, htasklet⟩, ?_, ht⟩
      simp only [List.length_cons]
      omega
    | true =>
      have hpassed : SerialStep k priv process s (.passed skb) _ :=
        ⟨.passed h.processing hfirst rfl hret hrun, fun ⟨_, he⟩ => by cases he⟩
      have hfinished : SerialStep k priv process _ .finished _ :=
        ⟨.finished (h.passed device).processing, fun ⟨_, he⟩ => by cases he⟩
      obtain ⟨more, t, hmore, htasklet, hlength, ht⟩ :=
        ih ((h.passed device).finished rfl) hdevice hfits.2
      refine ⟨.passed skb :: .finished :: more, t,
        Run.cons_iff.mpr ⟨_, hpassed, Run.cons_iff.mpr ⟨_, hfinished, hmore⟩⟩,
        List.forall_mem_cons.mpr ⟨rfl, List.forall_mem_cons.mpr ⟨rfl, htasklet⟩⟩, ?_, ht⟩
      simp only [List.length_cons]
      omega

/-- **The tasklet empties the queue**: from every state that a run reaches it frees all
buffers in at most two steps a buffer, if what it publishes fits. -/
theorem drain_of_run {t : RxQueue} (hs : s.Initial) (hdevice : s.device.Initial)
    (hrun : Run (SerialStep k priv process) s events t)
    (hfits : ∀ skb ∈ t.waiting, skb.Fits k priv process) :
    ∃ more u, Run (SerialStep k priv process) t more u ∧ (∀ e ∈ more, e.isTasklet = true) ∧
      more.length ≤ 2 * htcRxbuf ∧ u.processing = none ∧ u.waiting = [] := by
  obtain ⟨held, queue, free, h⟩ := orderly_of_run hs hrun
  have hreached := DeviceState.invariant_of_run hdevice (device_of_run hrun)
  rw [waiting_eq h.layout h.processing, List.forall_mem_map] at hfits
  have hlength := h.layout.length
  have hcapacity : t.rxbuf.length ≤ htcRxbuf := by
    rw [h.capacity]
    split
    · exact Nat.le_refl _
    · exact Nat.zero_le _
  rw [List.length_append] at hlength
  cases held with
  | none =>
    obtain ⟨more, u, hmore, htasklet, hle, hu⟩ := h.drain hreached hfits
    exact ⟨more, u, hmore, htasklet, by omega, hu⟩
  | some p =>
    rw [Option.toList_some, List.length_singleton] at hlength
    have hstep : SerialStep k priv process t .finished _ :=
      ⟨.finished h.processing, fun ⟨_, he⟩ => by cases he⟩
    obtain ⟨more, u, hmore, htasklet, hle, hu⟩ := (h.finished h.processing).drain hreached hfits
    refine ⟨.finished :: more, u, Run.cons_iff.mpr ⟨_, hstep, hmore⟩,
      List.forall_mem_cons.mpr ⟨rfl, htasklet⟩, ?_, hu⟩
    rw [List.length_cons]
    omega

/-- A packet that has arrived is taken out of the queue. -/
theorem drain_of_run_arrival : ∃ events t more u,
    Run (SerialStep linuxIeee80211 plainStation fun _ => true) rxBoot events t ∧
      t.waiting = [receivedBeacon 0] ∧
    Run (SerialStep linuxIeee80211 plainStation fun _ => true) t more u ∧
      (∀ e ∈ more, e.isTasklet = true) ∧ u.waiting = [] := by
  obtain ⟨t, queue, hrun, hqueued, hqueue, -⟩ := rxBoot_arrivals linuxIeee80211 plainStation
    (fun _ => true) (receivedBeacon 0) (show 1 ≤ htcRxbuf by decide)
  have hwaiting : t.waiting = [receivedBeacon 0] :=
    (waiting_eq hqueued.layout hqueued.processing).trans hqueue
  have hfits : ∀ skb ∈ t.waiting, skb.Fits linuxIeee80211 plainStation fun _ => true := by
    intro skb hskb packet hpacket
    rw [hwaiting] at hskb
    rw [List.mem_singleton.mp hskb, receivedBeacon_published] at hpacket
    cases hpacket
    decide
  obtain ⟨more, u, hmore, htasklet, -, -, hempty⟩ :=
    drain_of_run rxBoot_initial DeviceState.boot_initial hrun hfits
  exact ⟨_, t, more, u, hrun, hwaiting, hmore, htasklet, hempty⟩

/-! ### Two callers at once -/

/-- **A packet is lost** where `ath9k_htc_rxep` is called again between its two critical
sections: both calls fill the same buffer. -/
theorem overlap_loses (hs : s.Initial) (skb skb' : SkBuff) :
    ∃ t, Run (Step k priv process) s
        [.initialized, .found skb, .found skb', .filled skb, .filled skb'] t ∧
      t.waiting = [skb'] ∧ t.found = [] ∧ t.processing = none := by
  have hlayout : Layout rxInit [] (List.range htcRxbuf) := Layout.ofFree List.nodup_range
  have hrange : List.range htcRxbuf = 0 :: (List.range 255).map Nat.succ :=
    List.range_succ_eq_map
  have hfirst : firstFree rxInit = some (Slot.ofFree SkBuff 0) := by
    rw [hlayout.firstFree_eq, hrange]
    rfl
  rw [hrange] at hlayout
  have h₁ : Run (Step k priv process) s [.initialized] _ :=
    (Run.nil s).snoc (.initialized hs.initialized)
  have h₂ : Run (Step k priv process) s [.initialized, .found skb] _ :=
    h₁.snoc (.found rfl hfirst)
  have h₃ : Run (Step k priv process) s [.initialized, .found skb, .found skb'] _ :=
    h₂.snoc (.found rfl hfirst)
  have hfound : s.found ++ [(0, skb)] ++ [(0, skb')] = [] ++ (0, skb) :: [(0, skb')] := by
    rw [hs.found]
    rfl
  have h₄ : Run (Step k priv process) s
      [.initialized, .found skb, .found skb', .filled skb] _ := h₃.snoc (.filled hfound)
  have hlast : [] ++ [(0, skb')] = [] ++ (0, skb') :: [] := rfl
  refine ⟨_, h₄.snoc (.filled hlast), ?_, rfl, hs.processing⟩
  have hfilled : Layout (fill 0 skb' (fill 0 skb rxInit)) (Option.toList none ++ [(0, skb')])
      ((List.range 255).map Nat.succ) := by
    rw [fill_fill]
    exact hlayout.fill skb'
  have hwaiting : ∀ t : RxQueue, t.rxbuf = fill 0 skb' (fill 0 skb rxInit) →
      t.processing = Option.map Prod.fst none → t.waiting = [(0, skb')].map Prod.snd :=
    fun t ht hprocessing => waiting_eq (ht ▸ hfilled) hprocessing
  exact hwaiting _ rfl hs.processing

end

end RxQueue

end SnapDesk
