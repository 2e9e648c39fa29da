import SnapDesk.HtcMessages
import SnapDesk.RecvTasklet
import SnapDesk.StoredBeacons

/-! # From the radio to the program

A driver and the program have one device between them, so that the calls that the driver
and other processes have made of it are those that the program and others have: the runs of
the one and of the other agree on them, and on nothing else.

Whatever goes on meanwhile on either side, a turn of the program works on one frame that the
radio has received, or on none; and with a script that hashes, every row of its data files and
every notification come from such a frame: with the one driver from a message of the firmware
(`draws_sent`), with the other from a packet of a completed transfer (`draws_carried`). -/
namespace SnapDesk
open Transition Register

/-- The 802.11 frame of a message of the firmware that passes the tests in front of the hook. -/
def IsSent (k : Ieee80211) (hasRx : Nat → Bool) (packets : List Packet) (b : List UInt8) : Prop :=
  ∃ p ∈ packets, ∃ (skb body : SkBuff) (epid : Nat), skb.data = p.payload ∧
    skb.rxMsg hasRx = .rx epid body ∧ ReachesHook k body ∧
    (body.pull htcRxFrameHeaderSize).data = b

/-- The beacon in a packet of a completed transfer whose descriptor says that it is whole. -/
def IsCarried (k : Ieee80211) (mpMode : Bool) (bufs : List RecvBuf) (b : List UInt8) : Prop :=
  ∃ buf ∈ bufs, ∃ (pos : Nat) (f : RecvFrame) (skb : SkBuff), buf.Describes mpMode pos f ∧
    f.rxData = b ∧ skb.data = b ∧ k.isBeacon skb.frameControl = true

namespace Deployment
variable {digest : Str → Vector UInt8 32} {bufferSize : Nat} {w w' : World} {memory : List UInt8}
  {s t : Deployment} {events : List DeployEvent} {tree : Node}
  {moments : List Moment} {source : List UInt8 → Prop}

/-- A turn has found a frame of the source or an empty one, or it could not open the device. -/
def FindsFrom (source : List UInt8 → Prop) (moment : Moment) : Prop :=
  moment.device = none ∨ ∃ b, (b = [] ∨ source b) ∧ moment.device = some [b]

/-- What a world holds comes from a source: every row of a data file has the output of a
frame of the source with its name, and every notification names such a frame. -/
structure Records (digest : Str → Vector UInt8 32) (w : World) (tree : Node)
    (source : List UInt8 → Prop) (w' : World) : Prop where
  files : ∀ ssid, slash ∉ ssid → 0 ∉ ssid → w'.fs (dataLoc digest w ssid) = none ∨
    ∃ items : List (Item Str Str),
      HasFile w' (dataPath digest w ssid) (dataLoc digest w ssid) (registerText items) ∧
      ∀ item ∈ items, ∃ b, source b ∧
        seenOf (observeFrame digest tree (received (some [b]))) = some (ssid, item.key)
  commands : ∃ ssids : List Str,
    w'.commands = w.commands ++ ssids.map (fun ssid =>
      cStr (Communicator.notifyCommand (newApMessage ssid))) ∧
    ∀ ssid ∈ ssids, ∃ b output, source b ∧
      seenOf (observeFrame digest tree (received (some [b]))) = some (ssid, output)

/-- The program stores what it sees: its script hashes, it has begun with an empty database, and
what is published can be stored. -/
structure Storing (bufferSize : Nat) (w : World) (memory : List UInt8) (script : Str) (tree : Node)
    (events : List DeployEvent) : Prop where
  starts : StartsEmpty tree w script
  hashes : HashesArgs tree
  memory_length : memory.length = beaconFrameMaxLength
  storable : ∀ b ∈ DeviceCall.published (DeployEvent.calls bufferSize events), Storable b
  short : (sampled events).length < 2 ^ 31 - 1

/-- **The program draws from a source**: it is the program on the turns that it has sampled;
every one of them has found a frame of the source, or nothing; and where it stores what it
sees, what it has stored and notified of comes from the source. -/
structure Draws (digest : Str → Vector UInt8 32) (bufferSize : Nat) (w : World)
    (memory : List UInt8) (events : List DeployEvent) (t : Deployment)
    (source : List UInt8 → Prop) : Prop where
  program : t.program = Program.run digest w memory (sampled events)
  moments : ∀ moment ∈ sampled events, FindsFrom source moment
  records : ∀ script tree, Storing bufferSize w memory script tree events →
    ∃ session desk w', t.program = .running session desk w' ∧ Records digest w tree source w'

/-- Nothing is seen where nothing was read. -/
theorem seenOf_nothing {device : Option (List (List UInt8))}
    (h : device = none ∨ device = some [[]]) :
    seenOf (observeFrame digest tree (received device)) = none := by
  rcases h with rfl | rfl
  · rfl
  · rfl

/-- What is seen is a frame of the source. -/
theorem source_of_seen (hmoments : ∀ moment ∈ moments, FindsFrom source moment)
    {who output date : Str} (hseen : (who, output, date) ∈
      seenFrames (observeFrame digest) tree (moments.map Moment.view)) :
    ∃ b, source b ∧
      seenOf (observeFrame digest tree (received (some [b]))) = some (who, output) := by
  obtain ⟨input, hinput, hseen⟩ := List.mem_filterMap.mp hseen
  obtain ⟨moment, hm, rfl⟩ := List.mem_map.mp hinput
  obtain ⟨pair, hpair, he⟩ := Option.map_eq_some_iff.mp hseen
  cases he
  rcases hmoments moment hm with hnone | ⟨b, rfl | hb, hsome⟩
  · rw [Moment.view, seenOf_nothing (.inl hnone)] at hpair
    cases hpair
  · rw [Moment.view, seenOf_nothing (.inr hsome)] at hpair
    cases hpair
  · rw [Moment.view, hsome] at hpair
    exact ⟨b, hb, hpair⟩

/-- What is stored comes from what the turns have found. -/
theorem Stored.records (h : Stored digest w tree moments w')
    (hmoments : ∀ moment ∈ moments, FindsFrom source moment) :
    Records digest w tree source w' where
  files := by
    intro ssid hslash hzero
    refine (h.files ssid hslash hzero).imp And.right ?_
    rintro ⟨items, hkept, hfile⟩
    refine ⟨items, hfile, fun item hitem => ?_⟩
    -- the row is that of a visit
    obtain ⟨visit, hvisit, hkey⟩ := List.mem_map.mp (hkept.of_visits hitem).1
    obtain ⟨⟨who, output, date⟩, hframe, rfl⟩ := List.mem_map.mp hvisit
    obtain ⟨hseen, hwho⟩ := List.mem_filter.mp hframe
    obtain rfl : who = ssid := of_decide_eq_true hwho
    obtain rfl : output = item.key := hkey
    exact source_of_seen hmoments hseen
  commands := by
    refine ⟨(seenPairs (observeFrame digest) tree (moments.map Moment.view)).eraseDups.map
      Prod.fst, ?_, fun ssid hssid => ?_⟩
    · rw [List.map_map]
      exact h.commands
    · obtain ⟨pair, hpair, rfl⟩ := List.mem_map.mp hssid
      obtain ⟨⟨who, output, date⟩, hseen, rfl⟩ := List.mem_map.mp (List.mem_eraseDups.mp hpair)
      obtain ⟨b, hb, hpair⟩ := source_of_seen hmoments hseen
      exact ⟨b, output, hb, hpair⟩

/-- What is published comes from the source, so the program draws from it. -/
theorem draws_of_run (hs : s.Initial digest w memory) (hbuffer : beaconMaxSize ≤ bufferSize)
    (hrun : Run (Step digest bufferSize) s events t)
    (hpublished : ∀ b ∈ DeviceCall.published (DeployEvent.calls bufferSize events),
      b = [] ∨ source b) : Draws digest bufferSize w memory events t source := by
  have hprogram := (follows_of_run hs hbuffer hrun).program
  rw [← sampled] at hprogram
  have hmoments : ∀ moment ∈ sampled events, FindsFrom source moment := by
    intro moment hm
    refine ((mem_published_of_sampled bufferSize events).2 moment hm).imp_right ?_
    rintro ⟨b, hb, hdevice⟩
    exact ⟨b, hpublished b hb, hdevice⟩
  refine ⟨hprogram, hmoments, fun script tree h => ?_⟩
  obtain ⟨session, desk, w', hrunning, hstored⟩ := stored_of_moments h.starts h.hashes
    h.memory_length (findsStorable_of_run hrun h.storable) h.short
  exact ⟨session, desk, w', hprogram.trans hrunning, hstored.records hmoments⟩

section
variable (k : Ieee80211) (priv : RxPriv) (process : Acceptance → Bool) (hasRx : Nat → Bool)

/-- **From the firmware to the files**: the transfers over the stream, the messages, the
buffers, the device and the turns of the program may interleave in any way, with each other
and with other processes; the program draws from the messages that the firmware has sent. -/
theorem draws_sent {transfers : List Transfer} {packets : List Packet} {last : Option Pending}
    (hsent : Sent none transfers packets last) {hif : HifDevice} {skbs : List SkBuff}
    (hskbs : HifDevice.fresh.rxStreams transfers = .ok (hif, skbs.map SkBuff.data))
    {q q' : RxQueue} {rxEvents : List RxEvent} (hq : q.Initial)
    (hdriver : Run (RxQueue.SerialStep k priv process) q rxEvents q')
    (hoffered : RxEvent.offered rxEvents ⊆ handed hasRx skbs) (hs : s.Initial digest w memory)
    (hbuffer : beaconMaxSize ≤ bufferSize) (hrun : Run (Step digest bufferSize) s events t)
    (hcalls : DeployEvent.calls bufferSize events =
      rxEvents.flatMap (RxEvent.calls k priv process)) :
    Draws digest bufferSize w memory events t (IsSent k hasRx packets) := by
  refine draws_of_run hs hbuffer hrun fun b hb => ?_
  rw [hcalls] at hb
  exact sent_of_published k priv process hasRx hsent hskbs hq hdriver hoffered hb

end

/-! ### The network `home` -/

/-- What a turn calls of the device. -/
def turnCalls (rs : List ReadResult) : List DeviceCall :=
  .myOpen 0 :: (rs.map (DeviceCall.myRead 0 8191) ++ [.myRelease 0])

theorem turnCalls_ne (rs : List ReadResult) : ∀ c ∈ turnCalls rs, ∀ b, c ≠ .updateBeacon b := by
  intro c hc b
  simp only [turnCalls, List.mem_cons, List.mem_append, List.mem_map, List.not_mem_nil,
    or_false] at hc
  rcases hc with rfl | ⟨r, -, rfl⟩ | rfl
  all_goals exact DeviceCall.noConfusion

/-- Behind the publication of the beacon. -/
theorem boot_calls {b : List UInt8} {rs : List ReadResult} {t : Deployment}
    (hrun : Run (Step zeroDigest 8191) boot (turnEvents b rs) t) :
    ∃ d, DeviceState.Step DeviceState.boot (.updateBeacon b) d ∧
      Run DeviceState.Step d (turnCalls rs) t.device := by
  have hdevice := device_of_run hrun
  rw [calls_turnEvents] at hdevice
  exact Run.cons_iff.mp hdevice

/-- The beacon of `home` as the one driver receives it, with its status in front. -/
def homeSkb : SkBuff where
  data := List.replicate 8 0 ++ [0, 49, 0] ++ List.replicate 8 0 ++ [rxkeyixInvalid] ++
    List.replicate 20 0 ++ Frame.homeBeacon.wire
  behind := fun _ => 0

/-- Its message, as a packet of the stream. -/
def homePacket : Packet where
  payload := (rxMessage homeSkb.data (by decide)).bytes
  padding := List.replicate 3 0
  padding_length := by decide
  length_le := by decide

/-- Its transfer. -/
def homeTransfer : Transfer where
  memory := homePacket.wire ++ List.replicate 16280 0
  len := 104
  memory_length := by rw [List.length_append, List.length_replicate]; rfl
  len_le := by decide

theorem sent_home : Sent none [homeTransfer] [homePacket] none := by
  have hreceived : homeTransfer.received = restOf none ++ [homePacket].flatMap Packet.wire := by
    rw [List.flatMap_cons, List.flatMap_nil, List.append_nil]
    exact List.take_left' rfl
  exact .whole hreceived (by decide) (.nil none)

theorem rxStreams_home : ∃ hif, HifDevice.fresh.rxStreams [homeTransfer] =
    .ok (hif, [SkBuff.mk homePacket.payload fun _ => 0].map SkBuff.data) := by
  obtain ⟨hif, h, -⟩ : ∃ hif, HifDevice.fresh.rxStreams [homeTransfer] =
      .ok (hif, [homePacket].map Packet.payload) ∧ hif.Keeps none :=
    HifDevice.Keeps.rxStreams sent_home ⟨rfl, rfl⟩
  exact ⟨hif, h⟩

theorem storing_home (rs : List ReadResult) : Storing 8191 (homeWorld ssidScript) Frame.zeroMemory
    ssidScript ssidTree (turnEvents Frame.homeBeacon.wire rs) where
  starts := startsEmpty_homeWorld compiled_ssidScript
  hashes := ⟨[.getter (lit "0")], rfl, by decide⟩
  memory_length := List.length_replicate
  storable := by
    rw [published_turnEvents]
    simp only [List.forall_mem_cons]
    exact ⟨storable_nil, storable_home, fun _ h => absurd h List.not_mem_nil⟩
  short := by
    rw [sampled_turnEvents]
    decide

/-- The beacon of `home` is received, and the program takes a turn. -/
def homeRxEvents (rs : List ReadResult) : List RxEvent :=
  RxQueue.arrivals homeSkb 1 ++ [.passed homeSkb] ++ (turnCalls rs).map .called

/-- What the program draws from the firmware then. -/
theorem draws_sent_home : ∃ (rs : List ReadResult) (t : Deployment) (q : RxQueue),
    Run (RxQueue.SerialStep linuxIeee80211 plainStation fun _ => true) RxQueue.rxBoot
      (homeRxEvents rs) q ∧
    Run (Step zeroDigest 8191) boot (turnEvents Frame.homeBeacon.wire rs) t ∧
    (∀ moment ∈ sampled (turnEvents Frame.homeBeacon.wire rs),
      FindsFrom (IsSent linuxIeee80211 (fun _ => true) [homePacket]) moment) ∧
    ∃ session desk w', t.program = .running session desk w' ∧
      Records zeroDigest (homeWorld ssidScript) ssidTree
        (IsSent linuxIeee80211 (fun _ => true) [homePacket]) w' := by
  have hb : Frame.homeBeacon.wire.length ≤ beaconMaxSize := by decide
  obtain ⟨rs, t, hrun⟩ := boot_run hb
  obtain ⟨d, hpublish, hreads⟩ := boot_calls hrun
  obtain ⟨hif, hstream⟩ := rxStreams_home
  have hpublished : (rxPrepare linuxIeee80211 plainStation (fun _ => true) homeSkb).published =
      some Frame.homeBeacon.wire := by decide
  obtain ⟨q, hdriver, -, -, rfl⟩ := RxQueue.rxBoot_passed (by decide) hpublished hpublish
  have hdriver := hdriver.append (RxQueue.called_run linuxIeee80211 plainStation (fun _ => true) q
    hreads (turnCalls_ne rs))
  have hoffered : RxEvent.offered (homeRxEvents rs) ⊆
      handed (fun _ => true) [SkBuff.mk homePacket.payload fun _ => 0] := by
    rw [homePacket, handed_rxMessage, homeRxEvents, RxEvent.offered, List.filterMap_append,
      ← RxEvent.offered, ← RxEvent.offered, RxQueue.offered_called, List.append_nil]
    exact List.Subset.refl _
  have hcalls : DeployEvent.calls 8191 (turnEvents Frame.homeBeacon.wire rs) =
      (homeRxEvents rs).flatMap (RxEvent.calls linuxIeee80211 plainStation fun _ => true) := by
    rw [calls_turnEvents, homeRxEvents, List.flatMap_append,
      flatMap_map_of_singleton fun _ => rfl]
    have hpassed : homeSkb.calls linuxIeee80211 plainStation (fun _ => true) =
        [.updateBeacon Frame.homeBeacon.wire] := by
      rw [SkBuff.calls, hpublished]
      rfl
    exact congrArg (· ++ turnCalls rs) hpassed.symm
  have hdraws := draws_sent linuxIeee80211 plainStation (fun _ => true) (fun _ => true) sent_home
    hstream RxQueue.rxBoot_initial hdriver hoffered boot_initial (by decide) hrun hcalls
  exact ⟨rs, t, _, hdriver, hrun, hdraws.moments, hdraws.records _ _ (storing_home rs)⟩

section
variable (k : Ieee80211) (mode : RxAggMode) (mpMode : Bool)

/-- **From the transfers to the files**, with the other driver. -/
theorem draws_carried {q q' : RecvQueue} {recvEvents : List RecvEvent} {bufs skbs : Nat}
    (hq : q.Initial bufs skbs) (hdriver : Run (RecvQueue.Step k mode mpMode) q recvEvents q')
    (hs : s.Initial digest w memory) (hbuffer : beaconMaxSize ≤ bufferSize)
    (hrun : Run (Step digest bufferSize) s events t)
    (hcalls : DeployEvent.calls bufferSize events = recvEvents.flatMap (RecvEvent.calls k)) :
    Draws digest bufferSize w memory events t
      (IsCarried k mpMode (RecvEvent.completedBufs recvEvents)) := by
  refine draws_of_run hs hbuffer hrun fun b hb => ?_
  rw [hcalls] at hb
  exact RecvQueue.carried_of_published hq hdriver hb

end

/-- The beacon of `home` as the other driver receives it. -/
def homeAgg : AggPacket .usb where
  prxstat := [49, 0, 0, 0, 0, 0, 0, 0, 0, 0, 1, 0] ++ List.replicate 12 0
  drvinfo := []
  shift := []
  payload := Frame.homeBeacon.wire
  padding := List.replicate 3 0
  pktRptType := .normalRx
  prxstat_length := rfl
  payload_ne_nil := by decide
  attrib := by decide +kernel
  padding_length := rfl

/-- Its transfer. -/
def homeBuf : RecvBuf where
  memory := homeAgg.body ++ List.replicate 15360 0
  transferLen := 76
  memory_length := by
    rw [List.length_append, List.length_replicate, maxRecvbufSz]
    omega
  le_transferLen := by decide
  transferLen_le := by decide

theorem homeBuf_frames : homeBuf.recvbuf2recvframe .usb false (fun _ => true) (fun _ => true) =
    .ok (([] ++ [homeAgg]).map AggPacket.frame) := by
  have hdesc : homeBuf.slice 0 rxdescSize = homeAgg.prxstat := rfl
  have hcnt : pktCntOf homeAgg.prxstat = 1 := by decide +kernel
  have hbytes : homeBuf.memory.drop 0 =
    ([] : List (AggPacket .usb)).flatMap AggPacket.wire ++
      (homeAgg.body ++ List.replicate 15360 0) := rfl
  have hle : (([] : List (AggPacket .usb)).flatMap AggPacket.wire).length + homeAgg.body.length ≤
    homeBuf.transferLen := by decide
  have hend : homeBuf.transferLen ≤
    (([] : List (AggPacket .usb)).flatMap AggPacket.wire).length + homeAgg.wire.length := by decide
  rw [RecvBuf.recvbuf2recvframe, homeBuf.read_first, hdesc]
  simp only [hcnt]
  exact Receiving.loop_aggregate hbytes hle hend (.inr (by decide)) (by decide) (by decide)

/-- The transfer is completed, and the program takes a turn. -/
def homeRecvEvents (rs : List ReadResult) : List RecvEvent :=
  RecvQueue.hookedEvents homeBuf [homeAgg.frame] ⟨Frame.homeBeacon.wire, fun _ => 0⟩ ++
    (turnCalls rs).map .called

/-- What the program draws from the transfer then. -/
theorem draws_carried_home : ∃ (rs : List ReadResult) (t : Deployment) (q : RecvQueue),
    Run (RecvQueue.Step linuxIeee80211 .usb false) RecvQueue.recvBoot (homeRecvEvents rs) q ∧
    Run (Step zeroDigest 8191) boot (turnEvents Frame.homeBeacon.wire rs) t ∧
    (∀ moment ∈ sampled (turnEvents Frame.homeBeacon.wire rs),
      FindsFrom (IsCarried linuxIeee80211 false (RecvEvent.completedBufs (homeRecvEvents rs)))
        moment) ∧
    ∃ session desk w', t.program = .running session desk w' ∧
      Records zeroDigest (homeWorld ssidScript) ssidTree
        (IsCarried linuxIeee80211 false (RecvEvent.completedBufs (homeRecvEvents rs))) w' := by
  have hb : Frame.homeBeacon.wire.length ≤ beaconMaxSize := by decide
  obtain ⟨rs, t, hrun⟩ := boot_run hb
  obtain ⟨d, hpublish, hreads⟩ := boot_calls hrun
  obtain ⟨q, hdriver, rfl⟩ := RecvQueue.recvBoot_hooked linuxIeee80211 .usb false
    ⟨Frame.homeBeacon.wire, fun _ => 0⟩ homeBuf_frames rfl (by decide) hpublish
  have hdriver := hdriver.append (RecvQueue.called_run linuxIeee80211 .usb false q hreads
    (turnCalls_ne rs))
  have hcalls : DeployEvent.calls 8191 (turnEvents Frame.homeBeacon.wire rs) =
      (homeRecvEvents rs).flatMap (RecvEvent.calls linuxIeee80211) := by
    rw [calls_turnEvents, homeRecvEvents, List.flatMap_append,
      flatMap_map_of_singleton fun _ => rfl]
    rfl
  have hdraws := draws_carried linuxIeee80211 .usb false RecvQueue.recvBoot_initial hdriver
    boot_initial (by decide) hrun hcalls
  exact ⟨rs, t, _, hdriver, hrun, hdraws.moments, hdraws.records _ _ (storing_home rs)⟩

end Deployment
end SnapDesk
