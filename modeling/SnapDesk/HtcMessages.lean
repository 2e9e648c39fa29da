import SnapDesk.RxQueue
import SnapDesk.UsbStream

/-! # From the firmware to the device file

`ath9k_htc_rx_msg` (`htc_hst.c`), between the stream of packets and the receive queue: a
packet is a message for an endpoint, and those for the data endpoints go to
`ath9k_htc_rxep`.

With it the way of a beacon is complete.  A process that reads the device gets the packet of
a message that the firmware sent, or nothing (`reads_sent`), and if no message is refused all
of them are published, in order (`published_sent`). -/
namespace SnapDesk
open Transition

/-- `HTC_FLAGS_RECV_TRAILER`. -/
def htcFlagsRecvTrailer : UInt8 := 2

/-- `sizeof(struct htc_frame_hdr)`. -/
def htcFrameHdrSize : Nat := 8

/-- `ENDPOINT_MAX`. -/
def endpointMax : Nat := 22

namespace SkBuff

/-- `skb_trim`. -/
def trim (skb : SkBuff) (len : Nat) : SkBuff :=
  if len < skb.len then ⟨skb.data.take len, fun i => skb.byte (len + i)⟩ else skb

/-- `skb_pull` of a number of bytes that the buffer need not have. -/
def pullIfThere (skb : SkBuff) (count : Nat) : SkBuff :=
  if count ≤ skb.len then skb.pull count else skb

end SkBuff

/-- What becomes of a message. -/
inductive HtcMessage where
  | invalid
  /-- The firmware has crashed. -/
  | panic
  /-- For the endpoint that sets up the others. -/
  | control
  /-- For the callback of an endpoint. -/
  | rx (epid : Nat) (skb : SkBuff)

/-- `ath9k_htc_rx_msg`, where `hasRx` says which endpoints have a callback. -/
def SkBuff.rxMsg (hasRx : Nat → Bool) (skb : SkBuff) : HtcMessage :=
  if skb.len < htcFrameHdrSize then .invalid
  else
    let epid := (skb.byte 0).toNat
    if epid = 0x99 then .panic
    else if endpointMax ≤ epid then .invalid
    else if epid = 0 then .control
    else
      let flags := skb.byte 1
      let control := (skb.byte 4).toNat
      -- the length is of 32 bits
      let skb :=
        if flags &&& htcFlagsRecvTrailer ≠ 0 then
          skb.trim ((skb.len + 2 ^ 32 - control) % 2 ^ 32)
        else skb
      let skb := skb.pullIfThere htcFrameHdrSize
      if hasRx epid then .rx epid skb else .invalid

/-- The packet of a message for a callback. -/
def HtcMessage.skb? : HtcMessage → Option SkBuff
  | rx _ skb => some skb
  | _ => none

/-- The packets that the callbacks get. -/
def handed (hasRx : Nat → Bool) (skbs : List SkBuff) : List SkBuff :=
  skbs.filterMap fun skb => (skb.rxMsg hasRx).skb?

/-- A message of the firmware for an endpoint, with or without a trailer. -/
structure HtcFrame where
  epid : UInt8
  flags : UInt8
  /-- `payload_len`, which is not read. -/
  payloadLen : List UInt8
  control : List UInt8
  body : List UInt8
  trailer : List UInt8
  epid_pos : epid.toNat ≠ 0
  epid_lt : epid.toNat < endpointMax
  payloadLen_length : payloadLen.length = 2
  control_length : control.length = 4
  no_trailer : flags &&& htcFlagsRecvTrailer = 0 → trailer = []
  trailer_length : flags &&& htcFlagsRecvTrailer ≠ 0 →
    ∃ b : UInt8, control[0]? = some b ∧ b.toNat = trailer.length
  body_length : body.length < 2 ^ 16

namespace HtcFrame

def header (f : HtcFrame) : List UInt8 := f.epid :: f.flags :: (f.payloadLen ++ f.control)

/-- The message as the firmware sends it. -/
def bytes (f : HtcFrame) : List UInt8 := f.header ++ (f.body ++ f.trailer)

/-- What the callback is to get, in memory that goes on with other bytes. -/
def skb (f : HtcFrame) (behind : Nat → UInt8) : SkBuff :=
  ⟨f.body, fun i => (f.trailer[i]?).getD (behind (i - f.trailer.length))⟩

theorem length_header (f : HtcFrame) : f.header.length = htcFrameHdrSize := by
  simp [header, f.payloadLen_length, f.control_length, htcFrameHdrSize]

theorem length_bytes (f : HtcFrame) : f.bytes.length = 8 + f.body.length + f.trailer.length := by
  rw [bytes, List.length_append, List.length_append, f.length_header, htcFrameHdrSize, Nat.add_assoc]

theorem control_eq (f : HtcFrame) (behind : Nat → UInt8) :
    SkBuff.byte ⟨f.bytes, behind⟩ 4 = (f.control[0]?).getD 0 := by
  obtain ⟨b₀, b₁, hlen⟩ := List.length_eq_two.mp f.payloadLen_length
  obtain ⟨c, cs, hcontrol⟩ : ∃ c cs, f.control = c :: cs :=
    List.exists_cons_of_length_pos (by rw [f.control_length]; decide)
  simp [SkBuff.byte, bytes, header, hlen, hcontrol]

/-- The memory of a message behind its header and its body. -/
theorem byte_behind (f : HtcFrame) (behind : Nat → UInt8) (i : Nat) :
    SkBuff.byte ⟨f.bytes, behind⟩ (8 + f.body.length + i) = (f.skb behind).behind i := by
  have hlength : (f.header ++ f.body).length = 8 + f.body.length := by
    rw [List.length_append, f.length_header, htcFrameHdrSize]
  have hbyte : f.bytes[8 + f.body.length + i]? = f.trailer[i]? := by
    rw [bytes, ← List.append_assoc, ← hlength, List.getElem?_append_right (Nat.le_add_right _ _),
      Nat.add_sub_cancel_left]
  have hover : 8 + f.body.length + i - f.bytes.length = i - f.trailer.length := by
    rw [f.length_bytes]
    omega
  rw [SkBuff.byte, hbyte, SkBuff.len, hover]
  rfl

/-- A message without a trailer. -/
theorem pull_bytes (f : HtcFrame) (behind : Nat → UInt8) (htrailer : f.trailer = []) :
    SkBuff.pullIfThere ⟨f.bytes, behind⟩ htcFrameHdrSize = f.skb behind := by
  have hbehind : (f.skb behind).behind = behind := by simp [skb, htrailer]
  have hdata : f.bytes.drop htcFrameHdrSize = f.body := by
    rw [bytes, htrailer, List.append_nil, List.drop_left' f.length_header]
  rw [SkBuff.pullIfThere, if_pos, SkBuff.pull, hdata]
  · exact congrArg (SkBuff.mk f.body) hbehind.symm
  · rw [SkBuff.len, f.length_bytes, htcFrameHdrSize]
    omega

/-- A message with one. -/
theorem trim_bytes (f : HtcFrame) (behind : Nat → UInt8) (htrailer : f.trailer ≠ []) :
    (SkBuff.trim ⟨f.bytes, behind⟩ (8 + f.body.length)).pullIfThere htcFrameHdrSize =
      f.skb behind := by
  have hpos : 0 < f.trailer.length := List.length_pos_iff.mpr htrailer
  have htake : f.bytes.take (8 + f.body.length) = f.header ++ f.body := by
    rw [bytes, ← List.append_assoc, List.take_left']
    rw [List.length_append, f.length_header, htcFrameHdrSize]
  rw [SkBuff.trim, if_pos, htake, SkBuff.pullIfThere, if_pos, SkBuff.pull,
    List.drop_left' f.length_header]
  · exact congrArg (SkBuff.mk f.body) (funext (f.byte_behind behind))
  · rw [SkBuff.len, List.length_append, f.length_header]
    exact Nat.le_add_right _ _
  · rw [SkBuff.len, f.length_bytes]
    omega

/-- **The callback gets the body of the message**, without its trailer. -/
theorem rxMsg_bytes (f : HtcFrame) (behind : Nat → UInt8) {hasRx : Nat → Bool}
    (hrx : hasRx f.epid.toNat = true) :
    SkBuff.rxMsg hasRx ⟨f.bytes, behind⟩ = .rx f.epid.toNat (f.skb behind) := by
  have hlen : SkBuff.len ⟨f.bytes, behind⟩ = 8 + f.body.length + f.trailer.length := f.length_bytes
  have hepid : SkBuff.byte ⟨f.bytes, behind⟩ 0 = f.epid := rfl
  have hflags : SkBuff.byte ⟨f.bytes, behind⟩ 1 = f.flags := rfl
  have hlt := f.epid_lt
  have hbody := f.body_length
  rw [endpointMax] at hlt
  unfold SkBuff.rxMsg
  simp only [hepid, hflags, hlen, hrx, if_true]
  rw [if_neg (by rw [htcFrameHdrSize]; omega), if_neg (by omega), if_neg (by rw [endpointMax]; omega),
    if_neg f.epid_pos]
  congr 1
  by_cases htrailer : f.trailer = []
  · by_cases hflag : f.flags &&& htcFlagsRecvTrailer = 0
    · rw [if_neg (not_not_intro hflag), f.pull_bytes behind htrailer]
    · obtain ⟨b, hb, hcount⟩ := f.trailer_length hflag
      rw [htrailer, List.length_nil] at hcount
      have hwhole : (8 + f.body.length + f.trailer.length + 2 ^ 32 - b.toNat) % 2 ^ 32 =
          8 + f.body.length + f.trailer.length := by
        rw [htrailer, List.length_nil]
        omega
      rw [if_pos hflag, f.control_eq, hb, Option.getD_some, hwhole, SkBuff.trim,
        if_neg (by rw [hlen]; omega), f.pull_bytes behind htrailer]
  · have hflag : f.flags &&& htcFlagsRecvTrailer ≠ 0 := fun h => htrailer (f.no_trailer h)
    obtain ⟨b, hb, hcount⟩ := f.trailer_length hflag
    have hbody' : (8 + f.body.length + f.trailer.length + 2 ^ 32 - b.toNat) % 2 ^ 32 =
        8 + f.body.length := by omega
    rw [if_pos hflag, f.control_eq, hb, Option.getD_some, hbody', f.trim_bytes behind htrailer]

end HtcFrame

/-- The callbacks get the bodies of the messages, in order. -/
theorem handed_bytes {hasRx : Nat → Bool} {fs : List HtcFrame} {skbs : List SkBuff}
    (hfs : ∀ f ∈ fs, hasRx f.epid.toNat = true)
    (hskbs : skbs.map SkBuff.data = fs.map HtcFrame.bytes) :
    (handed hasRx skbs).map SkBuff.data = fs.map HtcFrame.body := by
  induction fs generalizing skbs with
  | nil =>
    rw [List.map_nil, List.map_eq_nil_iff] at hskbs
    rw [hskbs]
    rfl
  | cons f fs ih =>
    rw [List.map_cons, List.map_eq_cons_iff] at hskbs
    obtain ⟨skb, rest, rfl, hdata, hrest⟩ := hskbs
    rw [List.forall_mem_cons] at hfs
    have hmessage : skb.rxMsg hasRx = .rx f.epid.toNat (f.skb skb.behind) := by
      rw [← f.rxMsg_bytes skb.behind hfs.1, ← hdata]
    have hcons : handed hasRx (skb :: rest) = f.skb skb.behind :: handed hasRx rest :=
      List.filterMap_cons_some (by rw [hmessage]; rfl)
    rw [hcons, List.map_cons, ih hfs.2 hrest, List.map_cons]
    rfl

/-! ### The whole way -/

/-- A body in a message for the first endpoint. -/
def rxMessage (body : List UInt8) (hbody : body.length < 2 ^ 16) : HtcFrame where
  epid := 1
  flags := 0
  payloadLen := [0, 0]
  control := [0, 0, 0, 0]
  body := body
  trailer := []
  epid_pos := by decide
  epid_lt := by decide
  payloadLen_length := rfl
  control_length := rfl
  no_trailer := fun _ => rfl
  trailer_length := fun h => absurd rfl h
  body_length := hbody

/-- A beacon in such a message. -/
def beaconMessage : HtcFrame := rxMessage (receivedBeacon 0).data (by decide)

/-- The message as a packet of the stream. -/
def beaconPacket : Packet where
  payload := beaconMessage.bytes
  padding := []
  padding_length := by decide
  length_le := by decide

/-- Its transfer. -/
def beaconTransfer : Transfer where
  memory := beaconPacket.wire ++ List.replicate 16296 0
  len := 88
  memory_length := by rw [List.length_append, List.length_replicate]; rfl
  len_le := by decide

theorem sent_beacon : Sent none [beaconTransfer] [beaconPacket] none := by
  have hreceived : beaconTransfer.received = restOf none ++ [beaconPacket].flatMap Packet.wire := by
    rw [List.flatMap_cons, List.flatMap_nil, List.append_nil]
    exact List.take_left' rfl
  exact .whole hreceived (by decide) (.nil none)

/-- The packet in the memory of a buffer. -/
def beaconSkb : SkBuff := ⟨beaconMessage.bytes, fun _ => 0⟩

theorem rxStreams_beacon : ∃ hif, HifDevice.fresh.rxStreams [beaconTransfer] =
    .ok (hif, [beaconSkb].map SkBuff.data) := by
  obtain ⟨hif, h, -⟩ : ∃ hif, HifDevice.fresh.rxStreams [beaconTransfer] =
      .ok (hif, [beaconPacket].map Packet.payload) ∧ hif.Keeps none :=
    HifDevice.Keeps.rxStreams sent_beacon ⟨rfl, rfl⟩
  exact ⟨hif, h⟩

/-- The body of such a message, with nothing behind it. -/
theorem handed_rxMessage (body : List UInt8) (hbody : body.length < 2 ^ 16) :
    handed (fun _ => true) [⟨(rxMessage body hbody).bytes, fun _ => 0⟩] =
      [⟨body, fun _ => 0⟩] := by
  have hmessage : (SkBuff.mk (rxMessage body hbody).bytes fun _ => 0).rxMsg (fun _ => true) =
      .rx 1 ((rxMessage body hbody).skb fun _ => 0) := (rxMessage body hbody).rxMsg_bytes _ rfl
  have hskb : (rxMessage body hbody).skb (fun _ => 0) = ⟨body, fun _ => 0⟩ :=
    congrArg (SkBuff.mk _) (funext fun _ => rfl)
  rw [handed, List.filterMap_cons, hmessage, hskb]
  rfl

theorem handed_beacon : handed (fun _ => true) [beaconSkb] = [receivedBeacon 0] :=
  handed_rxMessage (receivedBeacon 0).data (by decide)

section
variable (k : Ieee80211) (priv : RxPriv) (process : Acceptance → Bool) (hasRx : Nat → Bool)

/-- A packet that is prepared is the body of a message that the firmware sent. -/
theorem sent_of_prepared {transfers : List Transfer} {packets : List Packet}
    {last : Option Pending} (hsent : Sent none transfers packets last) {hif : HifDevice}
    {skbs : List SkBuff}
    (hskbs : HifDevice.fresh.rxStreams transfers = .ok (hif, skbs.map SkBuff.data))
    {s t : RxQueue} {events : List RxEvent} (hs : s.Initial)
    (hrun : Run (RxQueue.SerialStep k priv process) s events t)
    (hoffered : RxEvent.offered events ⊆ handed hasRx skbs) {body : SkBuff}
    (hbody : body ∈ RxEvent.prepared events) :
    ∃ p ∈ packets, ∃ (skb : SkBuff) (epid : Nat), skb.data = p.payload ∧
      skb.rxMsg hasRx = .rx epid body := by
  have haccepted : body ∈ RxEvent.accepted events := by
    rw [RxQueue.accepted_of_run hs hrun, List.append_assoc]
    exact List.mem_append_left _ hbody
  obtain ⟨skb, hskb, hmessage⟩ :=
    List.mem_filterMap.mp (hoffered (RxEvent.accepted_subset events haccepted))
  obtain ⟨hif', hstream, -⟩ : ∃ hif', HifDevice.fresh.rxStreams transfers =
      .ok (hif', packets.map Packet.payload) ∧ hif'.Keeps last :=
    HifDevice.Keeps.rxStreams hsent ⟨rfl, rfl⟩
  rw [hstream] at hskbs
  injection hskbs with hskbs
  have hpayload : skb.data ∈ packets.map Packet.payload := by
    rw [(Prod.mk.inj hskbs).2]
    exact List.mem_map_of_mem hskb
  obtain ⟨p, hp, hpayload⟩ := List.mem_map.mp hpayload
  cases hmsg : skb.rxMsg hasRx with
  | rx epid body' =>
    rw [hmsg] at hmessage
    cases hmessage
    exact ⟨p, hp, skb, epid, hpayload.symm, hmsg⟩
  | _ =>
    rw [hmsg] at hmessage
    cases hmessage

/-- What is published is the frame of a message that the firmware sent. -/
theorem sent_of_published {transfers : List Transfer} {packets : List Packet}
    {last : Option Pending} (hsent : Sent none transfers packets last) {hif : HifDevice}
    {skbs : List SkBuff}
    (hskbs : HifDevice.fresh.rxStreams transfers = .ok (hif, skbs.map SkBuff.data))
    {s t : RxQueue} {events : List RxEvent} (hs : s.Initial)
    (hrun : Run (RxQueue.SerialStep k priv process) s events t)
    (hoffered : RxEvent.offered events ⊆ handed hasRx skbs) {b : List UInt8}
    (hb : b ∈ DeviceCall.published (events.flatMap (RxEvent.calls k priv process))) :
    b = [] ∨ ∃ p ∈ packets, ∃ (skb body : SkBuff) (epid : Nat), skb.data = p.payload ∧
      skb.rxMsg hasRx = .rx epid body ∧ ReachesHook k body ∧
      (body.pull htcRxFrameHeaderSize).data = b := by
  rw [RxQueue.published_of_run hrun] at hb
  refine (List.mem_cons.mp hb).imp_right fun hb => ?_
  obtain ⟨body, hbody, hpublished⟩ := List.mem_filterMap.mp hb
  obtain ⟨hreaches, hdata⟩ := (published_iff process b).mp hpublished
  obtain ⟨p, hp, skb, epid, hpayload, hmessage⟩ :=
    sent_of_prepared k priv process hasRx hsent hskbs hs hrun hoffered hbody
  exact ⟨p, hp, skb, body, epid, hpayload, hmessage, hreaches, hdata⟩

/-- **A process reads nothing but what the firmware sent**: from the transfers over the
stream, the messages, the buffers and the device, while all of them go on.  For as long as
it has the device open, all its reads copy beginnings of the frame of one message. -/
theorem reads_sent {transfers : List Transfer} {packets : List Packet} {last : Option Pending}
    (hsent : Sent none transfers packets last) {hif : HifDevice} {skbs : List SkBuff}
    (hskbs : HifDevice.fresh.rxStreams transfers = .ok (hif, skbs.map SkBuff.data))
    {s t : RxQueue} {before during : List RxEvent} {h : Handle} (hs : s.Initial)
    (hdevice : s.device.Initial)
    (hrun : Run (RxQueue.SerialStep k priv process) s
      (before ++ .called (.myOpen h) :: during) t)
    (hoffered : RxEvent.offered before ⊆ handed hasRx skbs)
    (hduring : .called (.myRelease h) ∉ during) :
    ∃ b, (b = [] ∨ ∃ p ∈ packets, ∃ (skb body : SkBuff) (epid : Nat), skb.data = p.payload ∧
        skb.rxMsg hasRx = .rx epid body ∧ ReachesHook k body ∧
        (body.pull htcRxFrameHeaderSize).data = b) ∧
      DeviceCall.copiedTo h (during.flatMap (RxEvent.calls k priv process)) =
        Module.beginnings b 0
          (DeviceCall.askedOn h (during.flatMap (RxEvent.calls k priv process))) := by
  obtain ⟨b, hb, hcopied⟩ := RxQueue.reads_prepared hdevice hrun hduring
  refine ⟨b, hb.imp_right ?_, hcopied⟩
  rintro ⟨body, hbody, hreaches, hdata⟩
  obtain ⟨u, hbefore, -⟩ := Run.split hrun
  -- from the device back to the stream
  obtain ⟨p, hp, skb, epid, hpayload, hmessage⟩ := sent_of_prepared k priv process hasRx hsent
    hskbs hs hbefore hoffered hbody
  exact ⟨p, hp, skb, body, epid, hpayload, hmessage, hreaches, hdata⟩

/-- Ten bytes of that beacon are read, and then as much as there is. -/
theorem reads_sent_beacon : ∃ before during t,
    Run (RxQueue.SerialStep linuxIeee80211 plainStation fun _ => true) RxQueue.rxBoot
      (before ++ .called (.myOpen 0) :: during) t ∧
    DeviceCall.askedOn 0 (during.flatMap
      (RxEvent.calls linuxIeee80211 plainStation fun _ => true)) = [10, 8191] ∧
    ∃ b, (b = [] ∨ ∃ p ∈ [beaconPacket], ∃ (skb body : SkBuff) (epid : Nat),
        skb.data = p.payload ∧ skb.rxMsg (fun _ => true) = .rx epid body ∧
        ReachesHook linuxIeee80211 body ∧ (body.pull htcRxFrameHeaderSize).data = b) ∧
      DeviceCall.copiedTo 0 (during.flatMap
        (RxEvent.calls linuxIeee80211 plainStation fun _ => true)) =
      Module.beginnings b 0 (DeviceCall.askedOn 0 (during.flatMap
        (RxEvent.calls linuxIeee80211 plainStation fun _ => true))) := by
  obtain ⟨hif, hstream⟩ := rxStreams_beacon
  obtain ⟨d, d', d'', reads, hpublish, hopen, hreads, hasked, hall⟩ := RxQueue.boot_reads
    (show (0x80 :: List.replicate 35 0).length ≤ beaconMaxSize by decide) [10, 8191]
  obtain ⟨t, hrun, -, -, rfl⟩ := RxQueue.rxBoot_passed (by decide)
    RxQueue.receivedBeacon_published hpublish
  have hopened := hrun.snoc ⟨.called (fun _ => DeviceCall.noConfusion) hopen,
    fun ⟨_, he⟩ => by cases he⟩
  have hne : ∀ c ∈ reads, ∀ b, c ≠ .updateBeacon b := by
    rintro c hc b rfl
    obtain ⟨_, _, he⟩ := hall _ hc
    cases he
  have hduring : .called (.myRelease 0) ∉ reads.map RxEvent.called := by
    intro hmem
    obtain ⟨c, hc, he⟩ := List.mem_map.mp hmem
    obtain ⟨_, _, rfl⟩ := hall c hc
    cases he
  have hrun := hopened.append (RxQueue.called_run linuxIeee80211 plainStation (fun _ => true) _
    hreads hne)
  rw [List.append_assoc _ [_] (reads.map _), List.singleton_append] at hrun
  have hoffered : RxEvent.offered (RxQueue.arrivals (receivedBeacon 0) 1 ++
      [.passed (receivedBeacon 0)]) ⊆ handed (fun _ => true) [beaconSkb] := by
    rw [handed_beacon]
    exact List.Subset.refl _
  refine ⟨_, _, _, hrun, ?_, reads_sent linuxIeee80211 plainStation (fun _ => true)
    (fun _ => true) sent_beacon hstream RxQueue.rxBoot_initial DeviceState.boot_initial hrun
    hoffered hduring⟩
  rw [flatMap_map_of_singleton fun _ => rfl]
  exact hasked

/-- **Every message that the firmware sends for a data endpoint is prepared**, once and in
order, if none is refused and the queue has been emptied. -/
theorem published_sent {transfers : List Transfer} {packets : List Packet} {last : Option Pending}
    (hsent : Sent none transfers packets last) {fs : List HtcFrame}
    (hfs : packets.map Packet.payload = fs.map HtcFrame.bytes)
    (hrx : ∀ f ∈ fs, hasRx f.epid.toNat = true) {hif : HifDevice} {skbs : List SkBuff}
    (hskbs : HifDevice.fresh.rxStreams transfers = .ok (hif, skbs.map SkBuff.data))
    {s t : RxQueue} {events : List RxEvent} (hs : s.Initial)
    (hrun : Run (RxQueue.SerialStep k priv process) s events t)
    (hoffered : RxEvent.offered events = handed hasRx skbs)
    (hrefused : ∀ skb, .refused skb ∉ events) (hwaiting : t.waiting = []) (hfound : t.found = []) :
    (handed hasRx skbs).map SkBuff.data = fs.map HtcFrame.body ∧
    DeviceCall.published (events.flatMap (RxEvent.calls k priv process)) =
      [] :: (handed hasRx skbs).filterMap fun skb => (rxPrepare k priv process skb).published := by
  obtain ⟨hif', hstream, -⟩ : ∃ hif', HifDevice.fresh.rxStreams transfers =
      .ok (hif', packets.map Packet.payload) ∧ hif'.Keeps last :=
    HifDevice.Keeps.rxStreams hsent ⟨rfl, rfl⟩
  rw [hstream, hfs] at hskbs
  injection hskbs with hskbs
  have haccepted := RxQueue.accepted_of_run hs hrun
  rw [hwaiting, hfound, RxEvent.accepted_eq hrefused, hoffered, List.map_nil, List.append_nil,
    List.append_nil] at haccepted
  refine ⟨handed_bytes hrx (Prod.mk.inj hskbs).2.symm, ?_⟩
  rw [RxQueue.published_of_run hrun, haccepted]

end

/-- That beacon is published. -/
theorem published_sent_beacon : ∃ events t,
    Run (RxQueue.SerialStep linuxIeee80211 plainStation fun _ => true) RxQueue.rxBoot events t ∧
    RxEvent.offered events = [receivedBeacon 0] ∧
    DeviceCall.published (events.flatMap
      (RxEvent.calls linuxIeee80211 plainStation fun _ => true)) =
        [[], 0x80 :: List.replicate 35 0] := by
  obtain ⟨hif, hstream⟩ := rxStreams_beacon
  obtain ⟨d, hpublish⟩ := DeviceState.boot_initial.invariant.enabled.1
    (0x80 :: List.replicate 35 0) (by decide)
  obtain ⟨t, hrun, hwaiting, hfound, -⟩ := RxQueue.rxBoot_passed (by decide)
    RxQueue.receivedBeacon_published hpublish
  have hbytes : [beaconPacket].map Packet.payload = [beaconMessage].map HtcFrame.bytes := rfl
  have hpublished := (published_sent linuxIeee80211 plainStation (fun _ => true) (fun _ => true)
    sent_beacon hbytes (fun _ _ => rfl) hstream RxQueue.rxBoot_initial hrun handed_beacon.symm
    (by simp [RxQueue.arrivals]) hwaiting hfound).2
  rw [handed_beacon, List.filterMap_cons, RxQueue.receivedBeacon_published] at hpublished
  exact ⟨_, t, hrun, rfl, hpublished⟩

end SnapDesk
