import SnapDesk.DeviceBounds
import SnapDesk.Transition

/-! # Reception of a packet

`ath9k_rx_prepare` (`htc_drv_txrx.c`) and `ath9k_cmn_rx_accept` (`common.c`), with the
hook that publishes beacons.  The hook stands behind the tests of the length and of the
key index, and in front of the test for PHY errors and of `ath9k_cmn_rx_accept`: what is
published has not been accepted yet (`onlyAccepted_iff`).

What the kernel's headers say of a frame is a parameter (`Ieee80211`), and so is what
`ath9k_rx_prepare` does with an accepted packet, behind the hook.  The predicates of these
headers are only ever asked, so nothing is assumed of them. -/
namespace SnapDesk
open Transition

/-! ### Status bits -/

/-- `ATH9K_RXERR_CRC`. -/
def rxerrCrc : UInt8 := 0x01

/-- `ATH9K_RXERR_PHY`. -/
def rxerrPhy : UInt8 := 0x02

/-- `ATH9K_RXERR_DECRYPT`. -/
def rxerrDecrypt : UInt8 := 0x08

/-- `ATH9K_RXERR_MIC`. -/
def rxerrMic : UInt8 := 0x10

/-- `ATH9K_RXERR_KEYMISS`. -/
def rxerrKeymiss : UInt8 := 0x20

/-- `ATH9K_RXKEYIX_INVALID`. -/
def rxkeyixInvalid : UInt8 := 255

/-- `ATH_KEYMAX`. -/
def keymax : Nat := 128

/-- `HTC_RX_FRAME_HEADER_SIZE`. -/
def htcRxFrameHeaderSize : Nat := 40

/-! ### Packets -/

/-- `struct sk_buff`: the `len` bytes from `data` on, and what stands behind them in the
same allocation. -/
structure SkBuff where
  data : List UInt8
  behind : Nat → UInt8

namespace SkBuff

def len (skb : SkBuff) : Nat := skb.data.length

/-- A byte of the buffer, counted from `data`. -/
def byte (skb : SkBuff) (i : Nat) : UInt8 := (skb.data[i]?).getD (skb.behind (i - skb.len))

/-- `skb_pull`. -/
def pull (skb : SkBuff) (count : Nat) : SkBuff := ⟨skb.data.drop count, skb.behind⟩

/-- `hdr->frame_control`. -/
def frameControl (skb : SkBuff) : UInt16 :=
  UInt16.ofNat ((skb.byte 0).toNat + 256 * (skb.byte 1).toNat)

/-- `hdr->addr1`. -/
def addr1 (skb : SkBuff) : List UInt8 := (List.range 6).map fun i => skb.byte (4 + i)

/-- `hdr->seq_ctrl`. -/
def seqCtrl (skb : SkBuff) : UInt16 :=
  UInt16.ofNat ((skb.byte 22).toNat + 256 * (skb.byte 23).toNat)

end SkBuff

/-- What the kernel's headers say of a frame control word, of an address and of the flags
of a driver. -/
structure Ieee80211 where
  isBeacon : UInt16 → Bool
  isData : UInt16 → Bool
  isCtl : UInt16 → Bool
  hasProtected : UInt16 → Bool
  hasMorefrags : UInt16 → Bool
  isMulticastEtherAddr : List UInt8 → Bool
  sctlFrag : UInt16
  fifFcsfail : UInt32

/-- `ath_rx_status`, as far as it is read. -/
structure RxStatus where
  rsDatalen : UInt16
  rsStatus : UInt8
  rsKeyix : UInt8

/-- The status that the device puts in front of a packet, as `rx_status_htc_to_ath` reads
it. -/
def SkBuff.rxStatus (skb : SkBuff) : RxStatus :=
  ⟨UInt16.ofNat ((skb.byte 8).toNat * 256 + (skb.byte 9).toNat), skb.byte 10, skb.byte 19⟩

/-- The state of the driver that decides about a packet. -/
structure RxPriv where
  isMonitoring : Bool
  rxfilter : UInt32
  tkipKeymap : Nat → Bool
  ccmpKeymap : Nat → Bool

/-- The flags of `ieee80211_rx_status` that `ath9k_cmn_rx_accept` sets. -/
structure RxFlags where
  failedFcsCrc : Bool
  mmicStripped : Bool
  mmicError : Bool
  deriving DecidableEq, Repr

/-- What `ath9k_cmn_rx_accept` returns and leaves behind. -/
structure Acceptance where
  ret : Bool
  rsStatus : UInt8
  flags : RxFlags
  decryptError : Bool
  deriving DecidableEq, Repr

section
variable (k : Ieee80211) (priv : RxPriv)

/-- Monitor mode with bad checksums let through. -/
def RxPriv.acceptsBadFcs : Bool := priv.isMonitoring && priv.rxfilter &&& k.fifFcsfail ≠ 0

/-- `ath9k_cmn_rx_accept`. -/
def cmnRxAccept (skb : SkBuff) (rxs : RxFlags) (rxStats : RxStatus) (decryptError : Bool) :
    Acceptance :=
  let fc := skb.frameControl
  let isMc := k.isMulticastEtherAddr skb.addr1
  let isValidTkip := rxStats.rsKeyix ≠ rxkeyixInvalid && priv.tkipKeymap rxStats.rsKeyix.toNat
  let stripMic := isValidTkip && k.isData fc && k.hasProtected fc &&
    rxStats.rsStatus &&& (rxerrDecrypt ||| rxerrCrc ||| rxerrMic ||| rxerrKeymiss) = 0
  -- A key that is missing means something for a pairwise key only
  let rsStatus :=
    if rxStats.rsKeyix = rxkeyixInvalid || !priv.ccmpKeymap rxStats.rsKeyix.toNat then
      rxStats.rsStatus &&& ~~~rxerrKeymiss
    else rxStats.rsStatus
  let micError := isValidTkip && !k.isCtl fc && !k.hasMorefrags fc &&
    skb.seqCtrl &&& k.sctlFrag = 0 && rsStatus &&& rxerrMic ≠ 0
  let crc := rsStatus &&& rxerrCrc ≠ 0
  let undecrypted :=
    rsStatus &&& rxerrDecrypt ≠ 0 || (!isMc && rsStatus &&& rxerrKeymiss ≠ 0)
  let rxs := { rxs with failedFcsCrc := rxs.failedFcsCrc || crc }
  let decryptError := decryptError || undecrypted
  let micError := micError && !crc && !undecrypted
  let statusMask := rxerrDecrypt ||| rxerrMic ||| rxerrKeymiss
  let statusMask := if priv.acceptsBadFcs k then statusMask ||| rxerrCrc else statusMask
  if rsStatus &&& ~~~statusMask ≠ 0 then ⟨false, rsStatus, rxs, decryptError⟩
  else if stripMic then ⟨true, rsStatus, { rxs with mmicStripped := true }, decryptError⟩
  else ⟨true, rsStatus, { rxs with mmicError := rxs.mmicError || (isMc && micError) },
    decryptError⟩

/-- The call of `ath9k_cmn_rx_accept` for a received buffer. -/
def SkBuff.accept (skb : SkBuff) : Acceptance :=
  cmnRxAccept k priv (skb.pull htcRxFrameHeaderSize) ⟨false, false, false⟩ skb.rxStatus false

/-- `is_phyerr`. -/
def SkBuff.isPhyerr (skb : SkBuff) : Bool := skb.rxStatus.rsStatus &&& rxerrPhy ≠ 0

/-- What `ath9k_rx_prepare` has handed to `update_beacon`, if anything, and what it
returns. -/
structure Prepared where
  published : Option (List UInt8)
  ret : Bool

/-- `ath9k_rx_prepare`.  With an accepted packet it goes on to `process`. -/
def rxPrepare (process : Acceptance → Bool) (skb : SkBuff) : Prepared :=
  if skb.len < htcRxFrameHeaderSize then ⟨none, false⟩
  else
    let rsDatalen := skb.rxStatus.rsDatalen.toNat
    let rsKeyix := skb.rxStatus.rsKeyix
    if rsDatalen ≠ skb.len - htcRxFrameHeaderSize then ⟨none, false⟩
    else if rsDatalen = 0 ∨ (rsDatalen < 10 ∧ skb.isPhyerr = false) then ⟨none, false⟩
    else if keymax ≤ rsKeyix.toNat ∧ rsKeyix ≠ rxkeyixInvalid then ⟨none, false⟩
    else
      let packet := skb.pull htcRxFrameHeaderSize
      -- The hook
      let published := if k.isBeacon packet.frameControl then some packet.data else none
      if skb.isPhyerr then ⟨published, false⟩
      else
        let accepted := skb.accept k priv
        if accepted.ret = false then ⟨published, false⟩ else ⟨published, process accepted⟩

/-- What a received buffer does to the module. -/
def receive (process : Acceptance → Bool) (m : Module) (skb : SkBuff) : Except Failure Module :=
  match (rxPrepare k priv process skb).published with
  | none => .ok m
  | some packet => m.updateBeacon packet packet.length

/-- What is published has no PHY error and is accepted by the driver. -/
def OnlyAccepted (process : Acceptance → Bool) (skb : SkBuff) : Prop :=
  ∀ packet, (rxPrepare k priv process skb).published = some packet →
    skb.isPhyerr = false ∧ (skb.accept k priv).ret = true

/-- The received buffer passes the tests in front of the hook, and is a beacon. -/
structure ReachesHook (skb : SkBuff) : Prop where
  header : htcRxFrameHeaderSize ≤ skb.len
  datalen : skb.rxStatus.rsDatalen.toNat = skb.len - htcRxFrameHeaderSize
  length : 10 ≤ skb.len - htcRxFrameHeaderSize ∨
    (0 < skb.len - htcRxFrameHeaderSize ∧ skb.isPhyerr = true)
  keyix : skb.rxStatus.rsKeyix.toNat < keymax ∨ skb.rxStatus.rsKeyix = rxkeyixInvalid
  beacon : k.isBeacon (skb.pull htcRxFrameHeaderSize).frameControl = true

end

/-- No bit of the status is set but those about the key: the others say that the packet was
not received as it was sent. -/
def CleanStatus (rsStatus : UInt8) : Prop :=
  rsStatus &&& ~~~(rxerrDecrypt ||| rxerrMic ||| rxerrKeymiss) = 0

section
variable {k : Ieee80211} {priv : RxPriv} {skb : SkBuff}

/-! ### What is accepted -/

set_option maxRecDepth 4000 in
/-- The bit that says a key is missing is not among those that matter. -/
theorem clear_keymiss (b : UInt8) : (b &&& ~~~rxerrKeymiss) &&&
    ~~~(rxerrDecrypt ||| rxerrMic ||| rxerrKeymiss) =
      b &&& ~~~(rxerrDecrypt ||| rxerrMic ||| rxerrKeymiss) := by
  have hall : ∀ b : UInt8, (b &&& ~~~rxerrKeymiss) &&&
      ~~~(rxerrDecrypt ||| rxerrMic ||| rxerrKeymiss) =
        b &&& ~~~(rxerrDecrypt ||| rxerrMic ||| rxerrKeymiss) := byte_forall (by decide)
  exact hall b

/-- With bad checksums kept out, a packet is accepted exactly if its status is clean. -/
theorem cmnRxAccept_ret_iff (hfcs : priv.acceptsBadFcs k = false) (rxs : RxFlags)
    (rxStats : RxStatus) (decryptError : Bool) :
    (cmnRxAccept k priv skb rxs rxStats decryptError).ret = true ↔
      CleanStatus rxStats.rsStatus := by
  have hstatus : (if rxStats.rsKeyix = rxkeyixInvalid || !priv.ccmpKeymap rxStats.rsKeyix.toNat then
      rxStats.rsStatus &&& ~~~rxerrKeymiss else rxStats.rsStatus) &&&
        ~~~(rxerrDecrypt ||| rxerrMic ||| rxerrKeymiss) =
      rxStats.rsStatus &&& ~~~(rxerrDecrypt ||| rxerrMic ||| rxerrKeymiss) := by
    split
    · exact clear_keymiss _
    · rfl
  simp only [cmnRxAccept, hfcs, Bool.false_eq_true, if_false]
  generalize (if rxStats.rsKeyix = rxkeyixInvalid || !priv.ccmpKeymap rxStats.rsKeyix.toNat then
    rxStats.rsStatus &&& ~~~rxerrKeymiss else rxStats.rsStatus) = rsStatus at hstatus ⊢
  rw [CleanStatus, ← hstatus]
  split_ifs with hbad hstrip
  · exact iff_of_false (fun h => by cases h) hbad
  · exact iff_of_true rfl (not_not.mp hbad)
  · exact iff_of_true rfl (not_not.mp hbad)

set_option maxRecDepth 4000 in
/-- A clean status has no PHY error. -/
theorem CleanStatus.phy {rsStatus : UInt8} (h : CleanStatus rsStatus) :
    rsStatus &&& rxerrPhy = 0 := by
  have hall : ∀ b : UInt8, b &&& ~~~(rxerrDecrypt ||| rxerrMic ||| rxerrKeymiss) = 0 →
      b &&& rxerrPhy = 0 := byte_forall (by decide)
  exact hall rsStatus h

/-! ### What is published -/

/-- Exactly the beacons that pass the tests in front of the hook are published, whatever
comes behind it. -/
theorem published_iff (process : Acceptance → Bool) (packet : List UInt8) :
    (rxPrepare k priv process skb).published = some packet ↔
      ReachesHook k skb ∧ (skb.pull htcRxFrameHeaderSize).data = packet := by
  have hpublished : (rxPrepare k priv process skb).published =
      if skb.len < htcRxFrameHeaderSize then none
      else if skb.rxStatus.rsDatalen.toNat ≠ skb.len - htcRxFrameHeaderSize then none
      else if skb.rxStatus.rsDatalen.toNat = 0 ∨
        (skb.rxStatus.rsDatalen.toNat < 10 ∧ skb.isPhyerr = false) then none
      else if keymax ≤ skb.rxStatus.rsKeyix.toNat ∧ skb.rxStatus.rsKeyix ≠ rxkeyixInvalid then none
      else if k.isBeacon (skb.pull htcRxFrameHeaderSize).frameControl then
        some (skb.pull htcRxFrameHeaderSize).data
      else none := by
    simp only [rxPrepare]
    split_ifs <;> rfl
  rw [hpublished]
  split_ifs with hheader hdatalen hshort hkeyix hbeacon
  · exact iff_of_false (fun h => by cases h) fun h => absurd h.1.header (by omega)
  · exact iff_of_false (fun h => by cases h) fun h => hdatalen h.1.datalen
  · refine iff_of_false (fun h => by cases h) fun ⟨h, _⟩ => ?_
    have hdatalen := h.datalen
    rcases h.length with hlong | ⟨hpos, hphyerr⟩
    · omega
    · rw [hphyerr] at hshort
      simp only [Bool.true_eq_false, and_false, or_false] at hshort
      omega
  · refine iff_of_false (fun h => by cases h) fun ⟨h, _⟩ => ?_
    rcases h.keyix with hlt | hinvalid
    · omega
    · exact hkeyix.2 hinvalid
  · rw [Option.some.injEq]
    refine (and_iff_right ⟨by omega, by omega, ?_, ?_, hbeacon⟩).symm
    · by_cases hphyerr : skb.isPhyerr = true
      · exact Or.imp_right (fun h => ⟨h, hphyerr⟩) (by omega)
      · rw [Bool.not_eq_true] at hphyerr
        left
        by_contra hlt
        exact hshort (.inr ⟨by omega, hphyerr⟩)
    · by_contra hnot
      obtain ⟨hmax, hvalid⟩ := not_or.mp hnot
      exact hkeyix ⟨by omega, hvalid⟩
  · exact iff_of_false (fun h => by cases h) fun h => hbeacon h.1.beacon

/-- **What is published is accepted** exactly if the buffer does not reach the hook, or has a
clean status. -/
theorem onlyAccepted_iff (hfcs : priv.acceptsBadFcs k = false) (process : Acceptance → Bool)
    (skb : SkBuff) :
    OnlyAccepted k priv process skb ↔
      (ReachesHook k skb → CleanStatus skb.rxStatus.rsStatus) := by
  have haccept : (skb.accept k priv).ret = true ↔ CleanStatus skb.rxStatus.rsStatus :=
    cmnRxAccept_ret_iff hfcs _ _ _
  constructor
  · intro h hreach
    exact haccept.mp (h _ ((published_iff process _).mpr ⟨hreach, rfl⟩)).2
  · intro h packet hpublished
    have hclean := h ((published_iff process packet).mp hpublished).1
    exact ⟨decide_eq_false (not_not_intro hclean.phy), haccept.mpr hclean⟩

/-! ### Runs of receptions -/

/-- A reception that does something publishes its packet, inside the buffer. -/
theorem receive_cases {process : Acceptance → Bool} {m m' : Module}
    (hbuffer : m.buffer.length = beaconMaxSize) (h : receive k priv process m skb = .ok m') :
    m'.buffer.length = beaconMaxSize ∧ (m' = m ∨ ∃ packet,
      (rxPrepare k priv process skb).published = some packet ∧ m'.Published packet) := by
  unfold receive at h
  split at h
  · cases h
    exact ⟨hbuffer, .inl rfl⟩
  · rename_i packet hpublished
    by_cases hlength : packet.length ≤ beaconMaxSize
    · rw [Module.updateBeacon_ok hbuffer hlength] at h
      cases h
      refine ⟨?_, .inr ⟨packet, hpublished, rfl, List.prefix_append _ _⟩⟩
      rw [List.length_append, List.length_drop]
      omega
    · rw [Module.updateBeacon_outside hbuffer (by omega)] at h
      cases h

/-- **No packet that was not accepted replaces the published frame**, in any run of
receptions of which each publishes accepted packets only. -/
theorem published_of_run {process : Acceptance → Bool} {m m' : Module} {b : List UInt8}
    (hbuffer : m.buffer.length = beaconMaxSize) (hb : m.Published b) {skbs : List SkBuff}
    (hrun : Run (fun m skb m' => receive k priv process m skb = .ok m') m skbs m')
    (hskbs : ∀ skb ∈ skbs, OnlyAccepted k priv process skb) :
    m'.Published b ∨ ∃ skb ∈ skbs, (skb.accept k priv).ret = true ∧
      m'.Published (skb.pull htcRxFrameHeaderSize).data := by
  have hinvariant : m'.buffer.length = beaconMaxSize ∧ (m'.Published b ∨ ∃ skb ∈ skbs,
      ∃ packet, (rxPrepare k priv process skb).published = some packet ∧ m'.Published packet) := by
    refine Run.history (I := fun skbs m => m.buffer.length = beaconMaxSize ∧ (m.Published b ∨
      ∃ skb ∈ skbs, ∃ packet, (rxPrepare k priv process skb).published = some packet ∧
        m.Published packet)) ⟨hbuffer, .inl hb⟩ (fun skbs t skb u _ ih hstep => ?_) hrun
    obtain ⟨hlength, hbefore⟩ := ih
    obtain ⟨hlength', rfl | ⟨packet, hpublished, hpacket⟩⟩ := receive_cases hlength hstep
    · refine ⟨hlength', hbefore.imp_right ?_⟩
      rintro ⟨skb', hmem, h⟩
      exact ⟨skb', List.mem_append_left _ hmem, h⟩
    · exact ⟨hlength', .inr ⟨skb, by simp, packet, hpublished, hpacket⟩⟩
  refine hinvariant.2.imp_right ?_
  rintro ⟨skb, hmem, packet, hpublished, hpacket⟩
  obtain ⟨-, rfl⟩ := (published_iff process packet).mp hpublished
  exact ⟨skb, hmem, (hskbs skb hmem _ hpublished).2, hpacket⟩

end

/-- The headers of the kernel. -/
def linuxIeee80211 : Ieee80211 where
  isBeacon fc := fc &&& 0xfc = 0x80
  isData fc := fc &&& 0xc = 0x8
  isCtl fc := fc &&& 0xc = 0x4
  hasProtected fc := fc &&& 0x4000 ≠ 0
  hasMorefrags fc := fc &&& 0x400 ≠ 0
  isMulticastEtherAddr addr := addr.headD 0 &&& 1 = 1
  sctlFrag := 0xf
  fifFcsfail := 4

/-- A station without keys. -/
def plainStation : RxPriv := ⟨false, 0, fun _ => false, fun _ => false⟩

/-- A beacon of the least length, with its status in front. -/
def receivedBeacon (rsStatus : UInt8) : SkBuff where
  data := List.replicate 8 0 ++ [0, 36, rsStatus] ++ List.replicate 8 0 ++ [rxkeyixInvalid] ++
    List.replicate 20 0 ++ 0x80 :: List.replicate 35 0
  behind := fun _ => 0

/-- A beacon that was received as it was sent. -/
theorem onlyAccepted_iff_clean :
    OnlyAccepted linuxIeee80211 plainStation (fun _ => true) (receivedBeacon 0) ↔
      (ReachesHook linuxIeee80211 (receivedBeacon 0) →
        CleanStatus (receivedBeacon 0).rxStatus.rsStatus) :=
  onlyAccepted_iff (by decide) (fun _ => true) (receivedBeacon 0)

/-- **A corrupted beacon is published**: its checksum is wrong, and the driver rejects it. -/
theorem not_onlyAccepted :
    ¬ ∀ (k : Ieee80211) (priv : RxPriv) (process : Acceptance → Bool) (skb : SkBuff),
      priv.acceptsBadFcs k = false → OnlyAccepted k priv process skb := by
  intro hall
  have hpublished : (rxPrepare linuxIeee80211 plainStation (fun _ => true)
      (receivedBeacon rxerrCrc)).published = some (0x80 :: List.replicate 35 0) := by decide
  obtain ⟨-, haccept⟩ := hall linuxIeee80211 plainStation (fun _ => true)
    (receivedBeacon rxerrCrc) (by decide) _ hpublished
  exact absurd haccept (by decide)

end SnapDesk
