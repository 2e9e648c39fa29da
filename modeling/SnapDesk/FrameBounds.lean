import SnapDesk.Frame

/-! # What `decode` reads of its buffer

The buffer of a frame is longer than the frame, and what follows the frame in it
is left over from before.  This module asks whether `decode` looks at it.

The buffer is cut off behind the frame to see that: where reading on has no
meaning, a `decode` that has one has not read on.  It has not, except on a frame
of 24 to 27 bytes whose first byte announces a beacon.  There the four bytes of
the checksum are taken off a remainder of fewer than four, the size of the body
wraps around, and the timestamp is read from behind the frame. -/
namespace SnapDesk
open BigNumber

/-! ### Reading inside the buffer -/

namespace BigNumber

theorem readByte_defined {buffer : List UInt8} {i : Nat} (h : i < buffer.length) :
    readByte buffer i ≠ .error .undefinedBehaviour := by
  rw [readByte, List.getElem?_eq_getElem h]
  exact fun h => by cases h

theorem fromBuffer_defined {buffer : List UInt8} {bufferSize numberSize : Nat}
    (h0 : 0 < numberSize) (hi : numberSize ≤ 2 ^ 31) (hb : bufferSize ≤ buffer.length) :
    fromBuffer buffer bufferSize numberSize ≠ .error .undefinedBehaviour := by
  by_cases h : bufferSize < numberSize
  · rw [fromBuffer_short h]
    exact fun h => by cases h
  · rw [fromBuffer_ok (by omega) h0 hi (by omega)]
    exact fun h => by cases h

theorem fromBufferInv_defined {buffer : List UInt8} {bufferSize numberSize : Nat}
    (hb : bufferSize ≤ buffer.length) :
    fromBufferInv buffer bufferSize numberSize ≠ .error .undefinedBehaviour := by
  by_cases h : bufferSize < numberSize
  · rw [fromBufferInv, if_pos h]
    exact fun h => by cases h
  · rw [fromBufferInv_ok (by omega) (by omega)]
    exact fun h => by cases h

/-- A field that is read was there to be read. -/
theorem le_of_fromBuffer_ok {buffer : List UInt8} {bufferSize numberSize : Nat} {n : BigNumber}
    (h : fromBuffer buffer bufferSize numberSize = .ok n) : numberSize ≤ bufferSize := by
  by_contra hlt
  rw [fromBuffer_short (by omega)] at h
  cases h

end BigNumber

namespace BeaconBody
variable {buffer : List UInt8} {size : Nat}

theorem addIe_defined (h : size ≤ buffer.length) (elementId elementLength : UInt8)
    (startPosition : Nat) (firstIe : List Ie) :
    addIe buffer size elementId elementLength startPosition firstIe ≠
      .error .undefinedBehaviour := by
  unfold addIe
  split
  · exact fun h => by cases h
  · refine bind_ne_error (fromBufferInv_defined ?_) fun _ _ h => by cases h
    rw [List.length_drop]
    omega

/-- The length byte of the last element may stand behind the body, so one byte
more has to be there. -/
theorem decodeElements_defined (h : size < buffer.length) (rounds cursor : Nat)
    (firstIe : List Ie) :
    decodeElements buffer size rounds cursor firstIe ≠ .error .undefinedBehaviour := by
  induction rounds generalizing cursor firstIe with
  | zero => exact fun h => by cases h
  | succ rounds ih =>
    rw [decodeElements]
    split
    · refine bind_ne_error (readByte_defined (by omega)) fun elementId _ => ?_
      refine bind_ne_error (readByte_defined (by omega)) fun elementLength _ => ?_
      split
      · exact fun h => by cases h
      · split
        · exact fun h => by cases h
        · exact bind_ne_error (addIe_defined (by omega) _ _ _ _) fun _ _ => ih _ _
    · exact fun h => by cases h

/-- A single byte left in the body ends the loop, whatever stands behind it. -/
theorem decodeElements_last (h : size < buffer.length) {cursor : Nat} (hlast : cursor + 1 = size)
    (rounds : Nat) (firstIe : List Ie) :
    decodeElements buffer size (rounds + 1) cursor firstIe = .ok firstIe := by
  have hid : readByte buffer cursor = .ok (buffer.get ⟨cursor, by omega⟩) := by
    rw [readByte, List.getElem?_eq_getElem (by omega)]
    rfl
  have hlength : readByte buffer (cursor + 1) = .ok (buffer.get ⟨cursor + 1, by omega⟩) := by
    rw [readByte, List.getElem?_eq_getElem (by omega)]
    rfl
  rw [decodeElements, if_pos (by omega), hid, ok_bind, hlength, ok_bind]
  by_cases hzero : buffer.get ⟨cursor + 1, by omega⟩ = 0
  · rw [if_pos hzero]
    rfl
  · have hpos : (buffer.get ⟨cursor + 1, by omega⟩).toNat ≠ 0 := fun he =>
      hzero (UInt8.toNat_inj.mp he)
    rw [if_neg hzero, if_pos (by omega)]
    rfl

theorem decode_defined (h : size < buffer.length) :
    decode buffer size ≠ .error .undefinedBehaviour := by
  have hdrop : ∀ cursor, size - cursor ≤ (buffer.drop cursor).length := fun cursor => by
    rw [List.length_drop]
    omega
  refine bind_ne_error (fromBuffer_defined (by omega) (by omega) (by omega)) fun _ _ => ?_
  refine bind_ne_error (fromBuffer_defined (by omega) (by omega) (hdrop 8)) fun _ _ => ?_
  refine bind_ne_error (fromBuffer_defined (by omega) (by omega) (hdrop 10)) fun _ _ => ?_
  exact bind_ne_error (decodeElements_defined h _ _ _) fun _ _ h => by cases h

end BeaconBody

namespace Frame

theorem parseHeader_defined (raw : List UInt8) :
    parseHeader raw raw.length ≠ .error .undefinedBehaviour := by
  have hfield : ∀ cursor width, 0 < width → width ≤ 2 ^ 31 →
      fromBuffer (raw.drop cursor) (raw.length - cursor) width ≠ .error .undefinedBehaviour :=
    fun cursor width h0 hi => fromBuffer_defined h0 hi (by rw [List.length_drop])
  refine bind_ne_error (hfield 0 2 (by omega) (by omega)) fun _ _ => ?_
  refine bind_ne_error (hfield 2 2 (by omega) (by omega)) fun _ _ => ?_
  refine bind_ne_error (hfield 4 6 (by omega) (by omega)) fun _ _ => ?_
  refine bind_ne_error (hfield 10 6 (by omega) (by omega)) fun _ _ => ?_
  refine bind_ne_error (hfield 16 6 (by omega) (by omega)) fun _ _ => ?_
  refine bind_ne_error (hfield 22 2 (by omega) (by omega)) fun _ hsequence => ?_
  have hlen := le_of_fromBuffer_ok hsequence
  refine bind_ne_error (fromBuffer_defined (by omega) (by omega) ?_) fun _ _ h => by cases h
  rw [List.length_drop]
  omega

/-- A header is read from 24 bytes or more, its frame control from the first two. -/
theorem parseHeader_ok {raw : List UInt8} {header : Header}
    (h : parseHeader raw raw.length = .ok header) :
    24 ≤ raw.length ∧ header.frameControl = ofVector (raw.take 2).reverse := by
  obtain ⟨frameControl, hcontrol, h⟩ := bind_eq_ok h
  obtain ⟨_, -, h⟩ := bind_eq_ok h
  obtain ⟨_, -, h⟩ := bind_eq_ok h
  obtain ⟨_, -, h⟩ := bind_eq_ok h
  obtain ⟨_, -, h⟩ := bind_eq_ok h
  obtain ⟨_, hsequence, h⟩ := bind_eq_ok h
  obtain ⟨_, -, h⟩ := bind_eq_ok h
  cases h
  have hlen := le_of_fromBuffer_ok hsequence
  rw [List.drop_zero, fromBuffer_ok (by omega) (by omega) (by omega) (by omega)] at hcontrol
  cases hcontrol
  exact ⟨by omega, rfl⟩

theorem parseHeader_of_le {raw : List UInt8} (h : 24 ≤ raw.length) :
    ∃ header, parseHeader raw raw.length = .ok header := by
  have hfield : ∀ cursor width, cursor + width ≤ 24 → 0 < width →
      fromBuffer (raw.drop cursor) (raw.length - cursor) width =
        .ok (ofVector ((raw.drop cursor).take width).reverse) := fun cursor width hc hw =>
    fromBuffer_ok (by omega) hw (by omega) (by rw [List.length_drop]; omega)
  have hfcs : fromBuffer (raw.drop (raw.length - 4)) 4 4 =
      .ok (ofVector ((raw.drop (raw.length - 4)).take 4).reverse) :=
    fromBuffer_ok (by omega) (by omega) (by omega) (by rw [List.length_drop]; omega)
  rw [parseHeader, hfield 0 2 (by omega) (by omega), ok_bind, hfield 2 2 (by omega) (by omega),
    ok_bind, hfield 4 6 (by omega) (by omega), ok_bind, hfield 10 6 (by omega) (by omega), ok_bind,
    hfield 16 6 (by omega) (by omega), ok_bind, hfield 22 2 (by omega) (by omega), ok_bind, hfcs,
    ok_bind]
  exact ⟨_, rfl⟩

/-- The first byte of a header announces a beacon. -/
def AnnouncesBeacon (b₀ : UInt8) : Prop := (b₀ >>> 2) &&& 3 = 0 ∧ b₀ >>> 4 = 8

instance (b₀ : UInt8) : Decidable (AnnouncesBeacon b₀) :=
  inferInstanceAs (Decidable (_ ∧ _))

/-- The body is looked for by the first byte of the header. -/
theorem parseBody_eq {raw : List UInt8} (h : 24 ≤ raw.length) {header : Header}
    (hcontrol : header.frameControl = ofVector (raw.take 2).reverse) (size : Nat) :
    parseBody raw size header = (do
      BeaconBody.checkBody (sub64 (size - 24) 4) ((raw.headD 0 >>> 2) &&& 3).toNat
        (raw.headD 0 >>> 4).toNat
      BeaconBody.decode (raw.drop 24) (sub64 (size - 24) 4)) := by
  obtain ⟨b₀, b₁, rest, rfl⟩ : ∃ b₀ b₁ rest, raw = b₀ :: b₁ :: rest := by
    rcases raw with _ | ⟨b₀, _ | ⟨b₁, rest⟩⟩
    · simp at h
    · simp at h
    · exact ⟨b₀, b₁, rest, rfl⟩
  have htwo : header.frameControl = ofVector [b₁, b₀] := hcontrol
  rw [parseBody, htwo, cutCopy_type, ok_bind, cutCopy_subType, ok_bind, List.headD_cons]

theorem checkBody_announces {b₀ : UInt8} (h : AnnouncesBeacon b₀) {size : Nat} (hs : 1 ≤ size) :
    BeaconBody.checkBody size ((b₀ >>> 2) &&& 3).toNat (b₀ >>> 4).toNat = .ok () := by
  rw [BeaconBody.checkBody, h.1, h.2, if_pos ⟨rfl, rfl⟩, if_neg (by omega)]

theorem checkBody_defined (size type subType : Nat) :
    BeaconBody.checkBody size type subType ≠ .error .undefinedBehaviour := by
  unfold BeaconBody.checkBody
  split_ifs <;> exact fun h => by cases h

/-- Only a beacon is looked for a body. -/
theorem announces_of_checkBody {b₀ : UInt8} {size : Nat}
    (h : BeaconBody.checkBody size ((b₀ >>> 2) &&& 3).toNat (b₀ >>> 4).toNat = .ok ()) :
    AnnouncesBeacon b₀ := by
  unfold BeaconBody.checkBody at h
  split at h
  · rename_i hb
    exact ⟨UInt8.toNat_inj.mp hb.1, UInt8.toNat_inj.mp hb.2⟩
  · cases h

/-- The frames on which the size of the body wraps around. -/
def SizeWraps (raw : List UInt8) (n : Nat) : Prop :=
  24 ≤ n ∧ n < 28 ∧ AnnouncesBeacon (raw.headD 0)

/-- Elsewhere nothing is read behind the frame. -/
theorem parse_defined (raw : List UInt8) (h : ¬ SizeWraps raw raw.length) :
    parse raw raw.length ≠ .error .undefinedBehaviour := by
  refine bind_ne_error (parseHeader_defined raw) fun header hheader => ?_
  refine bind_ne_error ?_ fun _ _ h => by cases h
  obtain ⟨h24, hcontrol⟩ := parseHeader_ok hheader
  rw [parseBody_eq h24 hcontrol]
  refine bind_ne_error (checkBody_defined _ _ _) fun _ hcheck => ?_
  have h28 : 28 ≤ raw.length := by
    by_contra hlt
    exact h ⟨h24, by omega, announces_of_checkBody hcheck⟩
  refine BeaconBody.decode_defined ?_
  rw [sub64_eq (by omega), List.length_drop]
  omega

/-- There the timestamp is read from behind the frame. -/
theorem parse_outside (raw : List UInt8) (h : SizeWraps raw raw.length) :
    parse raw raw.length = .error .undefinedBehaviour := by
  obtain ⟨h24, h28, hbeacon⟩ := h
  obtain ⟨header, hheader⟩ := parseHeader_of_le h24
  have hsize : 2 ^ 32 ≤ sub64 (raw.length - 24) 4 := by
    rw [sub64_wraps (by omega)]
    omega
  rw [parse, hheader, ok_bind, parseBody_eq h24 (parseHeader_ok hheader).2,
    checkBody_announces hbeacon (by omega), ok_bind, BeaconBody.decode,
    fromBuffer_outside (by omega) (by omega) (by omega) (by rw [List.length_drop]; omega)]
  rfl

/-! ### More of the buffer changes nothing that was read -/

theorem parseHeader_extends {raw raw' : List UInt8} (h : raw <+: raw') (size : Nat) :
    Extends (parseHeader raw size) (parseHeader raw' size) := by
  have hdrop : ∀ cursor, raw.drop cursor <+: raw'.drop cursor := fun cursor =>
    List.IsPrefix.drop h cursor
  refine (fromBuffer_extends (hdrop _) _ _).bind fun _ => ?_
  refine (fromBuffer_extends (hdrop _) _ _).bind fun _ => ?_
  refine (fromBuffer_extends (hdrop _) _ _).bind fun _ => ?_
  refine (fromBuffer_extends (hdrop _) _ _).bind fun _ => ?_
  refine (fromBuffer_extends (hdrop _) _ _).bind fun _ => ?_
  refine (fromBuffer_extends (hdrop _) _ _).bind fun _ => ?_
  exact (fromBuffer_extends (hdrop _) _ _).bind fun _ => .refl _

theorem parse_extends {raw raw' : List UInt8} (h : raw <+: raw') (size : Nat) :
    Extends (parse raw size) (parse raw' size) := by
  refine (parseHeader_extends h size).bind fun header => .bind ?_ fun _ => .refl _
  refine (Extends.refl _).bind fun type => (Extends.refl _).bind fun subType => ?_
  exact (Extends.refl _).bind fun _ => BeaconBody.decode_extends (List.IsPrefix.drop h 24) _

/-! ### Two frames that agree on the bytes of the frame -/

/-- The body that the frame points to. -/
def currentBody (f : Frame) : Option BeaconBody := f.body.bind f.bodies.live

/-- Both calls throw, or both succeed with the same fields and elements. -/
def SameOutcome : EStateM.Result Failure Frame Unit → EStateM.Result Failure Frame Unit → Prop
  | .ok _ g, .ok _ g' => g.header = g'.header ∧ g.currentBody = g'.currentBody
  | .error _ _, .error _ _ => True
  | _, _ => False

/-- The call has a meaning. -/
def Defined (r : EStateM.Result Failure Frame Unit) : Prop :=
  ∀ g, r ≠ .error .undefinedBehaviour g

/-- Decoding depends only on the frame: whatever else the buffer holds behind
the `n` bytes of the frame, the outcome is the same, and the call has a meaning
even if the buffer ends there. -/
def DependsOnFrameOnly (buffer : List UInt8) (n : Nat) : Prop :=
  (∀ buffer' f f', buffer'.length = buffer.length → buffer'.take n = buffer.take n →
    Holds f buffer n → Holds f' buffer' n → SameOutcome (decode.run f) (decode.run f')) ∧
  ∀ f, Holds f (buffer.take n) n → Defined (decode.run f)

theorem currentBody_decoded (f : Frame) (header : Header) (body : BeaconBody) :
    (f.decoded header body).currentBody = some body := Function.update_self ..

/-- Calls that compute the same have the same outcome. -/
theorem sameOutcome_of_parse {f f' : Frame} {buffer buffer' : List UInt8} {n n' : Nat}
    (hf : Holds f buffer n) (hf' : Holds f' buffer' n') (h : parse buffer n = parse buffer' n') :
    SameOutcome (decode.run f) (decode.run f') := by
  cases hp : parse buffer n with
  | ok r =>
    rw [hf.decode_run_of_ok hp, hf'.decode_run_of_ok (h.symm.trans hp)]
    exact ⟨rfl, (currentBody_decoded ..).trans (currentBody_decoded ..).symm⟩
  | error e =>
    obtain ⟨g, hg⟩ := hf.decode_run_of_error hp
    obtain ⟨g', hg'⟩ := hf'.decode_run_of_error (h.symm.trans hp)
    rw [hg, hg']
    trivial

/-- Calls with the same outcome have computed the same. -/
theorem parse_of_sameOutcome {f f' : Frame} {buffer buffer' : List UInt8} {n n' : Nat}
    (hf : Holds f buffer n) (hf' : Holds f' buffer' n')
    (h : SameOutcome (decode.run f) (decode.run f')) :
    (parse buffer n).toOption = (parse buffer' n').toOption := by
  cases hp : parse buffer n with
  | ok r =>
    rw [hf.decode_run_of_ok hp] at h
    cases hp' : parse buffer' n' with
    | ok r' =>
      rw [hf'.decode_run_of_ok hp'] at h
      obtain ⟨hheader, hbody⟩ := h
      rw [currentBody_decoded, currentBody_decoded] at hbody
      exact congrArg some (Prod.ext hheader (Option.some.inj hbody))
    | error e =>
      obtain ⟨g', hg'⟩ := hf'.decode_run_of_error hp'
      rw [hg'] at h
      exact h.elim
  | error e =>
    obtain ⟨g, hg⟩ := hf.decode_run_of_error hp
    rw [hg] at h
    cases hp' : parse buffer' n' with
    | ok r' =>
      rw [hf'.decode_run_of_ok hp'] at h
      exact h.elim
    | error e' => rfl

/-- **Decoding depends only on the frame** exactly where the size of the body
does not wrap around. -/
theorem dependsOnFrameOnly_iff {buffer : List UInt8} {n : Nat}
    (hbuffer : buffer.length = beaconFrameMaxLength) (hn : n ≤ beaconFrameMaxLength) :
    DependsOnFrameOnly buffer n ↔ ¬ SizeWraps buffer n := by
  have hlen : (buffer.take n).length = n := by rw [List.length_take]; omega
  have hwraps : SizeWraps (buffer.take n) n ↔ SizeWraps buffer n := by
    cases n with
    | zero => simp [SizeWraps]
    | succ n => cases buffer <;> simp [SizeWraps]
  constructor
  · rintro ⟨-, hdefined⟩ h
    -- the body reaches over the end of what has been read
    have hout := parse_outside (buffer.take n) (by rwa [hlen, hwraps])
    rw [hlen] at hout
    obtain ⟨g, hg⟩ := (holds_ofBuffer (buffer.take n) n).decode_run_of_error hout
    exact hdefined _ (holds_ofBuffer _ _) g hg
  · intro h
    -- the bytes that have been read are enough, so those behind them do not matter
    have hparse : parse (buffer.take n) n ≠ .error .undefinedBehaviour := by
      have := parse_defined (buffer.take n) (by rwa [hlen, hwraps])
      rwa [hlen] at this
    refine ⟨fun buffer' f f' _ htake hf hf' => sameOutcome_of_parse hf hf' ?_, fun f hf g hg => ?_⟩
    · have he := (parse_extends (List.take_prefix n buffer) n).resolve_left hparse
      rw [← htake] at hparse he
      exact he.trans ((parse_extends (List.take_prefix n buffer') n).resolve_left hparse).symm
    · cases hp : parse (buffer.take n) n with
      | ok r => cases (hf.decode_run_of_ok hp).symm.trans hg
      | error e =>
        obtain ⟨g', hg'⟩ := hf.decode_run_of_error hp
        cases hg'.symm.trans hg
        exact hparse hp

/-- A data header with nothing behind it. -/
theorem dependsOnFrameOnly_data :
    DependsOnFrameOnly (0x08 :: List.replicate 2345 0) 24 :=
  (dependsOnFrameOnly_iff (by rw [List.length_cons, List.length_replicate]; rfl) (by decide)).mpr
    fun h => absurd h.2.2 (by decide)

/-- A beacon header alone, with the byte `stale` and zeros behind it. -/
def staleBuffer (stale : UInt8) : List UInt8 :=
  0x80 :: (List.replicate 23 0 ++ stale :: List.replicate 2321 0)

/-- With a beacon header alone, the byte behind it becomes the timestamp. -/
theorem not_dependsOnFrameOnly_stale : ¬ DependsOnFrameOnly (staleBuffer 0) 24 := by
  rintro ⟨h, -⟩
  have hsame := h (staleBuffer 1) (ofBuffer (staleBuffer 0) 24) (ofBuffer (staleBuffer 1) 24)
    rfl rfl (holds_ofBuffer ..) (holds_ofBuffer ..)
  have hparse := parse_of_sameOutcome (holds_ofBuffer ..) (holds_ofBuffer ..) hsame
  have hzero : (parse (staleBuffer 0) 24).toOption.map (·.2.timestamp) =
      some (ofVector [0, 0, 0, 0, 0, 0, 0, 0]) := rfl
  have hone : (parse (staleBuffer 1) 24).toOption.map (·.2.timestamp) =
      some (ofVector [0, 0, 0, 0, 0, 0, 0, 1]) := rfl
  rw [hparse, hone] at hzero
  exact absurd hzero (by decide)

end Frame
end SnapDesk
