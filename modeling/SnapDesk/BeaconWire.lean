import SnapDesk.Frame

/-! # Beacons on the air

A beacon as it is sent: a MAC header that says so, three fixed fields, any number
of information elements and the checksum.  The bounds on the lengths are fields,
so that whatever is built here is well formed.

`decode_wire` says that `Frame::decode` undoes `Beacon.wire`: the fields come out
most significant byte first, the values of the elements in the order of the
wire. -/
namespace SnapDesk
open BigNumber

/-- An information element, which may be empty. -/
structure InformationElement where
  id : UInt8
  value : List UInt8
  short : value.length ≤ 255

namespace InformationElement

/-- The id, the length and the value. -/
def encode (x : InformationElement) : List UInt8 := x.id :: UInt8.ofNat x.value.length :: x.value

@[simp] theorem encode_length (x : InformationElement) : x.encode.length = 2 + x.value.length := by
  simp only [encode, List.length_cons]
  omega

def encodeAll (xs : List InformationElement) : List UInt8 := xs.flatMap encode

theorem encodeAll_cons (x : InformationElement) (xs : List InformationElement) :
    encodeAll (x :: xs) = x.encode ++ encodeAll xs := List.flatMap_cons

theorem length_le_encodeAll (xs : List InformationElement) : xs.length ≤ (encodeAll xs).length := by
  induction xs with
  | nil => exact Nat.zero_le _
  | cons x xs ih =>
    rw [encodeAll_cons, List.length_append, x.encode_length, List.length_cons]
    omega

/-- The node of the linked list that the element becomes. -/
def toIe (x : InformationElement) : Ie := ⟨x.id, ofVector x.value⟩

end InformationElement

/-- An information element that is not empty. -/
structure Element extends InformationElement where
  nonempty : 1 ≤ value.length

namespace Element

def encodeAll (es : List Element) : List UInt8 :=
  InformationElement.encodeAll (es.map toInformationElement)

@[simp] theorem encodeAll_nil : encodeAll [] = [] := rfl

theorem encodeAll_cons (e : Element) (es : List Element) :
    encodeAll (e :: es) = e.encode ++ encodeAll es := InformationElement.encodeAll_cons ..

theorem length_le_encodeAll (es : List Element) : es.length ≤ (encodeAll es).length := by
  have hlength := InformationElement.length_le_encodeAll (es.map toInformationElement)
  rwa [List.length_map] at hlength

/-- The node of the linked list that the element becomes. -/
def toIe (e : Element) : Ie := e.toInformationElement.toIe

/-- The value of the first element with an id. -/
def lookup (id : UInt8) : List Element → BigNumber
  | [] => .null
  | e :: es => if e.id = id then ofVector e.value else lookup id es

end Element

structure Beacon where
  header : List UInt8
  timestamp : List UInt8
  beaconInterval : List UInt8
  capabilitiesInformation : List UInt8
  elements : List Element
  frameCheckSum : List UInt8
  header_length : header.length = 24
  type_management : ((header.headD 0) >>> 2) &&& 3 = 0
  subType_beacon : (header.headD 0) >>> 4 = 8
  timestamp_length : timestamp.length = 8
  beaconInterval_length : beaconInterval.length = 2
  capabilitiesInformation_length : capabilitiesInformation.length = 2
  frameCheckSum_length : frameCheckSum.length = 4

namespace Beacon

/-- Everything after the MAC header but the checksum. -/
def bodyWire (b : Beacon) : List UInt8 :=
  b.timestamp ++ (b.beaconInterval ++ (b.capabilitiesInformation ++ Element.encodeAll b.elements))

/-- The bytes of the frame. -/
def wire (b : Beacon) : List UInt8 := b.header ++ (b.bodyWire ++ b.frameCheckSum)

/-- The names of the fields that are not elements, with their bytes as sent. -/
def fixedFields (b : Beacon) : List (Str × List UInt8) :=
  [(lit "frame_control", b.header.take 2),
   (lit "duration", (b.header.drop 2).take 2),
   (lit "destination_address", (b.header.drop 4).take 6),
   (lit "source_address", (b.header.drop 10).take 6),
   (lit "bssid", (b.header.drop 16).take 6),
   (lit "sequence_control", (b.header.drop 22).take 2),
   (lit "frame_check_sum", b.frameCheckSum),
   (lit "timestamp", b.timestamp),
   (lit "beacon_interval", b.beaconInterval),
   (lit "capabilities_information", b.capabilitiesInformation)]

/-- The header that a frame with these bytes decodes to. -/
def toHeader (b : Beacon) : Header where
  frameControl := ofVector (b.header.take 2).reverse
  duration := ofVector ((b.header.drop 2).take 2).reverse
  destinationAddress := ofVector ((b.header.drop 4).take 6).reverse
  sourceAddress := ofVector ((b.header.drop 10).take 6).reverse
  bssid := ofVector ((b.header.drop 16).take 6).reverse
  sequenceControl := ofVector ((b.header.drop 22).take 2).reverse
  frameCheckSum := ofVector b.frameCheckSum.reverse

/-- The body that a frame with these bytes decodes to. -/
def toBody (b : Beacon) : BeaconBody where
  timestamp := ofVector b.timestamp.reverse
  beaconInterval := ofVector b.beaconInterval.reverse
  capabilitiesInformation := ofVector b.capabilitiesInformation.reverse
  firstIe := b.elements.map Element.toIe

end Beacon

namespace BigNumber

/-- Reading a slice of the first part of the buffer. -/
theorem fromBuffer_slice {front : List UInt8} {bufferSize cursor width : Nat} (rest : List UInt8)
    (hfront : cursor + width ≤ front.length) (h0 : 0 < width) (hi : width ≤ 2 ^ 31)
    (hsize : width ≤ bufferSize) :
    fromBuffer ((front ++ rest).drop cursor) bufferSize width =
      .ok (ofVector ((front.drop cursor).take width).reverse) := by
  have hslice : width ≤ (front.drop cursor).length := by rw [List.length_drop]; omega
  rw [List.drop_append_of_le_length (by omega),
    fromBuffer_ok hsize h0 hi (by rw [List.length_append]; omega),
    List.take_append_of_le_length hslice]

/-- Reading a field that stands in the buffer between two other parts. -/
theorem fromBuffer_field (pre : List UInt8) {buffer field rest : List UInt8}
    {bufferSize cursor width : Nat} (hbuffer : buffer = pre ++ (field ++ rest))
    (hcursor : pre.length = cursor)
    (hwidth : field.length = width) (h0 : 0 < width) (hi : width ≤ 2 ^ 31)
    (hsize : width ≤ bufferSize) :
    fromBuffer (buffer.drop cursor) bufferSize width = .ok (ofVector field.reverse) := by
  subst hbuffer hcursor hwidth
  rw [List.drop_left, fromBuffer_ok hsize h0 hi (by rw [List.length_append]; omega), List.take_left]

end BigNumber

/-! ### The elements -/

namespace BeaconBody

/-- What `add_ie` adds, when the value lies in the buffer. -/
theorem addIe_ok (pre value rest : List UInt8) {size : Nat} (id : UInt8)
    (hshort : value.length ≤ 255) (hsize : pre.length + value.length ≤ size) (ies : List Ie) :
    addIe (pre ++ (value ++ rest)) size id (UInt8.ofNat value.length) pre.length ies =
      .ok (ies ++ [⟨id, ofVector value⟩]) := by
  have hlen : (UInt8.ofNat value.length).toNat = value.length := by
    rw [UInt8.toNat_ofNat', Nat.mod_eq_of_lt (by omega)]
  rw [addIe, hlen, if_neg (by omega), List.drop_left,
    fromBufferInv_ok (by omega) (by rw [List.length_append]; omega), List.take_left, ok_bind,
    Ie.add_eq]
  rfl

/-- One round of the element loop, with a whole element at the cursor. -/
theorem decodeElements_encode (e : Element) {pre rest : List UInt8} {size : Nat}
    (hsize : (pre ++ e.encode).length ≤ size) (rounds : Nat) (ies : List Ie) :
    decodeElements (pre ++ (e.encode ++ rest)) size (rounds + 1) pre.length ies =
      decodeElements (pre ++ (e.encode ++ rest)) size rounds (pre ++ e.encode).length
        (ies ++ [e.toIe]) := by
  have hshort := e.short
  have hnonempty := e.nonempty
  have hlen : (UInt8.ofNat e.value.length).toNat = e.value.length := by
    rw [UInt8.toNat_ofNat', Nat.mod_eq_of_lt (by omega)]
  have hne : UInt8.ofNat e.value.length ≠ 0 := by
    intro h
    rw [h] at hlen
    simp at hlen
    omega
  have hcursor : (pre ++ e.encode).length = pre.length + (2 + e.value.length) := by
    rw [List.length_append, e.encode_length]
  have hid : readByte (pre ++ (e.encode ++ rest)) pre.length = .ok e.id := by
    simp [readByte, InformationElement.encode]
  have hlength : readByte (pre ++ (e.encode ++ rest)) (pre.length + 1) =
      .ok (UInt8.ofNat e.value.length) := by
    simp [readByte, InformationElement.encode]
  have hadd : addIe (pre ++ (e.encode ++ rest)) size e.id (UInt8.ofNat e.value.length)
      (pre.length + 2) ies = .ok (ies ++ [e.toIe]) := by
    have h := addIe_ok (pre ++ [e.id, UInt8.ofNat e.value.length]) e.value rest e.id hshort
      (show _ ≤ size by simp; omega) ies
    simpa [InformationElement.encode, Element.toIe, InformationElement.toIe] using h
  rw [decodeElements, if_pos (by omega), hid, ok_bind, hlength, ok_bind, if_neg hne,
    if_neg (by omega), hadd, ok_bind, hlen, hcursor]

/-- **The element loop reads the elements back**, by induction on those left, and
goes on behind them. -/
theorem decodeElements_skip (es : List Element) (pre rest : List UInt8) {size : Nat}
    (hsize : (pre ++ Element.encodeAll es).length ≤ size) (rounds : Nat) (ies : List Ie) :
    decodeElements (pre ++ (Element.encodeAll es ++ rest)) size (es.length + rounds) pre.length ies =
      decodeElements (pre ++ (Element.encodeAll es ++ rest)) size rounds
        (pre ++ Element.encodeAll es).length (ies ++ es.map Element.toIe) := by
  induction es generalizing pre ies with
  | nil => simp
  | cons e es ih =>
    have hsplit := Element.encodeAll_cons e es
    have hrounds : (e :: es).length + rounds = es.length + rounds + 1 := by
      rw [List.length_cons]
      omega
    rw [hsplit] at hsize ⊢
    have hfirst : (pre ++ e.encode).length ≤ size := by
      simp only [List.length_append] at hsize ⊢
      omega
    have hrec := ih (pre ++ e.encode) (by rwa [List.append_assoc]) (ies ++ [e.toIe])
    rw [List.append_assoc, hrounds, decodeElements_encode e hfirst, ← List.append_assoc pre, hrec,
      List.append_assoc ies, List.map_cons, List.singleton_append, List.append_assoc pre,
      List.append_assoc pre]

/-- Behind the last element the loop ends. -/
theorem decodeElements_encodeAll (es : List Element) (pre rest : List UInt8) {size rounds : Nat}
    (hsize : size = (pre ++ Element.encodeAll es).length) (hrounds : es.length < rounds)
    (ies : List Ie) :
    decodeElements (pre ++ (Element.encodeAll es ++ rest)) size rounds pre.length ies =
      .ok (ies ++ es.map Element.toIe) := by
  obtain ⟨more, rfl⟩ := Nat.exists_eq_add_of_lt hrounds
  rw [Nat.add_assoc, decodeElements_skip es pre rest (Nat.le_of_eq hsize.symm), decodeElements,
    if_neg (by omega)]
  rfl

/-- Decoding the body of a beacon, whatever follows it in the buffer. -/
theorem decode_bodyWire (b : Beacon) (rest : List UInt8) :
    decode (b.bodyWire ++ rest) b.bodyWire.length = .ok b.toBody := by
  have ht := b.timestamp_length
  have hi := b.beaconInterval_length
  have hc := b.capabilitiesInformation_length
  have hlen : b.bodyWire.length = 12 + (Element.encodeAll b.elements).length := by
    simp only [Beacon.bodyWire, List.length_append]
    omega
  have htimestamp : fromBuffer ((b.bodyWire ++ rest).drop 0) b.bodyWire.length 8 =
      .ok (ofVector b.timestamp.reverse) :=
    fromBuffer_field [] (by simp [Beacon.bodyWire]; rfl) rfl ht (by omega) (by omega)
      (by omega)
  have hinterval : fromBuffer ((b.bodyWire ++ rest).drop 8) (b.bodyWire.length - 8) 2 =
      .ok (ofVector b.beaconInterval.reverse) :=
    fromBuffer_field b.timestamp (by simp [Beacon.bodyWire]; rfl) ht hi (by omega)
      (by omega) (by omega)
  have hcapabilities : fromBuffer ((b.bodyWire ++ rest).drop 10) (b.bodyWire.length - 10) 2 =
      .ok (ofVector b.capabilitiesInformation.reverse) :=
    fromBuffer_field (b.timestamp ++ b.beaconInterval) (by simp [Beacon.bodyWire]; rfl)
      (by simp [ht, hi]) hc (by omega) (by omega) (by omega)
  -- behind the three fields the loop has more rounds than there are elements
  have helements : decodeElements (b.bodyWire ++ rest) b.bodyWire.length (b.bodyWire.length + 1) 12 [] =
      .ok (b.elements.map Element.toIe) := by
    have hrounds : b.elements.length < b.bodyWire.length + 1 := by
      have := Element.length_le_encodeAll b.elements
      omega
    have h := decodeElements_encodeAll b.elements
      (b.timestamp ++ b.beaconInterval ++ b.capabilitiesInformation) rest
      (show b.bodyWire.length = _ by simp [Beacon.bodyWire]) hrounds []
    simpa [Beacon.bodyWire, ht, hi, hc] using h
  rw [List.drop_zero] at htimestamp
  rw [decode, htimestamp, ok_bind, hinterval, ok_bind, hcapabilities, ok_bind, helements]
  rfl

end BeaconBody

/-! ### The frame -/

namespace Frame

theorem wire_length (b : Beacon) : b.wire.length = 24 + b.bodyWire.length + 4 := by
  simp only [Beacon.wire, List.length_append, b.header_length, b.frameCheckSum_length]
  omega

theorem parseHeader_wire (b : Beacon) (rest : List UInt8) :
    parseHeader (b.wire ++ rest) b.wire.length = .ok b.toHeader := by
  have hh := b.header_length
  have hlen := wire_length b
  have hwire : b.wire ++ rest = b.header ++ (b.bodyWire ++ (b.frameCheckSum ++ rest)) := by
    simp [Beacon.wire]
  have hslice : ∀ cursor width, cursor + width ≤ 24 → 0 < width →
      fromBuffer ((b.wire ++ rest).drop cursor) (b.wire.length - cursor) width =
        .ok (ofVector ((b.header.drop cursor).take width).reverse) := by
    intro cursor width hc hw
    rw [hwire]
    exact fromBuffer_slice _ (by omega) hw (by omega) (by omega)
  have hfcs : fromBuffer ((b.wire ++ rest).drop (b.wire.length - 4)) 4 4 =
      .ok (ofVector b.frameCheckSum.reverse) :=
    fromBuffer_field (b.header ++ b.bodyWire) (by rw [hwire, ← List.append_assoc])
      (by rw [List.length_append]; omega) b.frameCheckSum_length (by omega) (by omega) (by omega)
  rw [parseHeader, hslice 0 2 (by omega) (by omega), ok_bind, hslice 2 2 (by omega) (by omega),
    ok_bind, hslice 4 6 (by omega) (by omega), ok_bind, hslice 10 6 (by omega) (by omega), ok_bind,
    hslice 16 6 (by omega) (by omega), ok_bind, hslice 22 2 (by omega) (by omega), ok_bind, hfcs,
    ok_bind]
  rfl

theorem parseBody_wire (b : Beacon) (hfits : b.wire.length ≤ beaconFrameMaxLength)
    (rest : List UInt8) :
    parseBody (b.wire ++ rest) b.wire.length b.toHeader = .ok b.toBody := by
  have hh := b.header_length
  have hlen := wire_length b
  have hbody : 1 ≤ b.bodyWire.length := by
    simp only [Beacon.bodyWire, List.length_append, b.timestamp_length]
    omega
  have hdrop : (b.wire ++ rest).drop 24 = b.bodyWire ++ (b.frameCheckSum ++ rest) := by
    rw [← hh]
    simp [Beacon.wire]
  have hsize : sub64 (b.wire.length - 24) 4 = b.bodyWire.length := by
    rw [beaconFrameMaxLength] at hfits
    rw [sub64_eq (by omega)]
    omega
  -- the first two bytes say that this is a beacon
  obtain ⟨h₀, h₁, hs, hheader⟩ : ∃ h₀ h₁ hs, b.header = h₀ :: h₁ :: hs := by
    rcases hb : b.header with _ | ⟨h₀, _ | ⟨h₁, hs⟩⟩
    · simp [hb] at hh
    · simp [hb] at hh
    · exact ⟨h₀, h₁, hs, rfl⟩
  have hcontrol : b.toHeader.frameControl = ofVector [h₁, h₀] := by
    simp [Beacon.toHeader, hheader]
  have htype := b.type_management
  have hsubType := b.subType_beacon
  rw [hheader, List.headD_cons] at htype hsubType
  rw [parseBody, hcontrol, cutCopy_type, ok_bind, cutCopy_subType, ok_bind, htype, hsubType, hsize,
    hdrop]
  have hcheck : BeaconBody.checkBody b.bodyWire.length (0 : UInt8).toNat (8 : UInt8).toNat =
      .ok () := by
    rw [BeaconBody.checkBody, if_pos ⟨rfl, rfl⟩, if_neg (by omega)]
  rw [hcheck, ok_bind, BeaconBody.decode_bodyWire]

/-- A field of a decoded frame that is no element is looked up as itself. -/
theorem getValue_fixedFields (f : Frame) (b : Beacon) {field : Str} {bytes : List UInt8}
    (h : (field, bytes) ∈ b.fixedFields) :
    (f.decoded b.toHeader b.toBody).getValue field = .ok (ofVector bytes.reverse) := by
  simp only [Beacon.fixedFields, List.mem_cons, List.not_mem_nil, or_false, Prod.mk.injEq] at h
  obtain ⟨rfl, rfl⟩ | ⟨rfl, rfl⟩ | ⟨rfl, rfl⟩ | ⟨rfl, rfl⟩ | ⟨rfl, rfl⟩ | ⟨rfl, rfl⟩ | ⟨rfl, rfl⟩ |
    ⟨rfl, rfl⟩ | ⟨rfl, rfl⟩ | ⟨rfl, rfl⟩ := h
  case inr.inr.inr.inr.inr.inr.inr.inl => rw [getValue_decoded _ _ _ (by decide)]; rfl
  case inr.inr.inr.inr.inr.inr.inr.inr.inl => rw [getValue_decoded _ _ _ (by decide)]; rfl
  case inr.inr.inr.inr.inr.inr.inr.inr.inr => rw [getValue_decoded _ _ _ (by decide)]; rfl
  all_goals rfl

/-- Two hexadecimal digits, in either case, that denote a byte. -/
def HexPair (field : Str) (id : UInt8) : Prop :=
  ∃ c d, field = [c, d] ∧ isXDigit c = true ∧ isXDigit d = true ∧
    digitValue c * 16 + digitValue d = id.toNat

/-- An element of a decoded frame is looked up by its id. -/
theorem getValue_element (f : Frame) (b : Beacon) {field : Str} {id : UInt8}
    (h : HexPair field id) :
    (f.decoded b.toHeader b.toBody).getValue field = .ok (Element.lookup id b.elements) := by
  obtain ⟨c, d, rfl, hc, hd, hid⟩ := h
  have hname : ∀ name : Str, name.length ≠ 2 → [c, d] ≠ name := fun name hn he => hn (he ▸ rfl)
  have hheader : [c, d] ∉ headerNames := by
    intro hmem
    have hlen : ∀ name ∈ headerNames, name.length ≠ 2 := by decide
    exact hlen _ hmem rfl
  have hvalid : Ie.isValidHex [c, d] = true := by simp [Ie.isValidHex, hc, hd]
  have hbyte : UInt8.ofNat (((digitValue c * 16 + digitValue d : Nat) : Int) % 256).toNat = id := by
    have hlt := id.toNat_lt
    rw [hid, Int.emod_eq_of_lt (by omega) (by omega), Int.toNat_natCast, UInt8.ofNat_toNat]
  have hlookup : ∀ es : List Element,
      Ie.getValue [c, d] (es.map Element.toIe) = .ok (Element.lookup id es) := by
    intro es
    induction es with
    | nil => rfl
    | cons e es ih =>
      rw [List.map_cons, Ie.getValue, if_pos hvalid, stoi_hex_pair hc hd, ok_bind, hbyte,
        Element.lookup]
      by_cases hid : e.id = id
      · rw [if_pos (show e.toIe.elementId = id from hid), if_pos hid]
        rfl
      · rw [if_neg (show e.toIe.elementId ≠ id from hid), if_neg hid]
        exact ih
  rw [getValue_decoded _ _ _ hheader, BeaconBody.getValue, if_neg (hname _ (by decide)),
    if_neg (hname _ (by decide)), if_neg (hname _ (by decide))]
  exact hlookup b.elements

/-- `decode` reads a beacon. -/
theorem decode_run_wire (b : Beacon) {f : Frame} {buffer : List UInt8}
    (hfits : b.wire.length ≤ beaconFrameMaxLength) (hbuffer : b.wire <+: buffer)
    (hf : Holds f buffer b.wire.length) :
    decode.run f = .ok () (f.decoded b.toHeader b.toBody) := by
  obtain ⟨rest, rfl⟩ := hbuffer
  have hparse : parse (b.wire ++ rest) b.wire.length = .ok (b.toHeader, b.toBody) := by
    rw [parse, parseHeader_wire, ok_bind, parseBody_wire b hfits, ok_bind]
    rfl
  exact hf.decode_run_of_ok hparse

/-- **`decode` undoes the wire format.**  On a frame whose fresh raw data are the
bytes of a beacon, `decode` succeeds and `get_value` answers every field with the
bytes that were sent: reversed for what is no element, and for an element id the
value of the first element that has it. -/
theorem decode_wire (b : Beacon) {f : Frame} {buffer : List UInt8}
    (hfits : b.wire.length ≤ beaconFrameMaxLength) (hbuffer : b.wire <+: buffer)
    (hf : Holds f buffer b.wire.length) :
    ∃ g, decode.run f = .ok () g ∧
      (∀ field bytes, (field, bytes) ∈ b.fixedFields →
        g.getValue field = .ok (ofVector bytes.reverse)) ∧
      ∀ field id, HexPair field id → g.getValue field = .ok (Element.lookup id b.elements) :=
  ⟨f.decoded b.toHeader b.toBody, decode_run_wire b hfits hbuffer hf,
    fun _ _ h => getValue_fixedFields f b h, fun _ _ h => getValue_element f b h⟩

/-- A beacon that carries the SSID `home` and, as a second element with that id,
an empty name of one zero byte. -/
def homeBeacon : Beacon where
  header := 0x80 :: List.replicate 15 0 ++ [1, 2, 3, 4, 5, 6, 0, 0]
  timestamp := [1, 0, 0, 0, 0, 0, 0, 0]
  beaconInterval := [100, 0]
  capabilitiesInformation := [1, 4]
  elements := [⟨⟨0, lit "home", by decide⟩, by decide⟩, ⟨⟨0, [0], by decide⟩, by decide⟩]
  frameCheckSum := [0xde, 0xad, 0xbe, 0xef]
  header_length := rfl
  type_management := rfl
  subType_beacon := rfl
  timestamp_length := rfl
  beaconInterval_length := rfl
  capabilitiesInformation_length := rfl
  frameCheckSum_length := rfl

/-- `decode_wire` on that beacon, at the front of a buffer with other bytes after it. -/
theorem decode_wire_home :
    ∃ g, decode.run (ofBuffer (homeBeacon.wire ++ [7, 7]) homeBeacon.wire.length) = .ok () g ∧
      g.getValue (lit "bssid") = .ok (ofVector [6, 5, 4, 3, 2, 1]) ∧
      g.getValue (lit "00") = .ok (ofVector (lit "home")) ∧ g.getValue (lit "dD") = .ok .null := by
  obtain ⟨g, hg, hfixed, helement⟩ := decode_wire homeBeacon (by decide) ⟨[7, 7], rfl⟩
    (holds_ofBuffer (homeBeacon.wire ++ [7, 7]) homeBeacon.wire.length)
  refine ⟨g, hg, hfixed (lit "bssid") [1, 2, 3, 4, 5, 6] (by decide), ?_, ?_⟩
  · exact helement (lit "00") 0 ⟨48, 48, rfl, by decide, by decide, by decide⟩
  · exact helement (lit "dD") 0xdd ⟨100, 68, rfl, by decide, by decide, by decide⟩

end Frame
end SnapDesk
