import SnapDesk.FrameBounds

/-! # The checksum stays out of the body

Two buffers that agree on their first bytes are read alike as long as only these
are read: `AgreeOn` is carried through every read of `decode`, one lemma for each.

The element loop is the one place that reads on.  When a single byte of the body
is left, its length is read from behind the body, from the first byte of the
checksum.  Whatever it finds there, it stops: a length of zero ends the body, and
any other is too long for it (`decodeElements_agree`). -/
namespace SnapDesk
open BigNumber

/-- Two buffers with the same first `n` bytes. -/
structure AgreeOn (n : Nat) (buffer buffer' : List UInt8) : Prop where
  take_eq : buffer.take n = buffer'.take n
  le_length : n ≤ buffer.length
  le_length' : n ≤ buffer'.length

namespace AgreeOn
variable {n : Nat} {buffer buffer' : List UInt8}

theorem mono (h : AgreeOn n buffer buffer') {m : Nat} (hm : m ≤ n) : AgreeOn m buffer buffer' := by
  refine ⟨?_, Nat.le_trans hm h.le_length, Nat.le_trans hm h.le_length'⟩
  have htake := congrArg (List.take m) h.take_eq
  rwa [List.take_take, List.take_take, Nat.min_eq_left hm] at htake

theorem drop (h : AgreeOn n buffer buffer') (k : Nat) :
    AgreeOn (n - k) (buffer.drop k) (buffer'.drop k) := by
  have hlength := h.le_length
  have hlength' := h.le_length'
  refine ⟨?_, by rw [List.length_drop]; omega, by rw [List.length_drop]; omega⟩
  rw [← List.drop_take, ← List.drop_take, h.take_eq]

theorem readByte_eq (h : AgreeOn n buffer buffer') {i : Nat} (hi : i < n) :
    readByte buffer i = readByte buffer' i := by
  have hget := congrArg (·[i]?) h.take_eq
  simp only [List.getElem?_take, hi, if_true] at hget
  rw [readByte, readByte, hget]

/-- A field is read alike if it lies in the common part, or if it is not there. -/
theorem fromBuffer_eq (h : AgreeOn n buffer buffer') {size width : Nat} (h0 : 0 < width)
    (hi : width ≤ 2 ^ 31) (hwidth : width ≤ n ∨ size < width) :
    fromBuffer buffer size width = fromBuffer buffer' size width := by
  by_cases hshort : size < width
  · rw [fromBuffer_short hshort, fromBuffer_short hshort]
  · have hn : width ≤ n := hwidth.resolve_right hshort
    rw [fromBuffer_ok (by omega) h0 hi (Nat.le_trans hn h.le_length),
      fromBuffer_ok (by omega) h0 hi (Nat.le_trans hn h.le_length'), (h.mono hn).take_eq]

theorem fromBufferInv_eq (h : AgreeOn n buffer buffer') {size width : Nat}
    (hwidth : width ≤ n ∨ size < width) :
    fromBufferInv buffer size width = fromBufferInv buffer' size width := by
  by_cases hshort : size < width
  · rw [fromBufferInv, if_pos hshort, fromBufferInv, if_pos hshort]
  · have hn : width ≤ n := hwidth.resolve_right hshort
    rw [fromBufferInv_ok (by omega) (Nat.le_trans hn h.le_length),
      fromBufferInv_ok (by omega) (Nat.le_trans hn h.le_length'), (h.mono hn).take_eq]

end AgreeOn

namespace BeaconBody
variable {size : Nat} {buffer buffer' : List UInt8}

theorem addIe_agree (h : AgreeOn size buffer buffer') (elementId elementLength : UInt8)
    (startPosition : Nat) (firstIe : List Ie) :
    addIe buffer size elementId elementLength startPosition firstIe =
      addIe buffer' size elementId elementLength startPosition firstIe := by
  rw [addIe, addIe]
  by_cases houtside : size < startPosition + elementLength.toNat
  · rw [if_pos houtside, if_pos houtside]
  · rw [if_neg houtside, if_neg houtside,
      (h.drop startPosition).fromBufferInv_eq (.inl (by omega))]

/-- The loop reads at most one byte behind the body, and then it stops. -/
theorem decodeElements_agree (h : AgreeOn size buffer buffer') (hlength : size < buffer.length)
    (hlength' : size < buffer'.length) (rounds cursor : Nat) (firstIe : List Ie) :
    decodeElements buffer size rounds cursor firstIe =
      decodeElements buffer' size rounds cursor firstIe := by
  induction rounds generalizing cursor firstIe with
  | zero => rfl
  | succ rounds ih =>
    by_cases hlast : cursor + 1 = size
    · rw [decodeElements_last hlength hlast, decodeElements_last hlength' hlast]
    · rw [decodeElements, decodeElements]
      by_cases hcursor : cursor < size
      · rw [if_pos hcursor, if_pos hcursor, h.readByte_eq hcursor,
          h.readByte_eq (show cursor + 1 < size by omega)]
        simp only [addIe_agree h, ih]
      · rw [if_neg hcursor, if_neg hcursor]

theorem decode_agree (h : AgreeOn size buffer buffer') (hlength : size < buffer.length)
    (hlength' : size < buffer'.length) : decode buffer size = decode buffer' size := by
  rw [decode, decode, h.fromBuffer_eq (by omega) (by omega) (by omega),
    (h.drop 8).fromBuffer_eq (by omega) (by omega) (by omega),
    (h.drop 10).fromBuffer_eq (by omega) (by omega) (by omega)]
  simp only [decodeElements_agree h hlength hlength']

end BeaconBody

namespace Frame
variable {n : Nat} {buffer buffer' : List UInt8}

/-- A header without its checksum. -/
def withoutCheckSum (header : Header) : Header := { header with frameCheckSum := .null }

/-- Both calls throw the same exception, or both succeed with the same header but
for the checksum, the same fixed fields and the same elements. -/
def SameButCheckSum : EStateM.Result Failure Frame Unit → EStateM.Result Failure Frame Unit → Prop
  | .ok _ g, .ok _ g' =>
      withoutCheckSum g.header = withoutCheckSum g'.header ∧
        ∃ body, g.currentBody = some body ∧ g'.currentBody = some body
  | .error e _, .error e' _ => e = e' ∧ e ≠ .undefinedBehaviour
  | _, _ => False

/-- A header is read from a frame that is long enough. -/
theorem parseHeader_agree (hn : 28 ≤ n) (h : AgreeOn (n - 4) buffer buffer')
    (hlength : n ≤ buffer.length) (hlength' : n ≤ buffer'.length) :
    ∃ header header', parseHeader buffer n = .ok header ∧ parseHeader buffer' n = .ok header' ∧
      withoutCheckSum header = withoutCheckSum header' := by
  have hfield (cursor width : Nat) (hc : cursor + width ≤ 24) (hw : 0 < width) :
      ∃ v, fromBuffer (buffer.drop cursor) (n - cursor) width = .ok v ∧
        fromBuffer (buffer'.drop cursor) (n - cursor) width = .ok v := by
    have hok : fromBuffer (buffer.drop cursor) (n - cursor) width = .ok _ :=
      fromBuffer_ok (by omega) hw (by omega) (by rw [List.length_drop]; omega)
    exact ⟨_, hok, ((h.drop cursor).fromBuffer_eq hw (by omega) (.inl (by omega))).symm.trans hok⟩
  have hsum {buffer : List UInt8} (hlength : n ≤ buffer.length) :
      ∃ v, fromBuffer (buffer.drop (n - 4)) 4 4 = .ok v :=
    ⟨_, fromBuffer_ok (by omega) (by omega) (by omega) (by rw [List.length_drop]; omega)⟩
  obtain ⟨frameControl, h₁, h₁'⟩ := hfield 0 2 (by omega) (by omega)
  obtain ⟨duration, h₂, h₂'⟩ := hfield 2 2 (by omega) (by omega)
  obtain ⟨destinationAddress, h₃, h₃'⟩ := hfield 4 6 (by omega) (by omega)
  obtain ⟨sourceAddress, h₄, h₄'⟩ := hfield 10 6 (by omega) (by omega)
  obtain ⟨bssid, h₅, h₅'⟩ := hfield 16 6 (by omega) (by omega)
  obtain ⟨sequenceControl, h₆, h₆'⟩ := hfield 22 2 (by omega) (by omega)
  obtain ⟨frameCheckSum, h₇⟩ := hsum hlength
  obtain ⟨frameCheckSum', h₇'⟩ := hsum hlength'
  refine ⟨⟨frameControl, duration, destinationAddress, sourceAddress, bssid, sequenceControl,
    frameCheckSum⟩, ⟨frameControl, duration, destinationAddress, sourceAddress, bssid,
    sequenceControl, frameCheckSum'⟩, ?_, ?_, rfl⟩
  · rw [parseHeader, h₁, ok_bind, h₂, ok_bind, h₃, ok_bind, h₄, ok_bind, h₅, ok_bind, h₆, ok_bind, h₇]
    rfl
  · rw [parseHeader, h₁', ok_bind, h₂', ok_bind, h₃', ok_bind, h₄', ok_bind, h₅', ok_bind, h₆',
      ok_bind, h₇']
    rfl

/-- The body lies before the checksum. -/
theorem parseBody_agree (hn : 28 ≤ n) (h : AgreeOn (n - 4) buffer buffer')
    (hlength : n ≤ buffer.length) (hlength' : n ≤ buffer'.length) {header header' : Header}
    (hheader : withoutCheckSum header = withoutCheckSum header') :
    parseBody buffer n header = parseBody buffer' n header' := by
  have hcontrol : header.frameControl = header'.frameControl := by
    obtain ⟨hcontrol, -⟩ := Header.mk.inj hheader
    exact hcontrol
  have hsize : sub64 (n - 24) 4 = n - 4 - 24 := by rw [sub64_eq (by omega)]; omega
  have hbody : BeaconBody.decode (buffer.drop 24) (n - 4 - 24) =
      BeaconBody.decode (buffer'.drop 24) (n - 4 - 24) :=
    BeaconBody.decode_agree (h.drop 24) (by rw [List.length_drop]; omega)
      (by rw [List.length_drop]; omega)
  rw [parseBody, parseBody, hcontrol, hsize, hbody]

/-- Nothing is read where reading has no meaning. -/
theorem parse_meaningful (hn : 28 ≤ n) (hlength : n ≤ buffer.length) :
    parse buffer n ≠ .error .undefinedBehaviour := by
  have htake : (buffer.take n).length = n := by rw [List.length_take]; omega
  have hdefined := parse_defined (buffer.take n) (by
    rintro ⟨-, hlt, -⟩
    omega)
  rw [htake] at hdefined
  rwa [(parse_extends (List.take_prefix n buffer) n).resolve_left hdefined]

/-- **The checksum never leaks into the body**: two frames of 28 bytes or more that
differ in their last four bytes alone decode alike. -/
theorem decode_sameButCheckSum (hn : 28 ≤ n) (hlength : n ≤ buffer.length)
    (hlength' : n ≤ buffer'.length) (hsame : buffer.take (n - 4) = buffer'.take (n - 4))
    {f f' : Frame} (hf : Holds f buffer n) (hf' : Holds f' buffer' n) :
    SameButCheckSum (decode.run f) (decode.run f') := by
  have hagree : AgreeOn (n - 4) buffer buffer' := ⟨hsame, by omega, by omega⟩
  obtain ⟨header, header', hheader, hheader', hwithout⟩ :=
    parseHeader_agree hn hagree hlength hlength'
  have hbody := parseBody_agree hn hagree hlength hlength' hwithout
  -- the headers differ in the checksum at most, and the bodies are read from the same bytes
  cases hparse : parseBody buffer n header with
  | ok body =>
    have hp : parse buffer n = .ok (header, body) := by
      rw [parse, hheader, ok_bind, hparse, ok_bind]
      rfl
    have hp' : parse buffer' n = .ok (header', body) := by
      rw [parse, hheader', ok_bind, ← hbody, hparse, ok_bind]
      rfl
    rw [hf.decode_run_of_ok hp, hf'.decode_run_of_ok hp']
    exact ⟨hwithout, body, currentBody_decoded .., currentBody_decoded ..⟩
  | error e =>
    have hp : parse buffer n = .error e := by
      rw [parse, hheader, ok_bind, hparse]
      rfl
    have hp' : parse buffer' n = .error e := by
      rw [parse, hheader', ok_bind, ← hbody, hparse]
      rfl
    obtain ⟨g, hg⟩ := hf.decode_run_of_error hp
    obtain ⟨g', hg'⟩ := hf'.decode_run_of_error hp'
    rw [hg, hg']
    exact ⟨rfl, fun he => parse_meaningful hn hlength (hp.trans (congrArg Except.error he))⟩

/-- Two beacons with an element cut off after its id, before different checksums. -/
theorem decode_sameButCheckSum_cutOff :
    SameButCheckSum
      (decode.run (ofBuffer (0x80 :: List.replicate 35 0 ++ [3, 0, 0, 0, 0]) 41))
      (decode.run (ofBuffer (0x80 :: List.replicate 35 0 ++ [3, 7, 1, 1, 1]) 41)) :=
  decode_sameButCheckSum (by decide) (by decide) (by decide) (by decide) (holds_ofBuffer ..)
    (holds_ofBuffer ..)

end Frame
end SnapDesk
