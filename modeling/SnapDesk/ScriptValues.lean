import SnapDesk.FieldLookup
import SnapDesk.HexCodec
import SnapDesk.Node

/-! # Cuts inside cuts

A cut of a script reads its first argument from its text and prints the result again, so
a cut of a cut goes through that text twice.  Nothing is lost on the way: on the text of a
number a cut gives the text of the number that was cut (`getValue_cutBit`,
`getValue_cutByte`), with as many bytes as its bits need, and so cuts compose
(`cuts_compose`).

The fields of a decoded frame have at most 255 bytes, so every bound inside a field can be
written in a script. -/
namespace SnapDesk
open BigNumber

/-! ### How long a field is -/

/-- The length of an element is one byte. -/
theorem BeaconBody.ofValues_length : OfValues fun value => value.number.length ≤ 255 := by
  intro buffer bufferSize elementLength value hvalue
  have hbyte := elementLength.toNat_lt
  rw [(fromBufferInv_eq_ok hvalue).2]
  omega

/-- Where an answer comes from. -/
theorem Ie.getValue_mem {field : Str} {ies : List Ie} {x : BigNumber}
    (h : Ie.getValue field ies = .ok x) :
    x = .null ∨ ∃ ie ∈ ies, x = ie.elementValue := by
  induction ies with
  | nil =>
    cases h
    exact .inl rfl
  | cons ie next ih =>
    rw [Ie.getValue] at h
    split at h
    · obtain ⟨elementId, -, h⟩ := bind_eq_ok h
      split at h
      · cases h
        exact .inr ⟨ie, List.mem_cons_self, rfl⟩
      · rcases ih h with hnull | ⟨found, hfound, hx⟩
        · exact .inl hnull
        · exact .inr ⟨found, List.mem_cons_of_mem ie hfound, hx⟩
    · cases h
      exact .inl rfl

namespace Frame
variable {f₀ f : Frame} {buffer : List UInt8} {size : Nat}

theorem length_header_le {raw : List UInt8} {header : Header}
    (h : parseHeader raw size = .ok header) :
    ∀ x ∈ [header.frameControl, header.duration, header.destinationAddress, header.sourceAddress,
      header.bssid, header.sequenceControl, header.frameCheckSum], x.number.length ≤ 255 := by
  obtain ⟨frameControl, h₁, h⟩ := bind_eq_ok h
  obtain ⟨duration, h₂, h⟩ := bind_eq_ok h
  obtain ⟨destinationAddress, h₃, h⟩ := bind_eq_ok h
  obtain ⟨sourceAddress, h₄, h⟩ := bind_eq_ok h
  obtain ⟨bssid, h₅, h⟩ := bind_eq_ok h
  obtain ⟨sequenceControl, h₆, h⟩ := bind_eq_ok h
  obtain ⟨frameCheckSum, h₇, h⟩ := bind_eq_ok h
  cases h
  simp only [List.forall_mem_cons, length_fromBuffer (by decide) (by decide) h₁,
    length_fromBuffer (by decide) (by decide) h₂, length_fromBuffer (by decide) (by decide) h₃,
    length_fromBuffer (by decide) (by decide) h₄, length_fromBuffer (by decide) (by decide) h₅,
    length_fromBuffer (by decide) (by decide) h₆, length_fromBuffer (by decide) (by decide) h₇]
  decide

theorem length_bodyValue_le {raw : List UInt8} {body : BeaconBody}
    (h : BeaconBody.decode raw size = .ok body) {field : Str} {x : BigNumber}
    (hvalue : body.getValue field = .ok x) : x.number.length ≤ 255 := by
  have helements := BeaconBody.decode_forall BeaconBody.ofValues_length h
  obtain ⟨timestamp, h₁, h⟩ := bind_eq_ok h
  obtain ⟨beaconInterval, h₂, h⟩ := bind_eq_ok h
  obtain ⟨capabilitiesInformation, h₃, h⟩ := bind_eq_ok h
  obtain ⟨ies, -, h⟩ := bind_eq_ok h
  cases h
  unfold BeaconBody.getValue at hvalue
  split_ifs at hvalue
  · cases hvalue
    rw [length_fromBuffer (by decide) (by decide) h₁]
    decide
  · cases hvalue
    rw [length_fromBuffer (by decide) (by decide) h₂]
    decide
  · cases hvalue
    rw [length_fromBuffer (by decide) (by decide) h₃]
    decide
  · rcases Ie.getValue_mem hvalue with rfl | ⟨ie, hie, rfl⟩
    · exact Nat.zero_le _
    · exact helements ie hie

/-- **A field of a decoded frame** has at most 255 bytes. -/
theorem length_getValue_le (h : Holds f₀ buffer size) (hdecode : decode.run f₀ = .ok () f)
    {field : Str} {x : BigNumber} (hvalue : f.getValue field = .ok x) : x.number.length ≤ 255 := by
  obtain ⟨header, body, hparse, rfl⟩ := h.decoded_of_ok hdecode
  obtain ⟨header', hheader, hparse⟩ := bind_eq_ok hparse
  obtain ⟨body', hbody, hparse⟩ := bind_eq_ok hparse
  cases hparse
  have hlength := length_header_le hheader
  -- a name of the header is answered from it, any other from the body
  by_cases hname : field ∈ headerNames
  · have hheld {y : BigNumber} (hy : y ∈ [header.frameControl, header.duration, header.destinationAddress,
        header.sourceAddress, header.bssid, header.sequenceControl, header.frameCheckSum])
        (hyx : (Except.ok y : Except Failure BigNumber) = .ok x) : x.number.length ≤ 255 :=
      Except.ok.inj hyx ▸ hlength y hy
    simp only [headerNames, List.mem_cons, List.not_mem_nil, or_false] at hname
    rcases hname with rfl | rfl | rfl | rfl | rfl | rfl | rfl
    · exact hheld (y := header.frameControl) (by simp) hvalue
    · exact hheld (y := header.duration) (by simp) hvalue
    · exact hheld (y := header.destinationAddress) (by simp) hvalue
    · exact hheld (y := header.sourceAddress) (by simp) hvalue
    · exact hheld (y := header.bssid) (by simp) hvalue
    · exact hheld (y := header.sequenceControl) (by simp) hvalue
    · exact hheld (y := header.frameCheckSum) (by simp) hvalue
  · rw [getValue_decoded _ _ _ hname] at hvalue
    obtain ⟨_, -, hbody⟩ := bind_eq_ok hbody
    obtain ⟨_, -, hbody⟩ := bind_eq_ok hbody
    obtain ⟨_, -, hbody⟩ := bind_eq_ok hbody
    exact length_bodyValue_le hbody hvalue

theorem isDecoded_of_ok (h : Holds f₀ buffer size) (hdecode : decode.run f₀ = .ok () f) :
    f.isDecoded = true := by
  obtain ⟨header, body, -, rfl⟩ := h.decoded_of_ok hdecode
  rfl

end Frame

/-! ### Cuts of texts -/

namespace Node
variable {digest : Str → Vector UInt8 32} {f : Frame}

/-- The text of a number, as it is passed on. -/
def hexText (number : List UInt8) : Str := number.flatMap hexByte

/-- A cut as a script writes it, its bounds in decimal. -/
def cut (kind : FunctionKind) (arg : Node) (first size : Nat) : Node :=
  .function kind [arg, .value (decimal first), .value (decimal size)]

theorem getValue_value (hf : f.isDecoded = true) (v : Str) :
    getValue digest f (.value v) = .ok v := by
  have hcheck : checkFrame f = .ok () := if_neg (by simp [hf])
  rw [getValue, hcheck]
  rfl

/-- A getter of a number gives its text. -/
theorem getValue_getter (hf : f.isDecoded = true) {field : Str} {x : BigNumber}
    (hvalue : f.getValue field = .ok x)
    (hnull : x.isNull = false) : getValue digest f (.getter field) = .ok (hexText x.number) := by
  have hcheck : checkFrame f = .ok () := if_neg (by simp [hf])
  rw [getValue, hcheck, ok_bind, hvalue, ok_bind, if_neg (by simp [hnull]), hexString_eq hnull]
  rfl

/-- The three arguments of a cut. -/
theorem readCutArgs_cut (hf : f.isDecoded = true) (name : Str) {arg : Node} {number : List UInt8}
    (harg : getValue digest f arg = .ok (hexText number)) (hne : number ≠ []) {first size : Nat}
    (hfirst : first < 2 ^ 64) (hsize : size < 2 ^ 64) :
    readCutArgs digest f name ⟨.null, 0, 0, 0⟩ [arg, .value (decimal first), .value (decimal size)] =
      .ok ⟨ofVector number, first, size, 3⟩ := by
  have hnumber : readCutArg name ⟨.null, 0, 0, 0⟩ (hexText number) =
      .ok ⟨ofVector number, 0, 0, 1⟩ := by
    show (fromHexString (hexText number) >>= _) = _
    rw [hexText, fromHexString_hexString hne]
    rfl
  have hbound : readCutArg name ⟨ofVector number, 0, 0, 1⟩ (decimal first) =
      .ok ⟨ofVector number, first, 0, 2⟩ := by
    show (stoul (decimal first) 10 >>= _) = _
    rw [stoul_decimal hfirst]
    rfl
  have hlength : readCutArg name ⟨ofVector number, first, 0, 2⟩ (decimal size) =
      .ok ⟨ofVector number, first, size, 3⟩ := by
    show (stoul (decimal size) 10 >>= _) = _
    rw [stoul_decimal hsize]
    rfl
  rw [readCutArgs, harg, ok_bind, hnumber, ok_bind, readCutArgs, getValue_value hf, ok_bind, hbound,
    ok_bind,
    readCutArgs, getValue_value hf, ok_bind, hlength, ok_bind, readCutArgs]

/-- The number that is left of a cut is printed. -/
theorem applyCut_ok {name : Str} {cutter : Nat → Nat → Method BigNumber Unit} {number : List UInt8}
    {first size : Nat} {x : BigNumber}
    (hrun : (cutter first size).run (ofVector number) = .ok () x) (hnull : x.isNull = false) :
    applyCut name cutter ⟨ofVector number, first, size, 3⟩ = .ok (hexText x.number) := by
  rw [applyCut]
  simp only [hrun, ofVector_isNull]
  exact hexString_eq hnull

/-- **A bit cut of a text** is the text of the number that is cut. -/
theorem getValue_cutBit (hf : f.isDecoded = true) {arg : Node} {number : List UInt8}
    (harg : getValue digest f arg = .ok (hexText number)) (first : Nat) {size : Nat}
    (hsize : 1 ≤ size) (h : first + size ≤ 8 * number.length) (h64 : first + size < 2 ^ 64) :
    ∃ number', getValue digest f (cut .cutBit arg first size) = .ok (hexText number') ∧
      number'.length = (size + 7) / 8 ∧
        BigNumber.value number' = BigNumber.value number >>> first % 2 ^ size := by
  have hne : number ≠ [] := by
    rintro rfl
    rw [List.length_nil] at h
    omega
  have hcheck : checkFrame f = .ok () := if_neg (by simp [hf])
  -- the text is read back, cut and printed again
  obtain ⟨x, hrun, hnull, hlength, hvalue⟩ := cutBit_value (n := ofVector number) rfl hsize h h64
  refine ⟨x.number, ?_, hlength, hvalue⟩
  rw [cut, getValue, hcheck, ok_bind, readCutArgs_cut hf _ harg hne (by omega) (by omega), ok_bind,
    applyCut_ok hrun hnull]

/-- **A byte cut of a text** is the text of its bytes. -/
theorem getValue_cutByte (hf : f.isDecoded = true) {arg : Node} {number : List UInt8}
    (harg : getValue digest f arg = .ok (hexText number)) {first size : Nat} (hsize : 1 ≤ size)
    (h : first + size ≤ number.length) (h64 : first + size < 2 ^ 64) :
    getValue digest f (cut .cutByte arg first size) =
      .ok (hexText ((number.drop (number.length - (first + size))).take size)) := by
  have hne : number ≠ [] := by
    rintro rfl
    rw [List.length_nil] at h
    omega
  have hcheck : checkFrame f = .ok () := if_neg (by simp [hf])
  have hrun := cutByte_ok hsize h h64
  rw [cut, getValue, hcheck, ok_bind, readCutArgs_cut hf _ harg hne (by omega) (by omega), ok_bind,
    applyCut_ok hrun rfl, ofVector_number]

/-! ### Cuts compose -/

/-- Bits of bits. -/
theorem bits_bits (v a b : Nat) {n m : Nat} (h : b + m ≤ n) :
    (v >>> a % 2 ^ n) >>> b % 2 ^ m = v >>> (a + b) % 2 ^ m := by
  apply Nat.eq_of_testBit_eq
  intro i
  rw [Nat.testBit_mod_two_pow, Nat.testBit_mod_two_pow, Nat.testBit_shiftRight,
    Nat.testBit_mod_two_pow,
    Nat.testBit_shiftRight, Nat.testBit_shiftRight, Nat.add_assoc]
  by_cases hi : i < m
  · rw [decide_eq_true hi, decide_eq_true (show b + i < n by omega)]
    rfl
  · rw [decide_eq_false hi]
    rfl

/-- The bytes of a byte cut have the value of the bits there. -/
theorem value_bytes {number : List UInt8} {first size : Nat} (h : first + size ≤ number.length) :
    BigNumber.value ((number.drop (number.length - (first + size))).take size) =
      BigNumber.value number >>> (8 * first) % 2 ^ (8 * size) := by
  have hlength : (number.drop (number.length - (first + size))).length = first + size := by
    rw [List.length_drop]
    omega
  rw [value_take, value_drop, hlength, Nat.sub_sub_self h, Nat.add_sub_cancel, two_pow_eight_mul,
    two_pow_eight_mul,
    Nat.mul_add, Nat.pow_add, Nat.mod_mul_right_div_self, Nat.shiftRight_eq_div_pow]

end Node

open Node in
/-- **Cuts compose in a script**: a cut of a cut is one cut, and a cut of bytes is a cut of
bits. -/
theorem cuts_compose (digest : Str → Vector UInt8 32) {f₀ f : Frame} {buffer : List UInt8}
    {length : Nat} (h : f₀.Holds buffer length) (hdecode : Frame.decode.run f₀ = .ok () f)
    {field : Str} {x : BigNumber} (hvalue : f.getValue field = .ok x) (hnull : x.isNull = false)
    (hk : 1 ≤ x.number.length) :
    (∀ a n b m, 1 ≤ n → 1 ≤ m → a + n ≤ 8 * x.number.length → b + m ≤ n →
      ∃ s, getValue digest f (cut .cutBit (cut .cutBit (.getter field) a n) b m) = .ok s ∧
        getValue digest f (cut .cutBit (.getter field) (a + b) m) = .ok s) ∧
    ∀ a n, 1 ≤ n → a + n ≤ x.number.length →
      ∃ s, getValue digest f (cut .cutByte (.getter field) a n) = .ok s ∧
        getValue digest f (cut .cutBit (.getter field) (8 * a) (8 * n)) = .ok s := by
  have hf := Frame.isDecoded_of_ok h hdecode
  have hshort := Frame.length_getValue_le h hdecode hvalue
  have hgetter : getValue digest f (.getter field) = .ok (hexText x.number) :=
    getValue_getter hf hvalue hnull
  constructor
  · intro a n b m hn hm han hbm
    obtain ⟨inner, hinner, hinnerLength, hinnerValue⟩ :=
      getValue_cutBit hf hgetter a hn han (by omega)
    obtain ⟨nested, hnested, hnestedLength, hnestedValue⟩ :=
      getValue_cutBit hf hinner b hm (by omega) (by omega)
    obtain ⟨direct, hdirect, hdirectLength, hdirectValue⟩ :=
      getValue_cutBit hf hgetter (a + b) hm (by omega) (by omega)
    -- both have the same bits, in as few bytes
    have hsame : nested = direct := by
      refine eq_of_value_eq (hnestedLength.trans hdirectLength.symm) ?_
      rw [hnestedValue, hdirectValue, hinnerValue, bits_bits _ _ _ hbm]
    exact ⟨hexText direct, hsame ▸ hnested, hdirect⟩
  · intro a n hn han
    have hbytes := getValue_cutByte hf hgetter hn han (by omega)
    obtain ⟨bits, hbits, hbitsLength, hbitsValue⟩ :=
      getValue_cutBit hf hgetter (8 * a) (show 1 ≤ 8 * n by omega) (by omega) (by omega)
    have hsame : (x.number.drop (x.number.length - (a + n))).take n = bits := by
      refine eq_of_value_eq ?_ ?_
      · rw [hbitsLength, List.length_take, List.length_drop]
        omega
      · rw [hbitsValue, value_bytes han]
    exact ⟨_, hbytes, hsame ▸ hbits⟩

/-- Bits 5 to 9 of a BSSID, in one cut and in two, and two of its bytes. -/
theorem cuts_compose_home :
    (∃ s, Node.getValue (fun _ => Vector.replicate 32 0) Frame.homeFrame
        (Node.cut .cutBit (Node.cut .cutBit (.getter (lit "bssid")) 3 11) 2 5) = .ok s ∧
      Node.getValue (fun _ => Vector.replicate 32 0) Frame.homeFrame
        (Node.cut .cutBit (.getter (lit "bssid")) (3 + 2) 5) = .ok s) ∧
    ∃ s, Node.getValue (fun _ => Vector.replicate 32 0) Frame.homeFrame
        (Node.cut .cutByte (.getter (lit "bssid")) 1 2) = .ok s ∧
      Node.getValue (fun _ => Vector.replicate 32 0) Frame.homeFrame
        (Node.cut .cutBit (.getter (lit "bssid")) (8 * 1) (8 * 2)) = .ok s := by
  have h := cuts_compose (fun _ => Vector.replicate 32 0) (Frame.holds_ofBuffer ..) Frame.decode_run_home
    (show Frame.homeFrame.getValue (lit "bssid") = .ok Frame.homeBeacon.toHeader.bssid from rfl) rfl
      (by decide)
  exact ⟨h.1 3 11 2 5 (by decide) (by decide) (by decide) (by decide), h.2 1 2 (by decide) (by decide)⟩

end SnapDesk
