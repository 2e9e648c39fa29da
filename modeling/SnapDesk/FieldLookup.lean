import SnapDesk.BeaconWire
import SnapDesk.FrameBounds

/-! # Looking fields up

A field that is not the name of a fixed one is looked up among the elements.
`answer` is what the field asks for: the value of the first element whose id is
the number that it denotes in hexadecimal, null if it denotes none or no element
has that id.

`get_value` converts the field with `stoi` and keeps the last byte of the result,
once for every element it passes.  It gives that answer exactly on the fields of
`LooksUp` (`getValue_answer_iff`): a field without a digit and a number too large
for an `int` make `stoi` throw, and the id of a number above 255 may be that of
an element. -/
namespace SnapDesk
open BigNumber

namespace Ie

/-- The value of the first element with a number as its id. -/
def withId (k : Nat) : List Ie → BigNumber
  | [] => .null
  | ie :: next => if ie.elementId.toNat = k then ie.elementValue else withId k next

/-- What a field asks for. -/
def answer (field : Str) (ies : List Ie) : BigNumber :=
  if field ≠ [] ∧ isValidHex field = true then withId (digitsValue 16 field) ies else .null

/-- The fields that are looked up on a list of elements as they should be. -/
def LooksUp (field : Str) (ies : List Ie) : Prop :=
  ies = [] ∨ isValidHex field = false ∨
    field ≠ [] ∧ digitsValue 16 field < 2 ^ 31 ∧
      (digitsValue 16 field < 256 ∨ ∀ ie ∈ ies, ie.elementId.toNat ≠ digitsValue 16 field % 256)

theorem withId_eq_null {k : Nat} {ies : List Ie} (h : ∀ ie ∈ ies, ie.elementId.toNat ≠ k) :
    withId k ies = .null := by
  induction ies with
  | nil => rfl
  | cons ie next ih =>
    rw [withId, if_neg (h ie List.mem_cons_self),
      ih fun ie hie => h ie (List.mem_cons_of_mem _ hie)]

/-- An element that is there is found, with a value that is not null. -/
theorem withId_ne_null {k : Nat} {ies : List Ie}
    (hvalues : ∀ ie ∈ ies, ie.elementValue.isNull = false)
    (h : ∃ ie ∈ ies, ie.elementId.toNat = k) : withId k ies ≠ .null := by
  induction ies with
  | nil => simp at h
  | cons ie next ih =>
    rw [withId]
    by_cases hid : ie.elementId.toNat = k
    · rw [if_pos hid]
      intro hnull
      have hvalue := hvalues ie List.mem_cons_self
      rw [hnull] at hvalue
      cases hvalue
    · rw [if_neg hid]
      refine ih (fun ie hie => hvalues ie (List.mem_cons_of_mem _ hie)) ?_
      obtain ⟨found, hfound, hk⟩ := h
      rcases List.mem_cons.mp hfound with rfl | hnext
      · exact absurd hk hid
      · exact ⟨found, hnext, hk⟩

/-! ### What `get_value` does with a field -/

theorem getValue_other {field : Str} (h : isValidHex field = false) (ies : List Ie) :
    getValue field ies = .ok .null := by
  cases ies with
  | nil => rfl
  | cons ie next => rw [getValue, if_neg (by simp [h])]; rfl

/-- Without a digit, `stoi` throws. -/
theorem getValue_empty (ie : Ie) (next : List Ie) :
    getValue [] (ie :: next) = .error (.invalidArgument (lit "stoi")) := rfl

theorem stoi_hex {field : Str} (hne : field ≠ []) (h : isValidHex field = true) :
    stoi field 16 = if 2 ^ 31 ≤ digitsValue 16 field then .error (.outOfRange (lit "stoi"))
      else .ok (digitsValue 16 field : Int) := by
  simp only [stoi, parseInteger_hex hne (List.all_eq_true.mp h), Bool.false_eq_true, if_false]
  by_cases hlt : 2 ^ 31 ≤ digitsValue 16 field
  · rw [if_pos (by omega), if_pos hlt]
  · rw [if_neg (by omega), if_neg hlt]

/-- With too many, it throws as well. -/
theorem getValue_large {field : Str} (hne : field ≠ []) (h : isValidHex field = true)
    (hlarge : 2 ^ 31 ≤ digitsValue 16 field) (ie : Ie) (next : List Ie) :
    getValue field (ie :: next) = .error (.outOfRange (lit "stoi")) := by
  rw [getValue, if_pos h, stoi_hex hne h, if_pos hlarge]
  rfl

/-- Otherwise the last byte of the number is looked up. -/
theorem getValue_number {field : Str} (hne : field ≠ []) (h : isValidHex field = true)
    (hsmall : digitsValue 16 field < 2 ^ 31) (ies : List Ie) :
    getValue field ies = .ok (withId (digitsValue 16 field % 256) ies) := by
  have hbyte (id : UInt8) :
      id = UInt8.ofNat (((digitsValue 16 field : Nat) : Int) % 256).toNat ↔
        id.toNat = digitsValue 16 field % 256 := by
    have hmod : (((digitsValue 16 field : Nat) : Int) % 256).toNat =
        digitsValue 16 field % 256 := by
      omega
    rw [hmod, ← UInt8.toNat_inj, UInt8.toNat_ofNat', Nat.mod_mod]
  induction ies with
  | nil => rfl
  | cons ie next ih =>
    rw [getValue, if_pos h, stoi_hex hne h, if_neg (by omega), ok_bind, withId]
    by_cases hid : ie.elementId.toNat = digitsValue 16 field % 256
    · rw [if_pos ((hbyte _).mpr hid), if_pos hid]
      rfl
    · rw [if_neg (fun he => hid ((hbyte _).mp he)), if_neg hid, ih]

/-- The last byte of a number finds what the number does, or there is nothing to find. -/
theorem withId_mod_iff {k : Nat} {ies : List Ie}
    (hvalues : ∀ ie ∈ ies, ie.elementValue.isNull = false) :
    withId (k % 256) ies = withId k ies ↔ k < 256 ∨ ∀ ie ∈ ies, ie.elementId.toNat ≠ k % 256 := by
  by_cases hbyte : k < 256
  · rw [Nat.mod_eq_of_lt hbyte]
    exact iff_of_true rfl (.inl hbyte)
  · -- no element has an id above 255
    have hnull : withId k ies = .null :=
      withId_eq_null fun ie _ he => hbyte (he ▸ ie.elementId.toNat_lt)
    rw [hnull, or_iff_right hbyte]
    constructor
    · intro h found hfound hid
      exact withId_ne_null hvalues ⟨found, hfound, hid⟩ h
    · exact withId_eq_null

/-- A field of hexadecimal digits on a list that is not empty. -/
theorem looksUp_cons_iff {field : Str} (hvalid : isValidHex field = true) (ie : Ie)
    (next : List Ie) :
    LooksUp field (ie :: next) ↔ field ≠ [] ∧ digitsValue 16 field < 2 ^ 31 ∧
      (digitsValue 16 field < 256 ∨
        ∀ found ∈ ie :: next, found.elementId.toNat ≠ digitsValue 16 field % 256) := by
  rw [LooksUp, or_iff_right (List.cons_ne_nil ie next), or_iff_right (by simp [hvalid])]

/-- **The answer is given** exactly on the fields of `LooksUp`. -/
theorem getValue_answer_iff {ies : List Ie} (hvalues : ∀ ie ∈ ies, ie.elementValue.isNull = false)
    (field : Str) : getValue field ies = .ok (answer field ies) ↔ LooksUp field ies := by
  rcases ies with _ | ⟨ie, next⟩
  · have hnone : answer field [] = .null := by rw [answer]; split <;> rfl
    exact ⟨fun _ => .inl rfl, fun _ => by rw [hnone]; rfl⟩
  by_cases hvalid : isValidHex field = true
  · rw [looksUp_cons_iff hvalid]
    by_cases hne : field = []
    · subst hne
      rw [getValue_empty]
      exact iff_of_false (fun h => by cases h) fun h => h.1 rfl
    have hanswer : answer field (ie :: next) = withId (digitsValue 16 field) (ie :: next) :=
      if_pos ⟨hne, hvalid⟩
    rw [hanswer]
    by_cases hlarge : 2 ^ 31 ≤ digitsValue 16 field
    · rw [getValue_large hne hvalid hlarge]
      exact iff_of_false (fun h => by cases h) fun h => Nat.not_lt.mpr hlarge h.2.1
    · have hsmall := Nat.lt_of_not_le hlarge
      rw [getValue_number hne hvalid hsmall, Except.ok.injEq, withId_mod_iff hvalues]
      exact ⟨fun h => ⟨hne, hsmall, h⟩, fun h => h.2.2⟩
  · rw [Bool.not_eq_true] at hvalid
    have hanswer : answer field (ie :: next) = .null := if_neg (by simp [hvalid])
    rw [getValue_other hvalid, hanswer]
    exact ⟨fun _ => .inr (.inl hvalid), fun _ => rfl⟩

end Ie
/-! ### The values of a decoded body -/

namespace BeaconBody
variable {buffer : List UInt8} {size : Nat}

/-- Reading a value of at most 255 bytes gives a number with the property. -/
def OfValues (P : BigNumber → Prop) : Prop :=
  ∀ (buffer : List UInt8) (bufferSize : Nat) (elementLength : UInt8) (value : BigNumber),
    fromBufferInv buffer bufferSize elementLength.toNat = .ok value → P value

theorem addIe_forall {P : BigNumber → Prop} (hP : OfValues P) {elementId elementLength : UInt8}
    {startPosition : Nat} {firstIe ies : List Ie} (hvalues : ∀ ie ∈ firstIe, P ie.elementValue)
    (h : addIe buffer size elementId elementLength startPosition firstIe = .ok ies) :
    ∀ ie ∈ ies, P ie.elementValue := by
  unfold addIe at h
  split at h
  · cases h
  · obtain ⟨value, hvalue, h⟩ := bind_eq_ok h
    cases h
    intro ie hie
    rw [Ie.add_eq] at hie
    rcases List.mem_append.mp hie with hold | hnew
    · exact hvalues ie hold
    · rw [List.mem_singleton.mp hnew]
      exact hP _ _ _ value hvalue

/-- What holds of every value that is read holds of the elements, by induction on the rounds. -/
theorem decodeElements_forall {P : BigNumber → Prop} (hP : OfValues P) {rounds cursor : Nat}
    {firstIe ies : List Ie} (hvalues : ∀ ie ∈ firstIe, P ie.elementValue)
    (h : decodeElements buffer size rounds cursor firstIe = .ok ies) :
    ∀ ie ∈ ies, P ie.elementValue := by
  induction rounds generalizing cursor firstIe with
  | zero => cases h
  | succ rounds ih =>
    rw [decodeElements] at h
    split at h
    · obtain ⟨elementId, -, h⟩ := bind_eq_ok h
      obtain ⟨elementLength, -, h⟩ := bind_eq_ok h
      split at h
      · cases h
        exact hvalues
      · split at h
        · cases h
          exact hvalues
        · obtain ⟨added, hadded, h⟩ := bind_eq_ok h
          exact ih (addIe_forall hP hvalues hadded) h
    · cases h
      exact hvalues

/-- So it holds of the elements of a decoded body. -/
theorem decode_forall {P : BigNumber → Prop} (hP : OfValues P) {body : BeaconBody}
    (h : decode buffer size = .ok body) : ∀ ie ∈ body.firstIe, P ie.elementValue := by
  obtain ⟨_, -, h⟩ := bind_eq_ok h
  obtain ⟨_, -, h⟩ := bind_eq_ok h
  obtain ⟨_, -, h⟩ := bind_eq_ok h
  obtain ⟨ies, hies, h⟩ := bind_eq_ok h
  cases h
  exact decodeElements_forall hP (fun ie hie => absurd hie List.not_mem_nil) hies

/-- No element of a decoded body has a null value. -/
theorem decode_values {body : BeaconBody} (h : decode buffer size = .ok body) :
    ∀ ie ∈ body.firstIe, ie.elementValue.isNull = false :=
  decode_forall (P := fun value => value.isNull = false)
    (fun _ _ _ _ hvalue => (fromBufferInv_eq_ok hvalue).1) h

/-- The names that `get_value` answers from the fixed fields of the body. -/
def fixedNames : List Str :=
  [lit "timestamp", lit "beacon_interval", lit "capabilities_information"]

theorem getValue_elements {field : Str} (h : field ∉ fixedNames) (body : BeaconBody) :
    body.getValue field = Ie.getValue field body.firstIe := by
  simp only [fixedNames, List.mem_cons, List.not_mem_nil, or_false, not_or] at h
  rw [getValue, if_neg h.1, if_neg h.2.1, if_neg h.2.2]

end BeaconBody

namespace Frame
variable {f₀ f : Frame} {buffer : List UInt8} {n : Nat}

/-- A `decode` that returns has parsed the raw data. -/
theorem Holds.decoded_of_ok (h : Holds f₀ buffer n) (hdecode : decode.run f₀ = .ok () f) :
    ∃ header body, parse buffer n = .ok (header, body) ∧ f = f₀.decoded header body := by
  cases hp : parse buffer n with
  | ok r =>
    cases hdecode.symm.trans (h.decode_run_of_ok hp)
    exact ⟨r.1, r.2, rfl, rfl⟩
  | error e =>
    obtain ⟨g, hg⟩ := h.decode_run_of_error hp
    cases hdecode.symm.trans hg

/-- **A decoded beacon answers a field** that is not the name of a fixed one
exactly as it should if the field is one of `LooksUp`. -/
theorem getValue_lookup_iff (h : Holds f₀ buffer n) (hdecode : decode.run f₀ = .ok () f)
    {field : Str} (hfield : field ∉ headerNames ++ BeaconBody.fixedNames) :
    ∃ body, f.currentBody = some body ∧
      (f.getValue field = .ok (Ie.answer field body.firstIe) ↔ Ie.LooksUp field body.firstIe) := by
  rw [List.mem_append, not_or] at hfield
  obtain ⟨header, body, hparse, rfl⟩ := h.decoded_of_ok hdecode
  obtain ⟨header', -, hparse⟩ := bind_eq_ok hparse
  obtain ⟨body', hbody, hparse⟩ := bind_eq_ok hparse
  cases hparse
  obtain ⟨_, -, hbody⟩ := bind_eq_ok hbody
  obtain ⟨_, -, hbody⟩ := bind_eq_ok hbody
  obtain ⟨_, -, hbody⟩ := bind_eq_ok hbody
  refine ⟨body, currentBody_decoded .., ?_⟩
  rw [getValue_decoded _ _ _ hfield.1, BeaconBody.getValue_elements hfield.2]
  exact Ie.getValue_answer_iff (BeaconBody.decode_values hbody) field

/-- The frame of `homeBeacon`, decoded. -/
def homeFrame : Frame :=
  (ofBuffer homeBeacon.wire homeBeacon.wire.length).decoded homeBeacon.toHeader homeBeacon.toBody

theorem decode_run_home :
    decode.run (ofBuffer homeBeacon.wire homeBeacon.wire.length) = .ok () homeFrame :=
  decode_run_wire homeBeacon (by decide) (List.prefix_refl _) (holds_ofBuffer ..)

/-- The SSID of that frame. -/
theorem getValue_lookup_iff_home :
    ∃ body, homeFrame.currentBody = some body ∧
      (homeFrame.getValue (lit "0") = .ok (Ie.answer (lit "0") body.firstIe) ↔
        Ie.LooksUp (lit "0") body.firstIe) :=
  getValue_lookup_iff (holds_ofBuffer ..) decode_run_home (by decide)

/-- The field `100` is answered with the SSID, whose id is 0. -/
theorem not_getValue_answer_home :
    ¬ ∀ (f₀ f : Frame) (buffer : List UInt8) (n : Nat) (field : Str), Holds f₀ buffer n →
      decode.run f₀ = .ok () f → field ∉ headerNames ++ BeaconBody.fixedNames →
      ∃ body, f.currentBody = some body ∧ f.getValue field = .ok (Ie.answer field body.firstIe) := by
  intro h
  obtain ⟨body, hbody, hvalue⟩ := h _ homeFrame homeBeacon.wire homeBeacon.wire.length (lit "100")
    (holds_ofBuffer ..) decode_run_home (by decide)
  obtain rfl : homeBeacon.toBody = body :=
    Option.some.inj ((currentBody_decoded ..).symm.trans hbody)
  have hssid : homeFrame.getValue (lit "100") = .ok (ofVector (lit "home")) := by
    rw [homeFrame, getValue_decoded _ _ _ (by decide)]
    rfl
  have hnull : Ie.answer (lit "100") homeBeacon.toBody.firstIe = .null := rfl
  rw [hssid, hnull] at hvalue
  cases hvalue

end Frame
end SnapDesk
