import Mathlib.Data.List.Infix
import SnapDesk.BigNumber

/-! # The body of a beacon

`ie.cpp`, `management_body.cpp` and the checks of `Body` in `frame.cpp`.  A body is
three fixed fields and a linked list of information elements; the list is a
`List`, the null pointer being the empty one.  The pointer into the raw buffer
and the size that the constructor keeps serve `decode` only, so they are its
arguments.

The loop over the elements runs as often as its bound on nested calls lets it;
`decodeElements_finishes` shows that the size of the body is bound enough. -/
namespace SnapDesk

/-- A node of the linked list of information elements. -/
structure Ie where
  elementId : UInt8
  elementValue : BigNumber
  deriving DecidableEq, Repr

namespace Ie

def isValidHex (str : Str) : Bool := str.all isXDigit

/-- The recursion of `Ie_node::add` to the end of the list. -/
def add (newElement : Ie) : List Ie → List Ie
  | [] => [newElement]
  | ie :: next => ie :: add newElement next

/-- The recursion of `Ie_node::get_value` along the list. -/
def getValue (field : Str) : List Ie → Except Failure BigNumber
  | [] => .ok .null
  | ie :: next =>
      if isValidHex field then do
        let elementId ← stoi field 16
        if ie.elementId = UInt8.ofNat (elementId % 256).toNat then return ie.elementValue
        else getValue field next
      else return .null

theorem add_eq (newElement : Ie) (ies : List Ie) : add newElement ies = ies ++ [newElement] := by
  induction ies with
  | nil => rfl
  | cons ie next ih => rw [add, ih, List.cons_append]

end Ie

/-- A decoded `Beacon_body`. -/
structure BeaconBody where
  timestamp : BigNumber
  beaconInterval : BigNumber
  capabilitiesInformation : BigNumber
  firstIe : List Ie
  deriving DecidableEq, Repr

namespace BeaconBody
open BigNumber

def addIe (rawBodyBuffer : List UInt8) (rawBufferSize : Nat) (elementId elementLength : UInt8)
    (startPosition : Nat) (firstIe : List Ie) : Except Failure (List Ie) :=
  if rawBufferSize < startPosition + elementLength.toNat then
    .error (.invalidArgument (lit "element outside buffer"))
  else do
    let value ← fromBufferInv (rawBodyBuffer.drop startPosition) (rawBufferSize - startPosition)
      elementLength.toNat
    return Ie.add ⟨elementId, value⟩ firstIe

/-- The loop over the elements, with at most the given number of rounds. -/
def decodeElements (rawBodyBuffer : List UInt8) (rawBufferSize : Nat) :
    Nat → Nat → List Ie → Except Failure (List Ie)
  | 0, _, _ => .error .unfinished
  | rounds + 1, cursor, firstIe =>
      if cursor < rawBufferSize then do
        let elementId ← readByte rawBodyBuffer cursor
        let elementLength ← readByte rawBodyBuffer (cursor + 1)
        -- Early stopping if end of body reached
        if elementLength = 0 then return firstIe
        -- Stop if buffer overflow
        else if ¬ elementLength.toNat + cursor < rawBufferSize then return firstIe
        else do
          let firstIe ← addIe rawBodyBuffer rawBufferSize elementId elementLength (cursor + 2) firstIe
          decodeElements rawBodyBuffer rawBufferSize rounds (cursor + (2 + elementLength.toNat)) firstIe
      else return firstIe

/-- `Beacon_body::decode`.  The remaining length is subtracted from only after
`from_buffer` has checked it. -/
def decode (rawBodyBuffer : List UInt8) (rawBufferSize : Nat) : Except Failure BeaconBody := do
  let timestamp ← fromBuffer rawBodyBuffer rawBufferSize 8
  let beaconInterval ← fromBuffer (rawBodyBuffer.drop 8) (rawBufferSize - 8) 2
  let capabilitiesInformation ← fromBuffer (rawBodyBuffer.drop 10) (rawBufferSize - 10) 2
  let firstIe ← decodeElements rawBodyBuffer rawBufferSize (rawBufferSize + 1) 12 []
  return { timestamp, beaconInterval, capabilitiesInformation, firstIe }

def getValue (body : BeaconBody) (field : Str) : Except Failure BigNumber :=
  if field = lit "timestamp" then .ok body.timestamp
  else if field = lit "beacon_interval" then .ok body.beaconInterval
  else if field = lit "capabilities_information" then .ok body.capabilitiesInformation
  else Ie.getValue field body.firstIe

/-- What `Body::get_body` and the `Body` constructor check before there is a
body to decode. -/
def checkBody (rawBufferSize type subType : Nat) : Except Failure Unit :=
  if type = 0 ∧ subType = 8 then
    if rawBufferSize < 1 then
      .error (.invalidArgument (lit "Buffer size must be greater than 0"))
    else .ok ()
  else .error (.invalidArgument (lit "No body found for type " ++ decimal type ++
    lit " and sub_type " ++ decimal subType))

/-! ### The element loop ends -/

theorem readByte_ne_unfinished (buffer : List UInt8) (i : Nat) :
    readByte buffer i ≠ .error .unfinished := by
  unfold readByte
  cases buffer[i]? <;> simp

theorem readUp_ne_unfinished (buffer : List UInt8) (i count : Nat) :
    readUp buffer i count ≠ .error .unfinished := by
  induction count generalizing i with
  | zero => simp [readUp]
  | succ count ih =>
    exact bind_ne_error (readByte_ne_unfinished _ _) fun _ _ =>
      bind_ne_error (ih _) fun _ _ h => by cases h

theorem addIe_ne_unfinished (rawBodyBuffer : List UInt8) (rawBufferSize : Nat)
    (elementId elementLength : UInt8) (startPosition : Nat) (firstIe : List Ie) :
    addIe rawBodyBuffer rawBufferSize elementId elementLength startPosition firstIe ≠
      .error .unfinished := by
  unfold addIe
  split
  · simp
  · refine bind_ne_error ?_ fun _ _ h => by cases h
    unfold fromBufferInv
    split
    · simp
    · exact bind_ne_error (readUp_ne_unfinished _ _ _) fun _ _ h => by cases h

/-- Every round moves the cursor forward, so one round more than there are bytes
left is enough. -/
theorem decodeElements_finishes (rawBodyBuffer : List UInt8) (rawBufferSize : Nat)
    {rounds cursor : Nat} (h : rawBufferSize ≤ cursor + rounds) (firstIe : List Ie) :
    decodeElements rawBodyBuffer rawBufferSize (rounds + 1) cursor firstIe ≠
      .error .unfinished := by
  induction rounds generalizing cursor firstIe with
  | zero =>
    rw [decodeElements, if_neg (by omega)]
    intro h'; cases h'
  | succ rounds ih =>
    rw [decodeElements]
    split
    · refine bind_ne_error (readByte_ne_unfinished _ _) fun elementId _ => ?_
      refine bind_ne_error (readByte_ne_unfinished _ _) fun elementLength _ => ?_
      split
      · intro h'; cases h'
      · split
        · intro h'; cases h'
        · exact bind_ne_error (addIe_ne_unfinished _ _ _ _ _ _) fun _ _ => ih (by omega) _
    · intro h'; cases h'

/-! ### More of the buffer changes nothing that was read -/

section Extends
variable {buffer buffer' : List UInt8}

theorem addIe_extends (h : buffer <+: buffer') (size : Nat) (elementId elementLength : UInt8)
    (startPosition : Nat) (firstIe : List Ie) :
    Extends (addIe buffer size elementId elementLength startPosition firstIe)
      (addIe buffer' size elementId elementLength startPosition firstIe) :=
  .ite (.refl _) ((fromBufferInv_extends (List.IsPrefix.drop h _) _ _).bind fun _ => .refl _)

theorem decodeElements_extends (h : buffer <+: buffer') (size rounds cursor : Nat)
    (firstIe : List Ie) :
    Extends (decodeElements buffer size rounds cursor firstIe)
      (decodeElements buffer' size rounds cursor firstIe) := by
  induction rounds generalizing cursor firstIe with
  | zero => exact .refl _
  | succ rounds ih =>
    refine .ite ((readByte_extends h _).bind fun elementId => ?_) (.refl _)
    refine (readByte_extends h _).bind fun elementLength => .ite (.refl _) (.ite (.refl _) ?_)
    exact (addIe_extends h _ _ _ _ _).bind fun _ => ih _ _

theorem decode_extends (h : buffer <+: buffer') (size : Nat) :
    Extends (decode buffer size) (decode buffer' size) :=
  (fromBuffer_extends h _ _).bind fun _ =>
    (fromBuffer_extends (List.IsPrefix.drop h _) _ _).bind fun _ =>
    (fromBuffer_extends (List.IsPrefix.drop h _) _ _).bind fun _ =>
      (decodeElements_extends h _ _ _ _).bind fun _ => .refl _

end Extends

end BeaconBody
end SnapDesk
