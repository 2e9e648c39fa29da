import SnapDesk.FrameHistory
import SnapDesk.Node

/-! # What the terminal shows

The program prints its tree once and every frame that it has decoded.  Printing is a
call on the text that the terminal shows; it throws where a number is null, and then
what it has printed before stays.  The numbers of a frame that has been decoded are
there, so printing it only adds to that text (`print_decoded`). -/
namespace SnapDesk
open BigNumber

/-- `printf` of a string. -/
def printf (s : Str) : Method Str Unit := modify (· ++ s)

/-- The beginning of a line, `├─`. -/
def branch : Str := [226, 148, 156, 226, 148, 128]

/-- The beginning of a last line, `└─`. -/
def lastBranch : Str := [226, 148, 148, 226, 148, 128]

/-- A line with the digits of a number. -/
def printNumber (label : Str) (number : BigNumber) : Method Str Unit := do
  let digits ← number.hexString
  printf (label ++ cStr digits ++ lit "\n")

/-- The name of an element. -/
def elementLabel (elementId : UInt8) : Str :=
  if elementId = 0 then lit "SSID-------------------------: "
  else if elementId = 1 then lit "Supported rates--------------: "
  else if elementId = 2 then lit "FH parameter set-------------: "
  else if elementId = 3 then lit "DS parameter set-------------: "
  else if elementId = 4 then lit "CF parameter set-------------: "
  else if elementId = 5 then lit "Traffic Indication Map (TIM)-: "
  else if elementId = 6 then lit "IBSS parameter set-----------: "
  else if elementId = 16 then lit "Challenge text---------------: "
  else lit "0x" ++ hexByte elementId ++ lit "-------------------------: "

/-- The recursion of `Ie_node::print` along the list. -/
def Ie.print : List Ie → Method Str Unit
  | [] => return ()
  | ie :: next => do
      printf (if next = [] then lastBranch else branch)
      printf (elementLabel ie.elementId)
      let value ← if ie.elementId = 0 then ie.elementValue.charString else ie.elementValue.hexString
      printf (cStr value ++ lit "\n")
      Ie.print next

def BeaconBody.print (body : BeaconBody) : Method Str Unit := do
  printf (lit "Beacon body :\n")
  printf (lit "Fixed parameters :\n")
  printNumber (branch ++ lit "Timestamp--------------------: ") body.timestamp
  printNumber (branch ++ lit "Beacon Interval--------------: ") body.beaconInterval
  printNumber (lastBranch ++ lit "Capabilities Information-----: ") body.capabilitiesInformation
  printf (lit "\nIEs :\n")
  Ie.print body.firstIe
  printf (lit "\n")
  printf (lit "==============================\n")

/-- The first part of `Frame::print`. -/
def Header.print (header : Header) : Method Str Unit := do
  printf (lit "Frame Header :\n")
  printNumber (branch ++ lit "Frame control----------------: ") header.frameControl
  printNumber (branch ++ lit "Duration---------------------: ") header.duration
  printNumber (branch ++ lit "Destination address----------: ") header.destinationAddress
  printNumber (branch ++ lit "Source address---------------: ") header.sourceAddress
  printNumber (branch ++ lit "BSSID------------------------: ") header.bssid
  printNumber (branch ++ lit "Sequence control-------------: ") header.sequenceControl
  printNumber (lastBranch ++ lit "Frame check sum (FCS)--------: ") header.frameCheckSum
  printf (lit "\n")

def Frame.print (f : Frame) : Method Str Unit :=
  if f.isDecoded = false then return ()
  else do
    f.header.print
    match f.body with
    | none => printf (lit "No body\n")
    | some id =>
        match f.bodies.live id with
        | some body => body.print
        | none => throw .undefinedBehaviour

/-! ### The outline of a tree -/

/-- `Node::to_string`: one dash for every level. -/
def dashes (depth : Nat) : Str := List.replicate depth 45

def FunctionKind.title : FunctionKind → Str
  | sha256 => lit "SHA()\n"
  | cutBit => lit "Cut_bit()\n"
  | cutByte => lit "Cut_byte()\n"

namespace Node

mutual

def toString (depth : Nat) : Node → Str
  | .root none => lit "No tree"
  | .root (some node) => toString depth node
  | .value v => dashes depth ++ (v ++ lit "\n")
  | .getter fieldName => dashes depth ++ lit "get -> " ++ (fieldName ++ lit "\n")
  | .function kind args => dashes depth ++ kind.title ++ argsToString (depth + 1) args

def argsToString (depth : Nat) : List Node → Str
  | [] => []
  | arg :: args => toString depth arg ++ argsToString depth args

end

end Node

/-! ### Printing adds to the text -/

/-- The call returns, and has added some text. -/
def Prints (m : Method Str Unit) : Prop := ∃ text, ∀ t, m.run t = .ok () (t ++ text)

namespace Prints
variable {m : Method Str Unit} {x : BigNumber}

theorem printf (s : Str) : Prints (SnapDesk.printf s) := ⟨s, fun _ => rfl⟩

theorem nothing : Prints (return ()) := ⟨[], fun t => by rw [List.append_nil]; rfl⟩

theorem seq {k : Unit → Method Str Unit} (hm : Prints m) (hk : Prints (k ())) :
    Prints (m >>= k) := by
  obtain ⟨text, hm⟩ := hm
  obtain ⟨more, hk⟩ := hk
  refine ⟨text ++ more, fun t => ?_⟩
  rw [Method.run_bind_ok (hm t), hk, List.append_assoc]

theorem lift {α : Type} {x : Except Failure α} {a : α} (hx : x = .ok a)
    {k : α → Method Str Unit} (hk : Prints (k a)) : Prints (liftM x >>= k) := by
  obtain ⟨text, hk⟩ := hk
  exact ⟨text, fun t => by rw [hx, Method.run_bind_ok (Method.run_lift_ok a t), hk]⟩

theorem number (label : Str) (hnull : x.isNull = false) : Prints (printNumber label x) :=
  .lift (hexString_eq hnull) (.printf _)

end Prints

theorem Ie.print_prints {ies : List Ie} (h : ∀ ie ∈ ies, ie.elementValue.isNull = false) :
    Prints (Ie.print ies) := by
  induction ies with
  | nil => exact .nothing
  | cons ie next ih =>
    obtain ⟨hie, hnext⟩ := List.forall_mem_cons.mp h
    refine .seq (.printf _) (.seq (.printf _) ?_)
    by_cases hssid : ie.elementId = 0
    · rw [if_pos hssid]
      exact .lift (charString_eq hie) (.seq (.printf _) (ih hnext))
    · rw [if_neg hssid]
      exact .lift (hexString_eq hie) (.seq (.printf _) (ih hnext))

namespace Frame
variable {raw : List UInt8} {size : Nat} {header : Header} {body : BeaconBody}

/-- The fields of a header that was parsed are there. -/
theorem parseHeader_numbers (h : parseHeader raw size = .ok header) :
    ∀ x ∈ [header.frameControl, header.duration, header.destinationAddress, header.sourceAddress,
      header.bssid, header.sequenceControl, header.frameCheckSum], x.isNull = false := by
  obtain ⟨frameControl, h₁, h⟩ := bind_eq_ok h
  obtain ⟨duration, h₂, h⟩ := bind_eq_ok h
  obtain ⟨destinationAddress, h₃, h⟩ := bind_eq_ok h
  obtain ⟨sourceAddress, h₄, h⟩ := bind_eq_ok h
  obtain ⟨bssid, h₅, h⟩ := bind_eq_ok h
  obtain ⟨sequenceControl, h₆, h⟩ := bind_eq_ok h
  obtain ⟨frameCheckSum, h₇, h⟩ := bind_eq_ok h
  cases h
  simp only [List.forall_mem_cons, (fromBuffer_eq_ok h₁).1, (fromBuffer_eq_ok h₂).1,
    (fromBuffer_eq_ok h₃).1, (fromBuffer_eq_ok h₄).1, (fromBuffer_eq_ok h₅).1,
    (fromBuffer_eq_ok h₆).1, (fromBuffer_eq_ok h₇).1]
  simp

/-- What was parsed has gone through both parts. -/
theorem parts_of_parse (h : parse raw size = .ok (header, body)) :
    parseHeader raw size = .ok header ∧ parseBody raw size header = .ok body := by
  obtain ⟨header', hheader, h⟩ := bind_eq_ok h
  obtain ⟨body', hbody, h⟩ := bind_eq_ok h
  cases h
  exact ⟨hheader, hbody⟩

theorem print_body (h : parseBody raw size header = .ok body) : Prints body.print := by
  obtain ⟨_, -, h⟩ := bind_eq_ok h
  obtain ⟨_, -, h⟩ := bind_eq_ok h
  obtain ⟨_, -, h⟩ := bind_eq_ok h
  have hvalues := BeaconBody.decode_values h
  obtain ⟨timestamp, h₁, h⟩ := bind_eq_ok h
  obtain ⟨beaconInterval, h₂, h⟩ := bind_eq_ok h
  obtain ⟨capabilitiesInformation, h₃, h⟩ := bind_eq_ok h
  obtain ⟨ies, -, h⟩ := bind_eq_ok h
  cases h
  exact .seq (.printf _) <| .seq (.printf _) <| .seq (.number _ (fromBuffer_eq_ok h₁).1) <|
    .seq (.number _ (fromBuffer_eq_ok h₂).1) <| .seq (.number _ (fromBuffer_eq_ok h₃).1) <|
    .seq (.printf _) <| .seq (Ie.print_prints hvalues) <| .seq (.printf _) (.printf _)

/-- What is printed of a header and a body. -/
def shown (header : Header) (body : BeaconBody) : Str :=
  match (((ofBuffer [] 0).decoded header body).print).run [] with
  | .ok _ t => t
  | .error _ t => t

theorem print_header (h : parseHeader raw size = .ok header) : Prints header.print := by
  have hnumbers := parseHeader_numbers h
  simp only [List.forall_mem_cons] at hnumbers
  obtain ⟨h₁, h₂, h₃, h₄, h₅, h₆, h₇, -⟩ := hnumbers
  exact .seq (.printf _) <| .seq (.number _ h₁) <| .seq (.number _ h₂) <|
    .seq (.number _ h₃) <| .seq (.number _ h₄) <| .seq (.number _ h₅) <|
    .seq (.number _ h₆) <| .seq (.number _ h₇) (.printf _)

/-- The body of a decoded frame is printed behind its header. -/
theorem print_eq (f : Frame) (header : Header) (body : BeaconBody) :
    (f.decoded header body).print = (do header.print; body.print) := by
  have hlive : (f.decoded header body).bodies.live f.freed.next = some body :=
    Function.update_self ..
  have hbody : (f.decoded header body).body = some f.freed.next := rfl
  rw [print, if_neg (by simp [decoded]), hbody]
  simp only [hlive]
  rfl

/-- **A decoded frame is printed** without an exception. -/
theorem print_decoded (h : parse raw size = .ok (header, body)) (f : Frame) (t : Str) :
    (f.decoded header body).print.run t = .ok () (t ++ shown header body) := by
  obtain ⟨hheader, hbody⟩ := parts_of_parse h
  obtain ⟨text, htext⟩ := (print_header hheader).seq (k := fun _ => body.print) (print_body hbody)
  have hprint (f : Frame) (t : Str) :
      (f.decoded header body).print.run t = .ok () (t ++ text) := by rw [print_eq, htext]
  rw [hprint, shown, hprint, List.nil_append]

end Frame
end SnapDesk
