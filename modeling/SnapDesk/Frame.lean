import SnapDesk.BeaconBody
import SnapDesk.Communicator

/-! # Frames

`frame.cpp`.  A frame owns a raw buffer, seven header fields and a pointer to a
body.  Bodies live on a heap of their own, so that a pointer can dangle: a body
that is deleted is gone, and deleting or using it again has no meaning.

A call of `decode` that throws leaves the frame as it was at that point.  What
`decode` computes from the raw data alone is `parse`: on a frame with fresh raw
data whose body pointer does not dangle, `decode` succeeds or throws exactly as
`parse` does (`decode_computes`). -/
namespace SnapDesk
open BigNumber

/-- `BEACON_FRAME_MAX_LENGTH`, the size of the raw buffer. -/
def beaconFrameMaxLength : Nat := 2346

/-- The header fields of a frame. -/
structure Header where
  frameControl : BigNumber
  duration : BigNumber
  destinationAddress : BigNumber
  sourceAddress : BigNumber
  bssid : BigNumber
  sequenceControl : BigNumber
  frameCheckSum : BigNumber
  deriving DecidableEq, Repr

/-- The bodies that have been allocated and not deleted. -/
structure Bodies where
  live : Nat → Option BeaconBody
  next : Nat

namespace Bodies

def store (bodies : Bodies) (id : Nat) (body : BeaconBody) : Bodies :=
  { bodies with live := Function.update bodies.live id (some body) }

def delete (bodies : Bodies) (id : Nat) : Bodies :=
  { bodies with live := Function.update bodies.live id none }

/-- One more body, its fields as the declarations initialise them. -/
def alloc (bodies : Bodies) : Bodies :=
  { bodies.store bodies.next ⟨.default, .default, .default, []⟩ with next := bodies.next + 1 }

/-- `Body::get_body`. -/
def getBody (rawBodyBuffer : List UInt8) (rawBufferSize type subType : Nat) :
    Method Bodies Nat := do
  BeaconBody.checkBody rawBufferSize type subType
  let bodies ← get
  set bodies.alloc
  -- If this throws, the new body is lost
  let body ← BeaconBody.decode rawBodyBuffer rawBufferSize
  set (bodies.alloc.store bodies.next body)
  return bodies.next

end Bodies

/-- `Frame`, without its communicator. -/
structure Frame where
  rawFrameBuffer : List UInt8
  rawBufferSize : Nat
  rawFrameSize : Nat
  isDecoded : Bool
  hasRawData : Bool
  header : Header
  body : Option Nat
  bodies : Bodies

namespace Frame

/-- The constructor, on whatever the allocated buffer holds. -/
def new (memory : List UInt8) : Frame where
  rawFrameBuffer := memory
  rawBufferSize := beaconFrameMaxLength
  rawFrameSize := 0
  isDecoded := false
  hasRawData := false
  header := ⟨.null, .null, .null, .null, .null, .null, .null⟩
  body := none
  bodies := ⟨fun _ => none, 0⟩

/-- `update_raw_data`, from a device given as in `inBuffer`. -/
def updateRawData (fileName : Str) (device : Option (List (List UInt8))) :
    Method Frame Unit := do
  let f ← get
  let (buffer, size) ← inBuffer fileName device f.rawFrameBuffer f.rawBufferSize
  set { f with rawFrameBuffer := buffer, rawFrameSize := size, isDecoded := false }
  if f.rawBufferSize < size then
    throw (.runtimeError (lit "Size of the frame greater than the buffer"))
  else modify fun f => { f with hasRawData := true }

def withHeader (f : Frame) (header : Header) : Frame := { f with header := header }

def withBodies (f : Frame) (bodies : Bodies) : Frame := { f with bodies := bodies }

/-- One field of the header: `from_buffer` at the cursor, with what remains of
the frame there. -/
def readField (cursor width : Nat) (assign : BigNumber → Header → Header) :
    Method Frame Unit := do
  let f ← get
  let value ← fromBuffer (f.rawFrameBuffer.drop cursor) (f.rawFrameSize - cursor) width
  set (f.withHeader (assign value f.header))

/-- The checksum: the last four bytes of the frame, whatever remains. -/
def readCheckSum : Method Frame Unit := do
  let f ← get
  let value ← fromBuffer (f.rawFrameBuffer.drop (f.rawFrameSize - 4)) 4 4
  set (f.withHeader { f.header with frameCheckSum := value })

/-- `if(body) delete body;`: the pointer keeps its value. -/
def deleteBody : Method Frame Unit := do
  let f ← get
  match f.body with
  | none => return ()
  | some id =>
      if (f.bodies.live id).isSome then set (f.withBodies (f.bodies.delete id))
      else throw .undefinedBehaviour

/-- A copy of a number, cut to some of its bits, as a `size_t`. -/
def cutCopy (n : BigNumber) (first size : Nat) : Except Failure Nat :=
  match (cutBit first size).run n.copy with
  | .ok _ tmp => tmp.toSizeT
  | .error e _ => .error e

theorem cutCopy_type (b₁ b₀ : UInt8) :
    cutCopy (ofVector [b₁, b₀]) 2 2 = .ok ((b₀ >>> 2) &&& 3).toNat := by
  rw [cutCopy, show (ofVector [b₁, b₀]).copy = ofVector [b₁, b₀] from rfl, cutBit_two_two]
  exact toSizeT_byte _

theorem cutCopy_subType (b₁ b₀ : UInt8) :
    cutCopy (ofVector [b₁, b₀]) 4 4 = .ok (b₀ >>> 4).toNat := by
  rw [cutCopy, show (ofVector [b₁, b₀]).copy = ofVector [b₁, b₀] from rfl, cutBit_four_four]
  exact toSizeT_byte _

/-- A call on the heap of bodies. -/
def onBodies {α : Type} (m : Method Bodies α) : Method Frame α := fun f =>
  match m.run f.bodies with
  | .ok a bodies => .ok a (f.withBodies bodies)
  | .error e bodies => .error e (f.withBodies bodies)

/-- The first part of `decode`: the MAC header. -/
def readHeader : Method Frame Unit := do
  readField 0 2 fun v h => { h with frameControl := v }
  readField 2 2 fun v h => { h with duration := v }
  readField 4 6 fun v h => { h with destinationAddress := v }
  readField 10 6 fun v h => { h with sourceAddress := v }
  readField 16 6 fun v h => { h with bssid := v }
  readField 22 2 fun v h => { h with sequenceControl := v }
  readCheckSum

/-- The second part of `decode`: the old body goes before the new one is looked
for.  The last four bytes of what remains are the checksum. -/
def makeBody : Method Frame Unit := do
  deleteBody
  let f ← get
  let type ← cutCopy f.header.frameControl 2 2
  let subType ← cutCopy f.header.frameControl 4 4
  let body ← onBodies (Bodies.getBody (f.rawFrameBuffer.drop 24) (sub64 (f.rawFrameSize - 24) 4)
    type subType)
  modify fun f => { f with body := some body, isDecoded := true }

def decode : Method Frame Unit := do
  let f ← get
  if f.hasRawData = false then throw (.runtimeError (lit "No raw data given"))
  else if f.isDecoded then return ()
  else do
    readHeader
    makeBody

def getValue (f : Frame) (field : Str) : Except Failure BigNumber :=
  if f.isDecoded = false then
    .error (.runtimeError (lit "Frame must be encoded to get header value"))
  else if field = lit "frame_control" then .ok f.header.frameControl
  else if field = lit "duration" then .ok f.header.duration
  else if field = lit "destination_address" then .ok f.header.destinationAddress
  else if field = lit "source_address" then .ok f.header.sourceAddress
  else if field = lit "bssid" then .ok f.header.bssid
  else if field = lit "sequence_control" then .ok f.header.sequenceControl
  else if field = lit "frame_check_sum" then .ok f.header.frameCheckSum
  else match f.body with
    | none => .ok .null
    | some id =>
        match f.bodies.live id with
        | some body => body.getValue field
        | none => .error .undefinedBehaviour

/-! ### What `decode` computes -/

/-- Reading a device that can be read, and whose frame fits the buffer. -/
theorem updateRawData_run {fileName : Str} {device : Option (List (List UInt8))} {f : Frame}
    {buffer : List UInt8} {size : Nat}
    (hin : inBuffer fileName device f.rawFrameBuffer f.rawBufferSize = .ok (buffer, size))
    (hsize : size ≤ f.rawBufferSize) :
    (updateRawData fileName device).run f = .ok () { f with
      rawFrameBuffer := buffer
      rawFrameSize := size
      isDecoded := false
      hasRawData := true } := by
  rw [updateRawData, Method.run_bind_ok (Method.run_get f), hin,
    Method.run_bind_ok (Method.run_lift_ok _ _), Method.run_bind_ok (Method.run_set _ _),
    if_neg (by omega)]
  rfl

/-- The header that raw data of the given size start with. -/
def parseHeader (raw : List UInt8) (size : Nat) : Except Failure Header := do
  let frameControl ← fromBuffer (raw.drop 0) (size - 0) 2
  let duration ← fromBuffer (raw.drop 2) (size - 2) 2
  let destinationAddress ← fromBuffer (raw.drop 4) (size - 4) 6
  let sourceAddress ← fromBuffer (raw.drop 10) (size - 10) 6
  let bssid ← fromBuffer (raw.drop 16) (size - 16) 6
  let sequenceControl ← fromBuffer (raw.drop 22) (size - 22) 2
  let frameCheckSum ← fromBuffer (raw.drop (size - 4)) 4 4
  return { frameControl, duration, destinationAddress, sourceAddress, bssid, sequenceControl,
           frameCheckSum }

/-- The body that follows a header. -/
def parseBody (raw : List UInt8) (size : Nat) (header : Header) : Except Failure BeaconBody := do
  let type ← cutCopy header.frameControl 2 2
  let subType ← cutCopy header.frameControl 4 4
  BeaconBody.checkBody (sub64 (size - 24) 4) type subType
  BeaconBody.decode (raw.drop 24) (sub64 (size - 24) 4)

/-- The header and the body that raw data of the given size decode to. -/
def parse (raw : List UInt8) (size : Nat) : Except Failure (Header × BeaconBody) := do
  let header ← parseHeader raw size
  let body ← parseBody raw size header
  return (header, body)

/-- The body pointer is null or points to a live body. -/
def BodyLive (f : Frame) : Prop := ∀ id, f.body = some id → (f.bodies.live id).isSome

/-- The heap once the old body is deleted. -/
def freed (f : Frame) : Bodies :=
  match f.body with
  | none => f.bodies
  | some id => f.bodies.delete id

/-- The frame that a successful `decode` leaves behind. -/
def decoded (f : Frame) (header : Header) (body : BeaconBody) : Frame :=
  { f with
    header := header
    body := some f.freed.next
    isDecoded := true
    bodies := f.freed.alloc.store f.freed.next body }

section Decode
open Method

theorem readField_computes (f : Frame) (h : Header) (cursor width : Nat)
    (assign : BigNumber → Header → Header) :
    Computes (readField cursor width assign) (f.withHeader h)
      (fromBuffer (f.rawFrameBuffer.drop cursor) (f.rawFrameSize - cursor) width)
      (fun _ => ()) fun v => f.withHeader (assign v h) := by
  refine Computes.of_run ?_ (run_bind_ok (run_get _))
  exact (Computes.lift _ _).seq fun _ => rfl

theorem readCheckSum_computes (f : Frame) (h : Header) :
    Computes readCheckSum (f.withHeader h)
      (fromBuffer (f.rawFrameBuffer.drop (f.rawFrameSize - 4)) 4 4)
      (fun _ => ()) fun v => f.withHeader { h with frameCheckSum := v } := by
  refine Computes.of_run ?_ (run_bind_ok (run_get _))
  exact (Computes.lift _ _).seq fun _ => rfl

theorem readHeader_computes (f : Frame) :
    Computes readHeader f (parseHeader f.rawFrameBuffer f.rawFrameSize)
      (fun _ => ()) fun header => f.withHeader header := by
  refine (readField_computes f f.header 0 2 _).bind fun frameControl => ?_
  refine (readField_computes f _ 2 2 _).bind fun duration => ?_
  refine (readField_computes f _ 4 6 _).bind fun destinationAddress => ?_
  refine (readField_computes f _ 10 6 _).bind fun sourceAddress => ?_
  refine (readField_computes f _ 16 6 _).bind fun bssid => ?_
  refine (readField_computes f _ 22 2 _).bind fun sequenceControl => ?_
  exact (readCheckSum_computes f _).map (fun _ => rfl) fun _ => rfl

theorem deleteBody_run {f : Frame} (h : f.BodyLive) :
    deleteBody.run f = .ok () (f.withBodies f.freed) := by
  rw [deleteBody, run_bind_ok (run_get f)]
  rcases hb : f.body with _ | id
  · have hfreed : f.freed = f.bodies := by rw [freed, hb]
    rw [hfreed]
    rfl
  · have hfreed : f.freed = f.bodies.delete id := by rw [freed, hb]
    simp only [h id hb, if_true, run_set, hfreed]

theorem getBody_computes (bodies : Bodies) (raw : List UInt8) (size type subType : Nat) :
    Computes (Bodies.getBody raw size type subType) bodies
      (do BeaconBody.checkBody size type subType; BeaconBody.decode raw size)
      (fun _ => bodies.next) fun body => bodies.alloc.store bodies.next body := by
  refine (Computes.lift _ bodies).bind fun _ => ?_
  refine Computes.of_run ?_ (run_bind_ok (run_get _))
  refine Computes.of_run ?_ (run_bind_ok (run_set _ _))
  exact (Computes.lift _ _).seq fun _ => rfl

theorem onBodies_computes {α β : Type} {m : Method Bodies β} {f : Frame} {y : Except Failure α}
    {ret : α → β} {st : α → Bodies} (h : Computes m f.bodies y ret st) :
    Computes (onBodies m) f y ret fun a => f.withBodies (st a) := by
  cases y with
  | ok a =>
    have hm : m.run f.bodies = .ok (ret a) (st a) := h
    show EStateM.run _ _ = _
    rw [EStateM.run, onBodies, hm]
  | error e =>
    obtain ⟨bodies, hm⟩ := h
    exact ⟨f.withBodies bodies, by rw [EStateM.run, onBodies, hm]⟩

theorem makeBody_computes {f : Frame} (hbody : f.BodyLive) :
    Computes makeBody f (parseBody f.rawFrameBuffer f.rawFrameSize f.header)
      (fun _ => ()) fun body => f.decoded f.header body := by
  have hdelete := deleteBody_run hbody
  refine Computes.of_run ?_ (run_bind_ok hdelete)
  refine Computes.of_run ?_ (run_bind_ok (run_get _))
  refine (Computes.lift _ _).bind fun type => (Computes.lift _ _).bind fun subType => ?_
  exact (onBodies_computes (getBody_computes _ _ _ _ _)).seq fun _ => rfl

/-- **`decode` computes `parse`**, on fresh raw data and with no dangling body. -/
theorem decode_computes {f : Frame} (hraw : f.hasRawData = true) (hdec : f.isDecoded = false)
    (hbody : f.BodyLive) :
    Computes decode f (parse f.rawFrameBuffer f.rawFrameSize)
      (fun _ => ()) fun r => f.decoded r.1 r.2 := by
  have hrun : decode.run f = (do readHeader; makeBody : Method Frame Unit).run f := by
    rw [decode, run_bind_ok (run_get f), if_neg (by simp [hraw]), if_neg (by simp [hdec])]
  refine Computes.of_run ?_ hrun
  refine (readHeader_computes f).bind fun header => ?_
  exact (makeBody_computes (f := f.withHeader header) hbody).map (fun _ => rfl) fun _ => rfl

end Decode

/-- The frame is about to decode fresh raw data: `n` bytes at the front of a
buffer. -/
structure Holds (f : Frame) (buffer : List UInt8) (n : Nat) : Prop where
  buffer_eq : f.rawFrameBuffer = buffer
  size_eq : f.rawFrameSize = n
  hasRawData : f.hasRawData = true
  fresh : f.isDecoded = false
  bodyLive : f.BodyLive

theorem Holds.decode_run {f : Frame} {buffer : List UInt8} {n : Nat} (h : Holds f buffer n) :
    Method.Computes decode f (parse buffer n) (fun _ => ()) fun r => f.decoded r.1 r.2 := by
  rw [← h.buffer_eq, ← h.size_eq]
  exact decode_computes h.hasRawData h.fresh h.bodyLive

theorem Holds.decode_run_of_ok {f : Frame} {buffer : List UInt8} {n : Nat} (h : Holds f buffer n)
    {r : Header × BeaconBody} (hparse : parse buffer n = .ok r) :
    decode.run f = .ok () (f.decoded r.1 r.2) := by
  have hrun := h.decode_run
  rw [hparse] at hrun
  exact hrun

theorem Holds.decode_run_of_error {f : Frame} {buffer : List UInt8} {n : Nat} (h : Holds f buffer n)
    {e : Failure} (hparse : parse buffer n = .error e) : ∃ g, decode.run f = .error e g := by
  have hrun := h.decode_run
  rw [hparse] at hrun
  exact hrun

/-- A frame about to decode what a buffer holds. -/
def ofBuffer (buffer : List UInt8) (n : Nat) : Frame :=
  { new buffer with rawFrameSize := n, hasRawData := true }

theorem holds_ofBuffer (buffer : List UInt8) (n : Nat) : Holds (ofBuffer buffer n) buffer n where
  buffer_eq := rfl
  size_eq := rfl
  hasRawData := rfl
  fresh := rfl
  bodyLive := fun _ h => by cases h

/-- The names that `get_value` answers from the header. -/
def headerNames : List Str :=
  [lit "frame_control", lit "duration", lit "destination_address", lit "source_address",
   lit "bssid", lit "sequence_control", lit "frame_check_sum"]

/-- Any other name is looked up in the body. -/
theorem getValue_decoded (f : Frame) (header : Header) (body : BeaconBody) {field : Str}
    (h : field ∉ headerNames) : (f.decoded header body).getValue field = body.getValue field := by
  simp only [headerNames, List.mem_cons, List.not_mem_nil, or_false, not_or] at h
  obtain ⟨h₁, h₂, h₃, h₄, h₅, h₆, h₇⟩ := h
  have hlive : (f.decoded header body).bodies.live f.freed.next = some body :=
    Function.update_self ..
  rw [getValue, if_neg (by simp [decoded]), if_neg h₁, if_neg h₂, if_neg h₃, if_neg h₄, if_neg h₅,
    if_neg h₆, if_neg h₇]
  show (match (f.decoded header body).bodies.live f.freed.next with
    | some body => body.getValue field
    | none => .error .undefinedBehaviour) = _
  rw [hlive]

end Frame
end SnapDesk
