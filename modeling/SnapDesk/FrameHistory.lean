import SnapDesk.BeaconWire
import SnapDesk.FieldLookup
import SnapDesk.Transition

/-! # Histories of a frame

A frame is read from the device and decoded again and again, and any of these
calls may throw.  A history is the list of the calls with what became of them; a
call without a meaning ends it, for it leaves no frame behind.

`Effect` says once what a call can do to a frame, and both invariants are derived
from it.  A decoded frame is what a fresh frame would have decoded from the last
raw data (`answersFresh_of_run`), whatever has failed before.  The body is another
matter: `decode` deletes the old one before it knows that there is a new one, so
the pointer stays valid exactly as long as no frame fails behind its header while
there is a body (`bodies_live_iff`). -/
namespace SnapDesk
open BigNumber Transition

/-! ### Reading the device -/

theorem fillFrom_le (count : Nat) (file : DeviceStream) (buffer : List UInt8) (byteRead : Nat) :
    (fillFrom count file buffer byteRead).2 ≤ byteRead + count := by
  induction count generalizing file buffer byteRead with
  | zero => exact Nat.le_refl _
  | succ count ih =>
    rw [fillFrom]
    cases file.get with
    | none => exact Nat.le_add_right _ _
    | some got =>
      obtain ⟨c, file⟩ := got
      have hrest := ih file (buffer.set byteRead c) (byteRead + 1)
      exact Nat.le_trans hrest (by omega)

/-- No more is read than the buffer can hold. -/
theorem inBuffer_le {fileName : Str} {device : Option (List (List UInt8))}
    {buffer buffer' : List UInt8}
    {bufferSize size : Nat} (h : inBuffer fileName device buffer bufferSize = .ok (buffer', size)) :
    size ≤ bufferSize := by
  match device with
  | none => cases h
  | some reads =>
    have hle := fillFrom_le bufferSize ⟨[], reads⟩ buffer 0
    rw [show fillFrom bufferSize ⟨[], reads⟩ buffer 0 = (buffer', size) from Except.ok.inj h] at hle
    omega

namespace Frame

/-- The destructor, but for the raw buffer. -/
def destroy : Method Frame Unit := deleteBody

end Frame

/-- A call on a frame. -/
inductive FrameCall where
  | updateRawData (device : Option (List (List UInt8)))
  | decode

def FrameCall.action (fileName : Str) : FrameCall → Method Frame Unit
  | updateRawData device => Frame.updateRawData fileName device
  | decode => Frame.decode

/-- A call and whether it has returned or thrown. -/
structure FrameEvent where
  call : FrameCall
  returned : Bool

namespace Frame

/-- One call. -/
inductive Step (fileName : Str) : Frame → FrameEvent → Frame → Prop
  | returns {f g : Frame} {call : FrameCall} (h : (call.action fileName).run f = .ok () g) :
      Step fileName f ⟨call, true⟩ g
  | throws {f g : Frame} {call : FrameCall} {e : Failure}
      (h : (call.action fileName).run f = .error e g) (he : e.isException = true) :
      Step fileName f ⟨call, false⟩ g

/-! ### What a call does -/

section
variable {f g : Frame} {e : Failure}

/-- Reading a field writes the header, and nothing if it throws. -/
theorem readField_keeps (f : Frame) (cursor width : Nat) (assign : BigNumber → Header → Header) :
    Method.Keeps (fun g => ∃ header, g = f.withHeader header) (readField cursor width assign) := by
  refine .bind_get fun g hg => ?_
  obtain ⟨header, rfl⟩ := hg
  exact .bind (.lift _ _) fun value => .set ⟨_, rfl⟩

theorem readCheckSum_keeps (f : Frame) :
    Method.Keeps (fun g => ∃ header, g = f.withHeader header) readCheckSum := by
  refine .bind_get fun g hg => ?_
  obtain ⟨header, rfl⟩ := hg
  exact .bind (.lift _ _) fun value => .set ⟨_, rfl⟩

/-- The first part of `decode` writes the header only, however far it comes. -/
theorem readHeader_throws (h : readHeader.run f = .error e g) :
    ∃ header, g = f.withHeader header := by
  have hkeeps : Method.Keeps (fun g => ∃ header, g = f.withHeader header) readHeader :=
    (readField_keeps f 0 2 _).bind fun _ => (readField_keeps f 2 2 _).bind fun _ =>
      (readField_keeps f 4 6 _).bind fun _ => (readField_keeps f 10 6 _).bind fun _ =>
        (readField_keeps f 16 6 _).bind fun _ => (readField_keeps f 22 2 _).bind fun _ =>
          readCheckSum_keeps f
  exact (hkeeps f ⟨f.header, rfl⟩).2 e g h

/-- A body that cannot be made has been allocated or not. -/
theorem getBody_throws {bodies bodies' : Bodies} {raw : List UInt8} {size type subType : Nat}
    (h : (Bodies.getBody raw size type subType).run bodies = .error e bodies') :
    bodies' = bodies ∨ bodies' = bodies.alloc := by
  rw [Bodies.getBody] at h
  have hlift {α : Type} (s : Bodies) (y : Except Failure α) := Method.Keeps.lift (· = s) y s rfl
  rcases Method.run_bind_eq_error h with hcheck | ⟨_, s, hcheck, hmade⟩
  · exact .inl ((hlift _ _).2 e _ hcheck)
  · rw [(hlift _ _).1 _ s hcheck, Method.run_bind_ok (Method.run_get _),
      Method.run_bind_ok (Method.run_set _ _)] at hmade
    rcases Method.run_bind_eq_error hmade with hdecode | ⟨_, t, hdecode, hset⟩
    · exact .inr ((hlift _ _).2 e _ hdecode)
    · cases hset

/-- Deleting a body that is gone has no meaning. -/
theorem deleteBody_dangling (h : ¬ f.BodyLive) :
    deleteBody.run f = .error .undefinedBehaviour f := by
  rw [deleteBody, Method.run_bind_ok (Method.run_get f)]
  rw [BodyLive] at h
  push Not at h
  obtain ⟨id, hid, hdead⟩ := h
  simp only [hid, hdead, Method.run_throw, if_false, Bool.false_eq_true]

/-- The second part of `decode`: once the old body is deleted, it may throw. -/
theorem makeBody_throws (h : makeBody.run f = .error e g) (he : e ≠ .undefinedBehaviour) :
    f.BodyLive ∧ (g = f.withBodies f.freed ∨ g = f.withBodies f.freed.alloc) := by
  by_cases hlive : f.BodyLive
  · refine ⟨hlive, ?_⟩
    rw [makeBody, Method.run_bind_ok (deleteBody_run hlive),
      Method.run_bind_ok (Method.run_get _)] at h
    have hlift (y : Except Failure Nat) := Method.Keeps.lift (· = f.withBodies f.freed) y _ rfl
    rcases Method.run_bind_eq_error h with htype | ⟨type, s₁, htype, h₁⟩
    · exact .inl ((hlift _).2 e g htype)
    rw [(hlift _).1 type s₁ htype] at h₁
    rcases Method.run_bind_eq_error h₁ with hsub | ⟨subType, s₂, hsub, h₂⟩
    · exact .inl ((hlift _).2 e g hsub)
    rw [(hlift _).1 subType s₂ hsub] at h₂
    rcases Method.run_bind_eq_error h₂ with hbody | ⟨id, s₃, hbody, hset⟩
    · rw [EStateM.run, onBodies] at hbody
      split at hbody
      · cases hbody
      · rename_i e' bodies hthrows
        cases hbody
        rcases getBody_throws hthrows with rfl | rfl
        · exact .inl rfl
        · exact .inr rfl
    · cases hset
  · rw [makeBody, Method.run_bind_error (deleteBody_dangling hlive)] at h
    cases h
    exact absurd rfl he

end

/-- There are raw data that have not been decoded. -/
def Undecoded (f : Frame) : Prop := f.hasRawData = true ∧ f.isDecoded = false

/-- **What a call does to a frame.** -/
inductive Effect (fileName : Str) : Frame → FrameEvent → Frame → Prop
  /-- The device has been read. -/
  | read {f : Frame} {device : Option (List (List UInt8))} {buffer : List UInt8} {size : Nat}
      (h : inBuffer fileName device f.rawFrameBuffer f.rawBufferSize = .ok (buffer, size)) :
      Effect fileName f ⟨.updateRawData device, true⟩ { f with
        rawFrameBuffer := buffer
        rawFrameSize := size
        isDecoded := false
        hasRawData := true }
  /-- The device cannot be opened. -/
  | notRead (f : Frame) (device : Option (List (List UInt8))) :
      Effect fileName f ⟨.updateRawData device, false⟩ f
  /-- There is nothing to decode. -/
  | noData {f : Frame} (h : f.hasRawData = false) : Effect fileName f ⟨.decode, false⟩ f
  /-- The raw data have been decoded before. -/
  | again {f : Frame} (h : f.isDecoded = true) : Effect fileName f ⟨.decode, true⟩ f
  /-- The raw data are decoded. -/
  | decoded {f : Frame} {header : Header} {body : BeaconBody} (h : f.Undecoded) (hlive : f.BodyLive)
      (hparse : parse f.rawFrameBuffer f.rawFrameSize = .ok (header, body)) :
      Effect fileName f ⟨.decode, true⟩ (f.decoded header body)
  /-- A field of the header is missing: the old body stays. -/
  | badHeader {f : Frame} (h : f.Undecoded)
      (hparse : ∀ header, parseHeader f.rawFrameBuffer f.rawFrameSize ≠ .ok header) (header : Header) :
      Effect fileName f ⟨.decode, false⟩ (f.withHeader header)
  /-- There is a header but no body: the old body is deleted, and the pointer stays. -/
  | badBody {f : Frame} {header : Header} {bodies : Bodies} (h : f.Undecoded) (hlive : f.BodyLive)
      (hheader : parseHeader f.rawFrameBuffer f.rawFrameSize = .ok header)
      (hbody : ∀ body, parseBody f.rawFrameBuffer f.rawFrameSize header ≠ .ok body)
      (hbodies : bodies = f.freed ∨ bodies = f.freed.alloc) :
      Effect fileName f ⟨.decode, false⟩ ((f.withHeader header).withBodies bodies)

section
variable {fileName : Str} {f g : Frame} {e : Failure}

/-- Reading the device either fails or fills the buffer. -/
theorem updateRawData_cases (fileName : Str) (device : Option (List (List UInt8))) (f : Frame) :
    (∃ e, (updateRawData fileName device).run f = .error e f) ∨
      ∃ buffer size, inBuffer fileName device f.rawFrameBuffer f.rawBufferSize =
        .ok (buffer, size) ∧
        (updateRawData fileName device).run f = .ok () { f with
          rawFrameBuffer := buffer
          rawFrameSize := size
          isDecoded := false
          hasRawData := true } := by
  match hin : inBuffer fileName device f.rawFrameBuffer f.rawBufferSize with
  | .error e =>
    refine .inl ⟨e, ?_⟩
    rw [updateRawData, Method.run_bind_ok (Method.run_get f), hin,
      Method.run_bind_error (Method.run_lift_error e f)]
  | .ok (buffer, size) => exact .inr ⟨buffer, size, rfl, updateRawData_run hin (inBuffer_le hin)⟩

/-- On raw data that have not been decoded, `decode` runs both of its parts. -/
theorem decode_undecoded (h : f.Undecoded) :
    decode.run f = (readHeader >>= fun _ => makeBody : Method Frame Unit).run f := by
  rw [decode, Method.run_bind_ok (Method.run_get f), if_neg (by simp [h.1]), if_neg (by simp [h.2])]

/-- The first part reads the header, or throws before the body is touched. -/
theorem readHeader_cases (f : Frame) :
    (∃ header, parseHeader f.rawFrameBuffer f.rawFrameSize = .ok header ∧
        readHeader.run f = .ok () (f.withHeader header)) ∨
      (∀ header, parseHeader f.rawFrameBuffer f.rawFrameSize ≠ .ok header) ∧
        ∃ e header, readHeader.run f = .error e (f.withHeader header) := by
  have hcomputes := readHeader_computes f
  match hp : parseHeader f.rawFrameBuffer f.rawFrameSize with
  | .ok header =>
    rw [hp] at hcomputes
    exact .inl ⟨header, rfl, hcomputes⟩
  | .error e =>
    rw [hp] at hcomputes
    obtain ⟨g, hg⟩ := hcomputes
    obtain ⟨header, rfl⟩ := readHeader_throws hg
    exact .inr ⟨fun _ h => (by cases h), e, header, hg⟩

/-- The second part makes a body out of the raw data, if it returns. -/
theorem makeBody_returns (h : makeBody.run f = .ok () g) :
    f.BodyLive ∧ ∃ body, parseBody f.rawFrameBuffer f.rawFrameSize f.header = .ok body ∧
      g = f.decoded f.header body := by
  by_cases hlive : f.BodyLive
  · have hcomputes := makeBody_computes hlive
    match hp : parseBody f.rawFrameBuffer f.rawFrameSize f.header with
    | .ok body =>
      rw [hp] at hcomputes
      have hok : EStateM.Result.ok () g = .ok () (f.decoded f.header body) := h.symm.trans hcomputes
      cases hok
      exact ⟨hlive, body, rfl, rfl⟩
    | .error e =>
      rw [hp] at hcomputes
      obtain ⟨g', hg'⟩ := hcomputes
      rw [hg'] at h
      cases h
  · rw [makeBody, Method.run_bind_error (deleteBody_dangling hlive)] at h
    cases h

theorem parse_of_parts {raw : List UInt8} {size : Nat} {header : Header} {body : BeaconBody}
    (hheader : parseHeader raw size = .ok header) (hbody : parseBody raw size header = .ok body) :
    parse raw size = .ok (header, body) := by
  rw [parse, hheader, ok_bind, hbody, ok_bind]
  rfl

/-- The cases in which `decode` does not look at the buffer, and the one in which it does. -/
theorem decode_cases (f : Frame) :
    (f.hasRawData = false ∧ ∃ e, decode.run f = .error e f) ∨
      (f.isDecoded = true ∧ decode.run f = .ok () f) ∨ f.Undecoded := by
  by_cases hraw : f.hasRawData = true
  · by_cases hdecoded : f.isDecoded = true
    · refine .inr (.inl ⟨hdecoded, ?_⟩)
      rw [decode, Method.run_bind_ok (Method.run_get f), if_neg (by simp [hraw]), if_pos hdecoded]
      rfl
    · exact .inr (.inr ⟨hraw, Bool.eq_false_iff.mpr hdecoded⟩)
  · refine .inl ⟨Bool.eq_false_iff.mpr hraw, ?_⟩
    rw [decode, Method.run_bind_ok (Method.run_get f), if_pos (Bool.eq_false_iff.mpr hraw)]
    exact ⟨_, rfl⟩

theorem decode_effect_returns (h : decode.run f = .ok () g) :
    Effect fileName f ⟨.decode, true⟩ g := by
  rcases decode_cases f with ⟨-, e, hrun⟩ | ⟨hdecoded, hrun⟩ | hundecoded
  · rw [hrun] at h
    cases h
  · rw [hrun] at h
    cases h
    exact .again hdecoded
  · rw [decode_undecoded hundecoded] at h
    rcases readHeader_cases f with ⟨header, hheader, hrun⟩ | ⟨-, e, header, hrun⟩
    · rw [Method.run_bind_ok hrun] at h
      obtain ⟨hlive, body, hbody, rfl⟩ := makeBody_returns h
      exact .decoded hundecoded hlive (parse_of_parts hheader hbody)
    · rw [Method.run_bind_error hrun] at h
      cases h

theorem decode_effect_throws (h : decode.run f = .error e g) (he : e ≠ .undefinedBehaviour) :
    Effect fileName f ⟨.decode, false⟩ g := by
  rcases decode_cases f with ⟨hraw, e', hrun⟩ | ⟨-, hrun⟩ | hundecoded
  · rw [hrun] at h
    cases h
    exact .noData hraw
  · rw [hrun] at h
    cases h
  · rw [decode_undecoded hundecoded] at h
    rcases readHeader_cases f with ⟨header, hheader, hrun⟩ | ⟨hnone, e', header, hrun⟩
    · rw [Method.run_bind_ok hrun] at h
      obtain ⟨hlive, hg⟩ := makeBody_throws h he
      have hbody : ∀ body, parseBody f.rawFrameBuffer f.rawFrameSize header ≠ .ok body := by
        intro body hbody
        have hcomputes : Method.Computes makeBody (f.withHeader header)
          (parseBody f.rawFrameBuffer f.rawFrameSize header) _ _ := makeBody_computes hlive
        rw [hbody] at hcomputes
        rw [show makeBody.run _ = _ from hcomputes] at h
        cases h
      rcases hg with rfl | rfl
      · exact .badBody hundecoded hlive hheader hbody (.inl rfl)
      · exact .badBody hundecoded hlive hheader hbody (.inr rfl)
    · rw [Method.run_bind_error hrun] at h
      cases h
      exact .badHeader hundecoded hnone header

/-- **Every call has one of the effects.** -/
theorem Step.effect {event : FrameEvent} (h : Step fileName f event g) :
    Effect fileName f event g := by
  cases h with
  | @returns _ call h =>
    match call, h with
    | .updateRawData device, h =>
      rcases updateRawData_cases fileName device f with ⟨e, hrun⟩ | ⟨buffer, size, hin, hrun⟩
      · rw [show (updateRawData fileName device).run f = .ok () g from h] at hrun
        cases hrun
      · rw [show (updateRawData fileName device).run f = .ok () g from h] at hrun
        cases hrun
        exact .read hin
    | .decode, h => exact decode_effect_returns h
  | @throws _ call e h he =>
    match call, h with
    | .updateRawData device, h =>
      rcases updateRawData_cases fileName device f with ⟨e', hrun⟩ | ⟨buffer, size, hin, hrun⟩
      · rw [show (updateRawData fileName device).run f = .error e g from h] at hrun
        cases hrun
        exact .notRead f device
      · rw [show (updateRawData fileName device).run f = .error e g from h] at hrun
        cases hrun
    | .decode, h =>
      refine decode_effect_throws h ?_
      rintro rfl
      cases he

end

/-! ### A decoded frame is a fresh one -/

/-- The raw data of the frame are those that the last returning call of
`update_raw_data` has left in it. -/
def FromLastRead (fileName : Str) (f₀ : Frame) (history : List FrameEvent) (f : Frame) : Prop :=
  ∃ before device after g, history = before ++ ⟨.updateRawData device, true⟩ :: after ∧
    (∀ device, (⟨.updateRawData device, true⟩ : FrameEvent) ∉ after) ∧
    Run (Step fileName) f₀ (before ++ [⟨.updateRawData device, true⟩]) g ∧
    f.rawFrameBuffer = g.rawFrameBuffer ∧ f.rawFrameSize = g.rawFrameSize

/-- What holds of a frame after a history. -/
structure Sound (fileName : Str) (f₀ : Frame) (history : List FrameEvent) (f : Frame) : Prop where
  lastRead : f.hasRawData = true → FromLastRead fileName f₀ history f
  decoded : f.isDecoded = true → f.hasRawData = true ∧ ∃ body,
    parse f.rawFrameBuffer f.rawFrameSize = .ok (f.header, body) ∧ f.currentBody = some body

section
variable {fileName : Str} {f₀ f g : Frame} {history : List FrameEvent}

/-- A call that reads nothing leaves the raw data as they were. -/
theorem FromLastRead.snoc (h : FromLastRead fileName f₀ history f) {event : FrameEvent}
    (hevent : ∀ device, event ≠ ⟨.updateRawData device, true⟩)
    (hbuffer : g.rawFrameBuffer = f.rawFrameBuffer) (hsize : g.rawFrameSize = f.rawFrameSize) :
    FromLastRead fileName f₀ (history ++ [event]) g := by
  obtain ⟨before, device, after, read, rfl, hafter, hrun, hread, hreadSize⟩ := h
  refine ⟨before, device, after ++ [event], read, ?_, fun device hmem => ?_, hrun,
    hbuffer.trans hread, hsize.trans hreadSize⟩
  · rw [List.append_assoc, List.cons_append]
  · rcases List.mem_append.mp hmem with hmem | hmem
    · exact hafter device hmem
    · exact hevent device (List.mem_singleton.mp hmem).symm

/-- **One call keeps a frame sound.** -/
theorem Sound.step (hrun : Run (Step fileName) f₀ history f) (h : Sound fileName f₀ history f)
    {event : FrameEvent} (hstep : Step fileName f event g) :
    Sound fileName f₀ (history ++ [event]) g := by
  cases hstep.effect with
  | read hin =>
    exact ⟨fun _ => ⟨history, _, [], _, rfl, by simp, .snoc hrun hstep, rfl, rfl⟩, fun hd => by cases hd⟩
  | notRead device =>
    exact ⟨fun hraw => (h.lastRead hraw).snoc (by simp) rfl rfl, h.decoded⟩
  | noData hraw =>
    exact ⟨fun hraw => (h.lastRead hraw).snoc (by simp) rfl rfl, h.decoded⟩
  | again hdecoded =>
    exact ⟨fun hraw => (h.lastRead hraw).snoc (by simp) rfl rfl, h.decoded⟩
  | decoded hundecoded hlive hparse =>
    exact ⟨fun hraw => (h.lastRead hraw).snoc (by simp) rfl rfl,
      fun _ => ⟨hundecoded.1, _, hparse, currentBody_decoded ..⟩⟩
  | badHeader hundecoded hparse header =>
    refine ⟨fun hraw => (h.lastRead hraw).snoc (by simp) rfl rfl, fun hd => ?_⟩
    exact absurd (hundecoded.2.symm.trans hd) Bool.false_ne_true
  | badBody hundecoded hlive hheader hbody hbodies =>
    refine ⟨fun hraw => (h.lastRead hraw).snoc (by simp) rfl rfl, fun hd => ?_⟩
    exact absurd (hundecoded.2.symm.trans hd) Bool.false_ne_true

/-- What a decoded frame answers depends on its header and its body alone. -/
theorem getValue_congr (hf : f.isDecoded = true) (hg : g.isDecoded = true)
    (hheader : f.header = g.header)
    {body : BeaconBody} (hbody : f.currentBody = some body) (hbody' : g.currentBody = some body)
    (field : Str) : f.getValue field = g.getValue field := by
  obtain ⟨id, hid, hlive⟩ := Option.bind_eq_some_iff.mp hbody
  obtain ⟨id', hid', hlive'⟩ := Option.bind_eq_some_iff.mp hbody'
  simp only [getValue, hf, hg, hheader, hid, hid', hlive, hlive']

end

/-- The memory that the constructor may get. -/
def zeroMemory : List UInt8 := List.replicate beaconFrameMaxLength 0

/-- The frame that has read some bytes, the first time. -/
def reading (piece : List UInt8) (f : Frame) : Frame :=
  { f with
    rawFrameBuffer := piece ++ f.rawFrameBuffer.drop piece.length
    rawFrameSize := piece.length
    isDecoded := false
    hasRawData := true }

/-- The device delivers some bytes. -/
theorem step_reading (fileName : Str) {f : Frame} {piece : List UInt8}
    (hpiece : piece.length ≤ f.rawBufferSize)
    (hbuffer : f.rawBufferSize ≤ f.rawFrameBuffer.length) :
    Step fileName f ⟨.updateRawData (some [piece]), true⟩ (f.reading piece) :=
  .returns (updateRawData_run (inBuffer_piece fileName 0 hpiece hbuffer) hpiece)

/-- The frame that has read `homeBeacon` and decoded it. -/
def seenHome : Frame :=
  ((new zeroMemory).reading homeBeacon.wire).decoded homeBeacon.toHeader homeBeacon.toBody

theorem run_seenHome (fileName : Str) : Run (Step fileName) (new zeroMemory)
    [⟨.updateRawData (some [homeBeacon.wire]), true⟩, ⟨.decode, true⟩] seenHome := by
  have hread := step_reading fileName (f := new zeroMemory)
    (show homeBeacon.wire.length ≤ beaconFrameMaxLength by decide) (Nat.le_of_eq List.length_replicate.symm)
  have hdecode : decode.run ((new zeroMemory).reading homeBeacon.wire) = .ok () seenHome :=
    decode_run_wire homeBeacon (by decide) (List.prefix_append ..) ⟨rfl, rfl, rfl, rfl, by rintro id ⟨⟩⟩
  exact .snoc (.snoc (.nil _) hread) (.returns hdecode)

theorem bodyLive_decoded (f : Frame) (header : Header) (body : BeaconBody) :
    (f.decoded header body).BodyLive := by
  rintro id ⟨⟩
  exact Option.isSome_iff_exists.mpr ⟨_, Function.update_self ..⟩

/-- The buffer is as large as the constructor made it, and the body is there. -/
theorem seenHome_kept : seenHome.rawBufferSize ≤ seenHome.rawFrameBuffer.length ∧
    seenHome.BodyLive := by
  refine ⟨?_, bodyLive_decoded ((new zeroMemory).reading homeBeacon.wire) homeBeacon.toHeader
    homeBeacon.toBody⟩
  show beaconFrameMaxLength ≤ (homeBeacon.wire ++ zeroMemory.drop homeBeacon.wire.length).length
  rw [List.length_append, List.length_drop, zeroMemory, List.length_replicate]
  omega

/-- A call does no harm to the body: what `decode` deletes it replaces. -/
def Harmless (f : Frame) (call : FrameCall) : Prop :=
  call = .decode → f.Undecoded → f.body ≠ none →
    ∀ header, parseHeader f.rawFrameBuffer f.rawFrameSize = .ok header →
      ∃ body, parseBody f.rawFrameBuffer f.rawFrameSize header = .ok body

/-- The body that a frame points to has been allocated. -/
def Allocated (f : Frame) : Prop := ∀ id, f.body = some id → id < f.bodies.next

section
variable {fileName : Str} {f g : Frame} {event : FrameEvent}

theorem freed_next (f : Frame) : f.freed.next = f.bodies.next := by
  rw [freed]
  split <;> rfl

theorem Allocated.step (h : f.Allocated) (hstep : Step fileName f event g) : g.Allocated := by
  cases hstep.effect with
  | read => exact h
  | notRead => exact h
  | noData => exact h
  | again => exact h
  | decoded =>
    rintro id ⟨⟩
    exact Nat.lt_succ_self _
  | badHeader => exact h
  | badBody _ _ _ _ hbodies =>
    intro id hid
    have hlt := h id hid
    rcases hbodies with rfl | rfl
    · exact (freed_next f).symm ▸ hlt
    · show id < f.freed.next + 1
      rw [freed_next]
      omega

/-- A harmless call leaves the pointer valid. -/
theorem BodyLive.step (h : f.BodyLive) (hharmless : f.Harmless event.call)
    (hstep : Step fileName f event g) : g.BodyLive := by
  cases hstep.effect with
  | read => exact h
  | notRead => exact h
  | noData => exact h
  | again => exact h
  | decoded => exact bodyLive_decoded _ _ _
  | badHeader => exact h
  | badBody hundecoded _ hheader hbody =>
    intro id hid
    have hsome : f.body ≠ none := by
      rw [show f.body = some id from hid]
      exact Option.some_ne_none id
    obtain ⟨body, hparse⟩ := hharmless rfl hundecoded hsome _ hheader
    exact absurd hparse (hbody body)

/-- Any other call leaves it dangling. -/
theorem not_bodyLive_of_harm (hallocated : f.Allocated) (hharm : ¬ f.Harmless event.call)
    (hstep : Step fileName f event g) : ¬ g.BodyLive := by
  rw [Harmless] at hharm
  push Not at hharm
  obtain ⟨hcall, hundecoded, hbody, header, hheader, hnone⟩ := hharm
  cases hstep.effect with
  | read => cases hcall
  | notRead => cases hcall
  | noData hraw => exact absurd (hraw.symm.trans hundecoded.1) Bool.false_ne_true
  | again hd => exact absurd (hundecoded.2.symm.trans hd) Bool.false_ne_true
  | decoded _ _ hparse =>
    obtain ⟨header', hheader', hparse⟩ := bind_eq_ok hparse
    obtain ⟨body, hbody', -⟩ := bind_eq_ok hparse
    rw [hheader] at hheader'
    cases hheader'
    exact absurd hbody' (hnone body)
  | badHeader _ hparse => exact absurd hheader (hparse header)
  | badBody _ _ _ _ hbodies =>
    obtain ⟨id, hid⟩ := Option.ne_none_iff_exists'.mp hbody
    intro hlive
    -- the pointer keeps the number of the body that is gone
    have hsome := hlive id hid
    have hdead : f.freed.live id = none := by
      rw [freed, hid]
      exact Function.update_self ..
    have hdead' : f.freed.alloc.live id = none := by
      have hne : id ≠ f.freed.next := Nat.ne_of_lt (freed_next f ▸ hallocated id hid)
      exact (Function.update_of_ne hne ..).trans hdead
    rcases hbodies with rfl | rfl
    · have hfreed : (f.freed.live id).isSome = true := hsome
      rw [hdead] at hfreed
      cases hfreed
    · have hfreed : (f.freed.alloc.live id).isSome = true := hsome
      rw [hdead'] at hfreed
      cases hfreed

theorem Step.deterministic {f g g' : Frame} {event : FrameEvent} (h : Step fileName f event g)
    (h' : Step fileName f event g') : g = g' := by
  cases h with
  | returns h =>
    cases h' with
    | returns h' =>
      cases h.symm.trans h'
      rfl
  | throws h =>
    cases h' with
    | throws h' =>
      cases h.symm.trans h'
      rfl

theorem allocated_of_run {memory : List UInt8} {history : List FrameEvent}
    (h : Run (Step fileName) (new memory) history f) : f.Allocated :=
  h.invariant (fun _ _ _ hallocated hstep => hallocated.step hstep) (by rintro id ⟨⟩)

/-- **The body stays valid while no call does harm**, and only then: at every point of
a history the pointer is null or live, and the frame can be destroyed, just if no
call of `decode` meets a frame that fails behind its header while there is a body. -/
theorem bodies_live_iff {memory : List UInt8} {history : List FrameEvent}
    (h : Run (Step fileName) (new memory) history f) :
    (∀ before after g, history = before ++ after → Run (Step fileName) (new memory) before g →
      g.BodyLive ∧ ∃ g', destroy.run g = .ok () g') ↔
    ∀ before event after g, history = before ++ event :: after →
      Run (Step fileName) (new memory) before g → g.Harmless event.call := by
  constructor
  · intro hlive before event after g hhistory hrun
    by_contra hharm
    rw [hhistory] at h
    obtain ⟨g₁, hbefore, hrest⟩ := h.split
    obtain ⟨g₂, hstep, -⟩ := Run.cons_iff.mp hrest
    obtain rfl := hrun.deterministic hbefore fun _ _ _ _ => Step.deterministic
    have hhistory' : history = (before ++ [event]) ++ after := by
      rw [hhistory, List.append_assoc, List.singleton_append]
    exact not_bodyLive_of_harm (allocated_of_run hrun) hharm hstep
      (hlive _ after g₂ hhistory' (.snoc hrun hstep)).1
  · intro hharmless before after g hhistory hrun
    have hlive : g.BodyLive := by
      clear h
      induction hrun generalizing after with
      | nil => rintro id ⟨⟩
      | @snoc g₁ g₂ before event hbefore hstep ih =>
        have hhistory' : history = before ++ event :: after := by
          rw [hhistory, List.append_assoc, List.singleton_append]
        exact (ih _ hhistory').step (hharmless _ _ _ _ hhistory' hbefore) hstep
    exact ⟨hlive, _, deleteBody_run hlive⟩

end

/-- One beacon is decoded and the frame destroyed. -/
theorem bodies_live_seenHome :
    (∀ before after g,
      [⟨.updateRawData (some [homeBeacon.wire]), true⟩, ⟨.decode, true⟩] = before ++ after →
      Run (Step []) (new zeroMemory) before g → g.BodyLive ∧ ∃ g', destroy.run g = .ok () g') ↔
    ∀ before event after g,
      [⟨.updateRawData (some [homeBeacon.wire]), true⟩, ⟨.decode, true⟩] = before ++ event :: after →
      Run (Step []) (new zeroMemory) before g → g.Harmless event.call :=
  bodies_live_iff (run_seenHome [])

/-- A header without a body, and not a beacon's. -/
def strayFrame : List UInt8 := List.replicate 28 0

/-- A beacon is decoded, then the stray frame is not: the pointer dangles. -/
theorem not_bodies_live_stray :
    ¬ ∀ (fileName : Str) (memory : List UInt8) (history : List FrameEvent) (f : Frame),
      Run (Step fileName) (new memory) history f →
      ∀ before after g, history = before ++ after → Run (Step fileName) (new memory) before g →
        g.BodyLive ∧ ∃ g', destroy.run g = .ok () g' := by
  intro hall
  have hread := step_reading [] (show strayFrame.length ≤ beaconFrameMaxLength by decide)
    seenHome_kept.1
  have hundecoded : (seenHome.reading strayFrame).Undecoded := ⟨rfl, rfl⟩
  have hlive : (seenHome.reading strayFrame).BodyLive := seenHome_kept.2
  have hprefix : strayFrame <+: (seenHome.reading strayFrame).rawFrameBuffer :=
    List.prefix_append ..
  have hparse : parse (seenHome.reading strayFrame).rawFrameBuffer strayFrame.length =
      parse strayFrame strayFrame.length :=
    (parse_extends hprefix strayFrame.length).resolve_left (by decide)
  obtain ⟨header, hheader⟩ : ∃ header, parseHeader strayFrame strayFrame.length = .ok header :=
    parseHeader_of_le (by decide)
  have hheader' : parseHeader (seenHome.reading strayFrame).rawFrameBuffer strayFrame.length =
      .ok header :=
    ((parseHeader_extends hprefix strayFrame.length).resolve_left (by simp [hheader])).trans hheader
  -- the header is complete, but its type and subtype have no body
  obtain ⟨e, hfails, he⟩ : ∃ e,
      parse strayFrame strayFrame.length = .error e ∧ e.isException = true :=
    ⟨_, rfl, rfl⟩
  have hholds : (seenHome.reading strayFrame).Holds _ strayFrame.length :=
    ⟨rfl, rfl, rfl, rfl, hlive⟩
  obtain ⟨g, hthrows⟩ := hholds.decode_run_of_error (hparse.trans hfails)
  have hharm : ¬ (seenHome.reading strayFrame).Harmless .decode := by
    intro hharmless
    obtain ⟨body, hbody⟩ := hharmless rfl hundecoded (Option.some_ne_none _) header hheader'
    have hok := hparse.symm.trans (parse_of_parts hheader' hbody)
    rw [hfails] at hok
    cases hok
  have hrun := Run.snoc (run_seenHome []) hread
  have hstep : Step [] (seenHome.reading strayFrame) ⟨.decode, false⟩ g := .throws hthrows he
  exact not_bodyLive_of_harm (allocated_of_run hrun) hharm hstep
    (hall [] zeroMemory _ g (.snoc hrun hstep) _ [] g (List.append_nil _).symm (.snoc hrun hstep)).1

end Frame
end SnapDesk
