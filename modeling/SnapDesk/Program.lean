import SnapDesk.ScriptMeaning
import SnapDesk.SeenAgain
import SnapDesk.Terminal

/-! # The program and its frame

`run` keeps one frame for all its turns, and its handler deletes it before the exception
goes on to `main`.  The frame brings its own state into the loop: bytes of earlier
readings behind those of the last one, and a body that `decode` deletes before it knows
whether there is a new one.

Neither shows as long as the program has a meaning: every turn sees of a reading what a
frame that was made for it would have seen, and the program is the main loop on these
observations (`run_process`).  It ends at a reading with a complete header that does
not decode, right after a turn that has not thrown: there the body is gone and still
pointed to, and the handler deletes it again. -/
namespace SnapDesk
open BigNumber

/-- `CHARACTER_DEVICE_FILE`. -/
def characterDeviceFile : Str := lit "/dev/beacon-sniffer-0"

/-- What a turn finds: the pieces that reading the device returns, the time, and the
memory that a frame made in this turn would get. -/
structure Moment where
  device : Option (List (List UInt8))
  time : LocalTime
  memory : List UInt8

/-- The frame of `run`, and what the terminal shows. -/
structure Desk where
  frame : Frame
  terminal : Str

/-- A call on the frame. -/
def onFrame {α : Type} (m : Method Frame α) : Method Desk α := fun desk =>
  match m.run desk.frame with
  | .ok a frame => .ok a { desk with frame := frame }
  | .error e frame => .error e { desk with frame := frame }

/-- A call that prints. -/
def onTerminal (m : Method Str Unit) : Method Desk Unit := fun desk =>
  match m.run desk.terminal with
  | .ok _ terminal => .ok () { desk with terminal := terminal }
  | .error e terminal => .error e { desk with terminal := terminal }

/-- The first part of a turn, up to what it asks the frame for. -/
def glance (digest : Str → Vector UInt8 32) (tree : Node) (device : Option (List (List UInt8))) :
    Method Desk (Str × BigNumber) := do
  onFrame (Frame.updateRawData characterDeviceFile device)
  onFrame Frame.decode
  let desk ← get
  onTerminal desk.frame.print
  let output ← tree.getValue digest desk.frame
  let element ← desk.frame.getValue (lit "0")
  return (output, element)

/-- What `run` prints of its tree. -/
def treeText (tree : Node) : Str :=
  lit "----- tree -----\n" ++ cStr (tree.toString 0) ++ lit "----------------\n"

/-- The program, between two turns. -/
inductive Program where
  | running (session : Session) (desk : Desk) (w : World)
  | restarting (w : World) (terminal : Str)
  | undefined

namespace Program

/-- The handler of `run`: the frame goes with everything else. -/
def leave (e : Failure) (desk : Desk) (w : World) : Program :=
  if e.isException then
    match Frame.destroy.run desk.frame with
    | .ok _ _ => .restarting w desk.terminal
    | .error _ _ => .undefined
  else .undefined

/-- `main` calls `run` again, up to its loop. -/
def resume (memory : List UInt8) : Program → Program
  | .restarting w terminal =>
      match start.run w with
      | .ok session w => .running session ⟨Frame.new memory, terminal ++ treeText session.tree⟩ w
      | .error e w => if e.isException then .restarting w terminal else .undefined
  | p => p

section
variable (digest : Str → Vector UInt8 32)

/-- A turn. -/
def feed (p : Program) (moment : Moment) : Program :=
  match p with
  | .running session desk w =>
      match (glance digest session.tree moment.device).run desk with
      | .ok observation desk =>
          match (turn digest (.ok observation) moment.time.date session).run w with
          | .ok session w => .running session desk w
          | .error e w => (leave e desk w).resume moment.memory
      | .error e desk => (leave e desk w).resume moment.memory
  | p => p.resume moment.memory

/-- The program after a list of turns, from its start in a world. -/
def run (w : World) (memory : List UInt8) (moments : List Moment) : Program :=
  moments.foldl (feed digest) ((Program.restarting w []).resume memory)

end

/-- The program without its frame and its terminal. -/
def process : Program → Process
  | .running session _ w => .running session w
  | .restarting w _ => .restarting w
  | .undefined => .undefined

end Program

/-! ### What a reading delivers -/

/-- The bytes that a stream delivers, as many as are asked for. -/
def delivered : Nat → DeviceStream → List UInt8
  | 0, _ => []
  | count + 1, file =>
      match file.get with
      | none => []
      | some (c, file) => c :: delivered count file

theorem length_delivered_le (count : Nat) (file : DeviceStream) :
    (delivered count file).length ≤ count := by
  induction count generalizing file with
  | zero => exact Nat.le_refl _
  | succ count ih =>
    rw [delivered]
    split
    · exact Nat.zero_le _
    · exact Nat.succ_le_succ (ih _)

/-- They replace what the buffer holds there. -/
theorem fillFrom_delivered (count : Nat) (file : DeviceStream) {buffer : List UInt8}
    {byteRead : Nat} (h : byteRead + count ≤ buffer.length) :
    fillFrom count file buffer byteRead =
      (buffer.take byteRead ++ (delivered count file ++
          buffer.drop (byteRead + (delivered count file).length)),
        byteRead + (delivered count file).length) := by
  induction count generalizing file buffer byteRead with
  | zero => simp [fillFrom, delivered]
  | succ count ih =>
    rcases hget : file.get with _ | ⟨c, file'⟩
    · simp [fillFrom, delivered, hget]
    · have htake : (buffer.set byteRead c).take (byteRead + 1) = buffer.take byteRead ++ [c] := by
        rw [List.take_set, List.take_succ_eq_append_getElem (by omega),
          List.set_append_right _ _ (by rw [List.length_take]; omega)]
        simp [Nat.min_eq_left (show byteRead ≤ buffer.length by omega)]
      have hmore : delivered (count + 1) file = c :: delivered count file' := by
        rw [delivered, hget]
      have hstep : fillFrom (count + 1) file buffer byteRead =
          fillFrom count file' (buffer.set byteRead c) (byteRead + 1) := by
        rw [fillFrom, hget]
      rw [hstep, ih _ (by rw [List.length_set]; omega), htake, List.drop_set_of_lt (by omega),
        hmore, List.length_cons, Nat.add_assoc, Nat.add_comm 1]
      simp

/-- The bytes of a reading. -/
def readingOf (reads : List (List UInt8)) : List UInt8 := delivered beaconFrameMaxLength ⟨[], reads⟩

/-- What a frame that was made for the reading decodes. -/
def received (device : Option (List (List UInt8))) : Except Failure Frame := do
  match device with
  | none => .error (.runtimeError (lit "Failed to open file: " ++ characterDeviceFile))
  | some reads =>
      let parsed ← Frame.parse (readingOf reads) (readingOf reads).length
      return (Frame.ofBuffer (readingOf reads) (readingOf reads).length).decoded parsed.1 parsed.2

/-- A reading with a complete header that does not decode. -/
def isStray (device : Option (List (List UInt8))) : Bool :=
  match device with
  | none => false
  | some reads =>
      24 ≤ (readingOf reads).length &&
        match Frame.parse (readingOf reads) (readingOf reads).length with
        | .ok _ => false
        | .error _ => true

/-- No reading is one whose size wraps around. -/
def WellSized (device : Option (List (List UInt8))) : Prop :=
  ∀ reads, device = some reads → ¬ Frame.SizeWraps (readingOf reads) (readingOf reads).length

/-! ### The frame between two turns -/

/-- **A frame between two turns**: its buffer is as the constructor made it, and its body
is not a dangling pointer. -/
structure Frame.Kept (f : Frame) : Prop where
  bufferSize : f.rawBufferSize = beaconFrameMaxLength
  buffer_length : f.rawFrameBuffer.length = beaconFrameMaxLength
  bodyLive : f.BodyLive
  allocated : f.Allocated

namespace Frame
variable {f : Frame} {reads : List (List UInt8)}

/-- What a decoded frame answers is there in its header and its body. -/
theorem getValue_decoded_eq (f g : Frame) (header : Header) (body : BeaconBody) (field : Str) :
    (f.decoded header body).getValue field = (g.decoded header body).getValue field := by
  have hf := currentBody_decoded f header body
  have hg := currentBody_decoded g header body
  exact getValue_congr (f := f.decoded header body) (g := g.decoded header body) rfl rfl rfl hf hg
    field

theorem kept_new {memory : List UInt8} (h : memory.length = beaconFrameMaxLength) :
    (new memory).Kept :=
  ⟨rfl, h, by rintro id ⟨⟩, by rintro id ⟨⟩⟩

/-- The frame once it has been read. -/
theorem Kept.updateRawData_run (h : f.Kept) (reads : List (List UInt8)) :
    (updateRawData characterDeviceFile (some reads)).run f =
      .ok () (f.reading (readingOf reads)) := by
  have hfits : 0 + beaconFrameMaxLength ≤ f.rawFrameBuffer.length := by
    rw [h.buffer_length, Nat.zero_add]
  have hfill := fillFrom_delivered beaconFrameMaxLength ⟨[], reads⟩ hfits
  rw [List.take_zero, List.nil_append, Nat.zero_add] at hfill
  have hin : inBuffer characterDeviceFile (some reads) f.rawFrameBuffer f.rawBufferSize =
      .ok (readingOf reads ++ f.rawFrameBuffer.drop (readingOf reads).length,
        (readingOf reads).length) := by
    rw [inBuffer, h.bufferSize, hfill]
    rfl
  exact Frame.updateRawData_run hin (by rw [h.bufferSize]; exact length_delivered_le _ _)

theorem Kept.reading (h : f.Kept) (reads : List (List UInt8)) :
    (f.reading (readingOf reads)).Kept where
  bufferSize := h.bufferSize
  buffer_length := by
    have hle : (readingOf reads).length ≤ beaconFrameMaxLength := length_delivered_le _ _
    show (readingOf reads ++ f.rawFrameBuffer.drop (readingOf reads).length).length = _
    rw [List.length_append, List.length_drop, h.buffer_length]
    omega
  bodyLive := h.bodyLive
  allocated := h.allocated

/-- What it decodes is what stands at the front of its buffer. -/
theorem Kept.holds (h : f.Kept) (reads : List (List UInt8)) :
    (f.reading (readingOf reads)).Holds
      (readingOf reads ++ f.rawFrameBuffer.drop (readingOf reads).length)
      (readingOf reads).length :=
  ⟨rfl, rfl, rfl, rfl, h.bodyLive⟩

/-- The bytes of earlier readings do not show. -/
theorem parse_reading (hsized : WellSized (some reads)) (rest : List UInt8) :
    parse (readingOf reads ++ rest) (readingOf reads).length =
      parse (readingOf reads) (readingOf reads).length :=
  (parse_extends (List.prefix_append ..) _).resolve_left (parse_defined _ (hsized reads rfl))

theorem parseHeader_reading (reads : List (List UInt8)) (rest : List UInt8) :
    parseHeader (readingOf reads ++ rest) (readingOf reads).length =
      parseHeader (readingOf reads) (readingOf reads).length :=
  (parseHeader_extends (List.prefix_append ..) _).resolve_left (parseHeader_defined _)

end Frame

/-! ### Readings that do not decode -/

namespace BigNumber

theorem readDown_ne_unfinished (buffer : List UInt8) (count : Nat) :
    readDown buffer count ≠ .error .unfinished := by
  induction count with
  | zero => exact fun h => by cases h
  | succ i ih =>
    exact bind_ne_error (BeaconBody.readByte_ne_unfinished _ _) fun _ _ =>
      bind_ne_error ih fun _ _ h => by cases h

theorem fromBuffer_ne_unfinished (buffer : List UInt8) (bufferSize numberSize : Nat) :
    fromBuffer buffer bufferSize numberSize ≠ .error .unfinished := by
  unfold fromBuffer
  split
  · exact fun h => by cases h
  · exact bind_ne_error (readDown_ne_unfinished _ _) fun _ _ h => by cases h

end BigNumber

namespace Frame
variable {raw : List UInt8} {reads : List (List UInt8)} {f g : Frame}

/-- The bound on the rounds of the element loop is never met. -/
theorem parse_ne_unfinished (raw : List UInt8) : parse raw raw.length ≠ .error .unfinished := by
  have hfield := fromBuffer_ne_unfinished
  refine bind_ne_error ?_ fun header hheader => bind_ne_error ?_ fun _ _ h => by cases h
  · exact bind_ne_error (hfield _ _ _) fun _ _ => bind_ne_error (hfield _ _ _) fun _ _ =>
      bind_ne_error (hfield _ _ _) fun _ _ => bind_ne_error (hfield _ _ _) fun _ _ =>
      bind_ne_error (hfield _ _ _) fun _ _ => bind_ne_error (hfield _ _ _) fun _ _ =>
      bind_ne_error (hfield _ _ _) fun _ _ h => by cases h
  · obtain ⟨h24, hcontrol⟩ := parseHeader_ok hheader
    rw [parseBody_eq h24 hcontrol]
    refine bind_ne_error ?_ fun _ _ => ?_
    · unfold BeaconBody.checkBody
      split_ifs <;> exact fun h => by cases h
    · exact bind_ne_error (hfield _ _ _) fun _ _ => bind_ne_error (hfield _ _ _) fun _ _ =>
        bind_ne_error (hfield _ _ _) fun _ _ =>
        bind_ne_error (BeaconBody.decodeElements_finishes _ _ (by omega) _) fun _ _ h => by cases h

/-- A reading of a proper size decodes or throws. -/
theorem parse_returnsOrThrows (hsized : WellSized (some reads)) :
    ReturnsOrThrows (parse (readingOf reads) (readingOf reads).length) := by
  intro e he
  have hdefined := parse_defined _ (hsized reads rfl)
  have hfinished := parse_ne_unfinished (readingOf reads)
  rw [he] at hdefined hfinished
  cases e with
  | undefinedBehaviour => exact absurd rfl hdefined
  | unfinished => exact absurd rfl hfinished
  | invalidArgument | runtimeError | outOfRange | filesystemError => rfl

/-- **Decoding a reading does harm** to a body that is there, if it has a header and fails. -/
theorem harmless_reading_iff (hsized : WellSized (some reads)) :
    (f.reading (readingOf reads)).Harmless .decode ↔
      f.body = none ∨ isStray (some reads) = false := by
  have hheaders : (∃ header, parseHeader (readingOf reads) (readingOf reads).length = .ok header) ↔
      24 ≤ (readingOf reads).length :=
    ⟨fun ⟨_, h⟩ => (parseHeader_ok h).1, parseHeader_of_le⟩
  have hparts := parseHeader_reading reads (f.rawFrameBuffer.drop (readingOf reads).length)
  have hparse := parse_reading hsized (f.rawFrameBuffer.drop (readingOf reads).length)
  rw [Harmless]
  constructor
  · intro h
    by_cases hbody : f.body = none
    · exact .inl hbody
    right
    rw [isStray]
    by_cases h24 : 24 ≤ (readingOf reads).length
    · obtain ⟨header, hheader⟩ := hheaders.mpr h24
      obtain ⟨body, hbody⟩ := h rfl ⟨rfl, rfl⟩ hbody header (hparts.trans hheader)
      have hok := hparse.symm.trans (parse_of_parts (hparts.trans hheader) hbody)
      rw [hok, Bool.and_false]
    · rw [decide_eq_false h24, Bool.false_and]
  · rintro (hbody | hstray) - - hsome header hheader
    · exact absurd hbody hsome
    · have h24 := hheaders.mp ⟨header, hparts.symm.trans hheader⟩
      rw [isStray, decide_eq_true h24, Bool.true_and] at hstray
      cases hp : parse (readingOf reads) (readingOf reads).length with
      | ok parts =>
        obtain ⟨header', body⟩ := parts
        obtain ⟨hheader', hbody⟩ := parts_of_parse (hparse.trans hp)
        cases hheader.symm.trans hheader'
        exact ⟨body, hbody⟩
      | error e =>
        rw [hp] at hstray
        cases hstray

/-- What the handler does to a frame whose reading has not been decoded. -/
theorem destroy_reading (h : f.Kept) (hsized : WellSized (some reads)) {e : Failure}
    (he : e.isException = true) (hdecode : decode.run (f.reading (readingOf reads)) = .error e g) :
    (∃ g', destroy.run g = .ok () g') ↔ f.body = none ∨ isStray (some reads) = false := by
  have hstep : Step characterDeviceFile (f.reading (readingOf reads)) ⟨.decode, false⟩ g :=
    .throws hdecode he
  rw [← harmless_reading_iff hsized]
  constructor
  · rintro ⟨g', hdestroy⟩
    by_contra hharm
    have hdangling := not_bodyLive_of_harm (h.reading reads).allocated hharm hstep
    rw [destroy, deleteBody_dangling hdangling] at hdestroy
    cases hdestroy
  · intro hharmless
    exact ⟨_, deleteBody_run ((h.reading reads).bodyLive.step hharmless hstep)⟩

end Frame

/-! ### What a turn sees -/

section Glance
variable {digest : Str → Vector UInt8 32} {tree : Node} {desk : Desk}
  {reads : List (List UInt8)}

theorem onFrame_ok {α : Type} {m : Method Frame α} {a : α} {frame : Frame}
    (h : m.run desk.frame = .ok a frame) : (onFrame m).run desk = .ok a ⟨frame, desk.terminal⟩ := by
  rw [EStateM.run, onFrame, h]

theorem onFrame_error {α : Type} {m : Method Frame α} {e : Failure} {frame : Frame}
    (h : m.run desk.frame = .error e frame) :
    (onFrame m).run desk = .error e ⟨frame, desk.terminal⟩ := by
  rw [EStateM.run, onFrame, h]

/-- A device that cannot be opened leaves everything as it was. -/
theorem glance_none : (glance digest tree none).run desk =
    .error (.runtimeError (lit "Failed to open file: " ++ characterDeviceFile)) desk := by
  have hread : (Frame.updateRawData characterDeviceFile none).run desk.frame =
      .error (.runtimeError (lit "Failed to open file: " ++ characterDeviceFile)) desk.frame := rfl
  rw [glance, Method.run_bind_error (onFrame_error hread)]

/-- A reading that decodes is seen as a new frame sees it. -/
theorem glance_decoded (h : desk.frame.Kept) (hsized : WellSized (some reads)) {header : Header}
    {body : BeaconBody}
    (hparse : Frame.parse (readingOf reads) (readingOf reads).length = .ok (header, body)) :
    (glance digest tree (some reads)).run desk =
      (liftM (observeFrame digest tree (received (some reads))) : Method Desk _).run
        ⟨(desk.frame.reading (readingOf reads)).decoded header body,
          desk.terminal ++ Frame.shown header body⟩ := by
  have hread := h.updateRawData_run reads
  have hparse' := (Frame.parse_reading hsized
    (desk.frame.rawFrameBuffer.drop (readingOf reads).length)).trans hparse
  have hdecode := (h.holds reads).decode_run_of_ok hparse'
  have hprint := Frame.print_decoded hparse (desk.frame.reading (readingOf reads)) desk.terminal
  rw [glance, Method.run_bind_ok (onFrame_ok hread), Method.run_bind_ok (onFrame_ok hdecode),
    Method.run_bind_ok (Method.run_get _)]
  have hshown : (onTerminal ((desk.frame.reading (readingOf reads)).decoded header body).print).run
      ⟨(desk.frame.reading (readingOf reads)).decoded header body, desk.terminal⟩ =
      .ok () ⟨(desk.frame.reading (readingOf reads)).decoded header body,
        desk.terminal ++ Frame.shown header body⟩ := by
    rw [EStateM.run, onTerminal, hprint]
  rw [Method.run_bind_ok hshown]
  -- the frame answers as the new one does
  have hsame := Frame.getValue_decoded_eq (desk.frame.reading (readingOf reads))
    (Frame.ofBuffer (readingOf reads) (readingOf reads).length) header body
  have hreceived : received (some reads) =
      .ok ((Frame.ofBuffer (readingOf reads) (readingOf reads).length).decoded header body) := by
    rw [received, hparse]
    rfl
  have hvalue : tree.getValue digest ((desk.frame.reading (readingOf reads)).decoded header body) =
      tree.getValue digest
        ((Frame.ofBuffer (readingOf reads) (readingOf reads).length).decoded header body) := by
    refine Node.getValue_congr ?_ tree fun field _ => hsame field
    rfl
  rw [hreceived, observeFrame, ok_bind, ← hvalue, ← hsame]
  cases tree.getValue digest ((desk.frame.reading (readingOf reads)).decoded header body) with
  | error e => rfl
  | ok output =>
    cases ((desk.frame.reading (readingOf reads)).decoded header body).getValue (lit "0") with
    | error e => rfl
    | ok element => rfl

/-- A reading that does not decode throws what it throws on a new frame. -/
theorem glance_error (digest : Str → Vector UInt8 32) (tree : Node) (h : desk.frame.Kept)
    (hsized : WellSized (some reads)) {e : Failure}
    (hparse : Frame.parse (readingOf reads) (readingOf reads).length = .error e) :
    ∃ g, (glance digest tree (some reads)).run desk = .error e ⟨g, desk.terminal⟩ ∧
      ((∃ g', Frame.destroy.run g = .ok () g') ↔
        desk.frame.body = none ∨ isStray (some reads) = false) := by
  have hread := h.updateRawData_run reads
  have hparse' := (Frame.parse_reading hsized
    (desk.frame.rawFrameBuffer.drop (readingOf reads).length)).trans hparse
  obtain ⟨g, hdecode⟩ := (h.holds reads).decode_run_of_error hparse'
  have he := Frame.parse_returnsOrThrows hsized e hparse
  refine ⟨g, ?_, Frame.destroy_reading h hsized he hdecode⟩
  rw [glance, Method.run_bind_ok (onFrame_ok hread), Method.run_bind_error (onFrame_error hdecode)]

end Glance

/-! ### The program is the main loop -/

/-- What the main loop is fed in the place of a moment. -/
def Moment.view (moment : Moment) : Except Failure Frame × LocalTime :=
  (received moment.device, moment.time)

section Refinement
variable (digest : Str → Vector UInt8 32)

/-- The turn of a running program does not throw. -/
def Returns (p : Process) (moment : Moment) : Prop :=
  ∃ session w session' w', p = .running session w ∧
    (turn digest (observeFrame digest session.tree (received moment.device)) moment.time.date
      session).run w = .ok session' w'

/-- The main loop on what the moments show. -/
def loopRun (w : World) (moments : List Moment) : Process :=
  Process.run digest (observeFrame digest) w (moments.map Moment.view)

/-- The last turn has not thrown. -/
def LastReturns (w : World) (moments : List Moment) : Prop :=
  ∃ before moment, moments = before ++ [moment] ∧ Returns digest (loopRun digest w before) moment

/-- A turn that does not throw is followed by a reading with a header that does not decode. -/
def Trips (w : World) (moments : List Moment) : Prop :=
  ∃ before moment stray after, moments = before ++ moment :: stray :: after ∧
    Returns digest (loopRun digest w before) moment ∧ isStray stray.device = true

variable {digest} {w : World}

theorem loopRun_concat (moments : List Moment) (moment : Moment) :
    loopRun digest w (moments ++ [moment]) =
      (loopRun digest w moments).feed digest (observeFrame digest) moment.view := by
  rw [loopRun, List.map_append, List.map_singleton, Process.run_concat]
  rfl

theorem Program.run_concat (memory : List UInt8) (moments : List Moment) (moment : Moment) :
    Program.run digest w memory (moments ++ [moment]) =
      (Program.run digest w memory moments).feed digest moment := List.foldl_concat ..

theorem lastReturns_concat {moments : List Moment} {moment : Moment} :
    LastReturns digest w (moments ++ [moment]) ↔
      Returns digest (loopRun digest w moments) moment := by
  constructor
  · rintro ⟨before, m, he, h⟩
    obtain ⟨rfl, hm⟩ := List.append_inj' he rfl
    cases hm
    exact h
  · exact fun h => ⟨moments, moment, rfl, h⟩

theorem trips_concat {moments : List Moment} {moment : Moment} :
    Trips digest w (moments ++ [moment]) ↔
      Trips digest w moments ∨ (LastReturns digest w moments ∧ isStray moment.device = true) := by
  constructor
  · rintro ⟨before, m, stray, after, he, hreturns, hstray⟩
    rcases List.eq_nil_or_concat after with rfl | ⟨after, last, rfl⟩
    · right
      rw [← List.singleton_append (x := m), ← List.append_assoc] at he
      obtain ⟨rfl, hm⟩ := List.append_inj' he rfl
      cases hm
      exact ⟨⟨before, m, rfl, hreturns⟩, hstray⟩
    · left
      have he' : moments ++ [moment] = (before ++ m :: stray :: after) ++ [last] := by
        rw [he, List.concat_eq_append]
        simp
      obtain ⟨rfl, -⟩ := List.append_inj' he' rfl
      exact ⟨before, m, stray, after, rfl, hreturns, hstray⟩
  · rintro (⟨before, m, stray, after, rfl, hreturns, hstray⟩ | ⟨⟨before, m, rfl, hreturns⟩, hstray⟩)
    · exact ⟨before, m, stray, after ++ [moment], by simp, hreturns, hstray⟩
    · exact ⟨before, m, moment, [], by simp, hreturns, hstray⟩

/-- A turn that returns leaves the program running. -/
theorem running_of_returns {p : Process} {moment : Moment} (h : Returns digest p moment) :
    ∃ session w, p.feed digest (observeFrame digest) moment.view = .running session w := by
  obtain ⟨session, w, session', w', rfl, hturn⟩ := h
  refine ⟨session', w', ?_⟩
  show (match (turn digest (observeFrame digest session.tree (received moment.device))
    moment.time.date session).run w with
    | .ok session w => Process.running session w
    | .error e w => (Process.restart e w).resume) = _
  rw [hturn]

/-- **The simulation relation**: the program is the process, and its frame has a body
just if the last turn has not thrown. -/
structure Matches (armed : Prop) (p : Program) (q : Process) : Prop where
  process : p.process = q
  kept : ∀ session desk w, p = .running session desk w → desk.frame.Kept
  body : ∀ session desk w, p = .running session desk w → (desk.frame.body ≠ none ↔ armed)

/-- A program that begins again. -/
theorem matches_resume {memory : List UInt8} (hmemory : memory.length = beaconFrameMaxLength)
    (w : World) (terminal : Str) {armed : Prop} (harmed : ¬ armed) :
    Matches armed ((Program.restarting w terminal).resume memory)
      (Process.restarting w).resume := by
  rw [Program.resume, Process.resume]
  cases start.run w with
  | ok session w =>
    refine ⟨rfl, ?_, ?_⟩
    · rintro _ _ _ ⟨⟩
      exact Frame.kept_new hmemory
    · rintro _ _ _ ⟨⟩
      exact iff_of_false (fun h => h rfl) harmed
  | error e w =>
    simp only [Process.restart]
    split
    · exact ⟨rfl, (by rintro _ _ _ ⟨⟩), (by rintro _ _ _ ⟨⟩)⟩
    · exact ⟨rfl, (by rintro _ _ _ ⟨⟩), (by rintro _ _ _ ⟨⟩)⟩

/-- A turn that throws, with a frame that can be deleted. -/
theorem matches_leave {memory : List UInt8} (hmemory : memory.length = beaconFrameMaxLength)
    {desk : Desk} (hdestroy : ∃ g', Frame.destroy.run desk.frame = .ok () g') (e : Failure)
    (w : World) {armed : Prop} (harmed : ¬ armed) :
    Matches armed ((Program.leave e desk w).resume memory) (Process.restart e w).resume := by
  obtain ⟨g', hdestroy⟩ := hdestroy
  rw [Program.leave, Process.restart]
  split
  · rw [hdestroy]
    exact matches_resume hmemory w desk.terminal harmed
  · exact ⟨rfl, (by rintro _ _ _ ⟨⟩), (by rintro _ _ _ ⟨⟩)⟩

/-- What a frame was made of that is decoded again. -/
theorem Frame.Kept.decoded {f : Frame} (h : f.Kept) (header : Header) (body : BeaconBody) :
    (f.decoded header body).Kept where
  bufferSize := h.bufferSize
  buffer_length := h.buffer_length
  bodyLive := Frame.bodyLive_decoded f header body
  allocated := by
    rintro id ⟨⟩
    exact Nat.lt_succ_self _

theorem Frame.Kept.destroys {f : Frame} (h : f.Kept) : ∃ g', Frame.destroy.run f = .ok () g' :=
  ⟨_, Frame.deleteBody_run h.bodyLive⟩

theorem not_returns_of_error {session : Session} {w w' : World} {moment : Moment} {e : Failure}
    (h : (turn digest (observeFrame digest session.tree (received moment.device)) moment.time.date
      session).run w = .error e w') : ¬ Returns digest (.running session w) moment := by
  rintro ⟨_, _, session', w'', ⟨⟩, hturn⟩
  rw [h] at hturn
  cases hturn

theorem feed_view_error {session : Session} {w w' : World} (moment : Moment) {e : Failure}
    (h : (turn digest (observeFrame digest session.tree (received moment.device)) moment.time.date
      session).run w = .error e w') :
    (Process.running session w).feed digest (observeFrame digest) moment.view =
      (Process.restart e w').resume := by
  show (match (turn digest (observeFrame digest session.tree (received moment.device))
    moment.time.date session).run w with
    | .ok session w => Process.running session w
    | .error e w => (Process.restart e w).resume) = _
  rw [h]

/-- **A turn that shows a reading** leads the program where it leads the loop. -/
theorem matches_observed {session : Session} {desk : Desk} {w : World} (moment : Moment)
    (hmemory : moment.memory.length = beaconFrameMaxLength) (hkept : desk.frame.Kept)
    (hbody : desk.frame.body ≠ none)
    {before : Desk}
    (hglance : (glance digest session.tree moment.device).run before =
      (liftM (observeFrame digest session.tree (received moment.device)) : Method Desk _).run desk) :
    Matches (Returns digest (.running session w) moment)
      ((Program.running session before w).feed digest moment)
      ((Process.running session w).feed digest (observeFrame digest) moment.view) := by
  rw [Program.feed, hglance]
  match hobserved : observeFrame digest session.tree (received moment.device) with
  | .error e =>
    have hturn : (turn digest (observeFrame digest session.tree (received moment.device))
        moment.time.date session).run w = .error e w := by
      rw [hobserved]
      exact turn_run_error ..
    rw [feed_view_error moment hturn]
    exact matches_leave hmemory hkept.destroys e w (not_returns_of_error hturn)
  | .ok observation =>
    rw [Method.run_lift_ok]
    match hturn : (turn digest (.ok observation) moment.time.date session).run w with
    | .error e w' =>
      have hturn' := hobserved.symm ▸ hturn
      rw [feed_view_error moment hturn']
      simp only [hturn]
      exact matches_leave hmemory hkept.destroys e w' (not_returns_of_error hturn')
    | .ok session' w' =>
      have hturn' := hobserved.symm ▸ hturn
      have hreturns : Returns digest (.running session w) moment :=
        ⟨session, w, session', w', rfl, hturn'⟩
      simp only [hturn]
      refine ⟨?_, ?_, ?_⟩
      · show _ = (match (turn digest (observeFrame digest session.tree (received moment.device))
          moment.time.date session).run w with
          | .ok session w => Process.running session w
          | .error e w => (Process.restart e w).resume)
        rw [hturn']
        rfl
      · rintro _ _ _ ⟨⟩
        exact hkept
      · rintro _ _ _ ⟨⟩
        exact iff_of_true hbody hreturns

/-- **One turn.** -/
theorem feed_matches {armed : Prop} {p : Program} {q : Process} (h : Matches armed p q)
    {moment : Moment} (hmemory : moment.memory.length = beaconFrameMaxLength)
    (hsized : WellSized moment.device) (hsafe : armed → isStray moment.device = false) :
    Matches (Returns digest q moment) (p.feed digest moment)
      (q.feed digest (observeFrame digest) moment.view) := by
  obtain rfl := h.process
  cases p with
  | restarting w terminal =>
    exact matches_resume hmemory w terminal (by rintro ⟨_, _, _, _, ⟨⟩, _⟩)
  | undefined => exact ⟨rfl, (by rintro _ _ _ ⟨⟩), (by rintro _ _ _ ⟨⟩)⟩
  | running session desk w =>
    have hkept := h.kept session desk w rfl
    have harmed := h.body session desk w rfl
    obtain ⟨device, time, memory⟩ := moment
    match device with
    | none =>
      have hturn : (turn digest (observeFrame digest session.tree (received none))
          time.date session).run w = .error _ w := turn_run_error ..
      rw [Program.process, feed_view_error ⟨none, time, memory⟩ hturn, Program.feed,
        glance_none]
      exact matches_leave hmemory hkept.destroys _ w (not_returns_of_error hturn)
    | some reads =>
      match hparse : Frame.parse (readingOf reads) (readingOf reads).length with
      | .ok (header, body) =>
        exact matches_observed ⟨some reads, time, memory⟩ hmemory
          ((hkept.reading reads).decoded header body) (Option.some_ne_none _)
          (glance_decoded hkept hsized hparse)
      | .error e =>
        obtain ⟨g, hglance, hdestroy⟩ := glance_error digest session.tree hkept hsized hparse
        have hreceived : received (some reads) = .error e := by
          rw [received, hparse]
          rfl
        have hturn : (turn digest (observeFrame digest session.tree (received (some reads)))
            time.date session).run w = .error e w := by
          rw [hreceived]
          exact turn_run_error ..
        rw [Program.process, feed_view_error ⟨some reads, time, memory⟩ hturn,
          Program.feed, hglance]
        refine matches_leave hmemory (hdestroy.mpr ?_) e w (not_returns_of_error hturn)
        by_cases hbody : desk.frame.body = none
        · exact .inl hbody
        · exact .inr (hsafe (harmed.mp hbody))

/-- **The body is deleted twice**, by `decode` and by the handler. -/
theorem feed_stray {armed : Prop} {p : Program} {session : Session} {w : World}
    (h : Matches armed p (.running session w)) (harmed : armed) {moment : Moment}
    (hsized : WellSized moment.device) (hstray : isStray moment.device = true) :
    p.feed digest moment = .undefined := by
  have hp := h.process
  cases p with
  | restarting w terminal => cases hp
  | undefined => cases hp
  | running session desk w =>
    have hkept := h.kept session desk w rfl
    have hbody := (h.body session desk w rfl).mpr harmed
    obtain ⟨device, time, memory⟩ := moment
    match device with
    | none => cases hstray
    | some reads =>
      match hparse : Frame.parse (readingOf reads) (readingOf reads).length with
      | .ok parsed =>
        rw [isStray, hparse, Bool.and_false] at hstray
        cases hstray
      | .error e =>
        obtain ⟨g, hglance, hdestroy⟩ := glance_error digest session.tree hkept hsized hparse
        have hleave : Program.leave e ⟨g, desk.terminal⟩ w = .undefined := by
          rw [Program.leave]
          split
          · match hrun : Frame.destroy.run g with
            | .error _ _ => rfl
            | .ok _ g' =>
              rcases hdestroy.mp ⟨g', hrun⟩ with hnone | hnot
              · exact absurd hnone hbody
              · rw [hnot] at hstray
                cases hstray
          · rfl
        rw [Program.feed, hglance]
        simp only [hleave]
        rfl

theorem run_matches {memory : List UInt8} (hmemory : memory.length = beaconFrameMaxLength)
    (moments : List Moment)
    (hmoments : ∀ moment ∈ moments,
      moment.memory.length = beaconFrameMaxLength ∧ WellSized moment.device) :
    (¬ Trips digest w moments → Matches (LastReturns digest w moments)
      (Program.run digest w memory moments) (loopRun digest w moments)) ∧
    (Trips digest w moments → Program.run digest w memory moments = .undefined) := by
  induction moments using List.reverseRecOn with
  | nil =>
    constructor
    · intro _
      exact matches_resume hmemory w [] (by
        rintro ⟨before, moment, he, -⟩
        simp at he)
    · rintro ⟨before, moment, stray, after, he, -⟩
      simp at he
  | append_singleton moments moment ih =>
    obtain ⟨hbefore, hsized⟩ := List.forall_mem_append.mp hmoments
    obtain ⟨hmem, hmoment⟩ := hsized moment (List.mem_singleton_self moment)
    obtain ⟨hmatches, hundefined⟩ := ih hbefore
    rw [Program.run_concat, loopRun_concat, trips_concat]
    constructor
    · intro hnot
      rw [not_or] at hnot
      have hnext : Matches (Returns digest (loopRun digest w moments) moment) _ _ :=
        feed_matches (hmatches hnot.1) hmem hmoment fun hlast =>
          Bool.eq_false_iff.mpr fun hstray => hnot.2 ⟨hlast, hstray⟩
      exact ⟨hnext.process, hnext.kept, fun session desk w hp =>
        (hnext.body session desk w hp).trans lastReturns_concat.symm⟩
    · rintro (htrips | ⟨hlast, hstray⟩)
      · rw [hundefined htrips]
        rfl
      · by_cases htrips : Trips digest w moments
        · rw [hundefined htrips]
          rfl
        · obtain ⟨before, last, rfl, hreturns⟩ := id hlast
          obtain ⟨session, w', hrunning⟩ := running_of_returns hreturns
          have hmatch := hmatches htrips
          rw [loopRun_concat, hrunning] at hmatch
          exact feed_stray hmatch hlast hmoment hstray

end Refinement

/-- **The program is the main loop** on what a new frame would see of each reading, unless
a turn that does not throw is followed by a reading with a header that does not decode;
then the program has no meaning any more. -/
theorem run_process (digest : Str → Vector UInt8 32) (w : World) {memory : List UInt8}
    (hmemory : memory.length = beaconFrameMaxLength) (moments : List Moment)
    (hmoments : ∀ moment ∈ moments,
      moment.memory.length = beaconFrameMaxLength ∧ WellSized moment.device) :
    (¬ Trips digest w moments →
      (Program.run digest w memory moments).process = loopRun digest w moments) ∧
    (Trips digest w moments → Program.run digest w memory moments = .undefined) :=
  ⟨fun h => ((run_matches hmemory moments hmoments).1 h).process,
    (run_matches hmemory moments hmoments).2⟩

/-- A beacon without elements. -/
def namelessBeacon : Beacon := { Frame.homeBeacon with elements := [] }

/-- A turn that reads some bytes at once. -/
def readingMoment (bytes : List UInt8) : Moment := ⟨some [bytes], someTime, Frame.zeroMemory⟩

/-- A beacon, and then a header that is not a beacon's. -/
theorem run_process_stray : Program.run zeroDigest (homeWorld ssidScript) Frame.zeroMemory
    [readingMoment namelessBeacon.wire, readingMoment Frame.strayFrame] = .undefined := by
  have hmemory : Frame.zeroMemory.length = beaconFrameMaxLength := List.length_replicate
  have hsized {bytes : List UInt8} (h : (readingOf [bytes]).length ≥ 28) :
      WellSized (some [bytes]) := by
    rintro reads ⟨⟩ ⟨-, hlt, -⟩
    omega
  have hmoments : ∀ moment ∈ [readingMoment namelessBeacon.wire, readingMoment Frame.strayFrame],
      moment.memory.length = beaconFrameMaxLength ∧ WellSized moment.device := by
    simp only [List.forall_mem_cons]
    exact ⟨⟨hmemory, hsized (by decide +kernel)⟩, ⟨hmemory, hsized (by decide +kernel)⟩,
      fun _ h => absurd h List.not_mem_nil⟩
  refine (run_process zeroDigest (homeWorld ssidScript) hmemory _ hmoments).2
    ⟨[], _, _, [], rfl, ?_, by decide +kernel⟩
  -- the beacon has no name, so its turn passes over it
  have hboots : Boots zeroDigest _ _ _ _ := (startsEmpty_homeWorld compiled_ssidScript).boots
  obtain ⟨session, w, hrun, -, hready, -⟩ := boot_refines hboots
  have hseen : observeFrame zeroDigest ssidTree (received (some [namelessBeacon.wire])) =
      .ok (List.replicate 64 48, .null) := by decide +kernel
  have htree : session.tree = ssidTree := hready.tree
  refine ⟨session, w, session, w, hrun, ?_⟩
  rw [htree, show observeFrame zeroDigest ssidTree (received (readingMoment namelessBeacon.wire).device)
    = _ from hseen]
  exact turn_run_null rfl _ _ _ _

end SnapDesk
