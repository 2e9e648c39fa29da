import SnapDesk.Compiler
import SnapDesk.Database
import SnapDesk.Notification

/-! # The main loop

`main.cpp`.  `run` makes the database folder, compiles the script and then turns
in a loop: it looks at the frame that the sniffer holds, opens the database of
its SSID if that is not the one already open, and writes an entry.  An exception
ends `run`, and `main` calls it again.

What a turn sees of the frame is a parameter, `observe`: the value of the script
and the value of the SSID element, or the exception that reading, decoding or
evaluating the frame has thrown.  Output on the terminal is not modelled. -/
namespace SnapDesk

/-- `SCRIPT_FILE`. -/
def scriptFile : Str := lit "./code.txt"

/-- The code file that the database is named after. -/
def codeFile : Str := lit "snappy.txt"

/-- The variables of `run` that a turn finds and leaves. -/
structure Session where
  tree : Node
  currentSsid : Str
  database : Option Database

/-- `get_executable_tree` on the script file. -/
def compileScript : Action Node := do
  let w ← get
  match openText w scriptFile with
  | none => throw (Communicator.failedToOpen scriptFile)
  | some script => Compiler.getExecutableTree script

/-- `run`, before its loop. -/
def start : Action Session := do
  Communicator.createFolder databaseRoot
  let tree ← compileScript
  return ⟨tree, [], none⟩

/-- The branch of a turn that depends on the entries found. -/
def updateEntry (database : Database) (ssid output date : Str) : Action Unit := do
  let keys ← database.getKeyOfEntries (lit "output") output
  if keys = [] then do
    database.addEntry [output, date, date]
    Communicator.notify (newApMessage ssid)
  else do
    -- The date of the first visit is kept
    let creationDate ← database.getCell output (lit "creation_date")
    database.replaceEntry output [output, creationDate, date]

section Loop
variable (digest : Str → Vector UInt8 32)

/-- The database of the SSID, opened if it is not open. -/
def openDatabase (session : Session) (ssid : Str) : Action Database :=
  match (if ssid ≠ session.currentSsid then none else session.database) with
  | some database => return database
  | none => Database.new digest ssid codeFile

/-- A turn of the loop, at the time with the given date. -/
def turn (observation : Except Failure (Str × BigNumber)) (date : Str) (session : Session) :
    Action Session := do
  let (output, element) ← observation
  if element.isNull then return session
  else do
    let ssid ← element.charString
    let database ← openDatabase digest session ssid
    updateEntry database ssid output date
    return ⟨session.tree, ssid, some database⟩

/-- The program, between two turns. -/
inductive Process where
  | running (session : Session) (w : World)
  | restarting (w : World)
  | undefined

namespace Process

/-- What becomes of the program when `run` leaves its loop or does not reach it. -/
def restart (e : Failure) (w : World) : Process :=
  if e.isException then .restarting w else .undefined

/-- `main` calls `run` again. -/
def resume : Process → Process
  | .restarting w => match start.run w with
      | .ok session w => .running session w
      | .error e w => restart e w
  | p => p

variable {α : Type} (observe : Node → α → Except Failure (Str × BigNumber))

/-- One frame and the time at which it is read. -/
def feed (p : Process) (input : α × LocalTime) : Process :=
  match p with
  | .running session w =>
      match (turn digest (observe session.tree input.1) input.2.date session).run w with
      | .ok session w => .running session w
      | .error e w => (restart e w).resume
  | p => p.resume

/-- The program after a list of frames, from its start in a world. -/
def run (w : World) (inputs : List (α × LocalTime)) : Process :=
  inputs.foldl (feed digest observe) (Process.restarting w).resume

def world? : Process → Option World
  | .running _ w => some w
  | .restarting w => some w
  | .undefined => none

variable {digest observe} in
/-- One frame more. -/
theorem run_concat (w : World) (inputs : List (α × LocalTime)) (input : α × LocalTime) :
    run digest observe w (inputs ++ [input]) =
      (run digest observe w inputs).feed digest observe input :=
  List.foldl_concat ..

end Process

/-! ### What a turn sees -/

variable {digest} {element : BigNumber} {ssid : Str}

/-- What the frame has thrown the turn throws. -/
theorem turn_run_error (e : Failure) (date : Str) (session : Session) (w : World) :
    (turn digest (.error e) date session).run w = .error e w :=
  Method.run_bind_error (Method.run_lift_error e w)

/-- A frame without a name is passed over. -/
theorem turn_run_null (h : element.isNull = true) (output date : Str) (session : Session)
    (w : World) :
    (turn digest (.ok (output, element)) date session).run w = .ok session w := by
  rw [turn, Method.run_bind_ok (Method.run_lift_ok _ w)]
  simp only [h, if_true, Method.run_pure]

/-- A frame with a name is entered in the database of that name. -/
theorem turn_run_named (h : element.isNull = false) (hssid : element.charString = .ok ssid)
    (output date : Str) (session : Session) (w : World) :
    (turn digest (.ok (output, element)) date session).run w = (do
      let database ← openDatabase digest session ssid
      updateEntry database ssid output date
      return ⟨session.tree, ssid, some database⟩ : Action Session).run w := by
  rw [turn, Method.run_bind_ok (Method.run_lift_ok _ w)]
  simp only [h, Bool.false_eq_true, if_false, hssid]
  rw [Method.run_bind_ok (Method.run_lift_ok ssid w)]

end Loop
end SnapDesk
