import SnapDesk.Bytes
import SnapDesk.Delimited
import SnapDesk.FileTree

/-! # The operating system, as the program sees it

`os_communicator.cpp`.  The world of the program is a tree of folders and files,
the folder it runs in, and the list of the commands it has handed to the shell.
What a command does is not modelled: the list records the calls of `system`.
The operations fail only where a path denotes nothing or something of the wrong
kind.

A text file is read with `std::getline`: `IStream` is an input stream with its
`eofbit` and `failbit`, and every loop over lines is written with it.  On a text
whose lines are all closed, `lineAt` and `replaceLine` are the operations on the
list of lines (`lineAt_eq`, `replaceText_lines`). -/
namespace SnapDesk
open Delimited FileTree

/-- The separator of lines. -/
def newline : UInt8 := 10

/-- The separator of path components. -/
def slash : UInt8 := 47

/-! ### Input streams -/

/-- An `std::ifstream` on a text: what is left of it, and the state bits. -/
structure IStream where
  rest : Str
  eof : Bool
  fail : Bool

namespace IStream

/-- A stream just opened. -/
def ofText (content : Str) : IStream := ⟨content, false, false⟩

/-- `std::getline`: the stream afterwards, and the string it has filled.  A
stream that is not good leaves the string as it was. -/
def getline (s : IStream) (line : Str) : IStream × Str :=
  if s.eof || s.fail then ({ s with fail := true }, line)
  else if s.rest = [] then (⟨[], true, true⟩, [])
  else if newline ∈ s.rest then
    (⟨afterFirst newline s.rest, false, false⟩, firstField newline s.rest)
  -- The end closes the last line, and that sets only one of the bits
  else (⟨[], true, false⟩, s.rest)

/-- The loop of `get_line`, `number` lines before the line it looks for. -/
def lineFrom (s : IStream) : Nat → Str
  | 0 =>
      let (s', line) := s.getline []
      if s'.fail then [] else line
  | number + 1 =>
      let (s', _) := s.getline []
      if s'.fail then [] else lineFrom s' number

/-- The first loop of `replace_line`: `count` lines are copied. -/
def copyLines : Nat → IStream → Str → Str → IStream × Str × Str
  | 0, s, line, out => (s, line, out)
  | count + 1, s, line, out =>
      let (s', line') := s.getline line
      copyLines count s' line' (out ++ line' ++ [newline])

/-- The last loop of `replace_line`: lines are copied until the stream is at its
end.  Every round but the last takes a line out of the stream. -/
def copyRest : Nat → IStream → Str → Str → Str
  | 0, _, _, out => out
  | rounds + 1, s, line, out =>
      let (s', line') := s.getline line
      -- The end is noticed before the line that meets it is copied
      if s'.eof then out else copyRest rounds s' line' (out ++ line' ++ [newline])

end IStream

/-- What `get_line` reads from a file with the given content. -/
def lineAt (content : Str) (number : Nat) : Str := (IStream.ofText content).lineFrom number

/-- What `replace_line` writes. -/
def replaceText (content : Str) (number : Nat) (newLine : Str) : Str :=
  let (s, line, out) := IStream.copyLines number (IStream.ofText content) [] []
  let (s, line) := s.getline line
  IStream.copyRest (content.length + 1) s line (out ++ newLine ++ [newline])

/-! ### Devices -/

/-- An `std::ifstream` on a device: the bytes of its buffer not taken yet, and
what the reads of the device to come will return. -/
structure DeviceStream where
  chunk : List UInt8
  reads : List (List UInt8)

/-- `ifstream::get`: when the buffer is used up the device is read again, and a
read that returns nothing is the end of the file. -/
def DeviceStream.get : DeviceStream → Option (UInt8 × DeviceStream)
  | ⟨c :: chunk, reads⟩ => some (c, ⟨chunk, reads⟩)
  | ⟨[], (c :: chunk) :: reads⟩ => some (c, ⟨chunk, reads⟩)
  | ⟨[], _⟩ => none

/-- The loop of `in_buffer`, `count` bytes before its end. -/
def fillFrom : Nat → DeviceStream → List UInt8 → Nat → List UInt8 × Nat
  | 0, _, buffer, byteRead => (buffer, byteRead)
  | count + 1, file, buffer, byteRead =>
      match file.get with
      | none => (buffer, byteRead)
      | some (c, file) => fillFrom count file (buffer.set byteRead c) (byteRead + 1)

/-- `in_buffer` on a device that cannot be opened, or whose reads return the
given pieces: the buffer afterwards and the number of bytes read. -/
def inBuffer (fileName : Str) (device : Option (List (List UInt8))) (buffer : List UInt8)
    (bufferSize : Nat) : Except Failure (List UInt8 × Nat) :=
  match device with
  | none => .error (.runtimeError (lit "Failed to open file: " ++ fileName))
  | some reads => .ok (fillFrom bufferSize ⟨[], reads⟩ buffer 0)

/-! ### The world -/

structure World where
  fs : Tree Str Str
  cwd : List Str
  commands : List Str

/-- What a call does to the world. -/
abbrev Action (α : Type) := Method World α

/-- The component of a path that a name between two slashes stands for. -/
def pathStep (name : Str) : Step Str :=
  if name = [] ∨ name = lit "." then .stay else if name = lit ".." then .up else .down name

/-- The location a path denotes. -/
def locate (w : World) (path : Str) : Option (List Str) :=
  let path := cStr path
  if path = [] then none
  else walk w.fs (if path.head? = some slash then [] else w.cwd)
    ((fields slash (path ++ [slash])).map pathStep)

/-- Opening a file for reading.  A folder opens too, but nothing can be read
from it. -/
def openText (w : World) (path : Str) : Option Str :=
  match (locate w path).bind w.fs with
  | some (.file content) => some content
  | some .folder => some []
  | none => none

/-- Where a file opened for writing lies. -/
def openWritable (w : World) (path : Str) : Option (List Str) :=
  (locate w path).filter fun loc => ¬ isFolder w.fs loc

/-- The file at a location, empty if there is none. -/
def contentAt (w : World) (loc : List Str) : Str :=
  match w.fs loc with
  | some (.file content) => content
  | _ => []

def writeFile (loc : List Str) (content : Str) (w : World) : World :=
  { w with fs := put w.fs loc (.file content) }

/-- The kinds of `get_file_type`. -/
inductive FileType where
  | none
  | file
  | folder
  deriving DecidableEq, Repr

namespace Communicator

def failedToOpen (fileName : Str) : Failure :=
  .runtimeError (lit "Failed to open file: " ++ fileName)

def exist (fileName : Str) : Action Bool := do
  let w ← get
  return (openText w fileName).isSome

def getLine (fileName : Str) (lineNumber : Nat) : Action Str := do
  let w ← get
  match openText w fileName with
  | none => throw (failedToOpen fileName)
  | some content => return lineAt content lineNumber

def addLine (fileName line : Str) : Action Unit := do
  let w ← get
  match openWritable w fileName with
  | none => throw (failedToOpen fileName)
  | some loc => set (writeFile loc (contentAt w loc ++ line ++ [newline]) w)

def replaceLine (fileName : Str) (lineNumber : Nat) (newLine : Str) : Action Unit := do
  let old ← getLine fileName lineNumber
  if old = [] then
    throw (.invalidArgument (lit "The line number " ++ decimal lineNumber ++ lit " does not exist"))
  else do
    let w ← get
    match openText w fileName, openWritable w fileName with
    | some content, some loc => set (writeFile loc (replaceText content lineNumber newLine) w)
    | _, _ => throw (failedToOpen fileName)

def newFile (fileName : Str) : Action Unit := do
  let w ← get
  match openWritable w fileName with
  | none => return ()
  | some loc => set (writeFile loc [] w)

def getFileType (name : Str) : Action FileType := do
  let w ← get
  match (locate w name).bind w.fs with
  | some .folder => return .folder
  | some (.file _) => return .file
  | none => return .none

/-- `filesystem::create_directory` of a path where nothing is. -/
def createDirectory (folderName : Str) : Action Unit := do
  let w ← get
  match locate w folderName with
  | none => throw (.filesystemError folderName)
  | some loc => set { w with fs := put w.fs loc .folder }

def createFolder (folderName : Str) : Action Unit := do
  let type ← getFileType folderName
  if type = .file then
    throw (.runtimeError (lit "The file " ++ folderName ++ lit " must be a folder"))
  else if type ≠ .none then return ()
  else createDirectory folderName

/-- The command line of `notify`. -/
def notifyCommand (message : Str) : Str :=
  lit "notify-send \"" ++ message ++ lit "\" -a snapdesk -t 5000"

/-- `system` of the command line, as a C string. -/
def notify (message : Str) : Action Unit :=
  modify fun w => { w with commands := w.commands ++ [cStr (notifyCommand message)] }

end Communicator

/-- A broken-down local time, months and days counted from 1. -/
structure LocalTime where
  day : Nat
  month : Nat
  year : Nat
  hour : Nat
  min : Nat
  sec : Nat
  deriving DecidableEq, Repr

/-- Two decimal digits. -/
def twoDigits (n : Nat) : Str := [UInt8.ofNat (48 + n / 10 % 10), UInt8.ofNat (48 + n % 10)]

/-- `get_current_date` at a time: the format `%d/%m/%Y %H h %M min %S sec`. -/
def LocalTime.date (t : LocalTime) : Str :=
  twoDigits t.day ++ lit "/" ++ twoDigits t.month ++ lit "/" ++ decimal t.year ++ lit " " ++
    twoDigits t.hour ++ lit " h " ++ twoDigits t.min ++ lit " min " ++ twoDigits t.sec ++ lit " sec"

/-! ### Lines of a text -/

namespace IStream

theorem getline_nil (line : Str) : (ofText []).getline line = (⟨[], true, true⟩, []) := by
  simp [ofText, getline]

theorem getline_line {l : Str} (hl : newline ∉ l) (xs line : Str) :
    (ofText (l ++ newline :: xs)).getline line = (ofText xs, l) := by
  have hmem : newline ∈ l ++ newline :: xs := by simp
  simp [ofText, getline, hmem, afterFirst_append_sep newline hl, firstField_append_sep newline hl]

theorem getline_unclosed {l : Str} (hl : newline ∉ l) (hne : l ≠ []) (line : Str) :
    (ofText l).getline line = (⟨[], true, false⟩, l) := by
  simp [ofText, getline, hl, hne]

theorem lineFrom_ended {s : IStream} (h : s.eof = true) (number : Nat) :
    s.lineFrom number = [] := by
  cases number <;> simp [lineFrom, getline, h]

end IStream

open IStream in
/-- **`get_line` is the list of lines.** -/
theorem lineAt_eq (content : Str) (number : Nat) :
    lineAt content number = ((fields newline content)[number]?).getD [] := by
  obtain ⟨ls, f, hls, hf, rfl⟩ := exists_terminate_append newline content
  rw [fields_terminate_append newline hls, lineAt]
  induction ls generalizing number with
  | nil =>
    rw [terminate_nil, List.nil_append, List.nil_append]
    by_cases hne : f = []
    · subst hne
      cases number <;> simp [lineFrom, getline_nil]
    · rw [fields_unclosed newline hf hne]
      cases number with
      | zero => simp [lineFrom, getline_unclosed hf hne]
      | succ number =>
        simp [lineFrom, getline_unclosed hf hne, lineFrom_ended (s := ⟨[], true, false⟩) rfl]
  | cons l ls ih =>
    have hl : newline ∉ l := hls l List.mem_cons_self
    rw [terminate_cons, List.append_assoc, List.cons_append]
    cases number with
    | zero =>
      rw [lineFrom, getline_line hl]
      rfl
    | succ number =>
      rw [lineFrom, getline_line hl]
      exact ih number fun g hg => hls g (List.mem_cons_of_mem l hg)

/-- The lines from a number on are read one after the other. -/
theorem lineAt_of_drop {content line : Str} {lines : List Str} {i : Nat}
    (h : (fields newline content).drop i = line :: lines) :
    lineAt content i = line ∧ (fields newline content).drop (i + 1) = lines := by
  constructor
  · rw [lineAt_eq, ← List.head?_drop, h]
    rfl
  · rw [← List.tail_drop, h]
    rfl

theorem lineAt_of_drop_nil {content : Str} {i : Nat} (h : (fields newline content).drop i = []) :
    lineAt content i = [] := by
  rw [lineAt_eq, List.getElem?_eq_none (List.drop_eq_nil_iff.mp h)]
  rfl

theorem lineAt_terminate {ls : List Str} (hls : ∀ l ∈ ls, newline ∉ l) (number : Nat) :
    lineAt (terminate newline ls) number = (ls[number]?).getD [] := by
  rw [lineAt_eq, fields_terminate newline hls]

namespace IStream

/-- The first lines are copied, whatever follows them. -/
theorem copyLines_lines {ls : List Str} (hls : ∀ l ∈ ls, newline ∉ l) (xs : Str) {count : Nat}
    (hc : count ≤ ls.length) (line out : Str) :
    ∃ line', copyLines count (ofText (terminate newline ls ++ xs)) line out =
      (ofText (terminate newline (ls.drop count) ++ xs), line', out ++ terminate newline (ls.take count)) := by
  induction count generalizing ls line out with
  | zero => exact ⟨line, by simp [copyLines]⟩
  | succ count ih =>
    cases ls with
    | nil => simp at hc
    | cons l ls =>
      obtain ⟨line', h⟩ := ih (fun g hg => hls g (List.mem_cons_of_mem l hg)) (by simpa using hc) l
        (out ++ l ++ [newline])
      refine ⟨line', ?_⟩
      rw [terminate_cons, List.append_assoc, List.cons_append, copyLines,
        getline_line (hls l List.mem_cons_self)]
      simp only [h]
      simp

/-- The last loop copies the lines that are closed, and no other. -/
theorem copyRest_lines {ls : List Str} (hls : ∀ l ∈ ls, newline ∉ l) {f : Str} (hf : newline ∉ f)
    {rounds : Nat} (hr : ls.length < rounds) (line out : Str) :
    copyRest rounds (ofText (terminate newline ls ++ f)) line out =
      out ++ terminate newline ls := by
  induction ls generalizing rounds line out with
  | nil =>
    obtain ⟨rounds, rfl⟩ := Nat.exists_eq_add_one_of_ne_zero (n := rounds) (by omega)
    rw [terminate_nil, List.nil_append, List.append_nil, copyRest]
    by_cases hne : f = []
    · simp [hne, getline_nil]
    · simp [getline_unclosed hf hne]
  | cons l ls ih =>
    cases rounds with
    | zero => simp at hr
    | succ rounds =>
      rw [terminate_cons, List.append_assoc, List.cons_append, copyRest,
        getline_line (hls l List.mem_cons_self)]
      simp only [ofText, Bool.false_eq_true, if_false]
      rw [← ofText, ih (fun g hg => hls g (List.mem_cons_of_mem l hg)) (by simpa using hr)]
      simp

end IStream

open IStream in
/-- A closed line is replaced, and a last line that is not closed is lost. -/
theorem replaceText_lines {ls : List Str} (hls : ∀ l ∈ ls, newline ∉ l) {f : Str} (hf : newline ∉ f)
    {number : Nat} (hn : number < ls.length) (newLine : Str) :
    replaceText (terminate newline ls ++ f) number newLine =
      terminate newline (ls.set number newLine) := by
  obtain ⟨line', h⟩ := copyLines_lines hls f (Nat.le_of_lt hn) [] []
  have hrest : ∀ l ∈ ls.drop (number + 1), newline ∉ l :=
    fun l hl => hls l (List.mem_of_mem_drop hl)
  have hlen : (ls.drop (number + 1)).length < (terminate newline ls ++ f).length + 1 := by
    have := length_le_terminate newline ls
    rw [List.length_drop, List.length_append]
    omega
  rw [replaceText, h, List.drop_eq_getElem_cons hn, terminate_cons, List.append_assoc,
    List.cons_append]
  simp only [getline_line (hls _ (List.getElem_mem hn))]
  rw [copyRest_lines hrest hf hlen, List.set_eq_take_append_cons_drop, if_pos hn,
    terminate_append, terminate_cons]
  simp

open IStream in
/-- A last line that is not closed is replaced by one that is. -/
theorem replaceText_unclosed {ls : List Str} (hls : ∀ l ∈ ls, newline ∉ l) {f : Str}
    (hf : newline ∉ f) (hne : f ≠ []) (newLine : Str) :
    replaceText (terminate newline ls ++ f) ls.length newLine =
      terminate newline (ls ++ [newLine]) := by
  obtain ⟨line', h⟩ := copyLines_lines hls f (Nat.le_refl ls.length) [] []
  rw [replaceText, h, List.drop_length, terminate_nil, List.nil_append, List.take_length]
  simp only [getline_unclosed hf hne]
  rw [copyRest, terminate_append, terminate_cons]
  simp [getline]

/-- **`replace_line` is an update of the list of lines**, on a text whose lines
are all closed. -/
theorem replaceText_terminate {ls : List Str} (hls : ∀ l ∈ ls, newline ∉ l) {number : Nat}
    (hn : number < ls.length) (newLine : Str) :
    replaceText (terminate newline ls) number newLine =
      terminate newline (ls.set number newLine) := by
  have h := replaceText_lines hls List.not_mem_nil hn newLine
  rwa [List.append_nil] at h

/-! ### Bytes of a device -/

/-- The loop takes a piece up to its end, if the device returns nothing after it. -/
theorem fillFrom_piece {chunk buffer : List UInt8} {count byteRead : Nat} (k : Nat)
    (hcount : chunk.length ≤ count) (hbuffer : byteRead + chunk.length ≤ buffer.length) :
    fillFrom count ⟨chunk, List.replicate k []⟩ buffer byteRead =
      (buffer.take byteRead ++ (chunk ++ buffer.drop (byteRead + chunk.length)),
        byteRead + chunk.length) := by
  induction chunk generalizing buffer count byteRead with
  | nil =>
    have hend : (⟨[], List.replicate k []⟩ : DeviceStream).get = none := by cases k <;> rfl
    cases count with
    | zero => simp [fillFrom]
    | succ count => simp [fillFrom, hend]
  | cons c chunk ih =>
    rw [List.length_cons] at hcount hbuffer
    obtain ⟨count, rfl⟩ := Nat.exists_eq_add_one_of_ne_zero (n := count) (by omega)
    have htake : (buffer.set byteRead c).take (byteRead + 1) = buffer.take byteRead ++ [c] := by
      rw [List.take_set, List.take_succ_eq_append_getElem (by omega),
        List.set_append_right _ _ (by rw [List.length_take]; omega)]
      simp [Nat.min_eq_left (show byteRead ≤ buffer.length by omega)]
    have hstep : fillFrom (count + 1) ⟨c :: chunk, List.replicate k []⟩ buffer byteRead =
        fillFrom count ⟨chunk, List.replicate k []⟩ (buffer.set byteRead c) (byteRead + 1) := rfl
    rw [hstep, ih (by omega) (by rw [List.length_set]; omega), htake,
      List.drop_set_of_lt (by omega), List.length_cons, Nat.add_assoc, Nat.add_comm 1]
    simp

/-- A device that returns one piece and then nothing is read as that piece. -/
theorem inBuffer_piece (fileName : Str) {piece buffer : List UInt8} {bufferSize : Nat} (k : Nat)
    (hpiece : piece.length ≤ bufferSize) (hbuffer : bufferSize ≤ buffer.length) :
    inBuffer fileName (some (piece :: List.replicate k [])) buffer bufferSize =
      .ok (piece ++ buffer.drop piece.length, piece.length) := by
  have hrefill : fillFrom bufferSize ⟨[], piece :: List.replicate k []⟩ buffer 0 =
      fillFrom bufferSize ⟨piece, List.replicate k []⟩ buffer 0 := by
    cases bufferSize with
    | zero => rfl
    | succ n =>
      cases piece with
      | nil =>
        have hend : (⟨[], List.replicate k []⟩ : DeviceStream).get = none := by cases k <;> rfl
        rw [fillFrom, fillFrom, hend]
        rfl
      | cons c piece => rfl
  rw [inBuffer, hrefill, fillFrom_piece k hpiece (by omega)]
  simp

/-! ### What the operations do to the world -/

/-- The path denotes a file with this content at this location. -/
structure HasFile (w : World) (path : Str) (loc : List Str) (content : Str) : Prop where
  locate : locate w path = some loc
  entry : w.fs loc = some (.file content)

section Operations
variable {w : World} {path : Str} {loc : List Str} {content : Str}

theorem HasFile.openText (h : HasFile w path loc content) : openText w path = some content := by
  simp [SnapDesk.openText, h.locate, h.entry]

theorem HasFile.notFolder (h : HasFile w path loc content) : isFolder w.fs loc = false := by
  simp [isFolder, h.entry]

theorem openWritable_eq (h : locate w path = some loc) (hf : isFolder w.fs loc = false) :
    openWritable w path = some loc := by
  simp [openWritable, h, hf]

theorem locate_writeFile (hf : isFolder w.fs loc = false) (content path : Str) :
    locate (writeFile loc content w) path = locate w path := by
  simp only [locate, writeFile, walk_put_file hf]

/-- Another file stays where it is. -/
theorem located_writeFile (hf : isFolder w.fs loc = false) {path' : Str} {loc' : List Str}
    (hpath : locate w path' = some loc') (hf' : isFolder w.fs loc' = false) (content : Str) :
    locate (writeFile loc content w) path' = some loc' ∧
      isFolder (writeFile loc content w).fs loc' = false :=
  ⟨(locate_writeFile hf content path').trans hpath, (isFolder_put_file hf content loc').trans hf'⟩

theorem HasFile.writeFile (h : HasFile w path loc content) (content' : Str) :
    HasFile (writeFile loc content' w) path loc content' where
  locate := (locate_writeFile h.notFolder content' path).trans h.locate
  entry := put_self ..

/-- Another file keeps its place and its content. -/
theorem HasFile.writeFile_of_ne (h : HasFile w path loc content) {loc' : List Str}
    (hf : isFolder w.fs loc' = false) (hne : loc ≠ loc') (content' : Str) :
    HasFile (SnapDesk.writeFile loc' content' w) path loc content where
  locate := (locate_writeFile hf content' path).trans h.locate
  entry := (put_of_ne hne _).trans h.entry

theorem writeFile_writeFile (loc : List Str) (content content' : Str) (w : World) :
    writeFile loc content' (writeFile loc content w) = writeFile loc content' w := by
  simp only [writeFile, put_put]

namespace Communicator

theorem exist_run (w : World) (path : Str) :
    (exist path).run w = .ok (openText w path).isSome w := rfl

/-- A folder that is opened has no lines, so what is open need not be a file. -/
theorem getLine_run_of_open (h : openText w path = some content) (number : Nat) :
    (getLine path number).run w = .ok (lineAt content number) w := by
  rw [getLine, Method.run_bind_ok (Method.run_get w)]
  simp only [h, Method.run_pure]

theorem getLine_run (h : HasFile w path loc content) (number : Nat) :
    (getLine path number).run w = .ok (lineAt content number) w :=
  getLine_run_of_open h.openText number

theorem addLine_run (h : HasFile w path loc content) (line : Str) :
    (addLine path line).run w = .ok () (writeFile loc (content ++ line ++ [newline]) w) := by
  have hcontent : contentAt w loc = content := by simp [contentAt, h.entry]
  rw [addLine, Method.run_bind_ok (Method.run_get w)]
  simp only [openWritable_eq h.locate h.notFolder, hcontent, Method.run_set]

/-- A file made anew and its lines added one by one. -/
theorem addLine_writeFile_run (h : locate w path = some loc) (hf : isFolder w.fs loc = false)
    (content line : Str) :
    (addLine path line).run (writeFile loc content w) =
      .ok () (writeFile loc (content ++ line ++ [newline]) w) := by
  have hfile : HasFile (writeFile loc content w) path loc content :=
    ⟨(locate_writeFile hf content path).trans h, put_self ..⟩
  rw [addLine_run hfile, writeFile_writeFile]

theorem newFile_run (h : locate w path = some loc) (hf : isFolder w.fs loc = false) :
    (newFile path).run w = .ok () (writeFile loc [] w) := by
  rw [newFile, Method.run_bind_ok (Method.run_get w)]
  simp only [openWritable_eq h hf, Method.run_set]

theorem replaceLine_run (h : HasFile w path loc content) {number : Nat}
    (hline : lineAt content number ≠ []) (newLine : Str) :
    (replaceLine path number newLine).run w =
      .ok () (writeFile loc (replaceText content number newLine) w) := by
  rw [replaceLine, Method.run_bind_ok (getLine_run h number), if_neg hline,
    Method.run_bind_ok (Method.run_get w)]
  simp only [h.openText, openWritable_eq h.locate h.notFolder, Method.run_set]

/-- A folder that is there is left as it is. -/
theorem createFolder_run_of_folder (h : locate w path = some loc)
    (hf : w.fs loc = some .folder) : (createFolder path).run w = .ok () w := by
  have htype : (getFileType path).run w = .ok .folder w := by
    rw [getFileType, Method.run_bind_ok (Method.run_get w)]
    simp only [h, Option.bind_some, hf, Method.run_pure]
  rw [createFolder, Method.run_bind_ok htype, if_neg (by decide), if_pos (by decide),
    Method.run_pure]

/-- A folder that is not there is made. -/
theorem createFolder_run_of_none (h : locate w path = some loc) (hf : w.fs loc = none) :
    (createFolder path).run w = .ok () { w with fs := put w.fs loc .folder } := by
  have htype : (getFileType path).run w = .ok .none w := by
    rw [getFileType, Method.run_bind_ok (Method.run_get w)]
    simp only [h, Option.bind_some, hf, Method.run_pure]
  rw [createFolder, Method.run_bind_ok htype, if_neg (by decide), if_neg (by decide),
    createDirectory, Method.run_bind_ok (Method.run_get w)]
  simp only [h, Method.run_set]

end Communicator
end Operations

end SnapDesk
