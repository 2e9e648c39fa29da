import SnapDesk.BigNumber
import SnapDesk.Csv
import SnapDesk.Paths

/-! # The database of a network

`database.cpp`.  Every SSID has a storage file of its own, in a folder named after
the code file and the digest of its text.  The constructor makes the folders,
opens the storage file or makes a new one, and the other methods pass their
arguments on to it.  The digest that OpenSSL computes is a parameter. -/
namespace SnapDesk
open Delimited FileTree

/-- `DATABASE_ROOT`. -/
def databaseRoot : Str := lit "database"

/-- `COLUMN_NAMES`. -/
def columnNames : List Str := [lit "output", lit "creation_date", lit "last_date"]

/-- `KEY_COLUMN_NUMBER`. -/
def keyColumnNumber : Nat := 0

/-- `Database`, without the strings that only its constructor reads. -/
structure Database where
  csv : Csv
  deriving DecidableEq, Repr

namespace Database

/-- `std::replace` on a string. -/
def replaceChar (old new : UInt8) (s : Str) : Str := s.map fun c => if c = old then new else c

/-- The name of a code file as the name of a folder. -/
def codeName (codeFileName : Str) : Str := replaceChar slash 45 (replaceChar 46 95 codeFileName)

/-- The folder of a code file. -/
def codeFolder (codeFileName : Str) : Str := databaseRoot ++ lit "/" ++ codeName codeFileName

/-- The loop over the lines of the code file, before its line `i`. -/
def codeFrom (codeFileName : Str) : Nat → Str → Str → Nat → Action Str
  | 0, _, _, _ => throw .unfinished
  | rounds + 1, hashedCode, lastLine, i =>
      -- The first blank line ends the code
      if lastLine = [] then return hashedCode
      else do
        let line ← Communicator.getLine codeFileName i
        codeFrom codeFileName rounds (hashedCode ++ lastLine) line (i + 1)

/-- The code that is hashed: a round of the loop takes a line of the file. -/
def readCode (codeFileName : Str) : Action Str := do
  if ← Communicator.exist codeFileName then do
    let lastLine ← Communicator.getLine codeFileName 0
    let w ← get
    codeFrom codeFileName (((openText w codeFileName).getD []).length + 1) [] lastLine 1
  else return []

/-- The storage file, made if it is not there. -/
def openCsv (fileName : Str) : Action Csv := do
  if ← Communicator.exist (fileName ++ dataExtention) then Csv.new fileName
  else Csv.create fileName columnNames keyColumnNumber

section Constructor
variable (digest : Str → Vector UInt8 32)

/-- `hash`. -/
def hash (code : Str) : Str := (digest code).toList.flatMap lowerHexByte

/-- The folder of a code, as it is when the file with its name is hashed. -/
def hashFolder (codeFileName hashedCode : Str) : Str :=
  codeFolder codeFileName ++ lit "/" ++ hash digest hashedCode

/-- The storage files of an SSID, without their extensions. -/
def destinationFileName (codeFileName hashedCode ssid : Str) : Str :=
  hashFolder digest codeFileName hashedCode ++ lit "/" ++ ssid

/-- `Database::Database`. -/
def new (ssid codeFileName : Str) : Action Database := do
  Communicator.createFolder (codeFolder codeFileName)
  let hashedCode ← readCode codeFileName
  Communicator.createFolder (hashFolder digest codeFileName hashedCode)
  let csv ← openCsv (destinationFileName digest codeFileName hashedCode ssid)
  return ⟨csv⟩

end Constructor

def getCell (database : Database) (keyValue columnName : Str) : Action Str := do
  let rowNumber ← database.csv.getRowNumber keyValue
  let columnNumber ← database.csv.getColumnNumber columnName
  database.csv.getCell rowNumber columnNumber

def getKeyOfEntries (database : Database) (columnName cellValue : Str) : Action (List Str) := do
  let columnNumber ← database.csv.getColumnNumber columnName
  database.csv.getAllKeysWithValue columnNumber cellValue

def addEntry (database : Database) (values : List Str) : Action Unit :=
  database.csv.pushRow values

def replaceEntry (database : Database) (keyValue : Str) (values : List Str) : Action Unit := do
  let rowNumber ← database.csv.getRowNumber keyValue
  database.csv.replaceRow rowNumber values

/-! ### The names of the folders -/

theorem notMem_replaceChar {old new : UInt8} (h : new ≠ old) (s : Str) :
    old ∉ replaceChar old new s := by
  intro hmem
  obtain ⟨c, -, he⟩ := List.mem_map.mp hmem
  by_cases hc : c = old
  · rw [if_pos hc] at he
    exact h he
  · rw [if_neg hc] at he
    exact hc he

theorem notMem_replaceChar_of_ne {c old new : UInt8} (h : c ≠ new) {s : Str} (hs : c ∉ s) :
    c ∉ replaceChar old new s := by
  intro hmem
  obtain ⟨d, hd, he⟩ := List.mem_map.mp hmem
  by_cases hdo : d = old
  · rw [if_pos hdo] at he
    exact h he.symm
  · rw [if_neg hdo] at he
    exact hs (he ▸ hd)

/-- The name of the folder has neither dots nor slashes. -/
theorem isName_codeName {codeFileName : Str} (h : codeFileName ≠ []) :
    IsName (codeName codeFileName) := by
  have hslash : slash ∉ codeName codeFileName := notMem_replaceChar (by decide) _
  have hdot : 46 ∉ codeName codeFileName :=
    notMem_replaceChar_of_ne (by decide) (notMem_replaceChar (by decide) _)
  obtain ⟨c, hc⟩ := List.exists_mem_of_ne_nil (codeName codeFileName) (by
    simpa [codeName, replaceChar] using h)
  exact IsName.of_mem hslash hc fun he => hdot (he ▸ hc)

theorem zero_notMem_codeName {codeFileName : Str} (h : 0 ∉ codeFileName) :
    0 ∉ codeName codeFileName :=
  notMem_replaceChar_of_ne (by decide) (notMem_replaceChar_of_ne (by decide) h)

set_option maxRecDepth 4000 in
/-- The digest is written with digits and letters. -/
theorem hash_plain (digest : Str → Vector UInt8 32) (code : Str) :
    ∀ c ∈ hash digest code, c ≠ 0 ∧ c ≠ 46 ∧ c ≠ slash := by
  intro c hc
  obtain ⟨b, -, hcb⟩ := List.mem_flatMap.mp hc
  exact byte_forall (P := fun b => ∀ c ∈ lowerHexByte b, c ≠ 0 ∧ c ≠ 46 ∧ c ≠ slash)
    (by decide) b c hcb

theorem length_hash (digest : Str → Vector UInt8 32) (code : Str) :
    (hash digest code).length = 64 := by
  have hbyte (bytes : List UInt8) : (bytes.flatMap lowerHexByte).length = 2 * bytes.length := by
    induction bytes with
    | nil => rfl
    | cons b bytes ih =>
      rw [List.flatMap_cons, List.length_append, ih, List.length_cons]
      simp only [lowerHexByte, List.length_cons, List.length_nil]
      omega
  rw [hash, hbyte, Vector.length_toList]

theorem isName_hash (digest : Str → Vector UInt8 32) (code : Str) : IsName (hash digest code) := by
  have hplain := hash_plain digest code
  obtain ⟨c, hc⟩ := List.exists_mem_of_length_pos (l := hash digest code) (by
    rw [length_hash]
    decide)
  exact IsName.of_mem (fun hslash => (hplain slash hslash).2.2 rfl) hc (hplain c hc).2.1

/-! ### What the constructor does -/

/-- The text of a code file that is hashed: its lines up to the first blank one,
without their ends. -/
def codeText (content : Str) : Str := ((fields newline content).takeWhile (· ≠ [])).flatten

/-- The code that is hashed in a world. -/
def codeOf (w : World) (codeFileName : Str) : Str :=
  match openText w codeFileName with
  | some content => codeText content
  | none => []

section
variable {w : World} {codeFileName content : Str}

theorem codeFrom_run (h : openText w codeFileName = some content) (lines : List Str)
    (hashedCode lastLine : Str) {rounds i : Nat} (hlines : (fields newline content).drop i = lines)
    (hrounds : lines.length + 1 < rounds) :
    (codeFrom codeFileName rounds hashedCode lastLine i).run w =
      .ok (hashedCode ++ ((lastLine :: lines).takeWhile (· ≠ [])).flatten) w := by
  induction lines generalizing rounds i hashedCode lastLine with
  | nil =>
    obtain ⟨rounds, rfl⟩ := Nat.exists_eq_add_of_le' (show 2 ≤ rounds from hrounds)
    have hline := lineAt_of_drop_nil hlines
    by_cases hlast : lastLine = []
    · simp [codeFrom, hlast]
    · have hnil : codeFrom codeFileName (rounds + 1) (hashedCode ++ lastLine) [] (i + 1) =
          pure (hashedCode ++ lastLine) := if_pos rfl
      rw [codeFrom, if_neg hlast, Method.run_bind_ok (Communicator.getLine_run_of_open h i), hline,
        hnil]
      simp [hlast]
  | cons line lines ih =>
    obtain ⟨rounds, rfl⟩ := Nat.exists_eq_add_one_of_ne_zero (n := rounds) (by omega)
    obtain ⟨hline, hnext⟩ := lineAt_of_drop hlines
    by_cases hlast : lastLine = []
    · simp [codeFrom, hlast]
    · have htake : (lastLine :: line :: lines).takeWhile (· ≠ []) =
          lastLine :: (line :: lines).takeWhile (· ≠ []) :=
        List.takeWhile_cons_of_pos (decide_eq_true hlast)
      rw [codeFrom, if_neg hlast, Method.run_bind_ok (Communicator.getLine_run_of_open h i), hline,
        ih (hashedCode ++ lastLine) line hnext (by simpa using hrounds), htake, List.flatten_cons,
        List.append_assoc]

theorem readCode_run (w : World) (codeFileName : Str) :
    (readCode codeFileName).run w = .ok (codeOf w codeFileName) w := by
  rw [readCode, Method.run_bind_ok (Communicator.exist_run w codeFileName), codeOf]
  match hopen : openText w codeFileName with
  | none => rfl
  | some content =>
    simp only [Option.isSome_some, if_true]
    rw [Method.run_bind_ok (Communicator.getLine_run_of_open hopen 0),
      Method.run_bind_ok (Method.run_get w), hopen, Option.getD_some, codeText, lineAt_eq]
    have hlen := length_fields_le newline content
    match hlines : fields newline content with
    | [] => rfl
    | line :: lines =>
      rw [hlines, List.length_cons] at hlen
      rw [List.getElem?_cons_zero, Option.getD_some,
        codeFrom_run hopen lines [] line (by rw [hlines]; rfl) (by omega)]
      rfl

end

end Database
end SnapDesk
