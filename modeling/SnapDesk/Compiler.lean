import SnapDesk.Communicator
import SnapDesk.Node

/-! # The compiler

`compiler.cpp`.  `read_line` is a loop and a recursion at once: a round of the
loop reads a line, and inside a function it calls itself for one argument.
`readLoop` is both; its third argument is the function whose arguments are being
read, if any, and its first bounds how deep rounds and calls are nested.

`codeLines` are the lines that mean something: neither blank nor a comment. -/
namespace SnapDesk
open Delimited

namespace Compiler

/-- The node that an opening line begins. -/
def newFunction (line : Str) : Except Failure Node :=
  if line = lit "Sha256 \x7b" then .ok (.function .sha256 [])
  else if line = lit "Cut_bit \x7b" then .ok (.function .cutBit [])
  else if line = lit "Cut_byte \x7b" then .ok (.function .cutByte [])
  else .error (.runtimeError (lit "fonction " ++ line ++ lit " does not exist!"))

/-- What `read_line` does after its loop. -/
def attach (calls : Nat) (currentNode : Node) (auxFunctionNode newNode : Option Node)
    (nextLine : Nat) : Except Failure (Node × Nat) :=
  if auxFunctionNode.isSome then
    .error (.runtimeError (lit "Function beggined but not ended"))
  else match newNode with
    | none => .ok (currentNode, nextLine + 1)
    | some node => do
        let currentNode ← currentNode.addNode node calls
        return (currentNode, nextLine + 1)

/-- The loop of `read_line`, on the lines that `get_line` returns. -/
def readLoop (getLine : Nat → Except Failure Str) :
    Nat → Node → Option Node → Nat → Except Failure (Node × Nat)
  | 0, _, _, _ => .error .unfinished
  | calls + 1, currentNode, auxFunctionNode, nextLine => do
      let line ← getLine nextLine
      -- An empty line has neither a first nor a last character
      if line = [] then attach (calls + 1) currentNode auxFunctionNode none nextLine
      else if line.head? = some 35 then
        readLoop getLine calls currentNode auxFunctionNode (nextLine + 1)
      else if line = closing then
        match auxFunctionNode with
        | none => .error (.runtimeError (lit "End of function without begin it, line " ++
            decimal (nextLine + 1)))
        | some node => attach (calls + 1) currentNode none (some node) nextLine
      else match auxFunctionNode with
        | some node => do
            let (node, nextLine) ← readLoop getLine calls node none nextLine
            readLoop getLine calls currentNode (some node) nextLine
        | none =>
            if line.getLast? = some 123 then do
              let node ← newFunction line
              let (node, nextLine) ← readLoop getLine calls node none (nextLine + 1)
              readLoop getLine calls currentNode (some node) nextLine
            else if line.head? = some 62 then
              attach (calls + 1) currentNode none (some (.getter line.tail)) nextLine
            else attach (calls + 1) currentNode none (some (.value line)) nextLine

def readLine (getLine : Nat → Except Failure Str) (calls : Nat) (currentNode : Node)
    (nextLine : Nat) : Except Failure (Node × Nat) :=
  readLoop getLine calls currentNode none nextLine

/-- `get_executable_tree` on what `get_line` returns, with a bound on the nesting. -/
def compile (getLine : Nat → Except Failure Str) (calls : Nat) : Except Failure Node := do
  let (rootNode, nextLine) ← readLine getLine calls (.root none) 0
  let line ← getLine nextLine
  if line ≠ [] then
    .error (.runtimeError (lit "Too much code, from line " ++ decimal (nextLine + 1) ++
      lit " => " ++ line))
  else return rootNode

/-- `get_executable_tree` on a script file with the given content.  Every line
takes at most two rounds or calls. -/
def getExecutableTree (script : Str) : Except Failure Node :=
  compile (fun n => .ok (lineAt script n)) (2 * script.length + 2)

/-! ### Lines of code -/

def isCode (line : Str) : Bool := line ≠ [] && line.head? ≠ some 35

/-- The lines that mean something, from one line up to another. -/
def codeBetween (lines : Nat → Str) (i j : Nat) : List Str :=
  ((List.range' i (j - i)).map lines).filter isCode

section
variable {lines : Nat → Str}

theorem codeBetween_append {i j k : Nat} (hij : i ≤ j) (hjk : j ≤ k) :
    codeBetween lines i j ++ codeBetween lines j k = codeBetween lines i k := by
  obtain ⟨a, rfl⟩ := Nat.exists_eq_add_of_le hij
  obtain ⟨b, rfl⟩ := Nat.exists_eq_add_of_le hjk
  rw [codeBetween, codeBetween, codeBetween, ← List.filter_append, ← List.map_append,
    Nat.add_sub_cancel_left, Nat.add_sub_cancel_left, Nat.add_assoc, Nat.add_sub_cancel_left,
    List.range'_append_1]

theorem codeBetween_one (i : Nat) :
    codeBetween lines i (i + 1) = if isCode (lines i) then [lines i] else [] := by
  rw [codeBetween, Nat.add_sub_cancel_left]
  by_cases h : isCode (lines i) = true
  · rw [if_pos h]
    exact List.filter_cons_of_pos h
  · rw [if_neg h]
    exact List.filter_cons_of_neg h

theorem codeBetween_cons {i j : Nat} (hij : i < j) (h : isCode (lines i) = true) :
    codeBetween lines i j = lines i :: codeBetween lines (i + 1) j := by
  rw [← codeBetween_append (Nat.le_succ i) hij, codeBetween_one, if_pos h]
  rfl

theorem codeBetween_skip {i j : Nat} (hij : i < j) (h : isCode (lines i) = false) :
    codeBetween lines i j = codeBetween lines (i + 1) j := by
  rw [← codeBetween_append (Nat.le_succ i) hij, codeBetween_one, if_neg (by simp [h])]
  rfl

/-- Where no line means anything. -/
theorem codeBetween_eq_nil {i j : Nat} (h : ∀ k, i ≤ k → k < j → isCode (lines k) = false) :
    codeBetween lines i j = [] := by
  rw [codeBetween, List.filter_eq_nil_iff]
  intro l hl
  obtain ⟨k, hk, rfl⟩ := List.mem_map.mp hl
  obtain ⟨h₁, h₂⟩ := List.mem_range'_1.mp hk
  simp [h k h₁ (by omega)]

end

/-! ### One round of the loop -/

section Round
variable {lines : Nat → Str} {calls i : Nat} {currentNode node : Node}

/-- The script that `get_line` reads. -/
abbrev reader (lines : Nat → Str) : Nat → Except Failure Str := fun n => .ok (lines n)

theorem readLoop_blank (auxFunctionNode : Option Node) (h : lines i = []) :
    readLoop (reader lines) (calls + 1) currentNode auxFunctionNode i =
      attach (calls + 1) currentNode auxFunctionNode none i := by
  rcases auxFunctionNode with _ | node
  · rw [readLoop, ok_bind, if_pos h]
  · rw [readLoop, ok_bind, if_pos h]

theorem readLoop_comment (auxFunctionNode : Option Node) (h : (lines i).head? = some 35) :
    readLoop (reader lines) (calls + 1) currentNode auxFunctionNode i =
      readLoop (reader lines) calls currentNode auxFunctionNode (i + 1) := by
  have hne : lines i ≠ [] := fun he => by rw [he] at h; cases h
  rcases auxFunctionNode with _ | node
  · rw [readLoop, ok_bind, if_neg hne, if_pos h]
  · rw [readLoop, ok_bind, if_neg hne, if_pos h]

theorem ne_nil_of_isCode {line : Str} (h : isCode line = true) : line ≠ [] := by
  rintro rfl
  cases h

theorem head_of_isCode {line : Str} (h : isCode line = true) : ¬ line.head? = some 35 := by
  simp only [isCode, Bool.and_eq_true, decide_eq_true_eq] at h
  exact h.2

theorem isCode_closing : isCode closing = true := rfl

theorem readLoop_closing_none (h : lines i = closing) :
    readLoop (reader lines) (calls + 1) currentNode none i =
      .error (.runtimeError (lit "End of function without begin it, line " ++ decimal (i + 1))) := by
  have hcode : isCode (lines i) = true := h ▸ isCode_closing
  rw [readLoop, ok_bind, if_neg (ne_nil_of_isCode hcode), if_neg (head_of_isCode hcode), if_pos h]

theorem readLoop_closing_some (node : Node) (h : lines i = closing) :
    readLoop (reader lines) (calls + 1) currentNode (some node) i =
      attach (calls + 1) currentNode none (some node) i := by
  have hcode : isCode (lines i) = true := h ▸ isCode_closing
  rw [readLoop, ok_bind, if_neg (ne_nil_of_isCode hcode), if_neg (head_of_isCode hcode), if_pos h]

/-- Inside a function any other line begins an argument. -/
theorem readLoop_argument (node : Node) (hcode : isCode (lines i) = true) (h : lines i ≠ closing) :
    readLoop (reader lines) (calls + 1) currentNode (some node) i = (do
      let (node, nextLine) ← readLoop (reader lines) calls node none i
      readLoop (reader lines) calls currentNode (some node) nextLine) := by
  rw [readLoop, ok_bind, if_neg (ne_nil_of_isCode hcode), if_neg (head_of_isCode hcode), if_neg h]

theorem readLoop_opening (hcode : isCode (lines i) = true) (h : lines i ≠ closing)
    (hlast : (lines i).getLast? = some 123) :
    readLoop (reader lines) (calls + 1) currentNode none i = (do
      let node ← newFunction (lines i)
      let (node, nextLine) ← readLoop (reader lines) calls node none (i + 1)
      readLoop (reader lines) calls currentNode (some node) nextLine) := by
  rw [readLoop, ok_bind, if_neg (ne_nil_of_isCode hcode), if_neg (head_of_isCode hcode), if_neg h]
  exact if_pos hlast

/-- The node of a line that is a leaf. -/
def leaf (line : Str) : Node := if line.head? = some 62 then .getter line.tail else .value line

theorem readLoop_leaf (hcode : isCode (lines i) = true) (h : lines i ≠ closing)
    (hlast : (lines i).getLast? ≠ some 123) :
    readLoop (reader lines) (calls + 1) currentNode none i =
      attach (calls + 1) currentNode none (some (leaf (lines i))) i := by
  rw [readLoop, ok_bind, if_neg (ne_nil_of_isCode hcode), if_neg (head_of_isCode hcode), if_neg h]
  show (if (lines i).getLast? = some 123 then _ else _) = _
  rw [if_neg hlast, leaf]
  split <;> rfl

theorem attach_some (calls : Nat) (currentNode newNode : Node) (i : Nat) :
    attach calls currentNode none (some newNode) i = (do
      let currentNode ← currentNode.addNode newNode calls
      return (currentNode, i + 1)) := rfl

/-- The compiler looks at one line more than it has read. -/
theorem getExecutableTree_of_readLoop {script : Str} {rootNode : Node} {nextLine : Nat}
    (h : readLoop (reader (lineAt script)) (2 * script.length + 2) (.root none) none 0 =
      .ok (rootNode, nextLine)) :
    getExecutableTree script =
      if lineAt script nextLine = [] then .ok rootNode
      else .error (.runtimeError (lit "Too much code, from line " ++ decimal (nextLine + 1) ++
        lit " => " ++ lineAt script nextLine)) := by
  have hrun : getExecutableTree script =
      if lineAt script nextLine ≠ [] then
        .error (.runtimeError (lit "Too much code, from line " ++ decimal (nextLine + 1) ++
          lit " => " ++ lineAt script nextLine))
      else .ok rootNode := by
    show (readLoop (reader (lineAt script)) (2 * script.length + 2) (.root none) none 0 >>= _) = _
    rw [h]
    rfl
  rw [hrun]
  by_cases hend : lineAt script nextLine = []
  · rw [if_neg (by simpa using hend), if_pos hend]
  · rw [if_pos hend, if_neg hend]

theorem isCode_opening (kind : FunctionKind) : isCode kind.opening = true := by
  cases kind <;> rfl

theorem opening_ne_closing (kind : FunctionKind) : kind.opening ≠ closing := by
  cases kind <;> decide

theorem getLast?_opening (kind : FunctionKind) : kind.opening.getLast? = some 123 := by
  cases kind <;> rfl

theorem newFunction_opening (kind : FunctionKind) :
    newFunction kind.opening = .ok (.function kind []) := by
  cases kind <;> rfl

/-- The round that finds the opening line of a function reads its first argument. -/
theorem readLoop_kind {kind : FunctionKind} (h : lines i = kind.opening) :
    readLoop (reader lines) (calls + 1) currentNode none i = (do
      let (node, nextLine) ← readLoop (reader lines) calls (.function kind []) none (i + 1)
      readLoop (reader lines) calls currentNode (some node) nextLine) := by
  have hcode : isCode (lines i) = true := h ▸ isCode_opening kind
  have hclosing : lines i ≠ closing := h ▸ opening_ne_closing kind
  have hlast : (lines i).getLast? = some 123 := h ▸ getLast?_opening kind
  rw [readLoop_opening hcode hclosing hlast, h, newFunction_opening, ok_bind]

/-- Only an opening line begins a function. -/
theorem opening_of_newFunction {line : Str} {node : Node} (h : newFunction line = .ok node) :
    ∃ kind : FunctionKind, line = kind.opening ∧ node = .function kind [] := by
  unfold newFunction at h
  split_ifs at h with h₁ h₂ h₃
  · exact ⟨.sha256, h₁, by cases h; rfl⟩
  · exact ⟨.cutBit, h₂, by cases h; rfl⟩
  · exact ⟨.cutByte, h₃, by cases h; rfl⟩

end Round

end Compiler
end SnapDesk
