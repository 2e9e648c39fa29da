import SnapDesk.Frame

/-! # Executable trees

`node.cpp` and `function_node.cpp`.  A tree has a root with at most one child,
functions with any number of arguments, and leaves.  The digest that OpenSSL
computes is a parameter: a function from byte strings to 32 bytes.

`printLines` is the text of a tree in the language of the scripts, one line a
leaf; the compiler reads it back. -/
namespace SnapDesk
open BigNumber Bounded

/-- The classes derived from `Function`. -/
inductive FunctionKind where
  | sha256
  | cutBit
  | cutByte
  deriving DecidableEq, Repr

/-- `Node` with its derived classes. -/
inductive Node where
  | root (firstNode : Option Node)
  | value (value : Str)
  | getter (fieldName : Str)
  | function (kind : FunctionKind) (args : List Node)

namespace Node

/-- A property of all nodes, proved of the children first. -/
theorem induction {P : Node → Prop} (empty : P (.root none))
    (root : ∀ node, P node → P (.root (some node))) (value : ∀ v, P (.value v))
    (getter : ∀ f, P (.getter f))
    (function : ∀ kind args, (∀ arg ∈ args, P arg) → P (.function kind args)) (node : Node) :
    P node :=
  match node with
  | .root none => empty
  | .root (some node) => root node (induction empty root value getter function node)
  | .value v => value v
  | .getter f => getter f
  | .function kind args =>
      function kind args fun arg _ => induction empty root value getter function arg

/-- `add_node`, with at most the given number of nested calls.  In the classes
`Value` and `Getter` the call of the base class is spelled `Node:add_node`: a
label, and a call of the same method. -/
def addNode (current arg : Node) : Nat → Except Failure Node
  | 0 => .error .unfinished
  | calls + 1 =>
      match current with
      | .root none => .ok (.root (some arg))
      | .root (some _) => .error (.runtimeError (lit "root node had already a child"))
      | .function kind args => .ok (.function kind (args ++ [arg]))
      | .value _ => addNode current arg calls
      | .getter _ => addNode current arg calls

/-- A root without a child or a function. -/
def Accepts : Node → Bool
  | .root none => true
  | .function _ _ => true
  | _ => false

/-- What `add_node` makes of a node that accepts it. -/
def withChild (arg : Node) : Node → Node
  | .root _ => .root (some arg)
  | .function kind args => .function kind (args ++ [arg])
  | node => node

theorem addNode_accepts {current : Node} (h : current.Accepts = true) (arg : Node) {calls : Nat}
    (hcalls : 0 < calls) : current.addNode arg calls = .ok (withChild arg current) := by
  obtain ⟨calls, rfl⟩ := Nat.exists_eq_add_one_of_ne_zero (Nat.ne_of_gt hcalls)
  rcases current with (_ | node) | v | f | ⟨kind, args⟩
  · rfl
  · cases h
  · cases h
  · cases h
  · rfl

/-- A root or a function, whatever it holds. -/
def TakesChildren : Node → Bool
  | .root _ => true
  | .function _ _ => true
  | _ => false

/-- The method of a leaf only calls itself. -/
theorem addNode_leaf {current : Node} (h : current.TakesChildren = false) (arg : Node)
    (calls : Nat) : current.addNode arg calls = .error .unfinished := by
  induction calls with
  | zero => rfl
  | succ calls ih =>
    cases current with
    | value v => exact ih
    | getter f => exact ih
    | root firstNode => cases h
    | function kind args => cases h

theorem addNode_returnsOrThrows {current : Node} (h : current.TakesChildren = true) (arg : Node)
    {calls : Nat} (hcalls : 0 < calls) : ReturnsOrThrows (current.addNode arg calls) := by
  obtain ⟨calls, rfl⟩ := Nat.exists_eq_add_one_of_ne_zero (Nat.ne_of_gt hcalls)
  rcases current with (_ | node) | v | f | ⟨kind, args⟩
  · exact .ok _
  · exact .error rfl
  · cases h
  · cases h
  · exact .ok _

/-- More nested calls change nothing. -/
theorem addNode_completes (current arg : Node) (calls : Nat) :
    Completes .unfinished (current.addNode arg calls) (current.addNode arg (calls + 1)) := by
  rcases calls with _ | calls
  · exact .inl rfl
  rcases current with (_ | node) | v | f | ⟨kind, args⟩
  · exact .inr rfl
  · exact .inr rfl
  · exact .inl (addNode_leaf rfl arg _)
  · exact .inl (addNode_leaf rfl arg _)
  · exact .inr rfl

end Node

/-! ### The text of a tree -/

namespace FunctionKind

/-- The line that begins a call of the function. -/
def opening : FunctionKind → Str
  | sha256 => lit "Sha256 \x7b"
  | cutBit => lit "Cut_bit \x7b"
  | cutByte => lit "Cut_byte \x7b"

end FunctionKind

/-- The line that ends a call. -/
def closing : Str := [125]

namespace Node

mutual

/-- One line a leaf, and a function's arguments between its first and its last
line. -/
def printLines : Node → List Str
  | .root none => []
  | .root (some node) => printLines node
  | .value v => [v]
  | .getter f => [62 :: f]
  | .function kind args => kind.opening :: (printAll args ++ [closing])

def printAll : List Node → List Str
  | [] => []
  | node :: nodes => printLines node ++ printAll nodes

end

theorem printAll_append (ns ms : List Node) : printAll (ns ++ ms) = printAll ns ++ printAll ms := by
  induction ns with
  | nil => rfl
  | cons n ns ih => rw [List.cons_append, printAll, printAll, ih, List.append_assoc]

/-! ### Evaluation -/

/-- What a cut has read of its arguments. -/
structure CutArgs where
  value : BigNumber
  first : Nat
  length : Nat
  count : Nat

/-- One round of the loop over the arguments of a cut. -/
def readCutArg (name : Str) (st : CutArgs) (argValue : Str) : Except Failure CutArgs :=
  match st.count with
  | 0 => do
      let number ← fromHexString argValue
      return { st with value := number, count := 1 }
  | 1 => do
      let first ← stoul argValue 10
      return { st with first := first, count := 2 }
  | 2 => do
      let length ← stoul argValue 10
      return { st with length := length, count := 3 }
  | _ => .error (.runtimeError (lit "Too many args in " ++ name))

/-- What a cut does with its arguments.  The bounds are read only if they were
given. -/
def applyCut (name : Str) (cut : Nat → Nat → Method BigNumber Unit) (st : CutArgs) :
    Except Failure Str :=
  if st.count < 3 then .error (.runtimeError (lit "Too few args in " ++ name))
  else if st.value.isNull then .ok []
  else match (cut st.first st.length).run st.value with
    | .ok _ number => number.hexString
    | .error e _ => .error e

/-- `Node::get_value`, the check that every class begins with. -/
def checkFrame (targetFrame : Frame) : Except Failure Unit :=
  if targetFrame.isDecoded = false then
    .error (.invalidArgument (lit "Given frame is not decoded"))
  else .ok ()

/-- Any exception becomes a runtime error with its text, as a C string, at the
end. -/
def inCode {α : Type} : Except Failure α → Except Failure α
  | .error (.invalidArgument what) => .error (.runtimeError (lit "Runtime error in code: " ++ cStr what))
  | .error (.runtimeError what) => .error (.runtimeError (lit "Runtime error in code: " ++ cStr what))
  | .error (.outOfRange what) => .error (.runtimeError (lit "Runtime error in code: " ++ cStr what))
  | .error (.filesystemError what) =>
      .error (.runtimeError (lit "Runtime error in code: " ++ cStr what))
  | x => x

section Evaluation
variable (digest : Str → Vector UInt8 32) (targetFrame : Frame)

mutual

def getValue : Node → Except Failure Str
  | .value v => do
      checkFrame targetFrame
      return v
  | .getter fieldName => do
      checkFrame targetFrame
      let number ← targetFrame.getValue fieldName
      if number.isNull then return [] else number.hexString
  | .root none => do
      checkFrame targetFrame
      .error (.runtimeError (lit "No tree"))
  | .root (some node) => do
      checkFrame targetFrame
      inCode (getValue node)
  | .function .sha256 args => do
      checkFrame targetFrame
      let data ← concatValues args
      return (digest data).toList.flatMap lowerHexByte
  | .function .cutBit args => do
      checkFrame targetFrame
      let st ← readCutArgs (lit "Cut_bit") ⟨.null, 0, 0, 0⟩ args
      applyCut (lit "Cut_bit") cutBit st
  | .function .cutByte args => do
      checkFrame targetFrame
      let st ← readCutArgs (lit "Cut_byte") ⟨.null, 0, 0, 0⟩ args
      applyCut (lit "Cut_byte") cutByte st

/-- The data that `Sha256` hashes. -/
def concatValues : List Node → Except Failure Str
  | [] => .ok []
  | arg :: args => do
      let argValue ← getValue arg
      let data ← concatValues args
      return argValue ++ data

def readCutArgs (name : Str) (st : CutArgs) : List Node → Except Failure CutArgs
  | [] => .ok st
  | arg :: args => do
      let argValue ← getValue arg
      let st ← readCutArg name st argValue
      readCutArgs name st args

end

end Evaluation

end Node
end SnapDesk
