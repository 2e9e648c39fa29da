import SnapDesk.ScriptAccepted

/-! # The compiler returns

`read_line` calls itself, and `add_node` of the leaves does too.  The first ends on every
script: a round or a call leaves less of it (`readLoop_returnsOrThrows`), and a bound on
the nested calls that is large enough changes nothing when it is made larger
(`readLoop_completes`).  It looks at one line beyond the end of the script at most, so the
line numbers of a script fit into 64 bits (`readLoop_of_lines`).

`add_node` never ends on a value or a getter; the compiler does not call it there. -/
namespace SnapDesk
open Bounded

namespace Node

/-! ### `add_node` -/

/-- `add_node`, on the node that it changes, with at most the given number of nested calls.
The argument is a pointer. -/
def addChild (arg : Option Node) : Nat → Method Node Unit
  | 0 => throw .unfinished
  | calls + 1 => do
      match ← get with
      | .root firstNode =>
          match arg with
          | none => throw (.invalidArgument (lit "no arg given"))
          | some node =>
              if firstNode.isSome then throw (.runtimeError (lit "root node had already a child"))
              else set (Node.root (some node))
      | .function kind args =>
          match arg with
          | none => throw (.invalidArgument (lit "no arg given"))
          | some node => set (Node.function kind (args ++ [node]))
      | .value _ => addChild arg calls
      | .getter _ => addChild arg calls

/-- What `add_node` of a node should do with an argument. -/
inductive Attaches (arg : Node) : Node → EStateM.Result Failure Node Unit → Prop
  | function (kind : FunctionKind) (args : List Node) :
      Attaches arg (.function kind args) (.ok () (.function kind (args ++ [arg])))
  | root : Attaches arg (.root none) (.ok () (.root (some arg)))
  | rejected {node : Node} {e : Failure} (hnode : node.Accepts = false)
      (he : e.isException = true) : Attaches arg node (.error e node)

/-- It ends, and does what it should. -/
def AttachesOrRejects (node arg : Node) : Prop :=
  ∃ outcome, Ends (fun calls => (addChild (some arg) calls).run node) outcome ∧
    Attaches arg node outcome

section
variable {node arg : Node} {calls : Nat}

/-- The method leaves the node alone when it throws, and `addNode` is what it makes of it
when it returns. -/
theorem run_addChild (node arg : Node) (calls : Nat) :
    (addChild (some arg) calls).run node =
      match node.addNode arg calls with
      | .ok result => .ok () result
      | .error e => .error e node := by
  induction calls with
  | zero => rfl
  | succ calls ih =>
    rw [addChild, Method.run_bind_ok (Method.run_get node)]
    rcases node with (_ | child) | v | f | ⟨kind, args⟩
    · rfl
    · rfl
    · exact ih
    · exact ih
    · rfl

theorem run_addChild_leaf (h : node.TakesChildren = false) (arg : Node) (calls : Nat) :
    (addChild (some arg) calls).run node = .error .unfinished node := by
  rw [run_addChild, addNode_leaf h]

theorem not_attachesOrRejects_leaf (h : node.TakesChildren = false) (arg : Node) :
    ¬ AttachesOrRejects node arg := by
  rintro ⟨outcome, ⟨bound, hends⟩, hattaches⟩
  have hrun : .error .unfinished node = outcome :=
    (run_addChild_leaf h arg bound).symm.trans (hends bound (Nat.le_refl bound))
  subst hrun
  cases hattaches with
  | rejected hnode he => cases he

/-- **Which nodes `add_node` returns or throws on**: a root or a function.  A value and a
getter call their own method again instead of the one that rejects the child. -/
theorem attachesOrRejects_iff (node arg : Node) :
    AttachesOrRejects node arg ↔ node.TakesChildren = true := by
  constructor
  · intro h
    by_contra hleaf
    exact not_attachesOrRejects_leaf (Bool.not_eq_true _ ▸ hleaf) arg h
  · intro htakes
    -- one call is enough
    have hends {outcome} (h : ∀ calls, (addChild (some arg) (calls + 1)).run node = outcome) :
        Ends (fun calls => (addChild (some arg) calls).run node) outcome := by
      refine ⟨1, fun calls hcalls => ?_⟩
      obtain ⟨calls, rfl⟩ := Nat.exists_eq_add_of_le' hcalls
      exact h calls
    rcases node with (_ | child) | v | f | ⟨kind, args⟩
    · exact ⟨_, hends fun _ => rfl, .root⟩
    · exact ⟨_, hends fun _ => rfl, .rejected rfl rfl⟩
    · cases htakes
    · cases htakes
    · exact ⟨_, hends fun _ => rfl, .function kind args⟩

end

/-- **A leaf that is given a child never answers.** -/
theorem not_attachesOrRejects : ¬ ∀ node arg : Node, AttachesOrRejects node arg :=
  fun hall => not_attachesOrRejects_leaf rfl (.value (lit "b")) (hall (.value (lit "a")) _)

end Node

namespace Compiler
open Node

/-! ### More nested calls -/

section
variable {getLine : Nat → Except Failure Str}

theorem attach_completes (calls : Nat) (currentNode : Node) (auxFunctionNode newNode : Option Node)
    (i : Nat) :
    Completes .unfinished (attach calls currentNode auxFunctionNode newNode i)
      (attach (calls + 1) currentNode auxFunctionNode newNode i) := by
  refine .ite (.refl _) ?_
  rcases newNode with _ | node
  · exact .refl _
  · exact .bind (addNode_completes currentNode node calls) fun _ => .refl _

theorem readLoop_completes (calls : Nat) (currentNode : Node) (auxFunctionNode : Option Node)
    (i : Nat) :
    Completes .unfinished (readLoop getLine calls currentNode auxFunctionNode i)
      (readLoop getLine (calls + 1) currentNode auxFunctionNode i) := by
  induction calls generalizing currentNode auxFunctionNode i with
  | zero => exact .inl rfl
  | succ calls ih =>
    rcases auxFunctionNode with _ | node
    · rw [readLoop, readLoop]
      refine .bind (.refl _) fun line => .ite (attach_completes _ _ _ _ _) (.ite (ih _ _ _) ?_)
      refine .ite (.refl _) (.ite ?_ (.ite (attach_completes _ _ _ _ _) (attach_completes _ _ _ _ _)))
      exact .bind (.refl _) fun _ => .bind (ih _ _ _) fun _ => ih _ _ _
    · rw [readLoop, readLoop]
      refine .bind (.refl _) fun line => .ite (attach_completes _ _ _ _ _) (.ite (ih _ _ _) ?_)
      exact .ite (attach_completes _ _ _ _ _) (.bind (ih _ _ _) fun _ => ih _ _ _)

theorem compile_completes (calls : Nat) :
    Completes .unfinished (compile getLine calls) (compile getLine (calls + 1)) :=
  .bind (readLoop_completes calls (.root none) none 0) fun _ => .refl _

end

/-! ### Line numbers -/

section
variable {lines : Nat → Str} {count : Nat}

/-- The line that a call which returns has reached.  Inside a function that is a line of
the script. -/
theorem readLoop_end (hcount : ∀ n, count ≤ n → lines n = [])
    (aux : Option (FunctionKind × List Node)) {calls i j : Nat} {currentNode result : Node}
    (h : readLoop (reader lines) calls currentNode (auxNode aux) i = .ok (result, j)) :
    j ≤ if aux.isSome then count else max i count + 1 := by
  have hlt {k : Nat} (hline : lines k ≠ []) : k < count := by
    by_contra hle
    exact hline (hcount k (by omega))
  induction calls generalizing currentNode aux i result j with
  | zero => cases h
  | succ calls ih =>
    cases round_of_readLoop aux h with
    | blank hline => exact Nat.succ_le_succ (Nat.le_max_left i count)
    | comment hline hrest =>
      have hi := hlt (ne_nil_of_comment hline)
      have hj := ih aux hrest
      rw [Nat.max_eq_right hi] at hj
      rwa [Nat.max_eq_right (Nat.le_of_lt hi)]
    | leaf hcode hclosing hlast hadd =>
      exact Nat.succ_le_succ (Nat.le_max_left i count)
    | opening hopen harg hrest =>
      obtain ⟨-, args, rfl⟩ := function_of_readLoop harg
      have hj := ih (some (_, args)) hrest
      exact Nat.le_succ_of_le (Nat.le_trans hj (Nat.le_max_right i count))
    | closing hline hadd => exact hlt (by rw [hline]; exact List.cons_ne_nil _ _)
    | argument hcode hclosing harg hrest =>
      obtain ⟨-, args, rfl⟩ := function_of_readLoop harg
      have hj := ih (some (_, args)) hrest
      exact hj

theorem readLine_end (hcount : ∀ n, count ≤ n → lines n = []) {calls i : Nat} {currentNode : Node}
    {r : Node × Nat} (h : readLine (reader lines) calls currentNode i = .ok r) :
    r.2 ≤ max i count + 1 :=
  readLoop_end (j := r.2) hcount none h

/-- **Which lines the compiler looks at**: no line after the first one behind the script. -/
theorem readLoop_of_lines (hcount : ∀ n, count ≤ n → lines n = []) {last : Nat}
    (hlast : count < last) {getLine : Nat → Except Failure Str}
    (hgetLine : ∀ n, n ≤ last → getLine n = .ok (lines n)) (calls : Nat) (currentNode : Node)
    (auxFunctionNode : Option Node) {i : Nat} (hi : i ≤ last) :
    readLoop getLine calls currentNode auxFunctionNode i =
      readLoop (reader lines) calls currentNode auxFunctionNode i := by
  induction calls generalizing currentNode auxFunctionNode i with
  | zero => rfl
  | succ calls ih =>
    have hlt (hline : lines i ≠ []) : i < count := by
      by_contra hle
      exact hline (hcount i (by omega))
    -- an argument, read from a line of the script or the first one behind it, and the rest
    have hargument {node : Node} {k : Nat} (hk : k ≤ count) :
        (readLoop getLine calls node none k >>= fun r =>
            readLoop getLine calls currentNode (some r.1) r.2) =
          readLoop (reader lines) calls node none k >>= fun r =>
            readLoop (reader lines) calls currentNode (some r.1) r.2 := by
      rw [ih node none (by omega)]
      refine bind_congr_ok fun r hr => ?_
      have hend := readLine_end hcount hr
      rw [Nat.max_eq_right hk] at hend
      exact ih _ _ (Nat.le_trans hend hlast)
    rcases auxFunctionNode with _ | node
    · rw [readLoop, readLoop, hgetLine i hi, ok_bind, ok_bind]
      refine ite_congr rfl (fun _ => rfl) fun hempty => ?_
      refine ite_congr rfl (fun _ => ih _ _ (Nat.le_trans (hlt hempty) (Nat.le_of_lt hlast))) fun _ => ?_
      refine ite_congr rfl (fun _ => rfl) fun _ => ite_congr rfl (fun _ => ?_) fun _ => rfl
      exact bind_congr_ok fun node _ => hargument (hlt hempty)
    · rw [readLoop, readLoop, hgetLine i hi, ok_bind, ok_bind]
      refine ite_congr rfl (fun _ => rfl) fun hempty => ?_
      refine ite_congr rfl (fun _ => ih _ _ (Nat.le_trans (hlt hempty) (Nat.le_of_lt hlast))) fun _ => ?_
      exact ite_congr rfl (fun _ => rfl) fun _ => hargument (Nat.le_of_lt (hlt hempty))

end

/-! ### Termination -/

/-- `get_line` on a script, for the line numbers that a `size_t` holds. -/
def getLine64 (script : Str) (n : Nat) : Except Failure Str :=
  if n < 2 ^ 64 then .ok (lineAt script n) else .error .undefinedBehaviour

/-- What a call of `read_line` should do: throw, or return a later line. -/
def Advances (i : Nat) (outcome : Except Failure (Node × Nat)) : Prop :=
  (∃ e, outcome = .error e ∧ e.isException = true) ∨
    ∃ currentNode j, outcome = .ok (currentNode, j) ∧ i < j

/-- A call of `read_line` from a line ends: with enough nested calls, no matter how many
more, and with line numbers of 64 bits too, where the script is not longer than a file can
be. -/
structure LineEnds (script : Str) (currentNode : Node) (i : Nat)
    (outcome : Except Failure (Node × Nat)) : Prop where
  ends : Ends (fun calls => readLine (reader (lineAt script)) calls currentNode i) outcome
  advances : Advances i outcome
  ends64 : script.length < 2 ^ 63 →
    Ends (fun calls => readLine (getLine64 script) calls currentNode i) outcome
  fits : script.length < 2 ^ 63 → ∀ r, outcome = .ok r → r.2 < 2 ^ 64

/-- The same for `get_executable_tree`. -/
structure TreeEnds (script : Str) (outcome : Except Failure Node) : Prop where
  ends : Ends (compile (reader (lineAt script))) outcome
  answers : ReturnsOrThrows outcome
  ends64 : script.length < 2 ^ 63 → Ends (compile (getLine64 script)) outcome

section
variable {script : Str} {currentNode : Node} {i calls : Nat}

theorem getLine64_of_le {n : Nat} (hn : n ≤ 2 ^ 64 - 1) : getLine64 script n = .ok (lineAt script n) :=
  if_pos (by omega)

theorem readLine_getLine64 (hscript : script.length < 2 ^ 63) (hi : i ≤ 2 ^ 63) (calls : Nat)
    (currentNode : Node) :
    readLine (getLine64 script) calls currentNode i =
      readLine (reader (lineAt script)) calls currentNode i := by
  have hlast : script.length < 2 ^ 64 - 1 := by omega
  exact readLoop_of_lines (lineAt_of_length_le script) hlast (fun _ => getLine64_of_le) calls currentNode
    none (by omega)

theorem compile_getLine64 (hscript : script.length < 2 ^ 63) (calls : Nat) :
    compile (getLine64 script) calls = compile (reader (lineAt script)) calls := by
  rw [compile, compile, readLine_getLine64 hscript (by omega)]
  refine bind_congr_ok fun r hr => ?_
  have hend := readLine_end (lineAt_of_length_le script) hr
  have hline : getLine64 script r.2 = reader (lineAt script) r.2 := getLine64_of_le (by omega)
  exact congrArg (· >>= _) hline

theorem lineEnds_of_returnsOrThrows
    (hreturns : ReturnsOrThrows (readLine (reader (lineAt script)) calls currentNode i))
    (hi : i < 2 ^ 63) :
    LineEnds script currentNode i (readLine (reader (lineAt script)) calls currentNode i) := by
  have hends : Ends (fun calls => readLine (reader (lineAt script)) calls currentNode i)
      (readLine (reader (lineAt script)) calls currentNode i) :=
    ends_of_completes (fun calls => readLoop_completes calls currentNode none i)
      (hreturns.ne_error rfl)
  refine ⟨hends, ?_, fun hscript => ?_, fun hscript r hr => ?_⟩
  · match hrun : readLine (reader (lineAt script)) calls currentNode i with
    | .error e => exact .inl ⟨e, rfl, hreturns e hrun⟩
    | .ok (node, j) =>
      refine .inr ⟨node, j, rfl, ?_⟩
      cases readLoop_text none hrun with
      | nothing _ hskip => exact hskip.lt
      | attached hij _ _ _ => exact hij
  · simpa only [readLine_getLine64 hscript (Nat.le_of_lt hi)] using hends
  · have hend := readLine_end (lineAt_of_length_le script) hr
    omega

theorem treeEnds (script : Str) : TreeEnds script (getExecutableTree script) := by
  have hanswers := getExecutableTree_returnsOrThrows script
  have hends : Ends (compile (reader (lineAt script))) (getExecutableTree script) :=
    ends_of_completes compile_completes (hanswers.ne_error rfl)
  refine ⟨hends, hanswers, fun hscript => ?_⟩
  rwa [funext (compile_getLine64 hscript)]

end

/-- **The compiler returns or throws** on every script, and so does a call of `read_line`
for a node that may have children, which then goes on to a later line. -/
theorem readLine_ends (script : Str) {currentNode : Node}
    (htakes : currentNode.TakesChildren = true) {i : Nat} (hi : i < 2 ^ 63) :
    (∃ outcome, LineEnds script currentNode i outcome) ∧
      TreeEnds script (getExecutableTree script) :=
  ⟨⟨_, lineEnds_of_returnsOrThrows (readLoop_returnsOrThrows (lineAt_of_length_le script) none htakes
    (Nat.lt_succ_self _)) hi⟩, treeEnds script⟩

/-- A function that is not closed. -/
theorem readLine_ends_open :
    (∃ outcome, LineEnds (lit "Sha256 \x7b\n>a\n") (.root none) 0 outcome) ∧
      TreeEnds (lit "Sha256 \x7b\n>a\n") (getExecutableTree (lit "Sha256 \x7b\n>a\n")) :=
  readLine_ends _ rfl (by decide)

end Compiler
end SnapDesk
