import SnapDesk.ScriptAccepted

/-! # Reading without a bound

`readLoop` counts the lines of a file and the calls that are left.  `Reads` is the same
without either: it relates the lines in front of a call of `read_line`, the node that the
call attaches, if any, and the lines that are left.  There is one rule for each kind of
line.

`reads_of_readLoop` and `performs_of_reads` are the two directions, the first by induction
on the bound and the second on the rules, and `getExecutableTree_iff` is what follows for
scripts: an accepted script is read up to a blank line or the end. -/
namespace SnapDesk
open Delimited

namespace Compiler
open Node

/-- What a call of `read_line`, inside a function or not, makes of the lines in front of
it: the node it attaches, and the lines it leaves. -/
inductive Reads : Option (FunctionKind × List Node) → List Str → Option Node → List Str → Prop
  /-- The end of the file ends the call. -/
  | ended : Reads none [] none []
  /-- So does a blank line, outside functions. -/
  | blank (ls : List Str) : Reads none ([] :: ls) none ls
  | comment {aux : Option (FunctionKind × List Node)} {line : Str} {ls rest : List Str}
      {node : Option Node}
      (hline : line.head? = some 35) (h : Reads aux ls node rest) : Reads aux (line :: ls) node rest
  | leaf {line : Str} (hcode : isCode line = true) (hclosing : line ≠ closing)
      (hlast : line.getLast? ≠ some 123) (ls : List Str) :
      Reads none (line :: ls) (some (leaf line)) ls
  /-- The call that meets an opening line reads the first argument, if there is one. -/
  | opening (kind : FunctionKind) {ls mid rest : List Str} {arg node : Option Node}
      (harg : Reads none ls arg mid)
      (h : Reads (some (kind, arg.toList)) mid node rest) :
      Reads none (kind.opening :: ls) node rest
  | closing (kind : FunctionKind) (done : List Node) (ls : List Str) :
      Reads (some (kind, done)) (closing :: ls) (some (.function kind done)) ls
  /-- Any other line of code in a function begins an argument. -/
  | argument {kind : FunctionKind} {done : List Node} {line : Str} {ls mid rest : List Str}
      {arg : Node}
      {node : Option Node} (hcode : isCode line = true) (hclosing : line ≠ closing)
      (harg : Reads none (line :: ls) (some arg) mid) (h : Reads (some (kind, done ++ [arg])) mid node rest) :
      Reads (some (kind, done)) (line :: ls) node rest

namespace Reads
variable {aux : Option (FunctionKind × List Node)} {ls rest : List Str} {node : Option Node}

/-- What is left is an end of the lines. -/
theorem suffix (h : Reads aux ls node rest) : rest <:+ ls := by
  induction h with
  | ended => exact List.suffix_refl []
  | blank ls => exact List.suffix_cons [] ls
  | comment _ _ ih => exact ih.trans (List.suffix_cons _ _)
  | leaf _ _ _ ls => exact List.suffix_cons _ ls
  | opening kind _ _ iharg ih => exact (ih.trans iharg).trans (List.suffix_cons _ _)
  | closing _ _ ls => exact List.suffix_cons _ ls
  | argument _ _ _ _ iharg ih => exact ih.trans iharg

/-- A function is always attached. -/
theorem isSome_of_function {kind : FunctionKind} {done : List Node}
    (h : Reads (some (kind, done)) ls node rest) :
    ∃ args, node = some (.function kind (done ++ args)) := by
  generalize haux : some (kind, done) = aux at h
  induction h generalizing done with
  | ended => cases haux
  | blank => cases haux
  | comment _ _ ih => exact ih haux
  | leaf => cases haux
  | opening => cases haux
  | closing =>
    cases haux
    exact ⟨[], by rw [List.append_nil]⟩
  | @argument _ done' _ _ _ _ arg _ _ _ _ _ _ ih =>
    cases haux
    obtain ⟨args, hargs⟩ := ih rfl
    exact ⟨arg :: args, by rw [hargs, List.append_assoc, List.singleton_append]⟩

/-- A line of code attaches something. -/
theorem isSome_of_code {line : Str} (h : Reads none (line :: ls) node rest)
    (hcode : isCode line = true) :
    ∃ arg, node = some arg := by
  cases h with
  | blank => exact absurd rfl (ne_nil_of_isCode hcode)
  | comment hline _ => exact absurd hline (head_of_isCode hcode)
  | leaf => exact ⟨_, rfl⟩
  | opening kind _ hfunction =>
    obtain ⟨args, hargs⟩ := hfunction.isSome_of_function
    exact ⟨_, hargs⟩

/-- A node is attached behind its last line of code. -/
theorem exists_last (h : Reads aux ls node rest) (hnode : node.isSome = true) :
    ∃ before line, ls = before ++ line :: rest ∧ isCode line = true := by
  induction h with
  | ended => cases hnode
  | blank => cases hnode
  | @comment _ line _ _ _ _ _ ih =>
    obtain ⟨before, last, rfl, hlast⟩ := ih hnode
    exact ⟨line :: before, last, rfl, hlast⟩
  | @leaf line hcode => exact ⟨[], line, rfl, hcode⟩
  | @opening kind ls mid rest arg node harg _ _ ih =>
    obtain ⟨before, last, rfl, hlast⟩ := ih hnode
    obtain ⟨read, rfl⟩ := harg.suffix
    exact ⟨kind.opening :: (read ++ before), last, by simp, hlast⟩
  | closing => exact ⟨[], _, rfl, rfl⟩
  | @argument _ _ line ls mid rest arg node _ _ harg _ _ ih =>
    obtain ⟨before, last, rfl, hlast⟩ := ih hnode
    obtain ⟨read, hread⟩ := harg.suffix
    exact ⟨read ++ before, last, by rw [← hread, List.append_assoc], hlast⟩

end Reads

/-! ### The loop reads as the rules say -/

/-- The lines of a list, and blank ones behind them. -/
def linesOf (ls : List Str) (n : Nat) : Str := (ls[n]?).getD []

theorem lineAt_eq_linesOf (script : Str) : lineAt script = linesOf (fields newline script) :=
  funext fun n => lineAt_eq script n

theorem drop_of_line {ls : List Str} {i : Nat} (h : linesOf ls i ≠ []) :
    ls.drop i = linesOf ls i :: ls.drop (i + 1) := by
  by_cases hi : i < ls.length
  · rw [linesOf, List.getElem?_eq_getElem hi, Option.getD_some, List.drop_eq_getElem_cons hi]
  · rw [linesOf, List.getElem?_eq_none (Nat.not_lt.mp hi)] at h
    exact absurd rfl h

theorem linesOf_of_drop {ls : List Str} {i : Nat} : linesOf ls i = (ls.drop i).headD [] := by
  rw [linesOf, List.headD_eq_head?_getD, List.head?_drop]

theorem line_of_drop {ls rem : List Str} {i : Nat} {line : Str} (h : ls.drop i = line :: rem) :
    linesOf ls i = line := by
  rw [linesOf_of_drop, h]
  rfl

theorem drop_succ_of_drop {ls rem : List Str} {i : Nat} {line : Str} (h : ls.drop i = line :: rem) :
    ls.drop (i + 1) = rem := by
  rw [← List.tail_drop, h, List.tail_cons]

/-- What becomes of a node that something is attached to, or nothing. -/
def Attached (currentNode : Node) (node : Option Node) (result : Node) : Prop :=
  match node with
  | none => result = currentNode
  | some node => ∃ calls, currentNode.addNode node calls = .ok result

/-- The first argument of a function. -/
theorem Attached.function {kind : FunctionKind} {done : List Node} {arg : Option Node} {result : Node}
    (h : Attached (.function kind done) arg result) :
    result = .function kind (done ++ arg.toList) := by
  cases arg with
  | none =>
    rw [Option.toList_none, List.append_nil]
    exact h
  | some node =>
    obtain ⟨calls, hadd⟩ := h
    exact addNode_function hadd

/-- **A call that returns reads by the rules.** -/
theorem reads_of_readLoop {ls : List Str} (aux : Option (FunctionKind × List Node))
    {calls i j : Nat} {currentNode result : Node}
    (h : readLoop (reader (linesOf ls)) calls currentNode (auxNode aux) i = .ok (result, j)) :
    ∃ node, Reads aux (ls.drop i) node (ls.drop j) ∧ Attached currentNode node result := by
  induction calls generalizing currentNode aux i result j with
  | zero => cases h
  | succ calls ih =>
    cases round_of_readLoop aux h with
    | blank hline =>
      refine ⟨none, ?_, rfl⟩
      rw [← List.tail_drop]
      rw [linesOf_of_drop] at hline
      cases hdrop : ls.drop i with
      | nil => exact .ended
      | cons line rem =>
        rw [hdrop] at hline
        obtain rfl : line = [] := hline
        exact .blank rem
    | comment hline hrest =>
      obtain ⟨node, hreads, hattached⟩ := ih aux hrest
      rw [drop_of_line (ne_nil_of_comment hline)]
      exact ⟨node, .comment hline hreads, hattached⟩
    | leaf hcode hclosing hlast hadd =>
      rw [drop_of_line (ne_nil_of_isCode hcode)]
      exact ⟨_, .leaf hcode hclosing hlast _, _, hadd⟩
    -- one call reads the argument, and the rounds after it what follows
    | @opening kind _ _ k node _ hopen harg hrest =>
      obtain ⟨arg, hreadsArg, hattached⟩ := ih none harg
      rw [hattached.function, List.nil_append] at hrest
      obtain ⟨node, hreads, hresult⟩ := ih (some (kind, arg.toList)) hrest
      rw [drop_of_line (ne_nil_of_isCode (hopen ▸ isCode_opening kind)), hopen]
      exact ⟨node, .opening kind hreadsArg hreads, hresult⟩
    | @closing kind done _ _ hline hadd =>
      rw [drop_of_line (by rw [hline]; decide), hline]
      exact ⟨_, .closing kind done _, _, hadd⟩
    | @argument kind done _ _ k node _ hcode hclosing harg hrest =>
      obtain ⟨arg, hreadsArg, hattached⟩ := ih none harg
      rw [drop_of_line (ne_nil_of_isCode hcode)] at hreadsArg ⊢
      obtain ⟨arg, rfl⟩ := hreadsArg.isSome_of_code hcode
      rw [hattached.function] at hrest
      obtain ⟨node, hreads, hresult⟩ := ih (some (kind, done ++ [arg])) hrest
      exact ⟨node, .argument hcode hclosing hreadsArg hreads, hresult⟩

/-- The loop does what the rules say, wherever the lines stand and whatever accepts the
node, with enough rounds and calls left. -/
def Performs (ls : List Str) (aux : Option (FunctionKind × List Node)) (rem : List Str)
    (node : Option Node)
    (rest : List Str) : Prop :=
  ∀ i calls currentNode, ls.drop i = rem → currentNode.Accepts = true →
    callsFor aux rem.length ≤ calls →
    ∃ j, ls.drop j = rest ∧ readLoop (reader (linesOf ls)) (calls + 1) currentNode (auxNode aux) i =
      .ok (node.elim currentNode (withChild · currentNode), j)

section
variable {ls lines mid rest : List Str} {kind : FunctionKind} {node : Option Node}

/-- The opening line, the first argument if there is one, and the rest of the function. -/
theorem Performs.opening {arg : Option Node} (harg : Reads none lines arg mid)
    (hfirst : Performs ls none lines arg mid)
    (hrest : Performs ls (some (kind, arg.toList)) mid node rest) :
    Performs ls none (kind.opening :: lines) node rest := by
  intro i calls currentNode hrem haccepts hcalls
  have hmid := harg.suffix.length_le
  rw [callsFor_none, List.length_cons] at hcalls
  obtain ⟨calls, rfl⟩ := Nat.exists_eq_add_one_of_ne_zero (n := calls) (by omega)
  obtain ⟨k, hk, hread⟩ := hfirst (i + 1) calls (.function kind []) (drop_succ_of_drop hrem) rfl
    (by rw [callsFor_none]; omega)
  have hnode : arg.elim (.function kind []) (withChild · (.function kind [])) =
      .function kind arg.toList := by
    cases arg <;> rfl
  rw [hnode, auxNode_none] at hread
  obtain ⟨j, hj, hreadRest⟩ := hrest k calls currentNode hk haccepts (by rw [callsFor_some]; omega)
  refine ⟨j, hj, ?_⟩
  rw [auxNode_none, readLoop_kind (line_of_drop hrem), hread, ok_bind]
  exact hreadRest

/-- The lines of an argument, read by a call of their own, and the rest of the function. -/
theorem Performs.argument {done : List Node} {line : Str} {arg : Node} (hcode : isCode line = true)
    (hclosing : line ≠ closing) (harg : Reads none (line :: lines) (some arg) mid)
    (hfirst : Performs ls none (line :: lines) (some arg) mid)
    (hrest : Performs ls (some (kind, done ++ [arg])) mid node rest) :
    Performs ls (some (kind, done)) (line :: lines) node rest := by
  intro i calls currentNode hrem haccepts hcalls
  have hline := line_of_drop hrem
  -- an argument has a line of code, so less is left behind it
  obtain ⟨before, last, hread, -⟩ := harg.exists_last rfl
  have hmid := congrArg List.length hread
  rw [List.length_append, List.length_cons, List.length_cons] at hmid
  rw [callsFor_some, List.length_cons] at hcalls
  obtain ⟨calls, rfl⟩ := Nat.exists_eq_add_one_of_ne_zero (n := calls) (by omega)
  obtain ⟨k, hk, hread⟩ := hfirst i calls (.function kind done) hrem rfl
    (by rw [callsFor_none, List.length_cons]; omega)
  rw [auxNode_none] at hread
  obtain ⟨j, hj, hreadRest⟩ := hrest k calls currentNode hk haccepts (by rw [callsFor_some]; omega)
  refine ⟨j, hj, ?_⟩
  rw [auxNode_some, readLoop_argument _ (by rwa [hline]) (by rwa [hline]), hread, ok_bind]
  exact hreadRest

end

/-- **What the rules read is read**, by induction on the rules. -/
theorem performs_of_reads {aux : Option (FunctionKind × List Node)} {rem rest : List Str}
    {node : Option Node}
    (h : Reads aux rem node rest) (ls : List Str) : Performs ls aux rem node rest := by
  induction h with
  | ended =>
    intro i calls currentNode hrem _ _
    have hline : linesOf ls i = [] := by
      rw [linesOf_of_drop, hrem]
      rfl
    refine ⟨i + 1, ?_, readLoop_blank _ hline⟩
    rw [← List.tail_drop, hrem, List.tail_nil]
  | blank =>
    intro i calls currentNode hrem _ _
    exact ⟨i + 1, drop_succ_of_drop hrem, readLoop_blank _ (line_of_drop hrem)⟩
  | @comment aux line lines _ _ hcomment _ ih =>
    intro i calls currentNode hrem haccepts hcalls
    have hline := line_of_drop hrem
    rw [List.length_cons, callsFor_succ] at hcalls
    obtain ⟨calls, rfl⟩ := Nat.exists_eq_add_one_of_ne_zero (n := calls) (by omega)
    rw [readLoop_comment _ (by rwa [hline])]
    exact ih (i + 1) calls currentNode (drop_succ_of_drop hrem) haccepts (by omega)
  | leaf hcode hclosing hlast =>
    intro i calls currentNode hrem haccepts _
    have hline := line_of_drop hrem
    refine ⟨i + 1, drop_succ_of_drop hrem, ?_⟩
    rw [auxNode_none, readLoop_leaf (by rwa [hline]) (by rwa [hline]) (by rwa [hline]), attach_some,
      hline,
      addNode_accepts haccepts _ (Nat.succ_pos calls)]
    rfl
  | opening kind harg _ iharg ih => exact .opening harg iharg ih
  | closing kind done =>
    intro i calls currentNode hrem haccepts _
    refine ⟨i + 1, drop_succ_of_drop hrem, ?_⟩
    rw [auxNode_some, readLoop_closing_some _ (line_of_drop hrem), attach_some,
      addNode_accepts haccepts _ (Nat.succ_pos calls)]
    rfl
  | argument hcode hclosing harg _ iharg ih => exact .argument hcode hclosing harg iharg ih

/-! ### Accepted scripts -/

/-- What is read of a script is its tree if a blank line or nothing follows it. -/
theorem getExecutableTree_of_reads {script : Str} {node : Option Node} {rest : List Str}
    (h : Reads none (fields newline script) node rest) :
    (rest.headD [] = [] → getExecutableTree script = .ok (.root node)) ∧
      (rest.headD [] ≠ [] → ∃ e, getExecutableTree script = .error e) := by
  have hlen := length_fields_le newline script
  obtain ⟨j, hj, hread⟩ :=
    performs_of_reads h (fields newline script) 0 (2 * script.length + 1) (.root none)
    List.drop_zero rfl (by rw [callsFor_none]; omega)
  have hroot : node.elim (.root none) (withChild · (.root none)) = .root node := by
    cases node <;> rfl
  rw [← lineAt_eq_linesOf, hroot] at hread
  have hnext : lineAt script j = rest.headD [] := by
    rw [lineAt_eq_linesOf, linesOf_of_drop, hj]
  have htree := getExecutableTree_of_readLoop hread
  rw [hnext] at htree
  constructor
  · intro hrest
    rw [htree, if_pos hrest]
  · intro hrest
    rw [htree, if_neg hrest]
    exact ⟨_, rfl⟩

/-- **An accepted script** is read by the rules, up to a blank line or the end. -/
theorem getExecutableTree_iff {script : Str} {tree : Node} :
    getExecutableTree script = .ok tree ↔
      ∃ node rest, Reads none (fields newline script) node rest ∧ rest.headD [] = [] ∧
        tree = .root node := by
  constructor
  · intro h
    obtain ⟨⟨root, j⟩, hread, -⟩ := bind_eq_ok h
    have hread' : readLoop (reader (lineAt script)) (2 * script.length + 2) (.root none) none 0 =
      .ok (root, j) := hread
    have htree := getExecutableTree_of_readLoop hread'
    rw [lineAt_eq_linesOf] at hread'
    obtain ⟨node, hreads, hattached⟩ := reads_of_readLoop none hread'
    rw [List.drop_zero] at hreads
    have hroot : root = .root node := by
      cases node with
      | none => exact hattached
      | some child =>
        obtain ⟨calls, hadd⟩ := hattached
        exact addNode_root hadd
    rw [h, lineAt_eq_linesOf, linesOf_of_drop] at htree
    by_cases hrest : ((fields newline script).drop j).headD [] = []
    · rw [if_pos hrest] at htree
      cases htree
      exact ⟨node, _, hreads, hrest, hroot⟩
    · rw [if_neg hrest] at htree
      cases htree
  · rintro ⟨node, rest, hreads, hrest, rfl⟩
    exact (getExecutableTree_of_reads hreads).1 hrest

end Compiler
end SnapDesk
