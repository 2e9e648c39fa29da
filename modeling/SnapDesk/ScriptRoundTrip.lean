import SnapDesk.Compiler

/-! # Compiling undoes printing

A tree is printable when its functions have arguments and its leaves can be told
from the other lines.  The compiler reads the lines of such a tree as that tree
(`readLoop_printLines`, by induction on the tree): for a function, the first
argument is read by the round that finds the opening line and the others by the
rounds after it (`readLoop_printAll`), and the closing line ends the loop. -/
namespace SnapDesk
open Delimited Compiler

namespace Node

/-- The trees whose text can be read back. -/
inductive Printable : Node → Prop
  | getter {f : Str} (hline : newline ∉ f) (hlast : f.getLast? ≠ some 123) : Printable (.getter f)
  | value {v : Str} (hline : newline ∉ v) (hne : v ≠ []) (hclosing : v ≠ closing)
      (hcomment : v.head? ≠ some 35) (hgetter : v.head? ≠ some 62)
      (hlast : v.getLast? ≠ some 123) : Printable (.value v)
  | function {kind : FunctionKind} {arg : Node} {args : List Node} (harg : Printable arg)
      (hargs : ∀ a ∈ args, Printable a) : Printable (.function kind (arg :: args))

theorem printAll_cons (node : Node) (nodes : List Node) :
    printAll (node :: nodes) = printLines node ++ printAll nodes := rfl

theorem mem_printAll {l : Str} {nodes : List Node} :
    l ∈ printAll nodes ↔ ∃ node ∈ nodes, l ∈ printLines node := by
  induction nodes with
  | nil => simp [printAll]
  | cons node nodes ih => simp [printAll_cons, ih]

/-- The text is a sequence of lines. -/
theorem Printable.newline_notMem {node : Node} (h : Printable node) :
    ∀ l ∈ printLines node, newline ∉ l := by
  induction h with
  | getter hline _ =>
    intro l hl
    rw [List.mem_singleton.mp hl]
    simpa [newline] using hline
  | value hline _ _ _ _ _ =>
    intro l hl
    rw [List.mem_singleton.mp hl]
    exact hline
  | @function kind arg args _ _ iharg ihargs =>
    intro l hl
    rw [printLines, printAll_cons] at hl
    rcases List.mem_cons.mp hl with rfl | hl
    · cases kind <;> decide
    · rcases List.mem_append.mp hl with hl | hl
      · rcases List.mem_append.mp hl with hl | hl
        · exact iharg l hl
        · obtain ⟨a, ha, hl⟩ := mem_printAll.mp hl
          exact ihargs a ha l hl
      · rw [List.mem_singleton.mp hl]
        decide

/-- The text begins with a line of code that closes nothing. -/
theorem Printable.first_line {node : Node} (h : Printable node) :
    ∃ l ls, printLines node = l :: ls ∧ isCode l = true ∧ l ≠ closing := by
  cases h with
  | @getter f _ _ => exact ⟨62 :: f, [], rfl, by simp [isCode], by simp [closing]⟩
  | @value v _ hne hclosing hcomment _ _ =>
    exact ⟨v, [], rfl, by simp [isCode, hne, hcomment], hclosing⟩
  | @function kind arg args _ _ =>
    exact ⟨kind.opening, _, rfl, isCode_opening kind, opening_ne_closing kind⟩

end Node

namespace Compiler
open Node

/-- The lines from number `i` on are those of a list. -/
def LinesAt (lines : Nat → Str) (i : Nat) (ls : List Str) : Prop :=
  ∀ k l, ls[k]? = some l → lines (i + k) = l

section LinesAt
variable {lines : Nat → Str} {i : Nat} {l : Str} {ls ls' : List Str}

theorem LinesAt.head (h : LinesAt lines i (l :: ls)) : lines i = l := h 0 l rfl

theorem LinesAt.tail (h : LinesAt lines i (l :: ls)) : LinesAt lines (i + 1) ls := by
  intro k x hx
  rw [Nat.add_assoc, Nat.add_comm 1]
  exact h (k + 1) x hx

theorem LinesAt.left (h : LinesAt lines i (ls ++ ls')) : LinesAt lines i ls := by
  intro k x hx
  have hk : k < ls.length := (List.getElem?_eq_some_iff.mp hx).1
  exact h k x (by rw [List.getElem?_append_left hk, hx])

theorem LinesAt.right (h : LinesAt lines i (ls ++ ls')) : LinesAt lines (i + ls.length) ls' := by
  intro k x hx
  rw [Nat.add_assoc]
  exact h (ls.length + k) x (by rw [List.getElem?_append_right (by omega), Nat.add_sub_cancel_left, hx])

end LinesAt

section Reading
variable {lines : Nat → Str}

/-- A node is read from its text, wherever it stands, by whatever accepts it. -/
def ReadsBack (lines : Nat → Str) (node : Node) : Prop :=
  ∀ i calls currentNode, LinesAt lines i (printLines node) → currentNode.Accepts = true →
    2 * (printLines node).length ≤ calls →
    readLoop (reader lines) calls currentNode none i =
      .ok (withChild node currentNode, i + (printLines node).length)

theorem readsBack_leaf {node : Node} {line : Str} (hprint : printLines node = [line])
    (hcode : isCode line = true) (hclosing : line ≠ closing) (hlast : line.getLast? ≠ some 123)
    (hleaf : leaf line = node) : ReadsBack lines node := by
  intro i calls currentNode hlines haccepts hcalls
  rw [hprint] at hlines hcalls ⊢
  have hline := hlines.head
  obtain ⟨calls, rfl⟩ := Nat.exists_eq_add_one_of_ne_zero (n := calls) (by
    rw [List.length_singleton] at hcalls; omega)
  rw [readLoop_leaf (by rwa [hline]) (by rwa [hline]) (by rwa [hline]), attach_some, hline, hleaf,
    addNode_accepts haccepts node (by omega)]
  rfl

/-- The arguments that are left and the closing line, by induction on them. -/
theorem readLoop_printAll (kind : FunctionKind) {args : List Node}
    (hargs : ∀ a ∈ args, Printable a) (hback : ∀ a ∈ args, ReadsBack lines a) (done : List Node)
    {i calls : Nat} {currentNode : Node} (hlines : LinesAt lines i (printAll args ++ [closing]))
    (haccepts : currentNode.Accepts = true) (hcalls : 2 * (printAll args).length + 1 ≤ calls) :
    readLoop (reader lines) calls currentNode (some (.function kind done)) i =
      .ok (withChild (.function kind (done ++ args)) currentNode, i + (printAll args).length + 1) := by
  induction args generalizing done i calls with
  | nil =>
    obtain ⟨calls, rfl⟩ := Nat.exists_eq_add_one_of_ne_zero (n := calls) (by omega)
    rw [readLoop_closing_some _ hlines.head, attach_some, addNode_accepts haccepts _ (by omega),
      List.append_nil]
    rfl
  | cons a args ih =>
    obtain ⟨l, ls, hprint, hcode, hclosing⟩ := (hargs a List.mem_cons_self).first_line
    rw [printAll_cons, List.length_append] at hcalls
    rw [printAll_cons, List.append_assoc] at hlines
    have hpos : 1 ≤ (printLines a).length := by rw [hprint, List.length_cons]; omega
    have hline : lines i = l := by
      have h := hlines.left
      rw [hprint] at h
      exact h.head
    obtain ⟨calls, rfl⟩ := Nat.exists_eq_add_one_of_ne_zero (n := calls) (by omega)
    -- a call of its own reads the argument, and the next rounds the others
    have harg := hback a List.mem_cons_self i calls (.function kind done) hlines.left rfl (by omega)
    have hrest := ih (fun b hb => hargs b (List.mem_cons_of_mem a hb))
      (fun b hb => hback b (List.mem_cons_of_mem a hb)) (done ++ [a]) hlines.right
      (show 2 * (printAll args).length + 1 ≤ calls by omega)
    rw [readLoop_argument _ (by rwa [hline]) (by rwa [hline]), harg, ok_bind]
    show readLoop _ _ _ (some (.function kind (done ++ [a]))) _ = _
    rw [hrest, printAll_cons, List.length_append, List.append_assoc, List.singleton_append,
      ← Nat.add_assoc]

/-- **A printable tree is read from its text**, by induction on the tree. -/
theorem readLoop_printLines {node : Node} (h : Printable node) : ReadsBack lines node := by
  induction h with
  | @getter f _ hlast =>
    have hprint : printLines (.getter f) = [62 :: f] := rfl
    refine readsBack_leaf hprint (by simp [isCode]) (by simp [closing]) ?_ ?_
    · cases f with
      | nil => decide
      | cons c f => rwa [List.getLast?_cons_cons]
    · rfl
  | @value v _ hne hclosing hcomment hgetter hlast =>
    have hprint : printLines (.value v) = [v] := rfl
    exact readsBack_leaf hprint (by simp [isCode, hne, hcomment]) hclosing hlast (if_neg hgetter)
  | @function kind arg args harg hargs iharg ihargs =>
    intro i calls currentNode hlines haccepts hcalls
    rw [printLines, printAll_cons] at hlines hcalls ⊢
    rw [List.append_assoc] at hlines
    have hline := hlines.head
    simp only [List.length_cons, List.length_append, List.length_nil] at hcalls
    obtain ⟨calls, rfl⟩ := Nat.exists_eq_add_one_of_ne_zero (n := calls) (by omega)
    have hfirst := iharg (i + 1) calls (.function kind []) hlines.tail.left rfl (by omega)
    have hrest := readLoop_printAll kind hargs ihargs [arg] hlines.tail.right haccepts
      (show 2 * (printAll args).length + 1 ≤ calls by omega)
    rw [readLoop_kind hline, hfirst, ok_bind]
    show readLoop _ _ _ (some (.function kind [arg])) _ = _
    rw [hrest]
    simp only [List.length_cons, List.length_append, List.length_nil, List.singleton_append]
    congr 2
    omega

end Reading
end Compiler

/-- The file that a tree is printed to. -/
def Node.printed (node : Node) : Str := terminate newline (Node.printLines node)

/-- **Compiling undoes printing.** -/
theorem Compiler.getExecutableTree_printed {node : Node} (h : node.Printable) :
    getExecutableTree node.printed = .ok (.root (some node)) := by
  have hlines : ∀ n, lineAt node.printed n = ((Node.printLines node)[n]?).getD [] :=
    lineAt_terminate h.newline_notMem
  have hat : LinesAt (lineAt node.printed) 0 (Node.printLines node) := by
    intro k l hl
    rw [hlines, Nat.zero_add, hl]
    rfl
  have hlen : (Node.printLines node).length ≤ node.printed.length := length_le_terminate newline _
  have hend : lineAt node.printed (Node.printLines node).length = [] := by
    rw [hlines, List.getElem?_eq_none (Nat.le_refl _)]
    rfl
  have hread := readLoop_printLines h 0 (2 * node.printed.length + 2) (.root none) hat rfl
    (by omega)
  rw [getExecutableTree_of_readLoop hread, Nat.zero_add, if_pos hend]
  rfl

/-- A fingerprint of the BSSID and of one bit of the element 45. -/
def Node.bssidAndBit : Node :=
  .function .sha256 [.getter (lit "bssid"),
    .function .cutBit [.getter (lit "45"), .value (lit "4"), .value (lit "1")]]

theorem Node.bssidAndBit_printable : Node.bssidAndBit.Printable := by
  refine .function (.getter (by decide) (by decide)) fun a ha => ?_
  rw [List.mem_singleton.mp ha]
  refine .function (.getter (by decide) (by decide)) fun b hb => ?_
  rcases List.mem_pair.mp hb with rfl | rfl
  · exact .value (by decide) (by decide) (by decide) (by decide) (by decide) (by decide)
  · exact .value (by decide) (by decide) (by decide) (by decide) (by decide) (by decide)

theorem Compiler.getExecutableTree_printed_bssidAndBit :
    getExecutableTree (lit "Sha256 \x7b\n>bssid\nCut_bit \x7b\n>45\n4\n1\n\x7d\n\x7d\n") =
      .ok (.root (some Node.bssidAndBit)) :=
  getExecutableTree_printed Node.bssidAndBit_printable

end SnapDesk
