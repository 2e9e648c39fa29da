import SnapDesk.Compiler

/-! # What an accepted script is compiled to

A script ends at a blank line.  Of an accepted script the root gets at most one
child, and that child is the text up to a blank line or the end of the file,
without comments (`getExecutableTree_text`).  Blank lines before that are skipped
in one place only: where the first argument of a function is looked for.

`readLoop_text` is the invariant: a call either attaches nothing, and then has
read comments and one blank line, or it attaches a node whose text is the code it
has read.  The induction is on the bound on nested calls. -/
namespace SnapDesk
open Delimited

namespace Compiler
open Node

section
variable {lines : Nat → Str}

/-- Only comments stand between the line and the opening line of a function
before it. -/
def AfterOpening (lines : Nat → Str) (m : Nat) : Prop :=
  ∃ o < m, (∃ kind : FunctionKind, lines o = kind.opening) ∧
    ∀ k, o < k → k < m → (lines k).head? = some 35

/-- Every blank line of a stretch follows an opening line. -/
def BlanksAfterOpening (lines : Nat → Str) (i j : Nat) : Prop :=
  ∀ m, i ≤ m → m < j → lines m = [] → AfterOpening lines m

/-- A stretch of comments with a blank line at its end. -/
structure OnlyComments (lines : Nat → Str) (i j : Nat) : Prop where
  lt : i < j
  comment : ∀ k, i ≤ k → k + 1 < j → (lines k).head? = some 35
  blank : lines (j - 1) = []

/-- The code of a stretch is the text of a node, or of the rest of a function
that has some of its arguments. -/
def TextOf (node : Node) : Option (FunctionKind × List Node) → List Str → Prop
  | none, code => code = printLines node
  | some (kind, done), code => ∃ args, node = .function kind (done ++ args) ∧
      code = printAll args ++ [closing]

theorem BlanksAfterOpening.append {i j k : Nat} (h : BlanksAfterOpening lines i j)
    (h' : BlanksAfterOpening lines j k) : BlanksAfterOpening lines i k := by
  intro m him hmk hm
  rcases Nat.lt_or_ge m j with hmj | hjm
  · exact h m him hmj hm
  · exact h' m hjm hmk hm

theorem blanksAfterOpening_one {i : Nat} (h : lines i ≠ []) :
    BlanksAfterOpening lines i (i + 1) := by
  intro m him hmi hm
  obtain rfl : m = i := by omega
  exact absurd hm h

theorem ne_nil_of_comment {line : Str} (h : line.head? = some 35) : line ≠ [] := by
  rintro rfl
  cases h

theorem isCode_of_comment {line : Str} (h : line.head? = some 35) : isCode line = false := by
  simp [isCode, h]

theorem OnlyComments.codeBetween {i j : Nat} (h : OnlyComments lines i j) :
    codeBetween lines i j = [] := by
  refine codeBetween_eq_nil fun k hik hkj => ?_
  rcases Nat.lt_or_ge (k + 1) j with hlt | hge
  · exact isCode_of_comment (h.comment k hik hlt)
  · obtain rfl : k = j - 1 := by omega
    rw [h.blank]
    rfl

/-- The blank line at the end of such a stretch after an opening line. -/
theorem OnlyComments.blanksAfterOpening {i j : Nat} (h : OnlyComments lines (i + 1) j)
    {kind : FunctionKind} (hopen : lines i = kind.opening) :
    BlanksAfterOpening lines (i + 1) j := by
  intro m him hmj hm
  rcases Nat.lt_or_ge (m + 1) j with hlt | hge
  · exact absurd hm (ne_nil_of_comment (h.comment m him hlt))
  · refine ⟨i, by omega, ⟨kind, hopen⟩, fun k hik hkm => h.comment k (by omega) (by omega)⟩

theorem printLines_leaf {line : Str} (hcode : isCode line = true) :
    printLines (leaf line) = [line] := by
  rw [leaf]
  split
  · rename_i hgetter
    obtain ⟨c, rest, rfl⟩ := List.exists_cons_of_ne_nil (ne_nil_of_isCode hcode)
    rw [List.head?_cons, Option.some.injEq] at hgetter
    rw [printLines, hgetter]
    rfl
  · rfl

theorem addNode_function {kind : FunctionKind} {args : List Node} {arg node : Node} {calls : Nat}
    (h : (Node.function kind args).addNode arg calls = .ok node) :
    node = .function kind (args ++ [arg]) := by
  cases calls with
  | zero => cases h
  | succ calls => cases h; rfl

theorem addNode_root {arg node : Node} {calls : Nat}
    (h : (Node.root none).addNode arg calls = .ok node) : node = .root (some arg) := by
  cases calls with
  | zero => cases h
  | succ calls => cases h; rfl

/-- What a call of `read_line` that returns has read and attached. -/
inductive ReadText (lines : Nat → Str) (currentNode : Node) (aux : Option (FunctionKind × List Node))
    (i : Nat) : Node → Nat → Prop
  | nothing {j : Nat} (haux : aux = none) (h : OnlyComments lines i j) :
      ReadText lines currentNode aux i currentNode j
  | attached {node result : Node} {calls j : Nat} (hij : i < j)
      (hadd : currentNode.addNode node calls = .ok result)
      (hblank : BlanksAfterOpening lines i j) (htext : TextOf node aux (codeBetween lines i j)) :
      ReadText lines currentNode aux i result j

/-- The function whose arguments are being read, as a node. -/
def auxNode (aux : Option (FunctionKind × List Node)) : Option Node :=
  aux.map fun p => .function p.1 p.2

@[simp] theorem auxNode_none : auxNode none = none := rfl

@[simp] theorem auxNode_some (kind : FunctionKind) (done : List Node) :
    auxNode (some (kind, done)) = some (.function kind done) := rfl

/-- **What a round of the loop that returns has met**: the line, and the calls that were
made for the rest. -/
inductive Round (lines : Nat → Str) (calls : Nat) (currentNode : Node) :
    Option (FunctionKind × List Node) → Nat → Node → Nat → Prop
  | blank {i : Nat} (hline : lines i = []) : Round lines calls currentNode none i currentNode (i + 1)
  | comment {aux : Option (FunctionKind × List Node)} {i j : Nat} {result : Node}
      (hline : (lines i).head? = some 35)
      (h : readLoop (reader lines) calls currentNode (auxNode aux) (i + 1) = .ok (result, j)) :
      Round lines calls currentNode aux i result j
  | leaf {i : Nat} {result : Node} (hcode : isCode (lines i) = true) (hclosing : lines i ≠ closing)
      (hlast : (lines i).getLast? ≠ some 123)
      (hadd : currentNode.addNode (Compiler.leaf (lines i)) (calls + 1) = .ok result) :
      Round lines calls currentNode none i result (i + 1)
  /-- The first argument is read here, the others by the rounds after it. -/
  | opening {kind : FunctionKind} {i j k : Nat} {node result : Node} (hopen : lines i = kind.opening)
      (harg : readLoop (reader lines) calls (.function kind []) (auxNode none) (i + 1) = .ok (node, k))
      (h : readLoop (reader lines) calls currentNode (some node) k = .ok (result, j)) :
      Round lines calls currentNode none i result j
  | closing {kind : FunctionKind} {done : List Node} {i : Nat} {result : Node} (hline : lines i = SnapDesk.closing)
      (hadd : currentNode.addNode (.function kind done) (calls + 1) = .ok result) :
      Round lines calls currentNode (some (kind, done)) i result (i + 1)
  | argument {kind : FunctionKind} {done : List Node} {i j k : Nat} {node result : Node}
      (hcode : isCode (lines i) = true) (hclosing : lines i ≠ SnapDesk.closing)
      (harg : readLoop (reader lines) calls (.function kind done) (auxNode none) i = .ok (node, k))
      (h : readLoop (reader lines) calls currentNode (some node) k = .ok (result, j)) :
      Round lines calls currentNode (some (kind, done)) i result j

theorem round_of_readLoop (aux : Option (FunctionKind × List Node)) {calls i j : Nat}
    {currentNode result : Node}
    (h : readLoop (reader lines) (calls + 1) currentNode (auxNode aux) i = .ok (result, j)) :
    Round lines calls currentNode aux i result j := by
  by_cases hempty : lines i = []
  · rw [readLoop_blank _ hempty] at h
    rcases aux with _ | p
    · cases h
      exact .blank hempty
    · cases h
  by_cases hcomment : (lines i).head? = some 35
  · rw [readLoop_comment _ hcomment] at h
    exact .comment hcomment h
  have hcode : isCode (lines i) = true := by simp [isCode, hempty, hcomment]
  -- what a line of code means depends on whether a function is being read
  by_cases hclosing : lines i = closing
  · rcases aux with _ | ⟨kind, done⟩
    · rw [auxNode_none, readLoop_closing_none hclosing] at h
      cases h
    · rw [auxNode_some, readLoop_closing_some _ hclosing, attach_some] at h
      obtain ⟨node, hadd, h⟩ := bind_eq_ok h
      cases h
      exact .closing hclosing hadd
  rcases aux with _ | ⟨kind, done⟩
  · by_cases hlast : (lines i).getLast? = some 123
    · rw [auxNode_none, readLoop_opening hcode hclosing hlast] at h
      obtain ⟨node, hnew, h⟩ := bind_eq_ok h
      obtain ⟨kind, hopen, rfl⟩ := opening_of_newFunction hnew
      obtain ⟨⟨node, k⟩, harg, h⟩ := bind_eq_ok h
      exact .opening hopen harg h
    · rw [auxNode_none, readLoop_leaf hcode hclosing hlast, attach_some] at h
      obtain ⟨node, hadd, h⟩ := bind_eq_ok h
      cases h
      exact .leaf hcode hclosing hlast hadd
  · rw [auxNode_some, readLoop_argument _ hcode hclosing] at h
    obtain ⟨⟨node, k⟩, harg, h⟩ := bind_eq_ok h
    exact .argument hcode hclosing harg h

/-- A comment in front changes nothing. -/
theorem ReadText.comment {currentNode result : Node} {aux : Option (FunctionKind × List Node)}
    {i j : Nat} (hline : (lines i).head? = some 35)
    (h : ReadText lines currentNode aux (i + 1) result j) :
    ReadText lines currentNode aux i result j := by
  cases h with
  | nothing haux h =>
    refine .nothing haux ⟨Nat.lt_of_succ_lt h.lt, fun k hik hkj => ?_, h.blank⟩
    rcases Nat.eq_or_lt_of_le hik with rfl | hlt
    · exact hline
    · exact h.comment k hlt hkj
  | attached hij hadd hblank htext =>
    refine .attached (Nat.lt_of_succ_lt hij) hadd
      ((blanksAfterOpening_one (ne_nil_of_comment hline)).append hblank) ?_
    rwa [codeBetween_skip (Nat.lt_of_succ_lt hij) (isCode_of_comment hline)]

/-- The arguments read so far, one more, and the rest of the function. -/
theorem ReadText.argument {currentNode result arg : Node} {kind : FunctionKind}
    {done : List Node} {i j k : Nat} (hij : i < j) (hblank : BlanksAfterOpening lines i j)
    (htext : TextOf arg none (codeBetween lines i j))
    (h : ReadText lines currentNode (some (kind, done ++ [arg])) j result k) :
    ReadText lines currentNode (some (kind, done)) i result k := by
  cases h with
  | nothing haux _ => cases haux
  | attached hjk hadd hblank' htext' =>
    obtain ⟨args, hnode, hcode⟩ := htext'
    refine .attached (Nat.lt_trans hij hjk) hadd (hblank.append hblank') ⟨arg :: args, ?_, ?_⟩
    · rw [hnode, List.append_assoc, List.singleton_append]
    · rw [← codeBetween_append (Nat.le_of_lt hij) (Nat.le_of_lt hjk), hcode, htext, printAll,
        List.append_assoc]

/-- The opening line, and the rest of the function without arguments yet. -/
theorem ReadText.opening {currentNode result : Node} {kind : FunctionKind} {i k : Nat}
    (hopen : lines i = kind.opening)
    (h : ReadText lines currentNode (some (kind, [])) (i + 1) result k) :
    ReadText lines currentNode none i result k := by
  have hcode : isCode (lines i) = true := hopen ▸ isCode_opening kind
  cases h with
  | nothing haux _ => cases haux
  | attached hik hadd hblank htext =>
    obtain ⟨args, hnode, hcodes⟩ := htext
    refine .attached (Nat.lt_of_succ_lt hik) hadd
      ((blanksAfterOpening_one (ne_nil_of_isCode hcode)).append hblank) ?_
    rw [codeBetween_cons (Nat.lt_of_succ_lt hik) hcode, hcodes, hopen, hnode]
    rfl

/-- **What a call of `read_line` has read is what it attaches.** -/
theorem readLoop_text (aux : Option (FunctionKind × List Node)) {calls i j : Nat}
    {currentNode result : Node}
    (h : readLoop (reader lines) calls currentNode (auxNode aux) i = .ok (result, j)) :
    ReadText lines currentNode aux i result j := by
  induction calls generalizing currentNode aux i result j with
  | zero => cases h
  | succ calls ih =>
    cases round_of_readLoop aux h with
    | blank hline => exact .nothing rfl ⟨Nat.lt_succ_self i, fun k hik hkj => by omega, hline⟩
    | comment hline hrest => exact (ih aux hrest).comment hline
    | leaf hcode hclosing hlast hadd =>
      refine .attached (Nat.lt_succ_self i) hadd (blanksAfterOpening_one (ne_nil_of_isCode hcode)) ?_
      rw [codeBetween_one, if_pos hcode]
      exact (printLines_leaf hcode).symm
    | @opening kind _ _ k node _ hopen harg hrest =>
      refine .opening hopen ?_
      cases ih none harg with
      | nothing _ hskip =>
        cases ih (some (kind, [])) hrest with
        | nothing haux _ => cases haux
        | attached hkj hadd hblank htext =>
          refine .attached (Nat.lt_trans hskip.lt hkj) hadd ((hskip.blanksAfterOpening hopen).append hblank) ?_
          rwa [← codeBetween_append (Nat.le_of_lt hskip.lt) (Nat.le_of_lt hkj), hskip.codeBetween]
      | attached hik hadd hblank htext =>
        rw [addNode_function hadd] at hrest
        exact .argument hik hblank htext (ih (some (kind, _)) hrest)
    | closing hline hadd =>
      have hcode : isCode (lines i) = true := hline ▸ isCode_closing
      refine .attached (Nat.lt_succ_self i) hadd (blanksAfterOpening_one (ne_nil_of_isCode hcode))
        ⟨[], by rw [List.append_nil], ?_⟩
      rw [codeBetween_one, if_pos hcode, hline]
      rfl
    | @argument kind done _ _ k node _ hcode hclosing harg hrest =>
      cases ih none harg with
      | nothing _ hskip =>
        -- the line is code, so something is attached
        have hlt := hskip.lt
        rcases Nat.lt_or_ge (i + 1) k with hnext | hge
        · exact absurd (hskip.comment i (Nat.le_refl i) hnext) (head_of_isCode hcode)
        · obtain rfl : k = i + 1 := by omega
          exact absurd hskip.blank (ne_nil_of_isCode hcode)
      | attached hik hadd hblank htext =>
        rw [addNode_function hadd] at hrest
        exact .argument hik hblank htext (ih (some (kind, _)) hrest)

/-! ### The compiler returns -/

theorem attach_returnsOrThrows {currentNode : Node} (htakes : currentNode.TakesChildren = true)
    {calls : Nat} (hcalls : 0 < calls) (auxFunctionNode newNode : Option Node) (i : Nat) :
    ReturnsOrThrows (attach calls currentNode auxFunctionNode newNode i) := by
  rcases auxFunctionNode with _ | aux
  · rcases newNode with _ | node
    · exact .ok _
    · exact .bind (addNode_returnsOrThrows htakes node hcalls) fun _ _ => .ok _
  · exact .error rfl

theorem newFunction_returnsOrThrows (line : Str) : ReturnsOrThrows (newFunction line) := by
  unfold newFunction
  split_ifs
  · exact .ok _
  · exact .ok _
  · exact .ok _
  · exact .error rfl

/-- Reading an argument of a function leaves a function, further on in the script. -/
theorem function_of_readLoop {calls i j : Nat} {kind : FunctionKind} {done : List Node}
    {node : Node} (h : readLoop (reader lines) calls (.function kind done) none i = .ok (node, j)) :
    i < j ∧ ∃ args, node = .function kind args := by
  cases readLoop_text none h with
  | nothing _ hskip => exact ⟨hskip.lt, done, rfl⟩
  | attached hij hadd _ _ => exact ⟨hij, _, addNode_function hadd⟩

/-- Rounds and calls for a number of lines: two for each, since a call inside a function
starts at the same line, but outside any function of its own. -/
def callsFor (aux : Option (FunctionKind × List Node)) (count : Nat) : Nat :=
  2 * count + (if aux.isSome then 1 else 0)

@[simp] theorem callsFor_none (count : Nat) : callsFor none count = 2 * count := rfl

@[simp] theorem callsFor_some (p : FunctionKind × List Node) (count : Nat) :
    callsFor (some p) count = 2 * count + 1 := rfl

theorem callsFor_succ (aux : Option (FunctionKind × List Node)) (count : Nat) :
    callsFor aux (count + 1) = callsFor aux count + 2 := by
  rw [callsFor, callsFor]
  omega

/-- One argument of a function, and the rest of the function. -/
theorem argument_returnsOrThrows {currentNode : Node} {kind : FunctionKind} {done : List Node}
    {calls i : Nat}
    (hfirst : ReturnsOrThrows (readLoop (reader lines) calls (.function kind done) none i))
    (hrest : ∀ args j, i < j →
      ReturnsOrThrows (readLoop (reader lines) calls currentNode (some (.function kind args)) j)) :
    ReturnsOrThrows (readLoop (reader lines) calls (.function kind done) none i >>= fun r =>
      readLoop (reader lines) calls currentNode (some r.1) r.2) := by
  refine .bind hfirst fun r hr => ?_
  obtain ⟨hlt, args, hargs⟩ := function_of_readLoop (j := r.2) hr
  rw [hargs]
  exact hrest args r.2 hlt

/-- Every round or call leaves less of the script. -/
theorem readLoop_returnsOrThrows {count : Nat} (hcount : ∀ n, count ≤ n → lines n = [])
    (aux : Option (FunctionKind × List Node)) {calls i : Nat} {currentNode : Node}
    (htakes : currentNode.TakesChildren = true)
    (hcalls : callsFor aux (count - i) < calls) :
    ReturnsOrThrows (readLoop (reader lines) calls currentNode (auxNode aux) i) := by
  induction calls generalizing currentNode aux i with
  | zero => omega
  | succ calls ih =>
    by_cases hempty : lines i = []
    · rw [readLoop_blank _ hempty]
      exact attach_returnsOrThrows htakes (Nat.succ_pos calls) _ _ _
    -- the line is not blank, so it is one of the script
    have hi : i < count := by
      by_contra hle
      exact hempty (hcount i (by omega))
    by_cases hcomment : (lines i).head? = some 35
    · have hleft : count - i = count - (i + 1) + 1 := by omega
      rw [hleft, callsFor_succ] at hcalls
      rw [readLoop_comment _ hcomment]
      exact ih aux htakes (by omega)
    have hcode : isCode (lines i) = true := by simp [isCode, hempty, hcomment]
    rcases aux with _ | ⟨kind, done⟩
    · by_cases hclosing : lines i = closing
      · rw [auxNode_none, readLoop_closing_none hclosing]
        exact .error rfl
      by_cases hlast : (lines i).getLast? = some 123
      · rw [auxNode_none, readLoop_opening hcode hclosing hlast]
        refine .bind (newFunction_returnsOrThrows _) fun node hnew => ?_
        obtain ⟨kind, -, rfl⟩ := opening_of_newFunction hnew
        exact argument_returnsOrThrows (ih none rfl (by simp at hcalls ⊢; omega))
          fun args j hij => ih (some (kind, args)) htakes (by simp at hcalls ⊢; omega)
      · rw [auxNode_none, readLoop_leaf hcode hclosing hlast]
        exact attach_returnsOrThrows htakes (Nat.succ_pos calls) _ _ _
    · by_cases hclosing : lines i = closing
      · rw [auxNode_some, readLoop_closing_some _ hclosing]
        exact attach_returnsOrThrows htakes (Nat.succ_pos calls) _ _ _
      · rw [auxNode_some, readLoop_argument _ hcode hclosing]
        exact argument_returnsOrThrows (ih none rfl (by simp at hcalls ⊢; omega))
          fun args j hij => ih (some (kind, args)) htakes (by simp at hcalls ⊢; omega)

end

/-- A script has at most one line for each of its characters. -/
theorem lineAt_of_length_le (script : Str) (n : Nat) (hn : script.length ≤ n) :
    lineAt script n = [] := by
  have hlen := length_fields_le newline script
  rw [lineAt_eq, List.getElem?_eq_none (by omega)]
  rfl

/-- The bound that `get_executable_tree` is given here is always enough. -/
theorem getExecutableTree_returnsOrThrows (script : Str) :
    ReturnsOrThrows (getExecutableTree script) := by
  refine .bind (readLoop_returnsOrThrows (lineAt_of_length_le script) none rfl (by simp))
    fun r _ => ?_
  refine .bind (.ok _) fun line _ => ?_
  show ReturnsOrThrows (if line ≠ [] then _ else _)
  split
  · exact .error rfl
  · exact .ok _

theorem newline_notMem_lineAt (script : Str) (n : Nat) : newline ∉ lineAt script n := by
  rw [lineAt_eq]
  match h : (fields newline script)[n]? with
  | none => simp
  | some line => exact sep_notMem_of_mem_fields newline (List.mem_of_getElem? h)

/-- The text of a compiled tree is made of lines of the script. -/
theorem newline_notMem_compiled {script : Str} {rootNode : Node}
    (h : getExecutableTree script = .ok rootNode) :
    ∀ line ∈ rootNode.printLines, newline ∉ line := by
  have hcode (i j : Nat) : ∀ line ∈ codeBetween (lineAt script) i j, newline ∉ line := by
    intro line hline
    obtain ⟨n, -, rfl⟩ := List.mem_map.mp (List.mem_filter.mp hline).1
    exact newline_notMem_lineAt script n
  obtain ⟨⟨node, nextLine⟩, hread, -⟩ := bind_eq_ok h
  rw [getExecutableTree_of_readLoop hread] at h
  split at h
  · cases h
    cases readLoop_text none hread with
    | nothing _ _ => exact fun line hline => absurd hline List.not_mem_nil
    | attached _ hadd _ htext =>
      intro line hline
      have hline' : line ∈ printLines rootNode := hline
      rw [addNode_root hadd, printLines, ← htext] at hline'
      exact hcode _ _ line hline'
  · cases h

/-- **The text of an accepted script.**  The root gets at most one child, and the
text of that child is the code of the script up to some line that is blank or at
the end of the file; a blank line before that line directly follows, comments
aside, an opening line. -/
theorem getExecutableTree_text {script : Str} {rootNode : Node}
    (h : getExecutableTree script = .ok rootNode) :
    ∃ (child : Option Node) (e : Nat), rootNode = .root child ∧ lineAt script e = [] ∧
      (child.map printLines).getD [] = codeBetween (lineAt script) 0 e ∧
      BlanksAfterOpening (lineAt script) 0 e := by
  obtain ⟨⟨node, nextLine⟩, hread, -⟩ := bind_eq_ok h
  rw [getExecutableTree_of_readLoop hread] at h
  split at h
  · rename_i hend
    cases h
    cases readLoop_text none hread with
    | nothing _ hskip =>
      have hlt := hskip.lt
      refine ⟨none, nextLine - 1, rfl, hskip.blank, ?_, fun m _ hm hempty => ?_⟩
      · exact (codeBetween_eq_nil fun k _ hk =>
          isCode_of_comment (hskip.comment k (Nat.zero_le k) (by omega))).symm
      · exact absurd hempty (ne_nil_of_comment (hskip.comment m (Nat.zero_le m) (by omega)))
    | attached _ hadd hblank htext =>
      exact ⟨some _, nextLine, addNode_root hadd, hend, htext.symm, hblank⟩
  · cases h

/-- A script that ends before its last line. -/
theorem getExecutableTree_text_blank :
    ∃ (child : Option Node) (e : Nat), Node.root (some (.getter (lit "a"))) = .root child ∧
      lineAt (lit ">a\n\n>b\n") e = [] ∧
      (child.map printLines).getD [] = codeBetween (lineAt (lit ">a\n\n>b\n")) 0 e ∧
      BlanksAfterOpening (lineAt (lit ">a\n\n>b\n")) 0 e :=
  getExecutableTree_text (show getExecutableTree (lit ">a\n\n>b\n") = _ from rfl)

/-- The empty script is accepted without a child, and a script may go on after a
blank line that ends it. -/
theorem getExecutableTree_truncates :
    getExecutableTree [] = .ok (.root none) ∧
    getExecutableTree (lit ">a\n\n>b\n") = .ok (.root (some (.getter (lit "a")))) ∧
    (Node.getter (lit "a")).printLines ≠
      (fields newline (lit ">a\n\n>b\n")).filter isCode :=
  ⟨rfl, rfl, by decide⟩

end Compiler
end SnapDesk
