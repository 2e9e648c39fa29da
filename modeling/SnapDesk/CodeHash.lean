import SnapDesk.Database
import SnapDesk.Keys
import SnapDesk.ScriptReading

/-! # What the code hash tells apart

The constructor of a database joins the lines of the code file up to the first blank one
and hashes the result.  The compiler reads lines, and it goes on behind a blank line where
the first argument of a function may stand.  So the hash sees neither where the lines end
nor what is behind such a blank line.

The tree of an accepted script is settled by its lines of code, and settles them
(`codeLines_eq_iff`): `scriptCode` is what the compiler reads of a file, as a function of
its lines.  Two scripts with different trees are therefore hashed alike exactly if the lines
of one, up to the first blank line, are those of the other joined and broken at other places
(`codeHash_iff`). -/
namespace SnapDesk
open Delimited

namespace Node
open Compiler

/-- The nodes that the compiler makes. -/
inductive Compiled : Node → Prop
  | leaf {line : Str} (hcode : isCode line = true) (hclosing : line ≠ closing)
      (hlast : line.getLast? ≠ some 123) :
      Compiled (Compiler.leaf line)
  | function (kind : FunctionKind) {args : List Node} (hargs : ∀ arg ∈ args, Compiled arg) :
      Compiled (.function kind args)

/-- The text of a node does not begin with a closing line. -/
theorem Compiled.first_line {node : Node} (h : Compiled node) :
    ∃ line ls, printLines node = line :: ls ∧ line ≠ closing := by
  cases h with
  | leaf hcode hclosing _ => exact ⟨_, [], printLines_leaf hcode, hclosing⟩
  | function kind _ => exact ⟨kind.opening, _, rfl, opening_ne_closing kind⟩

theorem opening_injective {kind kind' : FunctionKind} (h : kind.opening = kind'.opening) :
    kind = kind' := by
  cases kind <;> cases kind' <;> first | rfl | exact absurd h (by decide)

/-- The node is known from its text, whatever follows that. -/
def ReadsUniquely (node : Node) : Prop :=
  ∀ node', Compiled node' → ∀ xs ys, printLines node ++ xs = printLines node' ++ ys →
    node = node' ∧ xs = ys

/-- So are arguments from their text, if a closing line follows it. -/
theorem printAll_inj {args : List Node} (hunique : ∀ arg ∈ args, ReadsUniquely arg)
    (hargs : ∀ arg ∈ args, Compiled arg) {args' : List Node} (hargs' : ∀ arg ∈ args', Compiled arg)
    {xs ys : List Str} (h : printAll args ++ closing :: xs = printAll args' ++ closing :: ys) :
    args = args' ∧ xs = ys := by
  -- no argument begins with a closing line, so both lists end together
  induction args generalizing args' with
  | nil =>
    cases args' with
    | nil => exact ⟨rfl, (List.cons.inj h).2⟩
    | cons arg' args' =>
      obtain ⟨line, ls, hline, hclosing⟩ := (hargs' arg' List.mem_cons_self).first_line
      rw [printAll, printAll, hline] at h
      exact absurd (List.cons.inj h).1.symm hclosing
  | cons arg args ih =>
    cases args' with
    | nil =>
      obtain ⟨line, ls, hline, hclosing⟩ := (hargs arg List.mem_cons_self).first_line
      rw [printAll, printAll, hline] at h
      exact absurd (List.cons.inj h).1 hclosing
    | cons arg' args' =>
      rw [List.forall_mem_cons] at hunique hargs hargs'
      rw [printAll, printAll, List.append_assoc, List.append_assoc] at h
      obtain ⟨rfl, hrest⟩ := hunique.1 arg' hargs'.1 _ _ h
      obtain ⟨rfl, hxs⟩ := ih hunique.2 hargs.2 hargs'.2 hrest
      exact ⟨rfl, hxs⟩

/-- **A compiled node is known from its text**, by induction on the node. -/
theorem Compiled.readsUniquely {node : Node} (h : Compiled node) : ReadsUniquely node := by
  induction h with
  | @leaf line hcode hclosing hlast =>
    intro node' h' xs ys he
    rw [printLines_leaf hcode] at he
    cases h' with
    | leaf hcode' =>
      rw [printLines_leaf hcode'] at he
      obtain ⟨rfl, hrest⟩ := List.cons.inj he
      exact ⟨rfl, hrest⟩
    | function kind =>
      -- an opening line ends like no leaf does
      refine absurd (List.cons.inj he).1 fun hline => hlast ?_
      rw [hline]
      exact getLast?_opening kind
  | @function kind args hargs ih =>
    intro node' h' xs ys he
    cases h' with
    | @leaf line hcode' _ hlast' =>
      rw [printLines_leaf hcode'] at he
      refine absurd (List.cons.inj he).1 fun hline => hlast' ?_
      rw [← hline]
      exact getLast?_opening kind
    | @function kind' args' hargs' =>
      rw [printLines, printLines, List.cons_append, List.cons_append, List.append_assoc,
        List.append_assoc] at he
      obtain ⟨hopen, hrest⟩ := List.cons.inj he
      obtain rfl := opening_injective hopen
      obtain ⟨rfl, hxs⟩ := printAll_inj ih hargs hargs' hrest
      exact ⟨rfl, hxs⟩

end Node

namespace Compiler
open Node

/-- The lines of code of a script: up to a blank line, but for one that follows, comments
aside, an opening line. -/
def scriptCode : Bool → List Str → List Str
  | _, [] => []
  | opened, line :: ls =>
      if line = [] then if opened then scriptCode false ls else []
      else if line.head? = some 35 then scriptCode opened ls
      else line :: scriptCode (line.getLast? = some 123) ls

theorem scriptCode_comment {line : Str} (h : line.head? = some 35) (opened : Bool) (ls : List Str) :
    scriptCode opened (line :: ls) = scriptCode opened ls := by
  rw [scriptCode, if_neg (ne_nil_of_comment h), if_pos h]

theorem scriptCode_code {line : Str} (h : isCode line = true) (opened : Bool) (ls : List Str) :
    scriptCode opened (line :: ls) = line :: scriptCode (line.getLast? = some 123) ls := by
  rw [scriptCode, if_neg (ne_nil_of_isCode h), if_neg (head_of_isCode h)]

/-- What the lines of code are that a call reads. -/
def ReadsCode : Option (FunctionKind × List Node) → List Str → Option Node → List Str → Prop
  | none, ls, none, rest => scriptCode false ls = [] ∧ scriptCode true ls = scriptCode false rest
  | none, ls, some node, rest => ∀ opened,
      scriptCode opened ls = printLines node ++ scriptCode false rest
  | some (kind, done), ls, node, rest => ∃ args, node = some (.function kind (done ++ args)) ∧
      ∀ opened, scriptCode opened ls = printAll args ++ closing :: scriptCode false rest

namespace Reads

/-- **The lines of code that a call reads** are the text of what it attaches. -/
theorem readsCode {aux : Option (FunctionKind × List Node)} {ls rest : List Str}
    {node : Option Node} (h : Reads aux ls node rest) : ReadsCode aux ls node rest := by
  induction h with
  | ended => exact ⟨rfl, rfl⟩
  | blank ls => exact ⟨rfl, rfl⟩
  | @comment aux line ls rest node hline _ ih =>
    rcases aux with _ | ⟨kind, done⟩
    · cases node with
      | none =>
        obtain ⟨hfalse, htrue⟩ := ih
        exact ⟨(scriptCode_comment hline _ _).trans hfalse, (scriptCode_comment hline _ _).trans htrue⟩
      | some node => exact fun opened => (scriptCode_comment hline opened ls).trans (ih opened)
    · obtain ⟨args, hnode, hcode⟩ := ih
      exact ⟨args, hnode, fun opened => (scriptCode_comment hline opened ls).trans (hcode opened)⟩
  | @leaf line hcode _ hlast ls =>
    intro opened
    rw [scriptCode_code hcode, decide_eq_false hlast, printLines_leaf hcode, List.singleton_append]
  | @opening kind ls mid rest arg node _ _ iharg ih =>
    obtain ⟨args, rfl, hcode⟩ := ih
    -- behind the opening line a blank line is skipped
    have hfirst : scriptCode true ls = printAll arg.toList ++ scriptCode false mid := by
      cases arg with
      | none => exact iharg.2
      | some arg =>
        rw [iharg true, Option.toList_some, printAll, printAll, List.append_nil]
    intro opened
    rw [scriptCode_code (isCode_opening kind), decide_eq_true (getLast?_opening kind), hfirst,
      hcode, printLines, printAll_append]
    simp only [List.cons_append, List.append_assoc, List.nil_append]
  | closing kind done ls =>
    refine ⟨[], by rw [List.append_nil], fun opened => ?_⟩
    rw [scriptCode_code isCode_closing]
    rfl
  | @argument kind done line ls mid rest arg node _ _ _ _ iharg ih =>
    obtain ⟨args, rfl, hcode⟩ := ih
    refine ⟨arg :: args, by rw [List.append_assoc, List.singleton_append], fun opened => ?_⟩
    rw [iharg opened, hcode, printAll, List.append_assoc]

/-- What is attached is made by the compiler. -/
theorem compiled {aux : Option (FunctionKind × List Node)} {ls rest : List Str} {node : Option Node}
    (h : Reads aux ls node rest)
    (haux : ∀ kind done, aux = some (kind, done) → ∀ arg ∈ done, Compiled arg) :
    ∀ n, node = some n → Compiled n := by
  induction h with
  | ended => exact fun _ hn => by cases hn
  | blank => exact fun _ hn => by cases hn
  | comment _ _ ih => exact ih haux
  | leaf hcode hclosing hlast =>
    intro n hn
    cases hn
    exact .leaf hcode hclosing hlast
  | opening kind _ _ iharg ih =>
    refine ih fun kind' done hdone arg harg => ?_
    cases hdone
    exact iharg (fun _ _ he => by cases he) arg (Option.mem_toList.mp harg)
  | closing kind done =>
    intro n hn
    cases hn
    exact .function kind (haux kind done rfl)
  | @argument kind done _ _ _ _ arg _ _ _ _ _ iharg ih =>
    refine ih fun kind' done' hdone a ha => ?_
    cases hdone
    rcases List.mem_append.mp ha with ha | ha
    · exact haux kind done rfl a ha
    · rw [List.mem_singleton.mp ha]
      exact iharg (fun _ _ he => by cases he) arg rfl

end Reads

/-- The lines of code of a script file. -/
def codeLines (script : Str) : List Str := scriptCode false (fields newline script)

/-- The tree of a script is what its lines of code are the text of. -/
theorem codeLines_of_tree {script : Str} {tree : Node} (h : getExecutableTree script = .ok tree) :
    ∃ node : Option Node, tree = .root node ∧ (∀ n, node = some n → Compiled n) ∧
      codeLines script = (node.map printLines).getD [] := by
  obtain ⟨node, rest, hreads, hrest, rfl⟩ := getExecutableTree_iff.mp h
  refine ⟨node, rfl, hreads.compiled (fun _ _ he => by cases he), ?_⟩
  have hend : scriptCode false rest = [] := by
    cases rest with
    | nil => rfl
    | cons line rest =>
      obtain rfl : line = [] := hrest
      rfl
  cases node with
  | none => exact hreads.readsCode.1
  | some node =>
    rw [codeLines, hreads.readsCode false, hend, List.append_nil]
    rfl

/-- **Accepted scripts have the same tree** if and only if they have the same lines of code. -/
theorem codeLines_eq_iff {script₁ script₂ : Str} {tree₁ tree₂ : Node}
    (h₁ : getExecutableTree script₁ = .ok tree₁) (h₂ : getExecutableTree script₂ = .ok tree₂) :
    codeLines script₁ = codeLines script₂ ↔ tree₁ = tree₂ := by
  obtain ⟨node₁, rfl, hcompiled₁, hcode₁⟩ := codeLines_of_tree h₁
  obtain ⟨node₂, rfl, hcompiled₂, hcode₂⟩ := codeLines_of_tree h₂
  rw [hcode₁, hcode₂]
  constructor
  · intro h
    rcases node₁ with _ | node₁
    · rcases node₂ with _ | node₂
      · rfl
      · obtain ⟨line, ls, hline, -⟩ := (hcompiled₂ node₂ rfl).first_line
        rw [Option.map_some, Option.getD_some, hline] at h
        cases h
    · rcases node₂ with _ | node₂
      · obtain ⟨line, ls, hline, -⟩ := (hcompiled₁ node₁ rfl).first_line
        rw [Option.map_some, Option.getD_some, hline] at h
        cases h
      · have happend : printLines node₁ ++ [] = printLines node₂ ++ [] := congrArg (· ++ []) h
        rw [((hcompiled₁ node₁ rfl).readsUniquely node₂ (hcompiled₂ node₂ rfl) [] [] happend).1]
  · intro h
    cases h
    rfl

end Compiler

namespace Database
open Compiler

/-- The lines that are hashed: up to the first blank one. -/
def hashedLines (script : Str) : List Str := (fields newline script).takeWhile (· ≠ [])

theorem nil_notMem_hashedLines (script : Str) : [] ∉ hashedLines script := by
  intro h
  have hne := List.mem_takeWhile_imp h
  simp at hne

theorem readCode_run_of_open {w : World} {codeFile script : Str}
    (h : openText w codeFile = some script) :
    (readCode codeFile).run w = .ok (hashedLines script).flatten w := by
  rw [readCode_run, codeOf, h]
  rfl

/-- **Different trees are hashed from different strings** if and only if the hashed lines of
the two scripts are not the same text, broken at other places. -/
theorem codeHash_iff {w₁ w₂ : World} {codeFile₁ codeFile₂ script₁ script₂ : Str}
    (hopen₁ : openText w₁ codeFile₁ = some script₁) (hopen₂ : openText w₂ codeFile₂ = some script₂)
    {tree₁ tree₂ : Node} (htree₁ : getExecutableTree script₁ = .ok tree₁)
    (htree₂ : getExecutableTree script₂ = .ok tree₂) :
    (tree₁ ≠ tree₂ → ∃ code₁ code₂, (readCode codeFile₁).run w₁ = .ok code₁ w₁ ∧
        (readCode codeFile₂).run w₂ = .ok code₂ w₂ ∧ code₁ ≠ code₂) ↔
      codeLines script₁ = codeLines script₂ ∨
        ¬ Rebroken (hashedLines script₁) (hashedLines script₂) := by
  have hflatten := flatten_eq_iff (nil_notMem_hashedLines script₁) (nil_notMem_hashedLines script₂)
  rw [readCode_run_of_open hopen₁, readCode_run_of_open hopen₂, codeLines_eq_iff htree₁ htree₂,
    ← hflatten]
  constructor
  · intro h
    by_cases htree : tree₁ = tree₂
    · exact .inl htree
    · obtain ⟨code₁, code₂, hcode₁, hcode₂, hne⟩ := h htree
      cases hcode₁
      cases hcode₂
      exact .inr hne
  · rintro (htree | hne) hdifferent
    · exact absurd htree hdifferent
    · exact ⟨_, _, rfl, rfl, hne⟩

/-- A world with a code file. -/
def codeWorld (script : Str) : World := writeFile [lit "c"] script Csv.emptyWorld

theorem openText_codeWorld (script : Str) :
    openText (codeWorld script) (lit "c") = some script := by
  have hfile : HasFile (codeWorld script) (lit "c") [lit "c"] script := ⟨rfl, rfl⟩
  exact hfile.openText

/-- Two fields, and one field whose name is the two lines in one. -/
def twoFields : Str := lit "Sha256 \x7b\n>a\n>b\n\x7d\n"

def oneField : Str := lit "Sha256 \x7b\n>a>b\n\x7d\n"

theorem tree_twoFields :
    getExecutableTree twoFields =
      .ok (.root (some (.function .sha256 [.getter (lit "a"), .getter (lit "b")]))) := rfl

theorem tree_oneField :
    getExecutableTree oneField = .ok (.root (some (.function .sha256 [.getter (lit "a>b")]))) := rfl

theorem codeHash_iff_fields :
    (Node.root (some (.function .sha256 [.getter (lit "a"), .getter (lit "b")])) ≠
        .root (some (.function .sha256 [.getter (lit "a>b")])) →
      ∃ code₁ code₂, (readCode (lit "c")).run (codeWorld twoFields) =
        .ok code₁ (codeWorld twoFields) ∧
        (readCode (lit "c")).run (codeWorld oneField) = .ok code₂ (codeWorld oneField) ∧
          code₁ ≠ code₂) ↔
      codeLines twoFields = codeLines oneField ∨
        ¬ Rebroken (hashedLines twoFields) (hashedLines oneField) :=
  codeHash_iff (openText_codeWorld _) (openText_codeWorld _) tree_twoFields tree_oneField

/-- Two fields and one field are hashed alike. -/
theorem not_codeHash :
    ¬ ∀ (w₁ w₂ : World) (codeFile₁ codeFile₂ script₁ script₂ : Str) (tree₁ tree₂ : Node),
      openText w₁ codeFile₁ = some script₁ → openText w₂ codeFile₂ = some script₂ →
      getExecutableTree script₁ = .ok tree₁ → getExecutableTree script₂ = .ok tree₂ →
        tree₁ ≠ tree₂ →
      ∃ code₁ code₂, (readCode codeFile₁).run w₁ = .ok code₁ w₁ ∧
        (readCode codeFile₂).run w₂ = .ok code₂ w₂ ∧ code₁ ≠ code₂ := by
  intro h
  obtain ⟨code₁, code₂, hcode₁, hcode₂, hne⟩ := h _ _ _ _ _ _ _ _ (openText_codeWorld twoFields)
    (openText_codeWorld oneField) tree_twoFields tree_oneField (fun he => by cases he)
  rw [readCode_run_of_open (openText_codeWorld _)] at hcode₁ hcode₂
  cases hcode₁
  cases hcode₂
  exact hne (by decide)

end Database
end SnapDesk
