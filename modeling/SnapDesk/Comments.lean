import SnapDesk.ScriptReading

/-! # Comments

A line that begins with `#` is skipped wherever a line of code is looked for: before the
expression, before the first argument of a function and between its arguments.  So comments
put into a script are read over, and what was read before is read again
(`Reads.commented`).  Behind the expression no line of code is looked for: the next line has
to be blank, and a comment there is too much code.

A commented script is therefore accepted if and only if there was no expression, or its last
line is not a comment (`getExecutableTree_commented_iff`). -/
namespace SnapDesk
open Delimited

namespace Compiler

/-- The second list is the first with comments put in. -/
inductive Commented : List Str → List Str → Prop
  | nil : Commented [] []
  | line (line : Str) {ls ls' : List Str} (h : Commented ls ls') :
      Commented (line :: ls) (line :: ls')
  | comment {line : Str} (hline : line.head? = some 35) {ls ls' : List Str} (h : Commented ls ls') :
      Commented ls (line :: ls')

namespace Commented

/-- Only comments can be put where there is nothing. -/
theorem of_nil {ls' : List Str} (h : Commented [] ls') : ∀ line ∈ ls', line.head? = some 35 := by
  generalize hls : ([] : List Str) = ls at h
  induction h with
  | nil => exact fun line hline => absurd hline List.not_mem_nil
  | line => cases hls
  | comment hline _ ih =>
    intro l hl
    rcases List.mem_cons.mp hl with rfl | hl
    · exact hline
    · exact ih hls l hl

/-- Comments stay comments. -/
theorem forall_comment {ls ls' : List Str} (h : Commented ls ls')
    (hls : ∀ line ∈ ls, line.head? = some 35) :
    ∀ line ∈ ls', line.head? = some 35 := by
  induction h with
  | nil => exact hls
  | line line _ ih =>
    rw [List.forall_mem_cons] at hls ⊢
    exact ⟨hls.1, ih hls.2⟩
  | comment hline _ ih =>
    rw [List.forall_mem_cons]
    exact ⟨hline, ih hls⟩

/-- A line is still there, with comments in front of it. -/
theorem of_cons {line : Str} {ls ls' : List Str} (h : Commented (line :: ls) ls') :
    ∃ comments rest, ls' = comments ++ line :: rest ∧ (∀ c ∈ comments, c.head? = some 35) ∧
      Commented ls rest := by
  generalize hlines : line :: ls = lines at h
  induction h with
  | nil => cases hlines
  | line l h _ =>
    cases hlines
    exact ⟨[], _, rfl, fun c hc => absurd hc List.not_mem_nil, h⟩
  | @comment c hc _ _ _ ih =>
    obtain ⟨comments, rest, rfl, hcomments, h⟩ := ih hlines
    refine ⟨c :: comments, rest, rfl, ?_, h⟩
    rw [List.forall_mem_cons]
    exact ⟨hc, hcomments⟩

end Commented

namespace Reads
variable {aux : Option (FunctionKind × List Node)} {ls rest : List Str} {node : Option Node}

/-- Comments are skipped. -/
theorem comments (h : Reads aux ls node rest) {comments : List Str}
    (hcomments : ∀ c ∈ comments, c.head? = some 35) : Reads aux (comments ++ ls) node rest := by
  induction comments with
  | nil => exact h
  | cons c comments ih =>
    rw [List.forall_mem_cons] at hcomments
    exact .comment hcomments.1 (ih hcomments.2)

/-- **Comments are read over**: the same node is attached, and what is left is what was left
before, with comments put in. -/
theorem commented (h : Reads aux ls node rest) {ls' : List Str} (hins : Commented ls ls') :
    ∃ rest', Reads aux ls' node rest' ∧ Commented rest rest' := by
  -- in front of every line that is met there may be comments now
  induction h generalizing ls' with
  | ended =>
    have hread := ended.comments hins.of_nil
    rw [List.append_nil] at hread
    exact ⟨[], hread, .nil⟩
  | blank ls =>
    obtain ⟨comments, rest', rfl, hcomments, hrest⟩ := hins.of_cons
    exact ⟨rest', (blank rest').comments hcomments, hrest⟩
  | comment hline _ ih =>
    obtain ⟨comments, rest', rfl, hcomments, hrest⟩ := hins.of_cons
    obtain ⟨left, hread, hleft⟩ := ih hrest
    exact ⟨left, (comment hline hread).comments hcomments, hleft⟩
  | leaf hcode hclosing hlast ls =>
    obtain ⟨comments, rest', rfl, hcomments, hrest⟩ := hins.of_cons
    exact ⟨rest', (leaf hcode hclosing hlast rest').comments hcomments, hrest⟩
  | opening kind _ _ iharg ih =>
    obtain ⟨comments, rest', rfl, hcomments, hrest⟩ := hins.of_cons
    obtain ⟨mid', harg, hmid⟩ := iharg hrest
    obtain ⟨left, hread, hleft⟩ := ih hmid
    exact ⟨left, (opening kind harg hread).comments hcomments, hleft⟩
  | closing kind done ls =>
    obtain ⟨comments, rest', rfl, hcomments, hrest⟩ := hins.of_cons
    exact ⟨rest', (closing kind done rest').comments hcomments, hrest⟩
  | argument hcode hclosing _ _ iharg ih =>
    obtain ⟨comments, rest', rfl, hcomments, hrest⟩ := hins.of_cons
    obtain ⟨mid', harg, hmid⟩ := iharg (.line _ hrest)
    obtain ⟨left, hread, hleft⟩ := ih hmid
    exact ⟨left, (argument hcode hclosing harg hread).comments hcomments, hleft⟩

/-- Where nothing is attached and no line is blank, there are only comments. -/
theorem forall_comment (h : Reads none ls none rest) (hblank : [] ∉ ls) :
    ∀ line ∈ ls, line.head? = some 35 := by
  generalize haux : (none : Option (FunctionKind × List Node)) = aux at h
  generalize hnode : (none : Option Node) = node at h
  induction h with
  | ended => exact fun line hline => absurd hline List.not_mem_nil
  | blank => exact absurd List.mem_cons_self hblank
  | comment hline _ ih =>
    rw [List.forall_mem_cons]
    exact ⟨hline, ih (fun hmem => hblank (List.mem_cons_of_mem _ hmem)) haux hnode⟩
  | leaf => cases hnode
  | opening kind _ hfunction =>
    obtain ⟨args, hargs⟩ := hfunction.isSome_of_function
    cases hnode.trans hargs
  | closing => cases hnode
  | argument => cases haux

end Reads

/-- Without blank lines a script is read to its end. -/
theorem nil_of_headD {ls rest : List Str} (hrest : rest <:+ ls) (hblank : [] ∉ ls)
    (hhead : rest.headD [] = []) :
    rest = [] := by
  cases rest with
  | nil => rfl
  | cons line rest =>
    obtain rfl : line = [] := hhead
    exact absurd (hrest.subset List.mem_cons_self) hblank

/-- **Comments do not matter** if and only if none stands behind the expression. -/
theorem getExecutableTree_commented_iff {script script' : Str} {tree : Node}
    (h : getExecutableTree script = .ok tree) (hblank : [] ∉ fields newline script)
    (hins : Commented (fields newline script) (fields newline script')) :
    getExecutableTree script' = .ok tree ↔
      (∀ line ∈ fields newline script, line.head? = some 35) ∨
        ∀ line, (fields newline script').getLast? = some line → line.head? ≠ some 35 := by
  obtain ⟨node, rest, hreads, hhead, rfl⟩ := getExecutableTree_iff.mp h
  obtain rfl := nil_of_headD hreads.suffix hblank hhead
  cases node with
  | none =>
    -- no expression: the script and the commented one are comments
    have hcomments := hreads.forall_comment hblank
    have hread := Reads.ended.comments (hins.forall_comment hcomments)
    rw [List.append_nil] at hread
    exact ⟨fun _ => .inl hcomments, fun _ => (getExecutableTree_of_reads hread).1 rfl⟩
  | some node =>
    -- the same expression is read, and comments may be left behind it
    obtain ⟨rest', hread, hrest⟩ := hreads.commented hins
    have hcomments := hrest.of_nil
    obtain ⟨before, line, hlines, hcode⟩ := hread.exists_last rfl
    obtain ⟨before', line', hlines', hcode'⟩ := hreads.exists_last rfl
    cases rest' with
    | nil =>
      refine ⟨fun _ => .inr fun last hlast => ?_, fun _ => (getExecutableTree_of_reads hread).1 rfl⟩
      rw [hlines, List.getLast?_concat] at hlast
      cases hlast
      exact head_of_isCode hcode
    | cons comment rest' =>
      have hcomment := hcomments comment List.mem_cons_self
      obtain ⟨e, he⟩ := (getExecutableTree_of_reads hread).2 (ne_nil_of_comment hcomment)
      constructor
      · intro hok
        cases he.symm.trans hok
      · rintro (hall | hlast)
        · refine absurd (hall line' ?_) (head_of_isCode hcode')
          rw [hlines']
          exact List.mem_append_right _ List.mem_cons_self
        · have hlast' := List.getLast?_eq_some_getLast (List.cons_ne_nil comment rest')
          refine absurd (hcomments _ (List.mem_of_getLast? hlast')) (hlast _ ?_)
          rw [hlines, List.getLast?_append, List.getLast?_cons_cons, hlast', Option.some_or]

/-- A comment between the arguments of a function. -/
theorem getExecutableTree_commented_iff_argument :
    getExecutableTree (lit "Sha256 \x7b\n>a\n# b\n\x7d\n") =
        .ok (.root (some (.function .sha256 [.getter (lit "a")]))) ↔
      (∀ line ∈ fields newline (lit "Sha256 \x7b\n>a\n\x7d\n"), line.head? = some 35) ∨
        ∀ line, (fields newline (lit "Sha256 \x7b\n>a\n# b\n\x7d\n")).getLast? = some line →
          line.head? ≠ some 35 :=
  getExecutableTree_commented_iff (show getExecutableTree (lit "Sha256 \x7b\n>a\n\x7d\n") = _ from rfl) (by decide)
    (.line _ (.line _ (.comment rfl (.line _ .nil))))

/-- A comment behind the expression is refused. -/
theorem not_getExecutableTree_commented :
    ¬ ∀ (script script' : Str) (tree : Node), getExecutableTree script = .ok tree →
      [] ∉ fields newline script →
      Commented (fields newline script) (fields newline script') →
        getExecutableTree script' = .ok tree := by
  intro h
  have hok := h (lit ">a\n") (lit ">a\n# b\n") (.root (some (.getter (lit "a")))) rfl (by decide)
    (.line _ (.comment rfl .nil))
  cases hok

end Compiler
end SnapDesk
