import SnapDesk.Keys

/-! # Files as lists of lines

`get_line` shows a file as a list of lines: a last line counts whether or not a newline
closes it.  `add_line` and `replace_line` write as if every line were closed.  Behind a
last line that is not, `add_line` writes on in that line, and the loop of `replace_line`,
which looks for the end of the file before it copies what it has read, drops it.

On closed files both are the operations on lists (`lines_refine_iff`), and both leave a
closed file (`closed_of_addLine`, `closed_of_replaceLine`). -/
namespace SnapDesk
open Delimited FileTree

/-- Every line of the text is closed. -/
def Closed (content : Str) : Prop := content = [] ∨ content.getLast? = some newline

instance decidableClosed (content : Str) : Decidable (Closed content) := instDecidableOr

theorem closed_terminate (ls : List Str) : Closed (terminate newline ls) := by
  rcases List.eq_nil_or_concat ls with rfl | ⟨before, l, rfl⟩
  · exact .inl rfl
  · right
    rw [List.concat_eq_append, terminate_append, terminate_cons, terminate_nil, ← List.append_assoc,
      List.getLast?_concat]

/-- What follows the closed lines. -/
theorem closed_append_iff (ls : List Str) {f : Str} (hf : newline ∉ f) :
    Closed (terminate newline ls ++ f) ↔ f = [] := by
  constructor
  · intro h
    by_contra hne
    obtain ⟨g, c, rfl⟩ := (List.eq_nil_or_concat f).resolve_left hne
    rw [List.concat_eq_append, ← List.append_assoc] at h
    rcases h with hnil | hlast
    · simp at hnil
    · rw [List.getLast?_concat] at hlast
      refine hf ?_
      rw [Option.some.inj hlast]
      simp
  · rintro rfl
    rw [List.append_nil]
    exact closed_terminate ls

/-- The file has these lines. -/
def HasLines (w : World) (path : Str) (loc : List Str) (lines : List Str) : Prop :=
  ∃ content, HasFile w path loc content ∧ fields newline content = lines

section
variable {w w' : World} {path : Str} {loc : List Str} {content t : Str}

/-- These are the lines that `get_line` returns. -/
theorem HasLines.getLine_run {lines : List Str} (h : HasLines w path loc lines) (i : Nat) :
    (Communicator.getLine path i).run w = .ok ((lines[i]?).getD []) w := by
  obtain ⟨content, hfile, rfl⟩ := h
  rw [Communicator.getLine_run hfile, lineAt_eq]

theorem HasFile.hasLines_iff (h : HasFile w path loc content) {lines : List Str} :
    HasLines w path loc lines ↔ fields newline content = lines := by
  constructor
  · rintro ⟨content', h', rfl⟩
    have hsame := h.entry.symm.trans h'.entry
    cases hsame
    rfl
  · intro hlines
    exact ⟨content, h, hlines⟩

/-- What an operation writes is what the file shows. -/
theorem HasFile.hasLines_run_iff (h : HasFile w path loc content) {operation : Action Unit}
    {content' : Str}
    (hrun : operation.run w = .ok () (SnapDesk.writeFile loc content' w)) {lines : List Str} :
    (∃ w', operation.run w = .ok () w' ∧ HasLines w' path loc lines) ↔
      fields newline content' = lines := by
  rw [← (h.writeFile content').hasLines_iff, hrun]
  constructor
  · rintro ⟨w', hw, hlines⟩
    cases hw
    exact hlines
  · intro hlines
    exact ⟨_, rfl, hlines⟩

/-! ### `add_line` -/

/-- The new line is written behind the last one, or on in it. -/
theorem fields_addLine_iff (content : Str) (ht : newline ∉ t) :
    fields newline (content ++ t ++ [newline]) = fields newline content ++ [t] ↔
      Closed content := by
  obtain ⟨ls, f, hls, hf, rfl⟩ := exists_terminate_append newline content
  have hft : newline ∉ f ++ t := by
    rw [List.mem_append, not_or]
    exact ⟨hf, ht⟩
  rw [closed_append_iff ls hf, List.append_assoc, List.append_assoc, ← List.append_assoc f,
    fields_terminate_append newline hls, fields_terminate_append newline hls,
      fields_append_sep newline hft,
    fields_nil]
  constructor
  · intro h
    by_contra hne
    -- an unclosed line and the new one have become one
    rw [fields_unclosed newline hf hne, List.append_assoc, List.append_cancel_left_eq] at h
    exact absurd (congrArg List.length h) (by simp)
  · rintro rfl
    rw [fields_nil, List.append_nil, List.nil_append]

theorem addLine_hasLines_iff (h : HasFile w path loc content) (ht : newline ∉ t) :
    (∃ w', (Communicator.addLine path t).run w = .ok () w' ∧
        HasLines w' path loc (fields newline content ++ [t])) ↔ Closed content :=
  (h.hasLines_run_iff (Communicator.addLine_run h t)).trans (fields_addLine_iff content ht)

/-- After `add_line` the file is closed. -/
theorem closed_of_addLine (h : HasFile w path loc content)
    (hrun : (Communicator.addLine path t).run w = .ok () w') :
    ∃ content', HasFile w' path loc content' ∧ Closed content' := by
  rw [Communicator.addLine_run h] at hrun
  cases hrun
  exact ⟨_, h.writeFile _, .inr (by rw [List.getLast?_concat])⟩

/-! ### `replace_line` -/

/-- A line that is there is one of those that are closed, or the last. -/
theorem lt_or_eq_of_lineAt_ne {ls : List Str} (hls : ∀ l ∈ ls, newline ∉ l) {f : Str}
    (hf : newline ∉ f) {k : Nat} (hk : lineAt (terminate newline ls ++ f) k ≠ []) :
    k < ls.length ∨ (f ≠ [] ∧ k = ls.length) := by
  rw [lineAt_eq, fields_terminate_append newline hls] at hk
  by_cases hlt : k < ls.length
  · exact .inl hlt
  · rw [List.getElem?_append_right (Nat.not_lt.mp hlt)] at hk
    by_cases hne : f = []
    · rw [hne] at hk
      exact absurd rfl hk
    · rw [fields_unclosed newline hf hne] at hk
      refine .inr ⟨hne, ?_⟩
      by_contra hk'
      rw [List.getElem?_eq_none (by rw [List.length_singleton]; omega)] at hk
      exact hk rfl

/-- The lines before the one that is replaced stay, and so do those behind it that are
closed. -/
theorem fields_replaceText_iff (content : Str) (ht : newline ∉ t) {k : Nat}
    (hk : lineAt content k ≠ []) :
    fields newline (replaceText content k t) = (fields newline content).set k t ↔
      Closed content ∨ k + 1 = (fields newline content).length := by
  obtain ⟨ls, f, hls, hf, rfl⟩ := exists_terminate_append newline content
  have hset : ∀ l ∈ ls.set k t, newline ∉ l := by
    intro l hl
    rcases List.mem_or_eq_of_mem_set hl with hl | rfl
    · exact hls l hl
    · exact ht
  rw [closed_append_iff ls hf, fields_terminate_append newline hls]
  rcases lt_or_eq_of_lineAt_ne hls hf hk with hlt | ⟨hne, rfl⟩
  · rw [replaceText_lines hls hf hlt, fields_terminate newline hset, List.set_append_left _ _ hlt,
      List.length_append]
    by_cases hne : f = []
    · subst hne
      simp
    · -- the last line is lost, unless the line behind the closed ones is the one replaced
      rw [fields_unclosed newline hf hne, List.length_singleton]
      constructor
      · intro h
        simpa using congrArg List.length h
      · rintro (hnil | hlast)
        · exact absurd hnil hne
        · omega
  · -- the unclosed line itself is replaced, and closed
    have hlast : ∀ l ∈ ls ++ [t], newline ∉ l := by
      intro l hl
      rcases List.mem_append.mp hl with hl | hl
      · exact hls l hl
      · rw [List.mem_singleton.mp hl]
        exact ht
    rw [replaceText_unclosed hls hf hne, fields_terminate newline hlast,
      fields_unclosed newline hf hne]
    simp

theorem replaceLine_hasLines_iff (h : HasFile w path loc content) (ht : newline ∉ t) {k : Nat}
    (hk : lineAt content k ≠ []) :
    (∃ w', (Communicator.replaceLine path k t).run w = .ok () w' ∧
        HasLines w' path loc ((fields newline content).set k t)) ↔
      Closed content ∨ k + 1 = (fields newline content).length :=
  (h.hasLines_run_iff (Communicator.replaceLine_run h hk t)).trans (fields_replaceText_iff content ht hk)

/-- After `replace_line` the file is closed. -/
theorem closed_of_replaceLine (h : HasFile w path loc content) {k : Nat}
    (hk : lineAt content k ≠ []) (hrun : (Communicator.replaceLine path k t).run w = .ok () w') :
    ∃ content', HasFile w' path loc content' ∧ Closed content' := by
  rw [Communicator.replaceLine_run h hk] at hrun
  cases hrun
  refine ⟨_, h.writeFile _, ?_⟩
  obtain ⟨ls, f, hls, hf, rfl⟩ := exists_terminate_append newline content
  rcases lt_or_eq_of_lineAt_ne hls hf hk with hlt | ⟨hne, rfl⟩
  · rw [replaceText_lines hls hf hlt]
    exact closed_terminate _
  · rw [replaceText_unclosed hls hf hne]
    exact closed_terminate _

/-- **The line operations are those of lists** if and only if the text is closed, or the
line that is replaced is the last. -/
theorem lines_refine_iff (h : HasFile w path loc content) (ht : newline ∉ t) :
    ((∃ w', (Communicator.addLine path t).run w = .ok () w' ∧
        HasLines w' path loc (fields newline content ++ [t])) ↔ Closed content) ∧
      ∀ k, lineAt content k ≠ [] →
        ((∃ w', (Communicator.replaceLine path k t).run w = .ok () w' ∧
            HasLines w' path loc ((fields newline content).set k t)) ↔
          Closed content ∨ k + 1 = (fields newline content).length) :=
  ⟨addLine_hasLines_iff h ht, fun _ hk => replaceLine_hasLines_iff h ht hk⟩

end

/-- A file whose last line is not closed. -/
def unclosedFile : World := writeFile [lit "f"] (lit "a\nb") Csv.emptyWorld

theorem hasFile_unclosed : HasFile unclosedFile (lit "f") [lit "f"] (lit "a\nb") := ⟨rfl, rfl⟩

/-- Both ways a line can be replaced in that file. -/
theorem lines_refine_iff_unclosed :
    ((∃ w', (Communicator.addLine (lit "f") (lit "x")).run unclosedFile = .ok () w' ∧
        HasLines w' (lit "f") [lit "f"] (fields newline (lit "a\nb") ++ [lit "x"])) ↔
          Closed (lit "a\nb")) ∧
      ∀ k, lineAt (lit "a\nb") k ≠ [] →
        ((∃ w', (Communicator.replaceLine (lit "f") k (lit "x")).run unclosedFile = .ok () w' ∧
            HasLines w' (lit "f") [lit "f"] ((fields newline (lit "a\nb")).set k (lit "x"))) ↔
          Closed (lit "a\nb") ∨ k + 1 = (fields newline (lit "a\nb")).length) :=
  lines_refine_iff hasFile_unclosed (by decide)

/-- The last line of that file is lost when the one before it is replaced, and goes on in
the line that is added. -/
theorem not_lines_refine :
    ¬ ∀ (w : World) (path : Str) (loc : List Str) (content t : Str), HasFile w path loc content →
      newline ∉ t →
      (∃ w', (Communicator.addLine path t).run w = .ok () w' ∧
          HasLines w' path loc (fields newline content ++ [t])) ∧
        ∀ k, lineAt content k ≠ [] →
          ∃ w', (Communicator.replaceLine path k t).run w = .ok () w' ∧
            HasLines w' path loc ((fields newline content).set k t) := by
  intro h
  obtain ⟨hadd, -⟩ := h _ _ _ _ (lit "x") hasFile_unclosed (by decide)
  exact absurd ((addLine_hasLines_iff hasFile_unclosed (by decide)).mp hadd) (by decide)

end SnapDesk
