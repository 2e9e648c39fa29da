import Mathlib.Data.List.TakeWhile
import Mathlib.Logic.Function.Iterate
import Mathlib.Logic.Relation

/-! # Delimited sequences

A list of fields can be written as one flat list by closing every field with a
separator.  This module reads such a list back: `fields sep` cuts a list at
every separator, and a last field that no separator closes counts only when it
is nonempty, so a text of lines and a record of cells are both instances.

Cutting undoes closing on fields without the separator (`fields_terminate`), and goes on
behind a closed list with what it is given there (`fields_terminate_append`).

Fields that are joined without separators cannot be read back; what is lost is where
they were broken (`flatten_eq_iff`). -/
namespace Delimited
variable {α : Type*} [DecidableEq α] (sep : α)

/-- Every field, each closed by the separator. -/
def terminate (fs : List (List α)) : List α := fs.flatMap (· ++ [sep])

/-- The fields of a flat list.  A last field that is not closed is read too,
unless it is empty. -/
def fields : List α → List (List α)
  | [] => []
  | x :: xs =>
      if x = sep then [] :: fields xs
      else match fields xs with
        | [] => [[x]]
        | f :: fs => (x :: f) :: fs

/-- The first field of a flat list: everything before the first separator. -/
def firstField (xs : List α) : List α := xs.takeWhile (· ≠ sep)

/-- What follows the first separator; a list without one is left as it is. -/
def afterFirst (xs : List α) : List α :=
  if sep ∈ xs then (xs.dropWhile (· ≠ sep)).tail else xs

omit [DecidableEq α] in
@[simp] theorem terminate_nil : terminate sep [] = [] := rfl

omit [DecidableEq α] in
@[simp] theorem terminate_cons (f : List α) (fs : List (List α)) :
    terminate sep (f :: fs) = f ++ sep :: terminate sep fs := by
  simp [terminate]

omit [DecidableEq α] in
theorem terminate_append (fs gs : List (List α)) :
    terminate sep (fs ++ gs) = terminate sep fs ++ terminate sep gs :=
  List.flatMap_append

omit [DecidableEq α] in
/-- Every field takes its separator. -/
theorem length_le_terminate (fs : List (List α)) : fs.length ≤ (terminate sep fs).length := by
  induction fs with
  | nil => exact Nat.zero_le _
  | cons f fs ih =>
    rw [terminate_cons, List.length_append, List.length_cons, List.length_cons]
    omega

@[simp] theorem fields_nil : fields sep [] = [] := rfl

theorem fields_cons_sep (xs : List α) : fields sep (sep :: xs) = [] :: fields sep xs := by
  simp [fields]

/-- A closed field is read back, whatever follows it. -/
theorem fields_append_sep {f : List α} (hf : sep ∉ f) (xs : List α) :
    fields sep (f ++ sep :: xs) = f :: fields sep xs := by
  induction f with
  | nil => exact fields_cons_sep sep xs
  | cons x f ih =>
    have hx : x ≠ sep := fun h => hf (h ▸ List.mem_cons_self)
    rw [List.cons_append, fields, if_neg hx,
      ih (fun h => hf (List.mem_cons_of_mem x h))]

/-- A nonempty list without a separator is one field. -/
theorem fields_unclosed {f : List α} (hf : sep ∉ f) (hne : f ≠ []) : fields sep f = [f] := by
  induction f with
  | nil => exact absurd rfl hne
  | cons x f ih =>
    have hx : x ≠ sep := fun h => hf (h ▸ List.mem_cons_self)
    rw [fields, if_neg hx]
    by_cases hf' : f = []
    · subst hf'; rfl
    · rw [ih (fun h => hf (List.mem_cons_of_mem x h)) hf']

/-- **Cutting ignores what follows a closed list.** -/
theorem fields_terminate_append {fs : List (List α)} (hfs : ∀ f ∈ fs, sep ∉ f) (xs : List α) :
    fields sep (terminate sep fs ++ xs) = fs ++ fields sep xs := by
  induction fs with
  | nil => rfl
  | cons f fs ih =>
    rw [terminate_cons, List.append_assoc, List.cons_append,
      fields_append_sep sep (hfs f List.mem_cons_self),
      ih (fun g hg => hfs g (List.mem_cons_of_mem f hg)), List.cons_append]

/-- **Cutting undoes closing.** -/
theorem fields_terminate {fs : List (List α)} (hfs : ∀ f ∈ fs, sep ∉ f) :
    fields sep (terminate sep fs) = fs := by
  have h := fields_terminate_append sep hfs []
  rwa [List.append_nil, fields_nil, List.append_nil] at h

/-- Every field takes something of the list. -/
theorem length_fields_le (xs : List α) : (fields sep xs).length ≤ xs.length := by
  induction xs with
  | nil => exact Nat.le_refl _
  | cons x xs ih =>
    rw [fields, List.length_cons]
    split
    · rw [List.length_cons]
      omega
    · split
      · rw [List.length_singleton]
        omega
      · rename_i hfs
        rw [hfs] at ih
        rw [List.length_cons] at ih ⊢
        omega

/-- No field contains the separator. -/
theorem sep_notMem_of_mem_fields {xs f : List α} (h : f ∈ fields sep xs) : sep ∉ f := by
  induction xs generalizing f with
  | nil => simp at h
  | cons x xs ih =>
    rw [fields] at h
    split at h
    · rcases List.mem_cons.mp h with rfl | h
      · simp
      · exact ih h
    · rename_i hx
      split at h
      · rw [List.mem_singleton.mp h]
        simpa using fun he : sep = x => hx he.symm
      · rename_i g gs hg
        rcases List.mem_cons.mp h with rfl | h
        · have hg' : sep ∉ g := ih (hg ▸ List.mem_cons_self)
          simpa [hg'] using fun he : sep = x => hx he.symm
        · exact ih (hg ▸ List.mem_cons_of_mem g h)

/-- Either a list is closed, or its last field is unclosed and nonempty. -/
theorem exists_terminate_append (xs : List α) :
    ∃ fs f, (∀ g ∈ fs, sep ∉ g) ∧ sep ∉ f ∧ xs = terminate sep fs ++ f := by
  induction xs with
  | nil => exact ⟨[], [], by simp, by simp, rfl⟩
  | cons x xs ih =>
    obtain ⟨fs, f, hfs, hf, rfl⟩ := ih
    by_cases hx : x = sep
    · subst hx
      exact ⟨[] :: fs, f, by simpa using hfs, hf, by simp⟩
    · cases fs with
      | nil => exact ⟨[], x :: f, by simp, by simp [hf, Ne.symm hx], rfl⟩
      | cons g fs =>
        refine ⟨(x :: g) :: fs, f, ?_, hf, by simp⟩
        intro k hk
        rcases List.mem_cons.mp hk with rfl | hk
        · simpa [Ne.symm hx] using hfs g List.mem_cons_self
        · exact hfs k (List.mem_cons_of_mem g hk)

/-- Two closed lists are cut one after the other. -/
theorem fields_append_closed (xs ys : List α) :
    fields sep (xs ++ sep :: ys) = fields sep (xs ++ [sep]) ++ fields sep ys := by
  obtain ⟨fs, f, hfs, hf, rfl⟩ := exists_terminate_append sep xs
  rw [List.append_assoc, List.append_assoc, fields_terminate_append sep hfs,
    fields_terminate_append sep hfs, fields_append_sep sep hf, fields_append_sep sep hf, fields_nil,
    List.append_assoc, List.singleton_append]

/-- Closing never makes fewer fields. -/
theorem length_le_fields_terminate (fs : List (List α)) :
    fs.length ≤ (fields sep (terminate sep fs)).length := by
  induction fs with
  | nil => exact Nat.zero_le _
  | cons f fs ih =>
    have hfirst : fields sep (f ++ [sep]) ≠ [] := by
      obtain ⟨gs, g, hgs, hg, rfl⟩ := exists_terminate_append sep f
      rw [List.append_assoc, fields_terminate_append sep hgs, fields_append_sep sep hg]
      simp
    have hlen := List.length_pos_iff.mpr hfirst
    rw [terminate_cons, fields_append_closed, List.length_append, List.length_cons]
    omega

/-! ### One field at a time -/

theorem firstField_append_sep {f : List α} (hf : sep ∉ f) (xs : List α) :
    firstField sep (f ++ sep :: xs) = f := by
  have hall : ∀ x ∈ f, decide (x ≠ sep) = true := fun x hx =>
    decide_eq_true fun he => hf (he ▸ hx)
  rw [firstField, List.takeWhile_append_of_pos hall, List.takeWhile_cons_of_neg (by simp),
    List.append_nil]

theorem afterFirst_append_sep {f : List α} (hf : sep ∉ f) (xs : List α) :
    afterFirst sep (f ++ sep :: xs) = xs := by
  have hall : ∀ x ∈ f, decide (x ≠ sep) = true := fun x hx =>
    decide_eq_true fun he => hf (he ▸ hx)
  rw [afterFirst, if_pos (by simp), List.dropWhile_append_of_pos hall,
    List.dropWhile_cons_of_neg (by simp), List.tail_cons]

/-- Skipping `c` fields of a closed record leaves the closed rest. -/
theorem iterate_afterFirst_terminate {fs : List (List α)} (hfs : ∀ f ∈ fs, sep ∉ f) {c : Nat}
    (hc : c ≤ fs.length) :
    (afterFirst sep)^[c] (terminate sep fs) = terminate sep (fs.drop c) := by
  induction c generalizing fs with
  | zero => rfl
  | succ c ih =>
    cases fs with
    | nil => simp at hc
    | cons f fs =>
      rw [Function.iterate_succ_apply, terminate_cons,
        afterFirst_append_sep sep (hfs f List.mem_cons_self),
        ih (fun g hg => hfs g (List.mem_cons_of_mem f hg)) (by simpa using hc), List.drop_succ_cons]

end Delimited

/-! ### Fields without separators

Fields that no separator closes can be joined and broken, and what they are joined to does
not show it. -/
namespace Delimited
variable {α : Type*}

/-- One field is broken in two. -/
inductive Breaks : List (List α) → List (List α) → Prop
  | intro (before after : List (List α)) {f g : List α} (hf : f ≠ []) (hg : g ≠ []) :
      Breaks (before ++ (f ++ g) :: after) (before ++ f :: g :: after)

/-- The fields of one list can be joined and broken into those of the other. -/
def Rebroken (fs gs : List (List α)) : Prop := Relation.EqvGen Breaks fs gs

theorem Rebroken.flatten_eq {fs gs : List (List α)} (h : Rebroken fs gs) :
    fs.flatten = gs.flatten := by
  induction h with
  | rel _ _ h =>
    obtain ⟨before, after, -, -⟩ := h
    simp
  | refl => rfl
  | symm _ _ _ ih => exact ih.symm
  | trans _ _ _ _ _ ih ih' => exact ih.trans ih'

/-- All fields can be joined to one. -/
theorem rebroken_singleton {f : List α} (hf : f ≠ []) {fs : List (List α)} (hfs : [] ∉ fs) :
    Rebroken (f :: fs) [f ++ fs.flatten] := by
  induction fs generalizing f with
  | nil =>
    rw [List.flatten_nil, List.append_nil]
    exact .refl _
  | cons g fs ih =>
    rw [List.mem_cons, not_or] at hfs
    have hjoin : Rebroken (f :: g :: fs) ((f ++ g) :: fs) :=
      .symm _ _ (.rel _ _ (.intro [] fs hf (Ne.symm hfs.1)))
    rw [List.flatten_cons, ← List.append_assoc]
    exact .trans _ _ _ hjoin (ih (List.append_ne_nil_of_left_ne_nil hf g) hfs.2)

theorem rebroken_of_flatten_eq {fs gs : List (List α)} (hfs : [] ∉ fs) (hgs : [] ∉ gs)
    (h : fs.flatten = gs.flatten) : Rebroken fs gs := by
  cases fs with
  | nil =>
    cases gs with
    | nil => exact .refl _
    | cons g gs =>
      rw [List.flatten_nil, List.flatten_cons] at h
      exact absurd (List.append_eq_nil_iff.mp h.symm).1 fun hg => hgs (hg ▸ List.mem_cons_self)
  | cons f fs =>
    cases gs with
    | nil =>
      rw [List.flatten_nil, List.flatten_cons] at h
      exact absurd (List.append_eq_nil_iff.mp h).1 fun hf => hfs (hf ▸ List.mem_cons_self)
    | cons g gs =>
      rw [List.mem_cons, not_or] at hfs hgs
      rw [List.flatten_cons, List.flatten_cons] at h
      have hleft := rebroken_singleton (Ne.symm hfs.1) hfs.2
      have hright := rebroken_singleton (Ne.symm hgs.1) hgs.2
      rw [h] at hleft
      exact .trans _ _ _ hleft (.symm _ _ hright)

/-- **What fields are joined to** tells them apart but for the places where they are broken. -/
theorem flatten_eq_iff {fs gs : List (List α)} (hfs : [] ∉ fs) (hgs : [] ∉ gs) :
    fs.flatten = gs.flatten ↔ Rebroken fs gs :=
  ⟨rebroken_of_flatten_eq hfs hgs, Rebroken.flatten_eq⟩

end Delimited
