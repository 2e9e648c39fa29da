import Mathlib.Data.List.Induction
import Mathlib.Data.List.ReduceOption

/-! # Labelled transition systems

A system is a step relation on states, labelled by what happened.  A run is a
list of labels, in order; an invariant is proved of one step and then holds of
every run.  `Run.invariant` is the rule for properties of the state alone, and
`Run.history` the one for properties that also speak of the labels seen so far.
`Run.simulation` is the one for two systems, of which one has silent steps, and
`Run.project` and `Run.embed` those for a system that is a part of another one. -/
namespace Transition
variable {σ ι : Type*} (step : σ → ι → σ → Prop)

/-- The run from one state to another along the labels of a list. -/
inductive Run : σ → List ι → σ → Prop
  | nil (s : σ) : Run s [] s
  | snoc {s t u : σ} {as : List ι} {a : ι} : Run s as t → step t a u → Run s (as ++ [a]) u

variable {step}

theorem Run.nil_iff {s t : σ} : Run step s [] t ↔ t = s := by
  constructor
  · generalize he : ([] : List ι) = as
    intro h
    cases h with
    | nil => rfl
    | snoc _ _ => simp at he
  · rintro rfl
    exact .nil _

theorem Run.snoc_iff {s u : σ} {as : List ι} {a : ι} :
    Run step s (as ++ [a]) u ↔ ∃ t, Run step s as t ∧ step t a u := by
  constructor
  · generalize he : as ++ [a] = bs
    intro h
    cases h with
    | nil => simp at he
    | snoc h hs =>
      obtain ⟨rfl, he⟩ := List.append_inj' he rfl
      obtain rfl : a = _ := by simpa using he
      exact ⟨_, h, hs⟩
  · rintro ⟨t, h, hs⟩
    exact .snoc h hs

/-- Runs compose. -/
theorem Run.append {s t u : σ} {as bs : List ι} (h : Run step s as t) (h' : Run step t bs u) :
    Run step s (as ++ bs) u := by
  induction h' with
  | nil => simpa using h
  | snoc _ hs ih => rw [← List.append_assoc]; exact .snoc ih hs

/-- A run splits wherever its labels do. -/
theorem Run.split {s u : σ} {as bs : List ι} (h : Run step s (as ++ bs) u) :
    ∃ t, Run step s as t ∧ Run step t bs u := by
  induction bs using List.reverseRecOn generalizing u with
  | nil => exact ⟨u, by simpa using h, .nil u⟩
  | append_singleton bs b ih =>
    rw [← List.append_assoc, Run.snoc_iff] at h
    obtain ⟨v, h, hs⟩ := h
    obtain ⟨t, h₁, h₂⟩ := ih h
    exact ⟨t, h₁, .snoc h₂ hs⟩

theorem Run.cons_iff {s u : σ} {a : ι} {as : List ι} :
    Run step s (a :: as) u ↔ ∃ t, step s a t ∧ Run step t as u := by
  constructor
  · intro h
    have hsplit : Run step s ([a] ++ as) u := h
    obtain ⟨t, h₁, h₂⟩ := Run.split hsplit
    obtain ⟨r, hr, hs⟩ := Run.snoc_iff.mp (show Run step s ([] ++ [a]) t from h₁)
    obtain rfl := Run.nil_iff.mp hr
    exact ⟨t, hs, h₂⟩
  · rintro ⟨t, hs, h⟩
    have h₁ : Run step s ([] ++ [a]) t := .snoc (.nil s) hs
    exact Run.append h₁ h

/-- Where a step has one result, so has a run. -/
theorem Run.deterministic {s t u : σ} {as : List ι} (h : Run step s as t) (h' : Run step s as u)
    (hstep : ∀ s a t u, step s a t → step s a u → t = u) : t = u := by
  induction h generalizing u with
  | nil => exact (Run.nil_iff.mp h').symm
  | snoc _ hst ih =>
    obtain ⟨v, hrun, hsu⟩ := Run.snoc_iff.mp h'
    obtain rfl := ih hrun
    exact hstep _ _ _ _ hst hsu

/-- More steps, more runs. -/
theorem Run.mono {step' : σ → ι → σ → Prop} (hstep : ∀ s a t, step s a t → step' s a t)
    {s t : σ} {as : List ι} (h : Run step s as t) : Run step' s as t := by
  induction h with
  | nil => exact .nil _
  | snoc _ hst ih => exact ih.snoc (hstep _ _ _ hst)

/-- **The invariant rule.** -/
theorem Run.invariant {I : σ → Prop} (hstep : ∀ s a t, I s → step s a t → I t)
    {s t : σ} {as : List ι} (h : Run step s as t) (hs : I s) : I t := by
  induction h with
  | nil => exact hs
  | snoc _ hst ih => exact hstep _ _ _ ih hst

/-- **The history rule**: an invariant may also speak of the labels seen so far. -/
theorem Run.history {I : List ι → σ → Prop} {s : σ} (hs : I [] s)
    (hstep : ∀ as t a u, Run step s as t → I as t → step t a u → I (as ++ [a]) u)
    {as : List ι} {t : σ} (h : Run step s as t) : I as t := by
  induction h with
  | nil => exact hs
  | snoc hr hst ih => exact hstep _ _ _ _ hr ih hst

/-- What holds of the label of every step holds of all labels of a run. -/
theorem Run.forall_label {P : ι → Prop} (hstep : ∀ s a t, step s a t → P a) {s t : σ}
    {as : List ι} (h : Run step s as t) : ∀ a ∈ as, P a := by
  induction h with
  | nil => exact fun _ ha => absurd ha List.not_mem_nil
  | snoc _ hst ih =>
    exact List.forall_mem_append.mpr ⟨ih, List.forall_mem_singleton.mpr (hstep _ _ _ hst)⟩

section Parts
variable {τ κ : Type*} {step' : τ → κ → τ → Prop}

/-- **The projection rule**: where every step leads a part of the state along a run of its
own, so does every run. -/
theorem Run.project {f : σ → τ} {g : ι → List κ}
    (hstep : ∀ s a t, step s a t → Run step' (f s) (g a) (f t)) {s t : σ} {as : List ι}
    (h : Run step s as t) : Run step' (f s) (as.flatMap g) (f t) := by
  induction h with
  | nil => exact .nil _
  | snoc _ hst ih =>
    rw [List.flatMap_append, List.flatMap_singleton]
    exact ih.append (hstep _ _ _ hst)

/-- **The embedding rule**: where every step of the part is one of the whole, so is every
run. -/
theorem Run.embed {f : τ → σ} {g : κ → ι} {P : κ → Prop}
    (hstep : ∀ x c y, P c → step' x c y → step (f x) (g c) (f y)) {x y : τ} {cs : List κ}
    (h : Run step' x cs y) (hcs : ∀ c ∈ cs, P c) : Run step (f x) (cs.map g) (f y) := by
  induction h with
  | nil => exact .nil _
  | @snoc _ _ cs c _ hst ih =>
    obtain ⟨hcs, hc⟩ := List.forall_mem_append.mp hcs
    rw [List.map_append, List.map_singleton]
    exact (ih hcs).snoc (hstep _ _ _ (hc c (List.mem_singleton_self c)) hst)

/-- Labels that are embedded are projected to themselves. -/
theorem flatMap_map_of_singleton {g : κ → ι} {h : ι → List κ} (hg : ∀ c, h (g c) = [c])
    (cs : List κ) : (cs.map g).flatMap h = cs := by
  rw [List.flatMap_map, funext hg]
  exact List.flatMap_singleton' cs

end Parts

/-- **The simulation rule**: where every step is matched by the step of another system with
its label, or by none if it is silent, so is every run. -/
theorem Run.simulation {τ : Type*} {step : σ → Option ι → σ → Prop} {step' : τ → ι → τ → Prop}
    {R : σ → τ → Prop}
    (hstep : ∀ s x e t, R s x → step s e t → ∃ y, Run step' x e.toList y ∧ R t y)
    {s t : σ} {x : τ} {es : List (Option ι)} (h : Run step s es t) (hx : R s x) :
    ∃ y, Run step' x es.reduceOption y ∧ R t y := by
  induction h with
  | nil => exact ⟨x, .nil x, hx⟩
  | @snoc _ _ es e _ hst ih =>
    obtain ⟨y, hrun, hy⟩ := ih
    obtain ⟨z, hrun', hz⟩ := hstep _ _ _ _ hy hst
    refine ⟨z, ?_, hz⟩
    rw [List.reduceOption_append, show [e].reduceOption = e.toList by cases e <;> rfl]
    exact hrun.append hrun'

end Transition
