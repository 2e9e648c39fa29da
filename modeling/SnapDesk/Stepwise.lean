import Mathlib.Data.List.Basic

/-! # Computations that may be stopped

A computation on a state, which returns or fails, is given with the states that it
goes through: `Program` lists the state after each of its steps.  Such a program can be
stopped after any number of steps (`StopsAt`), and what is left is the state of that
moment.

A program `Implements` a computation without steps if it ends as that does, in the same
state.  Programs are put together as the computations are, so this is shown part by
part (`Implements.bind`), down to reads, which take no step, and single steps. -/
namespace Stepwise
variable {σ ε α β : Type}

/-- The states after each step, and how the computation ends. -/
def Program (σ ε α : Type) : Type := σ → List σ × Except ε α

/-- The state after a list of steps. -/
def last (s : σ) (ss : List σ) : σ := ss.getLast?.getD s

theorem last_append (s : σ) (ss ts : List σ) : last s (ss ++ ts) = last (last s ss) ts := by
  rw [last, last, last, List.getLast?_append]
  cases ts.getLast? with
  | none => rfl
  | some t => rfl

/-- One program after the other. -/
def bind (p : Program σ ε α) (f : α → Program σ ε β) : Program σ ε β := fun s =>
  match p s with
  | (ss, .ok a) => (ss ++ (f a (last s ss)).1, (f a (last s ss)).2)
  | (ss, .error e) => (ss, .error e)

instance : Monad (Program σ ε) where
  pure a := fun _ => ([], .ok a)
  bind := bind

/-- A program that fails without a step. -/
def fail (e : ε) : Program σ ε α := fun _ => ([], .error e)

/-- What a computation without steps returns. -/
def read (m : EStateM ε σ α) : Program σ ε α := fun s =>
  match m.run s with
  | .ok a _ => ([], .ok a)
  | .error e _ => ([], .error e)

/-- One step. -/
def step (f : σ → σ) : Program σ ε Unit := fun s => ([f s], .ok ())

theorem bind_apply_ok {p : Program σ ε α} {f : α → Program σ ε β} {s : σ} {ss : List σ} {a : α}
    (h : p s = (ss, .ok a)) : (p >>= f) s = (ss ++ (f a (last s ss)).1, (f a (last s ss)).2) := by
  show bind p f s = _
  rw [bind, h]

theorem bind_apply_error {p : Program σ ε α} {f : α → Program σ ε β} {s : σ} {ss : List σ} {e : ε}
    (h : p s = (ss, .error e)) : (p >>= f) s = (ss, .error e) := by
  show bind p f s = _
  rw [bind, h]

theorem read_apply_ok {m : EStateM ε σ α} {s t : σ} {a : α} (h : m.run s = .ok a t) :
    read m s = ([], .ok a) := by rw [read, h]

theorem read_apply_error {m : EStateM ε σ α} {s t : σ} {e : ε} (h : m.run s = .error e t) :
    read m s = ([], .error e) := by rw [read, h]

/-- A read comes before what follows it. -/
theorem bind_read_ok {m : EStateM ε σ α} {f : α → Program σ ε β} {s t : σ} {a : α}
    (h : m.run s = .ok a t) :
    (read m >>= f) s = f a s := by
  rw [bind_apply_ok (read_apply_ok h)]
  rfl

theorem bind_read_error {m : EStateM ε σ α} {f : α → Program σ ε β} {s t : σ} {e : ε}
    (h : m.run s = .error e t) : (read m >>= f) s = ([], .error e) :=
  bind_apply_error (read_apply_error h)

/-- After a read that fails there is no step. -/
theorem bind_read_cases (m : EStateM ε σ α) (f : α → Program σ ε β) (s : σ) :
    ((read m >>= f) s).1 = [] ∨ ∃ a t, m.run s = .ok a t ∧ (read m >>= f) s = f a s := by
  cases h : m.run s with
  | ok a t => exact .inr ⟨a, t, rfl, bind_read_ok h⟩
  | error e t =>
    refine .inl ?_
    rw [bind_read_error h]

/-- A step comes before what follows it. -/
theorem bind_step (g : σ → σ) (f : Unit → Program σ ε β) (s : σ) :
    (step g >>= f) s = (g s :: (f () (g s)).1, (f () (g s)).2) := rfl

/-- After a program of one step come the steps of what follows it. -/
theorem steps_bind_one {p : Program σ ε α} {f : α → Program σ ε β} {s t : σ} {a : α}
    (h : p s = ([t], .ok a)) : ((p >>= f) s).1 = t :: (f a t).1 := by
  rw [bind_apply_ok h]
  rfl

theorem steps_read (m : EStateM ε σ α) (s : σ) : (read m s).1 = [] := by
  rw [read]
  cases m.run s with
  | ok a t => rfl
  | error e t => rfl

/-- What is done with the result takes no step. -/
theorem steps_bind_pure (p : Program σ ε α) (f : α → β) (s : σ) :
    ((do let a ← p; return f a : Program σ ε β) s).1 = (p s).1 := by
  match hp : p s with
  | (ss, .ok a) =>
    rw [bind_apply_ok hp]
    exact List.append_nil ss
  | (ss, .error e) => rw [bind_apply_error hp]

/-! ### Stopping -/

/-- The program, begun in `s`, is in `t` when it stops after `k` steps. -/
def StopsAt (p : Program σ ε α) (s : σ) (k : Nat) (t : σ) : Prop := (s :: (p s).1)[k]? = some t

/-- The state in which the program ends if nothing stops it. -/
def ends (p : Program σ ε α) (s : σ) : σ := last s (p s).1

/-- A stop is the beginning or one of the steps. -/
theorem StopsAt.cases {p : Program σ ε α} {s t : σ} {k : Nat} (h : StopsAt p s k t) :
    k = 0 ∧ t = s ∨ ∃ i, k = i + 1 ∧ (p s).1[i]? = some t := by
  cases k with
  | zero => exact .inl ⟨rfl, (Option.some.inj h).symm⟩
  | succ i => exact .inr ⟨i, rfl, h⟩

theorem StopsAt.eq_of_nil {p : Program σ ε α} {s t : σ} {k : Nat} (h : StopsAt p s k t)
    (hp : (p s).1 = []) :
    k = 0 ∧ t = s := by
  rcases h.cases with h | ⟨i, -, hi⟩
  · exact h
  · rw [hp] at hi
    cases hi

/-! ### Programs of computations -/

/-- Begun in `s`, the program ends as the computation does. -/
def ImplementsAt (m : EStateM ε σ α) (p : Program σ ε α) (s : σ) : Prop :=
  m.run s = match (p s).2 with
    | .ok a => .ok a (ends p s)
    | .error e => .error e (ends p s)

/-- The program always ends as the computation does. -/
def Implements (m : EStateM ε σ α) (p : Program σ ε α) : Prop := ∀ s, ImplementsAt m p s

namespace Implements
variable {m : EStateM ε σ α} {p : Program σ ε α} {f : α → EStateM ε σ β} {g : α → Program σ ε β}

theorem bind (h : Implements m p) (hf : ∀ a, Implements (f a) (g a)) :
    Implements (m >>= f) (p >>= g) := by
  intro s
  have hs : m.run s = _ := h s
  rw [ImplementsAt, EStateM.run_bind, hs]
  match hp : p s with
  | (ss, .ok a) =>
    rw [ends, ends, bind_apply_ok hp, hp]
    simp only [last_append]
    exact hf a (last s ss)
  | (ss, .error e) =>
    rw [ends, ends, bind_apply_error hp, hp]

/-- What follows may depend on the state that is read. -/
theorem get_bind {f : σ → EStateM ε σ β} {g : σ → Program σ ε β}
    (h : ∀ s, ImplementsAt (f s) (g s) s) :
    Implements (get >>= f) (Stepwise.read get >>= g) := by
  intro s
  have hprogram : (Stepwise.read get >>= g) s = g s s := bind_read_ok (t := s) rfl
  rw [ImplementsAt, ends, hprogram]
  exact h s

theorem pure (a : α) : Implements (Pure.pure a : EStateM ε σ α) (Pure.pure a) := fun _ => rfl

theorem fail (e : ε) : Implements (throw e : EStateM ε σ α) (Stepwise.fail e) := fun _ => rfl

/-- A computation that leaves the state as it is takes no step. -/
theorem read (h : ∀ s, (∀ a t, m.run s = .ok a t → t = s) ∧ ∀ e t, m.run s = .error e t → t = s) :
    Implements m (Stepwise.read m) := by
  intro s
  obtain ⟨hok, herror⟩ := h s
  rw [ImplementsAt]
  cases hm : m.run s with
  | ok a t =>
    rw [ends, read_apply_ok hm, hok a t hm]
    rfl
  | error e t =>
    rw [ends, read_apply_error hm, herror e t hm]
    rfl

end Implements
end Stepwise
