import Mathlib.Data.Nat.Notation

/-! # Recursion with a bound

A function that need not end is written with a bound on its rounds and calls, and an error
for a bound that is too small.  With one more round an answer is `Completes`: the same,
unless it was that error.  A family of answers that completes itself step by step is constant
from its first other answer on (`ends_of_completes`).

The same relation compares two partial computations, one of which has a meaning wherever the
other has. -/
namespace Bounded
universe u v
variable {ε : Type u} {α β : Type v} {stuck : ε}

/-- `y` is `x`, unless `x` is the given error. -/
def Completes (stuck : ε) (x y : Except ε α) : Prop := x = .error stuck ∨ y = x

/-- From some bound on the answer is the same. -/
def Ends (run : ℕ → β) (x : β) : Prop := ∃ n, ∀ m, n ≤ m → run m = x

namespace Completes
variable {x y z : Except ε α} {f g : α → Except ε β}

theorem refl (x : Except ε α) : Completes stuck x x := .inr rfl

theorem trans (h : Completes stuck x y) (h' : Completes stuck y z) : Completes stuck x z := by
  rcases h with h | rfl
  · exact .inl h
  · exact h'

theorem bind (h : Completes stuck x y) (hfg : ∀ a, Completes stuck (f a) (g a)) :
    Completes stuck (x >>= f) (y >>= g) := by
  rcases h with rfl | rfl
  · exact .inl rfl
  · cases y with
    | error e => exact .inr rfl
    | ok a => exact hfg a

theorem ite {p : Prop} [Decidable p] {x' y' : Except ε α} (h : Completes stuck x y)
    (h' : Completes stuck x' y') :
    Completes stuck (if p then x else x') (if p then y else y') := by
  split
  · exact h
  · exact h'

end Completes

section
variable {run : ℕ → Except ε α}

theorem completes_of_le (hstep : ∀ n, Completes stuck (run n) (run (n + 1))) {n m : ℕ}
    (hnm : n ≤ m) : Completes stuck (run n) (run m) := by
  obtain ⟨d, rfl⟩ := Nat.exists_eq_add_of_le hnm
  induction d with
  | zero => exact .refl _
  | succ d ih => exact (ih (Nat.le_add_right n d)).trans (hstep (n + d))

/-- A bound that was enough once stays enough. -/
theorem ends_of_completes (hstep : ∀ n, Completes stuck (run n) (run (n + 1))) {n : ℕ}
    (hn : run n ≠ .error stuck) : Ends run (run n) :=
  ⟨n, fun _ hm => (completes_of_le hstep hm).resolve_left hn⟩

end

end Bounded
