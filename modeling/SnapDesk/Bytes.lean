import SnapDesk.Bounded
import Mathlib.Data.FinEnum
import Mathlib.Data.List.TakeWhile

/-! # Byte strings, numerals and failures

A `std::string` is a list of bytes, NUL included; a `const char *` shows only
the bytes before the first NUL (`cStr`).  The numeral functions of the C and C++
libraries that the program calls (`std::to_string`, `std::stoul`, `std::stoi`,
`sscanf("%zu")`, `printf("%02X")`) are given here by their documented behaviour:
leading blanks, an optional sign and an optional `0x` are skipped, the longest
run of digits is read and whatever follows it is ignored.

A `size_t` is a natural number; where the program can leave the 64-bit range the
arithmetic is written with `add64` and `sub64`. -/
namespace SnapDesk
open Bounded

/-- `std::string`. -/
abbrev Str := List UInt8

/-- A property of the characters of a string is decided along the string. -/
instance (priority := high) decidableForallMem {P : UInt8 → Prop} [DecidablePred P] (s : Str) :
    Decidable (∀ c ∈ s, P c) := List.decidableBAll P s

/-- An ASCII literal of the source. -/
def lit (s : String) : Str := s.toList.map fun c => UInt8.ofNat c.toNat

/-- What a C string function sees of a string. -/
def cStr (s : Str) : Str := s.takeWhile (· ≠ 0)

theorem cStr_eq_self {s : Str} (h : 0 ∉ s) : cStr s = s :=
  List.takeWhile_eq_self_iff.mpr fun _ hx => decide_eq_true fun he => h (he ▸ hx)

/-- How a call ends when it does not return: an exception with its `what()`, a
step the language gives no meaning to, or a call that is still nested deeper
than a bound on nested calls. -/
inductive Failure where
  | invalidArgument (what : Str)
  | runtimeError (what : Str)
  | outOfRange (what : Str)
  | filesystemError (what : Str)
  | undefinedBehaviour
  | unfinished
  deriving DecidableEq, Repr

/-- What can be caught. -/
def Failure.isException : Failure → Bool
  | .undefinedBehaviour => false
  | .unfinished => false
  | _ => true

/-- A call on an object: its state is kept when the call throws. -/
abbrev Method (σ α : Type) := EStateM Failure σ α

instance {σ : Type} : MonadLift (Except Failure) (EStateM Failure σ) where
  monadLift x := fun s => match x with
    | .ok a => .ok a s
    | .error e => .error e s

namespace Method
variable {σ α β : Type} {x : Method σ α} {f : α → Method σ β} {s s' : σ} {a : α} {e : Failure}

@[simp] theorem run_pure (a : α) (s : σ) : (pure a : Method σ α).run s = .ok a s := rfl

@[simp] theorem run_get (s : σ) : (get : Method σ σ).run s = .ok s s := rfl

@[simp] theorem run_set (s t : σ) : (set t : Method σ Unit).run s = .ok () t := rfl

@[simp] theorem run_modify (g : σ → σ) (s : σ) : (modify g : Method σ Unit).run s = .ok () (g s) :=
  rfl

@[simp] theorem run_throw (e : Failure) (s : σ) : (throw e : Method σ α).run s = .error e s := rfl

@[simp] theorem run_lift_ok (a : α) (s : σ) :
    (liftM (Except.ok a : Except Failure α) : Method σ α).run s = .ok a s := rfl

@[simp] theorem run_lift_error (e : Failure) (s : σ) :
    (liftM (Except.error e : Except Failure α) : Method σ α).run s = .error e s := rfl

theorem run_lift_eq_ok {y : Except Failure α} (h : (liftM y : Method σ α).run s = .ok a s') :
    y = .ok a := by
  cases y with
  | ok b => cases h; rfl
  | error e => cases h

theorem run_lift_eq_error {y : Except Failure α} (h : (liftM y : Method σ α).run s = .error e s') :
    y = .error e := by
  cases y with
  | ok a => cases h
  | error e' =>
    cases h
    rfl

theorem run_bind_ok (h : x.run s = .ok a s') : (x >>= f).run s = (f a).run s' := by
  rw [EStateM.run_bind, h]

theorem run_bind_error (h : x.run s = .error e s') : (x >>= f).run s = .error e s' := by
  rw [EStateM.run_bind, h]

/-- What a sequence of two calls that returns has done. -/
theorem run_bind_eq_ok {b : β} (h : (x >>= f).run s = .ok b s') :
    ∃ a t, x.run s = .ok a t ∧ (f a).run t = .ok b s' := by
  rw [EStateM.run_bind] at h
  split at h
  · exact ⟨_, _, by assumption, h⟩
  · cases h

/-- Where a sequence of two calls throws. -/
theorem run_bind_eq_error (h : (x >>= f).run s = .error e s') :
    x.run s = .error e s' ∨ ∃ a t, x.run s = .ok a t ∧ (f a).run t = .error e s' := by
  rw [EStateM.run_bind] at h
  split at h
  · exact .inr ⟨_, _, by assumption, h⟩
  · exact .inl (by simp_all)

/-- Whether it returns or throws, a call keeps a property of the state. -/
def Keeps (P : σ → Prop) (m : Method σ α) : Prop :=
  ∀ s, P s → (∀ a t, m.run s = .ok a t → P t) ∧ ∀ e t, m.run s = .error e t → P t

theorem Keeps.bind {P : σ → Prop} (hx : Keeps P x) (hf : ∀ a, Keeps P (f a)) :
    Keeps P (x >>= f) := by
  intro s hs
  constructor
  · intro b t h
    obtain ⟨a, s', hx', hf'⟩ := run_bind_eq_ok h
    exact (hf a s' ((hx s hs).1 a s' hx')).1 b t hf'
  · intro e t h
    rcases run_bind_eq_error h with hx' | ⟨a, s', hx', hf'⟩
    · exact (hx s hs).2 e t hx'
    · exact (hf a s' ((hx s hs).1 a s' hx')).2 e t hf'

/-- What follows may rely on what the first call has returned. -/
theorem Keeps.bind_of_run {P : σ → Prop} (hx : Keeps P x)
    (hf : ∀ s a t, P s → x.run s = .ok a t → Keeps P (f a)) : Keeps P (x >>= f) := by
  intro s hs
  constructor
  · intro b t h
    obtain ⟨a, s', hx', hf'⟩ := run_bind_eq_ok h
    exact (hf s a s' hs hx' s' ((hx s hs).1 a s' hx')).1 b t hf'
  · intro e t h
    rcases run_bind_eq_error h with hx' | ⟨a, s', hx', hf'⟩
    · exact (hx s hs).2 e t hx'
    · exact (hf s a s' hs hx' s' ((hx s hs).1 a s' hx')).2 e t hf'

theorem Keeps.pure (P : σ → Prop) (a : α) : Keeps P (Pure.pure a : Method σ α) :=
  fun _ hs => ⟨fun _ _ h => by cases h; exact hs, fun _ _ h => by cases h⟩

theorem Keeps.throw (P : σ → Prop) (e : Failure) : Keeps P (MonadExcept.throw e : Method σ α) :=
  fun _ hs => ⟨fun _ _ h => (by cases h), fun _ _ h => by cases h; exact hs⟩

theorem Keeps.get (P : σ → Prop) : Keeps P (MonadState.get : Method σ σ) :=
  fun _ hs => ⟨fun _ _ h => by cases h; exact hs, fun _ _ h => by cases h⟩

theorem Keeps.set {P : σ → Prop} {t : σ} (h : P t) :
    Keeps P (MonadStateOf.set t : Method σ PUnit) :=
  fun _ _ => ⟨fun _ _ hrun => by cases hrun; exact h, fun _ _ hrun => by cases hrun⟩

/-- The state that is read has the property. -/
theorem Keeps.bind_get {P : σ → Prop} {f : σ → Method σ α} (hf : ∀ s, P s → Keeps P (f s)) :
    Keeps P (MonadState.get >>= f) :=
  .bind_of_run (.get P) fun s a t hs hrun => by
    cases hrun
    exact hf s hs

theorem Keeps.ite {P : σ → Prop} {p : Prop} [Decidable p] {y z : Method σ α} (hy : Keeps P y)
    (hz : Keeps P z) : Keeps P (if p then y else z) := by
  split
  · exact hy
  · exact hz

/-- A computation without state keeps everything. -/
theorem Keeps.lift (P : σ → Prop) (y : Except Failure α) : Keeps P (liftM y : Method σ α) := by
  intro s hs
  cases y with
  | ok a => exact ⟨fun _ _ h => by cases h; exact hs, fun _ _ h => by cases h⟩
  | error e => exact ⟨fun _ _ h => (by cases h), fun _ _ h => by cases h; exact hs⟩

section Computes
variable {γ δ : Type} {m : Method σ β} {k : β → Method σ δ} {y : Except Failure α}
  {ret : α → β} {st : α → σ}

/-- From a state, a call returns what a computation without state returns, as
seen through `ret` and in the state `st`, and throws what that computation
throws. -/
def Computes (m : Method σ β) (s : σ) (y : Except Failure α) (ret : α → β) (st : α → σ) : Prop :=
  match y with
  | .ok a => m.run s = .ok (ret a) (st a)
  | .error e => ∃ s', m.run s = .error e s'

/-- Only the outcome of a call matters. -/
theorem Computes.of_run {m' : Method σ β} {t : σ} (h : Computes m' t y ret st)
    (hrun : m.run s = m'.run t) : Computes m s y ret st := by
  cases y with
  | ok a => exact hrun.trans h
  | error e => exact h.imp fun _ ht => hrun.trans ht

/-- A computation without state, lifted, leaves the state as it was. -/
theorem Computes.lift (y : Except Failure α) (s : σ) :
    Computes (liftM y : Method σ α) s y id fun _ => s := by
  cases y with
  | ok a => exact rfl
  | error e => exact ⟨s, rfl⟩

/-- Sequences compute sequences. -/
theorem Computes.bind {z : α → Except Failure γ} {ret' : γ → δ} {st' : γ → σ}
    (h : Computes m s y ret st) (hk : ∀ a, Computes (k (ret a)) (st a) (z a) ret' st') :
    Computes (m >>= k) s (y >>= z) ret' st' := by
  cases y with
  | error e =>
    obtain ⟨s', hs'⟩ := h
    exact ⟨s', run_bind_error hs'⟩
  | ok a => exact (hk a).of_run (run_bind_ok h)

/-- A sequence whose second part always returns. -/
theorem Computes.seq {ret' : α → δ} {st' : α → σ} (h : Computes m s y ret st)
    (hk : ∀ a, (k (ret a)).run (st a) = .ok (ret' a) (st' a)) :
    Computes (m >>= k) s y ret' st' := by
  cases y with
  | error e =>
    obtain ⟨s', hs'⟩ := h
    exact ⟨s', run_bind_error hs'⟩
  | ok a => exact (run_bind_ok h).trans (hk a)

/-- The result of the computation may be seen through another function. -/
theorem Computes.map {g : α → γ} {ret' : γ → β} {st' : γ → σ} (h : Computes m s y ret st)
    (hret : ∀ a, ret a = ret' (g a)) (hst : ∀ a, st a = st' (g a)) :
    Computes m s (y >>= fun a => .ok (g a)) ret' st' := by
  cases y with
  | error e => exact h
  | ok a =>
    have hm : m.run s = .ok (ret a) (st a) := h
    rw [hret a, hst a] at hm
    exact hm

end Computes

end Method

/-- `y` does what `x` does wherever `x` has a meaning. -/
def Extends {α : Type} (x y : Except Failure α) : Prop := x = .error .undefinedBehaviour ∨ y = x

namespace Extends
variable {α β : Type} {x y : Except Failure α} {f g : α → Except Failure β}

theorem refl (x : Except Failure α) : Extends x x := Completes.refl x

theorem bind (h : Extends x y) (hfg : ∀ a, Extends (f a) (g a)) :
    Extends (x >>= f) (y >>= g) := Completes.bind h hfg

theorem ite {p : Prop} [Decidable p] {x' y' : Except Failure α} (h : Extends x y)
    (h' : Extends x' y') : Extends (if p then x else x') (if p then y else y') :=
  Completes.ite h h'

end Extends

theorem ok_bind {α β : Type} (a : α) (f : α → Except Failure β) : (Except.ok a >>= f) = f a := rfl

/-- What a sequence of two computations that returns has computed. -/
theorem bind_eq_ok {α β : Type} {x : Except Failure α} {f : α → Except Failure β} {b : β}
    (h : (x >>= f) = .ok b) : ∃ a, x = .ok a ∧ f a = .ok b := by
  cases x with
  | error e => cases h
  | ok a => exact ⟨a, rfl, h⟩

/-- A sequence of calls fails only where one of them does. -/
theorem bind_ne_error {α β : Type} {x : Except Failure α} {f : α → Except Failure β} {e : Failure}
    (hx : x ≠ .error e) (hf : ∀ a, x = .ok a → f a ≠ .error e) : (x >>= f) ≠ .error e := by
  cases x with
  | error e' => exact fun h => hx (by cases h; rfl)
  | ok a => exact hf a rfl

/-- A call that returns, or throws what can be caught. -/
def ReturnsOrThrows {α : Type} (x : Except Failure α) : Prop :=
  ∀ e, x = .error e → e.isException = true

namespace ReturnsOrThrows
variable {α β : Type} {x : Except Failure α}

theorem ok (a : α) : ReturnsOrThrows (.ok a : Except Failure α) := fun _ h => by cases h

theorem error {e : Failure} (he : e.isException = true) :
    ReturnsOrThrows (.error e : Except Failure α) := fun _ h => by cases h; exact he

theorem bind {f : α → Except Failure β} (hx : ReturnsOrThrows x)
    (hf : ∀ a, x = .ok a → ReturnsOrThrows (f a)) : ReturnsOrThrows (x >>= f) := by
  cases x with
  | error e => exact .error (hx e rfl)
  | ok a => exact hf a rfl

theorem ne_error (h : ReturnsOrThrows x) {e : Failure} (he : e.isException = false) :
    x ≠ .error e := by
  intro hx
  rw [h e hx] at he
  cases he

end ReturnsOrThrows

/-- Equal calls, followed by calls that are equal on what is returned. -/
theorem bind_congr_ok {α β : Type} {x : Except Failure α} {f g : α → Except Failure β}
    (h : ∀ a, x = .ok a → f a = g a) : (x >>= f) = (x >>= g) := by
  cases x with
  | error e => rfl
  | ok a => exact h a rfl

/-! ### Machine arithmetic -/

/-- Addition of two `size_t`. -/
def add64 (a b : Nat) : Nat := if a + b < 2 ^ 64 then a + b else a + b - 2 ^ 64

/-- Subtraction of two `size_t`. -/
def sub64 (a b : Nat) : Nat := if b ≤ a then a - b else a + 2 ^ 64 - b

theorem add64_eq {a b : Nat} (h : a + b < 2 ^ 64) : add64 a b = a + b := if_pos h

theorem sub64_eq {a b : Nat} (h : b ≤ a) : sub64 a b = a - b := if_pos h

theorem sub64_wraps {a b : Nat} (h : a < b) : sub64 a b = a + 2 ^ 64 - b :=
  if_neg (Nat.not_le_of_lt h)

/-! ### Numerals -/

/-- `std::to_string` of a `size_t`. -/
def decimal (n : Nat) : Str := (Nat.toDigits 10 n).map fun c => UInt8.ofNat c.toNat

/-- `isspace` in the C locale. -/
def isSpace (c : UInt8) : Bool := c = 32 || (9 ≤ c && c ≤ 13)

/-- The value of a letter or digit as a digit, in whichever base has it. -/
def digitValue (c : UInt8) : Nat :=
  if 48 ≤ c ∧ c ≤ 57 then c.toNat - 48
  else if 65 ≤ c ∧ c ≤ 90 then c.toNat - 55
  else if 97 ≤ c ∧ c ≤ 122 then c.toNat - 87
  else 36

/-- `isxdigit`. -/
def isXDigit (c : UInt8) : Bool := digitValue c < 16

/-- The number a string of digits denotes. -/
def digitsValue (base : Nat) (ds : Str) : Nat :=
  ds.foldl (fun v c => v * base + digitValue c) 0

/-- In base 16, the `0x` in front of a digit. -/
def dropHexPrefix : Str → Str
  | 48 :: x :: c :: s => if (x = 120 || x = 88) && isXDigit c then c :: s else 48 :: x :: c :: s
  | s => s

/-- The common part of `strtol` and `strtoul`: the sign and the number read, or
nothing when no digit is found. -/
def parseInteger (base : Nat) (s : Str) : Option (Bool × Nat) :=
  let s := (cStr s).dropWhile isSpace
  let negative := s.head? = some 45
  let s := if s.head? = some 45 ∨ s.head? = some 43 then s.tail else s
  let s := if base = 16 then dropHexPrefix s else s
  let ds := s.takeWhile fun c => decide (digitValue c < base)
  if ds = [] then none else some (negative, digitsValue base ds)

/-- `std::stoul`. -/
def stoul (s : Str) (base : Nat) : Except Failure Nat :=
  match parseInteger base s with
  | none => .error (.invalidArgument (lit "stoul"))
  | some (negative, n) =>
      if 2 ^ 64 ≤ n then .error (.outOfRange (lit "stoul"))
      else .ok (if negative then sub64 0 n else n)

/-- `std::stoi`. -/
def stoi (s : Str) (base : Nat) : Except Failure Int :=
  match parseInteger base s with
  | none => .error (.invalidArgument (lit "stoi"))
  | some (negative, n) =>
      let v : Int := if negative then -(n : Int) else n
      if v < -2 ^ 31 ∨ 2 ^ 31 ≤ v then .error (.outOfRange (lit "stoi")) else .ok v

/-- `sscanf("%zu")`.  A number that is too large is read as the largest one, whatever its
sign, and a variable that the conversion does not fill is read uninitialised. -/
def scanSize (s : Str) : Except Failure Nat :=
  match parseInteger 10 s with
  | none => .error .undefinedBehaviour
  | some (negative, n) =>
      if 2 ^ 64 ≤ n then .ok (2 ^ 64 - 1) else .ok (if negative then sub64 0 n else n)

/-- The character of an upper-case hexadecimal digit. -/
def hexDigit (d : Nat) : UInt8 := if d < 10 then UInt8.ofNat (48 + d) else UInt8.ofNat (55 + d)

/-- The character of a lower-case hexadecimal digit. -/
def lowerHexDigit (d : Nat) : UInt8 :=
  if d < 10 then UInt8.ofNat (48 + d) else UInt8.ofNat (87 + d)

/-- `printf("%02X")` of a byte. -/
def hexByte (b : UInt8) : Str := [hexDigit (b.toNat / 16), hexDigit (b.toNat % 16)]

/-- `printf("%02x")` of a byte. -/
def lowerHexByte (b : UInt8) : Str := [lowerHexDigit (b.toNat / 16), lowerHexDigit (b.toNat % 16)]

/-! ### Reading hexadecimal digits -/

/-- A property of all bytes, checked on the 256 of them. -/
theorem byte_forall {P : UInt8 → Prop} [DecidablePred P]
    (h : ∀ n, n < 256 → P (UInt8.ofNat n)) (b : UInt8) : P b := by
  have := h b.toNat b.toNat_lt
  rwa [UInt8.ofNat_toNat] at this

set_option maxRecDepth 4000 in
/-- A hexadecimal digit is none of the characters that a numeral may have in
front of its digits, and not the end of a C string. -/
theorem isXDigit_plain (c : UInt8) : isXDigit c = true →
    c ≠ 0 ∧ isSpace c = false ∧ c ≠ 43 ∧ c ≠ 45 ∧ c ≠ 120 ∧ c ≠ 88 := by
  have key : ∀ c : UInt8, isXDigit c = true →
      c ≠ 0 ∧ isSpace c = false ∧ c ≠ 43 ∧ c ≠ 45 ∧ c ≠ 120 ∧ c ≠ 88 := byte_forall (by decide)
  exact key c

theorem dropHexPrefix_eq_self {ds : Str} (h : ∀ c ∈ ds, isXDigit c = true) :
    dropHexPrefix ds = ds := by
  unfold dropHexPrefix
  split
  · rename_i x c s
    have hx := isXDigit_plain x (h x (by simp))
    rw [if_neg (by simp [hx])]
  · rfl

/-- Digits without anything in front of them are read as the number they denote. -/
theorem parseInteger_digits {base : Nat} {ds : Str} (hne : ds ≠ [])
    (hplain : ∀ c ∈ ds, c ≠ 0 ∧ isSpace c = false ∧ c ≠ 43 ∧ c ≠ 45)
    (hdigits : ∀ c ∈ ds, digitValue c < base)
    (hhex : (if base = 16 then dropHexPrefix ds else ds) = ds) :
    parseInteger base ds = some (false, digitsValue base ds) := by
  have hzero : cStr ds = ds := cStr_eq_self fun h0 => (hplain 0 h0).1 rfl
  have hall : ds.takeWhile (fun c => decide (digitValue c < base)) = ds :=
    List.takeWhile_eq_self_iff.mpr fun c hc => decide_eq_true (hdigits c hc)
  obtain ⟨c, s, rfl⟩ := List.exists_cons_of_ne_nil hne
  have hc := hplain c List.mem_cons_self
  have hspace : (c :: s).dropWhile isSpace = c :: s := List.dropWhile_cons_of_neg (by simp [hc])
  have hsign : ¬ (some c = some 45 ∨ some c = some 43) := by simp [hc]
  have hminus : decide (some c = some (45 : UInt8)) = false := by simp [hc]
  simp only [parseInteger, hzero, hspace, List.head?_cons, if_neg hsign, hhex, hall, hminus]
  rw [if_neg hne]

theorem parseInteger_hex {ds : Str} (hne : ds ≠ []) (h : ∀ c ∈ ds, isXDigit c = true) :
    parseInteger 16 ds = some (false, digitsValue 16 ds) := by
  refine parseInteger_digits hne (fun c hc => ?_) (fun c hc => of_decide_eq_true (h c hc))
    (dropHexPrefix_eq_self h)
  obtain ⟨h0, hspace, hplus, hminus, -⟩ := isXDigit_plain c (h c hc)
  exact ⟨h0, hspace, hplus, hminus⟩

/-- Two hexadecimal digits. -/
theorem parseInteger_hex_pair {c d : UInt8} (hc : isXDigit c = true) (hd : isXDigit d = true) :
    parseInteger 16 [c, d] = some (false, digitValue c * 16 + digitValue d) ∧
      digitValue c * 16 + digitValue d < 256 := by
  have hlt : digitValue c < 16 ∧ digitValue d < 16 :=
    ⟨of_decide_eq_true hc, of_decide_eq_true hd⟩
  refine ⟨?_, by omega⟩
  rw [parseInteger_hex (by simp) (by simp [hc, hd])]
  simp [digitsValue]

theorem stoi_hex_pair {c d : UInt8} (hc : isXDigit c = true) (hd : isXDigit d = true) :
    stoi [c, d] 16 = .ok ((digitValue c * 16 + digitValue d : Nat) : Int) := by
  obtain ⟨hparse, hlt⟩ := parseInteger_hex_pair hc hd
  simp only [stoi, hparse]
  rw [if_neg (by omega)]
  simp

/-! ### Reading decimal digits -/

theorem decimal_of_lt {n : Nat} (h : n < 10) : decimal n = [UInt8.ofNat (48 + n)] := by
  rw [decimal, Nat.toDigits_of_lt_base h, List.map_singleton, Nat.toNat_digitChar_of_lt_ten h]

theorem decimal_of_le {n : Nat} (h : 10 ≤ n) :
    decimal n = decimal (n / 10) ++ [UInt8.ofNat (48 + n % 10)] := by
  have hlast : n % 10 < 10 := Nat.mod_lt n (by decide)
  rw [decimal, Nat.toDigits_of_base_le (by decide) h, List.map_append, ← decimal,
    List.map_singleton, Nat.toNat_digitChar_of_lt_ten hlast]

/-- A property of the decimal digits holds of every byte of a decimal numeral. -/
theorem decimal_forall {P : UInt8 → Prop} (hP : ∀ d < 10, P (UInt8.ofNat (48 + d))) (n : Nat) :
    ∀ c ∈ decimal n, P c := by
  induction n using Nat.strongRecOn with
  | ind n ih =>
    by_cases h : n < 10
    · rw [decimal_of_lt h]
      simpa using hP n h
    · rw [decimal_of_le (Nat.le_of_not_lt h)]
      intro c hc
      rcases List.mem_append.mp hc with hc | hc
      · exact ih (n / 10) (by omega) c hc
      · rw [List.mem_singleton.mp hc]
        exact hP (n % 10) (Nat.mod_lt n (by decide))

theorem decimal_ne_nil (n : Nat) : decimal n ≠ [] := by
  rw [decimal, ne_eq, List.map_eq_nil_iff]
  exact Nat.toDigits_ne_nil

theorem digitsValue_decimal (n : Nat) : digitsValue 10 (decimal n) = n := by
  have hdigit : ∀ d < 10, digitValue (UInt8.ofNat (48 + d)) = d := by decide
  induction n using Nat.strongRecOn with
  | ind n ih =>
    by_cases h : n < 10
    · rw [decimal_of_lt h, digitsValue, List.foldl_cons, hdigit n h]
      simp
    · have hdiv := ih (n / 10) (by omega)
      rw [digitsValue] at hdiv
      rw [decimal_of_le (Nat.le_of_not_lt h), digitsValue, List.foldl_append, hdiv, List.foldl_cons,
        hdigit (n % 10) (Nat.mod_lt n (by decide)), List.foldl_nil]
      omega

/-- A decimal numeral is read as the number it stands for. -/
theorem parseInteger_decimal (n : Nat) : parseInteger 10 (decimal n) = some (false, n) := by
  have hplain : ∀ c ∈ decimal n, c ≠ 0 ∧ isSpace c = false ∧ c ≠ 43 ∧ c ≠ 45 :=
    decimal_forall (by decide) n
  have hdigits : ∀ c ∈ decimal n, digitValue c < 10 := decimal_forall (by decide) n
  rw [parseInteger_digits (decimal_ne_nil n) hplain hdigits rfl, digitsValue_decimal]

/-- A number that is too large is read as the largest one. -/
theorem scanSize_decimal_min (n : Nat) : scanSize (decimal n) = .ok (min n (2 ^ 64 - 1)) := by
  simp only [scanSize, parseInteger_decimal, Bool.false_eq_true, if_false]
  split
  · rw [Nat.min_eq_right (by omega)]
  · rw [Nat.min_eq_left (by omega)]

theorem scanSize_decimal {n : Nat} (h : n < 2 ^ 64) : scanSize (decimal n) = .ok n := by
  rw [scanSize_decimal_min, Nat.min_eq_left (by omega)]

theorem stoul_decimal {n : Nat} (h : n < 2 ^ 64) : stoul (decimal n) 10 = .ok n := by
  simp only [stoul, parseInteger_decimal, Bool.false_eq_true, if_false]
  rw [if_neg (by omega)]

end SnapDesk
