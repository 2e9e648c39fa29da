import SnapDesk.CutRange
import SnapDesk.HexCodec
import SnapDesk.Transition

/-! # Cuts of cuts

A cut of size 0 says that nothing was selected, and both cuts say so by a null number.
`cut_bit` leaves it to `cut_byte` to do so, with a size rounded to bytes, and in the middle
of a byte that size is 1: the byte is kept, loses all its bits, and is taken away.  What is
left has no bytes and is not null (`cutBit_zero_unaligned`).

`CutStep.cases` says all that a cut which returns can do, and `solid_iff_of_run` is the
invariant of a sequence of them. -/
namespace SnapDesk
open Transition

namespace BigNumber

/-- A call of `cut_byte` or of `cut_bit`. -/
inductive Cut where
  | byte (first size : Nat)
  | bit (first size : Nat)

namespace Cut

def first : Cut → Nat
  | byte first _ => first
  | bit first _ => first

def size : Cut → Nat
  | byte _ size => size
  | bit _ size => size

def action : Cut → Method BigNumber Unit
  | byte first size => cutByte first size
  | bit first size => cutBit first size

/-- A cut of no bits in the middle of a byte. -/
def Unaligned : Cut → Prop
  | byte _ _ => False
  | bit first size => size = 0 ∧ first % 8 ≠ 0

end Cut

/-- A cut whose bounds do not wrap around, and that does not throw. -/
def CutStep (x : BigNumber) (c : Cut) (y : BigNumber) : Prop :=
  c.first + c.size < 2 ^ 64 ∧ c.action.run x = .ok () y

/-- Where a number comes from. -/
inductive Origin where
  | buffer (bytes : List UInt8) (bufferSize numberSize : Nat)
  | bufferInv (bytes : List UInt8) (bufferSize numberSize : Nat)
  | hexString (s : Str)

namespace Origin

def make : Origin → Except Failure BigNumber
  | buffer bytes bufferSize numberSize => fromBuffer bytes bufferSize numberSize
  | bufferInv bytes bufferSize numberSize => fromBufferInv bytes bufferSize numberSize
  | hexString s => fromHexString s

/-- At least one byte is asked for. -/
def Sized : Origin → Prop
  | buffer _ _ numberSize => 1 ≤ numberSize
  | bufferInv _ _ numberSize => 1 ≤ numberSize
  | hexString _ => True

/-- The text is not empty, and the loop of `from_buffer` runs: its counter is an `int`. -/
def HasBytes : Origin → Prop
  | buffer _ _ numberSize => (numberSize - 1) % 2 ^ 32 < 2 ^ 31
  | bufferInv _ _ _ => True
  | hexString s => s ≠ []

end Origin

/-- A number that is not null, and has a byte. -/
def Solid (x : BigNumber) : Prop := x.isNull = false ∧ x.number ≠ []

/-- What a number that comes from a sequence of cuts should be. -/
structure NullOrBytes (cuts : List Cut) (y : BigNumber) : Prop where
  bytes : y.isNull = true ∨ 1 ≤ y.number.length
  null_iff : y.isNull = true ↔ ∃ c ∈ cuts, c.size = 0

section
variable {x y : BigNumber} {c : Cut} {cuts : List Cut}

theorem Solid.of_length (hnull : x.isNull = false) (h : 1 ≤ x.number.length) : x.Solid :=
  ⟨hnull, List.ne_nil_of_length_pos h⟩

/-! ### Where the numbers come from -/

theorem hexPairs_ne_nil {s : Str} (hne : s ≠ []) {number : List UInt8}
    (h : hexPairs s = .ok number) : number ≠ [] := by
  rcases s with _ | ⟨a, _ | ⟨b, rest⟩⟩
  · exact absurd rfl hne
  · obtain ⟨byte, -, h⟩ := bind_eq_ok h
    cases h
    exact List.cons_ne_nil _ _
  · obtain ⟨byte, -, h⟩ := bind_eq_ok h
    obtain ⟨number, -, h⟩ := bind_eq_ok h
    cases h
    exact List.cons_ne_nil _ _

theorem solid_iff_of_make {o : Origin} (hsized : o.Sized) (hmake : o.make = .ok x) :
    x.Solid ↔ o.HasBytes := by
  cases o with
  | buffer bytes bufferSize numberSize =>
    obtain ⟨hnull, hlength⟩ := fromBuffer_eq_ok hmake
    have hcount : countdown numberSize =
        if (numberSize - 1) % 2 ^ 32 < 2 ^ 31 then (numberSize - 1) % 2 ^ 32 + 1 else 0 := by
      rw [countdown, sub64_eq hsized]
    rw [hcount] at hlength
    by_cases hruns : (numberSize - 1) % 2 ^ 32 < 2 ^ 31
    · rw [if_pos hruns] at hlength
      exact iff_of_true (.of_length hnull (by omega)) hruns
    · rw [if_neg hruns] at hlength
      exact iff_of_false (fun h => h.2 (List.eq_nil_of_length_eq_zero hlength)) hruns
  | bufferInv bytes bufferSize numberSize =>
    obtain ⟨hnull, hlength⟩ := fromBufferInv_eq_ok hmake
    have hsize : 1 ≤ numberSize := hsized
    exact iff_of_true (.of_length hnull (by omega)) trivial
  | hexString s =>
    by_cases hempty : s = []
    · subst hempty
      cases hmake
      exact iff_of_false (fun h => Bool.noConfusion h.1) (not_not_intro rfl)
    · have hrun : fromHexString s = .ok x := hmake
      rw [fromHexString_of_ne hempty] at hrun
      obtain ⟨number, hnumber, hx⟩ := bind_eq_ok hrun
      cases hx
      exact iff_of_true ⟨rfl, hexPairs_ne_nil hempty hnumber⟩ hempty

/-! ### One cut -/

theorem Cut.Unaligned.size (h : c.Unaligned) : c.size = 0 := by
  cases c with
  | byte first size => exact h.elim
  | bit first size => exact h.1

theorem CutStep.not_null (h : CutStep x c y) : x.isNull = false := by
  obtain ⟨-, hrun⟩ := h
  by_contra hnull
  have hthrow : x.throwIfNull = .error (.invalidArgument (lit "use of null number")) := by
    rw [throwIfNull, if_pos (Bool.not_eq_false _ ▸ hnull)]
  cases c with
  | byte first size =>
    rw [Cut.action, cutByte, Method.run_bind_ok (Method.run_get _), hthrow] at hrun
    cases hrun
  | bit first size =>
    rw [Cut.action, cutBit, Method.run_bind_ok (Method.run_get _), hthrow] at hrun
    cases hrun

/-- **What a cut that returns can do**: it leaves bytes, or the null number, or, in the middle
of a byte, neither. -/
theorem CutStep.cases (h : CutStep x c y) :
    (0 < c.size ∧ x.Solid ∧ y.Solid) ∨ (c.Unaligned ∧ y.isNull = false ∧ y.number = []) ∨
      (c.size = 0 ∧ ¬ c.Unaligned ∧ y.isNull = true) := by
  have hnull := h.not_null
  have hx : x = ofVector x.number := by rw [ofVector, ← hnull]
  obtain ⟨hwrap, hrun⟩ := h
  cases c with
  | byte first size =>
    have hwrap' : first + size < 2 ^ 64 := hwrap
    have hadd : add64 first size = first + size := add64_eq hwrap'
    have hinside : first + size ≤ x.number.length := by
      by_contra hout
      rw [Cut.action, cutByte_rejects hnull (by omega)] at hrun
      cases hrun
    rcases Nat.eq_zero_or_pos size with rfl | hsize
    · rw [Cut.action, cutByte_zero hnull (by omega)] at hrun
      cases hrun
      exact .inr (.inr ⟨rfl, id, rfl⟩)
    · rw [Cut.action, hx, cutByte_ok hsize hinside hwrap'] at hrun
      cases hrun
      refine .inl ⟨hsize, .of_length hnull (by omega), .of_length rfl ?_⟩
      rw [ofVector_number, List.length_take, List.length_drop]
      omega
  | bit first size =>
    have hwrap' : first + size < 2 ^ 64 := hwrap
    have hadd : add64 first size = first + size := add64_eq hwrap'
    have hinside : first + size ≤ 8 * x.number.length := by
      by_contra hout
      rw [Cut.action, cutBit_rejects hnull (by omega)] at hrun
      cases hrun
    rcases Nat.eq_zero_or_pos size with rfl | hsize
    · by_cases haligned : first % 8 = 0
      · rw [Cut.action, cutBit_zero_aligned hnull (by omega) (by omega) haligned] at hrun
        cases hrun
        exact .inr (.inr ⟨rfl, fun hbad => hbad.2 haligned, rfl⟩)
      · rw [Cut.action, cutBit_zero_unaligned hnull (by omega) (by omega) haligned] at hrun
        cases hrun
        exact .inr (.inl ⟨⟨rfl, haligned⟩, rfl, rfl⟩)
    · obtain ⟨z, hz, hznull, hzlength, -⟩ := cutBit_value hnull hsize hinside hwrap'
      rw [Cut.action, hz] at hrun
      cases hrun
      exact .inl ⟨hsize, .of_length hnull (by omega), .of_length hznull (by omega)⟩

/-! ### Sequences of cuts -/

/-- A number keeps having bytes as long as every cut selects something. -/
theorem solid_iff_of_run (hrun : Run CutStep x cuts y) :
    y.Solid ↔ x.Solid ∧ ∀ c ∈ cuts, 0 < c.size := by
  refine Run.history (I := fun cuts y => y.Solid ↔ x.Solid ∧ ∀ c ∈ cuts, 0 < c.size)
    (by simp) (fun cuts t c u _ ih hstep => ?_) hrun
  have hall : (∀ c' ∈ cuts ++ [c], 0 < c'.size) ↔ (∀ c' ∈ cuts, 0 < c'.size) ∧ 0 < c.size := by
    rw [List.forall_mem_append, List.forall_mem_singleton]
  rw [hall, ← and_assoc, ← ih]
  rcases hstep.cases with ⟨hsize, ht, hu⟩ | ⟨hbad, -, hempty⟩ | ⟨hzero, -, hnull⟩
  · exact iff_of_true hu ⟨ht, hsize⟩
  · have hzero := hbad.size
    exact iff_of_false (fun h => h.2 hempty) fun h => by omega
  · exact iff_of_false (fun h => by rw [h.1] at hnull; cases hnull) fun h => by omega

/-- A number that is not cut at all. -/
theorem nullOrBytes_nil : NullOrBytes [] y ↔ y.Solid := by
  constructor
  · rintro ⟨hbytes, hnull⟩
    have hnot : ¬ y.isNull = true := by simpa using hnull
    exact .of_length (Bool.eq_false_iff.mpr hnot) (hbytes.resolve_left hnot)
  · rintro ⟨hnull, hne⟩
    exact ⟨.inr (List.length_pos_iff.mpr hne), by simp [hnull]⟩

/-- After a cut only the last one counts. -/
theorem nullOrBytes_snoc (hrun : Run CutStep x (cuts ++ [c]) y) :
    NullOrBytes (cuts ++ [c]) y ↔ ¬ c.Unaligned := by
  have hall := solid_iff_of_run hrun
  obtain ⟨t, -, hstep⟩ := Run.snoc_iff.mp hrun
  have hmem : c ∈ cuts ++ [c] := List.mem_append_right _ List.mem_cons_self
  rcases hstep.cases with ⟨hsize, -, hy⟩ | ⟨hbad, hnull, hempty⟩ | ⟨hzero, hgood, hnull⟩
  · -- no cut so far was of size 0
    have hsizes := (hall.mp hy).2
    have hgood : ¬ c.Unaligned := fun hbad => Nat.ne_of_gt hsize hbad.size
    refine iff_of_true ⟨.inr (List.length_pos_iff.mpr hy.2), ?_⟩ hgood
    refine iff_of_false (by simp [hy.1]) ?_
    rintro ⟨c', hc', hzero⟩
    exact absurd (hsizes c' hc') (by omega)
  · refine iff_of_false (fun h => ?_) (not_not_intro hbad)
    rcases h.bytes with h | h
    · rw [hnull] at h
      cases h
    · rw [hempty] at h
      cases h
  · exact iff_of_true ⟨.inl hnull, iff_of_true hnull ⟨c, hmem, hzero⟩⟩ hgood

/-- **When a number is null or has bytes**, and null exactly after a cut of size 0: the last
cut is not one of no bits in the middle of a byte, and a number that is not cut at all has a
byte. -/
theorem nullOrBytes_iff {o : Origin} (hsized : o.Sized) (hmake : o.make = .ok x)
    (hrun : Run CutStep x cuts y) :
    NullOrBytes cuts y ↔ (cuts = [] → o.HasBytes) ∧ ∀ c ∈ cuts.getLast?, ¬ c.Unaligned := by
  rcases List.eq_nil_or_concat cuts with rfl | ⟨before, c, rfl⟩
  · obtain rfl := Run.nil_iff.mp hrun
    rw [nullOrBytes_nil, solid_iff_of_make hsized hmake]
    simp
  · rw [List.concat_eq_append] at hrun ⊢
    rw [nullOrBytes_snoc hrun]
    simp

end

/-- A byte, and no bits of it from its beginning on. -/
theorem nullOrBytes_iff_aligned :
    NullOrBytes [.bit 8 0] ⟨[0xAB, 0xCD], true⟩ ↔
      (([.bit 8 0] : List Cut) = [] → (Origin.hexString (lit "ABCD")).HasBytes) ∧
        ∀ c ∈ ([.bit 8 0] : List Cut).getLast?, ¬ c.Unaligned := by
  have hrun : Run CutStep (ofVector [0xAB, 0xCD]) ([] ++ [.bit 8 0]) ⟨[0xAB, 0xCD], true⟩ :=
    .snoc (.nil _) ⟨by decide, cutBit_zero_aligned rfl (by decide) (by decide) rfl⟩
  exact nullOrBytes_iff (o := .hexString (lit "ABCD")) trivial rfl hrun

/-- **A number without bytes that is not null**: no bits from the middle of a byte on. -/
theorem not_nullOrBytes :
    ¬ ∀ (o : Origin) (x y : BigNumber) (cuts : List Cut), o.Sized → o.make = .ok x →
      Run CutStep x cuts y → NullOrBytes cuts y := by
  intro hall
  have hrun : Run CutStep (ofVector [0xAB]) ([] ++ [.bit 4 0]) (ofVector []) :=
    .snoc (.nil _) ⟨by decide, cutBit_zero_unaligned rfl (by decide) (by decide) (by decide)⟩
  have h := hall (.hexString (lit "AB")) _ _ _ trivial rfl hrun
  rcases h.bytes with h | h <;> cases h

end BigNumber
end SnapDesk
