import Mathlib.Data.List.Nodup

/-! # Queues of slots

A queue kept in a list of slots that are never freed.  A slot is busy or free; one who
puts something into the queue fills the first free slot where it stands, and one who takes
something out works on the first busy slot and then moves it, free again, to the end of the
list.  As long as the slots are used like this the busy ones stand in front, in the order in
which they were filled (`Layout`), and the list is a queue of bounded length.

Nothing keeps a slot that was found free from being filled by somebody else in between; that
is up to those who use the list. -/
namespace SlotQueue
variable {ι α : Type*}

/-- A slot of the list. -/
structure Slot (ι α : Type*) where
  id : ι
  busy : Bool
  content : Option α
  deriving DecidableEq

/-- A slot that nobody uses. -/
def Slot.ofFree (α : Type*) (i : ι) : Slot ι α := ⟨i, false, none⟩

/-- A slot that waits with its content. -/
def Slot.ofBusy (p : ι × α) : Slot ι α := ⟨p.1, true, some p.2⟩

@[simp] theorem Slot.ofFree_busy (i : ι) : (Slot.ofFree α i).busy = false := rfl

@[simp] theorem Slot.ofBusy_busy (p : ι × α) : (Slot.ofBusy p).busy = true := rfl

@[simp] theorem Slot.ofFree_id (i : ι) : (Slot.ofFree α i).id = i := rfl

@[simp] theorem Slot.ofBusy_id (p : ι × α) : (Slot.ofBusy p).id = p.1 := rfl

/-- The first slot that is free. -/
def firstFree (slots : List (Slot ι α)) : Option (Slot ι α) := slots.find? fun slot => !slot.busy

/-- The first slot that is busy. -/
def firstBusy (slots : List (Slot ι α)) : Option (Slot ι α) := slots.find? fun slot => slot.busy

section
variable [DecidableEq ι]

/-- Put something into a slot, wherever it stands and whatever it holds. -/
def fill (i : ι) (x : α) (slots : List (Slot ι α)) : List (Slot ι α) :=
  slots.map fun slot => if slot.id = i then ⟨i, true, some x⟩ else slot

/-- Free a slot and move it to the end. -/
def release (i : ι) (slots : List (Slot ι α)) : List (Slot ι α) :=
  slots.filter (fun slot => slot.id ≠ i) ++
    (slots.filter fun slot => slot.id = i).map fun slot => Slot.ofFree α slot.id

/-- What was in a slot is gone when it is filled again. -/
theorem fill_fill (i : ι) (x y : α) (slots : List (Slot ι α)) :
    fill i y (fill i x slots) = fill i y slots := by
  rw [fill, fill, fill, List.map_map]
  refine List.map_congr_left fun slot _ => ?_
  by_cases hslot : slot.id = i
  · simp [hslot]
  · simp [hslot]

end

/-- The busy slots stand in front of the free ones. -/
structure Layout (slots : List (Slot ι α)) (waiting : List (ι × α)) (free : List ι) : Prop where
  eq : slots = waiting.map Slot.ofBusy ++ free.map (Slot.ofFree α)
  nodup : (waiting.map Prod.fst ++ free).Nodup

namespace Layout
variable {slots : List (Slot ι α)} {waiting : List (ι × α)} {free : List ι}

/-- Free slots only. -/
theorem ofFree (hfree : free.Nodup) : Layout (free.map (Slot.ofFree α)) [] free :=
  ⟨rfl, hfree⟩

theorem length (h : Layout slots waiting free) : waiting.length + free.length = slots.length := by
  rw [h.eq, List.length_append, List.length_map, List.length_map]

theorem firstFree_eq (h : Layout slots waiting free) :
    firstFree slots = free.head?.map (Slot.ofFree α) := by
  have hbusy : (waiting.map Slot.ofBusy).find? (fun slot : Slot ι α => !slot.busy) = none := by
    simp
  rw [firstFree, h.eq, List.find?_append, hbusy, Option.none_or]
  cases free with
  | nil => rfl
  | cons i free => simp

theorem firstBusy_eq (h : Layout slots waiting free) :
    firstBusy slots = waiting.head?.map Slot.ofBusy := by
  have hfree : (free.map (Slot.ofFree α)).find? (fun slot => slot.busy) = none := by simp
  rw [firstBusy, h.eq, List.find?_append, hfree, Option.or_none]
  cases waiting with
  | nil => rfl
  | cons p waiting => simp

/-- The busy slots are those that wait. -/
theorem filter_busy (h : Layout slots waiting free) :
    slots.filter (fun slot => slot.busy) = waiting.map Slot.ofBusy := by
  have hbusy : ∀ slot ∈ waiting.map Slot.ofBusy, (slot : Slot ι α).busy = true := by
    intro slot hslot
    obtain ⟨p, -, rfl⟩ := List.mem_map.mp hslot
    rfl
  have hfree : ∀ slot ∈ free.map (Slot.ofFree α), ¬ slot.busy = true := by
    intro slot hslot
    obtain ⟨i, -, rfl⟩ := List.mem_map.mp hslot
    exact Bool.false_ne_true
  rw [h.eq, List.filter_append, List.filter_eq_self.mpr hbusy, List.filter_eq_nil_iff.mpr hfree,
    List.append_nil]

variable [DecidableEq ι]

/-- The first free slot goes to the end of those that wait. -/
theorem fill {i : ι} {rest : List ι} (h : Layout slots waiting (i :: rest)) (x : α) :
    Layout (SlotQueue.fill i x slots) (waiting ++ [(i, x)]) rest := by
  obtain ⟨heq, hnodup⟩ := h
  have hdisjoint := List.disjoint_of_nodup_append hnodup
  have hwaiting : ∀ p ∈ waiting, p.1 ≠ i := fun p hp hi =>
    hdisjoint (List.mem_map_of_mem hp) (hi ▸ List.mem_cons_self)
  have hrest : ∀ j ∈ rest, j ≠ i := fun j hj hi =>
    (List.nodup_cons.mp hnodup.of_append_right).1 (hi ▸ hj)
  refine ⟨?_, by simpa using hnodup⟩
  rw [SlotQueue.fill, heq, List.map_append, List.map_map, List.map_map, List.map_append,
    List.append_assoc]
  congr 1
  · refine List.map_congr_left fun p hp => ?_
    simp [hwaiting p hp]
  · simp only [List.map_cons, List.map_nil, Function.comp_apply, Slot.ofFree_id, if_true,
      List.cons_append, List.nil_append]
    congr 1
    refine List.map_congr_left fun j hj => ?_
    simp [hrest j hj]

/-- The slot that has waited longest goes to the end of the free ones. -/
theorem release {i : ι} {x : α} {rest : List (ι × α)} (h : Layout slots ((i, x) :: rest) free) :
    Layout (SlotQueue.release i slots) rest (free ++ [i]) := by
  obtain ⟨heq, hnodup⟩ := h
  simp only [List.map_cons, List.cons_append] at hnodup
  obtain ⟨hnot, hnodup⟩ := List.nodup_cons.mp hnodup
  rw [List.mem_append, not_or] at hnot
  have hothers : ∀ slot ∈ rest.map Slot.ofBusy ++ free.map (Slot.ofFree α), slot.id ≠ i := by
    intro slot hslot hi
    rcases List.mem_append.mp hslot with hbusy | hfree
    · obtain ⟨p, hp, rfl⟩ := List.mem_map.mp hbusy
      exact hnot.1 (hi ▸ List.mem_map_of_mem hp)
    · obtain ⟨j, hj, rfl⟩ := List.mem_map.mp hfree
      exact hnot.2 (hi ▸ hj)
  refine ⟨?_, ?_⟩
  · rw [SlotQueue.release, heq, List.map_cons, List.cons_append,
      List.filter_cons_of_neg (by simp [Slot.ofBusy]), List.filter_cons_of_pos (by simp [Slot.ofBusy]),
      List.filter_eq_self.mpr (by simpa using hothers),
      List.filter_eq_nil_iff.mpr (by simpa using hothers), List.map_append, List.append_assoc]
    rfl
  · rw [← List.append_assoc]
    exact List.nodup_append'.mpr ⟨hnodup, List.nodup_singleton i,
      List.disjoint_singleton.mpr fun hi => (List.mem_append.mp hi).elim hnot.1 hnot.2⟩

end Layout

end SlotQueue
