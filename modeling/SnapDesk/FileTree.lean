import Mathlib.Logic.Function.Basic
import Mathlib.Data.List.Basic

/-! # Trees of folders and files

A tree gives every location, a list of names from the root, the entry found
there, if any.  A path is walked component by component from some folder:
`stay` and `up` are the components `.` and `..`, and every component is taken
from a location that is a folder, so the last one may name something that does
not exist yet.

`walk_put_file` is the frame rule: writing a file anywhere but in place of a folder changes no
walk, so what a path denotes is settled by the folders alone. -/
namespace FileTree
variable {Name Content : Type*}

inductive Entry (Content : Type*) where
  | folder
  | file (content : Content)
  deriving DecidableEq, Repr

/-- A component of a path. -/
inductive Step (Name : Type*) where
  | stay
  | up
  | down (name : Name)
  deriving DecidableEq, Repr

/-- What is found where. -/
abbrev Tree (Name Content : Type*) := List Name → Option (Entry Content)

def isFolder (t : Tree Name Content) (loc : List Name) : Bool :=
  match t loc with
  | some .folder => true
  | _ => false

/-- The location one component leads to from a folder. -/
def Step.next (loc : List Name) : Step Name → List Name
  | .stay => loc
  | .up => loc.dropLast
  | .down name => loc ++ [name]

/-- The location a path denotes. -/
def walk (t : Tree Name Content) : List Name → List (Step Name) → Option (List Name)
  | loc, [] => some loc
  | loc, s :: steps => if isFolder t loc then walk t (s.next loc) steps else none

theorem isFolder_iff {t : Tree Name Content} {loc : List Name} :
    isFolder t loc = true ↔ t loc = some .folder := by
  unfold isFolder
  split <;> simp_all

theorem walk_append (t : Tree Name Content) (loc : List Name) (p q : List (Step Name)) :
    walk t loc (p ++ q) = (walk t loc p).bind fun loc' => walk t loc' q := by
  induction p generalizing loc with
  | nil => rfl
  | cons s p ih =>
    rw [List.cons_append, walk, walk]
    split
    · exact ih _
    · rfl

/-- Where a walk leads, its components alone tell. -/
theorem walk_eq_foldl {t : Tree Name Content} {loc loc' : List Name} {p : List (Step Name)}
    (h : walk t loc p = some loc') : loc' = p.foldl Step.next loc := by
  induction p generalizing loc with
  | nil => exact (Option.some.inj h).symm
  | cons s p ih =>
    rw [walk] at h
    split at h
    · exact ih h
    · cases h

/-- A walk sees nothing but folders. -/
theorem walk_congr {t t' : Tree Name Content} (h : ∀ loc, isFolder t loc = isFolder t' loc)
    (loc : List Name) (p : List (Step Name)) : walk t loc p = walk t' loc p := by
  induction p generalizing loc with
  | nil => rfl
  | cons s p ih => rw [walk, walk, h, ih]

section Put
variable [DecidableEq Name]

/-- A tree with another entry at one location. -/
def put (t : Tree Name Content) (loc : List Name) (e : Entry Content) : Tree Name Content :=
  Function.update t loc (some e)

@[simp] theorem put_self (t : Tree Name Content) (loc : List Name) (e : Entry Content) :
    put t loc e loc = some e := Function.update_self ..

theorem put_of_ne {t : Tree Name Content} {loc loc' : List Name} (h : loc' ≠ loc)
    (e : Entry Content) : put t loc e loc' = t loc' := Function.update_of_ne h ..

theorem put_put (t : Tree Name Content) (loc : List Name) (e e' : Entry Content) :
    put (put t loc e) loc e' = put t loc e' := Function.update_idem ..

theorem put_comm {loc loc' : List Name} (h : loc ≠ loc') (t : Tree Name Content)
    (e e' : Entry Content) : put (put t loc e) loc' e' = put (put t loc' e') loc e :=
  Function.update_comm h ..

/-- Writing a file does not make, remove or move a folder. -/
theorem isFolder_put_file {t : Tree Name Content} {loc : List Name} (h : isFolder t loc = false)
    (c : Content) (loc' : List Name) : isFolder (put t loc (.file c)) loc' = isFolder t loc' := by
  by_cases he : loc' = loc
  · subst he
    rw [h, isFolder, put_self]
  · rw [isFolder, put_of_ne he, ← isFolder]

/-- **Writing a file changes no walk.** -/
theorem walk_put_file {t : Tree Name Content} {loc : List Name} (h : isFolder t loc = false)
    (c : Content) (start : List Name) (p : List (Step Name)) :
    walk (put t loc (.file c)) start p = walk t start p := by
  induction p generalizing start with
  | nil => rfl
  | cons s p ih => rw [walk, walk, isFolder_put_file h, ih]

/-- Making a folder keeps every path that could be walked before. -/
theorem walk_put_folder {t : Tree Name Content} {loc start l : List Name}
    {p : List (Step Name)} (h : walk t start p = some l) :
    walk (put t loc .folder) start p = some l := by
  induction p generalizing start with
  | nil => exact h
  | cons s p ih =>
    rw [walk] at h ⊢
    split at h
    · rename_i hf
      have hf' : isFolder (put t loc .folder) start = true := by
        by_cases he : start = loc
        · rw [isFolder_iff, he, put_self]
        · rw [isFolder, put_of_ne he, ← isFolder, hf]
      rw [if_pos hf']
      exact ih h
    · cases h

end Put
end FileTree
