import SnapDesk.Communicator

/-! # Paths

What a path built by concatenation denotes.  A path extended by a slash and more
text is walked on from where the path leads (`locate_append`), so a plain name
lies directly in that folder (`locate_child`), and a text with slashes of its own
may lead anywhere.

The folders of a file system, and with them every walk, are the same before and
after a file is written; making folders that are there already changes nothing.
So what the paths of a program denote is settled once its folders are made. -/
namespace SnapDesk
open Delimited FileTree

/-- The components of a path. -/
def pathSteps (path : Str) : List (Step Str) := (fields slash (path ++ [slash])).map pathStep

/-- A name of one component. -/
def IsName (name : Str) : Prop := slash ∉ name ∧ pathStep name = .down name

theorem pathSteps_of_isName {name : Str} (h : IsName name) : pathSteps name = [.down name] := by
  rw [pathSteps, fields_append_sep slash h.1]
  exact congrArg (· :: []) h.2

theorem pathSteps_append (path rest : Str) :
    pathSteps (path ++ slash :: rest) = pathSteps path ++ pathSteps rest := by
  rw [pathSteps, List.append_assoc, List.cons_append, fields_append_closed, List.map_append]
  rfl

/-- A name with a character other than a dot is neither `.` nor `..`. -/
theorem IsName.of_mem {name : Str} (hslash : slash ∉ name) {c : UInt8} (hc : c ∈ name)
    (hdot : c ≠ 46) : IsName name := by
  have hne : name ≠ [] := List.ne_nil_of_mem hc
  have hone : name ≠ lit "." := by
    rintro rfl
    exact hdot (by simpa [lit] using hc)
  have htwo : name ≠ lit ".." := by
    rintro rfl
    exact hdot (by simpa [lit] using hc)
  refine ⟨hslash, ?_⟩
  rw [pathStep, if_neg (by simp [hne, hone]), if_neg htwo]

section Locate
variable {w : World} {path : Str} {loc : List Str}

theorem locate_eq {path : Str} (hne : path ≠ []) (hzero : 0 ∉ path) :
    locate w path = walk w.fs (if path.head? = some slash then [] else w.cwd) (pathSteps path) := by
  simp only [locate, cStr_eq_self hzero]
  rw [if_neg hne, pathSteps]

/-- A relative path. -/
theorem locate_relative {path : Str} (hne : path ≠ []) (hzero : 0 ∉ path)
    (hhead : path.head? ≠ some slash) : locate w path = walk w.fs w.cwd (pathSteps path) := by
  rw [locate_eq hne hzero, if_neg hhead]

/-- **An extended path** is walked on from where the path leads. -/
theorem locate_append (hne : path ≠ []) (hpath : 0 ∉ path) {rest : Str} (hrest : 0 ∉ rest) :
    locate w (path ++ slash :: rest) =
      (locate w path).bind fun loc => walk w.fs loc (pathSteps rest) := by
  have hzero : 0 ∉ path ++ slash :: rest := by
    simp only [List.mem_append, List.mem_cons, not_or]
    exact ⟨hpath, by decide, hrest⟩
  have hhead : (path ++ slash :: rest).head? = path.head? := by
    obtain ⟨c, path, rfl⟩ := List.exists_cons_of_ne_nil hne
    rfl
  rw [locate_eq (by simp) hzero, locate_eq hne hpath, pathSteps_append, hhead, walk_append]

/-- **A plain name** lies directly in the folder. -/
theorem locate_child (hne : path ≠ []) (hpath : 0 ∉ path) (hloc : locate w path = some loc)
    (hfolder : w.fs loc = some .folder) {name : Str} (hname : IsName name) (hzero : 0 ∉ name) :
    locate w (path ++ slash :: name) = some (loc ++ [name]) := by
  rw [locate_append hne hpath hzero, hloc, Option.bind_some, pathSteps_of_isName hname, walk,
    if_pos (isFolder_iff.mpr hfolder)]
  rfl

/-- **An extension stays at the end**: where the path leads ends in the last name of
the path with the extension behind it. -/
theorem locate_extension (hpath : 0 ∉ path) :
    ∃ name : Str, ∀ {extension : Str} {loc : List Str} {c : UInt8},
    0 ∉ extension → slash ∉ extension → c ∈ extension → c ≠ 46 →
      locate w (path ++ extension) = some loc → loc.getLast? = some (name ++ extension) := by
  obtain ⟨folders, name, hfolders, hname, rfl⟩ := exists_terminate_append slash path
  refine ⟨name, fun {extension loc c} hzero hslash hc hdot h => ?_⟩
  have hisName : IsName (name ++ extension) :=
    .of_mem (by simp [hname, hslash]) (List.mem_append_right name hc) hdot
  have hsteps : pathSteps (terminate slash folders ++ name ++ extension) =
      folders.map pathStep ++ [.down (name ++ extension)] := by
    rw [← pathSteps_of_isName hisName, pathSteps, pathSteps, List.append_assoc, List.append_assoc,
      fields_terminate_append slash hfolders, List.map_append, ← List.append_assoc name]
  have hne : terminate slash folders ++ name ++ extension ≠ [] :=
    List.ne_nil_of_mem (List.mem_append_right _ hc)
  have hpathZero : 0 ∉ terminate slash folders ++ name ++ extension := fun hmem =>
    (List.mem_append.mp hmem).elim hpath hzero
  rw [locate_eq hne hpathZero, hsteps, walk_append] at h
  obtain ⟨folder, -, hlast⟩ := Option.bind_eq_some_iff.mp h
  rw [walk] at hlast
  split at hlast
  · cases hlast
    exact List.getLast?_concat
  · cases hlast

end Locate

/-! ### Making folders -/

/-- The world with a folder at a location. -/
def makeFolder (loc : List Str) (w : World) : World := { w with fs := put w.fs loc .folder }

@[simp] theorem makeFolder_fs (loc : List Str) (w : World) :
    (makeFolder loc w).fs = put w.fs loc .folder := rfl

@[simp] theorem makeFolder_cwd (loc : List Str) (w : World) : (makeFolder loc w).cwd = w.cwd := rfl

@[simp] theorem makeFolder_commands (loc : List Str) (w : World) :
    (makeFolder loc w).commands = w.commands := rfl

section MakeFolder
variable {w : World} {path : Str} {loc : List Str}

theorem makeFolder_of_folder (h : w.fs loc = some .folder) : makeFolder loc w = w := by
  rw [makeFolder, put, ← h, Function.update_eq_self]

theorem locate_makeFolder {l : List Str} (h : locate w path = some l) (loc : List Str) :
    locate (makeFolder loc w) path = some l := by
  simp only [locate] at h ⊢
  split at h
  · cases h
  · rw [if_neg (by assumption)]
    exact walk_put_folder h

/-- Where no file is, the folder is there afterwards. -/
theorem createFolder_run (h : locate w path = some loc)
    (hfile : ∀ content, w.fs loc ≠ some (.file content)) :
    (Communicator.createFolder path).run w = .ok () (makeFolder loc w) := by
  match hentry : w.fs loc with
  | none => exact Communicator.createFolder_run_of_none h hentry
  | some .folder =>
    rw [Communicator.createFolder_run_of_folder h hentry, makeFolder_of_folder hentry]
  | some (.file content) => exact absurd hentry (hfile content)

end MakeFolder

end SnapDesk
