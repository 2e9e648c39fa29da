import SnapDesk.Database

/-! # The files of two networks

The SSID element of a beacon becomes the name of two files: `char_string` drops
its zero bytes, and the constructor of `Database` puts a slash before what is left
and an extension behind it.  A slash of the code file's name is replaced, one of
the SSID is not.  So two networks have files of their own, directly in the folder
of the code, exactly if their SSIDs contain no slash and differ in more than zero
bytes (`ownFiles_iff`). -/
namespace SnapDesk
open Delimited FileTree BigNumber

/-- The path of something directly in a folder. -/
def DirectChild (folder path : Str) : Prop :=
  ∃ name, IsName name ∧ path = folder ++ slash :: name

/-- What lies directly in a folder lies there in every world. -/
theorem DirectChild.locate {w : World} {folder path : Str} {loc : List Str}
    (h : DirectChild folder path) (hne : folder ≠ []) (hzero : 0 ∉ path)
    (hloc : SnapDesk.locate w folder = some loc) (hfolder : w.fs loc = some .folder) :
    ∃ name, path = folder ++ slash :: name ∧ SnapDesk.locate w path = some (loc ++ [name]) := by
  obtain ⟨name, hname, rfl⟩ := h
  simp only [List.mem_append, List.mem_cons, not_or] at hzero
  exact ⟨name, rfl, locate_child hne hzero.1 hloc hfolder hname hzero.2.2⟩

namespace Database

theorem dataExtention_plain : slash ∉ dataExtention ∧ 0 ∉ dataExtention := by decide

theorem metadataExtention_plain : slash ∉ metadataExtention ∧ 0 ∉ metadataExtention := by decide

theorem extention_plain {extention : Str}
    (hext : extention = dataExtention ∨ extention = metadataExtention) :
    slash ∉ extention ∧ 0 ∉ extention := by
  rcases hext with rfl | rfl
  · exact dataExtention_plain
  · exact metadataExtention_plain

/-- A name with one of the two extensions. -/
theorem isName_extended {ssid extention : Str} (hssid : slash ∉ ssid)
    (hext : extention = dataExtention ∨ extention = metadataExtention) :
    IsName (ssid ++ extention) := by
  rcases hext with rfl | rfl
  · exact IsName.of_mem (c := 118) (by simpa [hssid] using dataExtention_plain.1)
      (List.mem_append_right _ (by decide)) (by decide)
  · exact IsName.of_mem (c := 109) (by simpa [hssid] using metadataExtention_plain.1)
      (List.mem_append_right _ (by decide)) (by decide)

/-- A data file is never a metadata file. -/
theorem extended_ne (a b : Str) : a ++ dataExtention ≠ b ++ metadataExtention := by
  intro h
  have hlast := congrArg List.getLast? h
  rw [List.getLast?_append_of_ne_nil _ (by decide), List.getLast?_append_of_ne_nil _ (by decide)]
    at hlast
  exact absurd hlast (by decide)

section
variable (digest : Str → Vector UInt8 32) (codeFileName code : Str)

/-- The paths of the data and of the metadata file that a network's database has. -/
def openedPaths (value : List UInt8) : Except Failure (List Str) := do
  let ssid ← (ofVector value).charString
  let fileName := destinationFileName digest codeFileName code ssid
  return [fileName ++ dataExtention, fileName ++ metadataExtention]

/-- The object that is returned has the files of the name it was opened with. -/
theorem csv_new_files {fileName : Str} {w w' : World} {csv : Csv}
    (h : (Csv.new fileName).run w = .ok csv w') :
    csv.data = fileName ++ dataExtention ∧ csv.metadata = fileName ++ metadataExtention := by
  rw [Csv.new, Method.run_bind_ok (Communicator.exist_run w _)] at h
  split at h
  · cases h
  · rw [Method.run_bind_ok (Communicator.exist_run w _)] at h
    split at h
    · cases h
    · obtain ⟨line, w₁, -, h⟩ := Method.run_bind_eq_ok h
      obtain ⟨columns, w₂, -, h⟩ := Method.run_bind_eq_ok h
      obtain ⟨line', w₃, -, h⟩ := Method.run_bind_eq_ok h
      obtain ⟨key, w₄, -, h⟩ := Method.run_bind_eq_ok h
      cases h
      exact ⟨rfl, rfl⟩

theorem openCsv_files {fileName : Str} {w w' : World} {csv : Csv}
    (h : (openCsv fileName).run w = .ok csv w') :
    csv.data = fileName ++ dataExtention ∧ csv.metadata = fileName ++ metadataExtention := by
  rw [openCsv, Method.run_bind_ok (Communicator.exist_run w _)] at h
  split at h
  · exact csv_new_files h
  · obtain ⟨_, _, -, h⟩ := Method.run_bind_eq_ok h
    obtain ⟨_, _, -, h⟩ := Method.run_bind_eq_ok h
    obtain ⟨_, _, -, h⟩ := Method.run_bind_eq_ok h
    obtain ⟨_, _, -, h⟩ := Method.run_bind_eq_ok h
    obtain ⟨_, _, -, h⟩ := Method.run_bind_eq_ok h
    exact csv_new_files h

/-- **The paths are those of the constructor**: a database that has been opened for
an SSID has these two files, for the code that the constructor has read. -/
theorem new_files {value : List UInt8} {ssid : Str} {w w' : World} {database : Database}
    (hssid : (ofVector value).charString = .ok ssid)
    (h : (new digest ssid codeFileName).run w = .ok database w') :
    ∃ code, openedPaths digest codeFileName code value =
      .ok [database.csv.data, database.csv.metadata] := by
  obtain ⟨_, w₁, -, h⟩ := Method.run_bind_eq_ok h
  rw [Method.run_bind_ok (readCode_run w₁ codeFileName)] at h
  obtain ⟨_, w₂, -, h⟩ := Method.run_bind_eq_ok h
  obtain ⟨csv, w₃, hcsv, h⟩ := Method.run_bind_eq_ok h
  cases h
  obtain ⟨hdata, hmetadata⟩ := openCsv_files hcsv
  refine ⟨codeOf w₁ codeFileName, ?_⟩
  rw [openedPaths, hssid, hdata, hmetadata]
  rfl

/-- **Files of their own**: four different files, directly in the folder of the code. -/
structure OwnFiles (value₁ value₂ : List UInt8) : Prop where
  paths : ∃ paths₁ paths₂, openedPaths digest codeFileName code value₁ = .ok paths₁ ∧
    openedPaths digest codeFileName code value₂ = .ok paths₂ ∧
    (paths₁ ++ paths₂).Nodup ∧
    ∀ path ∈ paths₁ ++ paths₂, DirectChild (hashFolder digest codeFileName code) path

variable {digest codeFileName code}

theorem openedPaths_eq (value : List UInt8) :
    openedPaths digest codeFileName code value =
      .ok [hashFolder digest codeFileName code ++ slash :: (value.filter (· ≠ 0) ++ dataExtention),
        hashFolder digest codeFileName code ++ slash :: (value.filter (· ≠ 0) ++ metadataExtention)] := by
  have hpath (ssid extention : Str) :
      destinationFileName digest codeFileName code ssid ++ extention =
      hashFolder digest codeFileName code ++ slash :: (ssid ++ extention) := by
    rw [destinationFileName, List.append_assoc, List.append_assoc]
    rfl
  rw [openedPaths, charString_eq rfl, ok_bind]
  exact congrArg Except.ok (by rw [hpath, hpath]; rfl)

/-- Directly in the folder is what has no slash. -/
theorem directChild_iff (folder name : Str) :
    DirectChild folder (folder ++ slash :: name) ↔ IsName name := by
  constructor
  · rintro ⟨name', hname', he⟩
    have : name = name' := by simpa using List.append_cancel_left he
    exact this ▸ hname'
  · exact fun h => ⟨name, h, rfl⟩

theorem isName_filter_iff {value extention : Str}
    (hext : extention = dataExtention ∨ extention = metadataExtention) :
    IsName (value.filter (· ≠ 0) ++ extention) ↔ slash ∉ value := by
  have hfilter : slash ∈ value.filter (· ≠ 0) ↔ slash ∈ value := by
    rw [List.mem_filter]
    exact and_iff_left (by decide)
  constructor
  · exact fun h hmem => h.1 (List.mem_append_left _ (hfilter.mpr hmem))
  · exact fun h => isName_extended (fun hmem => h (hfilter.mp hmem)) hext

theorem OwnFiles.filter_ne {value₁ value₂ : List UInt8}
    (h : OwnFiles digest codeFileName code value₁ value₂) :
    value₁.filter (· ≠ 0) ≠ value₂.filter (· ≠ 0) := by
  obtain ⟨paths₁, paths₂, h₁, h₂, hnodup, -⟩ := h
  intro he
  rw [openedPaths_eq] at h₁ h₂
  cases h₁
  cases h₂
  rw [he] at hnodup
  exact absurd hnodup (by simp)

/-- **Two networks have files of their own** exactly if their SSIDs contain no
slash and differ in more than zero bytes. -/
theorem ownFiles_iff (value₁ value₂ : List UInt8) :
    OwnFiles digest codeFileName code value₁ value₂ ↔
      slash ∉ value₁ ∧ slash ∉ value₂ ∧ value₁.filter (· ≠ 0) ≠ value₂.filter (· ≠ 0) := by
  constructor
  · intro h
    obtain ⟨paths₁, paths₂, h₁, h₂, -, hchild⟩ := h.paths
    rw [openedPaths_eq] at h₁ h₂
    cases h₁
    cases h₂
    refine ⟨?_, ?_, h.filter_ne⟩
    · have := hchild _ List.mem_cons_self
      rwa [directChild_iff, isName_filter_iff (.inl rfl)] at this
    · have := hchild _ (List.mem_append_right _ List.mem_cons_self)
      rwa [directChild_iff, isName_filter_iff (.inl rfl)] at this
  · rintro ⟨hslash₁, hslash₂, hne⟩
    refine ⟨_, _, openedPaths_eq value₁, openedPaths_eq value₂, ?_, ?_⟩
    · -- two paths with one extention differ in the SSID, two of one SSID in the extention
      have hsame (extention : Str) :
          value₁.filter (· ≠ 0) ++ extention ≠ value₂.filter (· ≠ 0) ++ extention :=
        fun he => hne (List.append_cancel_right he)
      have hother := extended_ne
      simp only [List.cons_append, List.nil_append, List.nodup_cons, List.mem_cons,
        List.not_mem_nil, or_false, not_or, List.append_cancel_left_eq, List.cons.injEq, true_and,
        List.nodup_nil, not_false_eq_true, and_true]
      exact ⟨⟨hother [] [], hsame _, hother _ _⟩, ⟨(hother _ _).symm, hsame _⟩, hother [] []⟩
    · intro path hpath
      simp only [List.cons_append, List.nil_append, List.mem_cons, List.not_mem_nil, or_false]
        at hpath
      rcases hpath with rfl | rfl | rfl | rfl <;> rw [directChild_iff]
      · exact (isName_filter_iff (.inl rfl)).mpr hslash₁
      · exact (isName_filter_iff (.inr rfl)).mpr hslash₁
      · exact (isName_filter_iff (.inl rfl)).mpr hslash₂
      · exact (isName_filter_iff (.inr rfl)).mpr hslash₂

/-- Two hidden networks, whose SSIDs are zero bytes, share their files. -/
theorem not_ownFiles_hidden :
    ¬ ∀ (digest : Str → Vector UInt8 32) (codeFileName code value₁ value₂ : Str),
      value₁ ≠ value₂ → 1 ≤ value₁.length → value₁.length ≤ 255 → 1 ≤ value₂.length →
      value₂.length ≤ 255 → OwnFiles digest codeFileName code value₁ value₂ := by
  intro h
  have hhidden := h (fun _ => Vector.replicate 32 0) (lit "snappy.txt") [] [0] [0, 0]
    (by decide) (by decide) (by decide) (by decide) (by decide)
  exact hhidden.filter_ne rfl

end
end Database
end SnapDesk
