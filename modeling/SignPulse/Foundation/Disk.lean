import SignPulse.Foundation.Dict
import Mathlib.Data.List.Dedup
import Mathlib.Data.List.Infix

/-!
# A disk

Files by their paths, with the directories that have been made.  A directory is also there if
something is in it.  Whatever an operation does, it does to all that is at or below one path.
-/

namespace SignPulse.Foundation

/-- The names from the root. -/
abbrev Path := List String

structure Disk (γ : Type) where
  files : Dict Path γ := []
  dirs : List Path := []

namespace Disk

variable {γ : Type}

def fileAt (disk : Disk γ) (path : Path) : Option γ :=
  disk.files.getItem path

/-- The files, and the directories that have been made. -/
def keys (disk : Disk γ) : List Path :=
  disk.files.keyList ++ disk.dirs

/-- Everything that is there, each path once. -/
def paths (disk : Disk γ) : List Path :=
  (disk.keys.flatMap List.inits).dedup

def existsAt (disk : Disk γ) (path : Path) : Bool :=
  path ∈ disk.paths

def isDir (disk : Disk γ) (path : Path) : Bool :=
  path ∈ disk.dirs ∨ ∃ other ∈ disk.paths, path <+: other ∧ path ≠ other

def removeFile (disk : Disk γ) (path : Path) : Disk γ :=
  { disk with files := disk.files.popItem path }

def write (disk : Disk γ) (path : Path) (content : γ) : Disk γ :=
  { disk with files := disk.files.setItem path content }

/-! ## What is there -/

section Lookups

variable {disk : Disk γ} {path other : Path} {content : γ}

theorem existsAt_iff : disk.existsAt path = true ↔ ∃ key ∈ disk.keys, path <+: key := by
  rw [existsAt, paths, decide_eq_true_iff, List.mem_dedup, List.mem_flatMap]
  simp only [List.mem_inits]

theorem mem_paths : path ∈ disk.paths ↔ disk.existsAt path = true := by
  unfold existsAt
  exact decide_eq_true_iff.symm

theorem existsAt_of_fileAt (hfile : disk.fileAt path = some content) :
    disk.existsAt path = true := by
  have hkey := Dict.mem_keyList_of_getItem hfile
  exact existsAt_iff.mpr ⟨path, List.mem_append_left _ hkey, List.prefix_refl path⟩

theorem fileAt_of_not_existsAt (habsent : disk.existsAt path = false) :
    disk.fileAt path = none := by
  cases hfile : disk.fileAt path with
  | none => rfl
  | some content =>
    rw [existsAt_of_fileAt hfile] at habsent
    cases habsent

/-! ## Files after the operations -/

theorem fileAt_removeFile :
    (disk.removeFile path).fileAt other = if other = path then none else disk.fileAt other := by
  unfold fileAt removeFile
  split
  · next heq =>
    rw [heq]
    exact Dict.getItem_popItem_self _ _
  · next hne => exact Dict.getItem_popItem_of_ne _ hne

theorem fileAt_write : (disk.write path content).fileAt other =
      if other = path then some content else disk.fileAt other := by
  unfold fileAt write
  split
  · next heq =>
    rw [heq]
    exact Dict.getItem_setItem_self _ _ _
  · next hne => exact Dict.getItem_setItem_of_ne _ _ hne

/-! ## What is there after the operations -/

variable {key : Path}

theorem mem_keys_write : key ∈ (disk.write path content).keys ↔ key = path ∨ key ∈ disk.keys := by
  unfold keys write
  rw [List.mem_append, Dict.mem_keyList_setItem, or_assoc, List.mem_append]

theorem existsAt_write : (disk.write path content).existsAt other = true ↔
    other <+: path ∨ disk.existsAt other = true := by
  rw [existsAt_iff, existsAt_iff]
  simp only [mem_keys_write, or_and_right, exists_or, exists_eq_left]

/-! ## Where no directory is -/

theorem isDir_eq_false_iff :
    disk.isDir path = false ↔ path ∉ disk.dirs ∧ ∀ key ∈ disk.keys, path <+: key → path = key := by
  rw [isDir, decide_eq_false_iff_not, not_or]
  refine and_congr_right fun _ => ⟨fun hnone key hkey hstarts => ?_, ?_⟩
  · by_contra hne
    have hthere : disk.existsAt key = true := existsAt_iff.mpr ⟨key, hkey, List.prefix_refl key⟩
    exact hnone ⟨key, mem_paths.mpr hthere, hstarts, hne⟩
  · rintro hall ⟨other, hother, hstarts, hne⟩
    obtain ⟨key, hkey, hbelow⟩ := existsAt_iff.mp (mem_paths.mp hother)
    obtain rfl := hall key hkey (hstarts.trans hbelow)
    exact hne (hstarts.eq_of_length_le hbelow.length_le)

theorem existsAt_eq_isSome (hdir : disk.isDir path = false) :
    disk.existsAt path = (disk.fileAt path).isSome := by
  obtain ⟨hdirs, hkeys⟩ := isDir_eq_false_iff.mp hdir
  apply Bool.eq_iff_iff.mpr
  constructor
  · intro hexists
    obtain ⟨key, hkey, hstarts⟩ := existsAt_iff.mp hexists
    obtain rfl := hkeys key hkey hstarts
    rcases List.mem_append.mp hkey with hfile | hmade
    · obtain ⟨content, hcontent⟩ := Dict.exists_getItem_of_mem_keyList hfile
      exact Option.isSome_of_eq_some hcontent
    · exact absurd hmade hdirs
  · intro hfile
    obtain ⟨content, hcontent⟩ := Option.isSome_iff_exists.mp hfile
    exact existsAt_of_fileAt hcontent

theorem isDir_write (hlength : path.length = other.length) (hdir : disk.isDir other = false) :
    (disk.write path content).isDir other = false := by
  obtain ⟨hdirs, hkeys⟩ := isDir_eq_false_iff.mp hdir
  refine isDir_eq_false_iff.mpr ⟨hdirs, fun key hkey hstarts => ?_⟩
  rcases mem_keys_write.mp hkey with rfl | hold
  · exact hstarts.eq_of_length hlength.symm
  · exact hkeys key hold hstarts

theorem isDir_removeFile (hdir : disk.isDir other = false) :
    (disk.removeFile path).isDir other = false := by
  obtain ⟨hdirs, hkeys⟩ := isDir_eq_false_iff.mp hdir
  refine isDir_eq_false_iff.mpr ⟨hdirs, fun key hkey hstarts => hkeys key ?_ hstarts⟩
  rcases List.mem_append.mp hkey with hfile | hmade
  · exact List.mem_append_left _ (Dict.mem_keyList_popItem.mp hfile).1
  · exact List.mem_append_right _ hmade

end Lookups

end Disk

end SignPulse.Foundation
