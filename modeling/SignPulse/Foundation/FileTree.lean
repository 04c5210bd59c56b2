import Mathlib.Data.List.Perm.Subperm
import SignPulse.Foundation.Bytes
import SignPulse.Foundation.Disk
import SignPulse.Foundation.Raising

/-!
# Files behind symbolic links

A path is looked up name by name, and the links on its way are followed.  What a program does with
a path therefore need not happen at that path.  Where no link is on the way, it does.
-/

namespace SignPulse.Foundation

inductive TreeEntry where
  | dir
  | file (content : Bytes)
  | link (text : String)
  | special
  deriving DecidableEq

inductive FileError where
  | notFound
  | notADirectory
  | fileExists
  | isADirectory
  | tooManyLinks
  | symlinkLoop
  deriving DecidableEq

/-- What is at the paths below the root. -/
abbrev FileTree := Dict Path TreeEntry

def pathNames (text : String) : List String :=
  ((text.toList.splitOn '/').map String.ofList).filter fun name => name ≠ "" ∧ name ≠ "."

/-- `os.path.normpath`, for the names from the root. -/
def normalize (names : List String) : Path :=
  names.foldl (fun path name => if name = ".." then path.dropLast else path ++ [name]) []

namespace FileTree

def entryAt (tree : FileTree) (path : Path) : Option TreeEntry :=
  if path = [] then some .dir else tree.getItem path

def linkAt (tree : FileTree) (path : Path) : Option String :=
  match tree.entryAt path with
  | some (.link text) => some text
  | _ => none

/-- Where the text of a link is looked up that is in the directory `path`. -/
def linkStart (text : String) (path : Path) : Path :=
  if text.toList.head? = some '/' then [] else path

/-! ## Lookups of the system -/

/-- The place of a path.  Every name but the last one must be there, and `onLink` looks up the rest
of the path when there is a link. -/
def followWith (tree : FileTree) (onLink : Path → List String → Except FileError Path) :
    Path → List String → Except FileError Path
  | path, [] => .ok path
  | path, name :: rest =>
    match tree.entryAt path with
    | none => .error .notFound
    | some .dir =>
      if name = ".." then followWith tree onLink path.dropLast rest
      else
        match tree.linkAt (path ++ [name]) with
        | some text => onLink (linkStart text path) (pathNames text ++ rest)
        | none => followWith tree onLink (path ++ [name]) rest
    | some _ => .error .notADirectory

def follow (tree : FileTree) : ℕ → Path → List String → Except FileError Path
  | 0 => followWith tree fun _ _ => .error .tooManyLinks
  | links + 1 => followWith tree (follow tree links)

/-- The system follows forty links. -/
def locate (tree : FileTree) (path : List String) : Except FileError Path :=
  tree.follow 40 [] path

/-- `path.is_dir()` -/
def isDir (tree : FileTree) (path : Path) : Bool :=
  match tree.locate path with
  | .ok place => tree.entryAt place == some .dir
  | .error _ => false

/-! ## `os.path.realpath` -/

/-- `_joinrealpath`, which tells whether it has resolved all links.  The links in `pending` are
being resolved.  What has been resolved is not remembered, for it resolves to the same again. -/
def joinWith (tree : FileTree) (pending : List Path)
    (onLink : List Path → Path → List String → Path × Bool) : Path → List String → Path × Bool
  | path, [] => (path, true)
  | path, name :: rest =>
    if name = ".." then joinWith tree pending onLink path.dropLast rest
    else
      match tree.linkAt (path ++ [name]) with
      | none => joinWith tree pending onLink (path ++ [name]) rest
      | some text =>
        if path ++ [name] ∈ pending then (path ++ name :: rest, false)
        else
          let reached := onLink ((path ++ [name]) :: pending) (linkStart text path) (pathNames text)
          if reached.2 then joinWith tree pending onLink reached.1 rest
          else (reached.1 ++ rest, false)

/-- Links are resolved within each other at most as often as there are links, for each is pending
only once. -/
def joinRealpath (tree : FileTree) : ℕ → List Path → Path → List String → Path × Bool
  | 0, pending => joinWith tree pending fun _ path names => (path ++ names, false)
  | depth + 1, pending => joinWith tree pending (joinRealpath tree depth)

def realpath (tree : FileTree) (path : List String) : Path :=
  normalize (tree.joinRealpath tree.length [] [] path).1

/-- `path.resolve()`: a loop is found when the result is looked up. -/
def resolve (tree : FileTree) (path : List String) : Except FileError Path :=
  if tree.locate (tree.realpath path) = .error .tooManyLinks then .error .symlinkLoop
  else .ok (tree.realpath path)

/-! ## Paths without links -/

/-- No name of the path goes up, and no link is on its way. -/
structure Plain (tree : FileTree) (path : Path) : Prop where
  noDots : ".." ∉ path
  noLinks : ∀ above, above <+: path → tree.linkAt above = none

variable {tree other : FileTree} {path place above : Path} {names : List String}

theorem linkAt_root : tree.linkAt [] = none := by
  simp [linkAt, entryAt]

theorem Plain.root : tree.Plain [] where
  noDots := List.not_mem_nil
  noLinks := by
    intro above habove
    rw [List.prefix_nil.mp habove]
    exact linkAt_root

theorem Plain.of_prefix (hplain : tree.Plain path) (habove : above <+: path) :
    tree.Plain above where
  noDots hmem := hplain.noDots (habove.subset hmem)
  noLinks _ hstarts := hplain.noLinks _ (hstarts.trans habove)

theorem Plain.below {name : String} (hplain : tree.Plain path) (hname : name ≠ "..")
    (hlink : tree.linkAt (path ++ [name]) = none) : tree.Plain (path ++ [name]) where
  noDots hmem := by
    rcases List.mem_append.mp hmem with hold | hnew
    · exact hplain.noDots hold
    · exact hname (List.mem_singleton.mp hnew).symm
  noLinks above habove := by
    rcases List.prefix_concat_iff.mp habove with rfl | hstarts
    · exact hlink
    · exact hplain.noLinks above hstarts

theorem not_mem_normalize : ".." ∉ normalize names := by
  have hfold : ∀ path : Path, ".." ∉ path → ".." ∉ names.foldl
        (fun path name => if name = ".." then path.dropLast else path ++ [name]) path := by
    induction names with
    | nil => exact fun _ hpath => hpath
    | cons name rest ih =>
      intro path hpath
      rw [List.foldl_cons]
      apply ih
      split
      · exact fun hmem => hpath (List.dropLast_subset path hmem)
      · next hname =>
        intro hmem
        rcases List.mem_append.mp hmem with hold | hnew
        · exact hpath hold
        · exact hname (List.mem_singleton.mp hnew).symm
  exact hfold [] List.not_mem_nil

theorem normalize_of_noDots (hdots : ".." ∉ names) : normalize names = names := by
  have hfold : ∀ path : Path,
      names.foldl (fun path name => if name = ".." then path.dropLast else path ++ [name]) path =
        path ++ names := by
    induction names with
    | nil => exact fun path => (List.append_nil path).symm
    | cons name rest ih =>
      intro path
      have hname : name ≠ ".." := by
        rintro rfl
        exact hdots List.mem_cons_self
      have hrest : ".." ∉ rest := fun hmem => hdots (List.mem_cons_of_mem _ hmem)
      rw [List.foldl_cons, if_neg hname, ih hrest, List.append_assoc]
      rfl
  exact hfold []

theorem eq_of_followWith {onLink : Path → List String → Except FileError Path}
    (hplain : tree.Plain (path ++ names))
    (hfollow : followWith tree onLink path names = .ok place) : place = path ++ names := by
  induction names generalizing path with
  | nil =>
    rw [List.append_nil]
    exact (Except.ok.inj hfollow).symm
  | cons name rest ih =>
    have hassoc : path ++ name :: rest = path ++ [name] ++ rest := by
      rw [List.append_assoc]
      rfl
    have hname : name ≠ ".." := by
      rintro rfl
      exact hplain.noDots (List.mem_append_right _ List.mem_cons_self)
    have hlink : tree.linkAt (path ++ [name]) = none := by
      apply hplain.noLinks
      rw [hassoc]
      exact List.prefix_append _ _
    unfold followWith at hfollow
    split at hfollow
    · cases hfollow
    · rw [if_neg hname, hlink] at hfollow
      rw [hassoc] at hplain ⊢
      exact ih hplain hfollow
    · cases hfollow

theorem eq_of_locate (hplain : tree.Plain path) (hlocate : tree.locate path = .ok place) :
    place = path :=
  eq_of_followWith hplain hlocate

/-! ## Resolved paths -/

theorem plain_linkStart {text : String} (hplain : tree.Plain path) :
    tree.Plain (linkStart text path) := by
  unfold linkStart
  split
  · exact .root
  · exact hplain

variable {pending : List Path}

theorem joinWith_cons (onLink : List Path → Path → List String → Path × Bool) (name : String)
    (rest : List String) : joinWith tree pending onLink path (name :: rest) =
      if name = ".." then joinWith tree pending onLink path.dropLast rest
      else
        match tree.linkAt (path ++ [name]) with
        | none => joinWith tree pending onLink (path ++ [name]) rest
        | some text =>
          if path ++ [name] ∈ pending then (path ++ name :: rest, false)
          else
            let reached := onLink ((path ++ [name]) :: pending) (linkStart text path)
              (pathNames text)
            if reached.2 then joinWith tree pending onLink reached.1 rest
            else (reached.1 ++ rest, false) := rfl

theorem plain_joinWith {onLink : List Path → Path → List String → Path × Bool}
    (honLink : ∀ pending path names, tree.Plain path → (onLink pending path names).2 = true →
      tree.Plain (onLink pending path names).1) (hplain : tree.Plain path)
    (hresolved : (joinWith tree pending onLink path names).2 = true) :
    tree.Plain (joinWith tree pending onLink path names).1 := by
  induction names generalizing path with
  | nil => exact hplain
  | cons name rest ih =>
    rw [joinWith_cons] at hresolved ⊢
    split at hresolved
    · next hname =>
      rw [if_pos hname]
      exact ih (hplain.of_prefix (List.dropLast_prefix path)) hresolved
    · next hname =>
      rw [if_neg hname]
      cases hlink : tree.linkAt (path ++ [name]) with
      | none =>
        rw [hlink] at hresolved
        exact ih (hplain.below hname hlink) hresolved
      | some text =>
        rw [hlink] at hresolved
        dsimp only at hresolved ⊢
        split at hresolved
        · cases hresolved
        · next hpending =>
          rw [if_neg hpending]
          have hreached := honLink ((path ++ [name]) :: pending) (linkStart text path)
            (pathNames text) (plain_linkStart hplain)
          split at hresolved
          · next hnested =>
            rw [if_pos hnested]
            exact ih (hreached hnested) hresolved
          · cases hresolved

/-- No link is on the way of a path whose links have all been resolved. -/
theorem plain_joinRealpath {depth : ℕ} (hplain : tree.Plain path)
    (hresolved : (tree.joinRealpath depth pending path names).2 = true) :
    tree.Plain (tree.joinRealpath depth pending path names).1 := by
  induction depth generalizing pending path names with
  | zero =>
    refine plain_joinWith ?_ hplain hresolved
    intro pending path names _ hfalse
    cases hfalse
  | succ depth ih => exact plain_joinWith (fun _ _ _ => ih) hplain hresolved

/-- All links are resolved on the way of any path. -/
def Loopless (tree : FileTree) : Prop :=
  ∀ names, (tree.joinRealpath tree.length [] [] names).2 = true

theorem Loopless.plain_realpath (hloops : tree.Loopless) (names : List String) :
    tree.Plain (tree.realpath names) := by
  have hplain := plain_joinRealpath .root (hloops names)
  rw [realpath, normalize_of_noDots hplain.noDots]
  exact hplain

/-! ## Trees with the same links -/

theorem joinWith_congr {onLink others : List Path → Path → List String → Path × Bool}
    (hlinks : ∀ path, tree.linkAt path = other.linkAt path)
    (honLink : ∀ place text, tree.linkAt place = some text → place ∉ pending → ∀ path names,
      onLink (place :: pending) path names = others (place :: pending) path names) :
    joinWith tree pending onLink path names = joinWith other pending others path names := by
  induction names generalizing path with
  | nil => rfl
  | cons name rest ih =>
    rw [joinWith_cons, joinWith_cons, ← hlinks]
    split
    · exact ih
    · cases hlink : tree.linkAt (path ++ [name]) with
      | none => exact ih
      | some text =>
        dsimp only
        split
        · rfl
        · next hpending =>
          rw [honLink _ text hlink hpending]
          split
          · exact ih
          · rfl

theorem mem_keyList_of_linkAt {text : String} (hlink : tree.linkAt path = some text) :
    path ∈ Dict.keyList tree := by
  unfold linkAt entryAt at hlink
  split at hlink
  · next entry hentry =>
    split at hentry
    · cases hentry
    · exact Dict.mem_keyList_of_getItem hentry
  · cases hlink

/-- Links that are being resolved are some of the paths. -/
structure Pending (tree : FileTree) (pending : List Path) : Prop where
  nodup : pending.Nodup
  subset : pending ⊆ Dict.keyList tree

theorem Pending.cons {pending : List Path} {text : String} (hpending : tree.Pending pending)
    (hlink : tree.linkAt place = some text) (hnew : place ∉ pending) :
    tree.Pending (place :: pending) where
  nodup := List.nodup_cons.mpr ⟨hnew, hpending.nodup⟩
  subset := List.cons_subset.mpr ⟨mem_keyList_of_linkAt hlink, hpending.subset⟩

theorem Pending.length_le (hpending : tree.Pending pending) : pending.length ≤ tree.length :=
  calc
    pending.length ≤ (Dict.keyList tree).length :=
      (hpending.nodup.subperm hpending.subset).length_le
    _ = tree.length := List.length_map _

theorem joinRealpath_congr {depth deeper : ℕ} {pending : List Path}
    (hlinks : ∀ path, tree.linkAt path = other.linkAt path) (hpending : tree.Pending pending)
    (hdepth : tree.length ≤ pending.length + depth)
    (hdeeper : tree.length ≤ pending.length + deeper) :
    tree.joinRealpath depth pending path names = other.joinRealpath deeper pending path names := by
  have hroom : ∀ place text, tree.linkAt place = some text → place ∉ pending →
      pending.length + 1 ≤ tree.length :=
    fun _ _ hlink hnew => (hpending.cons hlink hnew).length_le
  induction depth generalizing deeper pending path names with
  | zero =>
    have hnone : ∀ place text, tree.linkAt place = some text → place ∉ pending → False := by
      intro place text hlink hnew
      have := hroom place text hlink hnew
      omega
    cases deeper with
    | zero => exact joinWith_congr hlinks fun _ _ _ _ _ _ => rfl
    | succ deeper =>
      exact joinWith_congr hlinks fun place text hlink hnew =>
        (hnone place text hlink hnew).elim
  | succ depth ih =>
    cases deeper with
    | zero =>
      refine joinWith_congr hlinks fun place text hlink hnew => ?_
      have := hroom place text hlink hnew
      omega
    | succ deeper =>
      refine joinWith_congr hlinks fun place text hlink hnew path names => ?_
      have hmore := hpending.cons hlink hnew
      refine ih hmore ?_ ?_ fun _ _ hbelow hout => (hmore.cons hbelow hout).length_le
      · rw [List.length_cons]
        omega
      · rw [List.length_cons]
        omega

theorem Loopless.of_links (hloops : tree.Loopless)
    (hlinks : ∀ path, tree.linkAt path = other.linkAt path) (hlength : tree.length ≤ other.length) :
    other.Loopless := by
  intro names
  have hsame := @joinRealpath_congr tree other [] names tree.length other.length [] hlinks
    ⟨List.nodup_nil, List.nil_subset _⟩ (Nat.le_add_left _ _)
    (hlength.trans (Nat.le_add_left _ _))
  rw [← hsame]
  exact hloops names

end FileTree

end SignPulse.Foundation
