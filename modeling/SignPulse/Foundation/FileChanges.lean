import SignPulse.Foundation.FileTree

/-!
# Changes to a tree of files

Programs that make directories and write files, with all that they have done.  What they do at a
path that no link is on the way to is done at that path.
-/

namespace SignPulse.Foundation

/-- What is done at a place. -/
inductive Change where
  | makeDir (place : Path)
  | setMode (place : Path) (mode : ℕ)
  | writeFile (place : Path) (content : Bytes)
  deriving DecidableEq

def Change.place : Change → Path
  | makeDir place => place
  | setMode place _ => place
  | writeFile place _ => place

def Change.size : Change → ℕ
  | writeFile _ content => content.length
  | _ => 0

/-- A tree, with what has been done to it. -/
structure FileSystem where
  tree : FileTree
  changes : List Change := []

namespace FileSystem

abbrev Program := EStateM FileError FileSystem

def ofExcept {α : Type} : Except FileError α → Program α
  | .ok value => pure value
  | .error error => throw error

def store (entry : TreeEntry) (change : Change) (files : FileSystem) : FileSystem where
  tree := files.tree.setItem change.place entry
  changes := files.changes ++ [change]

def note (change : Change) (files : FileSystem) : FileSystem :=
  { files with changes := files.changes ++ [change] }

/-- Something is done at the place that is found in the tree. -/
def act (find : FileTree → Except FileError Path) (change : Path → FileSystem → FileSystem) :
    Program Unit := do
  let place ← ofExcept (find (← get).tree)
  modify (change place)

/-- Where `os.mkdir` makes a directory, for the names of its path from the last one to the first. -/
def mkdirPlace (names : List String) (tree : FileTree) : Except FileError Path :=
  match names with
  | [] => .error .fileExists
  | name :: above => do
    let parent ← tree.locate above.reverse
    match tree.entryAt parent with
    | none => .error .notFound
    | some .dir =>
      if (tree.entryAt (parent ++ [name])).isSome then .error .fileExists
      else .ok (parent ++ [name])
    | some _ => .error .notADirectory

def osMkdir (names : List String) : Program Unit :=
  act (mkdirPlace names) fun place => store .dir (.makeDir place)

/-- What `mkdir` does with an error: the directory may exist. -/
def existOk (path : Path) (error : FileError) : Program Unit := do
  if (← get).tree.isDir path then pure () else throw error

/-- `path.mkdir(parents=True, exist_ok=True)`, for the names from the last one to the first. -/
def mkdir : List String → Program Unit
  | [] => tryCatch (osMkdir []) (existOk [])
  | name :: above =>
    tryCatch (osMkdir (name :: above)) fun error =>
      if error = .notFound then do
        mkdir above
        tryCatch (osMkdir (name :: above)) fun error =>
          if error = .notFound then throw error
          else existOk (name :: above).reverse error
      else existOk (name :: above).reverse error

def chmodPlace (path : Path) (tree : FileTree) : Except FileError Path := do
  let place ← tree.locate path
  if (tree.entryAt place).isNone then .error .notFound else .ok place

/-- `os.chmod(path, mode)`, where errors are suppressed. -/
def chmod (path : Path) (mode : ℕ) : Program Unit :=
  tryCatch (act (chmodPlace path) fun place => note (.setMode place mode)) fun _ => pure ()

def openPlace (path : Path) (tree : FileTree) : Except FileError Path := do
  let place ← tree.locate path
  if tree.entryAt place = some .dir then .error .isADirectory else .ok place

/-- What is written to a device leaves the tree as it is. -/
def put (content : Bytes) (place : Path) (files : FileSystem) : FileSystem :=
  if files.tree.entryAt place = some .special then files.note (.writeFile place content)
  else files.store (.file content) (.writeFile place content)

/-- A file is opened for writing, created or truncated, and the content is written to it. -/
def writeFile (path : Path) (content : Bytes) : Program Unit :=
  act (openPlace path) (put content)

/-! ## Confinement -/

/-- Programs make directories and files. -/
def IsMade : Option TreeEntry → Prop
  | some .dir | some (.file _) => True
  | _ => False

theorem dir_or_file {entry : Option TreeEntry} (hmade : IsMade entry) :
    entry = some .dir ∨ ∃ content, entry = some (.file content) := by
  cases entry with
  | none => exact hmade.elim
  | some entry =>
    cases entry with
    | dir => exact .inl rfl
    | file content => exact .inr ⟨content, rfl⟩
    | link text => exact hmade.elim
    | special => exact hmade.elim

/-- At or below `target`, or a directory above it that is missing. -/
def Allowed (target : Path) (start : FileTree) (change : Change) : Prop :=
  target <+: change.place ∨
    change = .makeDir change.place ∧ change.place <+: target ∧ start.entryAt change.place = none

/-- All that has been done since `start`. -/
structure Confined (target : Path) (start : FileTree) (files : FileSystem) : Prop where
  length : start.length ≤ files.tree.length
  entries : ∀ path, files.tree.entryAt path = start.entryAt path ∨
    start.linkAt path = none ∧ IsMade (files.tree.entryAt path)
  changes : ∀ change ∈ files.changes, Allowed target start change

/-- The program does nothing else, however it ends. -/
def Keeps (target : Path) (start : FileTree) {ε α : Type} (program : EStateM ε FileSystem α) :
    Prop :=
  Ends (Confined target start) program (fun _ => Confined target start) (Confined target start)

variable {target path place : Path} {start tree : FileTree} {files : FileSystem}

theorem linkAt_of_isMade (hmade : IsMade (tree.entryAt path)) : tree.linkAt path = none := by
  unfold FileTree.linkAt
  cases hentry : tree.entryAt path with
  | none => rfl
  | some entry =>
    rw [hentry] at hmade
    cases entry with
    | dir => rfl
    | file content => rfl
    | link text => exact hmade.elim
    | special => rfl

section

variable (hconfined : Confined target start files)

include hconfined

theorem Confined.linkAt (path : Path) : start.linkAt path = files.tree.linkAt path := by
  rcases hconfined.entries path with hsame | ⟨hold, hmade⟩
  · unfold FileTree.linkAt
    rw [hsame]
  · rw [hold, linkAt_of_isMade hmade]

theorem Confined.plain (hplain : start.Plain path) : files.tree.Plain path where
  noDots := hplain.noDots
  noLinks above habove := by
    rw [← hconfined.linkAt]
    exact hplain.noLinks above habove

theorem Confined.missing
    (hmissing : files.tree.entryAt path = none) : start.entryAt path = none := by
  rcases hconfined.entries path with hsame | ⟨-, hmade⟩
  · rw [← hsame, hmissing]
  · rw [hmissing] at hmade
    exact hmade.elim

end

theorem length_setItem (tree : FileTree) (path : Path) (entry : TreeEntry) :
    tree.length ≤ (tree.setItem path entry).length := by
  induction tree with
  | nil => exact Nat.zero_le _
  | cons item rest ih =>
    obtain ⟨key, value⟩ := item
    unfold Dict.setItem
    split
    · exact Nat.le_refl _
    · exact Nat.succ_le_succ ih

theorem Confined.note {change : Change} (hconfined : Confined target start files)
    (hallowed : Allowed target start change) : Confined target start (files.note change) where
  length := hconfined.length
  entries := hconfined.entries
  changes other hother := by
    rcases List.mem_append.mp hother with hold | hnew
    · exact hconfined.changes other hold
    · rw [List.mem_singleton.mp hnew]
      exact hallowed

theorem Confined.store {entry : TreeEntry} {change : Change}
    (hconfined : Confined target start files) (hentry : IsMade (some entry))
    (hlink : start.linkAt change.place = none) (hallowed : Allowed target start change) :
    Confined target start (files.store entry change) where
  length := hconfined.length.trans (length_setItem _ _ _)
  entries path := by
    by_cases hroot : path = []
    · left
      simp [FileTree.entryAt, hroot]
    · have hset : (files.store entry change).tree.entryAt path =
          Dict.getItem (files.tree.setItem change.place entry) path := if_neg hroot
      by_cases heq : path = change.place
      · right
        rw [hset, heq, Dict.getItem_setItem_self]
        exact ⟨hlink, hentry⟩
      · have hold : files.tree.entryAt path = Dict.getItem files.tree path := if_neg hroot
        rw [hset, Dict.getItem_setItem_of_ne _ _ heq, ← hold]
        exact hconfined.entries path
  changes := (hconfined.note hallowed).changes

theorem confined_start (target : Path) (start : FileTree) :
    Confined target start { tree := start } where
  length := Nat.le_refl _
  entries _ := .inl rfl
  changes _ hmem := absurd hmem List.not_mem_nil

/-- A path at or below `target`, or above it, with no link on its way. -/
structure Near (target : Path) (start : FileTree) (path : Path) : Prop where
  plain : start.Plain path
  near : target <+: path ∨ path <+: target

theorem Near.above (hnear : Near target start path) {above : Path} (habove : above <+: path) :
    Near target start above where
  plain := hnear.plain.of_prefix habove
  near := by
    rcases hnear.near with hbelow | hover
    · exact List.prefix_or_prefix_of_prefix hbelow habove
    · exact .inr (habove.trans hover)

theorem Near.linkAt (hnear : Near target start path) : start.linkAt path = none :=
  hnear.plain.noLinks path (List.prefix_refl path)

theorem reverse_begins (name : String) (above : List String) :
    above.reverse <+: (name :: above).reverse := by
  rw [List.reverse_cons]
  exact List.prefix_append _ _

theorem keeps_act {find : FileTree → Except FileError Path}
    {change : Path → FileSystem → FileSystem}
    (hchange : ∀ files, Confined target start files → ∀ place, find files.tree = .ok place →
      Confined target start (change place files)) :
    Keeps target start (act find change) := by
  intro files hconfined
  have hrun : FileSystem.act find change files =
      EStateM.bind (ofExcept (find files.tree)) (fun place => modify (change place)) files := rfl
  rw [hrun, EStateM.bind]
  cases hfind : find files.tree with
  | error error => exact hconfined
  | ok place => exact hchange files hconfined place hfind

variable {names : List String} {ε α β : Type} {program : EStateM ε FileSystem α}
variable {rest : α → EStateM ε FileSystem β} {count : ℕ}

theorem eq_of_mkdirPlace (hplain : tree.Plain names.reverse)
    (hfind : mkdirPlace names tree = .ok place) :
    place = names.reverse ∧ tree.entryAt place = none := by
  cases names with
  | nil => cases hfind
  | cons name above =>
    obtain ⟨parent, hlocate, hfind⟩ := bind_eq_ok.mp hfind
    have hparent :=
      FileTree.eq_of_locate (hplain.of_prefix (reverse_begins name above)) hlocate
    split at hfind
    · cases hfind
    · split at hfind
      · cases hfind
      · next hmissing =>
        cases hfind
        rw [List.reverse_cons, hparent]
        exact ⟨rfl, hparent ▸ Option.not_isSome_iff_eq_none.mp hmissing⟩
    · cases hfind

theorem keeps_osMkdir (hnear : Near target start names.reverse) :
    Keeps target start (osMkdir names) := by
  refine keeps_act fun files hconfined place hfind => ?_
  obtain ⟨rfl, hmissing⟩ := eq_of_mkdirPlace (hconfined.plain hnear.plain) hfind
  refine hconfined.store trivial hnear.linkAt ?_
  rcases hnear.near with hbelow | hover
  · exact .inl hbelow
  · exact .inr ⟨rfl, hover, hconfined.missing hmissing⟩

theorem keeps_existOk (path : Path) (error : FileError) :
    Keeps target start (existOk path error) := by
  refine Ends.bind (fun _ => Confined target start) (Ends.get fun _ hconfined => hconfined)
    fun files => ?_
  exact Ends.ite (fun _ => Ends.pure fun _ hconfined => hconfined)
    fun _ => Ends.throw fun _ hconfined => hconfined

theorem keeps_mkdir (hnear : Near target start names.reverse) :
    Keeps target start (mkdir names) := by
  induction names with
  | nil => exact Ends.tryCatch _ (keeps_osMkdir hnear) fun _ => keeps_existOk _ _
  | cons name above ih =>
    refine Ends.tryCatch _ (keeps_osMkdir hnear) fun error => ?_
    refine Ends.ite (fun _ => ?_) fun _ => keeps_existOk _ _
    refine Ends.bind _ (ih (hnear.above (reverse_begins name above))) fun _ => ?_
    refine Ends.tryCatch _ (keeps_osMkdir hnear) fun error => ?_
    exact Ends.ite (fun _ => Ends.throw fun _ hconfined => hconfined) fun _ => keeps_existOk _ _

theorem keeps_chmod {mode : ℕ} (hplain : start.Plain path) (hbelow : target <+: path) :
    Keeps target start (chmod path mode) := by
  refine Ends.tryCatch _ (keeps_act fun files hconfined place hfind => ?_) fun _ =>
    Ends.pure fun _ hconfined => hconfined
  obtain ⟨found, hlocate, hfind⟩ := bind_eq_ok.mp hfind
  split at hfind
  · cases hfind
  · cases hfind
    obtain rfl := FileTree.eq_of_locate (hconfined.plain hplain) hlocate
    exact hconfined.note (.inl hbelow)

theorem keeps_writeFile {content : Bytes} (hplain : start.Plain path) (hbelow : target <+: path) :
    Keeps target start (writeFile path content) := by
  refine keeps_act fun files hconfined place hfind => ?_
  obtain ⟨found, hlocate, hfind⟩ := bind_eq_ok.mp hfind
  split at hfind
  · cases hfind
  · cases hfind
    obtain rfl := FileTree.eq_of_locate (hconfined.plain hplain) hlocate
    unfold put
    split
    · exact hconfined.note (.inl hbelow)
    · exact hconfined.store trivial (hplain.noLinks _ (List.prefix_refl _)) (.inl hbelow)

/-! ## Bytes -/

def written (files : FileSystem) : ℕ :=
  (files.changes.map Change.size).sum

/-- The program writes at most `count` bytes, however it ends. -/
def AddsAtMost (count : ℕ) {ε α : Type} (program : EStateM ε FileSystem α) : Prop :=
  ∀ total, Ends (fun files => files.written ≤ total) program
    (fun _ files => files.written ≤ total + count) fun files => files.written ≤ total + count

theorem addsAtMost_pure (value : α) : AddsAtMost 0 (pure value : EStateM ε FileSystem α) :=
  fun _ => Ends.pure fun _ htotal => htotal

theorem addsAtMost_throw (error : ε) : AddsAtMost 0 (throw error : EStateM ε FileSystem α) :=
  fun _ => Ends.throw fun _ htotal => htotal

theorem AddsAtMost.bind {first later : ℕ} (hfirst : AddsAtMost first program)
    (hrest : ∀ value, AddsAtMost later (rest value)) :
    AddsAtMost (first + later) (program >>= rest) := by
  intro total
  rw [← Nat.add_assoc]
  refine Ends.bind _ ((hfirst total).relax fun files hwritten => ?_) fun value =>
    hrest value (total + first)
  exact hwritten.trans (Nat.le_add_right _ _)

theorem AddsAtMost.andThen (hprogram : AddsAtMost count program)
    (hrest : ∀ value, AddsAtMost 0 (rest value)) : AddsAtMost count (program >>= rest) :=
  hprogram.bind hrest

theorem AddsAtMost.after (hprogram : AddsAtMost 0 program)
    (hrest : ∀ value, AddsAtMost count (rest value)) : AddsAtMost count (program >>= rest) := by
  rw [← Nat.zero_add count]
  exact hprogram.bind hrest

theorem AddsAtMost.mono {more : ℕ} (hprogram : AddsAtMost count program) (hle : count ≤ more) :
    AddsAtMost more program := by
  intro total
  have hroom : ∀ {size : ℕ}, size ≤ total + count → size ≤ total + more :=
    fun hsize => hsize.trans (Nat.add_le_add_left hle total)
  exact ((hprogram total).weaken fun _ _ hsize => hroom hsize).relax fun _ hsize => hroom hsize

theorem AddsAtMost.tryCatch {handler : ε → EStateM ε FileSystem α} (hprogram : AddsAtMost 0 program)
    (hhandler : ∀ error, AddsAtMost 0 (handler error)) :
    AddsAtMost 0 (MonadExcept.tryCatch program handler) :=
  fun total => Ends.tryCatch _ (hprogram total) fun error => hhandler error total

theorem AddsAtMost.ite {condition : Prop} [Decidable condition] {other : EStateM ε FileSystem α}
    (hthen : condition → AddsAtMost count program) (helse : ¬condition → AddsAtMost count other) :
    AddsAtMost count (if condition then program else other) :=
  fun total => Ends.ite (fun htrue => hthen htrue total) fun hfalse => helse hfalse total

theorem written_note (change : Change) :
    (files.note change).written = files.written + change.size := by
  unfold written note
  rw [List.map_append, List.sum_append, List.map_singleton, List.sum_singleton]

theorem written_store (entry : TreeEntry) (change : Change) :
    (files.store entry change).written = files.written + change.size :=
  written_note change

theorem addsAtMost_act {find : FileTree → Except FileError Path}
    {change : Path → FileSystem → FileSystem}
    (hchange : ∀ place files, (change place files).written = files.written + count) :
    AddsAtMost count (act find change) := by
  intro total files htotal
  have hrun : FileSystem.act find change files =
      EStateM.bind (ofExcept (find files.tree)) (fun place => modify (change place)) files := rfl
  rw [hrun, EStateM.bind]
  cases find files.tree with
  | error error => exact htotal.trans (Nat.le_add_right _ _)
  | ok place =>
    change (change place files).written ≤ total + count
    rw [hchange]
    exact Nat.add_le_add_right htotal count

theorem addsAtMost_existOk (path : Path) (error : FileError) :
    AddsAtMost 0 (existOk path error) := by
  have hget : AddsAtMost 0 (get : Program FileSystem) := fun _ => Ends.get fun _ htotal => htotal
  exact hget.andThen fun files => AddsAtMost.ite (fun _ => addsAtMost_pure ()) fun _ =>
    addsAtMost_throw error

theorem addsAtMost_osMkdir (names : List String) : AddsAtMost 0 (osMkdir names) :=
  addsAtMost_act fun _ _ => written_store _ _

theorem addsAtMost_mkdir (names : List String) : AddsAtMost 0 (mkdir names) := by
  induction names with
  | nil => exact (addsAtMost_osMkdir []).tryCatch fun _ => addsAtMost_existOk _ _
  | cons name above ih =>
    refine (addsAtMost_osMkdir _).tryCatch fun error => ?_
    refine AddsAtMost.ite (fun _ => ?_) fun _ => addsAtMost_existOk _ _
    refine ih.andThen fun _ => (addsAtMost_osMkdir _).tryCatch fun error => ?_
    exact AddsAtMost.ite (fun _ => addsAtMost_throw error) fun _ => addsAtMost_existOk _ _

theorem addsAtMost_chmod (path : Path) (mode : ℕ) : AddsAtMost 0 (chmod path mode) := by
  have hact : AddsAtMost 0 (act (chmodPlace path) fun place => note (.setMode place mode)) :=
    addsAtMost_act fun _ _ => written_note _
  exact hact.tryCatch fun _ => addsAtMost_pure ()

theorem addsAtMost_writeFile (path : Path) (content : Bytes) :
    AddsAtMost content.length (writeFile path content) := by
  refine addsAtMost_act fun place files => ?_
  unfold put
  split
  · exact written_note _
  · exact written_store _ _

end FileSystem

end SignPulse.Foundation
