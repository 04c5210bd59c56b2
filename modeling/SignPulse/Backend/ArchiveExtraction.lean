import SignPulse.Backend.TaskConfigIo
import SignPulse.Foundation.FileChanges

/-!
# Archive extraction

`extract_backup_archive` writes the members of an archive below a directory.  Names that lead out
of it and links are passed over, and the declared sizes of regular files have a limit.

The members are those that `tarfile` lists, with what is read of their data.
-/

namespace SignPulse.ArchiveExtraction

open Foundation
open FlowModels (PyError)
open TaskConfigs (valueError)

/-! ## Members -/

/-- A member of an archive.  A size that is declared may be negative, and then nothing is read. -/
structure Member where
  name : String
  type : Char
  size : ℤ
  content : Bytes
  /-- The archive ends before the data does. -/
  truncated : Bool := false
  bounded : content.length ≤ size.toNat

namespace Member

/-- The type of members of old archives. -/
def aregType : Char :=
  Char.ofNat 0

/-- `REGULAR_TYPES` -/
def regularTypes : List Char :=
  ['0', aregType, '7', 'S']

/-- `SUPPORTED_TYPES` -/
def supportedTypes : List Char :=
  ['0', aregType, '1', '2', '5', '6', '7', '3', '4', 'L', 'K', 'S']

variable (member : Member)

def isReg : Bool :=
  member.type ∈ regularTypes

def isDir : Bool :=
  member.type == '5'

def isSym : Bool :=
  member.type == '2'

def isLnk : Bool :=
  member.type == '1'

/-- `extractfile` returns a file, where links are left out.  An unknown type is taken for a regular
file. -/
def hasData : Bool :=
  member.isReg || member.type ∉ supportedTypes

end Member

/-! ## Extraction -/

structure Request where
  archivePath : String
  targetDir : List String
  maxExtractBytes : Option ℤ := none
  /-- The members of the archive file, if there is one.  Decrypting or reading it may fail. -/
  archive : Option (Except PyError (List Member))

/-- `MAX_EXTRACT_BYTES` -/
def maxExtractBytes : ℤ :=
  500 * 1024 * 1024

def Request.limit (request : Request) : ℤ :=
  request.maxExtractBytes.getD ArchiveExtraction.maxExtractBytes

def manifestName : String :=
  "backup-manifest.json"

inductive Failure where
  | os (error : FileError)
  | raised (error : PyError)

abbrev Extracting := EStateM Failure FileSystem

def onFiles {α : Type} (program : FileSystem.Program α) : Extracting α :=
  EStateM.adaptExcept Failure.os program

def raise {α : Type} (error : PyError) : Extracting α :=
  throw (.raised error)

def isIllegalName (name : String) : Bool :=
  name == "" || name.toList.head? == some '/' || name.toList.head? == some '\\' ||
    ':' ∈ name.toList || Char.ofNat 0 ∈ name.toList

/-- `Path.mkdir`, `os.chmod` -/
def mkdir (path : Path) : Extracting Unit :=
  onFiles (FileSystem.mkdir path.reverse)

def chmod (path : Path) (mode : ℕ) : Extracting Unit :=
  onFiles (FileSystem.chmod path mode)

def resolve (path : List String) : Extracting Path := do
  onFiles (FileSystem.ofExcept ((← get).tree.resolve path))

structure Progress where
  totalBytes : ℤ := 0
  extractedCount : ℕ := 0

def bombError (limit : ℤ) : PyError :=
  valueError ("解压数据超过上限 (" ++ toString limit ++ " 字节)，疑似解压炸弹")

/-- What `copyfileobj` reads and writes. -/
def copyData (destFile : Path) (member : Member) : Extracting Unit := do
  onFiles (FileSystem.writeFile destFile member.content)
  if member.truncated then raise { name := "ReadError", message := "unexpected end of data" }
  else pure ()

/-- The part that makes a directory or a file. -/
def writeMember (destFile : Path) (member : Member) (progress : Progress) : Extracting Progress :=
  if member.isDir then do
    mkdir destFile
    chmod destFile 0o700
    return progress
  else do
    mkdir destFile.dropLast
    chmod destFile 0o700
    if member.hasData then do
      copyData destFile member
      chmod destFile 0o600
      if member.name = manifestName then return progress
      else return { progress with extractedCount := progress.extractedCount + 1 }
    else return progress

def countSize (progress : Progress) (member : Member) : ℤ :=
  if member.isReg then progress.totalBytes + member.size else progress.totalBytes

def extractMember (target : Path) (limit : ℤ) (progress : Progress) (member : Member) :
    Extracting Progress :=
  if isIllegalName member.name then return progress
  else do
    let destFile ← resolve (target ++ pathNames member.name)
    if ¬target <+: destFile then return progress
    else if member.isSym || member.isLnk then return progress
    else if member.isReg && countSize progress member > limit then raise (bombError limit)
    else writeMember destFile member { progress with totalBytes := countSize progress member }

/-- The number of the files that it extracts. -/
def extractBackupArchive (request : Request) : Extracting ℕ :=
  match request.archive with
  | none => raise (valueError ("备份文件不存在: " ++ request.archivePath))
  | some reading => do
    let target ← resolve request.targetDir
    mkdir target
    chmod target 0o700
    match reading with
    | .error error => raise error
    | .ok members => do
      let progress ← members.foldlM (extractMember target request.limit) {}
      return progress.extractedCount

/-- The disk when the extraction has ended, with all that it has done. -/
def filesAfter (request : Request) (start : FileTree) : FileSystem :=
  match extractBackupArchive request { tree := start } with
  | .ok _ files => files
  | .error _ files => files

/-! ## Confinement -/

/-- The links on the disk form no loop, or there are none on the way to the target or below it. -/
def Settled (start : FileTree) (target : Path) : Prop :=
  start.Loopless ∨ ∀ path, target <+: path ∨ path <+: target → start.linkAt path = none

section Confinement

open FileSystem (Confined Keeps Near)

variable {start : FileTree} {target dest : Path} {files : FileSystem}
variable {names : List String} {request : Request} {member : Member} {progress : Progress}

theorem eq_of_resolve {tree : FileTree} (hresolve : tree.resolve names = .ok dest) :
    dest = tree.realpath names := by
  unfold FileTree.resolve at hresolve
  split at hresolve
  · cases hresolve
  · exact (Except.ok.inj hresolve).symm

theorem near_of_resolve (hsettled : Settled start target) (hconfined : Confined target start files)
    (hresolve : files.tree.resolve names = .ok dest) (hbelow : target <+: dest) :
    Near target start dest where
  near := .inl hbelow
  plain := by
    rw [eq_of_resolve hresolve] at hbelow ⊢
    have hlinks := hconfined.linkAt
    rcases hsettled with hloops | hfree
    · have hplain := (hloops.of_links hlinks hconfined.length).plain_realpath names
      exact
        { noDots := hplain.noDots
          noLinks := fun above habove => (hlinks above).trans (hplain.noLinks above habove) }
    · exact
        { noDots := FileTree.not_mem_normalize
          noLinks := fun above habove =>
            hfree above (List.prefix_or_prefix_of_prefix hbelow habove) }

theorem ends_resolve {Inv : FileSystem → Prop} : Ends Inv (resolve names)
      (fun dest files => Inv files ∧ files.tree.resolve names = .ok dest) Inv := by
  intro files hinv
  have hrun : resolve names files =
      onFiles (FileSystem.ofExcept (files.tree.resolve names)) files := rfl
  rw [hrun]
  cases hresolve : files.tree.resolve names with
  | error error => exact hinv
  | ok dest => exact ⟨hinv, hresolve⟩

theorem keeps_mkdir (hnear : Near target start dest) : Keeps target start (mkdir dest) :=
  Ends.adaptExcept (FileSystem.keeps_mkdir (by rwa [List.reverse_reverse]))

theorem keeps_chmod {mode : ℕ} (hnear : Near target start dest) (hbelow : target <+: dest) :
    Keeps target start (chmod dest mode) :=
  Ends.adaptExcept (FileSystem.keeps_chmod hnear.plain hbelow)

theorem keeps_copyData (hnear : Near target start dest) (hbelow : target <+: dest) :
    Keeps target start (copyData dest member) := by
  refine Ends.bind _ (Ends.adaptExcept (FileSystem.keeps_writeFile hnear.plain hbelow)) fun _ => ?_
  exact Ends.ite (fun _ => Ends.throw fun _ hconfined => hconfined)
    fun _ => Ends.pure fun _ hconfined => hconfined

theorem keeps_writeMember (hnear : Near target start dest) (hbelow : target <+: dest) :
    Keeps target start (writeMember dest member progress) := by
  have habove := hnear.above (List.dropLast_prefix dest)
  have hreturn : ∀ result : Progress, Keeps target start (pure result : Extracting Progress) :=
    fun _ => Ends.pure fun _ hconfined => hconfined
  refine Ends.ite (fun _ => ?_) fun _ => ?_
  · refine Ends.bind _ (keeps_mkdir hnear) fun _ => ?_
    exact Ends.bind _ (keeps_chmod hnear hbelow) fun _ => hreturn _
  · refine Ends.bind _ (keeps_mkdir habove) fun _ => ?_
    refine Ends.bind _ (keeps_chmod hnear hbelow) fun _ => ?_
    refine Ends.ite (fun _ => ?_) fun _ => hreturn _
    refine Ends.bind _ (keeps_copyData hnear hbelow) fun _ => ?_
    refine Ends.bind _ (keeps_chmod hnear hbelow) fun _ => ?_
    exact Ends.ite (fun _ => hreturn _) fun _ => hreturn _

theorem keeps_extractMember (hsettled : Settled start target) (limit : ℤ) :
    Keeps target start (extractMember target limit progress member) := by
  have hreturn : ∀ {fact : FileSystem → Prop} (result : Progress),
      Ends (fun files => Confined target start files ∧ fact files)
        (pure result : Extracting Progress) (fun _ => Confined target start)
        (Confined target start) :=
    fun _ => Ends.pure fun _ hstate => hstate.1
  refine Ends.ite (fun _ => Ends.pure fun _ hconfined => hconfined) fun _ => ?_
  refine Ends.bind _ ends_resolve fun dest => ?_
  refine Ends.ite (fun _ => hreturn _) fun hbelow => ?_
  refine Ends.ite (fun _ => hreturn _) fun _ => ?_
  refine Ends.ite (fun _ => Ends.throw fun _ hstate => hstate.1) fun _ => ?_
  rintro files ⟨hconfined, hresolve⟩
  have hnear := near_of_resolve hsettled hconfined hresolve (Decidable.not_not.mp hbelow)
  exact keeps_writeMember hnear (Decidable.not_not.mp hbelow) files hconfined

theorem keeps_extractBackupArchive (hsettled : Settled start (start.realpath request.targetDir)) :
    Ends (fun files => files = { tree := start }) (extractBackupArchive request)
      (fun _ => Confined (start.realpath request.targetDir) start)
      (Confined (start.realpath request.targetDir) start) := by
  have hstart := FileSystem.confined_start (start.realpath request.targetDir) start
  unfold extractBackupArchive
  cases request.archive with
  | none =>
    rintro files rfl
    exact hstart
  | some reading =>
    refine Ends.bind _ (Ends.relax ends_resolve ?_) fun dest => ?_
    · rintro files rfl
      exact hstart
    · rintro files ⟨rfl, hresolve⟩
      have hdest := eq_of_resolve hresolve
      rw [← hdest] at hsettled hstart ⊢
      have hbelow := List.prefix_refl dest
      have hnear := near_of_resolve hsettled hstart hresolve hbelow
      refine Ends.bind _ (keeps_mkdir hnear) (fun _ => ?_) _ hstart
      refine Ends.bind _ (keeps_chmod hnear hbelow) fun _ => ?_
      cases reading with
      | error error => exact Ends.throw fun _ hconfined => hconfined
      | ok members =>
        refine Ends.bind _ (Ends.foldlM (fun _ => Confined dest start)
          (fun _ _ _ => keeps_extractMember hsettled request.limit) {}) fun progress => ?_
        exact Ends.pure fun _ hconfined => hconfined

end Confinement

/-! ## Bytes -/

/-- Content is only read of members whose sizes are counted, and none of these is negative. -/
def Member.Counted (member : Member) : Prop :=
  (member.hasData = true → member.isReg = true) ∧ (member.isReg = true → 0 ≤ member.size)

def Request.Counted (request : Request) : Prop :=
  ∀ reading ∈ request.archive, ∀ members, reading = .ok members → ∀ member ∈ members, member.Counted

section Totals

open FileSystem (AddsAtMost addsAtMost_pure addsAtMost_throw)

variable {dest target : Path} {names : List String} {member : Member} {progress : Progress}
variable {limit : ℤ} {request : Request}

theorem AddsAtMost.onFiles {α : Type} {count : ℕ} {program : FileSystem.Program α}
    (hadds : AddsAtMost count program) : AddsAtMost count (onFiles program) :=
  fun total => Ends.adaptExcept (hadds total)

theorem addsAtMost_mkdir (dest : Path) : AddsAtMost 0 (mkdir dest) :=
  AddsAtMost.onFiles (FileSystem.addsAtMost_mkdir _)

theorem addsAtMost_chmod (dest : Path) (mode : ℕ) : AddsAtMost 0 (chmod dest mode) :=
  AddsAtMost.onFiles (FileSystem.addsAtMost_chmod _ _)

theorem addsAtMost_resolve (names : List String) : AddsAtMost 0 (resolve names) :=
  fun _ => Ends.weaken ends_resolve fun _ _ hstate => hstate.1

theorem addsAtMost_copyData (dest : Path) (member : Member) :
    AddsAtMost member.content.length (copyData dest member) := by
  refine (AddsAtMost.onFiles (FileSystem.addsAtMost_writeFile dest member.content)).andThen
    fun _ => ?_
  exact AddsAtMost.ite (fun _ => addsAtMost_throw _) fun _ => addsAtMost_pure ()

theorem addsAtMost_writeMember {count : ℕ}
    (hcount : member.hasData = true → member.content.length ≤ count) :
    AddsAtMost count (writeMember dest member progress) := by
  have hreturn : ∀ result : Progress, AddsAtMost 0 (pure result : Extracting Progress) :=
    addsAtMost_pure
  refine AddsAtMost.ite (fun _ => ?_) fun _ => ?_
  · refine AddsAtMost.mono ?_ (Nat.zero_le count)
    refine (addsAtMost_mkdir dest).andThen fun _ => ?_
    exact (addsAtMost_chmod dest _).andThen fun _ => hreturn _
  · refine (addsAtMost_mkdir dest.dropLast).after fun _ => ?_
    refine (addsAtMost_chmod dest _).after fun _ => ?_
    refine AddsAtMost.ite (fun hdata => ?_) fun _ => (hreturn _).mono (Nat.zero_le count)
    refine AddsAtMost.mono ?_ (hcount hdata)
    refine (addsAtMost_copyData dest member).andThen fun _ => ?_
    refine (addsAtMost_chmod dest _).andThen fun _ => ?_
    exact AddsAtMost.ite (fun _ => hreturn _) fun _ => hreturn _

theorem totalBytes_writeMember : Ends (fun _ => True) (writeMember dest member progress)
      (fun result _ => result.totalBytes = progress.totalBytes) fun _ => True := by
  have hany : ∀ {α : Type} (program : Extracting α),
      Ends (fun _ => True) program (fun _ _ => True) fun _ => True := by
    intro α program files _
    split
    · trivial
    · trivial
  refine Ends.ite (fun _ => ?_) fun _ => ?_
  · refine Ends.bind _ (hany _) fun _ => ?_
    exact Ends.bind _ (hany _) fun _ => Ends.pure fun _ _ => rfl
  · refine Ends.bind _ (hany _) fun _ => ?_
    refine Ends.bind _ (hany _) fun _ => ?_
    refine Ends.ite (fun _ => ?_) fun _ => Ends.pure fun _ _ => rfl
    refine Ends.bind _ (hany _) fun _ => ?_
    refine Ends.bind _ (hany _) fun _ => ?_
    exact Ends.ite (fun _ => Ends.pure fun _ _ => rfl) fun _ => Ends.pure fun _ _ => rfl

/-- What has been written has been counted, and is within the limit. -/
structure Within (limit : ℤ) (progress : Progress) (files : FileSystem) : Prop where
  nonneg : 0 ≤ progress.totalBytes
  counted : files.written ≤ progress.totalBytes.toNat
  limited : files.written ≤ limit.toNat

theorem within_writeMember (hcounted : member.Counted)
    (hlimit : ¬(member.isReg && countSize progress member > limit) = true) :
    Ends (Within limit progress)
      (writeMember dest member { progress with totalBytes := countSize progress member })
      (Within limit) fun files => files.written ≤ limit.toNat := by
  have hcount : member.hasData = true → member.content.length ≤
      (countSize progress member - progress.totalBytes).toNat := by
    intro hdata
    have hbounded := member.bounded
    rw [countSize, if_pos (hcounted.1 hdata)]
    omega
  intro files hwithin
  have hroom : 0 ≤ countSize progress member ∧
      files.written + (countSize progress member - progress.totalBytes).toNat ≤
        (countSize progress member).toNat ∧
      files.written + (countSize progress member - progress.totalBytes).toNat ≤ limit.toNat := by
    obtain ⟨hnonneg, hsum, hlimited⟩ := hwithin
    by_cases hreg : member.isReg = true
    · have hsize := hcounted.2 hreg
      have hle : ¬countSize progress member > limit := by
        intro hover
        rw [hreg] at hlimit
        exact hlimit (decide_eq_true hover)
      rw [countSize, if_pos hreg] at hle ⊢
      omega
    · rw [countSize, if_neg hreg]
      omega
  have hadds := @addsAtMost_writeMember dest member
    { progress with totalBytes := countSize progress member } _ hcount files.written files
    (Nat.le_refl _)
  have htotal := @totalBytes_writeMember dest member
    { progress with totalBytes := countSize progress member } files trivial
  split
  · next result after hrun =>
    rw [hrun] at hadds htotal
    exact
      { nonneg := htotal.symm ▸ hroom.1
        counted := htotal.symm ▸ hadds.trans hroom.2.1
        limited := hadds.trans hroom.2.2 }
  · next error after hrun =>
    rw [hrun] at hadds
    exact hadds.trans hroom.2.2

theorem within_extractMember (hcounted : member.Counted) :
    Ends (Within limit progress) (extractMember target limit progress member)
      (Within limit) fun files => files.written ≤ limit.toNat := by
  refine Ends.ite (fun _ => Ends.pure fun _ hwithin => hwithin) fun _ => ?_
  refine Ends.bind (fun _ => Within limit progress) ?_ fun dest => ?_
  · exact (ends_resolve.weaken fun _ _ hstate => hstate.1).relax fun _ hwithin => hwithin.limited
  · refine Ends.ite (fun _ => Ends.pure fun _ hwithin => hwithin) fun _ => ?_
    refine Ends.ite (fun _ => Ends.pure fun _ hwithin => hwithin) fun _ => ?_
    refine Ends.ite (fun _ => Ends.throw fun _ hwithin => hwithin.limited) fun hlimit => ?_
    exact within_writeMember hcounted hlimit

theorem written_extractBackupArchive (hcounted : request.Counted) :
    Ends (fun files => files.written = 0) (extractBackupArchive request)
      (fun _ files => files.written ≤ request.limit.toNat)
      fun files => files.written ≤ request.limit.toNat := by
  have hzero : ∀ {size : ℕ}, size ≤ 0 → size ≤ request.limit.toNat :=
    fun hsize => hsize.trans (Nat.zero_le _)
  have hstart : ∀ {α : Type} {program : Extracting α}, AddsAtMost 0 program →
      Ends (fun files => files.written ≤ 0) program (fun _ files => files.written ≤ 0)
        fun files => files.written ≤ request.limit.toNat :=
    fun hadds => (hadds 0).relax fun _ hsize => hzero hsize
  refine Ends.strengthen ?_ fun _ hsize => Nat.le_of_eq hsize
  unfold extractBackupArchive
  cases harchive : request.archive with
  | none => exact Ends.throw fun _ hsize => hzero hsize
  | some reading =>
    refine Ends.bind _ (hstart (addsAtMost_resolve _)) fun target => ?_
    refine Ends.bind _ (hstart (addsAtMost_mkdir target)) fun _ => ?_
    refine Ends.bind _ (hstart (addsAtMost_chmod target _)) fun _ => ?_
    cases hreading : reading with
    | error error => exact Ends.throw fun _ hsize => hzero hsize
    | ok members =>
      have hmembers := hcounted reading harchive members hreading
      refine Ends.bind (Within request.limit) ?_ fun progress =>
        Ends.pure fun _ hwithin => hwithin.limited
      refine (Ends.foldlM (Within request.limit)
        (fun _ member hmem => within_extractMember (hmembers member hmem)) {}).strengthen ?_
      intro files hsize
      exact
        { nonneg := Int.le_refl 0
          counted := hsize
          limited := hzero hsize }

end Totals

/-! ## Every archive -/

theorem extraction_confined (request : Request) (start : FileTree)
    (hsettled : Settled start (start.realpath request.targetDir)) :
    let target := start.realpath request.targetDir
    let after := filesAfter request start
    (∀ change ∈ after.changes, target <+: change.place ∨
      change = .makeDir change.place ∧ change.place <+: target ∧
        start.entryAt change.place = none) ∧
    (∀ path, after.tree.entryAt path = start.entryAt path ∨ after.tree.entryAt path = some .dir ∨
        ∃ content, after.tree.entryAt path = some (.file content)) ∧
    (request.Counted → after.written ≤ request.limit.toNat) := by
  have hkeeps := keeps_extractBackupArchive hsettled { tree := start } rfl
  have hwritten := fun hcounted =>
    @written_extractBackupArchive request hcounted { tree := start } rfl
  have hends : FileSystem.Confined (start.realpath request.targetDir) start
      (filesAfter request start) ∧
      (request.Counted → (filesAfter request start).written ≤ request.limit.toNat) := by
    unfold filesAfter
    cases hrun : extractBackupArchive request { tree := start } with
    | ok count files =>
      rw [hrun] at hkeeps hwritten
      exact ⟨hkeeps, hwritten⟩
    | error error files =>
      rw [hrun] at hkeeps hwritten
      exact ⟨hkeeps, hwritten⟩
  obtain ⟨hconfined, hlimit⟩ := hends
  refine ⟨hconfined.changes, fun path => ?_, hlimit⟩
  rcases hconfined.entries path with hsame | ⟨-, hmade⟩
  · exact .inl hsame
  · exact .inr (FileSystem.dir_or_file hmade)

theorem linkAt_of_forall {tree : FileTree} {path : Path}
    (hlinks : ∀ item ∈ tree, ∀ text, item.2 ≠ .link text) : tree.linkAt path = none := by
  cases hlink : tree.linkAt path with
  | none => rfl
  | some text =>
    unfold FileTree.linkAt FileTree.entryAt at hlink
    split at hlink
    · next entry hentry =>
      split at hentry
      · cases hentry
      · exact absurd rfl (hlinks _ (Dict.mem_of_getItem hentry) _)
    · cases hlink

/-- A disk with an empty file `a` in the directory that archives are extracted to. -/
def restoreDisk : FileTree :=
  [(["srv"], .dir), (["srv", "restore"], .dir), (["srv", "restore", "a"], .file []),
    (["etc"], .dir), (["etc", "passwd"], .file [114])]

def restoreOf (members : List Member) : Request where
  archivePath := "backup.tar.gz"
  targetDir := ["srv", "restore"]
  maxExtractBytes := some 2
  archive := some (.ok members)

/-- A regular file with a name that leads out of the directory. -/
def escapingFile : Member where
  name := "../../etc/passwd"
  type := '0'
  size := 1
  content := [120]
  bounded := Nat.le_refl 1

def linkMember : Member where
  name := "out"
  type := '2'
  size := 0
  content := []
  bounded := Nat.le_refl 0

theorem extraction_confined_hostileMembers : Settled restoreDisk ["srv", "restore"] ∧
      (filesAfter (restoreOf [escapingFile, linkMember]) restoreDisk).written ≤ 2 := by
  have hsettled : Settled restoreDisk ["srv", "restore"] := by
    refine .inr fun path _ => linkAt_of_forall ?_
    intro item hitem text
    simp only [restoreDisk, List.mem_cons, List.not_mem_nil, or_false] at hitem
    rcases hitem with rfl | rfl | rfl | rfl | rfl <;> intro hlink <;> cases hlink
  have hcounted : (restoreOf [escapingFile, linkMember]).Counted := by
    intro reading hreading members hmembers member hmem
    cases hreading
    cases hmembers
    simp only [List.mem_cons, List.not_mem_nil, or_false] at hmem
    rcases hmem with rfl | rfl
    · exact ⟨fun _ => rfl, by decide⟩
    · exact ⟨by decide, by decide⟩
  have htarget : restoreDisk.realpath (restoreOf [escapingFile, linkMember]).targetDir =
      ["srv", "restore"] := by
    decide
  refine ⟨hsettled, ?_⟩
  exact (extraction_confined (restoreOf [escapingFile, linkMember]) restoreDisk
    (htarget ▸ hsettled)).2.2 hcounted

def emptyFile : Member where
  name := "a"
  type := '0'
  size := 0
  content := []
  bounded := Nat.le_refl 0

/-- A member of a type that `tarfile` does not know. -/
def unknownMember : Member where
  name := "b"
  type := 'Z'
  size := 4
  content := [1, 2, 3, 4]
  bounded := Nat.le_refl 4

/-- The number of files that is returned, if none is raised. -/
def filesExtracted (request : Request) (start : FileTree) : ℕ :=
  match extractBackupArchive request { tree := start } with
  | .ok count _ => count
  | .error _ _ => 0

theorem extractMember_emptyFile (count : ℕ) (changes : List Change) :
    ∃ more, extractMember ["srv", "restore"] 2 { extractedCount := count } emptyFile
      { tree := restoreDisk, changes } =
        .ok { extractedCount := count + 1 } { tree := restoreDisk, changes := more } :=
  ⟨_, rfl⟩

theorem foldlM_emptyFile (copies count : ℕ) (changes : List Change) :
    ∃ more, (List.replicate copies emptyFile).foldlM (extractMember ["srv", "restore"] 2)
      { extractedCount := count } { tree := restoreDisk, changes } =
        .ok { extractedCount := count + copies } { tree := restoreDisk, changes := more } := by
  induction copies generalizing count changes with
  | zero => exact ⟨changes, rfl⟩
  | succ copies ih =>
    obtain ⟨next, hfirst⟩ := extractMember_emptyFile count changes
    obtain ⟨more, hrest⟩ := ih (count + 1) next
    refine ⟨more, ?_⟩
    rw [List.replicate_succ, List.foldlM_cons]
    change EStateM.bind (extractMember ["srv", "restore"] 2 { extractedCount := count } emptyFile)
      (fun progress =>
        (List.replicate copies emptyFile).foldlM (extractMember ["srv", "restore"] 2) progress)
      { tree := restoreDisk, changes } = _
    rw [EStateM.bind, hfirst]
    dsimp only
    rw [hrest, Nat.add_right_comm]
    rfl

theorem filesExtracted_emptyFile (copies : ℕ) :
    filesExtracted (restoreOf (List.replicate copies emptyFile)) restoreDisk = copies := by
  obtain ⟨more, hfold⟩ := foldlM_emptyFile copies 0 [.setMode ["srv", "restore"] 0o700]
  have hrun : extractBackupArchive (restoreOf (List.replicate copies emptyFile))
      { tree := restoreDisk } =
      EStateM.bind ((List.replicate copies emptyFile).foldlM
        (extractMember ["srv", "restore"] 2) {}) (fun progress => pure progress.extractedCount)
        { tree := restoreDisk, changes := [.setMode ["srv", "restore"] 0o700] } := rfl
  rw [filesExtracted, hrun, EStateM.bind, hfold]
  exact Nat.zero_add copies

/-- The members have no limit, an unknown type is not counted, and the directories above the target
lie outside of it. -/
theorem limits_not_kept :
    (¬∃ bound, ∀ members, filesExtracted (restoreOf members) restoreDisk ≤ bound) ∧
      (restoreOf [unknownMember]).limit <
        (filesAfter (restoreOf [unknownMember]) restoreDisk).written ∧
      ∃ change ∈ (filesAfter (restoreOf []) []).changes, ¬["srv", "restore"] <+: change.place := by
  refine ⟨?_, by decide, ?_⟩
  · rintro ⟨bound, hbound⟩
    have hle := hbound (List.replicate (bound + 1) emptyFile)
    rw [filesExtracted_emptyFile] at hle
    exact Nat.not_succ_le_self bound hle
  · exact ⟨.makeDir ["srv"], by decide, by decide⟩

end SignPulse.ArchiveExtraction
