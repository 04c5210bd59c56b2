import SignPulse.Backend.HistoryStore
import SignPulse.Foundation.StableSort

/-!
# Reading after recording and clearing

A read takes the first of three files that is there.  Recording a run creates the first one, and
clearing may remove the one that was read.
-/

namespace SignPulse.HistoryFiles

open Foundation
open ChainedRuns (Config getEntry)

/-! ## The file that is read -/

section Reading

variable {disk : Disk FileContent} {runHistoryDir path : Path} {taskName accountName : String}

/-- The current file, the one without escapes and the one without an account. -/
def candidatePaths (runHistoryDir : Path) (taskName accountName : String) : List Path :=
  [historyFilePath runHistoryDir taskName accountName,
    legacyHistoryFilePath runHistoryDir taskName accountName,
    legacyHistoryFilePath runHistoryDir taskName]

def FilesOnly (disk : Disk FileContent) (runHistoryDir : Path) (taskName accountName : String) :
    Prop :=
  ∀ path ∈ candidatePaths runHistoryDir taskName accountName, disk.isDir path = false

def readable (disk : Disk FileContent) (runHistoryDir : Path) (taskName accountName : String) :
    Option FileContent :=
  (candidatePaths runHistoryDir taskName accountName).findSome? disk.fileAt

theorem find?_three (there : Path → Bool) (first second third : Path) :
    [first, second, third].find? there = if there first = true then some first
      else if there second = true then some second
      else if there third = true then some third else none := by
  rw [List.find?_cons, List.find?_cons, List.find?_cons, List.find?_nil]
  cases there first with
  | true => rfl
  | false =>
    cases there second with
    | true => rfl
    | false =>
      cases there third with
      | true => rfl
      | false => rfl

theorem ne_and_iff (there : Path → Bool) {name other : String}
    (hother : ¬there (runHistoryDir ++ [other]) = true) :
    name ≠ other ∧ there (runHistoryDir ++ [name]) = true ↔
      there (runHistoryDir ++ [name]) = true := by
  refine ⟨And.right, fun hthere => ⟨?_, hthere⟩⟩
  rintro rfl
  exact hother hthere

theorem resolveExistingHistoryFile_eq (hfiles : FilesOnly disk runHistoryDir taskName accountName) :
    resolveExistingHistoryFile disk runHistoryDir taskName accountName =
      (candidatePaths runHistoryDir taskName accountName).find?
        fun path => (disk.fileAt path).isSome := by
  have hcurrent := Disk.existsAt_eq_isSome (hfiles _ List.mem_cons_self)
  have hencoded := Disk.existsAt_eq_isSome (hfiles _ (List.mem_cons_of_mem _ List.mem_cons_self))
  have hshared := Disk.existsAt_eq_isSome
    (hfiles _ (List.mem_cons_of_mem _ (List.mem_cons_of_mem _ List.mem_cons_self)))
  unfold historyFilePath at hcurrent
  unfold legacyHistoryFilePath at hencoded hshared
  simp only [resolveExistingHistoryFile, candidatePaths, historyFilePath, legacyHistoryFilePath]
  rw [hcurrent, hencoded, hshared, find?_three]
  by_cases hfile :
      (disk.fileAt (runHistoryDir ++ [historyFileName taskName accountName])).isSome = true
  · rw [if_pos hfile, if_pos hfile]
  · have hother (name : String) : name ≠ historyFileName taskName accountName ∧
        (disk.fileAt (runHistoryDir ++ [name])).isSome = true ↔
          (disk.fileAt (runHistoryDir ++ [name])).isSome = true :=
      ne_and_iff (fun path => (disk.fileAt path).isSome) hfile
    rw [if_neg hfile, if_neg hfile]
    exact if_congr (hother _) rfl (if_congr (hother _) rfl rfl)

/-! ## Lists and searches -/

variable {α β : Type} {f : α → Option β} {items : List α}

theorem findSome?_of_find? {item : α}
    (hfind : items.find? (fun item => (f item).isSome) = some item) :
    items.findSome? f = f item := by
  induction items with
  | nil => cases hfind
  | cons head rest ih =>
    rw [List.find?_cons] at hfind
    rw [List.findSome?_cons]
    cases hhead : f head with
    | some value =>
      rw [hhead] at hfind
      cases hfind
      exact hhead.symm
    | none =>
      rw [hhead] at hfind
      exact ih hfind

theorem findSome?_of_find?_none (hfind : items.find? (fun item => (f item).isSome) = none) :
    items.findSome? f = none := by
  rw [List.findSome?_eq_none_iff]
  intro item hmem
  have hnone := List.find?_eq_none.mp hfind item hmem
  rwa [Option.not_isSome_iff_eq_none] at hnone

theorem findSome?_filter_ne [DecidableEq α] {item : α} : (items.filter (· ≠ item)).findSome? f =
      items.findSome? fun other => if other = item then none else f other := by
  induction items with
  | nil => rfl
  | cons head rest ih =>
    rw [List.findSome?_cons, List.filter_cons]
    by_cases hsame : head = item
    · rw [if_neg (by simpa using hsame), if_pos hsame]
      exact ih
    · rw [if_pos (by simpa using hsame), if_neg hsame, List.findSome?_cons, ih]

/-! ## What an account is shown -/

/-- The entries that a read returns, in the order of the file. -/
def visible (accountName : String) (items : List PyValue) : List Config :=
  (items.filterMap entryOf?).filter fun entry => accountName = "" ∨ labelAllows accountName entry

variable {strOf : PyValue → String}

theorem filterHistoryEntries_nil : filterHistoryEntries strOf [] accountName = [] :=
  List.mergeSort_nil

theorem loadHistoryEntries_eq (hfiles : FilesOnly disk runHistoryDir taskName accountName) :
    loadHistoryEntries strOf disk runHistoryDir taskName accountName =
      filterHistoryEntries strOf (payloadOf (readable disk runHistoryDir taskName accountName))
        accountName := by
  rw [loadHistoryEntries, readable, resolveExistingHistoryFile_eq hfiles]
  split
  · next path hfind => rw [findSome?_of_find? hfind]
  · next hfind =>
    rw [findSome?_of_find?_none hfind]
    exact filterHistoryEntries_nil.symm

theorem visible_append (left right : List PyValue) :
    visible accountName (left ++ right) = visible accountName left ++ visible accountName right := by
  unfold visible
  rw [List.filterMap_append, List.filter_append]

theorem visible_cons_dict (entry : Config) (rest : List PyValue) :
    visible accountName (.dict entry :: rest) =
      if accountName = "" ∨ labelAllows accountName entry = true then
        entry :: visible accountName rest
      else visible accountName rest := by
  unfold visible
  rw [List.filterMap_cons_some (rfl : entryOf? (.dict entry) = some entry), List.filter_cons]
  simp only [decide_eq_true_eq]

theorem eq_str {value : PyValue} {text : String} (heq : PyValue.eq value (.str text) = true) :
    value = .str text := by
  cases value with
  | str left => rw [eq_of_beq heq]
  | none => cases heq
  | bool value => cases heq
  | int value => cases heq
  | float value => cases heq
  | list items => cases heq
  | dict entries => cases heq

theorem ownedBy_of_labelAllows {entry : Config} (hallows : labelAllows accountName entry = true) :
    ownedBy strOf accountName (.dict entry) = true := by
  unfold labelAllows at hallows
  unfold ownedBy
  dsimp only at hallows ⊢
  rw [Bool.or_eq_true] at hallows ⊢
  refine hallows.imp_right fun heq => ?_
  rw [eq_str heq, textOf_str]
  exact decide_eq_true rfl

theorem visible_cons (item : PyValue) (rest : List PyValue) :
    visible accountName (item :: rest) = visible accountName [item] ++ visible accountName rest :=
  visible_append [item] rest

theorem visible_of_not_owned {item : PyValue} (hne : accountName ≠ "")
    (hother : ownedBy strOf accountName item = false) : visible accountName [item] = [] := by
  cases item with
  | dict entry =>
    rw [visible_cons_dict, if_neg]
    · rfl
    · rintro (hempty | hallows)
      · exact hne hempty
      · rw [ownedBy_of_labelAllows hallows] at hother
        cases hother
  | _ => rfl

theorem visible_ownedEntries (items : List PyValue) :
    visible accountName (ownedEntries strOf accountName items) = visible accountName items := by
  unfold ownedEntries
  split
  · rfl
  next hne =>
    induction items with
    | nil => rfl
    | cons item rest ih =>
      rw [visible_cons item rest, List.filter_cons]
      split
      · rw [visible_cons, ih]
      next hother => rw [visible_of_not_owned hne (Bool.not_eq_true _ ▸ hother), ih]; rfl

/-- The account is shown nothing of what does not belong to it. -/
theorem visible_others (hne : accountName ≠ "") (items : List PyValue) :
    visible accountName (items.filter fun item => !ownedBy strOf accountName item) = [] := by
  induction items with
  | nil => rfl
  | cons item rest ih =>
    rw [List.filter_cons]
    split
    next hother => rw [visible_cons, visible_of_not_owned hne (Bool.not_eq_true' _ ▸ hother), ih]; rfl
    · exact ih

/-- An entry in front comes first exactly if the others are not newer. -/
theorem filterHistoryEntries_cons_iff {entry : Config} {items : List PyValue}
    (hvisible : accountName = "" ∨ labelAllows accountName entry = true) :
    filterHistoryEntries strOf (.dict entry :: items) accountName =
        entry :: filterHistoryEntries strOf items accountName ↔
      ∀ other ∈ visible accountName items, timeOf strOf other ≤ timeOf strOf entry := by
  change (visible accountName (.dict entry :: items)).mergeSort _ =
    entry :: (visible accountName items).mergeSort _ ↔ _
  rw [visible_cons_dict, if_pos hvisible, mergeSort_cons_eq_iff]
  · simp only [decide_eq_true_eq]
  · intro first second third hfirst hsecond
    exact decide_eq_true (String.le_trans (of_decide_eq_true hsecond) (of_decide_eq_true hfirst))
  · intro first second
    rw [Bool.or_eq_true, decide_eq_true_eq, decide_eq_true_eq]
    exact String.le_total _ _

theorem length_filterHistoryEntries (items : List PyValue) :
    (filterHistoryEntries strOf items accountName).length = (visible accountName items).length :=
  List.length_mergeSort _

theorem filterHistoryEntries_cons_eq_iff {entry : Config} {items others : List PyValue}
    (hvisible : accountName = "" ∨ labelAllows accountName entry = true)
    (hlength : (visible accountName items).length = (visible accountName others).length →
      visible accountName items = visible accountName others) :
    filterHistoryEntries strOf (.dict entry :: items) accountName =
        entry :: filterHistoryEntries strOf others accountName ↔
      visible accountName items = visible accountName others ∧
        ∀ other ∈ visible accountName others, timeOf strOf other ≤ timeOf strOf entry := by
  have hread : visible accountName items = visible accountName others →
      filterHistoryEntries strOf items accountName =
        filterHistoryEntries strOf others accountName := by
    intro hsame
    change (visible accountName items).mergeSort _ = (visible accountName others).mergeSort _
    rw [hsame]
  constructor
  · intro heq
    have hlengths := congrArg List.length heq
    rw [List.length_cons, length_filterHistoryEntries, length_filterHistoryEntries,
      visible_cons_dict, if_pos hvisible, List.length_cons] at hlengths
    have hsame := hlength (Nat.succ.inj hlengths)
    rw [← hread hsame, filterHistoryEntries_cons_iff hvisible, hsame] at heq
    exact ⟨hsame, heq⟩
  · rintro ⟨hsame, hnewest⟩
    rw [← hread hsame, filterHistoryEntries_cons_iff hvisible, hsame]
    exact hnewest

/-! ## What the migration adds -/

variable {dumps : Config → String}

variable {items : List PyValue} {maxEntries : ℕ}

/-- Nothing that is shown is added exactly if all of it was seen, where equal texts are shown
alike. -/
theorem visible_unseenItems_iff {seen : List String}
    (hdumps : ∀ left ∈ items.filterMap entryOf?, ∀ right ∈ items.filterMap entryOf?,
      dumps left = dumps right → labelAllows accountName left = labelAllows accountName right) :
    visible accountName (unseenItems dumps seen items) = [] ↔
      ∀ entry ∈ visible accountName items, dumps entry ∈ seen := by
  induction items generalizing seen with
  | nil => exact ⟨fun _ entry hmem => absurd hmem List.not_mem_nil, fun _ => rfl⟩
  | cons item rest ih =>
    cases item with
    | dict entry =>
      have hrest : ∀ left ∈ rest.filterMap entryOf?, ∀ right ∈ rest.filterMap entryOf?,
          dumps left = dumps right →
            labelAllows accountName left = labelAllows accountName right := by
        intro left hleft right hright
        exact hdumps left (List.mem_cons_of_mem _ hleft) right (List.mem_cons_of_mem _ hright)
      rw [visible_cons_dict, unseenItems]
      by_cases hseen : dumps entry ∈ seen
      · rw [if_pos hseen, ih hrest]
        split
        · rw [List.forall_mem_cons, and_iff_right hseen]
        · rfl
      · rw [if_neg hseen, visible_cons_dict]
        by_cases hshown : accountName = "" ∨ labelAllows accountName entry = true
        · rw [if_pos hshown, if_pos hshown]
          exact ⟨nofun, fun hall => absurd (hall entry List.mem_cons_self) hseen⟩
        · rw [if_neg hshown, if_neg hshown, ih hrest]
          -- what is shown has not the text of what is not
          have hother : ∀ other ∈ visible accountName rest, dumps other ≠ dumps entry := by
            intro other hmem hsame
            obtain ⟨hentry, hallowed⟩ := List.mem_filter.mp hmem
            have hlabels := hdumps other (List.mem_cons_of_mem _ hentry) entry
              List.mem_cons_self hsame
            rw [decide_eq_true_eq, hlabels] at hallowed
            exact hshown hallowed
          refine forall₂_congr fun other hmem => ?_
          rw [List.mem_cons, or_iff_right (hother other hmem)]
    | _ => exact ih hdumps

/-- What the migration would move. -/
def incomingEntries (strOf : PyValue → String) (disk : Disk FileContent) (runHistoryDir : Path)
    (taskName accountName : String) : List PyValue :=
  if legacyHistoryFilePath runHistoryDir taskName accountName =
      historyFilePath runHistoryDir taskName accountName then []
  else
    ownedEntries strOf accountName
      (payloadOf (disk.fileAt (legacyHistoryFilePath runHistoryDir taskName accountName)))

theorem migratedPayload_nil (path : Path) :
    migratedPayload dumps disk path [] 0 = payloadOf (disk.fileAt path) := by
  unfold migratedPayload
  split
  · next content hfile =>
    rw [hfile]
    exact List.append_nil _
  · next hfile =>
    rw [hfile]
    rfl

theorem capped_of_le (hle : items.length ≤ maxEntries) : capped maxEntries items = items := by
  unfold capped
  split
  · rfl
  · exact List.take_of_length_le hle

theorem fileAt_writeOrUnlink_of_ne {other : Path} (hne : other ≠ path) :
    (writeOrUnlink disk path items).fileAt other = disk.fileAt other := by
  unfold writeOrUnlink
  split
  · rw [Disk.fileAt_removeFile, if_neg hne]
  · rw [Disk.fileAt_write, if_neg hne]

theorem migratedPayload_of_le {owned : List PyValue}
    (hle : (migratedPayload dumps disk path owned 0).length ≤ maxEntries) :
    migratedPayload dumps disk path owned maxEntries = migratedPayload dumps disk path owned 0 := by
  unfold migratedPayload at hle ⊢
  split
  · next content hfile =>
    rw [hfile] at hle
    exact capped_of_le hle
  · next hfile =>
    rw [hfile] at hle
    exact capped_of_le hle

theorem ownedEntries_nil : ownedEntries strOf accountName [] = [] := by
  unfold ownedEntries
  split
  · rfl
  · rfl

theorem payloadOf_migrate
    (hle : (migratedPayload dumps disk (historyFilePath runHistoryDir taskName accountName)
      (incomingEntries strOf disk runHistoryDir taskName accountName) 0).length ≤ maxEntries) :
    payloadOf ((migrateLegacyHistoryFile strOf dumps disk runHistoryDir taskName accountName
        maxEntries).fileAt (historyFilePath runHistoryDir taskName accountName)) =
      migratedPayload dumps disk (historyFilePath runHistoryDir taskName accountName)
        (incomingEntries strOf disk runHistoryDir taskName accountName) 0 := by
  unfold incomingEntries at hle ⊢
  simp only [migrateLegacyHistoryFile]
  by_cases hsame : legacyHistoryFilePath runHistoryDir taskName accountName =
    historyFilePath runHistoryDir taskName accountName
  · rw [if_pos (.inl hsame), if_pos hsame, migratedPayload_nil]
  · rw [if_neg hsame] at hle ⊢
    cases hlegacy : disk.fileAt (legacyHistoryFilePath runHistoryDir taskName accountName) with
    | none =>
      have hnothing : payloadOf none = [] := rfl
      rw [if_pos (.inr rfl), hnothing, ownedEntries_nil, migratedPayload_nil]
    | some content =>
      rw [hlegacy] at hle
      have hmove : ¬(legacyHistoryFilePath runHistoryDir taskName accountName =
          historyFilePath runHistoryDir taskName accountName ∨ (some content).isNone = true) := by
        rintro (heq | hnone)
        · exact hsame heq
        · cases hnone
      rw [if_neg hmove]
      split
      next hempty =>
        rw [List.isEmpty_iff.mp hempty, ownedEntries_nil, migratedPayload_nil,
          Disk.fileAt_removeFile, if_neg (Ne.symm hsame)]
      split
      next hempty => rw [List.isEmpty_iff.mp hempty, migratedPayload_nil]
      · rw [fileAt_writeOrUnlink_of_ne (Ne.symm hsame), Disk.fileAt_write, if_pos rfl,
          migratedPayload_of_le hle]
        rfl

/-! ## Recording -/

variable {account task : String} {run : Run}

@[simp]
theorem getEntry_accountName :
    getEntry (runEntry account task run) "account_name" = .str account := rfl

theorem timeOf_runEntry : timeOf strOf (runEntry account task run) = run.createdAt :=
  textOf_str strOf run.createdAt

theorem labelAllows_runEntry : labelAllows account (runEntry account task run) = true := by
  rw [labelAllows, getEntry_accountName]
  exact Bool.or_eq_true_iff.mpr (.inr (beq_self_eq_true account))

theorem payloadOf_existing (path : Path) :
    (if disk.existsAt path = true then payloadOf (disk.fileAt path) else []) =
      payloadOf (disk.fileAt path) := by
  split
  · rfl
  next habsent =>
    rw [Disk.fileAt_of_not_existsAt (Bool.not_eq_true _ ▸ habsent)]
    rfl

theorem recordRun_eq {maxEntriesPerFile : ℕ}
    (hcap : (migratedPayload dumps disk (historyFilePath runHistoryDir task account)
      (incomingEntries strOf disk runHistoryDir task account) 0).length < max 1 maxEntriesPerFile) :
    recordRun strOf dumps disk runHistoryDir account task run maxEntriesPerFile =
      (migrateLegacyHistoryFile strOf dumps disk runHistoryDir task account
        (max 1 maxEntriesPerFile)).write (historyFilePath runHistoryDir task account)
          (.json (.list (.dict (runEntry account task run) ::
            migratedPayload dumps disk (historyFilePath runHistoryDir task account)
              (incomingEntries strOf disk runHistoryDir task account) 0))) := by
  simp only [recordRun, prependHistoryEntry]
  rw [payloadOf_existing, payloadOf_migrate hcap.le, List.take_of_length_le]
  rw [List.length_cons]
  omega

theorem loadHistoryEntries_write (content : FileContent) : loadHistoryEntries strOf
        (disk.write (historyFilePath runHistoryDir taskName accountName) content) runHistoryDir
        taskName accountName =
      filterHistoryEntries strOf (payloadOf (some content)) accountName := by
  have hexists : (disk.write (historyFilePath runHistoryDir taskName accountName) content).existsAt
      (historyFilePath runHistoryDir taskName accountName) = true :=
    Disk.existsAt_write.mpr (.inl (List.prefix_refl _))
  have hresolved : resolveExistingHistoryFile
      (disk.write (historyFilePath runHistoryDir taskName accountName) content) runHistoryDir
      taskName accountName = some (historyFilePath runHistoryDir taskName accountName) :=
    if_pos hexists
  rw [loadHistoryEntries, hresolved]
  dsimp only
  rw [Disk.fileAt_write, if_pos rfl]

section Recording

variable (strOf : PyValue → String) (dumps : Config → String)
variable (disk : Disk FileContent) (runHistoryDir : Path) (account task : String) (run : Run)

abbrev shownBefore : List Config :=
  visible account (payloadOf (readable disk runHistoryDir task account))

/-- What is shown of the current file once the migration is done. -/
abbrev shownMigrated : List Config :=
  visible account (migratedPayload dumps disk (historyFilePath runHistoryDir task account)
    (incomingEntries strOf disk runHistoryDir task account) 0)

/-- Recording a run hides nothing and brings nothing back: it is not older than what is shown,
what the migration would add to a current file stands there already, and the file without an
account shows nothing where it is the one that is read. -/
structure Recordable : Prop where
  newest : ∀ entry ∈ shownBefore disk runHistoryDir account task, timeOf strOf entry ≤ run.createdAt
  migrated : ∀ content ∈ disk.fileAt (historyFilePath runHistoryDir task account),
    ∀ entry ∈ visible account (incomingEntries strOf disk runHistoryDir task account),
      dumps entry ∈ seenTexts dumps (payloadOf (some content))
  shared : disk.fileAt (historyFilePath runHistoryDir task account) = none →
    disk.fileAt (legacyHistoryFilePath runHistoryDir task account) = none →
      visible account (payloadOf (disk.fileAt (legacyHistoryFilePath runHistoryDir task))) = []

/-- Equal texts of what is migrated are shown alike. -/
def TextsTell : Prop :=
  ∀ left ∈ (incomingEntries strOf disk runHistoryDir task account).filterMap entryOf?,
    ∀ right ∈ (incomingEntries strOf disk runHistoryDir task account).filterMap entryOf?,
      dumps left = dumps right → labelAllows account left = labelAllows account right

end Recording

theorem shown_of_current {content : FileContent}
    (hcurrent : disk.fileAt (historyFilePath runHistoryDir task account) = some content) :
    shownBefore disk runHistoryDir account task = visible account (payloadOf (some content)) ∧
      shownMigrated strOf dumps disk runHistoryDir account task =
        shownBefore disk runHistoryDir account task ++
          visible account (unseenItems dumps (seenTexts dumps (payloadOf (some content)))
            (incomingEntries strOf disk runHistoryDir task account)) := by
  have hread : readable disk runHistoryDir task account = some content := by
    rw [readable, candidatePaths, List.findSome?_cons, hcurrent]
  refine ⟨by rw [shownBefore, hread], ?_⟩
  rw [shownMigrated, shownBefore, hread, ← visible_append]
  rw [migratedPayload, hcurrent]
  rfl

theorem shown_of_encoded {content : FileContent}
    (hcurrent : disk.fileAt (historyFilePath runHistoryDir task account) = none)
    (hencoded : disk.fileAt (legacyHistoryFilePath runHistoryDir task account) = some content) :
    shownMigrated strOf dumps disk runHistoryDir account task =
      shownBefore disk runHistoryDir account task := by
  have hread : readable disk runHistoryDir task account = some content := by
    rw [readable, candidatePaths, List.findSome?_cons, hcurrent, List.findSome?_cons, hencoded]
  have hapart : legacyHistoryFilePath runHistoryDir task account ≠
      historyFilePath runHistoryDir task account := by
    intro hsame
    rw [hsame, hcurrent] at hencoded
    cases hencoded
  rw [shownMigrated, shownBefore, hread]
  rw [migratedPayload, incomingEntries, hcurrent, if_neg hapart, hencoded]
  exact visible_ownedEntries _

theorem shown_of_shared (hcurrent : disk.fileAt (historyFilePath runHistoryDir task account) = none)
    (hencoded : disk.fileAt (legacyHistoryFilePath runHistoryDir task account) = none) :
    shownBefore disk runHistoryDir account task =
        visible account (payloadOf (disk.fileAt (legacyHistoryFilePath runHistoryDir task))) ∧
      shownMigrated strOf dumps disk runHistoryDir account task = [] := by
  have hread : readable disk runHistoryDir task account =
      disk.fileAt (legacyHistoryFilePath runHistoryDir task) := by
    unfold readable candidatePaths
    rw [List.findSome?_cons, hcurrent, List.findSome?_cons, hencoded, List.findSome?_cons]
    cases disk.fileAt (legacyHistoryFilePath runHistoryDir task) with
    | none => rfl
    | some content => rfl
  have hincoming : incomingEntries strOf disk runHistoryDir task account = [] := by
    unfold incomingEntries
    split
    · rfl
    · rw [hencoded]
      exact ownedEntries_nil
  refine ⟨by rw [shownBefore, hread], ?_⟩
  rw [shownMigrated, hincoming, migratedPayload_nil, hcurrent]
  rfl

theorem shown_eq_of_length
    (hlength : (shownMigrated strOf dumps disk runHistoryDir account task).length =
      (shownBefore disk runHistoryDir account task).length) :
    shownMigrated strOf dumps disk runHistoryDir account task =
      shownBefore disk runHistoryDir account task := by
  cases hcurrent : disk.fileAt (historyFilePath runHistoryDir task account) with
  | some content =>
    obtain ⟨-, hadded⟩ : _ ∧ shownMigrated strOf dumps disk runHistoryDir account task = _ :=
      shown_of_current hcurrent
    rw [hadded, List.length_append, Nat.add_eq_left, List.length_eq_zero_iff] at hlength
    rw [hadded, hlength, List.append_nil]
  | none =>
    cases hencoded : disk.fileAt (legacyHistoryFilePath runHistoryDir task account) with
    | some content => exact shown_of_encoded hcurrent hencoded
    | none =>
      obtain ⟨-, hnone⟩ : _ ∧ shownMigrated strOf dumps disk runHistoryDir account task = _ :=
        shown_of_shared hcurrent hencoded
      rw [hnone, List.length_nil] at hlength
      rw [hnone, List.length_eq_zero_iff.mp hlength.symm]

theorem shown_eq_iff (htexts : TextsTell strOf dumps disk runHistoryDir account task) :
    shownMigrated strOf dumps disk runHistoryDir account task =
        shownBefore disk runHistoryDir account task ↔
      (∀ content ∈ disk.fileAt (historyFilePath runHistoryDir task account),
        ∀ entry ∈ visible account (incomingEntries strOf disk runHistoryDir task account),
          dumps entry ∈ seenTexts dumps (payloadOf (some content))) ∧
      (disk.fileAt (historyFilePath runHistoryDir task account) = none →
        disk.fileAt (legacyHistoryFilePath runHistoryDir task account) = none →
          visible account (payloadOf (disk.fileAt (legacyHistoryFilePath runHistoryDir task))) =
            []) := by
  cases hcurrent : disk.fileAt (historyFilePath runHistoryDir task account) with
  | some content =>
    rw [(shown_of_current hcurrent).2, List.append_right_eq_self, visible_unseenItems_iff htexts]
    constructor
    · intro hseen
      refine ⟨fun other hother => ?_, nofun⟩
      cases hother
      exact hseen
    · rintro ⟨hseen, -⟩
      exact hseen content rfl
  | none =>
    refine Iff.trans ?_ (and_iff_right (by nofun)).symm
    rw [imp_iff_right rfl]
    cases hencoded : disk.fileAt (legacyHistoryFilePath runHistoryDir task account) with
    | some content => exact iff_of_true (shown_of_encoded hcurrent hencoded) nofun
    | none =>
      obtain ⟨hbefore, hmigrated⟩ : shownBefore disk runHistoryDir account task = _ ∧
            shownMigrated strOf dumps disk runHistoryDir account task = _ :=
        shown_of_shared hcurrent hencoded
      rw [hmigrated, hbefore, imp_iff_right rfl]
      exact eq_comm

theorem load_recordRun_iff {maxEntriesPerFile : ℕ}
    (hcap : (migratedPayload dumps disk (historyFilePath runHistoryDir task account)
      (incomingEntries strOf disk runHistoryDir task account) 0).length < max 1 maxEntriesPerFile)
    (hfiles : FilesOnly disk runHistoryDir task account)
    (htexts : TextsTell strOf dumps disk runHistoryDir account task) :
    loadHistoryEntries strOf
          (recordRun strOf dumps disk runHistoryDir account task run maxEntriesPerFile)
          runHistoryDir task account =
        runEntry account task run :: loadHistoryEntries strOf disk runHistoryDir task account ↔
      Recordable strOf dumps disk runHistoryDir account task run := by
  have hvisible : account = "" ∨ labelAllows account (runEntry account task run) = true :=
    .inr labelAllows_runEntry
  rw [recordRun_eq hcap, loadHistoryEntries_write, loadHistoryEntries_eq hfiles]
  refine (filterHistoryEntries_cons_eq_iff hvisible shown_eq_of_length).trans ?_
  rw [timeOf_runEntry]
  refine (and_congr_left' (shown_eq_iff htexts)).trans ?_
  constructor
  · rintro ⟨⟨hmigrated, hshared⟩, hnewest⟩
    exact ⟨hnewest, hmigrated, hshared⟩
  · rintro ⟨hnewest, hmigrated, hshared⟩
    exact ⟨⟨hmigrated, hshared⟩, hnewest⟩

/-! ## Clearing -/

/-- What is in the first of the other two files that is there. -/
def fallback (disk : Disk FileContent) (runHistoryDir : Path) (taskName accountName : String)
    (path : Path) : Option FileContent :=
  ((candidatePaths runHistoryDir taskName accountName).filter (· ≠ path)).findSome? disk.fileAt

section Clearing

variable (strOf : PyValue → String) (disk : Disk FileContent) (runHistoryDir : Path)
variable (account task : String)

/-- Where the file goes as a whole, the next one shows nothing; and without an account nothing in
it has a label. -/
def ClearableAt (path : Path) : Prop :=
  if ∀ item ∈ payloadOf (disk.fileAt path), ownedBy strOf account item = true then
    visible account (payloadOf (fallback disk runHistoryDir task account path)) = []
  else account = "" → ∀ item ∈ payloadOf (disk.fileAt path), (entryOf? item).isSome = true →
    ownedBy strOf account item = true

/-- The file that is read can be cleared. -/
def Clearable : Prop :=
  ∀ path ∈ resolveExistingHistoryFile disk runHistoryDir task account,
    ClearableAt strOf disk runHistoryDir account task path

end Clearing

theorem FilesOnly.writeOrUnlink (hfiles : FilesOnly disk runHistoryDir taskName accountName)
    {items : List PyValue} (hmem : path ∈ candidatePaths runHistoryDir taskName accountName) :
    FilesOnly (writeOrUnlink disk path items) runHistoryDir taskName accountName := by
  have hlengths : ∀ other ∈ candidatePaths runHistoryDir taskName accountName,
      other.length = runHistoryDir.length + 1 := by
    simp [candidatePaths, historyFilePath, legacyHistoryFilePath]
  intro other hother
  unfold HistoryFiles.writeOrUnlink
  split
  · exact Disk.isDir_removeFile (hfiles other hother)
  · apply Disk.isDir_write _ (hfiles other hother)
    rw [hlengths path hmem, hlengths other hother]

theorem readable_writeOrUnlink {items : List PyValue}
    (hfind : (candidatePaths runHistoryDir taskName accountName).find?
      (fun path => (disk.fileAt path).isSome) = some path) :
    readable (writeOrUnlink disk path items) runHistoryDir taskName accountName =
      if items.isEmpty then fallback disk runHistoryDir taskName accountName path
      else some (.json (.list items)) := by
  unfold readable fallback writeOrUnlink
  split
  · rw [findSome?_filter_ne]
    congr 1
    funext other
    exact Disk.fileAt_removeFile
  · have hthere := List.find?_some hfind
    have hfirst : (candidatePaths runHistoryDir taskName accountName).find?
        (fun other => ((disk.write path (.json (.list items))).fileAt other).isSome) =
          some path := by
      rw [← hfind]
      congr 1
      funext other
      rw [Disk.fileAt_write]
      split
      next hsame => rw [hsame, hthere, Option.isSome_some]
      · rfl
    rw [findSome?_of_find? hfirst, Disk.fileAt_write, if_pos rfl]

theorem filterHistoryEntries_eq_nil_iff {items : List PyValue} :
    filterHistoryEntries strOf items accountName = [] ↔ visible accountName items = [] := by
  rw [← List.length_eq_zero_iff, length_filterHistoryEntries, List.length_eq_zero_iff]

theorem visible_others_iff (items : List PyValue) :
    visible account (items.filter fun item => !ownedBy strOf account item) = [] ↔
      (account = "" → ∀ item ∈ items, (entryOf? item).isSome = true →
        ownedBy strOf account item = true) := by
  by_cases hempty : account = ""
  · rw [imp_iff_right hempty]
    constructor
    · intro hnone item hmem hentry
      obtain ⟨entry, hentry⟩ := Option.isSome_iff_exists.mp hentry
      by_contra hother
      have hkept : item ∈ items.filter fun item => !ownedBy strOf account item := by
        refine List.mem_filter.mpr ⟨hmem, ?_⟩
        rw [Bool.eq_false_iff.mpr hother]
        rfl
      have hshown : entry ∈ visible account
          (items.filter fun item => !ownedBy strOf account item) :=
        List.mem_filter.mpr
          ⟨List.mem_filterMap.mpr ⟨item, hkept, hentry⟩, decide_eq_true (.inl hempty)⟩
      rw [hnone] at hshown
      exact List.not_mem_nil hshown
    · intro hall
      rw [List.eq_nil_iff_forall_not_mem]
      intro entry hshown
      obtain ⟨item, hitem, hentry⟩ := List.mem_filterMap.mp (List.mem_filter.mp hshown).1
      obtain ⟨hmem, hother⟩ := List.mem_filter.mp hitem
      rw [hall item hmem (Option.isSome_of_eq_some hentry)] at hother
      cases hother
  · exact iff_of_true (visible_others hempty items) fun h => absurd h hempty

theorem filter_others_isEmpty_iff (items : List PyValue) :
    (items.filter fun item => !ownedBy strOf account item).isEmpty = true ↔
      ∀ item ∈ items, ownedBy strOf account item = true := by
  rw [List.isEmpty_iff, List.filter_eq_nil_iff]
  simp only [Bool.not_eq_true', Bool.not_eq_false]

/-- Reading after clearing: nothing is left, and exactly when. -/
theorem load_clearPair_iff (hfiles : FilesOnly disk runHistoryDir task account) :
    loadHistoryEntries strOf (clearPair strOf disk runHistoryDir account task) runHistoryDir task
        account = [] ↔
      Clearable strOf disk runHistoryDir account task := by
  unfold clearPair Clearable ClearableAt
  cases hresolved : resolveExistingHistoryFile disk runHistoryDir task account with
  | none =>
    refine iff_of_true ?_ nofun
    simp only [loadHistoryEntries]
    rw [hresolved]
  | some path =>
    have hfind := (resolveExistingHistoryFile_eq hfiles).symm.trans hresolved
    have hmem := List.mem_of_find?_eq_some hfind
    rw [loadHistoryEntries_eq (hfiles.writeOrUnlink hmem), filterHistoryEntries_eq_nil_iff,
      readable_writeOrUnlink hfind]
    have hpath : ∀ {condition : Path → Prop},
        (∀ other ∈ some path, condition other) ↔ condition path :=
      ⟨fun hall => hall path rfl, fun h other hother => Option.some.inj hother ▸ h⟩
    rw [hpath]
    split
    next hempty =>
      rw [if_pos ((filter_others_isEmpty_iff _).mp hempty)]
    next hothers =>
      rw [if_neg fun hall => hothers ((filter_others_isEmpty_iff _).mpr hall)]
      exact visible_others_iff _

theorem others_clearPair (other : Path) :
    (payloadOf ((clearPair strOf disk runHistoryDir account task).fileAt other)).filter
        (fun item => !ownedBy strOf account item) =
      (payloadOf (disk.fileAt other)).filter fun item => !ownedBy strOf account item := by
  unfold clearPair
  cases hresolved : resolveExistingHistoryFile disk runHistoryDir task account with
  | none => rfl
  | some path =>
    dsimp only
    by_cases hsame : other = path
    · obtain rfl := hsame
      unfold writeOrUnlink
      split
      · next hempty =>
        rw [Disk.fileAt_removeFile, if_pos rfl, List.isEmpty_iff.mp hempty]
        rfl
      · rw [Disk.fileAt_write, if_pos rfl]
        change List.filter _ (List.filter _ _) = _
        rw [List.filter_filter]
        simp only [Bool.and_self]
    · rw [fileAt_writeOrUnlink_of_ne hsame]

end Reading

/-! ## Both together -/

/-- Exactly when a run that is recorded comes before all that was read, and exactly when nothing
is read of a history that was cleared, which leaves what belongs to others as it was. -/
theorem history_after_iff (strOf : PyValue → String) (dumps : Config → String)
    (disk : Disk FileContent) (runHistoryDir : Path) (account task : String) (run : Run)
    (maxEntriesPerFile : ℕ)
    (hcap : (migratedPayload dumps disk (historyFilePath runHistoryDir task account)
      (incomingEntries strOf disk runHistoryDir task account) 0).length < max 1 maxEntriesPerFile)
    (hfiles : FilesOnly disk runHistoryDir task account)
    (htexts : TextsTell strOf dumps disk runHistoryDir account task) :
    (loadHistoryEntries strOf
          (recordRun strOf dumps disk runHistoryDir account task run maxEntriesPerFile)
          runHistoryDir task account =
        runEntry account task run :: loadHistoryEntries strOf disk runHistoryDir task account ↔
      Recordable strOf dumps disk runHistoryDir account task run) ∧
    (loadHistoryEntries strOf (clearPair strOf disk runHistoryDir account task) runHistoryDir task
          account = [] ∧
        (∀ other, (payloadOf ((clearPair strOf disk runHistoryDir account task).fileAt
            other)).filter (fun item => !ownedBy strOf account item) =
          (payloadOf (disk.fileAt other)).filter fun item => !ownedBy strOf account item) ↔
      Clearable strOf disk runHistoryDir account task) := by
  refine ⟨load_recordRun_iff hcap hfiles htexts, ?_⟩
  rw [and_iff_left others_clearPair]
  exact load_clearPair_iff hfiles

section Samples

def sampleEntry (time : String) (label : PyValue) : PyValue :=
  .dict [("time", .str time), ("success", .bool true), ("account_name", label)]

def sampleDisk : Disk FileContent where
  files :=
    [(["history", "alice__daily%5Frun.json"],
        .json (.list [sampleEntry "2026-05-02" (.str "alice")])),
      (["history", "alice__daily_run.json"], .json (.list [sampleEntry "2026-05-01" (.str "bob")])),
      (["history", "daily_run.json"], .json (.list [sampleEntry "2026-04-30" (.str "bob")]))]

/-- Only a file that has no account in its name, with an entry that has no label. -/
def sharedDisk : Disk FileContent where
  files := [(["history", "daily.json"], .json (.list [sampleEntry "2026-04-30" .none]))]

def sampleRun : Run where
  success := true
  message := "ok"
  repairedMessage := "ok"
  createdAt := "2026-05-03"
  normalizedLogs := []
  flowTruncated := false
  flowLineCount := 0
  lastTargetMessage := ""
  failureCategory := "none"

/-- `json.dumps` of such an entry. -/
def sampleText (entry : Config) : String :=
  let label := textOf (fun _ => "") (getEntry entry "account_name")
  let time := textOf (fun _ => "") (getEntry entry "time")
  "\x7b\"account_name\": \"" ++ label ++ "\", \"success\": true, \"time\": \"" ++ time ++ "\"\x7d"

instance (disk : Disk FileContent) (runHistoryDir : Path) (taskName accountName : String) :
    Decidable (FilesOnly disk runHistoryDir taskName accountName) :=
  inferInstanceAs (Decidable (∀ path ∈ candidatePaths _ _ _, _))

instance (strOf : PyValue → String) (dumps : Config → String) (disk : Disk FileContent)
    (runHistoryDir : Path) (account task : String) :
    Decidable (TextsTell strOf dumps disk runHistoryDir account task) :=
  inferInstanceAs (Decidable (∀ left ∈ _, ∀ right ∈ _, _ → _))

instance (strOf : PyValue → String) (disk : Disk FileContent) (runHistoryDir : Path)
    (account task : String) (path : Path) :
    Decidable (ClearableAt strOf disk runHistoryDir account task path) :=
  inferInstanceAs (Decidable
    (if ∀ item ∈ payloadOf (disk.fileAt path), ownedBy strOf account item = true then
      visible account (payloadOf (fallback disk runHistoryDir task account path)) = []
    else account = "" → ∀ item ∈ payloadOf (disk.fileAt path), (entryOf? item).isSome = true →
      ownedBy strOf account item = true))

instance (strOf : PyValue → String) (disk : Disk FileContent) (runHistoryDir : Path)
    (account task : String) : Decidable (Clearable strOf disk runHistoryDir account task) :=
  inferInstanceAs (Decidable (∀ path ∈ resolveExistingHistoryFile disk runHistoryDir task account,
    ClearableAt strOf disk runHistoryDir account task path))

theorem history_after_sample : loadHistoryEntries (fun _ => "")
        (recordRun (fun _ => "") sampleText sampleDisk ["history"] "alice" "daily_run" sampleRun 50)
        ["history"] "daily_run" "alice" =
      runEntry "alice" "daily_run" sampleRun ::
        loadHistoryEntries (fun _ => "") sampleDisk ["history"] "daily_run" "alice" ∧
    loadHistoryEntries (fun _ => "")
      (clearPair (fun _ => "") sampleDisk ["history"] "alice" "daily_run") ["history"] "daily_run"
      "alice" = [] := by
  have hboth := history_after_iff (fun _ => "") sampleText sampleDisk ["history"] "alice"
    "daily_run" sampleRun 50 (by decide) (by decide) (by decide)
  exact ⟨hboth.1.mpr ⟨by decide, by decide, by decide⟩, (hboth.2.mpr (by decide)).1⟩

/-- A first run hides what the file without an account shows; and once there is a current file,
clearing it shows that again. -/
theorem hidden_and_back :
    ¬((loadHistoryEntries (fun _ => "")
            (recordRun (fun _ => "") sampleText sharedDisk ["history"] "alice" "daily" sampleRun 50)
            ["history"] "daily" "alice" =
          runEntry "alice" "daily" sampleRun ::
            loadHistoryEntries (fun _ => "") sharedDisk ["history"] "daily" "alice")) ∧
      loadHistoryEntries (fun _ => "")
        (clearPair (fun _ => "")
          (recordRun (fun _ => "") sampleText sharedDisk ["history"] "alice" "daily" sampleRun 50)
          ["history"] "alice" "daily") ["history"] "daily" "alice" ≠ [] := by
  constructor
  · intro heq
    have hlengths := congrArg List.length heq
    revert hlengths
    decide +kernel
  · intro heq
    have hlengths := congrArg List.length heq
    revert hlengths
    decide +kernel

end Samples

end SignPulse.HistoryFiles
