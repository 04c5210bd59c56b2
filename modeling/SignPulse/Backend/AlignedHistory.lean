import SignPulse.Backend.IndexedHistory

/-!
# Index and files over a run

The rows of the files are those of one file and those of the others.  Each operation changes the
rows of one file, or drops those of some entries, and the index follows where the same rows go.
-/

namespace SignPulse.IndexedHistory

open Foundation
open ChainedRuns (Config getEntry)
open HistoryFiles
open HistoryIndex

/-! ## Rows of one file and of the others -/

section Rows

variable {setting : Setting} {disk : Disk FileContent} {path : Path}

theorem itemRows_append (left right : List PyValue) : itemRows setting path (left ++ right) =
      itemRows setting path left ++ itemRows setting path right := by
  unfold itemRows
  split
  · rw [List.filterMap_append, List.map_append]
  · rfl

theorem itemRows_nil : itemRows setting path [] = [] := by
  unfold itemRows
  split
  · rfl
  · rfl

theorem itemRows_perm {left right : List PyValue} (hperm : List.Perm left right) :
    List.Perm (itemRows setting path left) (itemRows setting path right) := by
  unfold itemRows
  split
  · exact (hperm.filterMap _).map _
  · exact List.Perm.refl _

/-- The keys of the files, each once. -/
def OneFileEach (disk : Disk FileContent) : Prop :=
  (Dict.keyList disk.files).Nodup

section

variable (hone : OneFileEach disk) (path : Path)

include hone

theorem historyRows_perm : List.Perm (historyRows setting disk)
      (itemRows setting path (payloadOf (disk.fileAt path)) ++
        historyRows setting (disk.removeFile path)) := by
  have hperm := (Dict.perm_popItem path hone).flatMap_right fun item =>
    itemRows setting item.1 (payloadOf (some item.2))
  rw [List.flatMap_append] at hperm
  refine hperm.trans (List.Perm.of_eq ?_)
  congr 1
  unfold Disk.fileAt
  cases Dict.getItem disk.files path with
  | none => exact itemRows_nil.symm
  | some content => exact List.append_nil _

theorem OneFileEach.write (content : FileContent) : OneFileEach (disk.write path content) :=
  Dict.nodup_setItem path content hone

theorem OneFileEach.removeFile : OneFileEach (disk.removeFile path) :=
  Dict.nodup_popItem path hone

theorem OneFileEach.writeOrUnlink (items : List PyValue) :
    OneFileEach (writeOrUnlink disk path items) := by
  unfold HistoryFiles.writeOrUnlink
  split
  · exact hone.removeFile path
  · exact hone.write path _

end

theorem removeFile_write (path : Path) (content : FileContent) :
    (disk.write path content).removeFile path = disk.removeFile path := by
  unfold Disk.removeFile Disk.write
  rw [Dict.popItem_setItem]

theorem removeFile_self (path : Path) :
    (disk.removeFile path).removeFile path = disk.removeFile path := by
  have hfiles : Dict.popItem (Dict.popItem disk.files path) path = Dict.popItem disk.files path := by
    apply Dict.popItem_of_not_mem
    rw [Dict.mem_keyList_popItem]
    exact fun hmem => hmem.2 rfl
  unfold Disk.removeFile
  rw [hfiles]

theorem historyRows_write (hone : OneFileEach disk) (path : Path) (items : List PyValue) :
    List.Perm (historyRows setting (disk.write path (.json (.list items))))
      (itemRows setting path items ++ historyRows setting (disk.removeFile path)) := by
  have hperm := @historyRows_perm setting _ (hone.write path (.json (.list items))) path
  rw [Disk.fileAt_write, if_pos rfl, removeFile_write] at hperm
  exact hperm

theorem historyRows_writeOrUnlink (hone : OneFileEach disk) (path : Path) (items : List PyValue) :
    List.Perm (historyRows setting (writeOrUnlink disk path items))
      (itemRows setting path items ++ historyRows setting (disk.removeFile path)) := by
  unfold writeOrUnlink
  split
  · next hempty =>
    rw [List.isEmpty_iff.mp hempty, itemRows_nil]
    exact List.Perm.refl _
  · exact historyRows_write hone path items

end Rows

/-! ## Rows that go -/

section Removal

variable {setting : Setting} {state : State} {disk : Disk FileContent} {filter : RowFilter}
variable {path : Path}

theorem indexRows_removeRows (index : Option (List Line)) (filter : RowFilter) :
    indexRows (removeRows index filter) = (indexRows index).filter fun row => !hits filter row := by
  unfold indexRows removeRows
  by_cases hempty : filter.stripped = {}
  · have hnone : ∀ row, hits filter row = false := by
      intro row
      simp [hits, hempty]
    rw [if_pos (.inl hempty)]
    exact (List.filter_eq_self.mpr fun row _ => by rw [hnone]; rfl).symm
  · have hhits : ∀ row, hits filter row = filter.stripped.matches row := by
      intro row
      simp [hits, hempty]
    simp only [hhits]
    rw [← entriesOf_kept]
    by_cases hnothing : filter.stripped.removed (indexLines index) = []
    · rw [if_pos (.inr hnothing), entriesOf_kept]
      refine (List.filter_eq_self.mpr fun row hmem => ?_).symm
      have hstays := List.filter_eq_nil_iff.mp hnothing row hmem
      rw [Bool.not_eq_true] at hstays
      rw [hstays]
      rfl
    · rw [if_neg (not_or.mpr ⟨hempty, hnothing⟩)]
      split
      · next hkept =>
        rw [hkept]
        rfl
      · rfl

def hitsKey (filter : RowFilter) (key : String × String × String × Bool) : Bool :=
  filter.stripped ≠ {} && (criterion filter.stripped.accountName key.1 &&
    criterion filter.stripped.taskName key.2.1 && criterion filter.stripped.createdAt key.2.2.1)

theorem map_rowKey_filter (rows : List IndexEntry) :
    (rows.filter fun row => !hits filter row).map rowKey =
      (rows.map rowKey).filter fun key => !hitsKey filter key := by
  rw [List.filter_map]
  rfl

/-- The index stays aligned where the same rows go from the files. -/
theorem aligned_removedWith (haligned : Aligned setting state)
    (hgo : List.Perm ((historyRows setting state.disk).filter fun row => !hits filter row)
      (historyRows setting disk)) :
    Aligned setting (removedWith state disk filter) := by
  have hindex : List.Perm ((indexRows (removeRows state.index filter)).map rowKey)
      (((historyRows setting state.disk).filter fun row => !hits filter row).map rowKey) := by
    rw [indexRows_removeRows, map_rowKey_filter, map_rowKey_filter]
    exact haligned.filter _
  exact hindex.trans (hgo.map rowKey)

theorem filterMap_filter (items : List PyValue) (goes : PyValue → Bool)
    (hothers : ∀ item, entryOf? item = none → goes item = false) :
    (items.filter fun item => !goes item).filterMap entryOf? =
      (items.filterMap entryOf?).filter fun entry => !goes (.dict entry) := by
  induction items with
  | nil => rfl
  | cons item rest ih =>
    rw [List.filter_cons]
    cases item with
    | dict entry =>
      have hentry : entryOf? (.dict entry) = some entry := rfl
      rw [List.filterMap_cons_some hentry, List.filter_cons]
      split
      · rw [List.filterMap_cons_some hentry, ih]
      · exact ih
    | _ =>
      rw [if_pos (by rw [hothers _ rfl]; rfl)]
      exact ih

theorem itemRows_filter {items : List PyValue} {goes : PyValue → Bool}
    (hothers : ∀ item, entryOf? item = none → goes item = false)
    (hsame : isHistoryFile setting.runHistoryDir path = true → ∀ entry ∈ items.filterMap entryOf?,
        goes (.dict entry) = hits filter (rowOf setting path entry)) :
    itemRows setting path (items.filter fun item => !goes item) =
      (itemRows setting path items).filter fun row => !hits filter row := by
  unfold itemRows
  split
  · next hhistory =>
    rw [filterMap_filter items goes hothers, List.filter_map]
    congr 1
    refine List.filter_congr fun entry hmem => ?_
    rw [hsame hhistory entry hmem]
    rfl
  · rfl

theorem mem_itemRows {items : List PyValue} {row : IndexEntry}
    (hrow : row ∈ itemRows setting path items) :
    isHistoryFile setting.runHistoryDir path = true ∧
      ∃ entry ∈ items.filterMap entryOf?, rowOf setting path entry = row := by
  unfold itemRows at hrow
  split at hrow
  · next hhistory => exact ⟨hhistory, List.mem_map.mp hrow⟩
  · cases hrow

theorem filter_of_stays {rows : List IndexEntry} (hstays : ∀ row ∈ rows, hits filter row = false) :
    (rows.filter fun row => !hits filter row) = rows := by
  refine List.filter_eq_self.mpr fun row hmem => ?_
  rw [hstays row hmem]
  rfl

theorem rowsGo_oneFile {goes : Path → Config → Bool} {test : PyValue → Bool}
    (hone : OneFileEach disk) (hsame : SameGo setting disk filter goes)
    (hothers : ∀ item, entryOf? item = none → test item = false)
    (htest : ∀ entry, test (.dict entry) = goes path entry)
    (helse : ∀ other entry, other ≠ path → goes other entry = false) :
    List.Perm ((historyRows setting disk).filter fun row => !hits filter row)
      (historyRows setting (writeOrUnlink disk path
        ((payloadOf (disk.fileAt path)).filter fun item => !test item))) := by
  refine ((historyRows_perm hone path).filter _).trans ?_
  refine List.Perm.trans ?_ (historyRows_writeOrUnlink hone path _).symm
  rw [List.filter_append]
  refine List.Perm.append (List.Perm.of_eq (itemRows_filter hothers ?_).symm)
    (List.Perm.of_eq (filter_of_stays ?_))
  · intro hhistory entry hentry
    rw [htest]
    cases hfile : disk.fileAt path with
    | none =>
      rw [hfile] at hentry
      cases hentry
    | some content =>
      rw [hfile] at hentry
      exact hsame (path, content) (Dict.mem_of_getItem hfile) hhistory entry hentry
  · intro row hrow
    obtain ⟨item, hitem, hrow⟩ := List.mem_flatMap.mp hrow
    obtain ⟨hhistory, entry, hentry, rfl⟩ := mem_itemRows hrow
    obtain ⟨hfiles, hne⟩ := List.mem_filter.mp hitem
    rw [← hsame item hfiles hhistory entry hentry]
    exact helse item.1 entry (of_decide_eq_true hne)

theorem rowsGo_eachHistoryFile {goes : Path → Config → Bool}
    {change : Path → FileContent → Option FileContent}
    (hsame : SameGo setting disk filter goes)
    (hchange : ∀ path content,
      (((change path content).map fun after => payloadOf (some after)).getD []).filterMap entryOf? =
        ((payloadOf (some content)).filterMap entryOf?).filter fun entry => !goes path entry) :
    ((historyRows setting disk).filter fun row => !hits filter row) =
      historyRows setting (eachHistoryFile disk setting.runHistoryDir change) := by
  have hfiles : ∀ files : Dict Path FileContent,
      (∀ item ∈ files, isHistoryFile setting.runHistoryDir item.1 = true →
        ∀ entry ∈ (payloadOf (some item.2)).filterMap entryOf?,
          goes item.1 entry = hits filter (rowOf setting item.1 entry)) →
      ((files.flatMap fun item => itemRows setting item.1 (payloadOf (some item.2))).filter
          fun row => !hits filter row) =
        (files.filterMap fun item =>
          if isHistoryFile setting.runHistoryDir item.1 then
            (change item.1 item.2).map (item.1, ·)
          else some item).flatMap fun item =>
            itemRows setting item.1 (payloadOf (some item.2)) := by
    intro files
    induction files with
    | nil => exact fun _ => rfl
    | cons item rest ih =>
      intro hgo
      obtain ⟨hitem, hrest⟩ := List.forall_mem_cons.mp hgo
      rw [List.flatMap_cons, List.filter_append, ih hrest, List.filterMap_cons]
      by_cases hhistory : isHistoryFile setting.runHistoryDir item.1 = true
      · have hrows : ((itemRows setting item.1 (payloadOf (some item.2))).filter
            fun row => !hits filter row) =
            ((((change item.1 item.2).map fun after => payloadOf (some after)).getD []).filterMap
              entryOf?).map (rowOf setting item.1) := by
          rw [hchange]
          rw [itemRows, if_pos hhistory, List.filter_map]
          congr 1
          refine List.filter_congr fun entry hmem => ?_
          rw [hitem hhistory entry hmem]
          rfl
        rw [if_pos hhistory, hrows]
        cases change item.1 item.2 with
        | none => rfl
        | some after =>
          dsimp only [Option.map_some, Option.getD_some]
          rw [List.flatMap_cons]
          rw [itemRows, if_pos hhistory]
      · have hnone : itemRows setting item.1 (payloadOf (some item.2)) = [] := if_neg hhistory
        rw [if_neg hhistory]
        rw [List.flatMap_cons, hnone]
        rfl
  exact hfiles disk.files hsame

end Removal

/-! ## Deleting and clearing -/

section Clearing

variable {setting : Setting} {disk : Disk FileContent} {account task : String}

theorem perm_eraseP {items : List PyValue} {test : PyValue → Bool} {item : PyValue}
    (hfind : items.find? test = some item) : List.Perm items (item :: items.eraseP test) := by
  obtain ⟨htest, before, after, rfl, hbefore⟩ := List.find?_eq_some_iff_append.mp hfind
  have hnone : ∀ other ∈ before, ¬test other = true := by
    intro other hmem
    simpa using hbefore other hmem
  rw [List.eraseP_append_right _ hnone, List.eraseP_cons_of_pos htest]
  exact List.perm_middle

variable {filter : RowFilter}

theorem rowsGo_delete {path : Path} {test : PyValue → Bool} {item : PyValue}
    (hone : OneFileEach disk) (hfind : (payloadOf (disk.fileAt path)).find? test = some item)
    (hhit : ∀ row ∈ itemRows setting path [item], hits filter row = true)
    (hcount : (historyRows setting disk).countP (hits filter) =
      (itemRows setting path [item]).length) :
    List.Perm ((historyRows setting disk).filter fun row => !hits filter row)
      (historyRows setting
        (writeOrUnlink disk path ((payloadOf (disk.fileAt path)).eraseP test))) := by
  have hitems := @itemRows_perm setting path _ _ (perm_eraseP hfind)
  rw [← List.singleton_append, itemRows_append] at hitems
  have hrows : List.Perm (historyRows setting disk) (itemRows setting path [item] ++
      historyRows setting
        (writeOrUnlink disk path ((payloadOf (disk.fileAt path)).eraseP test))) := by
    refine (historyRows_perm hone path).trans ?_
    refine (hitems.append_right _).trans ?_
    rw [List.append_assoc]
    exact (historyRows_writeOrUnlink hone path _).symm.append_left _
  have hothers : ∀ row ∈ historyRows setting
      (writeOrUnlink disk path ((payloadOf (disk.fileAt path)).eraseP test)),
      hits filter row = false := by
    have htotal := hrows.countP_eq (hits filter)
    rw [hcount, List.countP_append, List.countP_eq_length.mpr hhit] at htotal
    intro row hrow
    exact Bool.eq_false_iff.mpr (List.countP_eq_zero.mp (by omega) row hrow)
  have hgone : ((itemRows setting path [item]).filter fun row => !hits filter row) = [] := by
    refine List.filter_eq_nil_iff.mpr fun row hrow => ?_
    rw [hhit row hrow]
    exact Bool.false_ne_true
  refine (hrows.filter _).trans (List.Perm.of_eq ?_)
  rw [List.filter_append, hgone, List.nil_append, filter_of_stays hothers]

theorem OneFileEach.eachHistoryFile (hone : OneFileEach disk) (runHistoryDir : Path)
    (change : Path → FileContent → Option FileContent) :
    OneFileEach (eachHistoryFile disk runHistoryDir change) := by
  have hkeys : ∀ files : Dict Path FileContent,
      List.Sublist (Dict.keyList (files.filterMap fun item =>
        if isHistoryFile runHistoryDir item.1 then (change item.1 item.2).map (item.1, ·)
        else some item)) (Dict.keyList files) := by
    intro files
    induction files with
    | nil => exact List.Sublist.refl _
    | cons item rest ih =>
      rw [List.filterMap_cons]
      split
      · exact ih.cons _
      · next found hfound =>
        have hkey : found.1 = item.1 := by
          split at hfound
          · obtain ⟨after, -, rfl⟩ := Option.map_eq_some_iff.mp hfound
            rfl
          · rw [Option.some.inj hfound]
        change List.Sublist (found.1 :: Dict.keyList _) (item.1 :: Dict.keyList rest)
        rw [hkey]
        exact ih.cons_cons _
  exact hone.sublist (hkeys disk.files)

theorem historyRows_clearAll : historyRows setting (clearAll disk setting.runHistoryDir) = [] := by
  refine List.flatMap_eq_nil_iff.mpr fun item hitem => ?_
  obtain ⟨old, -, hold⟩ := List.mem_filterMap.mp hitem
  split at hold
  · cases hold
  · next hhistory =>
    cases hold
    exact if_neg hhistory

theorem rowsGo_clearPair (hone : OneFileEach disk)
    (hsame : SameGo setting disk filter fun path entry =>
      resolveExistingHistoryFile disk setting.runHistoryDir task account = some path &&
        ownedBy setting.strOf account (.dict entry)) :
    List.Perm ((historyRows setting disk).filter fun row => !hits filter row)
      (historyRows setting (clearPair setting.strOf disk setting.runHistoryDir account task)) := by
  unfold clearPair
  cases hresolve : resolveExistingHistoryFile disk setting.runHistoryDir task account with
  | none =>
    refine List.Perm.of_eq (filter_of_stays fun row hrow => ?_)
    obtain ⟨item, hitem, hrow⟩ := List.mem_flatMap.mp hrow
    obtain ⟨hhistory, entry, hentry, rfl⟩ := mem_itemRows hrow
    rw [← hsame item hitem hhistory entry hentry, hresolve]
    rfl
  | some path =>
    refine rowsGo_oneFile hone hsame (fun item hitem => ?_) (fun entry => ?_)
      fun other entry hne => ?_
    · cases item with
      | dict entry => cases hitem
      | _ => rfl
    · rw [hresolve, decide_eq_true rfl, Bool.true_and]
    · rw [hresolve, decide_eq_false (fun heq => hne (Option.some.inj heq).symm), Bool.false_and]

theorem rowsGo_clearAccount (hsame : SameGo setting disk filter fun path entry =>
      mayHold account path && ownedIn setting.strOf account (historyFileOwner path) (.dict entry)) :
    ((historyRows setting disk).filter fun row => !hits filter row) = historyRows setting
        (clearAccount setting.strOf disk setting.runHistoryDir account) := by
  refine rowsGo_eachHistoryFile hsame fun path content => ?_
  have hothers : ∀ item, entryOf? item = none →
      ownedIn setting.strOf account (historyFileOwner path) item = false := by
    intro item hitem
    cases item with
    | dict entry => cases hitem
    | _ => rfl
  have hkept := filterMap_filter (payloadOf (some content))
    (ownedIn setting.strOf account (historyFileOwner path)) hothers
  simp only [clearAccountFile]
  split
  · next hgoes =>
    obtain ⟨hmay, -⟩ := (Bool.and_eq_true _ _).mp hgoes
    simp only [hmay, Bool.true_and]
    rw [← hkept]
    split
    · next hempty =>
      rw [List.isEmpty_iff.mp hempty]
      rfl
    · rfl
  · next hstays =>
    refine (List.filter_eq_self.mpr fun entry hentry => ?_).symm
    have hnot : ¬(mayHold account path &&
        ownedIn setting.strOf account (historyFileOwner path) (.dict entry)) = true := by
      intro hgoes
      obtain ⟨hmay, hown⟩ := (Bool.and_eq_true _ _).mp hgoes
      obtain ⟨item, hitem, heq⟩ := List.mem_filterMap.mp hentry
      have hdict : item = .dict entry := by
        cases item with
        | dict found => rw [Option.some.inj heq]
        | _ => cases heq
      exact hstays ((Bool.and_eq_true _ _).mpr
        ⟨hmay, List.any_eq_true.mpr ⟨item, hitem, by rw [hdict]; exact hown⟩⟩)
    rw [Bool.not_eq_true] at hnot
    rw [hnot]
    rfl

theorem rowsGo_clearTask (hsame : SameGo setting disk filter fun path _ =>
      taskPart path = safeHistoryKey task || unsafeHistoryKey (taskPart path) = task) :
    ((historyRows setting disk).filter fun row => !hits filter row) =
      historyRows setting (clearTask disk setting.runHistoryDir task) := by
  refine rowsGo_eachHistoryFile hsame fun path content => ?_
  unfold clearTaskFile
  by_cases hgoes : taskPart path = safeHistoryKey task ∨ unsafeHistoryKey (taskPart path) = task
  · rw [if_pos hgoes]
    refine (List.filter_eq_nil_iff.mpr fun entry _ => ?_).symm
    simpa only [Bool.not_eq_true', Bool.or_eq_false_iff, decide_eq_false_iff_not, not_and_or,
      Decidable.not_not] using hgoes
  · rw [if_neg hgoes]
    refine (List.filter_eq_self.mpr fun entry _ => ?_).symm
    simpa only [Bool.not_eq_true', Bool.or_eq_false_iff, decide_eq_false_iff_not, not_or]
      using hgoes

end Clearing

/-! ## Migrating -/

section Migration

variable {setting : Setting} {disk : Disk FileContent} {account task : String}

theorem unseenItems_eq {dumps : Config → String} {seen : List String} {items : List PyValue}
    (hnodup : ((items.filterMap entryOf?).map dumps).Nodup)
    (hunseen : ∀ entry ∈ items.filterMap entryOf?, dumps entry ∉ seen) :
    unseenItems dumps seen items = items := by
  induction items generalizing seen with
  | nil => rfl
  | cons item rest ih =>
    cases item with
    | dict entry =>
      have hentries : (PyValue.dict entry :: rest).filterMap entryOf? =
          entry :: rest.filterMap entryOf? := List.filterMap_cons_some rfl
      rw [hentries] at hnodup hunseen
      rw [List.map_cons, List.nodup_cons] at hnodup
      obtain ⟨hentry, hrest⟩ := List.forall_mem_cons.mp hunseen
      unfold unseenItems
      rw [if_neg hentry, ih hnodup.2]
      intro other hother hseen
      rcases List.mem_cons.mp hseen with heq | hold
      · exact hnodup.1 (heq ▸ List.mem_map_of_mem hother)
      · exact hrest other hother hold
    | _ =>
      unfold unseenItems
      rw [ih hnodup hunseen]

theorem owned_append_others (items : List PyValue) :
    List.Perm (ownedEntries setting.strOf account items ++
      otherEntries setting.strOf account items) items := by
  unfold ownedEntries otherEntries
  split
  · rw [List.append_nil]
  · exact List.filter_append_perm _ _

theorem removeFile_comm (left right : Path) :
    (disk.removeFile left).removeFile right = (disk.removeFile right).removeFile left := by
  have hfiles : Dict.popItem (Dict.popItem disk.files left) right =
      Dict.popItem (Dict.popItem disk.files right) left := List.filter_comm _ _ _
  unfold Disk.removeFile
  rw [hfiles]

theorem removeFile_writeOrUnlink (path : Path) (items : List PyValue) :
    (writeOrUnlink disk path items).removeFile path = disk.removeFile path := by
  unfold writeOrUnlink
  split
  · exact removeFile_self path
  · exact removeFile_write path _

theorem historyRows_two {first second : Path} (hone : OneFileEach disk) (hne : second ≠ first) :
    List.Perm (historyRows setting disk)
      (itemRows setting first (payloadOf (disk.fileAt first)) ++
        (itemRows setting second (payloadOf (disk.fileAt second)) ++
          historyRows setting ((disk.removeFile first).removeFile second))) := by
  have hsecond := @historyRows_perm setting _ (hone.removeFile first) second
  rw [Disk.fileAt_removeFile, if_neg hne] at hsecond
  exact (historyRows_perm hone first).trans (hsecond.append_left _)

variable {maxEntries : ℕ}

theorem OneFileEach.migrate (hone : OneFileEach disk) :
    OneFileEach (migrateLegacyHistoryFile setting.strOf setting.dumps disk setting.runHistoryDir
      task account maxEntries) := by
  simp only [migrateLegacyHistoryFile]
  split
  · exact hone
  · split
    · exact hone.removeFile _
    · split
      · exact hone
      · exact (hone.write _ _).writeOrUnlink _ _

theorem migrate_frame :
    ((migrateLegacyHistoryFile setting.strOf setting.dumps disk setting.runHistoryDir task account
        maxEntries).removeFile (historyFilePath setting.runHistoryDir task account)).removeFile
          (legacyHistoryFilePath setting.runHistoryDir task account) =
      (disk.removeFile (historyFilePath setting.runHistoryDir task account)).removeFile
        (legacyHistoryFilePath setting.runHistoryDir task account) := by
  simp only [migrateLegacyHistoryFile]
  split
  · rfl
  · split
    · rw [removeFile_comm, removeFile_self, removeFile_comm]
    · split
      · rfl
      · rw [removeFile_comm, removeFile_writeOrUnlink, removeFile_comm, removeFile_write]

theorem payloadOf_writeOrUnlink (path : Path) (items : List PyValue) :
    payloadOf ((writeOrUnlink disk path items).fileAt path) = items := by
  unfold writeOrUnlink
  split
  · next hempty =>
    rw [Disk.fileAt_removeFile, if_pos rfl, List.isEmpty_iff.mp hempty]
    rfl
  · rw [Disk.fileAt_write, if_pos rfl]
    rfl

/-- Where nothing belongs to the account, all belongs to others. -/
theorem otherEntries_of_isEmpty {items : List PyValue}
    (hempty : (ownedEntries setting.strOf account items).isEmpty = true) :
    otherEntries setting.strOf account items = items := by
  rw [List.isEmpty_iff] at hempty
  unfold ownedEntries at hempty
  unfold otherEntries
  split
  · next hnone =>
    rw [if_pos hnone] at hempty
    exact hempty.symm
  · next hsome =>
    rw [if_neg hsome] at hempty
    refine List.filter_eq_self.mpr fun item hmem => ?_
    have hother := List.filter_eq_nil_iff.mp hempty item hmem
    rw [Bool.not_eq_true] at hother
    rw [hother]
    rfl

theorem otherEntries_nil : otherEntries setting.strOf account [] = [] := by
  unfold otherEntries
  split
  · rfl
  · rfl

theorem payloadOf_migrate_legacy
    (hne : legacyHistoryFilePath setting.runHistoryDir task account ≠
      historyFilePath setting.runHistoryDir task account) :
    payloadOf ((migrateLegacyHistoryFile setting.strOf setting.dumps disk setting.runHistoryDir task
        account maxEntries).fileAt (legacyHistoryFilePath setting.runHistoryDir task account)) =
      otherEntries setting.strOf account
        (payloadOf (disk.fileAt (legacyHistoryFilePath setting.runHistoryDir task account))) := by
  simp only [migrateLegacyHistoryFile]
  split
  · next hnothing =>
    have hmissing := Option.isNone_iff_eq_none.mp (hnothing.resolve_left hne)
    rw [hmissing]
    exact otherEntries_nil.symm
  · split
    · next hempty =>
      rw [List.isEmpty_iff.mp hempty, Disk.fileAt_removeFile, if_pos rfl]
      exact otherEntries_nil.symm
    · split
      · next hnone => exact (otherEntries_of_isEmpty hnone).symm
      · exact payloadOf_writeOrUnlink _ _

theorem historyRows_write_migrate (hone : OneFileEach disk)
    (hne : legacyHistoryFilePath setting.runHistoryDir task account ≠
      historyFilePath setting.runHistoryDir task account) (items : List PyValue) :
    List.Perm
      (historyRows setting ((migrateLegacyHistoryFile setting.strOf setting.dumps disk
        setting.runHistoryDir task account maxEntries).write
          (historyFilePath setting.runHistoryDir task account) (.json (.list items))))
      (itemRows setting (historyFilePath setting.runHistoryDir task account) items ++
        (itemRows setting (legacyHistoryFilePath setting.runHistoryDir task account)
          (otherEntries setting.strOf account
            (payloadOf (disk.fileAt (legacyHistoryFilePath setting.runHistoryDir task account)))) ++
          historyRows setting
            ((disk.removeFile (historyFilePath setting.runHistoryDir task account)).removeFile
              (legacyHistoryFilePath setting.runHistoryDir task account)))) := by
  have hmigrated := @OneFileEach.migrate setting disk account task maxEntries hone
  refine (historyRows_write hmigrated _ items).trans (List.Perm.append_left _ ?_)
  have hlegacy := @historyRows_perm setting _ (hmigrated.removeFile
    (historyFilePath setting.runHistoryDir task account))
    (legacyHistoryFilePath setting.runHistoryDir task account)
  rwa [Disk.fileAt_removeFile, if_neg hne, payloadOf_migrate_legacy hne, migrate_frame] at hlegacy

theorem itemRows_migratedPayload {incoming : List PyValue} {path : Path}
    (hunseen : ∀ content ∈ disk.fileAt path,
      ((incoming.filterMap entryOf?).map setting.dumps).Nodup ∧
        ∀ entry ∈ incoming.filterMap entryOf?,
          setting.dumps entry ∉ seenTexts setting.dumps (payloadOf (some content))) :
    itemRows setting path (migratedPayload setting.dumps disk path incoming 0) =
      itemRows setting path (payloadOf (disk.fileAt path)) ++ itemRows setting path incoming := by
  unfold migratedPayload
  cases hfile : disk.fileAt path with
  | none =>
    have hnone : itemRows setting path (payloadOf none) = [] := itemRows_nil
    rw [hnone, List.nil_append]
    rfl
  | some content =>
    obtain ⟨hnodup, hnew⟩ := hunseen content hfile
    dsimp only
    rw [mergeHistoryPayloads, capped, if_pos rfl, unseenItems_eq hnodup hnew, itemRows_append]

end Migration

/-! ## Recording -/

section Recording

variable {setting : Setting} {disk : Disk FileContent} {account task : String} {run : Run}

theorem beforeSeparator_of_not_mem {chars : List Char} (hchars : '_' ∉ chars) :
    beforeSeparator chars = none := by
  induction chars with
  | nil => rfl
  | cons first rest ih =>
    have hfirst : first ≠ '_' := by
      rintro rfl
      exact hchars List.mem_cons_self
    unfold beforeSeparator
    rw [if_neg fun h => hfirst h.1, ih fun hmem => hchars (List.mem_cons_of_mem _ hmem)]
    rfl

theorem isHistoryFile_historyFilePath (runHistoryDir : Path) :
    isHistoryFile runHistoryDir (historyFilePath runHistoryDir task account) = true := by
  have hname : ∃ key rest : String, '_' ∉ key.toList ∧ key.toList ≠ [] ∧
      historyFileName task account = key ++ rest ++ ".json" := by
    unfold historyFileName
    split
    · refine ⟨safeHistoryKey account, "__" ++ safeHistoryKey task,
        underscore_not_mem_safeHistoryKey, safeHistoryKey_ne_nil, ?_⟩
      exact congrArg (· ++ ".json") (String.append_assoc)
    · refine ⟨safeHistoryKey task, "", underscore_not_mem_safeHistoryKey, safeHistoryKey_ne_nil, ?_⟩
      rw [String.append_empty]
  obtain ⟨key, rest, hkey, hne, hname⟩ := hname
  unfold isHistoryFile historyFilePath
  rw [List.getLastD_concat, List.dropLast_concat, hname]
  have hsuffix : ".json".toList.isSuffixOf (key ++ rest ++ ".json").toList = true := by
    rw [List.isSuffixOf_iff_suffix, String.toList_append]
    exact List.suffix_append _ _
  have hhead : (key ++ rest ++ ".json").toList.head? ≠ some '_' := by
    rw [String.toList_append, String.toList_append, List.append_assoc,
      List.head?_append_of_ne_nil _ hne]
    exact fun hfirst => hkey (List.mem_of_head? hfirst)
  dsimp only
  rw [hsuffix, decide_eq_true rfl, decide_eq_true hhead]
  rfl

theorem textOr_str {text part : String} (htext : text ≠ "" ∨ part = "") :
    textOr setting (.str text) part = text := by
  unfold textOr
  by_cases hempty : text = ""
  · subst hempty
    exact htext.resolve_left fun hne => hne rfl
  · have htrue : ChainedRuns.isTrue (.str text) = true := bne_iff_ne.mpr hempty
    rw [if_pos htrue, textOf_str]

theorem accountPart_empty (runHistoryDir : Path) :
    accountPart (historyFilePath runHistoryDir task "") = "" := by
  have hstem : safeHistoryKey task ≠ "" := by
    intro hempty
    exact safeHistoryKey_ne_nil (congrArg String.toList hempty)
  have hname : historyFileName task "" = safeHistoryKey task ++ ".json" := if_neg fun hne => hne rfl
  unfold accountPart historyFilePath
  rw [List.getLastD_concat, hname, fileStem_json hstem,
    beforeSeparator_of_not_mem underscore_not_mem_safeHistoryKey]
  rfl

theorem rowKey_runEntry (htask : task ≠ "") :
    rowKey (rowOf setting (historyFilePath setting.runHistoryDir task account)
      (runEntry account task run)) = rowKey (runRow account task run) := by
  have haccount : textOr setting (.str account)
      (accountPart (historyFilePath setting.runHistoryDir task account)) = account := by
    refine textOr_str ?_
    by_cases hempty : account = ""
    · right
      rw [hempty]
      exact accountPart_empty _
    · exact .inl hempty
  have htaskName : textOr setting (.str task)
      (taskPart (historyFilePath setting.runHistoryDir task account)) = task :=
    textOr_str (.inl htask)
  have hentry : getEntry (runEntry account task run) "task_name" = .str task := by
    unfold runEntry buildHistoryRunEntry
    cases run.workflowPath with
    | none => rfl
    | some path => rfl
  simp only [rowOf, runRow, buildIndexEntry, rowKey]
  rw [getEntry_accountName, hentry, haccount, htaskName, timeOf_runEntry]
  rfl

theorem rowKeys_migrated {incoming : List PyValue}
    (hkeeps : KeepsRows setting disk account task (incoming.filterMap entryOf?)) :
    (itemRows setting (historyFilePath setting.runHistoryDir task account) incoming).map rowKey =
      (itemRows setting (legacyHistoryFilePath setting.runHistoryDir task account) incoming).map
        rowKey := by
  have hcurrent := @isHistoryFile_historyFilePath account task setting.runHistoryDir
  unfold itemRows
  by_cases hnone : incoming.filterMap entryOf? = []
  · rw [hnone, List.map_nil, List.map_nil, ite_self, ite_self]
  · rw [if_pos hcurrent, if_pos (hkeeps.counted hnone), List.map_map, List.map_map]
    refine List.map_congr_left fun entry hmem => ?_
    rw [Function.comp_apply, Function.comp_apply, hkeeps.same entry hmem]

theorem rows_recordRun (hone : OneFileEach disk)
    (hcap : (migratedPayload setting.dumps disk (historyFilePath setting.runHistoryDir task account)
      (incomingEntries setting.strOf disk setting.runHistoryDir task account) 0).length <
        max 1 setting.maxEntriesPerFile)
    (hkeeps : KeepsRows setting disk account task
      ((incomingEntries setting.strOf disk setting.runHistoryDir task account).filterMap
        entryOf?)) :
    List.Perm ((historyRows setting (recordRun setting.strOf setting.dumps disk
        setting.runHistoryDir account task run setting.maxEntriesPerFile)).map rowKey)
      (rowKey (rowOf setting (historyFilePath setting.runHistoryDir task account)
        (runEntry account task run)) :: (historyRows setting disk).map rowKey) := by
  have hrun : ∀ items : List PyValue,
      itemRows setting (historyFilePath setting.runHistoryDir task account)
        (.dict (runEntry account task run) :: items) =
      rowOf setting (historyFilePath setting.runHistoryDir task account)
        (runEntry account task run) ::
          itemRows setting (historyFilePath setting.runHistoryDir task account) items := by
    intro items
    unfold itemRows
    rw [if_pos (isHistoryFile_historyFilePath _), if_pos (isHistoryFile_historyFilePath _)]
    rfl
  rw [recordRun_eq hcap]
  by_cases hsame : legacyHistoryFilePath setting.runHistoryDir task account =
    historyFilePath setting.runHistoryDir task account
  · have hincoming : incomingEntries setting.strOf disk setting.runHistoryDir task account = [] :=
      if_pos hsame
    have hmigrate : migrateLegacyHistoryFile setting.strOf setting.dumps disk
        setting.runHistoryDir task account (max 1 setting.maxEntriesPerFile) = disk :=
      if_pos (.inl hsame)
    rw [hincoming, hmigrate, migratedPayload_nil]
    have hrows := @historyRows_write setting disk hone
      (historyFilePath setting.runHistoryDir task account)
      (.dict (runEntry account task run) ::
        payloadOf (disk.fileAt (historyFilePath setting.runHistoryDir task account)))
    rw [hrun, List.cons_append] at hrows
    exact (hrows.trans ((historyRows_perm hone _).symm.cons _)).map rowKey
  · have howned : incomingEntries setting.strOf disk setting.runHistoryDir task account =
        ownedEntries setting.strOf account (payloadOf
          (disk.fileAt (legacyHistoryFilePath setting.runHistoryDir task account))) :=
      if_neg hsame
    have hitems := @owned_append_others setting account (payloadOf
      (disk.fileAt (legacyHistoryFilePath setting.runHistoryDir task account)))
    rw [← howned] at hitems
    have hlegacy := (@itemRows_perm setting
      (legacyHistoryFilePath setting.runHistoryDir task account) _ _ hitems).symm
    rw [itemRows_append] at hlegacy
    have hbefore := @historyRows_two setting disk
      (historyFilePath setting.runHistoryDir task account) _ hone hsame
    have hafter := @historyRows_write_migrate setting disk account task
      (max 1 setting.maxEntriesPerFile) hone hsame
      (.dict (runEntry account task run) :: migratedPayload setting.dumps disk
        (historyFilePath setting.runHistoryDir task account)
        (incomingEntries setting.strOf disk setting.runHistoryDir task account) 0)
    rw [hrun, itemRows_migratedPayload hkeeps.unseen] at hafter
    have hrest := (hbefore.trans ((hlegacy.append_right _).append_left _)).map rowKey
    refine (hafter.map rowKey).trans (List.Perm.trans (List.Perm.of_eq ?_) (hrest.symm.cons _))
    simp only [List.map_append, List.map_cons, List.cons_append, List.append_assoc,
      rowKeys_migrated hkeeps]

end Recording

/-! ## Every run -/

section Runs

variable {setting : Setting} {state next : State} {action : Action}

theorem indexRows_appendRow {index : Option (List Line)} {entry : IndexEntry}
    (hroom : (indexLines index).length < setting.maxLines) :
    indexRows (appendRow setting index entry) = indexRows index ++ [entry] := by
  have hlength : (indexLines index ++ [Line.entry entry]).length ≤ setting.maxLines := by
    rw [List.length_append, List.length_singleton]
    exact hroom
  have hkept : IndexMemory.trimmed setting.sizeOf setting.maxLines
      (indexLines index ++ [.entry entry]) = indexLines index ++ [.entry entry] :=
    if_pos (.inr hlength)
  rw [indexRows, appendRow, hkept]
  exact entriesOf_append _ _

variable {disk after : Disk FileContent} {strOf : PyValue → String} {runHistoryDir : Path}
variable {task : String}

theorem indexRows_rebuiltIndex (hroom : (historyRows setting disk).length ≤ setting.maxLines) :
    List.Perm (indexRows (rebuiltIndex setting disk)) (historyRows setting disk) := by
  have hlength : (sortedEntries (historyRows setting disk)).length ≤ setting.maxLines := by
    rw [(sortedEntries_perm _).length_eq]
    exact hroom
  have hall : lastItems setting.maxLines (sortedEntries (historyRows setting disk)) =
      sortedEntries (historyRows setting disk) := by
    unfold lastItems
    split
    · rfl
    · rw [Nat.sub_eq_zero_of_le hlength]
      rfl
  change List.Perm (entriesOf ((lastItems setting.maxLines
    (sortedEntries (historyRows setting disk))).map Line.entry)) _
  rw [hall, entriesOf_map_entry]
  exact sortedEntries_perm _

theorem of_deleteHistoryEntry {account createdAt : String}
    (hdelete : deleteHistoryEntry strOf disk runHistoryDir account task createdAt = some after) :
    pyStrip createdAt ≠ "" ∧ ∃ path item,
      resolveExistingHistoryFile disk runHistoryDir task account = some path ∧
      (payloadOf (disk.fileAt path)).find?
        (isDeleted strOf path account (pyStrip createdAt)) = some item ∧
      after = writeOrUnlink disk path ((payloadOf (disk.fileAt path)).eraseP
        (isDeleted strOf path account (pyStrip createdAt))) := by
  simp only [deleteHistoryEntry] at hdelete
  split at hdelete
  · cases hdelete
  · next htime =>
    obtain ⟨path, hresolve, hdelete⟩ := Option.bind_eq_some_iff.mp hdelete
    split at hdelete
    · next hany =>
      have hfound := List.find?_isSome.mpr (List.any_eq_true.mp hany)
      obtain ⟨item, hitem⟩ := Option.isSome_iff_exists.mp hfound
      exact ⟨htime, path, item, hresolve, hitem, (Option.some.inj hdelete).symm⟩
    · cases hdelete

theorem OneFileEach.rename {dumps : Config → String} {oldAccount newAccount : String}
    {maxEntries : ℕ} (hone : OneFileEach disk)
    (hrename : renameHistoryFile strOf dumps disk runHistoryDir oldAccount newAccount task
      maxEntries = some after) : OneFileEach after := by
  obtain ⟨oldFile, -, hrename⟩ := Option.bind_eq_some_iff.mp hrename
  dsimp only at hrename
  split at hrename
  · cases hrename
  · cases hrename
    exact (hone.write _ _).writeOrUnlink _ _

theorem OneFileEach.rewrite {account newAccount : String} (hone : OneFileEach disk)
    (hrewrite : rewriteAccountInEntries strOf disk runHistoryDir account task newAccount =
      some after) : OneFileEach after := by
  obtain ⟨targetFile, -, hrewrite⟩ := Option.bind_eq_some_iff.mp hrewrite
  dsimp only at hrewrite
  split at hrewrite
  · cases hrewrite
    exact hone.write _ _
  · cases hrewrite

theorem oneFileEach_rebuiltWith {changed : Option (Disk FileContent)}
    (hone : OneFileEach state.disk) (hchanged : ∀ disk, changed = some disk → OneFileEach disk) :
    OneFileEach (rebuiltWith setting state changed).disk := by
  cases changed with
  | none => exact hone
  | some disk => exact hchanged disk rfl

theorem aligned_rebuiltWith {changed : Option (Disk FileContent)} (haligned : Aligned setting state)
    (hroom : ∀ disk ∈ changed, (historyRows setting disk).length ≤ setting.maxLines) :
    Aligned setting (rebuiltWith setting state changed) := by
  cases changed with
  | none => exact haligned
  | some disk => exact (indexRows_rebuiltIndex (hroom disk rfl)).map rowKey

theorem oneFileEach_step (hone : OneFileEach state.disk)
    (hstep : step setting state action = some next) : OneFileEach next.disk := by
  cases action with
  | recordRun account task run =>
    cases hstep
    exact OneFileEach.write hone.migrate _ _
  | deleteHistoryEntry account task createdAt =>
    simp only [step] at hstep
    split at hstep
    · next disk hdelete =>
      cases hstep
      obtain ⟨-, path, item, -, -, rfl⟩ := of_deleteHistoryEntry hdelete
      exact hone.writeOrUnlink _ _
    · cases hstep
      exact hone
  | clearAll =>
    cases hstep
    exact hone.eachHistoryFile _ _
  | clearPair account task =>
    cases hstep
    change OneFileEach (clearPair _ _ _ _ _)
    unfold clearPair
    split
    · exact hone.writeOrUnlink _ _
    · exact hone
  | clearAccount account =>
    cases hstep
    exact hone.eachHistoryFile _ _
  | clearTask task =>
    cases hstep
    exact hone.eachHistoryFile _ _
  | renameHistoryFile oldAccount newAccount task =>
    cases hstep
    exact oneFileEach_rebuiltWith hone fun _ hrename => hone.rename hrename
  | rewriteAccountInEntries account task newAccount =>
    cases hstep
    exact oneFileEach_rebuiltWith hone fun _ hrewrite => hone.rewrite hrewrite

theorem aligned_step (hone : OneFileEach state.disk) (haligned : Aligned setting state)
    (hwithin : Within setting state action) (hinStep : InStep setting state action)
    (hstep : step setting state action = some next) : Aligned setting next := by
  cases action with
  | recordRun account task run =>
    cases hstep
    obtain ⟨hcap, hroom⟩ := hwithin
    obtain ⟨htask, hkeeps⟩ := hinStep
    have hfiles := @rows_recordRun setting state.disk account task run hone hcap hkeeps
    rw [rowKey_runEntry htask] at hfiles
    refine List.Perm.trans ?_ hfiles.symm
    change List.Perm ((indexRows (appendRow setting state.index
      (runRow account task run))).map rowKey) _
    rw [indexRows_appendRow hroom, List.map_append]
    exact (List.perm_append_comm.trans (List.Perm.of_eq rfl)).trans (haligned.cons _)
  | deleteHistoryEntry account task createdAt =>
    simp only [step] at hstep
    split at hstep
    · next disk hdelete =>
      cases hstep
      obtain ⟨htime, path, item, hresolve, hfind, rfl⟩ := of_deleteHistoryEntry hdelete
      obtain ⟨hhit, hcount⟩ := hinStep htime path hresolve item hfind
      exact aligned_removedWith haligned (rowsGo_delete hone hfind hhit hcount)
    · cases hstep
      exact haligned
  | clearAll =>
    cases hstep
    change List.Perm ((indexRows none).map rowKey)
      ((historyRows setting (clearAll state.disk setting.runHistoryDir)).map rowKey)
    rw [historyRows_clearAll]
    exact List.Perm.refl _
  | clearPair account task =>
    cases hstep
    exact aligned_removedWith haligned (rowsGo_clearPair hone hinStep)
  | clearAccount account =>
    cases hstep
    exact aligned_removedWith haligned (List.Perm.of_eq (rowsGo_clearAccount hinStep))
  | clearTask task =>
    cases hstep
    exact aligned_removedWith haligned (List.Perm.of_eq (rowsGo_clearTask hinStep))
  | renameHistoryFile oldAccount newAccount task =>
    cases hstep
    exact aligned_rebuiltWith haligned hwithin
  | rewriteAccountInEntries account task newAccount =>
    cases hstep
    exact aligned_rebuiltWith haligned hwithin

/-- Files and index stay aligned in every run that keeps the caps and in which the same rows go
from both. -/
theorem aligned_of_inStep {first last : State} {actions : List Action}
    (hone : OneFileEach first.disk) (haligned : Aligned setting first)
    (hrun : StepRun (step setting) (fun state action =>
      Within setting state action ∧ InStep setting state action) first actions last) :
    Aligned setting last := by
  have hboth := hrun.invariant (fun state => OneFileEach state.disk ∧ Aligned setting state)
    (fun _ _ _ hinv hallowed hstep =>
      ⟨oneFileEach_step hinv.1 hstep,
        aligned_step hinv.1 hinv.2 hallowed.1 hallowed.2 hstep⟩) ⟨hone, haligned⟩
  exact hboth.2

end Runs

section Decisions

variable (setting : Setting)

instance (state : State) : Decidable (Aligned setting state) :=
  inferInstanceAs (Decidable (List.Perm _ _))

instance (disk : Disk FileContent) : Decidable (OneFileEach disk) :=
  inferInstanceAs (Decidable (List.Nodup _))

instance decidableSameGo (disk : Disk FileContent) (filter : RowFilter)
    (goes : Path → Config → Bool) : Decidable (SameGo setting disk filter goes) :=
  inferInstanceAs (Decidable (∀ item ∈ disk.files, _ → ∀ entry ∈ _, _))

instance (disk : Disk FileContent) (account task : String) (incoming : List Config) :
    Decidable (KeepsRows setting disk account task incoming) :=
  decidable_of_iff
    ((incoming ≠ [] → isHistoryFile setting.runHistoryDir
        (legacyHistoryFilePath setting.runHistoryDir task account) = true) ∧
      (∀ entry ∈ incoming,
        rowKey (rowOf setting (legacyHistoryFilePath setting.runHistoryDir task account) entry) =
          rowKey (rowOf setting (historyFilePath setting.runHistoryDir task account) entry)) ∧
      ∀ content ∈ disk.fileAt (historyFilePath setting.runHistoryDir task account),
        (incoming.map setting.dumps).Nodup ∧ ∀ entry ∈ incoming,
            setting.dumps entry ∉ seenTexts setting.dumps (payloadOf (some content)))
    ⟨fun hall => ⟨hall.1, hall.2.1, hall.2.2⟩,
      fun hkeeps => ⟨hkeeps.counted, hkeeps.same, hkeeps.unseen⟩⟩

instance (state : State) (action : Action) : Decidable (Within setting state action) := by
  cases action with
  | _ =>
    dsimp only [Within]
    infer_instance

instance (state : State) (action : Action) : Decidable (InStep setting state action) := by
  cases action with
  | _ =>
    dsimp only [InStep]
    infer_instance

end Decisions

section Samples

/-- The caps that the code has. -/
def sampleSetting : Setting where
  runHistoryDir := ["history"]
  maxEntriesPerFile := 100
  maxLines := 2000
  strOf _ := ""
  dumps := sampleText
  sizeOf := List.length

def runAt (createdAt : String) : Run :=
  { sampleRun with createdAt }

/-- Two runs of one task, a run of another, and a deletion, a rename and two clearings. -/
def sampleActions : List Action :=
  [.recordRun "alice" "daily" (runAt "2026-05-02"), .recordRun "alice" "daily" (runAt "2026-05-03"),
    .recordRun "bob" "weekly" (runAt "2026-05-03"),
    .deleteHistoryEntry "alice" "daily" "2026-05-02", .renameHistoryFile "alice" "carol" "daily",
    .rewriteAccountInEntries "carol" "daily" "carol", .clearTask "weekly", .clearAll]

theorem aligned_of_inStep_sample :
    Aligned sampleSetting (stateAfter (step sampleSetting) {} sampleActions) :=
  aligned_of_inStep (by decide) (by decide) (stepRun_stateAfter (by decide))

/-- Two runs of one account and one task at the same time: a deletion takes one entry from the
file and both rows from the index. -/
theorem both_rows_gone : ∃ last : State, StepRun (step sampleSetting) (Within sampleSetting) {}
        [.recordRun "alice" "daily" (runAt "2026-05-03"),
          .recordRun "alice" "daily" (runAt "2026-05-03"),
          .deleteHistoryEntry "alice" "daily" "2026-05-03"] last ∧
      Aligned sampleSetting {} ∧ ¬Aligned sampleSetting last := by
  refine ⟨_, stepRun_stateAfter (by decide), ?_, ?_⟩
  · decide
  · decide

end Samples

end SignPulse.IndexedHistory
