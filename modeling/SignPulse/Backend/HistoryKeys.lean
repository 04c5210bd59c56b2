import SignPulse.Backend.HistoryFiles
import SignPulse.Foundation.Raising

/-!
# Keys of history files

A history file is named after an account and a task.  What `validate_storage_name` lets
through can be read back from that name.
-/

namespace SignPulse.HistoryFiles

open Foundation
open ChainedRuns (validateStorageName)

/-! ## Names without underscores -/

theorem underscore_not_mem_encodeChar (char : Char) : '_' ∉ encodeChar char := by
  unfold encodeChar
  split
  · decide
  · split
    · decide
    · next hother =>
      intro hmem
      exact hother (List.mem_singleton.mp hmem).symm

theorem underscore_not_mem_safeHistoryKey {name : String} : '_' ∉ (safeHistoryKey name).toList := by
  simp only [safeHistoryKey]
  split
  · decide
  · split
    · decide
    · rw [String.toList_ofList]
      intro hmem
      obtain ⟨char, -, hchar⟩ := List.mem_flatMap.mp hmem
      exact underscore_not_mem_encodeChar char hchar

theorem safeHistoryKey_ne_nil {name : String} : (safeHistoryKey name).toList ≠ [] := by
  simp only [safeHistoryKey]
  split
  · decide
  · split
    · decide
    · next hne =>
      rw [String.toList_ofList]
      exact hne

/-! ## Reading a name back -/

/-- The loop of `unsafe_history_key`. -/
def decodeChars : List Char → List Char
  | first :: second :: third :: rest =>
    if first = '%' ∧ pyUpper (String.ofList [second, third]) = "25" then '%' :: decodeChars rest
    else if first = '%' ∧ pyUpper (String.ofList [second, third]) = "5F" then
      '_' :: decodeChars rest
    else first :: decodeChars (second :: third :: rest)
  | short => short

/-- `unsafe_history_key`. -/
def unsafeHistoryKey (name : String) : String :=
  String.ofList (decodeChars name.toList)

/-- `Path(name).stem`: the name up to its last dot, which neither begins nor ends it. -/
def fileStem (name : String) : String :=
  let chars := name.toList.reverse
  match chars.dropWhile (· ≠ '.') with
  | _ :: front =>
    if front ≠ [] ∧ chars.takeWhile (· ≠ '.') ≠ [] then String.ofList front.reverse else name
  | [] => name

/-- `text.split("__", 1)[0]`, when there is something to split at. -/
def beforeSeparator : List Char → Option (List Char)
  | [] => none
  | first :: rest =>
    if first = '_' ∧ rest.head? = some '_' then some []
    else (beforeSeparator rest).map (first :: ·)

/-- `history_file_path`. -/
def historyFilePath (runHistoryDir : Path) (taskName accountName : String) : Path :=
  runHistoryDir ++ [historyFileName taskName accountName]

/-- `history_file_owner`. -/
def historyFileOwner (historyFile : Path) : Option String :=
  (beforeSeparator (fileStem (historyFile.getLastD "")).toList).bind fun accountPart =>
    let decoded := unsafeHistoryKey (String.ofList accountPart)
    if decoded = "" then none else some decoded

/-! ## Escaping -/

theorem decodeChars_cons {char : Char} (hchar : char ≠ '%') (rest : List Char) :
    decodeChars (char :: rest) = char :: decodeChars rest := by
  match rest with
  | [] => rfl
  | [_] => rfl
  | second :: third :: rest =>
    rw [decodeChars, if_neg (fun h => hchar h.1), if_neg (fun h => hchar h.1)]

/-- An escaped character is read back, whatever follows it. -/
theorem decodeChars_encodeChar (char : Char) (rest : List Char) :
    decodeChars (encodeChar char ++ rest) = char :: decodeChars rest := by
  unfold encodeChar
  split
  next hpercent =>
    have hcode : pyUpper (String.ofList ['2', '5']) = "25" := by decide
    rw [hpercent]
    exact if_pos ⟨rfl, hcode⟩
  next hpercent =>
    split
    next hunderscore =>
      have hother : pyUpper (String.ofList ['5', 'F']) ≠ "25" := by decide
      have hcode : pyUpper (String.ofList ['5', 'F']) = "5F" := by decide
      rw [hunderscore]
      exact (if_neg fun h => hother h.2).trans (if_pos ⟨rfl, hcode⟩)
    · exact decodeChars_cons hpercent rest

theorem decodeChars_flatMap (chars : List Char) :
    decodeChars (chars.flatMap encodeChar) = chars := by
  induction chars with
  | nil => rfl
  | cons char rest ih => rw [List.flatMap_cons, decodeChars_encodeChar, ih]

/-! ## File names -/

theorem fileStem_json {text : String} (hne : text ≠ "") : fileStem (text ++ ".json") = text := by
  have hfront : text.toList.reverse ≠ [] := by
    intro h
    exact hne (String.toList_eq_nil_iff.mp (List.reverse_eq_nil_iff.mp h))
  have hchars : (text ++ ".json").toList.reverse =
      ['n', 'o', 's', 'j'] ++ '.' :: text.toList.reverse := by
    rw [String.toList_append, List.reverse_append]
    rfl
  simp only [fileStem]
  rw [hchars]
  change (if text.toList.reverse ≠ [] ∧ ['n', 'o', 's', 'j'] ≠ [] then
    String.ofList text.toList.reverse.reverse else _) = text
  rw [if_pos ⟨hfront, List.cons_ne_nil _ _⟩, List.reverse_reverse, String.ofList_toList]

/-- What has no underscore ends at the first separator. -/
theorem beforeSeparator_append {front : List Char} (hfront : '_' ∉ front) (rest : List Char) :
    beforeSeparator (front ++ '_' :: '_' :: rest) = some front := by
  induction front with
  | nil => rfl
  | cons first front ih =>
    have hfirst : first ≠ '_' := fun h => hfront (h ▸ List.mem_cons_self)
    rw [List.cons_append, beforeSeparator, if_neg (fun h => hfirst h.1),
      ih (fun h => hfront (List.mem_cons_of_mem _ h))]
    rfl

/-! ## Names that are accepted -/

section Accepted

variable {isRejected : Char → Bool}

theorem cleanedName_of_valid {value fieldName name : String}
    (hvalid : validateStorageName isRejected value fieldName = .ok name) :
    cleanedName value = name.toList ∧ name = pyStrip value ∧ name ≠ "" ∧ name ≠ "." ∧
      name ≠ ".." := by
  simp only [validateStorageName] at hvalid
  split at hvalid
  · cases hvalid
  next hempty =>
    split at hvalid
    · cases hvalid
    next hdots =>
      split at hvalid
      · cases hvalid
      next hslash =>
        split at hvalid
        · cases hvalid
        split at hvalid
        · cases hvalid
        cases hvalid
        refine ⟨?_, rfl, hempty, fun h => hdots (Or.inl h), fun h => hdots (Or.inr h)⟩
        have hplain : ∀ char ∈ (pyStrip value).toList,
            char ≠ '/' ∧ char ≠ '\\' ∧ char ≠ '\x00' := by
          intro char hmem
          have hchar := List.any_eq_false.mp (Bool.not_eq_true _ ▸ hslash) char hmem
          simpa [and_assoc] using hchar
        have hfilter : (pyStrip value).toList.filter (· ≠ '\x00') = (pyStrip value).toList := by
          apply List.filter_eq_self.mpr
          intro char hmem
          exact decide_eq_true (hplain char hmem).2.2
        rw [cleanedName, hfilter]
        refine (List.map_congr_left fun char hmem => ?_).trans (List.map_id _)
        obtain ⟨hslash, hbackslash, -⟩ := hplain char hmem
        exact if_neg fun h => h.elim hslash hbackslash

theorem safeHistoryKey_of_cleaned {value name : String} (hcleaned : cleanedName value = name.toList)
    (hempty : name ≠ "") (hdot : name ≠ ".") (hdots : name ≠ "..") :
    safeHistoryKey value = String.ofList (name.toList.flatMap encodeChar) := by
  have hencoded : name.toList.flatMap encodeChar ≠ [] := by
    intro h
    have hname := congrArg decodeChars h
    rw [decodeChars_flatMap] at hname
    exact hempty (String.toList_eq_nil_iff.mp hname)
  have hplain : ¬(name.toList = ['.'] ∨ name.toList = ['.', '.']) := by
    rintro (h | h)
    · exact hdot (String.toList_injective h)
    · exact hdots (String.toList_injective h)
  simp only [safeHistoryKey]
  rw [hcleaned, if_neg hplain, if_neg hencoded]

theorem unsafeHistoryKey_of_valid {value fieldName name : String}
    (hvalid : validateStorageName isRejected value fieldName = .ok name) :
    safeHistoryKey value = safeHistoryKey name ∧ unsafeHistoryKey (safeHistoryKey name) = name := by
  obtain ⟨hcleaned, hname, hempty, hdot, hdots⟩ := cleanedName_of_valid hvalid
  have hchecked : cleanedName name = name.toList := by
    rw [← hcleaned, hname]
    unfold cleanedName
    rw [pyStrip_pyStrip]
  have hkey := safeHistoryKey_of_cleaned hchecked hempty hdot hdots
  refine ⟨(safeHistoryKey_of_cleaned hcleaned hempty hdot hdots).trans hkey.symm, ?_⟩
  unfold unsafeHistoryKey
  rw [hkey, String.toList_ofList, decodeChars_flatMap, String.ofList_toList]

theorem historyFileName_of_ne {taskName accountName : String} (hne : accountName ≠ "") :
    historyFileName taskName accountName =
      safeHistoryKey accountName ++ "__" ++ safeHistoryKey taskName ++ ".json" :=
  if_pos hne

theorem keys_of_fileName {left right otherLeft otherRight : String} (hleft : '_' ∉ left.toList)
    (hother : '_' ∉ otherLeft.toList)
    (heq : left ++ "__" ++ right ++ ".json" = otherLeft ++ "__" ++ otherRight ++ ".json") :
    left = otherLeft ∧ right = otherRight := by
  have hstems : (left ++ "__" ++ right).toList = (otherLeft ++ "__" ++ otherRight).toList := by
    have hchars := congrArg String.toList heq
    rw [String.toList_append, String.toList_append (s := otherLeft ++ "__" ++ otherRight)] at hchars
    exact List.append_cancel_right hchars
  simp only [String.toList_append, List.append_assoc] at hstems
  have hseparators := congrArg beforeSeparator hstems
  have hfront : left.toList = otherLeft.toList := by
    have hbefore := beforeSeparator_append hleft right.toList
    have hafter := beforeSeparator_append hother otherRight.toList
    exact Option.some.inj (hbefore.symm.trans (hseparators.trans hafter))
  refine ⟨String.toList_injective hfront, String.toList_injective ?_⟩
  rw [hfront] at hstems
  exact List.append_cancel_left (List.append_cancel_left hstems)

theorem historyFileOwner_of_key {runHistoryDir : Path} {taskName accountName : String}
    (hne : accountName ≠ "") :
    historyFileOwner (historyFilePath runHistoryDir taskName accountName) =
      (let decoded := unsafeHistoryKey (safeHistoryKey accountName)
       if decoded = "" then none else some decoded) := by
  have hstem : safeHistoryKey accountName ++ "__" ++ safeHistoryKey taskName ≠ "" := by
    intro h
    have hchars := congrArg String.toList h
    rw [String.toList_append, String.toList_append, List.append_assoc] at hchars
    exact safeHistoryKey_ne_nil (List.append_eq_nil_iff.mp hchars).1
  have hbefore : beforeSeparator
      ((safeHistoryKey accountName).toList ++ ("__".toList ++ (safeHistoryKey taskName).toList)) =
        some (safeHistoryKey accountName).toList :=
    beforeSeparator_append underscore_not_mem_safeHistoryKey _
  unfold historyFileOwner historyFilePath
  rw [List.getLastD_concat, historyFileName_of_ne hne, fileStem_json hstem, String.toList_append,
    String.toList_append, List.append_assoc, hbefore, Option.bind_some, String.ofList_toList]

/-- What `validate_storage_name` makes of a value, as whatever field. -/
def AcceptedAs (isRejected : Char → Bool) (value name : String) : Prop :=
  ∃ fieldName, validateStorageName isRejected value fieldName = .ok name

/-- Accepted names are read back from their keys, and the file of an account and a task is that of
no other pair and is owned by the account. -/
theorem historyFile_of_accepted {accountValue account taskValue task otherAccountValue otherAccount
      otherTaskValue otherTask : String} (runHistoryDir : Path)
    (haccount : AcceptedAs isRejected accountValue account)
    (htask : AcceptedAs isRejected taskValue task)
    (hotherAccount : AcceptedAs isRejected otherAccountValue otherAccount)
    (hotherTask : AcceptedAs isRejected otherTaskValue otherTask) :
    unsafeHistoryKey (safeHistoryKey account) = account ∧
      unsafeHistoryKey (safeHistoryKey task) = task ∧
      historyFilePath runHistoryDir taskValue accountValue =
        historyFilePath runHistoryDir task account ∧
      historyFileOwner (historyFilePath runHistoryDir task account) = some account ∧
      (historyFilePath runHistoryDir task account =
          historyFilePath runHistoryDir otherTask otherAccount →
        account = otherAccount ∧ task = otherTask) := by
  obtain ⟨_, haccount⟩ := haccount
  obtain ⟨_, htask⟩ := htask
  obtain ⟨_, hotherAccount⟩ := hotherAccount
  obtain ⟨_, hotherTask⟩ := hotherTask
  obtain ⟨haccountKey, haccountBack⟩ := unsafeHistoryKey_of_valid haccount
  obtain ⟨htaskKey, htaskBack⟩ := unsafeHistoryKey_of_valid htask
  obtain ⟨-, hotherAccountBack⟩ := unsafeHistoryKey_of_valid hotherAccount
  obtain ⟨-, hotherTaskBack⟩ := unsafeHistoryKey_of_valid hotherTask
  obtain ⟨-, hstrip, hempty, -⟩ := cleanedName_of_valid haccount
  have hotherEmpty := (cleanedName_of_valid hotherAccount).2.2.1
  refine ⟨haccountBack, htaskBack, ?_, ?_, ?_⟩
  · have hvalue : accountValue ≠ "" := by
      rintro rfl
      exact hempty (hstrip.trans (by decide))
    unfold historyFilePath
    rw [historyFileName_of_ne hvalue, historyFileName_of_ne hempty, haccountKey, htaskKey]
  · rw [historyFileOwner_of_key hempty]
    rw [haccountBack, if_neg hempty]
  · intro heq
    have hnames := List.singleton_injective (List.append_cancel_left heq)
    rw [historyFileName_of_ne hempty, historyFileName_of_ne hotherEmpty] at hnames
    obtain ⟨hkeys, htaskKeys⟩ := keys_of_fileName underscore_not_mem_safeHistoryKey
      underscore_not_mem_safeHistoryKey hnames
    constructor
    · rw [← haccountBack, ← hotherAccountBack, hkeys]
    · rw [← htaskBack, ← hotherTaskBack, htaskKeys]

end Accepted

/-- Two pairs that would share a file if nothing were escaped. -/
theorem historyFile_of_underscores :
    historyFileOwner (historyFilePath ["history"] "c" "a__b") = some "a__b" ∧
      historyFilePath ["history"] "c" "a__b" ≠ historyFilePath ["history"] "b__c" "a" := by
  have hall := historyFile_of_accepted ["history"]
    (⟨"account_name", by decide⟩ : AcceptedAs (fun _ => false) " a__b" "a__b")
    (⟨"task_name", by decide⟩ : AcceptedAs (fun _ => false) "c" "c")
    (⟨"account_name", by decide⟩ : AcceptedAs (fun _ => false) "a" "a")
    (⟨"task_name", by decide⟩ : AcceptedAs (fun _ => false) "b__c" "b__c")
  exact ⟨hall.2.2.2.1, fun heq => absurd (hall.2.2.2.2 heq).1 (by decide)⟩

end SignPulse.HistoryFiles
