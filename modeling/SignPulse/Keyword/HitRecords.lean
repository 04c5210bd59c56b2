import Mathlib.Data.Int.Order.Basic
import SignPulse.Keyword.HitTexts

/-!
# Records of keyword hits

The records of a process, from the newest one on, and the lines of its file, from the oldest one
on.  A line is the record that was written, which `json` gives back.
-/

namespace SignPulse.KeywordHits

open Foundation

/-- `MAX_RECORDS`. -/
def maxRecords : ℕ := 5000

/-- `_REWRITE_BATCH`. -/
def rewriteBatch : ℕ := 100

inductive ChatId where
  | number (value : ℤ)
  | name (value : String)
  deriving DecidableEq

structure HitRecord where
  id : String
  time : String
  accountName : String
  taskName : String
  chatId : Option ChatId
  chatTitle : String
  keyword : String
  keywords : List String
  messageId : Option ℤ
  messageText : String
  sender : String
  url : String
  pushChannel : String
  messageThreadId : Option ℤ
  deriving DecidableEq

def isHexDigit (c : Char) : Bool :=
  ('0' ≤ c && c ≤ '9') || ('a' ≤ c && c ≤ 'f')

def isTimeChar (c : Char) : Bool :=
  ('0' ≤ c && c ≤ '9') || c == '-' || c == ':' || c == 'T' || c == 'Z'

/-- `uuid4().hex` and `utc_now_iso_z_seconds()`. -/
structure Stamp where
  id : String
  time : String
  id_hex : id.toList.all isHexDigit = true
  id_length : id.length = 32
  time_chars : time.toList.all isTimeChar = true
  time_length : time.length = 20

/-- The arguments of `record_keyword_hit`. -/
structure Hit where
  accountName : String
  taskName : String
  chatId : Option ChatId := none
  chatTitle : String := ""
  keyword : String := ""
  keywords : List String := []
  messageId : Option ℤ := none
  messageText : String := ""
  sender : String := ""
  url : String := ""
  pushChannel : String := ""
  messageThreadId : Option ℤ := none

/-- `_normalize_account`. -/
def normalizeAccount (value : String) : String :=
  let text := (stripNul value).toList
  if ".session".toList.isSuffixOf text then String.ofList (text.take (text.length - 8))
  else stripNul value

def recordOf (hit : Hit) (stamp : Stamp) : HitRecord where
  id := stamp.id
  time := stamp.time
  accountName := clip hit.accountName 120
  taskName := clip hit.taskName 120
  chatId := hit.chatId
  chatTitle := clip hit.chatTitle 200
  keyword := clip hit.keyword 200
  keywords := cleanKeywords hit.keywords
  messageId := hit.messageId
  messageText := safeMessageText hit.messageText
  sender := clip hit.sender 120
  url := safeUrl hit.url
  pushChannel := clip hit.pushChannel 40
  messageThreadId := hit.messageThreadId

/-- `_normalize_hit_record`.  The numbers of a record and its chat are as they were written. -/
def normalizeHitRecord (raw : HitRecord) : Option HitRecord :=
  if clip raw.id 64 = "" then none
  else some {
    id := clip raw.id 64
    time := clip raw.time 40
    accountName := clip raw.accountName 120
    taskName := clip raw.taskName 120
    chatId := raw.chatId
    chatTitle := clip raw.chatTitle 200
    keyword := clip raw.keyword 200
    keywords := cleanKeywords raw.keywords
    messageId := raw.messageId
    messageText := safeMessageText raw.messageText
    sender := clip raw.sender 120
    url := safeUrl raw.url
    pushChannel := clip raw.pushChannel 40
    messageThreadId := raw.messageThreadId }

/-! ## The store -/

structure State where
  file : List HitRecord
  records : List HitRecord
  loaded : Bool

inductive Event where
  | record (hit : Hit) (stamp : Stamp)
  | clear (accountName taskName : String)
  | restart

/-- The records that `_ensure_loaded` reads. -/
def loadedFrom (file : List HitRecord) : List HitRecord :=
  (file.filterMap normalizeHitRecord).reverse.take maxRecords

/-- `_ensure_loaded`. -/
def ensureLoaded (state : State) : State :=
  if state.loaded then state
  else { state with records := loadedFrom state.file, loaded := true }

/-- `_rewrite_file_locked`. -/
def rewriteFile (state : State) : State :=
  { state with file := state.records.reverse }

/-- `record_keyword_hit`. -/
def recordKeywordHit (state : State) (hit : Hit) (stamp : Stamp) : State :=
  let state := ensureLoaded state
  let record := recordOf hit stamp
  let records := record :: state.records
  if maxRecords + rewriteBatch ≤ records.length then
    rewriteFile { state with records := records.take maxRecords }
  else { state with file := state.file ++ [record], records }

def cleared (accountName taskName : String) (item : HitRecord) : Bool :=
  let account := normalizeAccount accountName
  let task := pyStrip taskName
  (account = "" || normalizeAccount item.accountName = account) &&
    (task = "" || item.taskName = task)

/-- `clear_keyword_hits`, with the number of records that are gone. -/
def clearKeywordHits (state : State) (accountName taskName : String) : State × ℕ :=
  let state := ensureLoaded state
  let kept := state.records.filter fun item => !cleared accountName taskName item
  (rewriteFile { state with records := kept }, state.records.length - kept.length)

def step (state : State) : Event → State
  | .record hit stamp => recordKeywordHit state hit stamp
  | .clear accountName taskName => (clearKeywordHits state accountName taskName).1
  | .restart => { state with records := [], loaded := false }

def after (state : State) (events : List Event) : State :=
  events.foldl step state

/-- A process that has not read the file yet. -/
def started (file : List HitRecord) : State := ⟨file, [], false⟩

def hits (state : State) : List HitRecord := (ensureLoaded state).records

/-- What is read after a restart was read before it, up to the retained number. -/
def Agrees (state : State) : Prop :=
  hits (step state .restart) = (hits state).take maxRecords

/-- A record that is read as it was written. -/
def Stable (record : HitRecord) : Prop :=
  normalizeHitRecord record = some record

/-- No text of the hit ends with a blank where it was cut off, and what is kept of the message has
no `"\r\n"` after each `"\r\n"` became a `"\n"`. -/
def calm : Event → Bool
  | .record hit _ =>
    endsSolid (clip hit.accountName 120) && endsSolid (clip hit.taskName 120) &&
      endsSolid (clip hit.chatTitle 200) && endsSolid (clip hit.keyword 200) &&
      (cleanKeywords hit.keywords).all endsSolid &&
      !hasLineEnd (safeMessageText hit.messageText).toList &&
      endsSolid (clip hit.sender 120) && endsSolid (safeUrl hit.url) &&
      endsSolid (clip hit.pushChannel 40)
  | _ => true

/-! ## Records that are read as written -/

theorem clip_eq_self {text : String} {limit : ℕ} {p : Char → Bool}
    (hchars : text.toList.all p = true) (hplain : ∀ c, p c = true → c.toNat ≠ 0 ∧ isPySpace c = false)
    (hlength : text.length ≤ limit) : clip text limit = text := by
  have hall : ∀ c ∈ text.toList, c.toNat ≠ 0 ∧ isPySpace c = false :=
    fun c hc => hplain c (List.all_eq_true.mp hchars c hc)
  have htidy : Tidy text.toList :=
    ⟨fun c hc => (hall c hc).1, fun c hc => (hall c (List.mem_of_mem_head? hc)).2⟩
  have hstrip := htidy.stripNul_eq
  rw [htidy.trim_eq fun c hc => (hall c (List.mem_of_getLast? hc)).2, String.ofList_toList] at hstrip
  rw [clip, hstrip, List.take_of_length_le (by rwa [String.length_toList]), String.ofList_toList]

theorem plain_of_range {c low high : Char} (hlow : low ≤ c) (hhigh : c ≤ high)
    (hfirst : 33 ≤ low.toNat) (hlast : high.toNat ≤ 126) : c.toNat ≠ 0 ∧ isPySpace c = false := by
  have hleft : low.toNat ≤ c.toNat := hlow
  have hright : c.toNat ≤ high.toNat := hhigh
  refine ⟨by omega, Bool.eq_false_iff.mpr fun hspace => ?_⟩
  simp only [isPySpace, Bool.or_eq_true, Bool.and_eq_true, decide_eq_true_eq, beq_iff_eq] at hspace
  omega

theorem isHexDigit_plain (c : Char) (hhex : isHexDigit c = true) :
    c.toNat ≠ 0 ∧ isPySpace c = false := by
  simp only [isHexDigit, Bool.or_eq_true, Bool.and_eq_true, decide_eq_true_eq] at hhex
  rcases hhex with ⟨hlow, hhigh⟩ | ⟨hlow, hhigh⟩
  · exact plain_of_range hlow hhigh (by decide) (by decide)
  · exact plain_of_range hlow hhigh (by decide) (by decide)

theorem isTimeChar_plain (c : Char) (htime : isTimeChar c = true) :
    c.toNat ≠ 0 ∧ isPySpace c = false := by
  simp only [isTimeChar, Bool.or_eq_true, Bool.and_eq_true, decide_eq_true_eq, beq_iff_eq] at htime
  rcases htime with (((⟨hlow, hhigh⟩ | rfl) | rfl) | rfl) | rfl
  · exact plain_of_range hlow hhigh (by decide) (by decide)
  · decide
  · decide
  · decide
  · decide

theorem Stamp.clip_id (stamp : Stamp) : clip stamp.id 64 = stamp.id ∧ stamp.id ≠ "" := by
  refine ⟨clip_eq_self stamp.id_hex isHexDigit_plain (by rw [stamp.id_length]; decide), ?_⟩
  intro hempty
  have hlength := stamp.id_length
  rw [hempty] at hlength
  exact absurd hlength (by decide)

theorem stable_recordOf_iff (hit : Hit) (stamp : Stamp) :
    Stable (recordOf hit stamp) ↔ calm (.record hit stamp) = true := by
  obtain ⟨hid, hnonempty⟩ := stamp.clip_id
  have htime : clip stamp.time 40 = stamp.time :=
    clip_eq_self stamp.time_chars isTimeChar_plain (by rw [stamp.time_length]; decide)
  unfold Stable normalizeHitRecord
  rw [show (recordOf hit stamp).id = stamp.id from rfl, hid, if_neg hnonempty]
  simp only [recordOf, calm, htime, Option.some.injEq, HitRecord.mk.injEq, clip_clip_iff,
    cleanKeywords_again_iff, safeMessageText_again_iff, safeUrl_again_iff, Bool.and_eq_true,
    Bool.not_eq_true', true_and, and_true, and_assoc]

/-! ## Every run -/

theorem loadedFrom_stable {file : List HitRecord} (hfile : ∀ record ∈ file, Stable record) :
    loadedFrom file = file.reverse.take maxRecords := by
  have hsame : file.filterMap normalizeHitRecord = file := by
    induction file with
    | nil => rfl
    | cons record rest ih =>
      have hhere : normalizeHitRecord record = some record := hfile record List.mem_cons_self
      rw [List.filterMap_cons, hhere, ih fun other hmem => hfile other (List.mem_cons_of_mem _ hmem)]
  rw [loadedFrom, hsame]

/-- Every record is stable, and the process has the newest ones of the file. -/
structure Settled (state : State) : Prop where
  file : ∀ record ∈ state.file, Stable record
  records : ∀ record ∈ hits state, Stable record
  newest : (hits state).take maxRecords = state.file.reverse.take maxRecords

theorem file_ensureLoaded (state : State) : (ensureLoaded state).file = state.file := by
  unfold ensureLoaded
  split <;> rfl

theorem loaded_ensureLoaded (state : State) : (ensureLoaded state).loaded = true := by
  unfold ensureLoaded
  split
  · assumption
  · rfl

theorem hits_of_loaded {state : State} (hloaded : state.loaded = true) :
    hits state = state.records := by
  rw [hits, ensureLoaded, if_pos hloaded]

variable {state : State}

theorem hits_of_not_loaded (hloaded : state.loaded = false) :
    hits state = loadedFrom state.file := by
  rw [hits, ensureLoaded, hloaded]
  rfl

theorem settled_of_not_loaded (hloaded : state.loaded = false)
    (hfile : ∀ record ∈ state.file, Stable record) : Settled state := by
  have hhits : hits state = state.file.reverse.take maxRecords :=
    (hits_of_not_loaded hloaded).trans (loadedFrom_stable hfile)
  refine ⟨hfile, fun record hmem => ?_, ?_⟩
  · rw [hhits] at hmem
    exact hfile record (List.mem_reverse.mp (List.mem_of_mem_take hmem))
  · rw [hhits, List.take_take, Nat.min_self]

theorem settled_rewriteFile (hloaded : state.loaded = true)
    (hrecords : ∀ record ∈ state.records, Stable record) : Settled (rewriteFile state) := by
  have hhits : hits (rewriteFile state) = state.records := hits_of_loaded hloaded
  refine ⟨fun record hmem => hrecords record (List.mem_reverse.mp hmem), ?_, ?_⟩
  · rwa [hhits]
  · rw [hhits, rewriteFile, List.reverse_reverse]

theorem Settled.agrees (hsettled : Settled state) : Agrees state := by
  have hrestart : hits (step state .restart) = loadedFrom state.file := hits_of_not_loaded rfl
  rw [Agrees, hrestart, loadedFrom_stable hsettled.file, hsettled.newest]

theorem take_cons_congr {α : Type*} {left right : List α} {n : ℕ} (first : α)
    (hsame : left.take n = right.take n) : (first :: left).take n = (first :: right).take n := by
  cases n with
  | zero => rfl
  | succ n =>
    have hshort := congrArg (List.take n) hsame
    rw [List.take_take, List.take_take, Nat.min_eq_left (Nat.le_succ n)] at hshort
    rw [List.take_succ_cons, List.take_succ_cons, hshort]

theorem Settled.record (hsettled : Settled state) {hit : Hit} {stamp : Stamp}
    (hcalm : calm (.record hit stamp) = true) : Settled (recordKeywordHit state hit stamp) := by
  have hstable := (stable_recordOf_iff hit stamp).mpr hcalm
  have hrecords : ∀ record ∈ recordOf hit stamp :: hits state, Stable record := by
    intro record hmem
    rcases List.mem_cons.mp hmem with rfl | hold
    · exact hstable
    · exact hsettled.records record hold
  simp only [recordKeywordHit]
  split
  · exact settled_rewriteFile (loaded_ensureLoaded state)
      fun record hmem => hrecords record (List.mem_of_mem_take hmem)
  · have hhits := @hits_of_loaded ⟨(ensureLoaded state).file ++ [recordOf hit stamp],
      recordOf hit stamp :: (ensureLoaded state).records, (ensureLoaded state).loaded⟩
      (loaded_ensureLoaded state)
    refine ⟨fun record hmem => ?_, ?_, ?_⟩
    · rcases List.mem_append.mp hmem with hold | hnew
      · rw [file_ensureLoaded] at hold
        exact hsettled.file record hold
      · exact List.mem_singleton.mp hnew ▸ hstable
    · rw [hhits]
      exact hrecords
    · rw [hhits, file_ensureLoaded, List.reverse_append]
      exact take_cons_congr _ hsettled.newest

theorem Settled.step {state : State} (hsettled : Settled state) {event : Event}
    (hcalm : calm event = true) : Settled (step state event) := by
  cases event with
  | record hit stamp => exact hsettled.record hcalm
  | clear accountName taskName =>
    exact settled_rewriteFile (loaded_ensureLoaded state)
      fun record hmem => hsettled.records record (List.mem_of_mem_filter hmem)
  | restart => exact settled_of_not_loaded rfl hsettled.file

theorem Settled.after (hsettled : Settled state) {events : List Event}
    (hcalm : ∀ event ∈ events, calm event = true) : Settled (after state events) := by
  induction events generalizing state with
  | nil => exact hsettled
  | cons event rest ih =>
    exact ih (hsettled.step (hcalm event List.mem_cons_self))
      fun other hmem => hcalm other (List.mem_cons_of_mem _ hmem)

theorem newest_recordKeywordHit (state : State) (hit : Hit) (stamp : Stamp) :
    ∃ older others, (recordKeywordHit state hit stamp).file = older ++ [recordOf hit stamp] ∧
      hits (recordKeywordHit state hit stamp) = recordOf hit stamp :: others := by
  simp only [recordKeywordHit]
  split
  · refine ⟨((ensureLoaded state).records.take (maxRecords - 1)).reverse, _, ?_,
      hits_of_loaded (loaded_ensureLoaded state)⟩
    exact List.reverse_cons
  · exact ⟨_, _, rfl, hits_of_loaded (loaded_ensureLoaded state)⟩

/-- Where the process and the file agree, the record is read as it was written. -/
theorem calm_of_agrees {event : Event} (hagrees : Agrees (step state event)) :
    calm event = true := by
  cases event with
  | clear => rfl
  | restart => rfl
  | record hit stamp =>
    obtain ⟨older, others, hfile, hhits⟩ := newest_recordKeywordHit state hit stamp
    have hrestart : hits (step (step state (.record hit stamp)) .restart) =
        loadedFrom (recordKeywordHit state hit stamp).file := hits_of_not_loaded rfl
    obtain ⟨hid, hnonempty⟩ := stamp.clip_id
    have hread : ∃ read, normalizeHitRecord (recordOf hit stamp) = some read :=
      ⟨_, if_neg (hid.symm ▸ hnonempty)⟩
    obtain ⟨read, hread⟩ := hread
    have hstep : step state (.record hit stamp) = recordKeywordHit state hit stamp := rfl
    rw [Agrees, hrestart, hstep, hhits, hfile, loadedFrom, List.filterMap_append,
      List.filterMap_cons, hread, List.reverse_append] at hagrees
    have hhead := congrArg List.head? hagrees
    have hpos : maxRecords ≠ 0 := by decide
    rw [List.head?_take, List.head?_take, if_neg hpos, if_neg hpos] at hhead
    have hsame : read = recordOf hit stamp := by simpa using hhead
    rw [hsame] at hread
    exact (stable_recordOf_iff hit stamp).mp hread

/-- From a file of stable records, the records of the process are those of the file in every state,
if and only if every recorded hit is calm. -/
theorem agrees_iff {file : List HitRecord} (hfile : ∀ record ∈ file, Stable record)
    (events : List Event) :
    (∀ n, Agrees (after (started file) (events.take n))) ↔ ∀ event ∈ events, calm event = true := by
  constructor
  · intro hagrees event hmem
    obtain ⟨n, hn, rfl⟩ := List.mem_iff_getElem.mp hmem
    have hnext := hagrees (n + 1)
    rw [List.take_succ_eq_append_getElem hn, after, List.foldl_append] at hnext
    exact calm_of_agrees hnext
  · intro hcalm n
    exact ((settled_of_not_loaded rfl hfile).after
      fun event hmem => hcalm event (List.mem_of_mem_take hmem)).agrees

/-! ## Two hits -/

def stampOne : Stamp where
  id := "0123456789abcdef0123456789abcdef"
  time := "2024-05-06T07:08:09Z"
  id_hex := by decide
  id_length := by decide
  time_chars := by decide
  time_length := by decide

/-- A hit, a restart, and another one whose message has a line end; then the first is cleared. -/
def hitsInTurn : List Event :=
  [.record ⟨"alice", "daily", none, "news", "free", [" free "], some 7, " free\r\nnow ", "bob",
      "https://t.me/news/7", "telegram", none⟩ stampOne, .restart,
    .record ⟨"bob", "daily", some (.number 5), "", "free", ["free"], some 8, "free", "", "x", "", none⟩
      stampOne, .clear "alice.session" ""]

theorem agrees_hitsInTurn :
    (hits (after (started []) hitsInTurn)).map HitRecord.accountName = ["bob"] ∧
      ((∀ n, Agrees (after (started []) (hitsInTurn.take n))) ↔
        ∀ event ∈ hitsInTurn, calm event = true) :=
  ⟨by decide, agrees_iff (fun _ hmem => absurd hmem List.not_mem_nil) hitsInTurn⟩

/-- The fortieth character of the channel is a blank. -/
def longChannel : Hit where
  accountName := "alice"
  taskName := "daily"
  pushChannel := "123456789 123456789 123456789 123456789 telegram"

theorem disagrees_longChannel :
    ¬ ∀ (events : List Event) (n : ℕ), Agrees (after (started []) (events.take n)) := by
  intro hall
  have hagrees := hall [.record longChannel stampOne] 1
  exact absurd hagrees (by unfold Agrees; decide)

end SignPulse.KeywordHits
