import SignPulse.Foundation.StepRun
import SignPulse.Plugin.PluginStorage

/-!
# Several processes on one plugin store

A call of the store reads the clock and then makes its statements, each of them one
transaction.  A read selects its rows and afterwards deletes, by their keys, those that it
found expired; what other processes do in between is not looked at again.
-/

namespace SignPulse.Plugin.StoreProcesses

open Foundation

inductive Call where
  | get (ns key : String)
  | mget (ns : String) (keys : List String)
  | listKeys (ns start : String)
  | getAll (ns start : String)
  | getAllRecords (ns : String)
  | set (ns key : String) (value : PyValue) (ttl : Option ℚ)
  | mset (ns : String) (mapping : List (String × PyValue)) (ttl : Option ℚ)
  | increment (ns key : String) (amount default : ℤ) (ttl : Option ℚ)
  | delete (ns key : String)
  | clear (ns : Option String)
  | purgeExpired (ns : Option String)

namespace Call

/-- `CHUNK_SIZE` -/
def chunkSize : ℕ := 500

/-- The tests of the `SELECT` statements that a call makes one after another. -/
def queries : Call → List (String → Bool)
  | .get _ key => [fun name => name = key]
  | .mget _ keys => (keys.toChunks chunkSize).map fun chunk name => decide (name ∈ chunk)
  | .listKeys _ start => [likePrefix start]
  | .getAll _ start => [likePrefix start]
  | .getAllRecords _ => [fun _ => true]
  | _ => []

def finish (table : Table) (now : ℚ) (found : List (String × Row)) : Call → Table
  | .get ns _ => deleteKeys table ns (expiredKeys now found)
  | .mget ns _ => deleteKeys table ns (expiredKeys now found)
  | .listKeys ns _ => deleteKeys table ns (expiredKeys now found)
  | .getAll ns _ => deleteKeys table ns (expiredKeys now found)
  | .getAllRecords ns => deleteKeys table ns (expiredKeys now found)
  | .set ns key value ttl => PluginStore.set table now ns key value ttl
  | .mset ns mapping ttl => PluginStore.mset table now ns mapping ttl
  | .increment ns key amount default ttl =>
    (PluginStore.increment table now ns key amount default ttl).2
  | .delete ns key => PluginStore.delete table ns key
  | .clear ns => PluginStore.clear table ns
  | .purgeExpired ns => PluginStore.purgeExpired table now ns

/-- The namespace that a read selects from. -/
def space : Call → String
  | .get ns _ => ns
  | .mget ns _ => ns
  | .listKeys ns _ => ns
  | .getAll ns _ => ns
  | .getAllRecords ns => ns
  | _ => ""

/-- The call writes a value under the key. -/
def stores (key : String × String) : Call → Bool
  | .set ns name _ _ => key = (ns, name)
  | .mset ns mapping _ => key.1 = ns ∧ key.2 ∈ mapping.map Prod.fst
  | .increment ns name _ _ _ => key = (ns, name)
  | _ => false

def drops (key : String × String) : Call → Bool
  | .delete ns name => key = (ns, name)
  | .clear ns => covers ns key
  | _ => false

/-- The call removes what has expired by the clock that it read. -/
def sweeps : Call → Bool
  | .set .. | .mset .. | .increment .. | .delete .. | .clear .. => false
  | _ => true

end Call

/-- A call under way: the clock as it read it, the `SELECT` statements made so far and the
rows that these returned. -/
structure Frame where
  call : Call
  now : ℚ
  asked : ℕ
  found : List (String × Row)

def Frame.expiredKeys (frame : Frame) : List String :=
  Plugin.expiredKeys frame.now frame.found

structure State where
  table : Table
  clock : ℚ
  frames : Dict ℕ Frame

inductive Event where
  | tick (now : ℚ)
  | enter (process : ℕ) (call : Call)
  | advance (process : ℕ)
  | abandon (process : ℕ)

/-- The next statement of a call. -/
def statement (state : State) (process : ℕ) (frame : Frame) : State :=
  match frame.call.queries[frame.asked]? with
  | some wanted =>
    let rows := selectRows state.table frame.call.space wanted
    { state with
      frames := Dict.setItem state.frames process
        { frame with asked := frame.asked + 1, found := frame.found ++ rows } }
  | none =>
    { state with
      table := frame.call.finish state.table frame.now frame.found
      frames := Dict.popItem state.frames process }

/-- One event.  The clock goes to any time; a call that fails or whose process ends is
abandoned with its transaction. -/
def step (state : State) : Event → Option State
  | .tick now => some { state with clock := now }
  | .enter process call =>
    if Dict.hasKey state.frames process then none
    else some { state with
      frames := Dict.setItem state.frames process ⟨call, state.clock, 0, []⟩ }
  | .advance process =>
    (Dict.getItem state.frames process).map fun frame => statement state process frame
  | .abandon process => some { state with frames := Dict.popItem state.frames process }

def finishing (state : State) : Event → Option Frame
  | .advance process =>
    (Dict.getItem state.frames process).filter fun frame =>
      frame.call.queries.length ≤ frame.asked
  | _ => none

/-- A value without expiry, or whose expiry has not passed, is there after the step, unless
the step is a write, a delete or a clear of its key. -/
def Keeps (state : State) (event : Event) (next : State) : Prop :=
  ∀ key row, Dict.getItem state.table key = some row → row.expired state.clock = false →
    Dict.getItem next.table key = some row ∨ ∃ frame ∈ finishing state event,
        frame.call.stores key = true ∨ frame.call.drops key = true

/-- No value is written under a key that a read under way has found expired, and the clock is
not set back behind a call under way that removes what has expired. -/
def careful (state : State) (event : Event) : Bool :=
  ((finishing state event).all fun frame =>
    (Dict.valueList state.frames).all fun other =>
      other.expiredKeys.all fun name => !frame.call.stores (other.call.space, name)) &&
  match event with
  | .tick now => (Dict.valueList state.frames).all fun frame =>
    !frame.call.sweeps || decide (frame.now ≤ now)
  | _ => true

/-- A table with its primary key and no call under way. -/
structure Started (state : State) : Prop where
  keyed : (Dict.keyList state.table).Nodup
  idle : state.frames = []

/-! ## What a last statement leaves -/

variable {table : Table} {now : ℚ} {call : Call} {row : Row} {state : State} {process : ℕ}
variable {frame : Frame}

theorem nodup_finish (now : ℚ) (found : List (String × Row)) (call : Call)
    (hkeyed : (Dict.keyList table).Nodup) :
    (Dict.keyList (call.finish table now found)).Nodup := by
  cases call with
  | get | mget | listKeys | getAll | getAllRecords | delete | clear | purgeExpired =>
    exact nodup_filter hkeyed
  | set | mset | increment => exact nodup_upsert hkeyed

theorem row_before_finish {found : List (String × Row)} {key : String × String}
    (hkeyed : (Dict.keyList table).Nodup) (hstores : call.stores key = false)
    (hrow : Dict.getItem (call.finish table now found) key = some row) :
    Dict.getItem table key = some row := by
  have hfiltered : ∀ keep : (String × String) × Row → Bool,
      Dict.getItem (table.filter keep) key = some row → Dict.getItem table key = some row :=
    fun keep hkept => Dict.getItem_of_mem hkeyed
      (List.mem_of_mem_filter (Dict.mem_of_getItem hkept))
  cases call with
  | get | mget | listKeys | getAll | getAllRecords | delete | clear | purgeExpired =>
    exact hfiltered _ hrow
  | set ns name value ttl =>
    have hne : key ≠ (ns, name) := of_decide_eq_false hstores
    rwa [Call.finish, PluginStore.set, getItem_upsert_of_not_mem] at hrow
    rintro rfl hmem
    exact hne (Prod.ext rfl (List.mem_singleton.mp hmem))
  | mset ns mapping ttl =>
    have hother : ¬ (key.1 = ns ∧ key.2 ∈ mapping.map Prod.fst) := of_decide_eq_false hstores
    rwa [Call.finish, PluginStore.mset, getItem_upsert_of_not_mem] at hrow
    intro hns hmem
    rw [List.map_map] at hmem
    exact hother ⟨hns, hmem⟩
  | increment ns name amount default ttl =>
    have hne : key ≠ (ns, name) := of_decide_eq_false hstores
    rwa [Call.finish, PluginStore.increment, getItem_upsert_of_not_mem] at hrow
    rintro rfl hmem
    exact hne (Prod.ext rfl (List.mem_singleton.mp hmem))

theorem kept_by_finish {found : List (String × Row)} {key : String × String}
    (hrow : Dict.getItem table key = some row)
    (hjudged : key.1 = call.space → key.2 ∈ expiredKeys now found → row.expired now = true)
    (hstores : call.stores key = false) (hdrops : call.drops key = false) :
    Dict.getItem (call.finish table now found) key = some row ∨
      (call.sweeps = true ∧ row.expired now = true) := by
  have hread : ∀ ns, call.space = ns → call.sweeps = true →
      Dict.getItem (deleteKeys table ns (expiredKeys now found)) key = some row ∨
        (call.sweeps = true ∧ row.expired now = true) := by
    rintro ns rfl hsweeps
    rw [getItem_deleteKeys]
    split
    · next hkey => exact .inr ⟨hsweeps, hjudged hkey.1 hkey.2⟩
    · exact .inl hrow
  cases call with
  | get | mget | listKeys | getAll | getAllRecords => exact hread _ rfl rfl
  | set ns name value ttl =>
    refine .inl (Eq.trans (getItem_upsert_of_not_mem ?_) hrow)
    rintro rfl hmem
    exact of_decide_eq_false hstores (Prod.ext rfl (List.mem_singleton.mp hmem))
  | mset ns mapping ttl =>
    refine .inl (Eq.trans (getItem_upsert_of_not_mem ?_) hrow)
    intro hns hmem
    rw [List.map_map] at hmem
    exact of_decide_eq_false hstores ⟨hns, hmem⟩
  | increment ns name amount default ttl =>
    refine .inl (Eq.trans (getItem_upsert_of_not_mem ?_) hrow)
    rintro rfl hmem
    exact of_decide_eq_false hstores (Prod.ext rfl (List.mem_singleton.mp hmem))
  | delete ns name =>
    have hne : key ≠ (ns, name) := of_decide_eq_false hdrops
    rw [Call.finish, PluginStore.delete, getItem_deleteKeys, if_neg]
    · exact .inl hrow
    · rintro ⟨rfl, hmem⟩
      exact hne (Prod.ext rfl (List.mem_singleton.mp hmem))
  | clear ns =>
    have hcovers : covers ns key = false := hdrops
    rw [Call.finish, getItem_clear, hcovers]
    exact .inl hrow
  | purgeExpired ns =>
    by_cases hexpired : row.expired now = true
    · exact .inr ⟨rfl, hexpired⟩
    · refine .inl (Dict.getItem_filter_of_kept hrow ?_)
      rw [Bool.eq_false_iff.mpr hexpired, Bool.and_false, Bool.not_false]

/-! ## What holds in every run -/

/-- A row is judged expired only if it is. -/
structure Guarded (state : State) : Prop where
  keyed : (Dict.keyList state.table).Nodup
  earlier : ∀ frame ∈ Dict.valueList state.frames, frame.call.sweeps = true →
    frame.now ≤ state.clock
  judged : ∀ frame ∈ Dict.valueList state.frames, ∀ name ∈ frame.expiredKeys, ∀ row,
    Dict.getItem state.table (frame.call.space, name) = some row → row.expired frame.now = true

theorem Started.guarded (hstarted : Started state) : Guarded state where
  keyed := hstarted.keyed
  earlier := by
    rw [hstarted.idle]
    exact fun _ hmem => absurd hmem List.not_mem_nil
  judged := by
    rw [hstarted.idle]
    exact fun _ hmem => absurd hmem List.not_mem_nil

theorem mem_valueList_setItem {frames : Dict ℕ Frame} {other : Frame}
    (hmem : other ∈ Dict.valueList (Dict.setItem frames process frame)) :
    other = frame ∨ other ∈ Dict.valueList frames := by
  obtain ⟨⟨id, found⟩, hpair, rfl⟩ := List.mem_map.mp hmem
  obtain ⟨-, rfl⟩ | hold := Dict.mem_of_mem_setItem hpair
  · exact .inl rfl
  · exact .inr (List.mem_map_of_mem hold)

theorem mem_valueList_popItem {frames : Dict ℕ Frame} {other : Frame}
    (hmem : other ∈ Dict.valueList (Dict.popItem frames process)) :
    other ∈ Dict.valueList frames := by
  obtain ⟨pair, hpair, rfl⟩ := List.mem_map.mp hmem
  exact List.mem_map_of_mem (List.mem_of_mem_filter hpair)

theorem expiredKeys_append (now : ℚ) (rows others : List (String × Row)) :
    expiredKeys now (rows ++ others) = expiredKeys now rows ++ expiredKeys now others := by
  rw [expiredKeys, List.filter_append, List.map_append]
  rfl

/-- What a `SELECT` finds expired has expired. -/
theorem judged_of_select (hkeyed : (Dict.keyList table).Nodup) {ns name : String}
    {wanted : String → Bool} (hname : name ∈ expiredKeys now (selectRows table ns wanted))
    (hrow : Dict.getItem table (ns, name) = some row) : row.expired now = true := by
  obtain ⟨-, found, hfound, hexpired⟩ := (mem_expiredKeys hkeyed).mp hname
  obtain rfl := Option.some.inj (hfound.symm.trans hrow)
  exact hexpired

theorem Guarded.enter {state : State} (hguarded : Guarded state) (process : ℕ) (call : Call) :
    Guarded { state with
      frames := Dict.setItem state.frames process ⟨call, state.clock, 0, []⟩ } where
  keyed := hguarded.keyed
  earlier frame hmem hsweeps := by
    obtain rfl | hold := mem_valueList_setItem hmem
    · exact le_refl _
    · exact hguarded.earlier frame hold hsweeps
  judged frame hmem := by
    obtain rfl | hold := mem_valueList_setItem hmem
    · exact fun _ hname => absurd hname List.not_mem_nil
    · exact hguarded.judged frame hold

section

variable (hguarded : Guarded state)

include hguarded

theorem Guarded.tick (hcareful : careful state (.tick now) = true) :
    Guarded { state with clock := now } where
  keyed := hguarded.keyed
  earlier frame hmem hsweeps := by
    have hlater := List.all_eq_true.mp (Bool.and_eq_true_iff.mp hcareful).2 frame hmem
    rw [hsweeps, Bool.not_true, Bool.false_or] at hlater
    exact of_decide_eq_true hlater
  judged := hguarded.judged

theorem Guarded.abandon (process : ℕ) :
    Guarded { state with frames := Dict.popItem state.frames process } where
  keyed := hguarded.keyed
  earlier frame hmem := hguarded.earlier frame (mem_valueList_popItem hmem)
  judged frame hmem := hguarded.judged frame (mem_valueList_popItem hmem)

theorem Guarded.select
    (hframe : Dict.getItem state.frames process = some frame) (wanted : String → Bool) :
    Guarded { state with
      frames := Dict.setItem state.frames process
        { frame with
          asked := frame.asked + 1
          found := frame.found ++ selectRows state.table frame.call.space wanted } } where
  keyed := hguarded.keyed
  earlier other hmem := by
    obtain rfl | hold := mem_valueList_setItem hmem
    · exact hguarded.earlier frame (Dict.mem_valueList_of_getItem hframe)
    · exact hguarded.earlier other hold
  judged other hmem name hname row hrow := by
    obtain rfl | hold := mem_valueList_setItem hmem
    · rw [Frame.expiredKeys, expiredKeys_append] at hname
      obtain hbefore | hnew := List.mem_append.mp hname
      · exact hguarded.judged frame (Dict.mem_valueList_of_getItem hframe) name hbefore row hrow
      · exact judged_of_select hguarded.keyed hnew hrow
    · exact hguarded.judged other hold name hname row hrow

theorem Guarded.finish {process : ℕ}
    (hcareful : ∀ other ∈ Dict.valueList state.frames, ∀ name ∈ other.expiredKeys,
      frame.call.stores (other.call.space, name) = false) :
    Guarded { state with
      table := frame.call.finish state.table frame.now frame.found
      frames := Dict.popItem state.frames process } where
  keyed := nodup_finish _ _ _ hguarded.keyed
  earlier other hmem := hguarded.earlier other (mem_valueList_popItem hmem)
  judged other hmem name hname row hrow := by
    have hold := mem_valueList_popItem hmem
    have hbefore := row_before_finish hguarded.keyed (hcareful other hold name hname) hrow
    exact hguarded.judged other hold name hname row hbefore

end

theorem finishing_eq (hframe : Dict.getItem state.frames process = some frame)
    (hnone : frame.call.queries[frame.asked]? = none) :
    finishing state (.advance process) = some frame := by
  rw [finishing, hframe, Option.filter_some, if_pos]
  exact decide_eq_true (List.getElem?_eq_none_iff.mp hnone)

theorem stores_of_careful {event : Event} (hcareful : careful state event = true)
    (hfinishing : finishing state event = some frame) :
    ∀ other ∈ Dict.valueList state.frames, ∀ name ∈ other.expiredKeys,
      frame.call.stores (other.call.space, name) = false := by
  intro other hmem name hname
  have hall := (Bool.and_eq_true_iff.mp hcareful).1
  rw [hfinishing, Option.all_some] at hall
  have hother := List.all_eq_true.mp (List.all_eq_true.mp hall other hmem) name hname
  simpa using hother

theorem next_of_enter {next : State} (hstep : step state (.enter process call) = some next) :
    { state with frames := Dict.setItem state.frames process ⟨call, state.clock, 0, []⟩ } = next :=
  Option.some.inj (Option.ite_none_left_eq_some.mp hstep).2

theorem Guarded.step {state next : State} {event : Event} (hguarded : Guarded state)
    (hcareful : careful state event = true) (hstep : step state event = some next) :
    Guarded next := by
  cases event with
  | tick now =>
    cases hstep
    exact hguarded.tick hcareful
  | enter process call =>
    obtain rfl := next_of_enter hstep
    exact hguarded.enter process call
  | advance process =>
    obtain ⟨frame, hframe, rfl⟩ := Option.map_eq_some_iff.mp hstep
    unfold statement
    split
    · exact hguarded.select hframe _
    · next hnone =>
      exact hguarded.finish (stores_of_careful hcareful (finishing_eq hframe hnone))
  | abandon process =>
    cases hstep
    exact hguarded.abandon process

theorem Guarded.keeps {next : State} {event : Event} (hguarded : Guarded state)
    (hstep : StoreProcesses.step state event = some next) : Keeps state event next := by
  intro key row hrow hfresh
  cases event with
  | tick now =>
    cases hstep
    exact .inl hrow
  | enter process call =>
    obtain rfl := next_of_enter hstep
    exact .inl hrow
  | advance process =>
    obtain ⟨frame, hframe, rfl⟩ := Option.map_eq_some_iff.mp hstep
    have hmem := Dict.mem_valueList_of_getItem hframe
    unfold statement
    split
    · exact .inl hrow
    · next hnone =>
      by_cases hstores : frame.call.stores key = true
      · exact .inr ⟨frame, finishing_eq hframe hnone, .inl hstores⟩
      by_cases hdrops : frame.call.drops key = true
      · exact .inr ⟨frame, finishing_eq hframe hnone, .inr hdrops⟩
      have hjudged : key.1 = frame.call.space → key.2 ∈ expiredKeys frame.now frame.found →
          row.expired frame.now = true := by
        intro hspace hname
        apply hguarded.judged frame hmem key.2 hname row
        rwa [← hspace]
      obtain hkept | ⟨hsweeps, hexpired⟩ := kept_by_finish hrow hjudged
        (Bool.eq_false_iff.mpr hstores) (Bool.eq_false_iff.mpr hdrops)
      · exact .inl hkept
      · have hlater := Row.expired_mono (hguarded.earlier frame hmem hsweeps) hexpired
        exact absurd hlater (Bool.eq_false_iff.mp hfresh)
  | abandon process =>
    cases hstep
    exact .inl hrow

/-- In a run in which no value is written under a key that a read under way has found expired,
and in which the clock is not set back behind a call that removes what has expired, no standing
value is lost but to a write, a delete or a clear of its key. -/
theorem unexpired_of_run {first state next : State} {events : List Event} {event : Event}
    (hstarted : Started first)
    (hrun : StepRun step (fun state event => careful state event = true) first events state)
    (hstep : step state event = some next) : Keeps state event next := by
  have hguarded := hrun.invariant Guarded
    (fun _ _ _ hguarded hcareful hstep => hguarded.step hcareful hstep) hstarted.guarded
  exact hguarded.keeps hstep

/-! ## One process reads while another writes -/

/-- A value that has expired at 5, and the clock at 10. -/
def lateState : State where
  table := [(("plugin", "k"), ⟨.int 1, some 5⟩)]
  clock := 10
  frames := []

/-- A read finds the value expired; its last statement is to come. -/
def expiredRead : List Event :=
  [.enter 1 (.get "plugin" "k"), .advance 1]

def freshWrite : List Event :=
  [.enter 2 (.set "plugin" "k" (.int 2) none), .advance 2]

/-- The read is over before another process writes, and a purge follows. -/
def purgeAfterWrite : List Event :=
  expiredRead ++ [.advance 1] ++ freshWrite ++ [.enter 3 (.purgeExpired none)]

theorem kept_of_purgeAfterWrite : Keeps (stateAfter step lateState purgeAfterWrite) (.advance 3)
      (stateAfter step lateState (purgeAfterWrite ++ [.advance 3])) := by
  have hrun : StepRun step (fun state event => careful state event = true) lateState
      purgeAfterWrite (stateAfter step lateState purgeAfterWrite) :=
    stepRun_stateAfter (by decide)
  exact unexpired_of_run ⟨by decide, rfl⟩ hrun rfl

/-- A write between the two statements of the read is lost. -/
theorem lost_within_read :
    ¬ ∀ (first state next : State) (events : List Event) (event : Event), Started first →
      StepRun step (fun _ _ => True) first events state → step state event = some next →
      Keeps state event next := by
  intro hall
  have hrun : StepRun step (fun _ _ => True) lateState (expiredRead ++ freshWrite)
      (stateAfter step lateState (expiredRead ++ freshWrite)) :=
    stepRun_stateAfter (by decide)
  obtain hkept | ⟨frame, hframe, hcall⟩ := hall lateState _ _ _ (.advance 1) ⟨by decide, rfl⟩
    hrun rfl ("plugin", "k") ⟨.int 2, none⟩ rfl rfl
  · cases hkept
  · cases hframe
    obtain hstores | hdrops := hcall
    · cases hstores
    · cases hdrops

end SignPulse.Plugin.StoreProcesses
