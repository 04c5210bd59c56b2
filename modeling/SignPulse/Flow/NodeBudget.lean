import Mathlib.Data.Finset.Card
import SignPulse.Flow.LoopCheck
import SignPulse.Flow.RunReport

/-!
# The node budget

The validator counts the nodes of a graph and of the graphs nested in it, and
limits how deep and how wide they nest.  What it counts is what a run can
execute, except below a node that is stored under the name of a terminal: the
search turns back at such a node, and the engine enters it.
-/

namespace SignPulse.NodeBudget

open Foundation
open FlowModels
open FlowContext
open RunEnvironment
open FlowEngine
open EngineLaws
open RunLogs
open RunReport
open GraphNormalizer
open LoopCheck

variable {World Call : Type}

/-! ## Places -/

/-- Where a node stands: the nodes, and the numbers of their nested graphs, that
lead to its graph, and its key there. -/
abbrev Place := List (String × ℕ) × String

/-- The node at a place where the validator looks. -/
inductive NodeAt : ExecutionGraph → List (String × ℕ) → String → Node → Prop where
  | own {graph : ExecutionGraph} {key : String} {node : Node}
      (hnode : Dict.getItem graph.nodes key = some node) : NodeAt graph [] key node
  | nested {graph inner : ExecutionGraph} {outer key : String} {around node : Node}
      {index : ℕ} {within : List (String × ℕ)} (hlive : skips graph outer = false)
      (haround : Dict.getItem graph.nodes outer = some around)
      (hinner : (subgraphs around)[index]? = some inner)
      (hat : NodeAt inner within key node) :
      NodeAt graph ((outer, index) :: within) key node

/-- The node at a place is executed in a run.  A retry of a wait node executes the
action that it names, or else one that was executed before. -/
inductive Executes : RunLog Call → List (String × ℕ) → String → Node → Prop where
  | visited {log : RunLog Call} {visit : Visit Call (RunLog Call)}
      (hvisit : visit ∈ log.visits) : Executes log [] visit.key visit.node
  | resent {log : RunLog Call} {visit : Visit Call (RunLog Call)} {key : String}
      {node : Node} {config : WaitEventConfig} (hvisit : visit ∈ log.visits)
      (hkind : visit.node.kind = .waitEvent config)
      (haction : config.actionNodeId = some key)
      (hnode : Dict.getItem log.graph.nodes key = some node) : Executes log [] key node
  | nested {log inner : RunLog Call} {visit : Visit Call (RunLog Call)} {index : ℕ}
      {within : List (String × ℕ)} {key : String} {node : Node}
      (hvisit : visit ∈ log.visits) (hinner : inner ∈ visit.nested)
      (hindex : (subgraphs visit.node)[index]? = some inner.graph)
      (hexecutes : Executes inner within key node) :
      Executes log ((visit.key, index) :: within) key node

/-! ## Paying for places -/

/-- `current_total`. -/
def spentNodes (budget : Budget) : ℤ :=
  budget.currentTotalNodes.getD (budget.totalNodes.getD 0)

/-- `max_limit`. -/
def nodeLimit (budget : Budget) : ℤ :=
  budget.maxTotalTaskNodes.getD (budget.maxNodes.getD MAX_TOTAL_TASK_NODES)

/-- A step counts every place of the region, and stays within the limit. -/
structure Pays (region : Place → Prop) (before after : Budget) : Prop where
  limit : nodeLimit after = nodeLimit before
  within : spentNodes before ≤ nodeLimit before → spentNodes after ≤ nodeLimit after
  places : ∃ places : List Place, spentNodes after = spentNodes before + places.length ∧
    ∀ place, region place → place ∈ places

theorem Pays.nothing (budget : Budget) : Pays (fun _ => False) budget budget where
  limit := rfl
  within := id
  places := ⟨[], by simp, by simp⟩

theorem Pays.append {first second : Place → Prop} {before middle after : Budget}
    (hfirst : Pays first before middle) (hsecond : Pays second middle after) :
    Pays (fun place => first place ∨ second place) before after where
  limit := hsecond.limit.trans hfirst.limit
  within := fun hbefore => hsecond.within (hfirst.within hbefore)
  places := by
    obtain ⟨left, hleft, hcovers⟩ := hfirst.places
    obtain ⟨right, hright, hcovers'⟩ := hsecond.places
    refine ⟨left ++ right, ?_, fun place hplace => ?_⟩
    · rw [hright, hleft, List.length_append]
      omega
    · rcases hplace with hplace | hplace
      · exact List.mem_append_left _ (hcovers place hplace)
      · exact List.mem_append_right _ (hcovers' place hplace)

theorem Pays.mono {more fewer : Place → Prop} {before after : Budget}
    (hpays : Pays more before after) (hsub : ∀ place, fewer place → more place) :
    Pays fewer before after where
  limit := hpays.limit
  within := hpays.within
  places := by
    obtain ⟨places, hlength, hcovers⟩ := hpays.places
    exact ⟨places, hlength, fun place hplace => hcovers place (hsub place hplace)⟩

/-- The places of a nested graph, seen from outside. -/
theorem Pays.inside {region : Place → Prop} {before after : Budget} (step : String × ℕ)
    (hpays : Pays region before after) :
    Pays (fun place => ∃ inner, region inner ∧ place = (step :: inner.1, inner.2))
      before after where
  limit := hpays.limit
  within := hpays.within
  places := by
    obtain ⟨places, hlength, hcovers⟩ := hpays.places
    refine ⟨places.map fun inner => (step :: inner.1, inner.2), by simpa using hlength, ?_⟩
    rintro place ⟨inner, hinner, rfl⟩
    exact List.mem_map_of_mem (hcovers inner hinner)

/-- A part of the search that pays for a region whenever it is given a budget. -/
def Charges (region : Place → Prop) (before after : Ledger) : Prop :=
  ∀ budget, before.budget = some budget → ∃ left, after.budget = some left ∧ Pays region budget left

theorem foldlM_charges {α : Type} {step : Ledger → α → Except String Ledger} :
    ∀ (items : List α) (region : ℕ → Place → Prop) {before after : Ledger},
      items.foldlM step before = .ok after →
      (∀ index item, items[index]? = some item → ∀ start next, step start item = .ok next →
        Charges (region index) start next) →
      Charges (fun place => ∃ index < items.length, region index place) before after := by
  intro items
  induction items with
  | nil =>
    intro region before after hfold _ budget hbudget
    cases hfold
    exact ⟨budget, hbudget, (Pays.nothing budget).mono (by simp)⟩
  | cons item rest ih =>
    intro region before after hfold hstep budget hbudget
    rw [List.foldlM_cons] at hfold
    obtain ⟨middle, hfirst, hrest⟩ := ok_of_bind hfold
    obtain ⟨left, hleft, hpays⟩ := hstep 0 item rfl before middle hfirst budget hbudget
    obtain ⟨last, hlast, hpaysRest⟩ := ih (fun index => region (index + 1)) hrest
      (fun index other hother => hstep (index + 1) other (by simpa using hother)) left hleft
    refine ⟨last, hlast, (hpays.append hpaysRest).mono ?_⟩
    rintro place ⟨index, hindex, hplace⟩
    cases index with
    | zero => exact Or.inl hplace
    | succ index => exact Or.inr ⟨index, by simpa using hindex, hplace⟩

/-! ## What an accepted graph has paid for -/

def Inside (graph : ExecutionGraph) (place : Place) : Prop :=
  ∃ node, NodeAt graph place.1 place.2 node

variable {graph : ExecutionGraph} {depth : ℤ} {node : Node} {before after : Ledger} {key : String}

theorem live_mem_searchOrder {nodeId : String} (hlive : skips graph nodeId = false) :
    nodeId ∈ searchOrder graph := by
  have hexplored : Search.Explored (skips graph) (neighbors graph) (searchRoots graph) []
      (searchRoots graph) [] (Search.traceFrom (skips graph) (neighbors graph)
        (searchBound graph) (searchRoots graph)) :=
    Search.traceFrom_explored (skips_keys graph)
      (Nat.lt_succ_of_le (by simp [Dict.keyList])) (searchRoots graph)
  rw [searchOrder, ← Search.traceFrom_visited]
  exact hexplored.reached nodeId (List.mem_cons_of_mem _ (skips_keys graph nodeId hlive)) hlive

theorem spend_pays {before : Budget} {after : Option Budget}
    (hspend : spend graph depth (some before) = .ok after) :
    ∃ left, after = some left ∧ spentNodes left ≤ nodeLimit left ∧
      Pays (fun place => place.1 = [] ∧ place.2 ∈ Dict.keyList graph.nodes) before left := by
  simp only [spend] at hspend
  split at hspend
  · cases hspend
  · next hroom =>
    cases hspend
    have hwithin : spentNodes before + graph.nodes.length ≤ nodeLimit before :=
      not_lt.mp hroom
    refine ⟨_, rfl, hwithin, rfl, fun _ => hwithin, ?_⟩
    refine ⟨(Dict.keyList graph.nodes).map fun key => ([], key), ?_, ?_⟩
    · simp [spentNodes, Dict.keyList]
    · rintro ⟨outer, key⟩ ⟨rfl, hkey⟩
      exact List.mem_map_of_mem hkey

def Below (key : String) (node : Node) (place : Place) : Prop :=
  ∃ index inner, (subgraphs node)[index]? = some inner ∧
    ∃ nested, Inside inner nested ∧ place = ((key, index) :: nested.1, nested.2)

theorem validateNested_charges (key : String) (hinner : ∀ inner ∈ subgraphs node, ∀ start next,
      validateGraph inner (depth + 1) start = .ok next → Charges (Inside inner) start next)
    (hok : validateNested validateGraph depth node before = .ok after) :
    Charges (Below key node) before after := by
  have hnothing : subgraphs node = [] → before = after → Charges (Below key node) before after := by
    rintro hnone rfl budget hbudget
    refine ⟨budget, hbudget, (Pays.nothing budget).mono ?_⟩
    rintro place ⟨index, inner, hindex, -⟩
    simp [hnone] at hindex
  unfold validateNested at hok
  split at hok
  · next inner vars hkind =>
    have hsubgraphs : subgraphs node = [inner] := by simp [subgraphs, hkind]
    intro budget hbudget
    obtain ⟨left, hleft, hpays⟩ :=
      hinner inner (by simp [hsubgraphs]) before after hok budget hbudget
    refine ⟨left, hleft, (hpays.inside (key, 0)).mono ?_⟩
    rintro place ⟨index, other, hindex, nested, hnested, rfl⟩
    rw [hsubgraphs] at hindex
    obtain ⟨rfl, rfl⟩ : index = 0 ∧ inner = other := by
      cases index <;> simp_all
    exact ⟨nested, hnested, rfl⟩
  · next branches mode joinStrategy policy hkind =>
    have hsubgraphs : subgraphs node = branches := by simp [subgraphs, hkind]
    split at hok
    · cases hok
    · have hfold := foldlM_charges branches
        (fun index place => ∃ inner, branches[index]? = some inner ∧
          ∃ nested, Inside inner nested ∧ place = ((key, index) :: nested.1, nested.2))
        hok ?_
      · intro budget hbudget
        obtain ⟨left, hleft, hpays⟩ := hfold budget hbudget
        refine ⟨left, hleft, hpays.mono ?_⟩
        rintro place ⟨index, inner, hindex, hplace⟩
        rw [hsubgraphs] at hindex
        exact ⟨index, (List.getElem?_eq_some_iff.mp hindex).1, inner, hindex, hplace⟩
      · intro index inner hindex start next hvalid budget hbudget
        obtain ⟨left, hleft, hpays⟩ := hinner inner
          (hsubgraphs ▸ List.mem_of_getElem? hindex) start next hvalid budget hbudget
        refine ⟨left, hleft, (hpays.inside (key, index)).mono ?_⟩
        rintro place ⟨other, hother, nested, hnested, rfl⟩
        rw [hindex] at hother
        cases hother
        exact ⟨nested, hnested, rfl⟩
  · next hsubflow hparallel =>
    refine hnothing ?_ (Except.ok.inj hok)
    unfold subgraphs
    split
    · next inner vars hkind => exact absurd hkind (hsubflow inner vars)
    · next branches mode joinStrategy policy hkind =>
      exact absurd hkind (hparallel branches mode joinStrategy policy)
    · rfl

theorem inside_cases {place : Place} (hinside : Inside graph place) :
    (place.1 = [] ∧ place.2 ∈ Dict.keyList graph.nodes) ∨
      ∃ index < (searchOrder graph).length, ∃ key node, (searchOrder graph)[index]? = some key ∧
          Dict.getItem graph.nodes key = some node ∧ Below key node place := by
  obtain ⟨outer, key⟩ := place
  obtain ⟨node, hat⟩ := hinside
  cases hat with
  | own hnode => exact Or.inl ⟨rfl, Dict.mem_keyList_of_getItem hnode⟩
  | @nested _ inner first _ around _ index within hlive haround hinner hat =>
    obtain ⟨position, hposition⟩ :=
      List.getElem?_of_mem (live_mem_searchOrder hlive)
    exact Or.inr ⟨position, (List.getElem?_eq_some_iff.mp hposition).1, first, around,
      hposition, haround, index, inner, hinner, (within, key), ⟨node, hat⟩, rfl⟩

theorem search_charges
    (hinner : ∀ node ∈ Dict.valueList graph.nodes, ∀ inner ∈ subgraphs node, ∀ start next,
      validateGraph inner (depth + 1) start = .ok next → Charges (Inside inner) start next)
    (hok : (searchOrder graph).foldlM
      (fun ledger nodeId => (graphSearch validateGraph graph depth).enter nodeId ledger)
      before = .ok after) :
    Charges (fun place => ∃ index < (searchOrder graph).length, ∃ key node,
      (searchOrder graph)[index]? = some key ∧
        Dict.getItem graph.nodes key = some node ∧ Below key node place) before after := by
  refine foldlM_charges (searchOrder graph)
    (fun index place => ∃ key node, (searchOrder graph)[index]? = some key ∧
      Dict.getItem graph.nodes key = some node ∧ Below key node place) hok ?_
  intro index key hkey start next henter budget hbudget
  simp only [graphSearch] at henter
  split at henter
  · next node hnode =>
    obtain ⟨left, hleft, hpays⟩ := validateNested_charges key
      (hinner node (Dict.mem_valueList_of_getItem hnode)) henter budget hbudget
    refine ⟨left, hleft, hpays.mono ?_⟩
    rintro place ⟨other, found, hother, hfound, hbelow⟩
    obtain rfl : key = other := Option.some.inj (hkey.symm.trans hother)
    obtain rfl : node = found := Option.some.inj (hnode.symm.trans hfound)
    exact hbelow
  · next hnone =>
    cases henter
    refine ⟨budget, hbudget, (Pays.nothing budget).mono ?_⟩
    rintro place ⟨other, found, hother, hfound, -⟩
    obtain rfl : key = other := Option.some.inj (hkey.symm.trans hother)
    rw [hnone] at hfound
    cases hfound

theorem validateGraph_charges : ∀ (graph : ExecutionGraph) (depth : ℤ) (before after : Ledger),
      validateGraph graph depth before = .ok after → Charges (Inside graph) before after := by
  apply graph_induction
  intro graph ih depth before after hok budget hbudget
  obtain ⟨spent, found, hspend, hsearch, hafter⟩ := (validateGraph_ok hok).spent
  rw [hbudget] at hspend
  obtain ⟨left, rfl, -, hown⟩ := spend_pays hspend
  have hcharges := search_charges (fun node hnode inner hinner =>
    ih node hnode inner hinner (depth + 1)) hsearch
  obtain ⟨last, hlast, hnested⟩ := hcharges left rfl
  refine ⟨last, by rw [hafter, hbudget, Option.bind_some, hlast], ?_⟩
  exact (hown.append hnested).mono fun place => inside_cases

/-! ## How deep and how wide -/

theorem foldlM_mem {ε σ α : Type} {step : σ → α → Except ε σ} {item : α} :
    ∀ {items : List α} {before after : σ}, items.foldlM step before = .ok after →
      item ∈ items → ∃ start next, step start item = .ok next := by
  intro items
  induction items with
  | nil =>
    intro before after _ hmem
    cases hmem
  | cons head rest ih =>
    intro before after hok hmem
    rw [List.foldlM_cons] at hok
    obtain ⟨middle, hfirst, hrest⟩ := ok_of_bind hok
    rcases List.mem_cons.mp hmem with rfl | hmem
    · exact ⟨before, middle, hfirst⟩
    · exact ih hrest hmem

theorem validateNested_ok (hok : validateGraph graph depth before = .ok after)
    (hlive : skips graph key = false) (hnode : Dict.getItem graph.nodes key = some node) :
    ∃ start next, validateNested validateGraph depth node start = .ok next := by
  obtain ⟨spent, found, -, hsearch, -⟩ := (validateGraph_ok hok).spent
  obtain ⟨start, next, henter⟩ := foldlM_mem hsearch (live_mem_searchOrder hlive)
  simp only [graphSearch, hnode] at henter
  exact ⟨start, next, henter⟩

theorem validateNested_inner (hok : validateNested validateGraph depth node before = .ok after)
    {inner : ExecutionGraph} (hinner : inner ∈ subgraphs node) :
    ∃ start next, validateGraph inner (depth + 1) start = .ok next := by
  unfold validateNested at hok
  unfold subgraphs at hinner
  split at hok
  · next graph vars hkind =>
    simp only [hkind, List.mem_singleton] at hinner
    rw [hinner]
    exact ⟨before, after, hok⟩
  · next branches mode joinStrategy policy hkind =>
    simp only [hkind] at hinner
    split at hok
    · cases hok
    · exact foldlM_mem hok hinner
  · next hsubflow hparallel =>
    split at hinner
    · next graph vars hkind => exact absurd hkind (hsubflow graph vars)
    · next branches mode joinStrategy policy hkind =>
      exact absurd hkind (hparallel branches mode joinStrategy policy)
    · cases hinner

theorem checkSize_depth (hsize : checkSize graph depth = .ok ()) : depth ≤ MAX_SUBFLOW_DEPTH := by
  unfold checkSize at hsize
  split at hsize
  · cases hsize
  · split at hsize
    · cases hsize
    · split at hsize
      · cases hsize
      · next hdepth => exact not_lt.mp hdepth

def branchCount (node : Node) : ℕ :=
  match node.kind with
  | .parallel branches _ _ _ => branches.length
  | _ => 0

theorem branchCount_le_subgraphs (node : Node) : branchCount node ≤ (subgraphs node).length := by
  unfold branchCount
  split
  · next branches mode joinStrategy policy hkind => simp [subgraphs, hkind]
  · exact Nat.zero_le _

theorem validateNested_branches (hok : validateNested validateGraph depth node before = .ok after) :
    branchCount node ≤ MAX_PARALLEL_BRANCHES := by
  unfold validateNested at hok
  unfold branchCount
  split at hok
  · next graph vars hkind => simp [hkind]
  · next branches mode joinStrategy policy hkind =>
    simp only [hkind]
    split at hok
    · cases hok
    · next hwide => exact not_lt.mp hwide
  · next hsubflow hparallel =>
    split
    · next branches mode joinStrategy policy hkind =>
      exact absurd hkind (hparallel branches mode joinStrategy policy)
    · exact Nat.zero_le _

theorem nodeAt_limits {within : List (String × ℕ)} (hat : NodeAt graph within key node) :
    ∀ {depth : ℤ} {before after : Ledger}, validateGraph graph depth before = .ok after →
      within.length + depth ≤ MAX_SUBFLOW_DEPTH ∧
        (key ∉ sentinels → branchCount node ≤ MAX_PARALLEL_BRANCHES) := by
  induction hat with
  | @own graph key node hnode =>
    intro depth before after hok
    refine ⟨by simpa using checkSize_depth (validateGraph_ok hok).size, fun hname => ?_⟩
    have hlive : skips graph key = false := by
      simp [skips, hname, Dict.hasKey, hnode]
    obtain ⟨start, next, hnested⟩ := validateNested_ok hok hlive hnode
    exact validateNested_branches hnested
  | nested hlive haround hinner _ ih =>
    intro depth before after hok
    obtain ⟨start, next, hnested⟩ := validateNested_ok hok hlive haround
    obtain ⟨first, last, hvalid⟩ :=
      validateNested_inner hnested (List.mem_of_getElem? hinner)
    obtain ⟨hdeep, hwide⟩ := ih hvalid
    refine ⟨?_, hwide⟩
    rw [List.length_cons]
    push_cast
    omega

/-! ## Runs -/

/-- No node that is executed under the name of a terminal nests graphs. -/
def NoHiddenGraphs (log : RunLog Call) : Prop :=
  ∀ within key node, Executes log within key node → key ∈ sentinels → subgraphs node = []

theorem executes_nodeAt {log : RunLog Call} {within : List (String × ℕ)}
    (hexecutes : Executes log within key node) :
    ∀ {env : Env World Call} {graph : ExecutionGraph} {ctx : ScopedFlowContext}
      {world : World}, log = (run env graph ctx world).log → NoHiddenGraphs log →
        NodeAt graph within key node := by
  induction hexecutes with
  | visited hvisit =>
    rintro env graph ctx world rfl _
    exact .own (run_visitIn _ hvisit).1
  | resent hvisit hkind haction hnode =>
    rintro env graph ctx world rfl _
    have hgraph : (run env graph ctx world).log.graph = graph := by
      rw [run_eq_conclude]
      rfl
    exact .own (hgraph ▸ hnode)
  | @nested log inner visit index within key node hvisit hinner hindex hexecutes ih =>
    rintro env graph ctx world rfl hhidden
    have hvisitIn := run_visitIn _ hvisit
    have hlive : skips graph visit.key = false := by
      have hname : visit.key ∉ sentinels := by
        intro hname
        rw [hhidden [] visit.key visit.node (.visited hvisit) hname] at hindex
        cases hindex
      simp [skips, hname, Dict.hasKey, hvisitIn.1]
    obtain ⟨nested, -, start, began, rfl⟩ := hvisitIn.nested hinner
    have hgraph : (run env nested start began).log.graph = nested := by
      rw [run_eq_conclude]
      rfl
    rw [hgraph] at hindex
    refine .nested hlive hvisitIn.1 hindex (ih rfl ?_)
    intro deeper other found hfound hname
    exact hhidden _ other found (.nested hvisit hinner (hgraph ▸ hindex) hfound) hname

/-- What the budget leaves for a graph and all that is nested in it. -/
def allowance : Option Budget → ℤ
  | some budget => nodeLimit budget - spentNodes budget
  | none => MAX_TOTAL_TASK_NODES

theorem spend_outermost {before after : Option Budget} (hspend : spend graph 1 before = .ok after) :
    ∃ budget left, allowance before = nodeLimit budget - spentNodes budget ∧
      after = some left ∧ spentNodes left ≤ nodeLimit left ∧
      Pays (fun place => place.1 = [] ∧ place.2 ∈ Dict.keyList graph.nodes) budget left := by
  cases before with
  | some budget =>
    obtain ⟨left, hleft, hwithin, hpays⟩ := spend_pays hspend
    exact ⟨budget, left, rfl, hleft, hwithin, hpays⟩
  | none =>
    have hfresh : spend graph 1 (some { maxTotalTaskNodes := some MAX_TOTAL_TASK_NODES }) =
        .ok after := by
      simpa [spend] using hspend
    obtain ⟨left, hleft, hwithin, hpays⟩ := spend_pays hfresh
    exact ⟨_, left, rfl, hleft, hwithin, hpays⟩

theorem places_within_allowance {ledger : Ledger}
    (haccepted : validateGraph graph 1 ledger = .ok after) :
    ∃ places : List Place, (places.length : ℤ) ≤ allowance ledger.budget ∧
      ∀ place, Inside graph place → place ∈ places := by
  obtain ⟨spent, found, hspend, hsearch, -⟩ := (validateGraph_ok haccepted).spent
  obtain ⟨budget, left, hallowance, rfl, hwithin, hown⟩ := spend_outermost hspend
  obtain ⟨last, -, hnested⟩ := search_charges (fun node hnode inner hinner =>
    validateGraph_charges inner (1 + 1)) hsearch left rfl
  obtain ⟨places, hlength, hcovers⟩ := (hown.append hnested).places
  refine ⟨places, ?_, fun place hplace => hcovers place (inside_cases hplace)⟩
  have hlimit : nodeLimit last = nodeLimit budget := hnested.limit.trans hown.limit
  have hlast : spentNodes last ≤ nodeLimit last := hnested.within hwithin
  omega

/-- The limits of a task hold for all that is executed in the runs. -/
structure WithinLimits (logs : Set (RunLog Call)) : Prop where
  nodes : ∀ executed : Finset Place,
    (∀ place ∈ executed, ∃ log ∈ logs, ∃ node, Executes log place.1 place.2 node) →
      executed.card ≤ MAX_TOTAL_TASK_NODES
  depth : ∀ log ∈ logs, ∀ within key node, Executes log within key node →
    within.length + 1 ≤ MAX_SUBFLOW_DEPTH
  branches : ∀ log ∈ logs, ∀ within key node, Executes log within key node →
    branchCount node ≤ MAX_PARALLEL_BRANCHES

/-- The runs of an accepted graph keep to the limits of a task, as long as none of
them executes a node with nested graphs under the name of a terminal. -/
theorem runs_within_limits {graph : ExecutionGraph} {ledger after : Ledger}
    (haccepted : validateGraph graph 1 ledger = .ok after)
    (hbudget : allowance ledger.budget ≤ MAX_TOTAL_TASK_NODES) {logs : Set (RunLog Call)}
    (hruns : ∀ log ∈ logs, ∃ (env : Env World Call) (ctx : ScopedFlowContext)
      (world : World), log = (run env graph ctx world).log)
    (hhidden : ∀ log ∈ logs, NoHiddenGraphs log) : WithinLimits logs := by
  have hinside : ∀ log ∈ logs, ∀ within key node, Executes log within key node →
      NodeAt graph within key node := by
    intro log hlog within key node hexecutes
    obtain ⟨env, ctx, world, hrun⟩ := hruns log hlog
    exact executes_nodeAt hexecutes hrun (hhidden log hlog)
  refine ⟨?_, ?_, ?_⟩
  · intro executed hexecuted
    obtain ⟨places, hlength, hcovers⟩ := places_within_allowance haccepted
    have hsubset : executed ⊆ places.toFinset := by
      intro place hplace
      obtain ⟨log, hlog, node, hexecutes⟩ := hexecuted place hplace
      exact List.mem_toFinset.mpr (hcovers place ⟨node, hinside log hlog _ _ _ hexecutes⟩)
    have hcard : executed.card ≤ places.length :=
      (Finset.card_le_card hsubset).trans (List.toFinset_card_le places)
    omega
  · intro log hlog within key node hexecutes
    have hdeep := (nodeAt_limits (hinside log hlog _ _ _ hexecutes) haccepted).1
    omega
  · intro log hlog within key node hexecutes
    by_cases hname : key ∈ sentinels
    · have hnone := hhidden log hlog within key node hexecutes hname
      have hcount := branchCount_le_subgraphs node
      rw [hnone] at hcount
      exact hcount.trans (Nat.zero_le _)
    · exact (nodeAt_limits (hinside log hlog _ _ _ hexecutes) haccepted).2 hname

/-! ## Below the name of a terminal -/

/-- A graph of one node with `count` branches under the given key. -/
def wideGraph (key : String) (count : ℕ) : ExecutionGraph where
  entryNodeId := key
  nodes :=
    [(key,
      { id := key
        kind := .parallel (List.replicate count oneStep) .all "merge" .lastWriter })]

/-- Eleven branches are accepted under the name of a terminal, and are run. -/
theorem hidden_branches_run : (∃ after, validateGraph (wideGraph "COMPLETE" 11) 1 {} = .ok after) ∧
      ¬ WithinLimits
        ({(run (answering .success) (wideGraph "COMPLETE" 11) {} ()).log} : Set (RunLog Unit)) := by
  refine ⟨⟨{}, by decide⟩, fun hwithin => ?_⟩
  have hwide : ((run (answering .success) (wideGraph "COMPLETE" 11) {} ()).log.visits.any
      fun visit => MAX_PARALLEL_BRANCHES < branchCount visit.node) = true := by
    decide
  obtain ⟨visit, hvisit, hcount⟩ := List.any_eq_true.mp hwide
  have hlimit := hwithin.branches _ rfl [] visit.key visit.node (.visited hvisit)
  exact absurd hlimit (not_le.mpr (of_decide_eq_true hcount))

/-- No visit of the run is to a wait node or under the name of a terminal. -/
def plainVisits (log : RunLog Call) : Bool :=
  log.visits.all fun visit => !sentinels.contains visit.key && !isWaitEvent visit.node

theorem noHiddenGraphs_of_plain {log : RunLog Call} (levels : ℕ)
    (hcheck : checkLogs plainVisits levels log = true) : NoHiddenGraphs log := by
  have hplain : ∀ {log : RunLog Call} {within key node}, Executes log within key node →
      (∀ inner, inner = log ∨ NestedIn inner log → plainVisits inner = true) → key ∉ sentinels := by
    intro log within key node hexecutes
    induction hexecutes with
    | visited hvisit =>
      intro hall
      have hname := List.all_eq_true.mp (hall _ (Or.inl rfl)) _ hvisit
      simp only [Bool.and_eq_true] at hname
      simpa using hname.1
    | resent hvisit hkind haction hnode =>
      intro hall
      have hwait := List.all_eq_true.mp (hall _ (Or.inl rfl)) _ hvisit
      simp [isWaitEvent, hkind] at hwait
    | nested hvisit hinner hindex hexecutes ih =>
      intro hall
      refine ih fun other hother => hall other (Or.inr ?_)
      rcases hother with rfl | hother
      · exact .direct hvisit hinner
      · exact .deeper hvisit hinner hother
  intro within key node hexecutes hname
  exact absurd hname (hplain hexecutes (checkLogs_all hcheck))

theorem parallel_within_limits :
    WithinLimits ({(run (answering .success) (wideGraph "signin" 10) {} ()).log} :
      Set (RunLog Unit)) := by
  have haccepted : validateGraph (wideGraph "signin" 10) 1 {} = .ok {} := by decide +kernel
  have hplain : NoHiddenGraphs (run (answering .success) (wideGraph "signin" 10) {} ()).log :=
    noHiddenGraphs_of_plain 1 (by decide +kernel)
  refine @runs_within_limits Unit Unit _ _ _ haccepted (by decide) _ ?_ ?_
  · rintro log rfl
    exact ⟨answering .success, {}, (), rfl⟩
  · rintro log rfl
    exact hplain

end SignPulse.NodeBudget
