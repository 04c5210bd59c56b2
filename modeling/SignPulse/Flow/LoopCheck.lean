import Mathlib.Logic.Relation
import SignPulse.Flow.GraphNormalizer

/-!
# What the validator accepts

`validate_graph` accepts a graph that passes its size and target checks, whose
nested graphs it accepts in the order of the search, and in which no edge leads
back to the first path to its node over a node that may not repeat.  A loop
that is closed by an edge to another branch of the search is not looked at.
-/

namespace SignPulse.LoopCheck

open Foundation
open FlowModels
open GraphNormalizer

/-! ## Loops of a graph -/

/-- A static edge between two nodes. -/
def Edge (graph : ExecutionGraph) (source target : String) : Prop :=
  skips graph source = false ∧ skips graph target = false ∧ target ∈ neighbors graph source

instance (graph : ExecutionGraph) (source target : String) : Decidable (Edge graph source target) :=
  inferInstanceAs (Decidable (_ ∧ _ ∧ _))

/-- The node lies on a cycle of static edges. -/
def OnLoop (graph : ExecutionGraph) (nodeId : String) : Prop :=
  Relation.TransGen (Edge graph) nodeId nodeId

/-- Every cycle of static edges consists of nodes that may repeat. -/
def LoopsAllowed (graph : ExecutionGraph) : Prop :=
  ∀ nodeId, OnLoop graph nodeId → mayRepeat graph nodeId = true

/-- Where the search starts: the entry, and then every node. -/
def searchRoots (graph : ExecutionGraph) : List String :=
  graph.entryNodeId :: Dict.keyList graph.nodes

/-- Some edge leads back to the first path to its node, over a node that may
not repeat. -/
def MeetsBadLoop (graph : ExecutionGraph) : Prop :=
  ∃ path nodeId, BackEdge (skips graph) (neighbors graph) (searchRoots graph) path nodeId ∧
    ∃ step ∈ path.drop (path.idxOf nodeId), mayRepeat graph step = false

/-! ## The search of the validator -/

theorem skips_keys (graph : ExecutionGraph) (nodeId : String)
    (hlive : skips graph nodeId = false) : nodeId ∈ Dict.keyList graph.nodes := by
  unfold skips at hlive
  simp only [Bool.or_eq_false_iff, Bool.not_eq_false'] at hlive
  exact (Dict.hasKey_iff_mem_keyList graph.nodes nodeId).mp hlive.2

def searchOrder (graph : ExecutionGraph) : List String :=
  Search.entries
    (Search.traceFrom (skips graph) (neighbors graph) (searchBound graph)
      (searchRoots graph)).events

/-- Every check of the validator but the one for loops. -/
def PassesOtherChecks (graph : ExecutionGraph) (depth : ℤ) (ledger : Ledger) : Prop :=
  checkSize graph depth = .ok () ∧ checkReferences graph = .ok () ∧
    ∃ budget after, spend graph depth ledger.budget = .ok budget ∧ (searchOrder graph).foldlM
        (fun ledger nodeId =>
          (graphSearch validateGraph graph depth).enter nodeId ledger)
        { ledger with budget } = .ok after

theorem search_eq_roots (validateSub : ValidateSub) (graph : ExecutionGraph)
    (depth : ℤ) (ledger : Ledger) :
    (do
      let entered ← (graphSearch validateSub graph depth).visit (searchBound graph) []
        graph.entryNodeId ([], ledger)
      (Dict.keyList graph.nodes).foldlM
        (fun progress nodeId =>
          if nodeId ∈ progress.1 then .ok progress
          else (graphSearch validateSub graph depth).visit (searchBound graph) [] nodeId progress)
        entered) =
      (searchRoots graph).foldlM
        (fun progress root => (graphSearch validateSub graph depth).visit
          (searchBound graph) [] root progress)
        ([], ledger) := by
  have hpassed : (fun (progress : List String × Ledger) nodeId =>
      if nodeId ∈ progress.1 then Except.ok progress
      else (graphSearch validateSub graph depth).visit (searchBound graph) [] nodeId progress) =
      fun progress nodeId => (graphSearch validateSub graph depth).visit
        (searchBound graph) [] nodeId progress := by
    funext progress nodeId
    split
    · next hmem => exact (Search.visit_of_mem _ _ hmem _).symm
    · rfl
  rw [hpassed, searchRoots, List.foldlM_cons]

/-! ## Levels -/

theorem foldlM_congr {α β ε : Type} {left right : β → α → Except ε β} :
    ∀ (items : List α) (start : β), (∀ item ∈ items, ∀ acc, left acc item = right acc item) →
      items.foldlM left start = items.foldlM right start := by
  intro items
  induction items with
  | nil =>
    intro start _
    rfl
  | cons item rest ih =>
    intro start hagree
    rw [List.foldlM_cons, List.foldlM_cons, hagree item List.mem_cons_self start]
    congr 1
    funext acc
    exact ih acc fun other hother => hagree other (List.mem_cons_of_mem _ hother)

theorem graphSearch_congr {left right : ValidateSub} {graph : ExecutionGraph} (depth : ℤ)
    (hagree : ∀ node ∈ Dict.valueList graph.nodes, ∀ inner ∈ subgraphs node,
      left inner = right inner) :
    graphSearch left graph depth = graphSearch right graph depth := by
  unfold graphSearch
  congr 1
  funext nodeId ledger
  split
  · next node hnode =>
    have hinner := hagree node (Dict.mem_valueList_of_getItem hnode)
    unfold validateNested
    split
    · next inner _ hkind =>
      rw [hinner inner (by simp [subgraphs, hkind])]
    · next branches _ _ _ hkind =>
      split
      · rfl
      · exact foldlM_congr branches ledger fun branch hbranch acc => by
          rw [hinner branch (by simpa [subgraphs, hkind] using hbranch)]
    · rfl
  · rfl

theorem validateWith_congr {left right : ValidateSub} {graph : ExecutionGraph}
    (hagree : ∀ node ∈ Dict.valueList graph.nodes, ∀ inner ∈ subgraphs node,
      left inner = right inner) :
    validateWith left graph = validateWith right graph := by
  funext depth ledger
  simp only [validateWith, graphSearch_congr depth hagree]

theorem validateGraph_eq (graph : ExecutionGraph) :
    validateGraph graph = validateWith validateGraph graph :=
  levels_eq (fun _ => rfl) validateWith_congr graph

/-! ## Acceptance -/

theorem validateWith_ok_iff (validateSub : ValidateSub) (graph : ExecutionGraph)
    (depth : ℤ) (ledger : Ledger) :
    (∃ after, validateWith validateSub graph depth ledger = .ok after) ↔
      checkSize graph depth = .ok () ∧ checkReferences graph = .ok () ∧
        ∃ budget, spend graph depth ledger.budget = .ok budget ∧
          ∃ visited after, (searchRoots graph).foldlM
            (fun progress root => (graphSearch validateSub graph depth).visit
              (searchBound graph) [] root progress)
            ([], { ledger with budget }) = .ok (visited, after) := by
  unfold validateWith
  cases hsize : checkSize graph depth with
  | error error => simp [bind, Except.bind]
  | ok checked =>
    cases hspend : spend graph depth ledger.budget with
    | error error => simp [bind, Except.bind]
    | ok budget =>
      cases hreferences : checkReferences graph with
      | error error => simp [bind, Except.bind]
      | ok resolved =>
        simp only [bind, Except.bind, true_and, Except.ok.injEq, exists_eq_left']
        rw [← search_eq_roots]
        cases (graphSearch validateSub graph depth).visit (searchBound graph) []
            graph.entryNodeId ([], { ledger with budget }) with
        | error error => simp [bind, Except.bind]
        | ok entered =>
          obtain ⟨entryVisited, entryLedger⟩ := entered
          simp only [bind, Except.bind]
          split
          · next error hfailed => simp [hfailed]
          · next progress hfound =>
            obtain ⟨visited, after⟩ := progress
            simp [hfound]

/-! ## The ledger of an accepted graph -/

/-- `entry_visited`. -/
def entryVisited (graph : ExecutionGraph) : List String :=
  (Search.traceFrom (skips graph) (neighbors graph) (searchBound graph) [graph.entryNodeId]).visited

/-- `unreachable`. -/
def unreachable (graph : ExecutionGraph) : List String :=
  (Dict.keyList graph.nodes).filter fun nodeId => nodeId ∉ entryVisited graph

/-- What an accepted graph has passed, and what is written to the ledger: the budget
is spent along the search, and the warnings end in one for each unreachable node. -/
structure Accepted (graph : ExecutionGraph) (depth : ℤ) (ledger after : Ledger) : Prop where
  size : checkSize graph depth = .ok ()
  references : checkReferences graph = .ok ()
  spent : ∃ budget found, spend graph depth ledger.budget = .ok budget ∧ (searchOrder graph).foldlM
        (fun ledger nodeId => (graphSearch validateGraph graph depth).enter nodeId ledger)
        { ledger with budget } = .ok found ∧
      after.budget = ledger.budget.bind fun _ => found.budget
  warnings : ∃ earlier : Option (List String), after.warnings = earlier.map fun warnings =>
    warnings ++ ((unreachable graph).mergeSort fun left right => decide (left ≤ right)).map
        fun nodeId => s!"步骤 '{nodeId}' 从入口步骤 '{graph.entryNodeId}' 不可达"

theorem ok_of_bind {ε α β : Type} {first : Except ε α} {rest : α → Except ε β} {result : β}
    (hok : (first >>= rest) = .ok result) :
    ∃ value, first = .ok value ∧ rest value = .ok result := by
  cases first with
  | error error => cases hok
  | ok value => exact ⟨value, rfl, hok⟩

theorem visited_of_visit {search : Search String String Ledger} {bound : ℕ}
    {nodeId : String} {ledger : Ledger} {entered : List String × Ledger}
    (hvisit : search.visit bound [] nodeId ([], ledger) = .ok entered) :
    entered.1 = (Search.traceFrom search.skips search.neighbors bound [nodeId]).visited := by
  rw [Search.visit_eq_trace] at hvisit
  obtain ⟨state, -, hreturn⟩ := ok_of_bind hvisit
  rw [← Except.ok.inj hreturn]
  rfl

theorem validateGraph_ok {graph : ExecutionGraph} {depth : ℤ} {ledger after : Ledger}
    (haccepted : validateGraph graph depth ledger = .ok after) :
    Accepted graph depth ledger after := by
  rw [validateGraph_eq] at haccepted
  obtain ⟨⟨⟩, hsize, haccepted⟩ := ok_of_bind haccepted
  obtain ⟨budget, hspend, haccepted⟩ := ok_of_bind haccepted
  obtain ⟨⟨⟩, hreferences, haccepted⟩ := ok_of_bind haccepted
  have hroots := search_eq_roots validateGraph graph depth { ledger with budget }
  obtain ⟨entered, hentered, haccepted⟩ := ok_of_bind haccepted
  obtain ⟨found, hfound, hafter⟩ := ok_of_bind haccepted
  have hvisited : entered.1 = entryVisited graph := visited_of_visit hentered
  have hwhole : (searchRoots graph).foldlM
      (fun progress root => (graphSearch validateGraph graph depth).visit
        (searchBound graph) [] root progress) ([], { ledger with budget }) =
          .ok (found.1, found.2) := by
    rw [← hroots, hentered]
    exact hfound
  have hentries := ((Search.foldlM_visit_ok_iff (graphSearch validateGraph graph depth)
    (skips_keys graph) (Nat.lt_succ_of_le (by simp [Dict.keyList]))
    (searchRoots graph) { ledger with budget } found.2).mp ⟨found.1, hwhole⟩).1
  exact
    { size := hsize
      references := hreferences
      spent := ⟨budget, found.2, hspend, hentries, by rw [← Except.ok.inj hafter]⟩
      warnings := by
        refine ⟨found.2.warnings, ?_⟩
        rw [← Except.ok.inj hafter]
        rw [hvisited]
        rfl }

/-! ## Loops of an accepted graph -/

theorem accepts_iff (graph : ExecutionGraph) (depth : ℤ) (ledger : Ledger) :
    (∃ after, validateGraph graph depth ledger = .ok after) ↔
      PassesOtherChecks graph depth ledger ∧ ¬ MeetsBadLoop graph := by
  have hclose : (∀ path nodeId,
      BackEdge (skips graph) (neighbors graph) (searchRoots graph) path nodeId →
        (graphSearch validateGraph graph depth).close
          (path.drop (path.idxOf nodeId)) nodeId = .ok ()) ↔ ¬ MeetsBadLoop graph := by
    simp [graphSearch, MeetsBadLoop]
  have hsearch : ∀ budget after,
      (∃ visited, (searchRoots graph).foldlM
        (fun progress root => (graphSearch validateGraph graph depth).visit
          (searchBound graph) [] root progress)
        ([], { ledger with budget }) = .ok (visited, after)) ↔
      (searchOrder graph).foldlM
          (fun ledger nodeId => (graphSearch validateGraph graph depth).enter nodeId ledger)
          { ledger with budget } = .ok after ∧ ¬ MeetsBadLoop graph := by
    intro budget after
    rw [← hclose]
    exact Search.foldlM_visit_ok_iff (graphSearch validateGraph graph depth)
      (skips_keys graph) (Nat.lt_succ_of_le (by simp [Dict.keyList]))
      (searchRoots graph) { ledger with budget } after
  rw [validateGraph_eq, validateWith_ok_iff, PassesOtherChecks]
  constructor
  · rintro ⟨hsize, hreferences, budget, hspend, visited, after, hfound⟩
    obtain ⟨hentries, hloops⟩ := (hsearch budget after).mp ⟨visited, hfound⟩
    exact ⟨⟨hsize, hreferences, budget, after, hspend, hentries⟩, hloops⟩
  · rintro ⟨⟨hsize, hreferences, budget, after, hspend, hentries⟩, hloops⟩
    obtain ⟨visited, hfound⟩ := (hsearch budget after).mpr ⟨hentries, hloops⟩
    exact ⟨hsize, hreferences, budget, hspend, visited, after, hfound⟩

/-- What the validator accepts has no cycle over a node that may not repeat, just
where some such cycle is always met by the search of a graph that has one. -/
theorem loops_allowed_iff (graph : ExecutionGraph) (depth : ℤ) (ledger : Ledger) :
    ((∃ after, validateGraph graph depth ledger = .ok after) → LoopsAllowed graph) ↔
      (PassesOtherChecks graph depth ledger →
        (∃ nodeId, OnLoop graph nodeId ∧ mayRepeat graph nodeId = false) → MeetsBadLoop graph) := by
  rw [accepts_iff]
  constructor
  · rintro hallowed hpasses ⟨nodeId, hloop, hrepeat⟩
    by_contra hmeets
    have := hallowed ⟨hpasses, hmeets⟩ nodeId hloop
    rw [hrepeat] at this
    cases this
  · rintro hmeets ⟨hpasses, hnone⟩ nodeId hloop
    by_contra hrepeat
    exact hnone (hmeets hpasses ⟨nodeId, hloop, Bool.eq_false_iff.mpr hrepeat⟩)

/-! ## A loop that the search does not meet -/

def twice : LoopPolicy where
  allowLoop := true
  maxVisits := 2

/-- The captcha lies on the loop over the check-in, which the search has left
before it comes to the captcha. -/
def captchaGraph : ExecutionGraph where
  entryNodeId := "menu"
  nodes :=
    [("menu",
      { id := "menu"
        nextNodeId := some "checkin"
        onFailureNodeId := some "captcha"
        loopPolicy := twice }),
     ("checkin", { id := "checkin", nextNodeId := some "menu", loopPolicy := twice }),
     ("captcha", { id := "captcha", nextNodeId := some "checkin" })]

theorem captcha_loop_accepted : (∃ after, validateGraph captchaGraph 1 {} = .ok after) ∧
      ¬ LoopsAllowed captchaGraph := by
  refine ⟨⟨{}, by decide⟩, fun hallowed => ?_⟩
  have hfirst : Edge captchaGraph "captcha" "checkin" := by decide
  have hsecond : Edge captchaGraph "checkin" "menu" := by decide
  have hthird : Edge captchaGraph "menu" "captcha" := by decide
  have hloop : OnLoop captchaGraph "captcha" :=
    .tail (.tail (.single hfirst) hsecond) hthird
  exact absurd (hallowed "captcha" hloop) (by decide)

end SignPulse.LoopCheck
