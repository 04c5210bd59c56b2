import Mathlib.Data.List.Nodup
import SignPulse.Foundation.FirstPath

/-!
# Depth-first search

A recursive search that keeps the path it is on.  Something is done when a node
is entered for the first time, and something is checked when an edge leads back
to the path.  What the search does is described without it: the path on which a
node is entered is the first one to that node in the order of the edges, and a
check is made for each edge from a node back to its first path.
-/

namespace SignPulse.Foundation

/-- What a search does on its way over a graph. -/
structure Search (ν ε σ : Type) where
  /-- Nodes at which the search turns back at once. -/
  skips : ν → Bool
  neighbors : ν → List ν
  enter : ν → σ → Except ε σ
  /-- Check the part of the path that an edge back to `node` closes. -/
  close : List ν → ν → Except ε Unit

namespace Search

variable {ν ε σ : Type} [DecidableEq ν]

/-- The search from `node` on, with the path that led there, the nodes visited
so far in their order, and a bound on the depth. -/
def visit (search : Search ν ε σ) : ℕ → List ν → ν → List ν × σ → Except ε (List ν × σ)
  | 0, _, _, progress => .ok progress
  | bound + 1, path, node, (visited, state) =>
    if search.skips node then .ok (visited, state)
    else if node ∈ path then do
      search.close (path.drop (path.idxOf node)) node
      return (visited, state)
    else if node ∈ visited then .ok (visited, state)
    else do
      let state ← search.enter node state
      (search.neighbors node).foldlM
        (fun progress next => search.visit bound (path ++ [node]) next progress)
        (visited ++ [node], state)

/-! ## The events of a search -/

inductive Event (ν : Type) where
  | entered (node : ν)
  | closed (path : List ν) (node : ν)

/-- The nodes visited at the end of a search that is never stopped, and what
happens in it. -/
structure Trace (ν : Type) where
  visited : List ν
  events : List (Event ν)

def walk (step : ν → List ν → Trace ν) : List ν → List ν → Trace ν
  | [], visited => ⟨visited, []⟩
  | node :: rest, visited =>
    let first := step node visited
    let others := walk step rest first.visited
    ⟨others.visited, first.events ++ others.events⟩

/-- The course of the search, the work at its events apart. -/
def trace (skips : ν → Bool) (neighbors : ν → List ν) : ℕ → List ν → ν → List ν → Trace ν
  | 0, _, _, visited => ⟨visited, []⟩
  | bound + 1, path, node, visited =>
    if skips node then ⟨visited, []⟩
    else if node ∈ path then ⟨visited, [.closed path node]⟩
    else if node ∈ visited then ⟨visited, []⟩
    else
      let inside :=
        walk (trace skips neighbors bound (path ++ [node])) (neighbors node) (visited ++ [node])
      ⟨inside.visited, .entered node :: inside.events⟩

def handle (search : Search ν ε σ) (state : σ) : Event ν → Except ε σ
  | .entered node => search.enter node state
  | .closed path node => do
    search.close (path.drop (path.idxOf node)) node
    return state

def Trace.outcome (traced : Trace ν) (search : Search ν ε σ) (state : σ) :
    Except ε (List ν × σ) := do
  let state ← traced.events.foldlM search.handle state
  return (traced.visited, state)

theorem foldlM_visit_eq_walk {search : Search ν ε σ} {bound : ℕ} {path : List ν}
    {step : ν → List ν → Trace ν}
    (hstep : ∀ node visited state, search.visit bound path node (visited, state) =
        (step node visited).outcome search state) :
    ∀ (nodes visited : List ν) (state : σ),
      nodes.foldlM (fun progress next => search.visit bound path next progress) (visited, state) =
        (walk step nodes visited).outcome search state := by
  intro nodes
  induction nodes with
  | nil =>
    intro visited state
    rfl
  | cons node rest ih =>
    intro visited state
    rw [List.foldlM_cons, hstep]
    simp only [walk, Trace.outcome, List.foldlM_append, bind_assoc, pure_bind]
    congr 1
    funext after
    exact ih _ after

theorem visit_eq_trace (search : Search ν ε σ) :
    ∀ (bound : ℕ) (path : List ν) (node : ν) (visited : List ν) (state : σ),
      search.visit bound path node (visited, state) =
        (trace search.skips search.neighbors bound path node visited).outcome search state := by
  intro bound
  induction bound with
  | zero =>
    intro path node visited state
    rfl
  | succ bound ih =>
    intro path node visited state
    unfold visit trace
    split
    · rfl
    · split
      · simp [Trace.outcome, handle]
      · split
        · rfl
        · simp only [Trace.outcome, List.foldlM_cons, handle, bind_assoc]
          congr 1
          funext entered
          exact foldlM_visit_eq_walk (ih (path ++ [node])) _ _ entered

/-- The nodes entered, in their order. -/
def entries (events : List (Event ν)) : List ν :=
  events.filterMap fun event =>
    match event with
    | .entered node => some node
    | .closed _ _ => none

theorem foldlM_handle_ok_iff (search : Search ν ε σ) (after : σ) :
    ∀ (events : List (Event ν)) (state : σ), events.foldlM search.handle state = .ok after ↔
        (entries events).foldlM (fun state node => search.enter node state) state = .ok after ∧
          ∀ path node, .closed path node ∈ events →
            search.close (path.drop (path.idxOf node)) node = .ok () := by
  intro events
  induction events with
  | nil =>
    intro state
    simp [entries]
  | cons event rest ih =>
    intro state
    rw [List.foldlM_cons]
    cases event with
    | entered node =>
      simp only [handle, entries, List.filterMap_cons, List.foldlM_cons]
      cases search.enter node state with
      | error error => simp [bind, Except.bind]
      | ok next => simpa [entries, bind, Except.bind] using ih next
    | closed path node =>
      simp only [handle, entries, List.filterMap_cons]
      cases hclose : search.close (path.drop (path.idxOf node)) node with
      | error error =>
        simp only [bind, Except.bind, reduceCtorEq, false_iff, not_and]
        intro _ hall
        have := hall path node List.mem_cons_self
        rw [hclose] at this
        cases this
      | ok value =>
        have hrest := ih state
        simp only [bind, Except.bind, pure, Except.pure]
        rw [hrest]
        refine and_congr_right fun _ => ⟨fun hall other last hmem => ?_,
          fun hall other last hmem => hall other last (List.mem_cons_of_mem _ hmem)⟩
        rcases List.mem_cons.mp hmem with heq | hmem
        · cases heq
          exact hclose
        · exact hall other last hmem

/-! ## The course of a search -/

section Course

variable {skips : ν → Bool} {neighbors : ν → List ν} {roots : List ν}

def Settled (skips : ν → Bool) (neighbors : ν → List ν) (path visited : List ν) : Prop :=
  ∀ node ∈ visited, node ∉ path → ∀ next ∈ neighbors node, skips next = false → next ∈ visited

omit [DecidableEq ν] in
theorem Settled.reached {path visited : List ν} {node target : ν}
    (hsettled : Settled skips neighbors path visited)
    (havoids : Avoids skips neighbors path node target) (hnode : node ∈ visited) :
    target ∈ visited := by
  induction havoids with
  | here _ _ => exact hnode
  | step _ hout hedge hrest ih => exact ih (hsettled _ hnode hout _ hedge hrest.live)

/-- The node was entered at the end of its first path, and each edge from it
back to the path was met. -/
def Examined (skips : ν → Bool) (neighbors : ν → List ν) (roots : List ν)
    (events : List (Event ν)) (node : ν) : Prop :=
  ∃ path, FirstPath skips neighbors roots node (path ++ [node]) ∧
    ∀ next ∈ neighbors node, next ∈ path ++ [node] → .closed (path ++ [node]) next ∈ events

omit [DecidableEq ν] in
theorem Examined.mono {events more : List (Event ν)} {node : ν}
    (hexamined : Examined skips neighbors roots events node) (hsub : events ⊆ more) :
    Examined skips neighbors roots more node := by
  obtain ⟨path, hfirst, hcloses⟩ := hexamined
  exact ⟨path, hfirst, fun next hnext hmem => hsub (hcloses next hnext hmem)⟩

/-- What holds after the search has gone to `nodes`, one after another, from the
end of `path`. -/
structure Explored (skips : ν → Bool) (neighbors : ν → List ν)
    (roots path nodes visited : List ν) (traced : Trace ν) : Prop where
  grows : visited ⊆ traced.visited
  settled : Settled skips neighbors path traced.visited
  reached : ∀ node ∈ nodes, skips node = false → node ∈ traced.visited
  examined : ∀ node ∈ traced.visited, node ∉ visited →
    Examined skips neighbors roots traced.events node
  closes : ∀ node ∈ nodes, skips node = false → node ∈ path → .closed path node ∈ traced.events
  closed : ∀ other node, .closed other node ∈ traced.events →
    (other = path ∧ node ∈ nodes ∧ node ∈ path) ∨ BackEdge skips neighbors roots other node

/-- What a search from the end of `path` relies on: it is on the first path of
every node that it can reach and that is not visited yet. -/
structure Ready (skips : ν → Bool) (neighbors : ν → List ν)
    (roots path visited : List ν) (node : ν) : Prop where
  onPath : path ⊆ visited
  settled : Settled skips neighbors path visited
  first : ∀ target, target ∉ visited → Avoids skips neighbors path node target →
    FirstPath skips neighbors roots target (path ++ [node])

omit [DecidableEq ν] in
theorem walk_explored {step : ν → List ν → Trace ν} {path : List ν} (items start : List ν)
    (hstep : ∀ node visited, Ready skips neighbors roots path visited node →
      Explored skips neighbors roots path [node] visited (step node visited))
    (hfirst : ∀ before node after, items = before ++ node :: after → ∀ target, target ∉ start →
        (∀ other ∈ before, ¬ Avoids skips neighbors path other target) →
          Avoids skips neighbors path node target →
            FirstPath skips neighbors roots target (path ++ [node])) :
    ∀ rest before visited, items = before ++ rest → start ⊆ visited →
      path ⊆ visited → Settled skips neighbors path visited →
      (∀ other ∈ before, skips other = false → other ∈ visited) →
        Explored skips neighbors roots path rest visited (walk step rest visited) := by
  intro rest
  induction rest with
  | nil =>
    intro before visited _ _ _ hsettled _
    refine ⟨List.Subset.refl _, hsettled, ?_, ?_, ?_, ?_⟩
    · simp
    · intro node hnode hnew
      exact absurd hnode hnew
    · simp
    · simp [walk]
  | cons node rest ih =>
    intro before visited hitems hstart honPath hsettled hbefore
    have hready : Ready skips neighbors roots path visited node :=
      { onPath := honPath
        settled := hsettled
        first := fun target hnew havoids =>
          hfirst before node rest hitems target (fun hmem => hnew (hstart hmem))
            (fun other hother hreach =>
              -- an earlier neighbor is visited, and so is all it reaches
              hnew (hsettled.reached hreach (hbefore other hother hreach.live)))
            havoids }
    have hnode := hstep node visited hready
    have hothers := ih (before ++ [node]) (step node visited).visited
      (by rw [hitems, List.append_assoc]; rfl)
      (List.Subset.trans hstart hnode.grows) (List.Subset.trans honPath hnode.grows) hnode.settled (by
        intro other hother hlive
        rcases List.mem_append.mp hother with hmem | hlast
        · exact hnode.grows (hbefore other hmem hlive)
        · exact hnode.reached other hlast hlive)
    refine ⟨List.Subset.trans hnode.grows hothers.grows, hothers.settled, ?_, ?_, ?_, ?_⟩
    · intro other hother hlive
      rcases List.mem_cons.mp hother with rfl | hrest
      · exact hothers.grows (hnode.reached other List.mem_cons_self hlive)
      · exact hothers.reached other hrest hlive
    · intro other hother hnew
      by_cases hmem : other ∈ (step node visited).visited
      · exact (hnode.examined other hmem hnew).mono (List.subset_append_left _ _)
      · exact (hothers.examined other hother hmem).mono (List.subset_append_right _ _)
    · intro other hother hlive hmem
      rcases List.mem_cons.mp hother with rfl | hrest
      · exact List.mem_append_left _ (hnode.closes other List.mem_cons_self hlive hmem)
      · exact List.mem_append_right _ (hothers.closes other hrest hlive hmem)
    · intro other last hclosed
      rcases List.mem_append.mp hclosed with hmem | hmem
      · refine (hnode.closed other last hmem).imp_left fun hhere => ?_
        exact ⟨hhere.1, List.mem_cons.mpr (Or.inl (List.mem_singleton.mp hhere.2.1)), hhere.2.2⟩
      · refine (hothers.closed other last hmem).imp_left fun hhere => ?_
        exact ⟨hhere.1, List.mem_cons_of_mem _ hhere.2.1, hhere.2.2⟩

omit [DecidableEq ν] in
theorem explored_unentered {path visited : List ν} {node : ν}
    {events : List (Event ν)} (hready : Ready skips neighbors roots path visited node)
    (hreached : skips node = false → node ∈ visited)
    (hcloses : skips node = false → node ∈ path → .closed path node ∈ events)
    (hclosed : ∀ other last, .closed other last ∈ events →
      other = path ∧ last = node ∧ node ∈ path) :
    Explored skips neighbors roots path [node] visited ⟨visited, events⟩ where
  grows := List.Subset.refl _
  settled := hready.settled
  reached := by
    intro other hother hlive
    rw [List.mem_singleton.mp hother] at hlive ⊢
    exact hreached hlive
  examined := fun other hother hnew => absurd hother hnew
  closes := by
    intro other hother hlive hmem
    rw [List.mem_singleton.mp hother] at hlive hmem ⊢
    exact hcloses hlive hmem
  closed := by
    intro other last hmem
    obtain ⟨rfl, rfl, hpath⟩ := hclosed other last hmem
    exact Or.inl ⟨rfl, List.mem_cons_self, hpath⟩

theorem trace_entered {step : ν → List ν → Trace ν} {path visited : List ν} {node : ν}
    (hlive : skips node = false) (hpath : node ∉ path) (hvisited : node ∉ visited)
    (hready : Ready skips neighbors roots path visited node)
    (hstep : ∀ next visited, Ready skips neighbors roots (path ++ [node]) visited next →
        Explored skips neighbors roots (path ++ [node]) [next] visited (step next visited)) :
    Explored skips neighbors roots path [node] visited
      ⟨(walk step (neighbors node) (visited ++ [node])).visited,
        .entered node :: (walk step (neighbors node) (visited ++ [node])).events⟩ := by
  have hfirst : FirstPath skips neighbors roots node (path ++ [node]) :=
    hready.first node hvisited (.here hlive hpath)
  have hinside : Explored skips neighbors roots (path ++ [node]) (neighbors node)
      (visited ++ [node]) (walk step (neighbors node) (visited ++ [node])) := by
    refine walk_explored (neighbors node) (visited ++ [node]) hstep ?_ _ [] _ rfl
      (List.Subset.refl _) ?_ ?_ (by simp)
    · intro before next after hedges target hnew hearlier hreach
      have hthrough : Avoids skips neighbors path node target :=
        .step hlive hpath (hedges ▸ List.mem_append_right _ List.mem_cons_self)
          (hreach.mono (List.subset_append_left _ _))
      exact .step (hready.first target
        (fun hmem => hnew (List.mem_append_left _ hmem)) hthrough) hedges hearlier hreach
    · intro other hother
      rcases List.mem_append.mp hother with hmem | hlast
      · exact List.mem_append_left _ (hready.onPath hmem)
      · exact List.mem_append_right _ hlast
    · intro other hother hout next hnext hnextLive
      rcases List.mem_append.mp hother with hmem | hlast
      · exact List.mem_append_left _ (hready.settled other hmem
          (fun honPath => hout (List.mem_append_left _ honPath)) next hnext hnextLive)
      · exact absurd (List.mem_append_right _ hlast) hout
  refine ⟨fun other hother => hinside.grows (List.mem_append_left _ hother), ?_, ?_, ?_, ?_, ?_⟩
  · intro other hother hout next hnext hnextLive
    by_cases hsame : other = node
    · rw [hsame] at hnext
      exact hinside.reached next hnext hnextLive
    · refine hinside.settled other hother (fun hmem => ?_) next hnext hnextLive
      rcases List.mem_append.mp hmem with honPath | hlast
      · exact hout honPath
      · exact hsame (List.mem_singleton.mp hlast)
  · intro other hother _
    exact hinside.grows (List.mem_append_right _ hother)
  · intro other hother hnew
    by_cases hsame : other = node
    · subst hsame
      refine ⟨path, hfirst, fun next hnext hmem => List.mem_cons_of_mem _ ?_⟩
      exact hinside.closes next hnext (hfirst.live next hmem) hmem
    · refine (hinside.examined other hother fun hmem => ?_).mono (List.subset_cons_self _ _)
      rcases List.mem_append.mp hmem with hbefore | hlast
      · exact hnew hbefore
      · exact hsame (List.mem_singleton.mp hlast)
  · intro other hother _ hmem
    rw [List.mem_singleton.mp hother] at hmem
    exact absurd hmem hpath
  · intro other last hmem
    rcases List.mem_cons.mp hmem with heq | hinner
    · cases heq
    · right
      rcases hinside.closed other last hinner with ⟨rfl, hedge, hback⟩ | hback
      · exact ⟨path, node, rfl, hfirst, hedge, hback⟩
      · exact hback

/-- The search from the end of `path`, as long as the bound leaves room for a
path through all nodes. -/
theorem trace_explored {keys : List ν} (hkeys : ∀ node, skips node = false → node ∈ keys) :
    ∀ bound path node visited, keys.length < path.length + bound → path.Nodup →
      (∀ other ∈ path, skips other = false) →
      Ready skips neighbors roots path visited node →
        Explored skips neighbors roots path [node] visited
          (trace skips neighbors bound path node visited) := by
  intro bound
  induction bound with
  | zero =>
    intro path node visited hroom hnodup hlive hready
    have hshort := hnodup.length_le_of_subset fun other hother =>
      hkeys other (hlive other hother)
    omega
  | succ bound ih =>
    intro path node visited hroom hnodup hlive hready
    unfold trace
    split
    · next hskips =>
      refine explored_unentered hready ?_ ?_ (by simp)
      all_goals
        intro hnode
        rw [hskips] at hnode
        cases hnode
    · next hnode =>
      have hnodeLive : skips node = false := Bool.eq_false_iff.mpr hnode
      split
      · next hpath =>
        refine explored_unentered hready (fun _ => hready.onPath hpath) ?_ ?_
        · intro _ _
          exact List.mem_cons_self
        · intro other last hmem
          cases List.mem_singleton.mp hmem
          exact ⟨rfl, rfl, hpath⟩
      · next hpath =>
        split
        · next hvisited =>
          exact explored_unentered hready (fun _ => hvisited)
            (fun _ hmem => absurd hmem hpath) (by simp)
        · next hvisited =>
          exact trace_entered hnodeLive hpath hvisited hready
            fun next visited hnext => ih (path ++ [node]) next visited
              (by
                simp only [List.length_append, List.length_singleton]
                omega)
              (by
                rw [← List.concat_eq_append]
                exact hnodup.concat hpath)
              (by
                intro other hother
                rcases List.mem_append.mp hother with hmem | hlast
                · exact hlive other hmem
                · rwa [List.mem_singleton.mp hlast])
              hnext

/-- The course of a search from several roots, one after another. -/
def traceFrom (skips : ν → Bool) (neighbors : ν → List ν) (bound : ℕ) (roots : List ν) : Trace ν :=
  walk (trace skips neighbors bound []) roots []

section

variable {keys : List ν} (hkeys : ∀ node, skips node = false → node ∈ keys) {bound : ℕ}
  (hbound : keys.length < bound)

include hkeys hbound

theorem traceFrom_explored (roots : List ν) :
    Explored skips neighbors roots [] roots [] (traceFrom skips neighbors bound roots) := by
  refine walk_explored roots [] (fun node visited hready => ?_) ?_ roots [] [] rfl
    (List.Subset.refl _) (List.Subset.refl _) (by simp [Settled]) (by simp)
  · exact trace_explored hkeys bound [] node visited (by simpa using hbound)
      List.nodup_nil (by simp) hready
  · intro before node after hroots target _ hearlier hreach
    exact .root hroots hearlier hreach

end

omit [DecidableEq ν] in
theorem walk_visited {step : ν → List ν → Trace ν}
    (hstep : ∀ node visited, (step node visited).visited =
      visited ++ entries (step node visited).events) :
    ∀ nodes visited, (walk step nodes visited).visited =
      visited ++ entries (walk step nodes visited).events := by
  intro nodes
  induction nodes with
  | nil => simp [walk, entries]
  | cons node rest ih =>
    intro visited
    rw [walk, ih, hstep]
    simp [entries, List.filterMap_append]

theorem trace_visited (bound : ℕ) :
    ∀ path node visited, (trace skips neighbors bound path node visited).visited =
      visited ++ entries (trace skips neighbors bound path node visited).events := by
  induction bound with
  | zero => simp [trace, entries]
  | succ bound ih =>
    intro path node visited
    unfold trace
    split
    · simp [entries]
    · split
      · simp [entries]
      · split
        · simp [entries]
        · dsimp only
          rw [walk_visited (ih (path ++ [node]))]
          simp [entries]

theorem traceFrom_visited (bound : ℕ) (roots : List ν) :
    (traceFrom skips neighbors bound roots).visited =
      entries (traceFrom skips neighbors bound roots).events := by
  simpa [traceFrom] using walk_visited (trace_visited bound []) roots []

theorem closed_mem_traceFrom_iff {keys : List ν}
    (hkeys : ∀ node, skips node = false → node ∈ keys) {bound : ℕ}
    (hbound : keys.length < bound) {roots path : List ν} {node : ν} :
    .closed path node ∈ (traceFrom skips neighbors bound roots).events ↔
      BackEdge skips neighbors roots path node := by
  have hexplored : Explored skips neighbors roots [] roots []
      (traceFrom skips neighbors bound roots) := traceFrom_explored hkeys hbound roots
  constructor
  · intro hclosed
    rcases hexplored.closed path node hclosed with ⟨_, _, hmem⟩ | hback
    · cases hmem
    · exact hback
  · rintro ⟨before, last, rfl, hfirst, hedge, hmem⟩
    obtain ⟨root, hroot, hreach⟩ := hfirst.reached
    have hvisited : last ∈ (traceFrom skips neighbors bound roots).visited :=
      hexplored.settled.reached hreach (hexplored.reached root hroot hreach.live)
    obtain ⟨path, hpath, hcloses⟩ :=
      hexplored.examined last hvisited (List.not_mem_nil)
    rw [hfirst.unique hpath] at hmem ⊢
    exact hcloses node hedge hmem

def order (search : Search ν ε σ) (bound : ℕ) (roots : List ν) : List ν :=
  entries (traceFrom search.skips search.neighbors bound roots).events

/-- A search from `roots` is not stopped where its entries succeed in their order
and every edge that leads back to a first path passes the check. -/
theorem foldlM_visit_ok_iff (search : Search ν ε σ) {keys : List ν}
    (hkeys : ∀ node, search.skips node = false → node ∈ keys) {bound : ℕ}
    (hbound : keys.length < bound) (roots : List ν) (state after : σ) :
    (∃ visited, roots.foldlM (fun progress root => search.visit bound [] root progress)
        ([], state) = .ok (visited, after)) ↔
      (search.order bound roots).foldlM (fun state node => search.enter node state)
          state = .ok after ∧
        ∀ path node, BackEdge search.skips search.neighbors roots path node →
          search.close (path.drop (path.idxOf node)) node = .ok () := by
  rw [foldlM_visit_eq_walk (visit_eq_trace search bound [])]
  have hevents := foldlM_handle_ok_iff search after
    (traceFrom search.skips search.neighbors bound roots).events state
  simp only [closed_mem_traceFrom_iff hkeys hbound] at hevents
  rw [order, ← hevents]
  change (∃ visited, ((traceFrom search.skips search.neighbors bound roots).outcome
    search state) = .ok (visited, after)) ↔ _
  unfold Trace.outcome
  cases (traceFrom search.skips search.neighbors bound roots).events.foldlM search.handle state with
  | error error => simp [bind, Except.bind]
  | ok last => simp [bind, Except.bind, pure, Except.pure]

theorem visit_of_mem (search : Search ν ε σ) (bound : ℕ) {node : ν}
    {visited : List ν} (hvisited : node ∈ visited) (state : σ) :
    search.visit bound [] node (visited, state) = .ok (visited, state) := by
  cases bound with
  | zero => rfl
  | succ bound => simp [visit, hvisited]

end Course

end Search

end SignPulse.Foundation
