import SignPulse.Signer.FlowRouting

/-!
# Detected policies

Whether a chat or task whose compiled graphs carry an active semantic policy is found to require
the semantic runtime, and is kept from the classic engine.
-/

namespace SignPulse.FlowRouting

open Foundation
open FlowModels (PyError)
open ChainedRuns (Config getEntry isTrue)
open ChatGraphs
open Requirements (orNext anyM_cons anyM_append anyM_map anyM_eq_true_iff)

/-! ## What is looked at -/

def loopProbes (value : PyValue) : List (Except PyError PyValue) :=
  match iterated value with
  | .ok items => (items.flatMap itemValues).map .ok
  | .error error => [.error error]

/-- Everything that is looked at for a policy, in this order. -/
def probes : ChatSource → List (Except PyError PyValue)
  | .object chat =>
    ((chat.steps.getD []).flatMap stepValues ++ (chat.actions.getD []).flatMap actionValues).map .ok
  | .dict chat =>
    (itemValues (.dict chat.entries)).map .ok ++
      (loopProbes (getEntry chat.entries "steps") ++ loopProbes (getEntry chat.entries "actions"))

def probeShown (probe : Except PyError PyValue) : Except PyError Bool := probe >>= policyShown

/-- An active policy stands with the chat, its steps or its actions, before anything that cannot
be read. -/
def Shown (routed : Routed) : Prop :=
  ∃ before probe after, routed.sources.flatMap probes = before ++ probe :: after ∧
    (∀ passed ∈ before, probeShown passed = .ok false) ∧ probeShown probe = .ok true

theorem anyM_flatMap {α β : Type} (p : β → Except PyError Bool) (f : α → List β)
    (items : List α) : (items.flatMap f).anyM p = items.anyM fun item => (f item).anyM p := by
  induction items with
  | nil => rfl
  | cons item rest ih => rw [List.flatMap_cons, anyM_append, anyM_cons, ih]

theorem anyM_ok (values : List PyValue) :
    (values.map Except.ok).anyM probeShown = hasSem values := by
  rw [anyM_map]
  rfl

theorem anyM_loopProbes (value : PyValue) : (loopProbes value).anyM probeShown =
      (do
        let items ← iterated value
        items.anyM fun item => hasSem (itemValues item)) := by
  unfold loopProbes
  cases iterated value with
  | error error => rfl
  | ok items =>
    rw [anyM_ok]
    exact anyM_flatMap policyShown itemValues items

theorem chatRequiresSemantic_eq (source : ChatSource) :
    chatRequiresSemantic source = (probes source).anyM probeShown := by
  cases source with
  | object chat =>
    simp only [chatRequiresSemantic, probes]
    rw [anyM_ok, hasSem, anyM_append, anyM_flatMap, anyM_flatMap]
    rfl
  | dict chat =>
    simp only [chatRequiresSemantic, probes]
    rw [anyM_append, anyM_append, anyM_ok, anyM_loopProbes, anyM_loopProbes]

theorem taskRequiresSemantic_eq_anyM (routed : Routed) :
    taskRequiresSemantic routed = routed.sources.anyM chatRequiresSemantic := by
  cases routed with
  | chat source =>
    change chatRequiresSemantic source = [source].anyM chatRequiresSemantic
    rw [anyM_cons]
    unfold orNext
    cases chatRequiresSemantic source with
    | error error => rfl
    | ok value => cases value <;> rfl
  | taskObject engine chats =>
    change _ = (chats.map ChatSource.object).anyM chatRequiresSemantic
    rw [anyM_map]
    rfl
  | taskDict engine chats => rfl

theorem taskRequiresSemantic_iff (routed : Routed) :
    taskRequiresSemantic routed = .ok true ↔ Shown routed := by
  have hprobes : chatRequiresSemantic = fun source => (probes source).anyM probeShown :=
    funext chatRequiresSemantic_eq
  rw [taskRequiresSemantic_eq_anyM, hprobes, ← anyM_flatMap]
  exact anyM_eq_true_iff

/-! ## The engine -/

theorem forall_of_anyM_eq_false {α : Type} {p : α → Except PyError Bool} {items : List α}
    (hany : items.anyM p = .ok false) : ∀ item ∈ items, p item = .ok false := by
  induction items with
  | nil => exact fun _ hmem => absurd hmem List.not_mem_nil
  | cons item rest ih =>
    rw [anyM_cons] at hany
    cases hitem : p item with
    | error error =>
      rw [hitem] at hany
      cases hany
    | ok value =>
      rw [hitem] at hany
      cases value with
      | true => cases hany
      | false => exact List.forall_mem_cons.mpr ⟨hitem, ih hany⟩

theorem of_orNext_eq_false {first next : Except PyError Bool}
    (hor : orNext first next = .ok false) : first = .ok false ∧ next = .ok false := by
  cases first with
  | error error => cases hor
  | ok value =>
    cases value with
    | true => cases hor
    | false => exact ⟨rfl, hor⟩

theorem semantic_of_requiresFlow {routed : Routed}
    (hflow : requiresFlow (some routed) = .ok false) :
    ∀ source ∈ routed.sources, chatRequiresSemantic source = .ok false := by
  cases routed with
  | chat source => exact List.forall_mem_singleton.mpr (of_orNext_eq_false hflow).1
  | taskObject engine chats =>
    have hany : taskRequiresSemantic (.taskObject engine chats) = .ok false := hflow
    rw [taskRequiresSemantic_eq_anyM] at hany
    exact forall_of_anyM_eq_false hany
  | taskDict engine chats =>
    intro source hsource
    exact (of_orNext_eq_false (forall_of_anyM_eq_false hflow source hsource)).1

theorem of_engine_eq_v3 {env : Environment} {routed : Option Routed}
    {givenEngine globalEngine : PyValue} {canaryPercentage : Option ℤ}
    {result : EngineResolutionResult}
    (hresolve : resolveExecutionEngine env routed givenEngine globalEngine canaryPercentage =
      .ok result) (hengine : result.engine = .v3) :
    requiresFlow routed = .ok false ∧ engineOverride env = some .v3 := by
  unfold resolveExecutionEngine at hresolve
  obtain ⟨required, hrequired, hresolve⟩ := bind_eq_ok.mp hresolve
  cases required with
  | true =>
    simp only [if_true] at hresolve
    split at hresolve
    · cases hresolve
    · cases hresolve
      cases hengine
  | false =>
    simp only [Bool.false_eq_true, if_false] at hresolve
    refine ⟨hrequired, ?_⟩
    cases hoverride : engineOverride env with
    | none =>
      rw [hoverride] at hresolve
      cases hresolve
      cases hengine
    | some engine =>
      rw [hoverride] at hresolve
      cases hresolve
      exact congrArg some hengine

def NeverClassic (routed : Routed) : Prop :=
  ∀ (env : Environment) (givenEngine globalEngine : PyValue) (canaryPercentage : Option ℤ)
    (result : EngineResolutionResult),
    resolveExecutionEngine env (some routed) givenEngine globalEngine canaryPercentage =
        .ok result →
      result.engine ≠ .v3

theorem neverClassic_of_requires {routed : Routed}
    (hrequires : taskRequiresSemantic routed = .ok true) : NeverClassic routed := by
  intro env givenEngine globalEngine canaryPercentage result hresolve hengine
  obtain ⟨hflow, -⟩ := of_engine_eq_v3 hresolve hengine
  rw [taskRequiresSemantic_eq_anyM, anyM_eq_true_iff] at hrequires
  obtain ⟨before, source, after, hsources, -, hsource⟩ := hrequires
  have hmem : source ∈ routed.sources := hsources ▸ List.mem_append_right _ List.mem_cons_self
  have hfalse := semantic_of_requiresFlow hflow source hmem
  exact absurd (hsource.symm.trans hfalse) (by simp)

/-! ## Detection of what is compiled -/

section Compiled

variable (classes : NodeClasses) (models : Models) (settings : Settings)
  (load : Config → Except PyError ValidChat)

/-- An active policy that a compiled graph carries is found and keeps the chat or task from the
classic engine, if and only if one of those that are configured anywhere stands where the search
looks: with the chat, its steps or its actions. -/
theorem detected_iff_shown (routed : Routed) {graphs : List ChatGraph}
    (hcompile : routed.sources.mapM (compileSource classes models settings load) = .ok graphs) :
    ((∃ graph ∈ graphs, Carries graph) →
        taskRequiresSemantic routed = .ok true ∧ NeverClassic routed) ↔
      ((∃ source ∈ routed.sources, SourceConfigured classes models load source) →
        Shown routed) := by
  have hcarries : (∃ graph ∈ graphs, Carries graph) ↔
      ∃ source ∈ routed.sources, SourceConfigured classes models load source := by
    constructor
    · rintro ⟨graph, hgraph, hcarries⟩
      obtain ⟨source, hsource, hone⟩ := mem_of_mapM_eq_ok hcompile graph hgraph
      exact ⟨source, hsource, (carries_compileSource classes models settings load hone).mp hcarries⟩
    · rintro ⟨source, hsource, hconfigured⟩
      obtain ⟨graph, hgraph, hone⟩ := exists_mem_of_mapM_eq_ok hcompile source hsource
      exact ⟨graph, hgraph,
        (carries_compileSource classes models settings load hone).mpr hconfigured⟩
  rw [hcarries, ← taskRequiresSemantic_iff]
  constructor
  · exact fun hdetected hconfigured => (hdetected hconfigured).1
  · intro hshown hconfigured
    exact ⟨hshown hconfigured, neverClassic_of_requires (hshown hconfigured)⟩

end Compiled

/-! ## A policy in a graph -/

def plainClasses : NodeClasses where
  strOf _ := ""
  intOfText _ := none
  acceptsNode _ _ := .ok ()
  acceptsGraph _ := .ok ()
  acceptsAction _ _ := .ok ()
  paramsOf _ := .error { name := "ValidationError" }
  base _ _ :=
    { id := "wait"
      name := ""
      nextNodeId := none
      onFailureNodeId := none
      timeoutSeconds := 90
      metadata := {}
      kind := .delay 1 }
  event _ :=
    { eventType := "NEW_MESSAGE"
      successPatterns := []
      failurePatterns := []
      semanticResult := none
      retryKeywords := []
      retryInterval := 10
      maxRetries := 3
      actionNodeId := none }
  condition _ := ([], none)
  delay _ := 1
  extractor _ := ("prev.output", "", [])
  subflow _ := (none, [], [])
  parallel _ := (.all, none, "merge")
  graph _ :=
    { entryNodeId := "wait"
      nodes := [] }

def assistPolicy : Config := [("mode", .str "assist")]

/-- A text is sent, and its reply assessed. -/
def assistedChat : ValidChat where
  chatId := 7
  actions := some
    [{ kind := .sendText "签到"
       waitForReply := true
       semanticResult := some assistPolicy
       fieldsSet := ["action", "text", "wait_for_reply", "semantic_result"] }]
  steps := none
  oneSource := rfl
  stepIds := List.nodup_nil
  actionsDefaulted := by
    intro act hact
    obtain rfl := List.mem_singleton.mp hact
    exact ⟨fun _ => rfl, fun _ => rfl, fun _ => rfl, fun _ => rfl⟩
  stepsDefaulted := noSteps_defaulted

theorem detected_iff_shown_assistedChat :
    ∃ graphs, (Routed.chat (.object assistedChat)).sources.mapM
        (compileSource plainClasses plainModels defaultSettings fun _ => .ok assistedChat) =
          .ok graphs ∧
      (((∃ graph ∈ graphs, Carries graph) →
          taskRequiresSemantic (.chat (.object assistedChat)) = .ok true ∧
            NeverClassic (.chat (.object assistedChat))) ↔
        ((∃ source ∈ (Routed.chat (.object assistedChat)).sources,
            SourceConfigured plainClasses plainModels (fun _ => .ok assistedChat) source) →
          Shown (.chat (.object assistedChat)))) :=
  ⟨_, rfl, detected_iff_shown plainClasses plainModels defaultSettings (fun _ => .ok assistedChat)
    (.chat (.object assistedChat)) rfl⟩

def waitEntries : Config :=
  [("node_type", .str "wait_event"), ("semantic_result", .dict assistPolicy)]

/-- The reply is assessed in a graph. -/
def graphChat : ValidChat where
  chatId := 7
  actions := none
  steps := none
  flowGraph := some [("entry_node_id", .str "wait"), ("nodes", .dict [("wait", .dict waitEntries)])]
  oneSource := rfl
  stepIds := List.nodup_nil
  actionsDefaulted := fun _ hact => absurd hact List.not_mem_nil
  stepsDefaulted := noSteps_defaulted

/-- A policy of a node of `flow_graph` is not found. -/
theorem graph_policy_missed : ¬ ∀ (classes : NodeClasses) (models : Models) (settings : Settings)
        (load : Config → Except PyError ValidChat) (routed : Routed) (graphs : List ChatGraph),
      routed.sources.mapM (compileSource classes models settings load) = .ok graphs →
        (∃ graph ∈ graphs, Carries graph) →
          taskRequiresSemantic routed = .ok true ∧ NeverClassic routed := by
  intro hall
  have hcompiled : ∃ graphs, (Routed.chat (.object graphChat)).sources.mapM
      (compileSource plainClasses plainModels defaultSettings fun _ => .ok graphChat) =
        .ok graphs := ⟨_, rfl⟩
  obtain ⟨graphs, hcompile⟩ := hcompiled
  have hconfigured : SourceConfigured plainClasses plainModels (fun _ => .ok graphChat)
      (.object graphChat) :=
    .inr (.inr ⟨_, rfl, .here rfl List.mem_cons_self rfl List.mem_cons_self rfl⟩)
  obtain ⟨graph, hgraph, hone⟩ :=
    exists_mem_of_mapM_eq_ok hcompile (.object graphChat) List.mem_cons_self
  have hcarries := (carries_compileSource plainClasses plainModels defaultSettings _ hone).mpr
    hconfigured
  have hfound := (hall _ _ _ _ _ graphs hcompile ⟨graph, hgraph, hcarries⟩).1
  have hmissed : taskRequiresSemantic (.chat (.object graphChat)) = .ok false := rfl
  rw [hmissed] at hfound
  cases hfound

end SignPulse.FlowRouting
