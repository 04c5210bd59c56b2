import SignPulse.Signer.ChatGraphs

/-!
# Graphs of dictionaries

`ExecutionGraph.from_dict`: every entry of `nodes` becomes an instance of the class of its type, and
the graphs inside of it are read the same way.
-/

namespace SignPulse.ChatGraphs

open Foundation
open FlowModels (PyError ParallelMode)
open ChainedRuns (Config getEntry)
open GraphData (NodeType rawNodes checkId nodeTypeOf actionTypeText actionParams subflowOf
  depth_subflowOf)

/-- What the classes of nodes make of the entries that they accept. -/
structure NodeClasses extends GraphData.Models where
  /-- The fields of `BaseFlowNode`, and entries of `metadata`. -/
  base : NodeType → Config → ChatNode
  /-- Those of `WaitEventNode`, up to `semantic_result`. -/
  event : Config → WaitEvent
  condition : Config → List (String × Option String) × Option String
  delay : Config → ℚ
  extractor : Config → String × String × Dict String String
  subflow : Config → Option String × Dict String String × Dict String String
  parallel : Config → ParallelMode × Option ℤ × String
  graph : Config → ChatGraph

variable (classes : NodeClasses)

/-- `semantic_result` of a `WaitEventNode`. -/
def semanticResultOf (entries : Config) : Except PyError (Option Config) :=
  match Dict.getItem entries "semantic_result" with
  | none | some .none => .ok none
  | some (.dict policy) => .ok (some policy)
  | some value => (classes.paramsOf value).map some

def branchDict : PyValue → Except PyError Config
  | .dict graph => .ok graph
  | _ => .error { name := "ValidationError", message := "value is not a valid dict" }

/-- The items of `branches`, where it is a list. -/
def branchItems (entries : Config) : List PyValue :=
  match Dict.getItem entries "branches" with
  | some (.list items) => items
  | _ => []

/-- The graphs that are given inside of a node. -/
def nestedDicts (ntype : NodeType) (entries : Config) : Except PyError (List Config) :=
  match ntype with
  | .subflow => .ok (subflowOf entries).toList
  | .parallel => (branchItems entries).mapM branchDict
  | _ => .ok []

def nodeKind (ntype : NodeType) (entries : Config) (nested : List ChatGraph) :
    Except PyError (NodeKind ChatGraph) :=
  match ntype with
  | .action => do
    let actionType ← actionTypeText classes.toModels entries
    let params ← actionParams classes.toModels entries
    return .action actionType params
  | .waitEvent => do
    let semanticResult ← semanticResultOf classes entries
    return .waitEvent { classes.event entries with semanticResult }
  | .condition =>
    let (cases, defaultTargetId) := classes.condition entries
    .ok (.condition cases defaultTargetId)
  | .delay => .ok (.delay (classes.delay entries))
  | .extractor =>
    let (sourceField, regex, exportVars) := classes.extractor entries
    .ok (.extractor sourceField regex exportVars)
  | .subflow =>
    let (subflowId, inputVars, outputVars) := classes.subflow entries
    .ok (.subflow nested.head? subflowId inputVars outputVars)
  | .parallel =>
    let (mode, maxConcurrency, joinStrategy) := classes.parallel entries
    .ok (.parallel nested mode maxConcurrency joinStrategy)

/-- How nested dictionaries are read. -/
abbrev ReadSub := Config → Except PyError ChatGraph

/-- One entry of `nodes`. -/
def readNode (readSub : ReadSub) (nid : String) : PyValue → Except PyError ChatNode
  | .dict entries => do
    checkId classes.toModels nid entries
    let ntype ← nodeTypeOf classes.toModels entries
    let dicts ← nestedDicts ntype entries
    let nested ← dicts.mapM readSub
    let kind ← nodeKind classes ntype entries nested
    classes.acceptsNode ntype entries
    let node := classes.base ntype entries
    return { node with kind, metadata := { entries := node.metadata.entries } }
  | _ => .error { name := "ValidationError", message := "value is not a valid dict" }

def readEntry (readSub : ReadSub) (entry : String × PyValue) :
    Except PyError (String × ChatNode) := do
  let node ← readNode classes readSub entry.1 entry.2
  return (entry.1, node)

def fromDictWith (readSub : ReadSub) : ReadSub :=
  fun data => do
    let entries ← rawNodes data
    let nodes ← entries.mapM (readEntry classes readSub)
    classes.acceptsGraph data
    return { classes.graph data with nodes }

/-- `from_dict` for dictionaries of at most so many levels. -/
def fromDictLevels : ℕ → ReadSub
  | 0 => fun _ => .error { name := "RecursionError" }
  | levels + 1 => fromDictWith classes (fromDictLevels levels)

/-- `ExecutionGraph.from_dict`. -/
def fromDict : ReadSub := fun data => fromDictLevels classes (PyValue.dict data).depth data

/-! ## Depth -/

theorem branchDict_eq_ok {value : PyValue} {graph : Config}
    (hdict : branchDict value = .ok graph) : value = .dict graph := by
  cases value with
  | dict entries => rw [Except.ok.inj hdict]
  | _ => cases hdict

theorem depth_nestedDicts {ntype : NodeType} {entries : Config} {dicts : List Config}
    (hdicts : nestedDicts ntype entries = .ok dicts) {graph : Config} (hmem : graph ∈ dicts) :
    (PyValue.dict graph).depth < (PyValue.dict entries).depth := by
  cases ntype with
  | subflow =>
    cases hdicts
    exact depth_subflowOf (Option.mem_toList.mp hmem)
  | parallel =>
    obtain ⟨item, hitem, hdict⟩ := mem_of_mapM_eq_ok hdicts graph hmem
    obtain rfl := branchDict_eq_ok hdict
    unfold branchItems at hitem
    split at hitem
    · next items hget =>
      have hlist := PyValue.depth_lt_of_mem_dict (Dict.mem_of_getItem hget)
      exact (PyValue.depth_lt_of_mem_list hitem).trans hlist
    · exact absurd hitem List.not_mem_nil
  | _ =>
    cases hdicts
    exact absurd hmem List.not_mem_nil

theorem depth_of_rawNodes {data nodes : Config} (hnodes : rawNodes data = .ok nodes) {nid : String}
    {value : PyValue} (hmem : (nid, value) ∈ nodes) :
    value.depth < (PyValue.dict data).depth := by
  unfold rawNodes at hnodes
  split at hnodes
  · cases hnodes
    exact absurd hmem List.not_mem_nil
  · next found hget =>
    cases hnodes
    have hdict := PyValue.depth_lt_of_mem_dict (Dict.mem_of_getItem hget)
    exact (PyValue.depth_lt_of_mem_dict hmem).trans hdict
  · cases hnodes

theorem readNode_congr {left right : ReadSub} {nid : String} {value : PyValue}
    (hsame : ∀ sub : Config, (PyValue.dict sub).depth < value.depth → left sub = right sub) :
    readNode classes left nid value = readNode classes right nid value := by
  cases value with
  | dict entries =>
    unfold readNode
    refine congrArg _ (funext fun _ => congrArg _ (funext fun ntype => ?_))
    cases hdicts : nestedDicts ntype entries with
    | error error => rfl
    | ok dicts =>
      have hread : dicts.mapM left = dicts.mapM right :=
        mapM_congr fun sub hsub => hsame sub (depth_nestedDicts hdicts hsub)
      exact congrArg (fun read : Except PyError (List ChatGraph) => do
        let nested ← read
        let kind ← nodeKind classes ntype entries nested
        classes.acceptsNode ntype entries
        let node := classes.base ntype entries
        return { node with kind, metadata := { entries := node.metadata.entries } }) hread
  | _ => rfl

theorem fromDictWith_congr {left right : ReadSub} {data : Config}
    (hsame : ∀ sub : Config, (PyValue.dict sub).depth < (PyValue.dict data).depth →
      left sub = right sub) :
    fromDictWith classes left data = fromDictWith classes right data := by
  unfold fromDictWith
  cases hnodes : rawNodes data with
  | error error => rfl
  | ok nodes =>
    have hread : nodes.mapM (readEntry classes left) = nodes.mapM (readEntry classes right) := by
      apply mapM_congr
      intro entry hmem
      have hentry := depth_of_rawNodes hnodes hmem
      unfold readEntry
      rw [readNode_congr classes fun sub hsub => hsame sub (hsub.trans hentry)]
    exact congrArg (fun read : Except PyError (List (String × ChatNode)) => do
      let nodes ← read
      classes.acceptsGraph data
      return { classes.graph data with nodes }) hread

/-- What `from_dict` does with a dictionary of any depth. -/
theorem fromDict_eq (data : Config) :
    fromDict classes data = fromDictWith classes (fromDict classes) data :=
  PyValue.run_depth_eq (fun _ _ => rfl) (fun _ _ _ => fromDictWith_congr classes) data

end SignPulse.ChatGraphs
