import SignPulse.Flow.Reachability

/-!
# Unreachable nodes in diagrams

`find_unreachable_nodes` of `flow_mermaid_adapter.py` searches the graph like the validator, but
turns back at four more names.
-/

namespace SignPulse.MermaidAdapter

open Foundation
open FlowModels
open GraphNormalizer
open LoopCheck
open Reachability

variable {graph : ExecutionGraph} {nodeId : String}

end SignPulse.MermaidAdapter
