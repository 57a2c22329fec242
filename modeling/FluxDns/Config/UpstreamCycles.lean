import Mathlib.Data.List.Sort
import FluxDns.Library.AssociationList
import FluxDns.Config.Model

/-!
# Cycles among upstreams

The depth-first search over the references between upstreams, which reports every reference that
leads back to an upstream on the current path.
-/

namespace FluxDns.Config

def upstreamEdges : UpstreamDto → List String
  | .doh _ _ bootstrap _ _ _ => bootstrap.toList
  | .group _ upstreams _ _ fallbacks _ _ => (upstreams ++ fallbacks.getD []).map (·.name)
  | .hosts .. => []

abbrev UpstreamGraph := Map String (List String)

/-- The references of every upstream in the order of their names. -/
def upstreamGraph (upstreams : List UpstreamDto) : UpstreamGraph :=
  upstreams.foldl (fun graph upstream => graph.insert upstream.name
    ((upstreamEdges upstream).insertionSort (· ≤ ·)).dedup) ∅

/-- The marks `1` and `2` of the search. -/
inductive VisitMark where
  | active
  | finished

/-- The state of the depth-first search. -/
structure Search where
  states : Map String VisitMark
  stack : List String
  report : List ConfigError

/-- The path back to an upstream that is on the stack. -/
def cycleError (node : String) (stack : List String) : ConfigError :=
  let cycle := stack.drop ((stack.findIdx? (· == node)).getD 0) ++ [node]
  ⟨.cycle, s!"upstreams.{node}", "upstream cycle: " ++ " -> ".intercalate cycle⟩

/-- `visit`; the search is never deeper than the number of upstreams. -/
def visit (graph : UpstreamGraph) : Nat → String → Search → Search
  | 0, _, search => search
  | fuel + 1, node, search =>
    match search.states.lookup node with
    | some .active => { search with report := search.report ++ [cycleError node search.stack] }
    | some .finished => search
    | none =>
      let entered : Search :=
        { search with
          states := search.states.insert node .active
          stack := search.stack ++ [node] }
      let left := ((graph.lookup node).getD []).foldl (fun search edge =>
        if edge ∈ graph then visit graph fuel edge search else search) entered
      { left with
        states := left.states.insert node .finished
        stack := left.stack.dropLast }

def validateUpstreamCycles (upstreams : List UpstreamDto) : List ConfigError :=
  let graph := upstreamGraph upstreams
  let nodes := graph.keys.insertionSort (· ≤ ·)
  (nodes.foldl (fun search node => visit graph (nodes.length + 1) node search)
    ⟨∅, [], []⟩).report

end FluxDns.Config
