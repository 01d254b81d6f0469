import EqualityTree.Eval.Code
import EqualityTree.Table

/-!
# Compile caches

A cache compiles each node at most once between clearings. Nodes are told apart by identity, so
two nodes that look alike have an entry each. The counters tell how many requests found their node
and how many did not; clearing keeps them.
-/

namespace EqualityTree

structure Cache where
  entries : Table Comparison CompiledComparison
  hits : Nat
  misses : Nat

namespace Cache

def empty : Cache := ⟨.empty, 0, 0⟩

def size (cache : Cache) : Nat := cache.entries.size

def isEmpty (cache : Cache) : Bool := cache.entries.isEmpty

/-- The compiled form of the node, which is compiled at the first request, and the cache after
the request. -/
def getOrCompile (cache : Cache) (node : Comparison) : StateM Stamp (CompiledComparison × Cache) :=
  match cache.entries.get? node with
  | some compiled => return (compiled, ⟨cache.entries, cache.hits + 1, cache.misses⟩)
  | none => do
      let compiled ← CompiledComparison.compile node
      return (compiled, ⟨cache.entries.insert node compiled, cache.hits, cache.misses + 1⟩)

def clear (cache : Cache) : Cache := ⟨.empty, cache.hits, cache.misses⟩

def structureText (cache : Cache) : String :=
  "CompileCache \x7b len: " ++ cache.size.repr ++ ", stats: CacheStats \x7b hits: " ++
    cache.hits.repr ++ ", misses: " ++ cache.misses.repr ++ " \x7d \x7d"

end Cache

end EqualityTree
