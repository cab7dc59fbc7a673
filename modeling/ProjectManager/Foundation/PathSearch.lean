import Mathlib.Data.List.Chain
import Mathlib.Data.List.Count
import Mathlib.Logic.Relation

/-! # Breadth-first search for a path

The queue holds the nodes to look at, each with the path that led to it. A node
is expanded once, so that the search ends after at most one step for every edge
and one for the start; it finds a path exactly when there is one.
-/

namespace Foundation

open Relation

variable {α : Type*}

def EdgeOf (edges : List (α × α)) (first second : α) : Prop := (first, second) ∈ edges

/-- A path along the edges, with its two ends. -/
structure PathTo (edges : List (α × α)) (start node : α) (path : List α) : Prop where
  head : path.head? = some start
  last : path.getLast? = some node
  chain : path.IsChain (EdgeOf edges)

theorem PathTo.singleton (edges : List (α × α)) (start : α) : PathTo edges start start [start] :=
  ⟨rfl, rfl, List.isChain_singleton start⟩

theorem PathTo.append {edges : List (α × α)} {start node next : α} {path : List α}
    (h : PathTo edges start node path) (hedge : EdgeOf edges node next) :
    PathTo edges start next (path ++ [next]) where
  head := by
    rw [List.head?_append, h.head]
    rfl
  last := List.getLast?_concat
  chain := by
    refine List.isChain_append.mpr ⟨h.chain, List.isChain_singleton next, ?_⟩
    intro last hlast first hfirst
    rw [h.last] at hlast
    cases hlast
    cases hfirst
    exact hedge

theorem PathTo.reaches {edges : List (α × α)} {start node : α} {path : List α}
    (h : PathTo edges start node path) : ReflTransGen (EdgeOf edges) start node := by
  obtain ⟨hhead, hlast, hchain⟩ := h
  cases path with
  | nil => cases hhead
  | cons first rest =>
      obtain rfl := Option.some.inj hhead
      rw [List.getLast?_eq_some_getLast (List.cons_ne_nil first rest)] at hlast
      rw [← Option.some.inj hlast]
      exact List.relationReflTransGen_of_exists_isChain_cons rest hchain rfl

/-! ## Cycles -/

def HasCycle (edges : List (α × α)) : Prop := ∃ node, TransGen (EdgeOf edges) node node

theorem EdgeOf.mono {edges more : List (α × α)} (hsubset : edges ⊆ more) :
    EdgeOf edges ≤ EdgeOf more :=
  fun _ _ hedge => hsubset hedge

theorem HasCycle.mono {edges more : List (α × α)} (hsubset : edges ⊆ more)
    (h : HasCycle edges) : HasCycle more := by
  obtain ⟨node, hnode⟩ := h
  exact ⟨node, TransGen.mono (EdgeOf.mono hsubset) _ _ hnode⟩

/-- A path along one more edge avoids it, or leads to its start and on from its end. -/
theorem transGen_cons {edges : List (α × α)} {edge : α × α} {first last : α}
    (h : TransGen (EdgeOf (edge :: edges)) first last) :
    TransGen (EdgeOf edges) first last ∨
      (ReflTransGen (EdgeOf edges) first edge.1 ∧ ReflTransGen (EdgeOf edges) edge.2 last) := by
  induction h with
  | single hstep =>
      rcases List.mem_cons.mp hstep with rfl | hstep
      · exact Or.inr ⟨.refl, .refl⟩
      · exact Or.inl (.single hstep)
  | tail _ hstep ih =>
      rcases List.mem_cons.mp hstep with rfl | hstep
      · rcases ih with hbefore | ⟨hbefore, -⟩
        · exact Or.inr ⟨hbefore.to_reflTransGen, .refl⟩
        · exact Or.inr ⟨hbefore, .refl⟩
      · rcases ih with hbefore | ⟨hbefore, hafter⟩
        · exact Or.inl (hbefore.tail hstep)
        · exact Or.inr ⟨hbefore, hafter.tail hstep⟩

/-- One more edge closes a cycle exactly when its end already reaches its start. -/
theorem hasCycle_cons_iff {edges : List (α × α)} {edge : α × α} (h : ¬ HasCycle edges) :
    HasCycle (edge :: edges) ↔ ReflTransGen (EdgeOf edges) edge.2 edge.1 := by
  constructor
  · rintro ⟨node, hcycle⟩
    rcases transGen_cons hcycle with hold | ⟨hbefore, hafter⟩
    · exact absurd ⟨node, hold⟩ h
    · exact hafter.trans hbefore
  · intro hpath
    have hpath' : ReflTransGen (EdgeOf (edge :: edges)) edge.2 edge.1 :=
      ReflTransGen.mono (EdgeOf.mono (List.subset_cons_self edge edges)) _ _ hpath
    exact ⟨edge.1, .head' (List.mem_cons_self : edge ∈ edge :: edges) hpath'⟩

variable [DecidableEq α]

/-! ## The search -/

def successors (edges : List (α × α)) (node : α) : List α :=
  (edges.filter fun edge => edge.1 = node).map Prod.snd

theorem mem_successors {edges : List (α × α)} {node next : α} :
    next ∈ successors edges node ↔ EdgeOf edges node next := by
  simp [successors, EdgeOf]

section

variable (edges : List (α × α)) (target : α)

/-- What a step adds to the queue when it expands a node. -/
def expand (visited : List α) (node : α) (path : List α) : List (α × List α) :=
  ((successors edges node).filter fun next => next ∉ node :: visited).map fun next =>
    (next, path ++ [next])

def searchLoop : ℕ → List (α × List α) → List α → Option (List α)
  | 0, _, _ => none
  | _ + 1, [], _ => none
  | steps + 1, (node, path) :: rest, visited =>
      if node = target then some path
      else if node ∈ visited then searchLoop steps rest visited
      else searchLoop steps (rest ++ expand edges visited node path) (node :: visited)

def findPath (start : α) : Option (List α) :=
  searchLoop edges target (edges.length + 1) [(start, [start])] []

/-! Without a target the search records the first path to every node. -/

abbrev Trace (α : Type*) := List (α × List α)

def Trace.pathTo (trace : Trace α) (node : α) : Option (List α) :=
  (trace.find? fun entry => entry.1 = node).map Prod.snd

def Trace.visit (path : List α) (state : List α × Trace α) (next : α) : List α × Trace α :=
  if (state.2.pathTo next).isSome then state
  else (state.1 ++ [next], state.2 ++ [(next, path ++ [next])])

def traceLoop : ℕ → List α → Trace α → Trace α
  | 0, _, trace => trace
  | _ + 1, [], trace => trace
  | steps + 1, current :: rest, trace =>
      let path := (trace.pathTo current).getD []
      let next := (successors edges current).foldl (Trace.visit path) (rest, trace)
      traceLoop steps next.1 next.2

def tracePaths (source : α) : Trace α :=
  traceLoop edges (edges.length + 1) [source] [(source, [source])]

end

section

variable {edges : List (α × α)} {start target : α}

theorem searchLoop_path {steps : ℕ} {queue : List (α × List α)} {visited path : List α}
    (hqueue : ∀ entry ∈ queue, PathTo edges start entry.1 entry.2)
    (h : searchLoop edges target steps queue visited = some path) :
    PathTo edges start target path := by
  induction steps generalizing queue visited with
  | zero => cases h
  | succ steps ih =>
      cases queue with
      | nil => cases h
      | cons entry rest =>
          obtain ⟨node, found⟩ := entry
          obtain ⟨hnode, hrest⟩ := List.forall_mem_cons.mp hqueue
          unfold searchLoop at h
          split at h
          next htarget =>
            cases h
            exact htarget ▸ hnode
          next =>
            split at h
            · exact ih hrest h
            · refine ih ?_ h
              intro entry hentry
              rcases List.mem_append.mp hentry with hentry | hentry
              · exact hrest entry hentry
              · obtain ⟨next, hnext, rfl⟩ := List.mem_map.mp hentry
                exact hnode.append (mem_successors.mp (List.mem_filter.mp hnext).1)

theorem findPath_path {path : List α} (h : findPath edges target start = some path) :
    PathTo edges start target path := by
  refine searchLoop_path ?_ h
  intro entry hentry
  obtain rfl := List.mem_singleton.mp hentry
  exact PathTo.singleton edges start

/-! ## What is not found cannot be reached -/

/-- The edges that leave nodes not yet visited, and the nodes in the queue. -/
def remainingSteps (edges : List (α × α)) (queue : List (α × List α)) (visited : List α) : ℕ :=
  queue.length + edges.countP fun edge => edge.1 ∉ visited

/-- Every edge out of a visited node leads to a visited node or into the queue. -/
structure SearchInvariant (edges : List (α × α)) (start target : α) (queue : List (α × List α))
    (visited : List α) : Prop where
  target : target ∉ visited
  start : start ∈ visited ∨ start ∈ queue.map Prod.fst
  closed : ∀ node ∈ visited, ∀ next, EdgeOf edges node next →
    next ∈ visited ∨ next ∈ queue.map Prod.fst

theorem countP_notMem_eq {visited : List α} {node : α} (hnode : node ∉ visited)
    (edges : List (α × α)) :
    (edges.countP fun edge => edge.1 ∉ visited) =
      (edges.countP fun edge => edge.1 = node) +
        edges.countP fun edge => edge.1 ∉ node :: visited := by
  induction edges with
  | nil => rfl
  | cons edge rest ih =>
      rw [List.countP_cons, List.countP_cons, List.countP_cons, ih]
      by_cases hedge : edge.1 = node
      · have hvisited : edge.1 ∉ visited := hedge ▸ hnode
        simp [hedge, hnode]
        omega
      · by_cases hvisited : edge.1 ∈ visited
        · simp [hedge, hvisited]
        · simp [hedge, hvisited]
          omega

theorem length_expand_le (edges : List (α × α)) (visited : List α) (node : α) (path : List α) :
    (expand edges visited node path).length ≤ edges.countP fun edge => edge.1 = node := by
  unfold expand successors
  rw [List.length_map, List.countP_eq_length_filter]
  exact (List.length_filter_le _ _).trans (List.length_map Prod.snd).le

theorem remainingSteps_expand {rest : List (α × List α)} {visited path : List α} {node : α}
    (hnode : node ∉ visited) :
    remainingSteps edges (rest ++ expand edges visited node path) (node :: visited) <
      remainingSteps edges ((node, path) :: rest) visited := by
  have hpushed := length_expand_le edges visited node path
  unfold remainingSteps
  rw [countP_notMem_eq hnode edges, List.length_append, List.length_cons]
  omega

theorem mem_expand (visited path : List α) {node next : α} (hedge : EdgeOf edges node next) :
    next ∈ node :: visited ∨ next ∈ (expand edges visited node path).map Prod.fst := by
  by_cases hnext : next ∈ node :: visited
  · exact Or.inl hnext
  · refine Or.inr (List.mem_map.mpr ⟨(next, path ++ [next]), ?_, rfl⟩)
    exact List.mem_map.mpr ⟨next, List.mem_filter.mpr
      ⟨mem_successors.mpr hedge, decide_eq_true hnext⟩, rfl⟩

namespace SearchInvariant

variable {rest : List (α × List α)} {visited path : List α} {node : α}

omit [DecidableEq α] in
/-- With an empty queue the visited nodes are closed under the edges. -/
theorem not_reaches (h : SearchInvariant edges start target [] visited) :
    ¬ ReflTransGen (EdgeOf edges) start target := by
  intro hpath
  have hvisited : ∀ last, ReflTransGen (EdgeOf edges) start last → last ∈ visited := by
    intro last hlast
    induction hlast with
    | refl => exact h.start.resolve_right List.not_mem_nil
    | tail _ hedge ih => exact (h.closed _ ih _ hedge).resolve_right List.not_mem_nil
  exact h.target (hvisited target hpath)

omit [DecidableEq α] in
theorem drop (h : SearchInvariant edges start target ((node, path) :: rest) visited)
    (hnode : node ∈ visited) : SearchInvariant edges start target rest visited where
  target := h.target
  start := by
    rcases h.start with hstart | hstart
    · exact Or.inl hstart
    · rcases List.mem_cons.mp hstart with rfl | hstart
      · exact Or.inl hnode
      · exact Or.inr hstart
  closed := by
    intro first hfirst next hedge
    rcases h.closed first hfirst next hedge with hnext | hnext
    · exact Or.inl hnext
    · rcases List.mem_cons.mp hnext with rfl | hnext
      · exact Or.inl hnode
      · exact Or.inr hnext

theorem expand (h : SearchInvariant edges start target ((node, path) :: rest) visited)
    (htarget : node ≠ target) :
    SearchInvariant edges start target (rest ++ expand edges visited node path)
      (node :: visited) where
  target := by
    intro hmem
    rcases List.mem_cons.mp hmem with rfl | hmem
    · exact htarget rfl
    · exact h.target hmem
  start := by
    rw [List.map_append, List.mem_append]
    rcases h.start with hstart | hstart
    · exact Or.inl (List.mem_cons_of_mem node hstart)
    · rcases List.mem_cons.mp hstart with rfl | hstart
      · exact Or.inl List.mem_cons_self
      · exact Or.inr (Or.inl hstart)
  closed := by
    intro first hfirst next hedge
    rw [List.map_append, List.mem_append]
    rcases List.mem_cons.mp hfirst with rfl | hfirst
    · rcases mem_expand visited path hedge with hnext | hnext
      · exact Or.inl hnext
      · exact Or.inr (Or.inr hnext)
    · rcases h.closed first hfirst next hedge with hnext | hnext
      · exact Or.inl (List.mem_cons_of_mem node hnext)
      · rcases List.mem_cons.mp hnext with rfl | hnext
        · exact Or.inl List.mem_cons_self
        · exact Or.inr (Or.inl hnext)

end SearchInvariant

theorem searchLoop_none {steps : ℕ} {queue : List (α × List α)} {visited : List α}
    (hinvariant : SearchInvariant edges start target queue visited)
    (hsteps : remainingSteps edges queue visited ≤ steps)
    (h : searchLoop edges target steps queue visited = none) :
    ¬ ReflTransGen (EdgeOf edges) start target := by
  induction steps generalizing queue visited with
  | zero =>
      cases queue with
      | nil => exact hinvariant.not_reaches
      | cons entry rest =>
          unfold remainingSteps at hsteps
          rw [List.length_cons] at hsteps
          omega
  | succ steps ih =>
      cases queue with
      | nil => exact hinvariant.not_reaches
      | cons entry rest =>
          obtain ⟨node, path⟩ := entry
          unfold searchLoop at h
          split at h
          next => cases h
          next htarget =>
            split at h
            next hvisited =>
              refine ih (hinvariant.drop hvisited) ?_ h
              unfold remainingSteps at hsteps ⊢
              rw [List.length_cons] at hsteps
              omega
            next hvisited =>
              refine ih (hinvariant.expand htarget) ?_ h
              exact Nat.le_of_lt_succ ((remainingSteps_expand hvisited).trans_le hsteps)

/-- The search finds a path exactly when the target can be reached. -/
theorem findPath_isSome_iff :
    (findPath edges target start).isSome ↔ ReflTransGen (EdgeOf edges) start target := by
  constructor
  · intro h
    obtain ⟨path, hpath⟩ := Option.isSome_iff_exists.mp h
    exact (findPath_path hpath).reaches
  · intro h
    by_contra hnone
    rw [Bool.not_eq_true, Option.isSome_eq_false_iff, Option.isNone_iff_eq_none] at hnone
    refine searchLoop_none ?_ ?_ hnone h
    · exact ⟨List.not_mem_nil, Or.inr List.mem_cons_self, fun _ hmem => absurd hmem List.not_mem_nil⟩
    · unfold remainingSteps
      rw [List.length_singleton, Nat.add_comm]
      exact Nat.add_le_add_right List.countP_le_length 1

end

end Foundation
