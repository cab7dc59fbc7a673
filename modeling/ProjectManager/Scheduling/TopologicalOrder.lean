import Mathlib.Data.Fintype.Basic
import Mathlib.Data.Finite.Sum
import Mathlib.Data.List.Perm.Subperm
import Mathlib.Order.WellFounded
import ProjectManager.Foundation.OrderedEvaluation
import ProjectManager.Scheduling.Graph

/-! # The topological order

The sort keeps every indegree equal to the number of unlisted predecessors, so
that a task enters the heap once, exactly when its predecessors are listed. A
project without a cycle is therefore listed completely, predecessors first.
-/

namespace ProjectManager

open Foundation Relation

/-- Some dependency between known tasks leads from the first task to the second. -/
def Precedes (project : TasksById) (deps : List TaskDependency) (pred succ : String) : Prop :=
  ∃ dep ∈ knownDependencies project deps,
    dep.predecessorTaskId = pred ∧ dep.successorTaskId = succ

def AcyclicDependencies (project : TasksById) (deps : List TaskDependency) : Prop :=
  ∀ id, ¬ TransGen (Precedes project deps) id id

theorem mem_knownDependencies {project : TasksById} {deps : List TaskDependency}
    {dep : TaskDependency} : dep ∈ knownDependencies project deps ↔
      dep ∈ deps ∧ dep.predecessorTaskId ∈ project.ids ∧ dep.successorTaskId ∈ project.ids := by
  simp [knownDependencies]

/-- A rank that grows along every link excludes cycles. -/
theorem acyclic_of_rank {project : TasksById} {deps : List TaskDependency} (rank : String → ℕ)
    (h : ∀ dep ∈ knownDependencies project deps,
      rank dep.predecessorTaskId < rank dep.successorTaskId) :
    AcyclicDependencies project deps := by
  have hlt : ∀ first last, TransGen (Precedes project deps) first last →
      rank first < rank last := by
    intro first last hpath
    induction hpath with
    | single hstep =>
        obtain ⟨dep, hdep, rfl, rfl⟩ := hstep
        exact h dep hdep
    | tail _ hstep ih =>
        obtain ⟨dep, hdep, rfl, rfl⟩ := hstep
        exact ih.trans (h dep hdep)
  intro id hcycle
  exact lt_irrefl _ (hlt id id hcycle)

/-- How many dependencies of a list lead to a task. -/
def incomingCount (deps : List TaskDependency) (id : String) : ℕ :=
  deps.countP fun dep => dep.successorTaskId = id

/-- The dependencies of a task whose predecessor is not in the list. -/
def waitingCount (deps : List TaskDependency) (listed : List String) (id : String) : ℕ :=
  deps.countP fun dep => dep.successorTaskId = id ∧ dep.predecessorTaskId ∉ listed

/-- Listing a task accounts for exactly the dependencies that leave it. -/
theorem waitingCount_append (deps : List TaskDependency) (listed : List String) {task : String}
    (hnot : task ∉ listed) (id : String) :
    waitingCount deps (listed ++ [task]) id +
        incomingCount (deps.filter fun dep => dep.predecessorTaskId = task) id =
      waitingCount deps listed id := by
  induction deps with
  | nil => rfl
  | cons dep rest ih =>
      simp only [waitingCount, incomingCount] at ih ⊢
      by_cases hsucc : dep.successorTaskId = id <;> by_cases hpred : dep.predecessorTaskId = task <;>
        by_cases hlisted : dep.predecessorTaskId ∈ listed <;>
        simp_all <;> omega

theorem waitingCount_eq_zero {deps : List TaskDependency} {listed : List String} {id : String} :
    waitingCount deps listed id = 0 ↔
      ∀ dep ∈ deps, dep.successorTaskId = id → dep.predecessorTaskId ∈ listed := by
  simp [waitingCount, List.countP_eq_zero]

theorem incomingCount_pos {deps : List TaskDependency} {id : String} :
    0 < incomingCount deps id ↔ ∃ dep ∈ deps, dep.successorTaskId = id := by
  simp [incomingCount, List.countP_pos_iff]

section

variable {project : TasksById} {priorityValue : Task → ℤ}

def SortState.heapIds (state : SortState) : List String := state.heap.map HeapEntry.taskId

theorem heappush_ids (heap : List HeapEntry) {id : String} (hid : id ∈ project.ids) :
    (heappush project priorityValue heap id).map HeapEntry.taskId =
      id :: heap.map HeapEntry.taskId := by
  obtain ⟨task, _, rfl, hget⟩ := project.exists_of_mem_ids hid
  simp [heappush, hget, heapEntry]

theorem foldl_heappush_ids (ids : List String) (hids : ∀ id ∈ ids, id ∈ project.ids)
    (heap : List HeapEntry) :
    (ids.foldl (heappush project priorityValue) heap).map HeapEntry.taskId =
      ids.reverse ++ heap.map HeapEntry.taskId := by
  induction ids generalizing heap with
  | nil => rfl
  | cons id rest ih =>
      rw [List.foldl_cons, ih (fun other hother => hids other (List.mem_cons_of_mem _ hother)),
        heappush_ids heap (hids id List.mem_cons_self)]
      simp

theorem heappop_eq_none {heap : List HeapEntry} : heappop heap = none ↔ heap = [] := by
  cases heap <;> simp [heappop]

theorem foldl_least_mem (entries : List HeapEntry) (head : HeapEntry) :
    entries.foldl (fun best entry => if entry.lt best then entry else best) head ∈
      head :: entries := by
  induction entries generalizing head with
  | nil => simp
  | cons entry rest ih =>
      rw [List.foldl_cons]
      split
      · exact List.mem_cons_of_mem _ (ih entry)
      · rcases List.mem_cons.mp (ih head) with heq | hrest
        · rw [heq]
          exact List.mem_cons_self
        · exact List.mem_cons_of_mem _ (List.mem_cons_of_mem _ hrest)

theorem heappop_perm {heap rest : List HeapEntry} {entry : HeapEntry}
    (h : heappop heap = some (entry, rest)) : heap.Perm (entry :: rest) := by
  cases heap with
  | nil => simp [heappop] at h
  | cons head tail =>
      simp only [heappop, Option.some.injEq, Prod.mk.injEq] at h
      obtain ⟨rfl, rfl⟩ := h
      exact List.perm_cons_erase (foldl_least_mem tail head)

theorem incomingCount_cons (dep : TaskDependency) (rest : List TaskDependency) (id : String) :
    incomingCount (dep :: rest) id =
      incomingCount rest id + if dep.successorTaskId = id then 1 else 0 := by
  simp [incomingCount, List.countP_cons]

/-- The successors of the links are known, wait for these links at least and are neither listed
nor in the heap. -/
structure Releasable (project : TasksById) (deps : List TaskDependency) (state : SortState) :
    Prop where
  known : ∀ dep ∈ deps, dep.successorTaskId ∈ project.ids
  count : ∀ id, (incomingCount deps id : ℤ) ≤ state.indegree id
  nodup : (state.topoOrder ++ state.heapIds).Nodup
  fresh : ∀ dep ∈ deps, dep.successorTaskId ∉ state.topoOrder ++ state.heapIds

section

variable {dep : TaskDependency} {rest : List TaskDependency} {state : SortState}

theorem release_heapIds (hsucc : dep.successorTaskId ∈ project.ids) :
    (release project priorityValue state dep).heapIds =
      if state.indegree dep.successorTaskId - 1 = 0
      then dep.successorTaskId :: state.heapIds else state.heapIds := by
  simp only [release, SortState.heapIds, Function.update_self]
  split
  · exact heappush_ids _ hsucc
  · rfl

theorem release_indegree (id : String) : (release project priorityValue state dep).indegree id =
    state.indegree id - if dep.successorTaskId = id then 1 else 0 := by
  by_cases heq : dep.successorTaskId = id
  · subst heq
    simp [release]
  · simp [release, Function.update_of_ne (Ne.symm heq), heq]

namespace Releasable

variable (h : Releasable project (dep :: rest) state)

include h

/-- The successor enters the heap with its last dependency, hence once. -/
theorem last (hzero : state.indegree dep.successorTaskId - 1 = 0) :
    incomingCount rest dep.successorTaskId = 0 := by
  have hcount := h.count dep.successorTaskId
  rw [incomingCount_cons, if_pos rfl] at hcount
  push_cast at hcount
  omega

theorem next (priorityValue : Task → ℤ) :
    Releasable project rest (release project priorityValue state dep) := by
  have hsucc := h.known dep List.mem_cons_self
  have hfresh := h.fresh dep List.mem_cons_self
  constructor
  · exact fun other hother => h.known other (List.mem_cons_of_mem _ hother)
  · intro id
    have hid := h.count id
    rw [incomingCount_cons] at hid
    rw [release_indegree]
    push_cast at hid
    split at hid
    next heq => rw [if_pos heq]; omega
    next heq => rw [if_neg heq]; omega
  · change (state.topoOrder ++ _).Nodup
    rw [release_heapIds hsucc]
    split
    · rw [List.nodup_append_comm, List.cons_append, List.nodup_cons, List.nodup_append_comm]
      exact ⟨fun hin => hfresh (by simpa [or_comm] using hin), h.nodup⟩
    · exact h.nodup
  · intro other hother
    change other.successorTaskId ∉ state.topoOrder ++ _
    rw [release_heapIds hsucc]
    have hfreshOther := h.fresh other (List.mem_cons_of_mem _ hother)
    split
    next hzero =>
      have hne : other.successorTaskId ≠ dep.successorTaskId := by
        intro heq
        have := incomingCount_pos.mpr ⟨other, hother, heq⟩
        rw [h.last hzero] at this
        exact lt_irrefl 0 this
      simpa [hne] using hfreshOther
    next => exact hfreshOther

end Releasable

end

theorem foldl_release (priorityValue : Task → ℤ) {deps : List TaskDependency} {state : SortState}
    (h : Releasable project deps state) :
    let next := deps.foldl (release project priorityValue) state
    next.topoOrder = state.topoOrder ∧
    (∀ id, next.indegree id = state.indegree id - incomingCount deps id) ∧
    (next.topoOrder ++ next.heapIds).Nodup ∧
    ∀ id, id ∈ next.heapIds ↔ id ∈ state.heapIds ∨
      (0 < incomingCount deps id ∧ state.indegree id = incomingCount deps id) := by
  induction deps generalizing state with
  | nil => simp [incomingCount, h.nodup]
  | cons dep rest ih =>
      rw [List.foldl_cons]
      obtain ⟨horder, hdegree, hnext, hmem⟩ := ih (h.next priorityValue)
      refine ⟨horder, ?_, hnext, ?_⟩
      · intro id
        rw [hdegree, release_indegree, incomingCount_cons]
        push_cast
        split <;> omega
      · intro id
        rw [hmem, release_heapIds (h.known dep List.mem_cons_self), release_indegree,
          incomingCount_cons]
        by_cases heq : dep.successorTaskId = id
        · subst heq
          have hnotHeap : dep.successorTaskId ∉ state.heapIds := fun hin =>
            h.fresh dep List.mem_cons_self (List.mem_append_right _ hin)
          split
          next hzero =>
            simp only [List.mem_cons, true_or, if_true, h.last hzero, true_iff]
            refine Or.inr ⟨by omega, ?_⟩
            push_cast
            omega
          next hzero =>
            simp only [hnotHeap, if_true, false_or]
            push_cast
            constructor <;> rintro ⟨_, _⟩ <;> constructor <;> omega
        · have hne : id ≠ dep.successorTaskId := Ne.symm heq
          rw [if_neg heq]
          split <;> simp [hne]

theorem foldl_release_topoOrder (deps : List TaskDependency) (state : SortState) :
    (deps.foldl (release project priorityValue) state).topoOrder = state.topoOrder := by
  induction deps generalizing state with
  | nil => rfl
  | cons dep rest ih => exact ih _

/-! ## The whole sort -/

/-- What holds of the sort each time the loop is entered. -/
structure SortInvariant (project : TasksById) (filtered : List TaskDependency)
    (state : SortState) : Prop where
  nodup : (state.topoOrder ++ state.heapIds).Nodup
  known : ∀ id ∈ state.topoOrder ++ state.heapIds, id ∈ project.ids
  indegree : ∀ id, state.indegree id = waitingCount filtered state.topoOrder id
  ready : ∀ id ∈ project.ids, id ∈ state.topoOrder ++ state.heapIds ↔ state.indegree id = 0
  ordered : ∀ before id after, state.topoOrder = before ++ id :: after →
    ∀ dep ∈ filtered, dep.successorTaskId = id → dep.predecessorTaskId ∈ before

variable {filtered : List TaskDependency}

theorem sortInvariant_initial :
    SortInvariant project filtered
      (initialSortState project priorityValue filtered) := by
  have hheap : (initialSortState project priorityValue filtered).heapIds =
      (project.ids.filter fun id => waitingCount filtered [] id = 0).reverse := by
    simp only [initialSortState, SortState.heapIds]
    rw [foldl_heappush_ids _ (fun id hid => (List.mem_filter.mp hid).1)]
    simp [waitingCount]
  have hindegree : ∀ id, (initialSortState project priorityValue filtered).indegree id =
      waitingCount filtered [] id := by
    intro id
    simp [initialSortState, waitingCount]
  constructor
  · rw [show (initialSortState project priorityValue filtered).topoOrder = [] from rfl,
      List.nil_append, hheap]
    exact List.nodup_reverse.mpr (project.nodup.filter _)
  · intro id hid
    have hmem : id ∈ (initialSortState project priorityValue filtered).heapIds := by
      simpa [initialSortState] using hid
    rw [hheap] at hmem
    exact (List.mem_filter.mp (List.mem_reverse.mp hmem)).1
  · exact hindegree
  · intro id hid
    rw [hindegree, show (initialSortState project priorityValue filtered).topoOrder = [] from rfl,
      List.nil_append, hheap]
    simp [hid]
  · intro before id after hsplit
    simp [initialSortState] at hsplit

theorem SortInvariant.visit (priorityValue : Task → ℤ) {state : SortState}
    (hknown : ∀ dep ∈ filtered, dep.successorTaskId ∈ project.ids)
    (h : SortInvariant project filtered state)
    {entry : HeapEntry} {heap : List HeapEntry} (hpop : heappop state.heap = some (entry, heap)) :
    SortInvariant project filtered
      (listTask project priorityValue
        (fun id => filtered.filter fun dep => dep.predecessorTaskId = id) state entry heap) := by
  set task := entry.taskId with htask
  let popped : SortState :=
    { state with heap := heap, topoOrder := state.topoOrder ++ [task] }
  let released := filtered.filter fun dep => dep.predecessorTaskId = task
  have hperm : (state.topoOrder ++ state.heapIds).Perm (popped.topoOrder ++ popped.heapIds) := by
    have hheap : state.heapIds.Perm (task :: popped.heapIds) := (heappop_perm hpop).map _
    simpa [popped] using hheap.append_left state.topoOrder
  have hmemHeap : task ∈ state.heapIds :=
    List.mem_map.mpr ⟨entry, (heappop_perm hpop).mem_iff.mpr List.mem_cons_self, rfl⟩
  have hnotListed : task ∉ state.topoOrder := fun hin =>
    (List.nodup_append.mp h.nodup).2.2 task hin task hmemHeap rfl
  have hwaiting := waitingCount_append filtered state.topoOrder hnotListed
  have hreleased : ∀ dep ∈ released, dep ∈ filtered ∧ dep.predecessorTaskId = task := by
    intro dep hdep
    simpa [released] using hdep
  have hcount : ∀ id, (incomingCount released id : ℤ) ≤ popped.indegree id := by
    intro id
    change _ ≤ state.indegree id
    rw [h.indegree]
    have := hwaiting id
    simp only [released]
    omega
  have hfresh : ∀ dep ∈ released, dep.successorTaskId ∉ popped.topoOrder ++ popped.heapIds := by
    intro dep hdep hin
    have hzero := (h.ready _ (hknown dep (hreleased dep hdep).1)).mp (hperm.mem_iff.mpr hin)
    rw [h.indegree, Nat.cast_eq_zero, waitingCount_eq_zero] at hzero
    exact hnotListed ((hreleased dep hdep).2 ▸ hzero dep (hreleased dep hdep).1 rfl)
  obtain ⟨horder, hdegree, hnodup, hmem⟩ := @foldl_release project priorityValue released popped
    ⟨fun dep hdep => hknown dep (hreleased dep hdep).1, hcount, hperm.nodup_iff.mp h.nodup, hfresh⟩
  change SortInvariant project filtered (released.foldl (release project priorityValue) popped)
  have hdegree' : ∀ id, (released.foldl (release project priorityValue) popped).indegree id =
      waitingCount filtered popped.topoOrder id := by
    intro id
    rw [hdegree id]
    change state.indegree id - _ = _
    rw [h.indegree]
    have := hwaiting id
    simp only [popped, released]
    omega
  constructor
  · exact hnodup
  · intro id hid
    rw [horder] at hid
    rcases List.mem_append.mp hid with hlisted | hheap
    · exact h.known id (hperm.mem_iff.mpr (List.mem_append_left _ hlisted))
    · rcases (hmem id).mp hheap with hold | ⟨hpos, _⟩
      · exact h.known id (hperm.mem_iff.mpr (List.mem_append_right _ hold))
      · obtain ⟨dep, hdep, rfl⟩ := incomingCount_pos.mp hpos
        exact hknown dep (hreleased dep hdep).1
  · rw [horder]
    exact hdegree'
  · intro id hid
    have hready := h.ready id hid
    rw [hperm.mem_iff] at hready
    rw [horder, List.mem_append, hmem, hdegree id]
    change _ ↔ state.indegree id - _ = 0
    have hle := hcount id
    change _ ≤ state.indegree id at hle
    change id ∈ popped.topoOrder ∨ _ ∨ _ ∧ state.indegree id = _ ↔ _
    rw [← or_assoc, ← List.mem_append, hready]
    constructor
    · rintro (hzero | ⟨_, heq⟩) <;> omega
    · intro hzero
      by_cases hpos : 0 < incomingCount released id
      · exact Or.inr ⟨hpos, by omega⟩
      · exact Or.inl (by omega)
  · intro before id after hsplit dep hdep hsucc
    rw [horder] at hsplit
    change state.topoOrder ++ [task] = _ at hsplit
    rcases List.eq_nil_or_concat after with rfl | ⟨rest, last, rfl⟩
    · obtain ⟨rfl, heq⟩ := List.append_inj' hsplit rfl
      obtain rfl : task = id := by simpa using heq
      have hzero := (h.ready task (h.known task (List.mem_append_right _ hmemHeap))).mp
        (List.mem_append_right _ hmemHeap)
      rw [h.indegree, Nat.cast_eq_zero, waitingCount_eq_zero] at hzero
      exact hzero dep hdep hsucc
    · have hsplit' : state.topoOrder ++ [task] = (before ++ id :: rest) ++ [last] := by
        simpa using hsplit
      exact h.ordered before id rest (List.append_inj' hsplit' rfl).1 dep hdep hsucc

/-- Enough iterations empty the heap. -/
theorem sortLoop_eq {iterations : ℕ} {state : SortState}
    (hknown : ∀ dep ∈ filtered, dep.successorTaskId ∈ project.ids)
    (h : SortInvariant project filtered state)
    (hiterations : project.ids.length ≤ iterations + state.topoOrder.length) :
    ∃ final, SortInvariant project filtered final ∧ final.heap = [] ∧
      sortLoop project priorityValue
        (fun id => filtered.filter fun dep => dep.predecessorTaskId = id) iterations state =
        some final.topoOrder := by
  induction iterations generalizing state with
  | zero =>
      have hlength := (h.nodup.subperm h.known).length_le
      have hheap : state.heap = [] := by
        rw [← List.length_eq_zero_iff]
        simp [SortState.heapIds] at hlength
        omega
      exact ⟨state, h, hheap, by simp [sortLoop, hheap]⟩
  | succ iterations ih =>
      cases hpop : heappop state.heap with
      | none =>
          refine ⟨state, h, heappop_eq_none.mp hpop, ?_⟩
          rw [sortLoop, hpop]
      | some popped =>
          obtain ⟨entry, heap⟩ := popped
          have horder : (listTask project priorityValue
              (fun id => filtered.filter fun dep => dep.predecessorTaskId = id) state entry
              heap).topoOrder = state.topoOrder ++ [entry.taskId] :=
            foldl_release_topoOrder _ _
          obtain ⟨final, hfinal, hempty, hloop⟩ :=
            ih (h.visit priorityValue hknown hpop) (by
              rw [horder, List.length_append, List.length_singleton]
              omega)
          refine ⟨final, hfinal, hempty, ?_⟩
          rw [sortLoop, hpop]
          exact hloop

/-- Without a cycle the sort leaves no task unlisted. -/
theorem SortInvariant.complete {deps : List TaskDependency} {state : SortState}
    (h : SortInvariant project (knownDependencies project deps) state)
    (hempty : state.heap = []) (hacyclic : AcyclicDependencies project deps) :
    ∀ id ∈ project.ids, id ∈ state.topoOrder := by
  by_contra hmissing
  push Not at hmissing
  have htrans : IsTrans {id // id ∈ project.ids}
      (fun left right => TransGen (Precedes project deps) left.1 right.1) :=
    ⟨fun _ _ _ hleft hright => hleft.trans hright⟩
  have hirrefl : Std.Irrefl (fun left right : {id // id ∈ project.ids} =>
      TransGen (Precedes project deps) left.1 right.1) := ⟨fun id => hacyclic id.1⟩
  have hwf := Finite.wellFounded_of_trans_of_irrefl
    (fun left right : {id // id ∈ project.ids} => TransGen (Precedes project deps) left.1 right.1)
  obtain ⟨id, hid, hnot⟩ := hmissing
  obtain ⟨first, hfirst, hleast⟩ := hwf.has_min
    {node | node.1 ∉ state.topoOrder} ⟨⟨id, hid⟩, hnot⟩
  -- The first unlisted task waits for a predecessor, which is unlisted as well.
  have hwaiting : state.indegree first.1 ≠ 0 := by
    rw [ne_eq, ← h.ready first.1 first.2]
    simpa [SortState.heapIds, hempty] using hfirst
  rw [h.indegree, ne_eq, Nat.cast_eq_zero, waitingCount_eq_zero] at hwaiting
  push Not at hwaiting
  obtain ⟨dep, hdep, hsucc, hpred⟩ := hwaiting
  have hknown := mem_knownDependencies.mp hdep
  exact hleast ⟨dep.predecessorTaskId, hknown.2.1⟩ hpred
    (TransGen.single ⟨dep, hdep, rfl, hsucc⟩)

/-- What a graph that was not refused provides. -/
structure DependencyGraph.Sorted (graph : DependencyGraph) (project : TasksById)
    (deps : List TaskDependency) : Prop where
  perm : graph.topoOrder.Perm project.ids
  ordered : ∀ before id after, graph.topoOrder = before ++ id :: after →
    ∀ dep ∈ knownDependencies project deps, dep.successorTaskId = id →
      dep.predecessorTaskId ∈ before
  depsBySuccessor : ∀ id, graph.depsBySuccessor id =
    (knownDependencies project deps).filter fun dep => dep.successorTaskId = id
  depsByPredecessor : ∀ id, graph.depsByPredecessor id =
    (knownDependencies project deps).filter fun dep => dep.predecessorTaskId = id

theorem exists_sortLoop (project : TasksById) (priorityValue : Task → ℤ)
    (deps : List TaskDependency) :
    ∃ final, SortInvariant project (knownDependencies project deps) final ∧
      final.heap = [] ∧
      sortLoop project priorityValue
        (fun id => (knownDependencies project deps).filter fun dep => dep.predecessorTaskId = id)
        project.tasks.length (initialSortState project priorityValue (knownDependencies project deps))
        = some final.topoOrder :=
  sortLoop_eq (fun _ hdep => (mem_knownDependencies.mp hdep).2.2) sortInvariant_initial
    (by simp [Table.ids])

theorem buildProjectDependencyGraph_sorted {deps : List TaskDependency} {graph : DependencyGraph}
    (h : buildProjectDependencyGraph project priorityValue deps = .ok graph) :
    graph.Sorted project deps := by
  obtain ⟨final, hfinal, hempty, hloop⟩ := exists_sortLoop project priorityValue deps
  simp only [buildProjectDependencyGraph, hloop, Option.getD_some] at h
  split at h
  next => cases h
  next hlength =>
    obtain rfl := Except.ok.inj h
    constructor
    · have hsub := (List.nodup_append.mp hfinal.nodup).1.subperm fun id hid =>
        hfinal.known id (List.mem_append_left _ hid)
      exact hsub.perm_of_length_le (by simp [Table.ids, not_not.mp hlength])
    · exact hfinal.ordered
    · exact fun _ => rfl
    · exact fun _ => rfl

/-- An acyclic project is never refused. -/
theorem exists_buildProjectDependencyGraph (priorityValue : Task → ℤ)
    {deps : List TaskDependency}
    (hacyclic : AcyclicDependencies project deps) :
    ∃ graph, buildProjectDependencyGraph project priorityValue deps = .ok graph := by
  obtain ⟨final, hfinal, hempty, hloop⟩ := exists_sortLoop project priorityValue deps
  have hsub : project.ids.Subperm final.topoOrder :=
    project.nodup.subperm (hfinal.complete hempty hacyclic)
  have hlisted := ((List.nodup_append.mp hfinal.nodup).1.subperm fun id hid =>
    hfinal.known id (List.mem_append_left _ hid)).length_le
  have hlength : final.topoOrder.length = project.tasks.length := by
    have := hsub.length_le
    rw [TasksById.length_ids] at this hlisted
    omega
  simp [buildProjectDependencyGraph, hloop, hlength]

end

section

variable {project : TasksById} {deps : List TaskDependency} {graph : DependencyGraph}

theorem DependencyGraph.Sorted.nodup (h : graph.Sorted project deps) :
    graph.topoOrder.Nodup :=
  h.perm.nodup_iff.mpr project.nodup

theorem DependencyGraph.Sorted.idxOf_lt (h : graph.Sorted project deps) {dep : TaskDependency}
    (hdep : dep ∈ knownDependencies project deps) :
    graph.topoOrder.idxOf dep.predecessorTaskId < graph.topoOrder.idxOf dep.successorTaskId := by
  have hknown := mem_knownDependencies.mp hdep
  obtain ⟨before, after, hsplit⟩ :=
    List.append_of_mem (h.perm.mem_iff.mpr hknown.2.2)
  have hpred := h.ordered before _ after hsplit dep hdep rfl
  have hnodup := hsplit ▸ h.nodup
  have hsucc : dep.successorTaskId ∉ before := by
    intro hin
    exact (List.nodup_append.mp hnodup).2.2 _ hin _ List.mem_cons_self rfl
  rw [hsplit, List.idxOf_append_of_mem hpred, List.idxOf_append_of_notMem hsucc]
  exact (List.idxOf_lt_length_of_mem hpred).trans_le (Nat.le_add_right _ _)

/-- A sorted project has no cycle: the place in the order is a rank. -/
theorem DependencyGraph.Sorted.acyclic (h : graph.Sorted project deps) :
    AcyclicDependencies project deps :=
  acyclic_of_rank graph.topoOrder.idxOf fun _ => h.idxOf_lt

theorem exists_graph_iff {priorityValue : Task → ℤ} :
    (∃ graph, buildProjectDependencyGraph project priorityValue deps = .ok graph) ↔
      AcyclicDependencies project deps := by
  constructor
  · rintro ⟨graph, hgraph⟩
    exact (buildProjectDependencyGraph_sorted hgraph).acyclic
  · exact exists_buildProjectDependencyGraph priorityValue

theorem buildProjectDependencyGraph_error {priorityValue : Task → ℤ} {error : DomainError}
    (h : buildProjectDependencyGraph project priorityValue deps = .error error) :
    error = scheduleCycle := by
  simp only [buildProjectDependencyGraph] at h
  split at h
  next => exact (Except.error.inj h).symm
  next => cases h

/-- A project is refused exactly when its dependencies have a cycle. Any other project is listed
once over, every predecessor before its successor. -/
theorem buildProjectDependencyGraph_correct (project : TasksById) (deps : List TaskDependency)
    (priorityValue : Task → ℤ) :
    (buildProjectDependencyGraph project priorityValue deps = .error scheduleCycle ↔
      ∃ id, TransGen (Precedes project deps) id id) ∧
    ((∃ graph, buildProjectDependencyGraph project priorityValue deps = .ok graph ∧
        graph.topoOrder.Perm project.ids ∧
        ∀ dep ∈ knownDependencies project deps,
          graph.topoOrder.idxOf dep.predecessorTaskId <
            graph.topoOrder.idxOf dep.successorTaskId) ↔
      ¬ ∃ id, TransGen (Precedes project deps) id id) := by
  have hacyclic : AcyclicDependencies project deps ↔
      ¬ ∃ id, TransGen (Precedes project deps) id id := not_exists.symm
  have hbuilt : (∃ graph, buildProjectDependencyGraph project priorityValue deps = .ok graph) ↔
      AcyclicDependencies project deps := exists_graph_iff
  constructor
  · rw [← not_iff_not, ← hacyclic, ← hbuilt]
    cases hbuild : buildProjectDependencyGraph project priorityValue deps with
    | ok graph =>
        refine iff_of_true ?_ ⟨graph, rfl⟩
        intro h
        cases h
    | error error =>
        rw [buildProjectDependencyGraph_error hbuild]
        refine iff_of_false (not_not.mpr rfl) ?_
        rintro ⟨_, h⟩
        cases h
  · rw [← hacyclic]
    constructor
    · rintro ⟨graph, hgraph, -⟩
      exact (buildProjectDependencyGraph_sorted hgraph).acyclic
    · intro h
      obtain ⟨graph, hgraph⟩ := exists_buildProjectDependencyGraph priorityValue h
      have hsorted := buildProjectDependencyGraph_sorted hgraph
      exact ⟨graph, hgraph, hsorted.perm, fun _ => hsorted.idxOf_lt⟩

end

end ProjectManager
