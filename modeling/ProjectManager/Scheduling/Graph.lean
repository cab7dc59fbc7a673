import Mathlib.Data.String.Basic
import Mathlib.Logic.Function.Basic
import ProjectManager.Domain.Errors
import ProjectManager.Domain.Projects

/-! # The dependency graph of a project

Tasks become ready when their last predecessor has been listed and are taken
from a heap in the order of priority, name and id. A project with a cycle is
refused.
-/

namespace ProjectManager

structure HeapEntry where
  priority : ℤ
  name : String
  taskId : String
  deriving DecidableEq, Repr

/-- The order of the tuples in the heap. -/
def HeapEntry.lt (left right : HeapEntry) : Bool :=
  left.priority < right.priority ∨
    (left.priority = right.priority ∧
      (left.name < right.name ∨ (left.name = right.name ∧ left.taskId < right.taskId)))

def heappop : List HeapEntry → Option (HeapEntry × List HeapEntry)
  | [] => none
  | head :: rest =>
      let least := rest.foldl (fun best entry => if entry.lt best then entry else best) head
      some (least, (head :: rest).erase least)

structure SortState where
  indegree : String → ℤ
  heap : List HeapEntry
  topoOrder : List String

structure DependencyGraph where
  topoOrder : List String
  depsBySuccessor : String → List TaskDependency
  depsByPredecessor : String → List TaskDependency

def knownDependencies (project : TasksById) (deps : List TaskDependency) : List TaskDependency :=
  deps.filter fun dep =>
    dep.predecessorTaskId ∈ project.ids ∧ dep.successorTaskId ∈ project.ids

section

variable (project : TasksById) (priorityValue : Task → ℤ)

def heapEntry (task : Task) : HeapEntry := ⟨priorityValue task, task.name, task.id⟩

def heappush (heap : List HeapEntry) (id : String) : List HeapEntry :=
  match project.get? id with
  | some task => heapEntry priorityValue task :: heap
  | none => heap

/-- One dependency of the task just listed releases its successor. -/
def release (state : SortState) (dep : TaskDependency) : SortState :=
  let succ := dep.successorTaskId
  let indegree := Function.update state.indegree succ (state.indegree succ - 1)
  { state with
    indegree := indegree
    heap := if indegree succ = 0 then heappush project priorityValue state.heap succ
      else state.heap }

/-- List the popped task and release its successors. -/
def listTask (graphSucc : String → List TaskDependency) (state : SortState)
    (entry : HeapEntry) (heap : List HeapEntry) : SortState :=
  (graphSucc entry.taskId).foldl (release project priorityValue)
    { state with heap := heap, topoOrder := state.topoOrder ++ [entry.taskId] }

/-- The loop over the heap. It lists a task at most once, so that it has as
many iterations as there are tasks. -/
def sortLoop (graphSucc : String → List TaskDependency) : ℕ → SortState → Option (List String)
  | 0, state => if state.heap.isEmpty then some state.topoOrder else none
  | iterations + 1, state =>
      match heappop state.heap with
      | none => some state.topoOrder
      | some (entry, heap) =>
          sortLoop graphSucc iterations
            (listTask project priorityValue graphSucc state entry heap)

def initialSortState (filtered : List TaskDependency) : SortState :=
  let indegree := fun id : String =>
    ((filtered.countP fun dep => dep.successorTaskId = id : ℕ) : ℤ)
  { indegree := indegree
    heap := (project.ids.filter fun id => indegree id = 0).foldl
      (heappush project priorityValue) []
    topoOrder := [] }

def scheduleCycle : DomainError where
  errorClass := .businessRuleError
  message := "Cannot schedule project: circular dependency detected."
  code := "SCHEDULE_CYCLE"

def buildProjectDependencyGraph (deps : List TaskDependency) :
    Except DomainError DependencyGraph :=
  let filtered := knownDependencies project deps
  let graphSucc := fun id => filtered.filter fun dep => dep.predecessorTaskId = id
  let topoOrder := (sortLoop project priorityValue graphSucc project.tasks.length
    (initialSortState project priorityValue filtered)).getD []
  if topoOrder.length ≠ project.tasks.length then .error scheduleCycle
  else .ok
    { topoOrder := topoOrder
      depsBySuccessor := fun id => filtered.filter fun dep => dep.successorTaskId = id
      depsByPredecessor := fun id => filtered.filter fun dep => dep.predecessorTaskId = id }

end

end ProjectManager
