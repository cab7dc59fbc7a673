import ProjectManager.Maintenance.Locations
import ProjectManager.Org.Departments
import ProjectManager.Org.DocumentStructures

/-! # Parent links over runs

New records come below stored ones. A record that moves may close a cycle or leave its
site, and does exactly when its new parent lies below it, or when it moves to another
site away from its parent or from records below it.
-/

namespace ProjectManager.Org

open Foundation
open Maintenance (LocationStore MaintenanceLocation MaintenanceServices Site CreateLocationArguments
  UpdateLocationArguments OnParentSites MovesAlone)

structure ReferenceStore where
  departments : DepartmentStore
  structures : DocumentStructureStore
  locations : LocationStore

def ReferenceStore.empty : ReferenceStore := ⟨.empty, .empty, .empty⟩

inductive ReferenceCall
  | createDepartment (services : DepartmentServices) (arguments : CreateDepartmentArguments)
  | updateDepartment (services : DepartmentServices) (arguments : UpdateDepartmentArguments)
  | createDocumentStructure (services : DocumentServices)
      (arguments : CreateDocumentStructureArguments)
  | updateDocumentStructure (services : DocumentServices)
      (arguments : UpdateDocumentStructureArguments)
  | createLocation (services : MaintenanceServices) (sites : Table Site.id)
      (arguments : CreateLocationArguments)
  | updateLocation (services : MaintenanceServices) (sites : Table Site.id)
      (arguments : UpdateLocationArguments)

namespace ReferenceStore

def call (store : ReferenceStore) : ReferenceCall → Except DomainError ReferenceStore
  | .createDepartment services arguments => do
      let departments ← Org.createDepartment services store.departments arguments
      return { store with departments := departments }
  | .updateDepartment services arguments => do
      let departments ← Org.updateDepartment services store.departments arguments
      return { store with departments := departments }
  | .createDocumentStructure services arguments => do
      let structures ← Org.createDocumentStructure services store.structures arguments
      return { store with structures := structures }
  | .updateDocumentStructure services arguments => do
      let structures ← Org.updateDocumentStructure services store.structures arguments
      return { store with structures := structures }
  | .createLocation services sites arguments => do
      let locations ← Maintenance.createLocation services sites store.locations arguments
      return { store with locations := locations }
  | .updateLocation services sites arguments => do
      let locations ← Maintenance.updateLocation services sites store.locations arguments
      return { store with locations := locations }

/-- Following parents never returns to a record, and a location lies on the site of its parent. -/
structure WellFounded (store : ReferenceStore) : Prop where
  departments : NeverReturns (store.departments.parentOf Department.parentDepartmentId)
  structures : NeverReturns (store.structures.parentOf DocumentStructure.parentStructureId)
  locations : NeverReturns (store.locations.parentOf MaintenanceLocation.parentLocationId)
  sites : OnParentSites store.locations

/-- Moreover every parent is stored. -/
structure Sound (store : ReferenceStore) : Prop where
  departments : store.departments.Hierarchy Department.parentDepartmentId
  structures : store.structures.Hierarchy DocumentStructure.parentStructureId
  locations : store.locations.Hierarchy MaintenanceLocation.parentLocationId
  sites : OnParentSites store.locations

theorem Sound.wellFounded {store : ReferenceStore} (h : store.Sound) : store.WellFounded :=
  ⟨h.departments.neverReturns, h.structures.neverReturns, h.locations.neverReturns, h.sites⟩

theorem sound_empty : empty.Sound :=
  ⟨Table.hierarchy_empty, Table.hierarchy_empty, Table.hierarchy_empty, fun _ h => nomatch h⟩

/-- The condition on an update: no record is moved below itself, and no location away from the
site of its parent or of the locations below it. -/
def MovesSoundly (store : ReferenceStore) : ReferenceCall → Prop
  | .updateDepartment _ arguments =>
      store.departments.NotBelow Department.parentDepartmentId arguments.departmentId
        arguments.parent
  | .updateDocumentStructure _ arguments =>
      store.structures.NotBelow DocumentStructure.parentStructureId arguments.structureId
        arguments.parent
  | .updateLocation _ _ arguments =>
      store.locations.NotBelow MaintenanceLocation.parentLocationId arguments.locationId
        arguments.parent ∧ MovesAlone store.locations arguments
  | _ => True

/-- An accepted call meets the condition exactly when its result is sound. -/
theorem Sound.call_iff {store next : ReferenceStore} (h : store.Sound) {call : ReferenceCall}
    (hcall : store.call call = .ok next) : next.Sound ↔ store.MovesSoundly call := by
  cases call with
  | createDepartment services arguments =>
      obtain ⟨departments, hdone, hcall⟩ := bind_ok hcall
      cases hcall
      have hnext := createDepartment_hierarchy h.departments hdone
      exact iff_of_true ⟨hnext, h.structures, h.locations, h.sites⟩ trivial
  | updateDepartment services arguments =>
      obtain ⟨departments, hdone, hcall⟩ := bind_ok hcall
      cases hcall
      refine Iff.trans ?_ (updateDepartment_hierarchy h.departments hdone)
      exact ⟨Sound.departments, fun hnext => ⟨hnext, h.structures, h.locations, h.sites⟩⟩
  | createDocumentStructure services arguments =>
      obtain ⟨structures, hdone, hcall⟩ := bind_ok hcall
      cases hcall
      have hnext := createDocumentStructure_hierarchy h.structures hdone
      exact iff_of_true ⟨h.departments, hnext, h.locations, h.sites⟩ trivial
  | updateDocumentStructure services arguments =>
      obtain ⟨structures, hdone, hcall⟩ := bind_ok hcall
      cases hcall
      refine Iff.trans ?_ (updateDocumentStructure_hierarchy h.structures hdone)
      exact ⟨Sound.structures, fun hnext => ⟨h.departments, hnext, h.locations, h.sites⟩⟩
  | createLocation services sites arguments =>
      obtain ⟨locations, hdone, hcall⟩ := bind_ok hcall
      cases hcall
      obtain ⟨hnext, hsites⟩ := Maintenance.createLocation_hierarchy h.locations h.sites hdone
      exact iff_of_true ⟨h.departments, h.structures, hnext, hsites⟩ trivial
  | updateLocation services sites arguments =>
      obtain ⟨locations, hdone, hcall⟩ := bind_ok hcall
      cases hcall
      refine Iff.trans ?_ (and_congr
        (Maintenance.updateLocation_hierarchy h.locations hdone)
        (Maintenance.updateLocation_onParentSites h.locations h.sites hdone))
      exact ⟨fun hnext => ⟨hnext.locations, hnext.sites⟩,
        fun hnext => ⟨h.departments, h.structures, hnext.1, hnext.2⟩⟩

theorem wellFounded_of_run {start : ReferenceStore} (hstart : start.Sound)
    {calls : List ReferenceCall} (hcalls : AllCalls call MovesSoundly start calls) :
    (stateAfterAll call start calls).WellFounded := by
  refine Sound.wellFounded (stateAfterAll_invariant ?_ calls hcalls hstart)
  exact fun store call next hcall hmoves hstore => (hstore.call_iff hcall).mpr hmoves

end ReferenceStore

/-! ## Runs that meet the condition, and runs that do not -/

def departmentAdmin : DepartmentServices where
  userSession := .admin
  activeOrganization := some "org"
  siteOrganization := none
  employeeExists := none
  locationReference := none

def locationAdmin : MaintenanceServices where
  userSession :=
    { AuthorizationEngine.admin with
      isScopeRestricted := fun _ => false
      scopeIdsFor := fun _ _ => [] }
  activeOrganization := some "org"
  now := 0

def newcomer (departmentId : String) (parentDepartmentId : Option String) : ReferenceCall :=
  .createDepartment departmentAdmin
    { departmentId := departmentId, departmentCode := departmentId, name := some departmentId,
      parentDepartmentId := parentDepartmentId }

def reparented (departmentId parentDepartmentId : String) : ReferenceCall :=
  .updateDepartment departmentAdmin
    { departmentId := departmentId, parentDepartmentId := some parentDepartmentId }

def twoSites : Table Site.id where
  rows := [⟨"north", "org"⟩, ⟨"south", "org"⟩]
  nodup := by decide

def placed (locationId : String) (parentLocationId : Option String) : ReferenceCall :=
  .createLocation locationAdmin twoSites
    { locationId := locationId, siteId := "north", locationCode := locationId, name := locationId,
      parentLocationId := parentLocationId }

def movedTo (locationId siteId : String) : ReferenceCall :=
  .updateLocation locationAdmin twoSites { locationId := locationId, siteId := some siteId }

/-- A department moves below another root, and a location alone to another site. -/
theorem wellFounded_of_movedRoot :
    (stateAfterAll ReferenceStore.call .empty
      [newcomer "a" none, newcomer "b" none, reparented "b" "a", placed "yard" none,
        movedTo "yard" "south"]).WellFounded := by
  refine ReferenceStore.wellFounded_of_run ReferenceStore.sound_empty
    ⟨trivial, trivial, ?_, trivial, ⟨?_, ?_⟩, trivial⟩
  · intro above habove n
    obtain rfl : "a" = above := Option.some.inj (Option.some.inj (habove : some (some "a") = _))
    cases n with
    | zero => exact fun h => nomatch h
    | succ n => exact fun h => nomatch h
  · exact fun above habove => nomatch habove
  · intro stored hstored siteId _ _
    have hroots : ∀ row ∈ (stateAfterAll ReferenceStore.call .empty
        [placed "yard" none]).locations.rows, row.parentLocationId = none := by
      decide
    refine ⟨fun row hrow hbelow => ?_, fun _ => hroots stored (Table.get?_eq_some_iff.mp hstored).1⟩
    rw [hroots row hrow] at hbelow
    cases hbelow

/-- Two departments become each other's parents; a location moves away from its parent. -/
theorem not_wellFounded_mutualParents :
    ¬ (stateAfterAll ReferenceStore.call .empty
        [newcomer "a" none, newcomer "b" (some "a"), reparented "a" "b"]).WellFounded ∧
      ¬ (stateAfterAll ReferenceStore.call .empty
        [placed "hall" none, placed "room" (some "hall"), movedTo "room" "south"]).WellFounded := by
  constructor
  · intro h
    exact h.departments "a" 1 rfl
  · intro h
    obtain ⟨parent, hparent, hsite⟩ := h.sites _ List.mem_cons_self "hall" rfl
    cases hparent
    exact absurd hsite (by decide)

end ProjectManager.Org
