import ProjectManager.Importing.ProjectImports
import ProjectManager.Tasks.Progress

/-! # What an import row changes

A row that updates a stored row replaces that row and no other. A field takes
the value of its cell, and most fields keep their value where the cell is blank.
-/

namespace ProjectManager

open Foundation ServiceProgram

/-! ## Schemas -/

def projectSchema : List ImportFieldSpec :=
  [⟨"id", "Project ID", false⟩, ⟨"name", "Name", true⟩, ⟨"description", "Description", false⟩,
    ⟨"client_name", "Client", false⟩, ⟨"client_contact", "Client Contact", false⟩,
    ⟨"planned_budget", "Planned Budget", false⟩, ⟨"currency", "Currency", false⟩,
    ⟨"start_date", "Start Date", false⟩, ⟨"end_date", "End Date", false⟩,
    ⟨"status", "Status", false⟩]

def resourceSchema : List ImportFieldSpec :=
  [⟨"id", "Resource ID", false⟩, ⟨"name", "Name", true⟩, ⟨"role", "Role", false⟩,
    ⟨"hourly_rate", "Hourly Rate", false⟩, ⟨"is_active", "Active", false⟩,
    ⟨"cost_type", "Cost Type", false⟩, ⟨"currency_code", "Currency", false⟩,
    ⟨"capacity_percent", "Capacity %", false⟩, ⟨"address", "Address", false⟩,
    ⟨"contact", "Contact", false⟩]

def taskSchema : List ImportFieldSpec :=
  [⟨"id", "Task ID", false⟩, ⟨"project_id", "Project ID", false⟩,
    ⟨"project_name", "Project Name", false⟩, ⟨"name", "Task Name", true⟩,
    ⟨"description", "Description", false⟩, ⟨"start_date", "Start Date", false⟩,
    ⟨"duration_days", "Duration Days", false⟩, ⟨"priority", "Priority", false⟩,
    ⟨"deadline", "Deadline", false⟩, ⟨"status", "Status", false⟩,
    ⟨"percent_complete", "Percent Complete", false⟩]

def costSchema : List ImportFieldSpec :=
  [⟨"id", "Cost ID", false⟩, ⟨"project_id", "Project ID", false⟩,
    ⟨"project_name", "Project Name", false⟩, ⟨"task_id", "Task ID", false⟩,
    ⟨"task_name", "Task Name", false⟩, ⟨"description", "Description", true⟩,
    ⟨"planned_amount", "Planned Amount", false⟩, ⟨"committed_amount", "Committed Amount", false⟩,
    ⟨"actual_amount", "Actual Amount", false⟩, ⟨"cost_type", "Cost Type", false⟩,
    ⟨"currency_code", "Currency", false⟩, ⟨"incurred_date", "Incurred Date", false⟩]

/-! ## Cells -/

/-- A cell that is not blank gives the field what it reads as. -/
def Supplies {α : Type} (cell : String) (read : String → Except DomainError α) (after : α) : Prop :=
  cell ≠ "" → read cell = .ok after

/-- A blank cell leaves the field, and another gives it what it reads as. -/
def CellSets {α : Type} (cell : String) (read : String → Except DomainError α)
    (before after : α) : Prop :=
  (cell = "" → after = before) ∧ Supplies cell read after

/-- The same for a field that may be missing. -/
def CellSetsSome {α : Type} (cell : String) (read : String → Except DomainError α)
    (before after : Option α) : Prop :=
  CellSets cell (fun text => (read text).map some) before after

def readText (cell : String) : Except DomainError String := .ok cell

def readCurrency (cell : String) : Except DomainError String := .ok (upper cell)

def readBool (cell : String) : Except DomainError Bool := .ok (boolOf cell)

/-- No cell of the row has blanks around its text. -/
def ImportSourceRow.Stripped (row : ImportSourceRow) : Prop :=
  ∀ key, strip (row.values key) = row.values key

theorem stripped_of_prepared {source : CsvSource} {schema : List ImportFieldSpec}
    {mapping : List (String × Option String)} {row : ImportSourceRow}
    (h : row ∈ source.prepareRows schema mapping) : row.Stripped := by
  obtain ⟨raw, -, rfl⟩ := List.mem_map.mp h
  intro key
  dsimp only
  cases (schema.find? fun field => field.key = key).bind fun field =>
      source.effectiveColumn mapping field with
  | none => rfl
  | some column => exact strip_strip _

theorem values_of_unmapped {source : CsvSource} {schema : List ImportFieldSpec}
    {mapping : List (String × Option String)} {row : ImportSourceRow} {key : String}
    (h : row ∈ source.prepareRows schema mapping)
    (hunmapped : ∀ field ∈ schema, field.key = key →
      source.effectiveColumn mapping field = none) : row.values key = "" := by
  obtain ⟨raw, -, rfl⟩ := List.mem_map.mp h
  dsimp only
  cases hfield : schema.find? fun field => field.key = key with
  | none => rfl
  | some field =>
      have hkey : field.key = key := of_decide_eq_true (List.find?_some hfield :)
      rw [Option.bind_some, hunmapped field (List.mem_of_find?_eq_some hfield) hkey]
      rfl

section

variable {α : Type} {read : String → Except DomainError α} {cell : String}

theorem optionalCell_eq_ok {value : Option α} (hcell : strip cell = cell) :
    optionalCell read cell = .ok value ↔
      cell = "" ∧ value = none ∨ cell ≠ "" ∧ (read cell).map some = .ok value := by
  unfold optionalCell
  rw [hcell]
  by_cases hblank : cell = ""
  · rw [if_pos hblank]
    constructor
    · intro h
      exact Or.inl ⟨hblank, (Except.ok.inj h).symm⟩
    · rintro (⟨-, rfl⟩ | ⟨hne, -⟩)
      · rfl
      · exact absurd hblank hne
  · rw [if_neg hblank]
    constructor
    · exact fun h => Or.inr ⟨hblank, h⟩
    · rintro (⟨hb, -⟩ | ⟨-, h⟩)
      · exact absurd hb hblank
      · exact h

/-- An optional argument that falls back on the stored field. -/
theorem cellSets_getD {value : Option α} (hcell : strip cell = cell)
    (h : optionalCell read cell = .ok value) (before : α) :
    CellSets cell read before (value.getD before) := by
  rcases (optionalCell_eq_ok hcell).mp h with ⟨hblank, rfl⟩ | ⟨hne, hread⟩
  · exact ⟨fun _ => rfl, fun hne => absurd hblank hne⟩
  · obtain ⟨a, ha, rfl⟩ := map_some_eq_ok.mp hread
    exact ⟨fun hblank => absurd hblank hne, fun _ => ha⟩

theorem cellSetsSome_or {value : Option α} (hcell : strip cell = cell)
    (h : optionalCell read cell = .ok value) (before : Option α) :
    CellSetsSome cell read before (value.or before) := by
  rcases (optionalCell_eq_ok hcell).mp h with ⟨hblank, rfl⟩ | ⟨hne, hread⟩
  · exact ⟨fun _ => Option.none_or, fun hne => absurd hblank hne⟩
  · obtain ⟨a, ha, rfl⟩ := map_some_eq_ok.mp hread
    exact ⟨fun hblank => absurd hblank hne, fun _ => hread⟩

theorem supplies_getD {value : Option α} (hcell : strip cell = cell)
    (h : optionalCell read cell = .ok value) (default : α) :
    Supplies cell read (value.getD default) :=
  (cellSets_getD hcell h default).2

end

theorem upper_ne {text : String} (h : text ≠ "") : upper text ≠ "" := by
  intro hupper
  apply h
  have hnil : text.toList.flatMap upperChar = [] := by
    have hlist := congrArg String.toList hupper
    rwa [upper, String.toList_ofList] at hlist
  apply String.toList_eq_nil_iff.mp
  apply List.eq_nil_iff_forall_not_mem.mpr
  intro c hc
  exact (upperChar_spec c).1 (List.flatMap_eq_nil_iff.mp hnil c hc)

theorem cellSetsSome_text {cell : String} (hcell : strip cell = cell)
    (form : Option String → Option String) (stored : String → String)
    (hform : ∀ text, strip text = text → text ≠ "" → form (some text) = some (stored text))
    (before : Option String) :
    CellSetsSome cell (fun text => .ok (stored text)) before
      (if (someText cell).isSome then form (someText cell) else before) := by
  unfold someText
  by_cases hblank : cell = ""
  · rw [if_pos hblank]
    exact ⟨fun _ => rfl, fun hne => absurd hblank hne⟩
  · rw [if_neg hblank]
    refine ⟨fun hb => absurd hb hblank, fun _ => ?_⟩
    change Except.ok (some (stored cell)) = Except.ok (form (some cell))
    rw [hform cell hcell hblank]

theorem strippedOrNone_some {text : String} (hstripped : strip text = text) (hne : text ≠ "") :
    strippedOrNone (some text) = some text := by
  simp [strippedOrNone, hstripped, hne]

theorem upperOrNone_some {text : String} (hstripped : strip text = text) (hne : text ≠ "") :
    upperOrNone (some text) = some (upper text) := by
  simp [upperOrNone, hstripped, upper_ne hne]

theorem resolvedCurrency_some {text : String} (hstripped : strip text = text) (hne : text ≠ "") :
    resolvedCurrency (some text) = upper text := by
  simp [resolvedCurrency, orElse, hstripped, upper_ne hne]

/-! ## Projects -/

/-- What an import row does to the project that it updates. -/
structure ProjectFollows (service : DataImportService) (row : ImportSourceRow)
    (before after : Project) : Prop where
  id : after.id = before.id
  name : after.name = row.values "name"
  description : Supplies (row.values "description") readText after.description
  clientName : CellSetsSome (row.values "client_name") readText before.clientName after.clientName
  clientContact : CellSetsSome (row.values "client_contact") readText before.clientContact
    after.clientContact
  plannedBudget : CellSetsSome (row.values "planned_budget") service.formats.float
    before.plannedBudget after.plannedBudget
  currency : CellSetsSome (row.values "currency") readCurrency before.currency after.currency
  startDate : CellSetsSome (row.values "start_date") service.formats.dateFromIsoformat
    before.startDate after.startDate
  endDate : CellSetsSome (row.values "end_date") service.formats.dateFromIsoformat
    before.endDate after.endDate
  status : CellSets (row.values "status") projectStatusOf before.status after.status

section

variable {userSession : AuthorizationEngine} {store next : ProjectStore}

theorem updateProject_ok {projectId : String} {arguments : UpdateProjectArguments}
    {result : Project} (h : updateProject userSession projectId arguments store = .ok (result, next)) :
    ∃ project, store.projects.get? projectId = some project ∧
      result = { changedProject project arguments with version := project.version + 1 } ∧
      next = { store with projects := store.projects.update result } := by
  obtain ⟨-, -, h⟩ := bind_ok h
  obtain ⟨project, hproject, h⟩ := bind_ok h
  iterate 5 obtain ⟨-, -, h⟩ := bind_ok h
  obtain ⟨rfl, rfl⟩ := Prod.mk.inj (Except.ok.inj h)
  exact ⟨project, require_eq_ok.mp hproject, rfl, rfl⟩

end

section

variable {service : DataImportService} {row : ImportSourceRow}

theorem required_eq_ok {key value : String} (h : row.required key = .ok value) :
    value = strip (row.values key) ∧ value ≠ "" := by
  have hfilter := require_eq_ok.mp h
  obtain ⟨hsome, hne⟩ := Option.filter_eq_some_iff.mp hfilter
  exact ⟨(Option.some.inj hsome).symm, by simpa using hne⟩

theorem projectFollows {name : String} {payload : CreateProjectArguments}
    {status : Option ProjectStatus} (hrow : row.Stripped) (hname : row.required "name" = .ok name)
    (hpayload : projectPayload service row name = .ok payload)
    (hstatus : optionalCell projectStatusOf (row.values "status") = .ok status)
    (project : Project) (version next : ℤ) :
    ProjectFollows service row project
      { changedProject project (payload.toUpdate version status) with version := next } := by
  obtain ⟨rfl, -⟩ := required_eq_ok hname
  obtain ⟨plannedBudget, hbudget, hpayload⟩ := bind_ok hpayload
  obtain ⟨startDate, hstart, hpayload⟩ := bind_ok hpayload
  obtain ⟨endDate, hend, hpayload⟩ := bind_ok hpayload
  obtain rfl := Except.ok.inj hpayload
  constructor
  · rfl
  · exact (strip_strip _).trans (hrow "name")
  · exact fun _ => congrArg Except.ok (hrow "description").symm
  · exact cellSetsSome_text (hrow "client_name") strippedOrNone id
      (fun _ => strippedOrNone_some) project.clientName
  · exact cellSetsSome_text (hrow "client_contact") strippedOrNone id
      (fun _ => strippedOrNone_some) project.clientContact
  · exact cellSetsSome_or (hrow "planned_budget") hbudget project.plannedBudget
  · exact cellSetsSome_text (hrow "currency") upperOrNone upper
      (fun _ => upperOrNone_some) project.currency
  · exact cellSetsSome_or (hrow "start_date") hstart project.startDate
  · exact cellSetsSome_or (hrow "end_date") hend project.endDate
  · exact cellSets_getD (hrow "status") hstatus project.status

end

/-! ## Resources -/

/-- What an import row does to the resource that it updates. The name, the role and the contact of
an employee stay those of the directory, and a capacity of zero is no capacity. -/
structure ResourceFollows (service : DataImportService) (row : ImportSourceRow)
    (before after : Resource) : Prop where
  id : after.id = before.id
  workerType : after.workerType = before.workerType
  external : before.workerType = .external → after.name = row.values "name" ∧
    Supplies (row.values "role") readText after.role ∧
    Supplies (row.values "contact") readText after.contact
  employee : before.workerType = .employee → after.employeeId = before.employeeId ∧
    ∃ employee, service.resourceService.requireEmployee before.employeeId = .ok employee ∧
      after.name = employee.fullName ∧ after.contact = employeeContact employee ∧
      (employee.title ≠ "" → after.role = employee.title) ∧
      (employee.title = "" → Supplies (row.values "role") readText after.role)
  hourlyRate : Supplies (row.values "hourly_rate") service.formats.float after.hourlyRate
  isActive : Supplies (row.values "is_active") readBool after.isActive
  costType : Supplies (row.values "cost_type") costTypeOf after.costType
  currencyCode : CellSetsSome (row.values "currency_code") readCurrency before.currencyCode
    after.currencyCode
  capacityPercent : row.values "capacity_percent" ≠ "" →
    ∃ capacity, service.formats.float (row.values "capacity_percent") = .ok capacity ∧
      (capacity ≠ 0 → after.capacityPercent = capacity)
  address : Supplies (row.values "address") readText after.address

section

variable {service : ResourceService} {store next : ProjectStore}

theorem employeeOf_eq_ok {workerType : WorkerType} {employeeId : Option String}
    {employee : Option DirectoryEmployee}
    (h : employeeOf service workerType employeeId = .ok employee) :
    workerType = .external ∧ employee = none ∨ workerType = .employee ∧
      ∃ found, service.requireEmployee employeeId = .ok found ∧ employee = some found := by
  unfold employeeOf at h
  split at h
  next htype => exact Or.inr ⟨htype, map_some_eq_ok.mp h⟩
  next htype =>
      refine Or.inl ⟨?_, (Except.ok.inj h).symm⟩
      cases workerType
      · exact absurd rfl htype
      · rfl

theorem updateResource_ok {resourceId : String} {arguments : UpdateResourceArguments}
    {result : Resource} (htype : arguments.workerType = none) (hid : arguments.employeeId = none)
    (h : updateResource service resourceId arguments store = .ok (result, next)) :
    ∃ resource employee, store.resources.get? resourceId = some resource ∧
      employeeOf service resource.workerType resource.employeeId = .ok employee ∧
      result = { withEmployee (changedResource resource arguments) resource.employeeId employee with
        version := resource.version + 1 } ∧
      next = { store with resources := store.resources.update result } := by
  obtain ⟨-, -, h⟩ := bind_ok h
  obtain ⟨resource, hresource, h⟩ := bind_ok h
  iterate 4 obtain ⟨-, -, h⟩ := bind_ok h
  obtain ⟨employee, hemployee, h⟩ := bind_ok h
  obtain ⟨rfl, rfl⟩ := Prod.mk.inj (Except.ok.inj h)
  have hnone : ¬ (arguments.workerType.isSome ∨ arguments.employeeId.isSome) := by
    simp [htype, hid]
  have hworker : (changedResource resource arguments).workerType = resource.workerType := by
    simp [changedResource, htype]
  rw [if_neg hnone] at hemployee ⊢
  rw [hworker] at hemployee
  refine ⟨resource, employee, require_eq_ok.mp hresource, hemployee, ?_, ?_⟩
  · cases employee <;> rfl
  · cases employee <;> rfl

end

/-- What an import row does to the task that it updates. A percentage decides the status, and a
start date with a duration the end date. -/
structure TaskFollows (service : DataImportService) (row : ImportSourceRow)
    (before after : Task) : Prop where
  id : after.id = before.id
  projectId : after.projectId = before.projectId
  name : after.name = row.values "name"
  description : Supplies (row.values "description") readText after.description
  startDate : CellSetsSome (row.values "start_date") service.formats.dateFromIsoformat
    before.startDate after.startDate
  durationDays : CellSetsSome (row.values "duration_days") service.formats.int
    before.durationDays after.durationDays
  endDate : ∀ store : ProjectStore, after.endDate =
    endDateFrom (service.taskService store) after.startDate after.durationDays before.endDate
  priority : Supplies (row.values "priority") service.formats.int after.priority
  deadline : CellSetsSome (row.values "deadline") service.formats.dateFromIsoformat
    before.deadline after.deadline
  percentComplete : CellSets (row.values "percent_complete") service.formats.float
    before.percentComplete after.percentComplete
  status : ∃ status, CellSets (row.values "status") taskStatusOf before.status status ∧
    (row.values "percent_complete" = "" → after.status = status) ∧
    (row.values "percent_complete" ≠ "" → after.status = statusFor after.percentComplete status)
  actualStart : after.actualStart = before.actualStart
  actualEnd : after.actualEnd = before.actualEnd

/-- What an import row does to the cost item that it updates. The project and the task of the row
serve to find the item. -/
structure CostFollows (service : DataImportService) (row : ImportSourceRow)
    (before after : CostItem) : Prop where
  id : after.id = before.id
  projectId : after.projectId = before.projectId
  taskId : after.taskId = before.taskId
  description : after.description = row.values "description"
  plannedAmount : Supplies (row.values "planned_amount") service.formats.float after.plannedAmount
  committedAmount : Supplies (row.values "committed_amount") service.formats.float
    after.committedAmount
  actualAmount : Supplies (row.values "actual_amount") service.formats.float after.actualAmount
  costType : Supplies (row.values "cost_type") costTypeOf after.costType
  currencyCode : CellSetsSome (row.values "currency_code") readCurrency before.currencyCode
    after.currencyCode
  incurredDate : CellSetsSome (row.values "incurred_date") service.formats.dateFromIsoformat
    before.incurredDate after.incurredDate

end ProjectManager
