import ProjectManager.Importing.SuppliedFields

/-! # Rows that update

The run of a row handler that updates: it replaces the row that the import row
refers to, and commits that.
-/

namespace ProjectManager

open Foundation ServiceProgram

section

variable {service : DataImportService} {row : ImportSourceRow}

theorem resourceFollows {payload : CreateResourceArguments} (hrow : row.Stripped)
    (hpayload : resourcePayload service row = .ok payload) {resource : Resource}
    {employee : Option DirectoryEmployee}
    (hemployee : employeeOf service.resourceService resource.workerType resource.employeeId =
      .ok employee) (version next : ℤ) :
    ResourceFollows service row resource
      { withEmployee (changedResource resource (payload.toUpdate version)) resource.employeeId
          employee with version := next } := by
  obtain ⟨name, hname, hpayload⟩ := bind_ok hpayload
  obtain ⟨hourlyRate, hrate, hpayload⟩ := bind_ok hpayload
  obtain ⟨costType, hcost, hpayload⟩ := bind_ok hpayload
  obtain ⟨capacity, hcapacity, hpayload⟩ := bind_ok hpayload
  cases hpayload
  obtain ⟨rfl, -⟩ := required_eq_ok hname
  have htext : ∀ key, Supplies (row.values key) readText (strip (row.values key)) :=
    fun key _ => congrArg Except.ok (hrow key).symm
  have hactive : Supplies (row.values "is_active") readBool
      (optionalBool (row.values "is_active") true) := by
    intro hne
    unfold optionalBool readBool
    rw [hrow, if_neg hne]
  have hgiven : row.values "capacity_percent" ≠ "" →
      ∃ value, service.formats.float (row.values "capacity_percent") = .ok value ∧
        (value ≠ 0 → (capacity.filter (· ≠ 0)).getD 100 = value) := by
    intro hne
    rcases (optionalCell_eq_ok (hrow "capacity_percent")).mp hcapacity with ⟨hblank, -⟩ | ⟨-, h⟩
    · exact absurd hblank hne
    · obtain ⟨value, hvalue, rfl⟩ := map_some_eq_ok.mp h
      exact ⟨value, hvalue, fun hzero => by simp [Option.filter, hzero]⟩
  have hcurrency := cellSetsSome_text (hrow "currency_code") upperOrNone upper
    (fun _ => upperOrNone_some) resource.currencyCode
  have hrates := supplies_getD (hrow "hourly_rate") hrate 0
  have hcosts := supplies_getD (hrow "cost_type") hcost .labor
  rcases employeeOf_eq_ok hemployee with ⟨htype, rfl⟩ | ⟨htype, found, hfound, rfl⟩
  · dsimp only [withEmployee, changedResource, CreateResourceArguments.toUpdate, Option.map_some,
      Option.getD_some]
    exact
      { id := rfl
        workerType := rfl
        external := fun _ => ⟨(strip_strip _).trans (hrow "name"), htext "role", htext "contact"⟩
        employee := fun h => absurd (htype.symm.trans h) (by decide)
        hourlyRate := hrates
        isActive := by simpa only using hactive
        costType := hcosts
        currencyCode := hcurrency
        capacityPercent := hgiven
        address := htext "address" }
  · have htitled : found.title = "" → Supplies (row.values "role") readText
        (orElse found.title (strip (row.values "role"))) := by
      intro htitle
      rw [orElse, if_pos htitle]
      exact htext "role"
    dsimp only [withEmployee, changedResource, CreateResourceArguments.toUpdate, Option.map_some,
      Option.getD_some]
    exact
      { id := rfl
        workerType := rfl
        external := fun h => absurd (htype.symm.trans h) (by decide)
        employee := fun _ => ⟨rfl, found, hfound, rfl, rfl, fun htitle => if_neg htitle, htitled⟩
        hourlyRate := hrates
        isActive := by simpa only using hactive
        costType := hcosts
        currencyCode := hcurrency
        capacityPercent := hgiven
        address := htext "address" }

/-! ## Tasks -/

theorem updateTask_writes {tasks : TaskService} {table next : TasksById} {taskId : String}
    {arguments : UpdateTaskArguments} {result : Task}
    (h : updateTask tasks table taskId arguments = .ok (result, next)) :
    ∃ task, table.get? taskId = some task ∧ next = table.update result ∧ result =
      { task with
        name := (arguments.name.map strip).getD task.name
        description := (arguments.description.map strip).getD task.description
        startDate := arguments.startDate.or task.startDate
        durationDays := arguments.durationDays.or task.durationDays
        endDate := endDateFrom tasks (arguments.startDate.or task.startDate)
          (arguments.durationDays.or task.durationDays) task.endDate
        status := arguments.status.getD task.status
        priority := arguments.priority.getD task.priority
        deadline := arguments.deadline.or task.deadline
        version := task.version + 1 } := by
  obtain ⟨task, htask, h⟩ := bind_ok h
  iterate 5 obtain ⟨-, -, h⟩ := bind_ok h
  obtain ⟨rfl, rfl⟩ := Prod.mk.inj (Except.ok.inj h)
  exact ⟨task, loadTask_ok htask, rfl, rfl⟩

/-- What `update_progress` writes where only a percentage is reported. -/
theorem updateProgress_writes {tasks : TaskService} {table next : TasksById} {taskId : String}
    {percent : ℚ} {version : Option ℤ} {result : Task}
    (h : updateProgress tasks table taskId
      { percentComplete := some percent, expectedVersion := version } = .ok (result, next)) :
    ∃ task, table.get? taskId = some task ∧ next = table.update result ∧ result =
      { task with
        percentComplete := percent
        status := statusFor percent task.status
        version := task.version + 1 } := by
  obtain ⟨task, htask, h⟩ := bind_ok h
  iterate 4 obtain ⟨-, -, h⟩ := bind_ok h
  obtain ⟨rfl, rfl⟩ := Prod.mk.inj (Except.ok.inj h)
  refine ⟨task, loadTask_ok htask, ?_, ?_⟩
  · simp [TasksById.save]
  · simp

/-- The task after the first of the two calls, where no percentage is given yet. -/
theorem taskFollows {projectId name : String} {payload : CreateTaskArguments}
    {status : Option TaskStatus} {percent : Option ℚ} (hrow : row.Stripped)
    (hname : row.required "name" = .ok name)
    (hpayload : taskPayload service row projectId name = .ok payload)
    (hstatus : optionalCell taskStatusOf (row.values "status") = .ok status)
    (hpercent : service.optionalFloat (row.values "percent_complete") = .ok percent)
    {store : ProjectStore} {task updated after : Task} {version : ℤ}
    (hupdated : updated =
      { task with
        name := strip payload.name
        description := strip payload.description
        startDate := payload.startDate.or task.startDate
        durationDays := payload.durationDays.or task.durationDays
        endDate := endDateFrom (service.taskService store) (payload.startDate.or task.startDate)
          (payload.durationDays.or task.durationDays) task.endDate
        status := status.getD task.status
        priority := payload.priority
        deadline := payload.deadline.or task.deadline
        version := version })
    (hafter : percent = none ∧ after = updated ∨ ∃ value next, percent = some value ∧ after =
      { updated with
        percentComplete := value
        status := statusFor value updated.status
        version := next }) : TaskFollows service row task after := by
  obtain ⟨rfl, -⟩ := required_eq_ok hname
  obtain ⟨startDate, hstart, hpayload⟩ := bind_ok hpayload
  obtain ⟨durationDays, hdays, hpayload⟩ := bind_ok hpayload
  obtain ⟨priority, hpriority, hpayload⟩ := bind_ok hpayload
  obtain ⟨deadline, hdeadline, hpayload⟩ := bind_ok hpayload
  cases hpayload
  have hnames := (strip_strip _).trans (hrow "name")
  have htext : Supplies (row.values "description") readText (strip (row.values "description")) :=
    fun _ => congrArg Except.ok (hrow "description").symm
  have hstarts := cellSetsSome_or (hrow "start_date") hstart task.startDate
  have hdurations := cellSetsSome_or (hrow "duration_days") hdays task.durationDays
  have hpriorities := supplies_getD (hrow "priority") hpriority 0
  have hdeadlines := cellSetsSome_or (hrow "deadline") hdeadline task.deadline
  have hpercents := cellSets_getD (hrow "percent_complete") hpercent task.percentComplete
  have hstatuses := cellSets_getD (hrow "status") hstatus task.status
  have hcell := (optionalCell_eq_ok (hrow "percent_complete")).mp hpercent
  subst hupdated
  rcases hafter with ⟨rfl, rfl⟩ | ⟨value, next, rfl, rfl⟩
  · have hblank : row.values "percent_complete" = "" :=
      hcell.elim And.left fun ⟨_, h⟩ => by
        obtain ⟨_, -, h⟩ := map_some_eq_ok.mp h
        cases h
    exact
      { id := rfl
        projectId := rfl
        name := hnames
        description := htext
        startDate := hstarts
        durationDays := hdurations
        endDate := fun _ => rfl
        priority := hpriorities
        deadline := hdeadlines
        percentComplete := hpercents
        status := ⟨_, hstatuses, fun _ => rfl, fun hne => absurd hblank hne⟩
        actualStart := rfl
        actualEnd := rfl }
  · have hne : row.values "percent_complete" ≠ "" :=
      hcell.elim (fun ⟨_, h⟩ => nomatch h) And.left
    exact
      { id := rfl
        projectId := rfl
        name := hnames
        description := htext
        startDate := hstarts
        durationDays := hdurations
        endDate := fun _ => rfl
        priority := hpriorities
        deadline := hdeadlines
        percentComplete := hpercents
        status := ⟨_, hstatuses, fun hblank => absurd hblank hne, fun _ => rfl⟩
        actualStart := rfl
        actualEnd := rfl }

theorem costFollows {projectId : String} {taskId : Option String} {payload : AddCostArguments}
    (hrow : row.Stripped) (hpayload : costPayload service row projectId taskId = .ok payload)
    (item : CostItem) (version next : ℤ) :
    CostFollows service row item
      { changedCostItem item (payload.toUpdate version) with version := next } := by
  obtain ⟨description, hdescription, hpayload⟩ := bind_ok hpayload
  obtain ⟨planned, hplanned, hpayload⟩ := bind_ok hpayload
  obtain ⟨agreed, hagreed, hpayload⟩ := bind_ok hpayload
  obtain ⟨actual, hactual, hpayload⟩ := bind_ok hpayload
  obtain ⟨costType, hcost, hpayload⟩ := bind_ok hpayload
  obtain ⟨incurred, hincurred, hpayload⟩ := bind_ok hpayload
  cases hpayload
  obtain ⟨rfl, -⟩ := required_eq_ok hdescription
  have hcurrency := cellSetsSome_text (hrow "currency_code") (fun text => some (resolvedCurrency text))
    upper (fun _ hstripped hne => congrArg some (resolvedCurrency_some hstripped hne))
    item.currencyCode
  have hdescriptions := (strip_strip _).trans (hrow "description")
  have hplans := supplies_getD (hrow "planned_amount") hplanned 0
  have hagreements := supplies_getD (hrow "committed_amount") hagreed 0
  have hactuals := supplies_getD (hrow "actual_amount") hactual 0
  have hcosts := supplies_getD (hrow "cost_type") hcost .overhead
  have hdates := cellSetsSome_or (hrow "incurred_date") hincurred item.incurredDate
  dsimp only [changedCostItem, AddCostArguments.toUpdate]
  exact
    { id := rfl
      projectId := rfl
      taskId := rfl
      description := hdescriptions
      plannedAmount := hplans
      committedAmount := hagreements
      actualAmount := hactuals
      costType := hcosts
      currencyCode := hcurrency
      incurredDate := hdates }

end

/-! ## Runs -/

section

variable (service : DataImportService) (row : ImportSourceRow) (store next : ProjectStore)

/-- The one project that the row refers to follows its cells. -/
def UpdatesProject (lookup : ProjectLookup) : Prop :=
  ∃ found before after,
    resolveProject lookup (someText (row.values "id")) (some (row.values "name")) = some found ∧
    store.projects.get? found.id = some before ∧ ProjectFollows service row before after ∧
    next = { store with projects := store.projects.update after }

def UpdatesResource (lookup : ResourceLookup) : Prop :=
  ∃ found before after, resolveResource lookup row = .ok (some found) ∧
    store.resources.get? found.id = some before ∧ ResourceFollows service row before after ∧
    next = { store with resources := store.resources.update after }

def UpdatesTask (lookup : ProjectLookup) : Prop :=
  ∃ project found before after, requireImportProject lookup row = .ok project ∧
    findTask (store.tasksOf project.id).tasks (some (row.values "id")) (some (row.values "name")) =
      some found ∧
    store.tasks.get? found.id = some before ∧ TaskFollows service row before after ∧
    next = { store with tasks := store.tasks.update after }

def UpdatesCost (lookup : ProjectLookup) : Prop :=
  ∃ project found before after, requireImportProject lookup row = .ok project ∧
    resolveCost service project.id (someText (row.values "id")) store = .ok (some found) ∧
    store.costs.get? found.id = some before ∧ CostFollows service row before after ∧
    next = { store with costs := store.costs.update after }

end

def UpdatesCommitted (updates : ProjectStore → ProjectStore → Prop)
    (session next : Session PlatformStore) : Prop :=
  next.committed = next.pending ∧ updates session.pending.projects next.pending.projects

section

variable {service : DataImportService} {generated : GeneratedRow}
  {session : Session PlatformStore}

theorem requestGovernedChange_raises {α : Type} {services : ProjectManagementServices}
    {requestType entityType entityId : String} {projectId : Option String}
    {payload : ApprovalPayload} {subject requestId : String}
    {returns : α → Session PlatformStore → Prop} :
    (requestGovernedChange services requestType entityType entityId projectId payload subject
      requestId : ServiceProgram α).Spec session returns fun _ _ => True := by
  unfold requestGovernedChange
  rw [Program.spec_bind]
  apply Program.Spec.of_forall ?_ fun _ _ => trivial
  intro request current
  rw [Program.spec_bind]
  apply Program.Spec.of_forall ?_ fun _ _ => trivial
  intro _ written
  rw [Program.spec_bind]
  apply Program.Spec.of_forall ?_ fun _ _ => trivial
  intro _ _
  trivial

theorem spec_created {α : Type} (program : ServiceProgram α) {P : Session PlatformStore → Prop} :
    (program >>= fun _ => (return .created : ServiceProgram RowOutcome)).Spec session
      (fun outcome next => outcome = .updated → P next) fun _ _ => True := by
  rw [Program.spec_bind]
  refine Program.Spec.of_forall ?_ fun _ _ => trivial
  intro _ _ houtcome
  cases houtcome

theorem importProjectRow_spec (lookup : ProjectLookup) (hrow : generated.row.Stripped) :
    (importProjectRow service lookup generated).Spec session
      (fun outcome next => outcome = .updated → UpdatesCommitted
        (fun store projects => UpdatesProject service generated.row store projects lookup)
        session next) fun _ _ => True := by
  unfold importProjectRow
  rw [Program.spec_bind, spec_readProjects]
  split
  next parsed hread =>
    obtain ⟨name, hname, hread⟩ := bind_ok hread
    obtain ⟨payload, hpayload, hread⟩ := bind_ok hread
    obtain ⟨status, hstatus, hread⟩ := bind_ok hread
    cases hread
    dsimp only
    cases hproject : resolveProject lookup (someText (generated.row.values "id")) (some name) with
    | none =>
        dsimp only
        rw [Program.spec_bind]
        exact Program.Spec.of_forall (fun _ _ => spec_created _) fun _ _ => trivial
    | some found =>
        dsimp only
        rw [Program.spec_bind]
        apply (committed_spec _ session).mono ?_ fun _ _ _ => trivial
        rintro result next ⟨projects, hupdate, hnext, hcommitted⟩ -
        obtain ⟨before, hbefore, rfl, rfl⟩ := updateProject_ok hupdate
        have hcell := (required_eq_ok hname).1.trans (hrow "name")
        exact ⟨hcommitted, found, before, _, hcell ▸ hproject, hbefore,
          projectFollows hrow hname hpayload hstatus before _ _, hnext⟩
  next => trivial

theorem importResourceRow_spec (lookup : ResourceLookup) (hrow : generated.row.Stripped) :
    (importResourceRow service lookup generated).Spec session
      (fun outcome next => outcome = .updated → UpdatesCommitted
        (fun store projects => UpdatesResource service generated.row store projects lookup)
        session next) fun _ _ => True := by
  unfold importResourceRow
  rw [Program.spec_bind, spec_readProjects]
  split
  next parsed hread =>
    obtain ⟨resource, hresource, hread⟩ := bind_ok hread
    obtain ⟨payload, hpayload, hread⟩ := bind_ok hread
    cases hread
    dsimp only
    cases resource with
    | none => exact spec_created _
    | some found =>
        dsimp only
        rw [Program.spec_bind]
        apply (committed_spec _ session).mono ?_ fun _ _ _ => trivial
        rintro result next ⟨projects, hupdate, hnext, hcommitted⟩ -
        obtain ⟨before, employee, hbefore, hemployee, rfl, rfl⟩ :=
          updateResource_ok rfl rfl hupdate
        exact ⟨hcommitted, found, before, _, hresource, hbefore,
          resourceFollows hrow hpayload hemployee _ _, hnext⟩
  next => trivial

theorem onTasks_ok {α : Type}
    {operation : TaskService → TasksById → Except DomainError (α × TasksById)}
    {store next : ProjectStore} {value : α}
    (h : onTasks service operation store = .ok (value, next)) :
    ∃ tasks, operation (service.taskService store) store.tasks = .ok (value, tasks) ∧
      next = { store with tasks := tasks } := by
  unfold onTasks at h
  cases hoperation : operation (service.taskService store) store.tasks with
  | error e =>
      rw [hoperation] at h
      cases h
  | ok result =>
      rw [hoperation] at h
      obtain ⟨rfl, rfl⟩ := Prod.mk.inj (Except.ok.inj h)
      exact ⟨_, rfl, rfl⟩

/-- The second call of a task row writes the task that the first one wrote. -/
theorem applyImportedProgress_spec {updated : Task} {table : TasksById} {store : ProjectStore}
    {percent : Option ℚ} {version : Option ℤ} {task : Task} (htask : table.get? updated.id = some task)
    (hpending : session.pending.projects = { store with tasks := table.update updated })
    (hcommitted : session.committed = session.pending) :
    (applyImportedProgress service updated.id percent version).Spec session
      (fun _ next => next.committed = next.pending ∧ ∃ after,
        (percent = none ∧ after = updated ∨ ∃ value version, percent = some value ∧ after =
          { updated with
            percentComplete := value
            status := statusFor value updated.status
            version := version }) ∧
        next.pending.projects = { store with tasks := table.update after }) fun _ _ => True := by
  cases percent with
  | none => exact ⟨hcommitted, updated, Or.inl ⟨rfl, rfl⟩, hpending⟩
  | some value =>
      change Program.Spec (_ >>= _) _ _ _
      rw [Program.spec_bind]
      apply (committed_spec _ session).mono ?_ fun _ _ _ => trivial
      rintro result next ⟨projects, hcall, hnext, hnextCommitted⟩
      obtain ⟨tasks, hprogress, rfl⟩ := onTasks_ok hcall
      obtain ⟨stored, hstored, rfl, hresult⟩ := updateProgress_writes hprogress
      rw [hpending] at hstored hnext
      have hsame : (table.update updated).get? updated.id = some updated :=
        Table.get?_update_self htask
      obtain rfl := Option.some.inj (hsame.symm.trans hstored)
      refine ⟨hnextCommitted, result, Or.inr ⟨value, _, rfl, hresult⟩, hnext.trans ?_⟩
      have hid : updated.id = result.id := by rw [hresult]
      rw [Table.update_update hid]

theorem importTaskRow_spec (lookup : ProjectLookup) (hrow : generated.row.Stripped) :
    (importTaskRow service lookup generated).Spec session
      (fun outcome next => outcome = .updated → UpdatesCommitted
        (fun store projects => UpdatesTask service generated.row store projects lookup)
        session next) fun _ _ => True := by
  unfold importTaskRow
  rw [Program.spec_bind, spec_readProjects]
  split
  next parsed hread =>
    obtain ⟨project, hproject, hread⟩ := bind_ok hread
    obtain ⟨name, hname, hread⟩ := bind_ok hread
    obtain ⟨tasks, htasks, hread⟩ := bind_ok hread
    obtain ⟨payload, hpayload, hread⟩ := bind_ok hread
    obtain ⟨status, hstatus, hread⟩ := bind_ok hread
    obtain ⟨percent, hpercent, hread⟩ := bind_ok hread
    cases hread
    have htasks : tasks = (session.pending.projects.tasksOf project.id).tasks := by
      obtain ⟨-, -, h⟩ := bind_ok htasks
      obtain ⟨-, -, h⟩ := bind_ok h
      exact (Except.ok.inj h).symm
    have hcell := (required_eq_ok hname).1.trans (hrow "name")
    dsimp only
    cases htask : findTask tasks (some (generated.row.values "id")) (some name) with
    | none =>
        dsimp only
        rw [Program.spec_bind]
        exact Program.Spec.of_forall (fun _ _ => spec_created _) fun _ _ => trivial
    | some found =>
        dsimp only
        rw [Program.spec_bind]
        apply (committed_spec _ session).mono ?_ fun _ _ _ => trivial
        rintro updated next ⟨projects, hcall, hnext, hcommitted⟩
        obtain ⟨table, hupdate, rfl⟩ := onTasks_ok hcall
        obtain ⟨before, hbefore, rfl, hupdated⟩ := updateTask_writes hupdate
        have hstored : session.pending.projects.tasks.get? updated.id = some before := by
          rw [hupdated]
          exact Table.get?_of_mem _ (Table.get?_eq_some _ hbefore).1
        rw [Program.spec_bind]
        apply (applyImportedProgress_spec hstored hnext hcommitted).mono ?_ fun _ _ _ => trivial
        rintro _ last ⟨hlast, after, hafter, hprojects⟩ -
        exact ⟨hlast, project, found, before, after, hproject, htasks ▸ hcell ▸ htask, hbefore,
          taskFollows hrow hname hpayload hstatus hpercent hupdated hafter, hprojects⟩
  next => trivial

theorem importCostRow_spec (lookup : ProjectLookup) (hrow : generated.row.Stripped) :
    (importCostRow service lookup generated).Spec session
      (fun outcome next => outcome = .updated → UpdatesCommitted
        (fun store projects => UpdatesCost service generated.row store projects lookup)
        session next) fun _ _ => True := by
  unfold importCostRow
  rw [Program.spec_bind, spec_readProjects]
  split
  next parsed hread =>
    obtain ⟨project, hproject, hread⟩ := bind_ok hread
    obtain ⟨tasks, -, hread⟩ := bind_ok hread
    obtain ⟨existing, hexisting, hread⟩ := bind_ok hread
    obtain ⟨payload, hpayload, hread⟩ := bind_ok hread
    obtain rfl := Except.ok.inj hread
    dsimp only
    cases existing with
    | none => exact spec_created _
    | some found =>
        dsimp only
        rw [Program.spec_bind]
        unfold updateCostItem
        rw [Program.spec_bind, spec_readProjects]
        split
        next _ hprepare =>
          obtain ⟨item, hitem, hprepare⟩ := bind_ok hprepare
          iterate 2 obtain ⟨-, -, hprepare⟩ := bind_ok hprepare
          obtain rfl := Except.ok.inj hprepare
          split
          next => exact requestGovernedChange_raises
          next =>
            apply (committed_spec _ session).mono ?_ fun _ _ _ => trivial
            rintro result next ⟨projects, hupdate, hnext, hcommitted⟩ -
            iterate 3 obtain ⟨-, -, hupdate⟩ := bind_ok hupdate
            obtain ⟨rfl, rfl⟩ := Prod.mk.inj (Except.ok.inj hupdate)
            exact ⟨hcommitted, project, found, item, _, hproject, hexisting,
              require_eq_ok.mp hitem, costFollows hrow hpayload item _ _, hnext⟩
        next => trivial
  next => trivial

end

/-! ## What the file supplies -/

/-- A field without a column has a blank cell. -/
def UnmappedBlank (source : CsvSource) (mapping : List (String × Option String))
    (row : ImportSourceRow) : Prop :=
  ∀ field, source.effectiveColumn mapping field = none → row.values field.key = ""

theorem unmappedBlank {source : CsvSource} {schema : List ImportFieldSpec}
    {mapping : List (String × Option String)} {row : ImportSourceRow}
    (h : row ∈ source.prepareRows schema mapping) : UnmappedBlank source mapping row := by
  intro field hfield
  apply values_of_unmapped h
  intro other _ hkey
  unfold CsvSource.effectiveColumn at hfield ⊢
  rw [hkey]
  exact hfield

/-- Whatever the columns are mapped to, a row that updates a stored row gives the fields the
values of their cells, keeps the fields that a blank cell keeps, and leaves the other rows. -/
theorem importRow_follows_cells (service : DataImportService) (source : CsvSource)
    (mapping : List (String × Option String)) (generated : GeneratedRow)
    (session next : Session PlatformStore) :
    (∀ lookup, generated.row ∈ source.prepareRows projectSchema mapping →
      importProjectRow service lookup generated session = (.ok .updated, next) →
      UnmappedBlank source mapping generated.row ∧ UpdatesCommitted
        (fun store projects => UpdatesProject service generated.row store projects lookup)
        session next) ∧
    (∀ lookup, generated.row ∈ source.prepareRows resourceSchema mapping →
      importResourceRow service lookup generated session = (.ok .updated, next) →
      UnmappedBlank source mapping generated.row ∧ UpdatesCommitted
        (fun store projects => UpdatesResource service generated.row store projects lookup)
        session next) ∧
    (∀ lookup, generated.row ∈ source.prepareRows taskSchema mapping →
      importTaskRow service lookup generated session = (.ok .updated, next) →
      UnmappedBlank source mapping generated.row ∧ UpdatesCommitted
        (fun store projects => UpdatesTask service generated.row store projects lookup)
        session next) ∧
    ∀ lookup, generated.row ∈ source.prepareRows costSchema mapping →
      importCostRow service lookup generated session = (.ok .updated, next) →
      UnmappedBlank source mapping generated.row ∧ UpdatesCommitted
        (fun store projects => UpdatesCost service generated.row store projects lookup)
        session next := by
  refine ⟨?_, ?_, ?_, ?_⟩
  · intro lookup hrow hrun
    exact ⟨unmappedBlank hrow,
      (importProjectRow_spec lookup (stripped_of_prepared hrow)).of_ok hrun rfl⟩
  · intro lookup hrow hrun
    exact ⟨unmappedBlank hrow,
      (importResourceRow_spec lookup (stripped_of_prepared hrow)).of_ok hrun rfl⟩
  · intro lookup hrow hrun
    exact ⟨unmappedBlank hrow,
      (importTaskRow_spec lookup (stripped_of_prepared hrow)).of_ok hrun rfl⟩
  · intro lookup hrow hrun
    exact ⟨unmappedBlank hrow,
      (importCostRow_spec lookup (stripped_of_prepared hrow)).of_ok hrun rfl⟩

/-- Numbers are read from their digits, and no other text is one. -/
def digitsOf (text : String) : Except DomainError ℕ :=
  require (if text ≠ "" ∧ text.toList.all Char.isDigit then
      some (text.toList.foldl (fun value digit => 10 * value + (digit.toNat - 48)) 0) else none)
    (valueError ("could not read '" ++ text ++ "'"))

def digitFormats : CellFormats where
  dateFromIsoformat text := .error (valueError ("Invalid isoformat string: '" ++ text ++ "'"))
  int text := (digitsOf text).map fun value => (value : ℤ)
  float text := (digitsOf text).map fun value => (value : ℚ)

def plantImports : DataImportService where
  userSession := .admin
  principal := some ("u1", "planner")
  activeOrganization := none
  today := 0
  workCalendarEngine := weekdayCalendar
  isAdminSession := true
  isGovernanceRequired _ := false
  listsProject _ := true
  formats := digitFormats

def plantProject : Project := { id := "plant", name := "Plant" }

def sealTask : Task :=
  { id := "seal", projectId := "plant", name := "Seal", description := "Check the pump" }

def plantSession : Session PlatformStore := .clean {
  sites := .empty, parties := .empty, approvals := .empty, inventory := .empty
  projects := {
    projects := ⟨[plantProject], by decide⟩, tasks := ⟨[sealTask], by decide⟩ } }

/-- A file that reports the task as complete, under a status of its own. -/
def sealReport : CsvSource where
  fieldnames := ["Project_Name", "Name", "Description", "Percent_Complete", "Status"]
  records := [["Plant", " Seal ", "Check the pump", "100", "todo"]]

def sealRow : GeneratedRow where
  row := ((sealReport.prepareRows taskSchema []).head?).getD ⟨0, fun _ => ""⟩
  newId := "new"
  requestId := "request"

def plantLookup : ProjectLookup := projectLookup [plantProject]

theorem importRow_follows_cells_seal :
    ∃ next, UnmappedBlank sealReport [] sealRow.row ∧ UpdatesCommitted
      (fun store projects => UpdatesTask plantImports sealRow.row store projects plantLookup)
      plantSession next :=
  ⟨(importTaskRow plantImports plantLookup sealRow plantSession).2,
    (importRow_follows_cells plantImports sealReport [] sealRow plantSession _).2.2.1 plantLookup
      (by exact List.mem_cons_self) (by rfl)⟩

/-- The status is the one that belongs to the percentage, not the one of its cell. -/
theorem importTaskRow_seal :
    let (result, next) := importTaskRow plantImports plantLookup sealRow plantSession
    result = .ok .updated ∧ sealRow.row.values "status" = "todo" ∧
      next.committed.projects.tasks.get? "seal" =
        some { sealTask with status := .done, percentComplete := 100, version := 3 } := by
  decide +kernel

end ProjectManager
