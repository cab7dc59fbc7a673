import ProjectManager.Foundation.KeptStates
import ProjectManager.Org.Modules

/-! # The entitlements of organizations

Whatever is asked and changed about modules, an organization has no records or one for
every module, what is enabled is licensed and has access, and the calls for one
organization leave the others alone. All questions about a module have one answer.
-/

namespace ProjectManager.Org

open Foundation

/-- What is enabled is licensed and has access, and the status tells what is licensed. -/
structure EntitlementRow.Coherent (row : EntitlementRow) : Prop where
  enabled : row.enabled = true → row.licensed = true ∧ row.lifecycleStatus.hasRuntimeAccess = true
  licensed : row.licensed = true ↔ row.lifecycleStatus ≠ .inactive

instance : DecidablePred EntitlementRow.Coherent := fun _ =>
  decidable_of_iff (_ ∧ _) ⟨fun h => ⟨h.1, h.2⟩, fun h => ⟨h.enabled, h.licensed⟩⟩

/-- A record that may be written for a module. -/
structure ModuleEntitlementRecord.Coherent (record : ModuleEntitlementRecord) : Prop where
  canonical : normalizeModuleCode record.moduleCode = record.moduleCode
  enabled : record.enabled = true →
    record.licensed = true ∧ record.lifecycleStatus.hasRuntimeAccess = true
  licensed : record.licensed = true ↔ record.lifecycleStatus ≠ .inactive

/-- Every organization has no rows, or one for each of the modules. -/
structure Entitled (modules : List EnterpriseModule) (store : EntitlementStore) : Prop where
  known : ∀ row ∈ store.rows, moduleSpellings.Known row.moduleCode
  coherent : ∀ row ∈ store.rows, row.Coherent
  covered : ∀ organizationId, (∃ row ∈ store.rows, row.organizationId = organizationId) →
    ∀ module ∈ modules, (moduleSpellings.stored store organizationId module.code).isSome = true

section

variable {store next : EntitlementStore} {organizationId other code : String}
  {record : ModuleEntitlementRecord} {modules : List EnterpriseModule} {module : EnterpriseModule}

/-! ## One record -/

theorem canonical_eq : moduleSpellings.canonical code = normalizeModuleCode code := by
  dsimp only [moduleSpellings]

theorem canonical_of_normalized (h : normalizeModuleCode code = code) :
    moduleSpellings.canonical code = code := by
  rw [canonical_eq, h]

def writtenRow (organizationId : String) (record : ModuleEntitlementRecord) : EntitlementRow where
  organizationId := organizationId
  moduleCode := normalizeModuleCode record.moduleCode
  licensed := record.licensed
  enabled := record.enabled && record.licensed
  lifecycleStatus := record.lifecycleStatus

theorem upsertForOrganization_eq : upsertForOrganization store organizationId record =
    moduleSpellings.put store (writtenRow organizationId record) := rfl

theorem writtenRow_coherent (h : record.Coherent) :
    (writtenRow organizationId record).Coherent where
  enabled henabled := h.enabled (Bool.and_eq_true_iff.mp henabled).1
  licensed := h.licensed

theorem writtenRow_moduleCode (h : record.Coherent) :
    (writtenRow organizationId record).moduleCode = record.moduleCode := by
  dsimp only [writtenRow]
  exact h.canonical

theorem writtenRow_id (h : record.Coherent) :
    (writtenRow organizationId record).id = (organizationId, record.moduleCode) := by
  rw [EntitlementRow.id, writtenRow_moduleCode h]
  rfl

theorem writtenRow_known (h : record.Coherent) :
    moduleSpellings.Known (writtenRow organizationId record).moduleCode := by
  rw [writtenRow_moduleCode h]
  exact Spellings.known_of_canonical (canonical_of_normalized h.canonical)

theorem stored_upsert (hrecord : record.Coherent) (hcode : normalizeModuleCode code = code) :
    moduleSpellings.stored (upsertForOrganization store organizationId record) other code =
      if (other, code) = (organizationId, record.moduleCode) then
        some (writtenRow organizationId record)
      else moduleSpellings.stored store other code := by
  have hid := @writtenRow_id organizationId record hrecord
  have hrow : moduleSpellings.canonical (writtenRow organizationId record).id.2 =
      (writtenRow organizationId record).id.2 := by
    rw [hid]
    exact canonical_of_normalized hrecord.canonical
  rw [upsertForOrganization_eq, Spellings.stored_put hrow (canonical_of_normalized hcode), hid]

theorem rowsOfOrganization_upsert (h : other ≠ organizationId) :
    rowsOfOrganization (upsertForOrganization store organizationId record) other =
      rowsOfOrganization store other := by
  unfold rowsOfOrganization
  rw [upsertForOrganization_eq, Spellings.filter_rows_put]
  intro row hrow
  have hid : row.id.1 = other := of_decide_eq_true hrow
  rw [hid]
  exact h

theorem mem_upsert {row : EntitlementRow}
    (h : row ∈ (upsertForOrganization store organizationId record).rows) :
    row = writtenRow organizationId record ∨ row ∈ store.rows := by
  rw [upsertForOrganization_eq] at h
  exact (Spellings.mem_put.mp h).imp_right And.left

/-! ## Records of all modules -/

/-- Every module has a record. -/
def Covered (modules : List EnterpriseModule) (store : EntitlementStore)
    (organizationId : String) : Prop :=
  ∀ module ∈ modules, (moduleSpellings.stored store organizationId module.code).isSome = true

variable {records : List ModuleEntitlementRecord}

theorem isSome_stored_upserts (hrecords : ∀ record ∈ records, record.Coherent)
    (hcode : normalizeModuleCode code = code) :
    (moduleSpellings.stored (records.foldl (upsertForOrganization · organizationId ·) store)
        organizationId code).isSome = true ↔
      code ∈ records.map ModuleEntitlementRecord.moduleCode ∨
        (moduleSpellings.stored store organizationId code).isSome = true := by
  induction records generalizing store with
  | nil => simp
  | cons record rest ih =>
      have hrecord := hrecords record List.mem_cons_self
      rw [List.foldl_cons, ih fun other hother => hrecords other (List.mem_cons_of_mem _ hother),
        stored_upsert hrecord hcode, List.map_cons, List.mem_cons]
      by_cases hsame : code = record.moduleCode
      · simp [hsame]
      · simp [hsame]

theorem stored_upserts_of_ne (hrecords : ∀ record ∈ records, record.Coherent)
    (hcode : normalizeModuleCode code = code) (h : other ≠ organizationId) :
    moduleSpellings.stored (records.foldl (upsertForOrganization · organizationId ·) store)
      other code = moduleSpellings.stored store other code := by
  induction records generalizing store with
  | nil => rfl
  | cons record rest ih =>
      have hrest := fun later hlater => hrecords later (List.mem_cons_of_mem _ hlater)
      rw [List.foldl_cons, ih hrest, stored_upsert (hrecords record List.mem_cons_self) hcode]
      simp [h]

theorem rowsOfOrganization_upserts (h : other ≠ organizationId) :
    rowsOfOrganization (records.foldl (upsertForOrganization · organizationId ·) store) other =
      rowsOfOrganization store other := by
  induction records generalizing store with
  | nil => rfl
  | cons record rest ih => rw [List.foldl_cons, ih, rowsOfOrganization_upsert h]

theorem mem_rowsOfOrganization {row : EntitlementRow} :
    row ∈ rowsOfOrganization store organizationId ↔
      row ∈ store.rows ∧ row.organizationId = organizationId := by
  unfold rowsOfOrganization
  rw [List.mem_insertionSort, List.mem_filter, decide_eq_true_iff]

theorem mem_upserts {row : EntitlementRow}
    (h : row ∈ (records.foldl (upsertForOrganization · organizationId ·) store).rows) :
    (∃ record ∈ records, row = writtenRow organizationId record) ∨ row ∈ store.rows := by
  induction records generalizing store with
  | nil => exact Or.inr h
  | cons record rest ih =>
      rcases ih h with ⟨written, hwritten, hrow⟩ | hstored
      · exact Or.inl ⟨written, List.mem_cons_of_mem _ hwritten, hrow⟩
      · rcases mem_upsert hstored with hrow | hold
        · exact Or.inl ⟨record, List.mem_cons_self, hrow⟩
        · exact Or.inr hold

theorem Entitled.upserts (h : Entitled modules store)
    (hcodes : ∀ module ∈ modules, normalizeModuleCode module.code = module.code)
    (hrecords : ∀ record ∈ records, record.Coherent)
    (hcovered : Covered modules
      (records.foldl (upsertForOrganization · organizationId ·) store) organizationId) :
    Entitled modules (records.foldl (upsertForOrganization · organizationId ·) store) where
  known row hrow := by
    rcases mem_upserts hrow with ⟨record, hrecord, rfl⟩ | hold
    · exact writtenRow_known (hrecords record hrecord)
    · exact h.known row hold
  coherent row hrow := by
    rcases mem_upserts hrow with ⟨record, hrecord, rfl⟩ | hold
    · exact writtenRow_coherent (hrecords record hrecord)
    · exact h.coherent row hold
  covered other hother := by
    by_cases hsame : other = organizationId
    · exact hsame ▸ hcovered
    · intro module hmodule
      rw [stored_upserts_of_ne hrecords (hcodes module hmodule) hsame]
      obtain ⟨row, hrow, horganization⟩ := hother
      have hlisted := mem_rowsOfOrganization.mpr ⟨hrow, horganization⟩
      rw [rowsOfOrganization_upserts hsame] at hlisted
      exact h.covered other ⟨row, mem_rowsOfOrganization.mp hlisted⟩ module hmodule

theorem covered_upserts (hrecords : ∀ record ∈ records, record.Coherent)
    (hcodes : ∀ module ∈ modules, normalizeModuleCode module.code = module.code ∧
      module.code ∈ records.map ModuleEntitlementRecord.moduleCode) :
    Covered modules (records.foldl (upsertForOrganization · organizationId ·) store)
      organizationId := by
  intro module hmodule
  obtain ⟨hcode, hlisted⟩ := hcodes module hmodule
  exact (isSome_stored_upserts hrecords hcode).mpr (Or.inl hlisted)

/-- What a call may do that concerns at most one organization. -/
structure Within (modules : List EnterpriseModule) (subject : Option String)
    (store next : EntitlementStore) : Prop where
  entitled : Entitled modules next
  apart : ∀ other, subject ≠ some other →
    rowsOfOrganization next other = rowsOfOrganization store other

theorem Within.upserts {subject : Option String} (h : Within modules subject store next)
    (hsubject : subject = some organizationId)
    (hcodes : ∀ module ∈ modules, normalizeModuleCode module.code = module.code)
    (hrecords : ∀ record ∈ records, record.Coherent)
    (hcovered : Covered modules
      (records.foldl (upsertForOrganization · organizationId ·) next) organizationId) :
    Within modules subject store
      (records.foldl (upsertForOrganization · organizationId ·) next) where
  entitled := h.entitled.upserts hcodes hrecords hcovered
  apart other hother := by
    rw [rowsOfOrganization_upserts, h.apart other hother]
    rintro rfl
    exact hother hsubject

/-! ## What is listed -/

/-- A code has at most one older spelling. -/
theorem length_legacyModuleCodes (code : String) : (legacyModuleCodes code).length ≤ 1 := by
  unfold legacyModuleCodes
  rw [List.length_map]
  exact List.length_filter_le _ _

theorem nodup_moduleCodes (store : EntitlementStore) (organizationId : String) :
    ((rowsOfOrganization store organizationId).map EntitlementRow.moduleCode).Nodup := by
  apply List.Nodup.of_map (fun code => (organizationId, code))
  have hids : ((rowsOfOrganization store organizationId).map EntitlementRow.moduleCode).map
      (fun code => (organizationId, code)) =
        (rowsOfOrganization store organizationId).map EntitlementRow.id := by
    rw [List.map_map]
    apply List.map_congr_left
    intro row hrow
    exact Prod.ext (mem_rowsOfOrganization.mp hrow).2.symm rfl
  rw [hids]
  have hsorted := (List.perm_insertionSort (fun first second : EntitlementRow =>
    first.moduleCode ≤ second.moduleCode) (store.rows.filter fun row =>
      row.organizationId = organizationId)).map EntitlementRow.id
  exact hsorted.nodup_iff.mpr (store.nodup.sublist (List.filter_sublist.map _))

theorem toRecord_moduleCode (row : EntitlementRow) :
    (toRecord row).moduleCode = moduleSpellings.canonical row.moduleCode := by
  rw [canonical_eq, toRecord]

theorem get?_recordsByCode (h : Entitled modules store) (hcode : normalizeModuleCode code = code) :
    (recordsByCode store organizationId).get? code =
      (moduleSpellings.stored store organizationId code).map toRecord := by
  have hlisted : (((rowsOfOrganization store organizationId).find? fun row =>
      row.moduleCode = code).or ((rowsOfOrganization store organizationId).find? fun row =>
        moduleSpellings.canonical row.moduleCode = code)) =
          moduleSpellings.stored store organizationId code :=
    Spellings.find?_eq_stored (length_legacyModuleCodes code) (fun _ => mem_rowsOfOrganization)
      fun row hrow => h.known row (mem_rowsOfOrganization.mp hrow).1
  have hempty : (Table.empty : Table ModuleEntitlementRecord.moduleCode).get? code = none := rfl
  unfold recordsByCode
  rw [Spellings.get?_foldl_enter toRecord_moduleCode (canonical_of_normalized hcode)
    (nodup_moduleCodes store organizationId), ← hlisted, hempty, Option.or_none, Option.map_or]

theorem mem_listAll : record ∈ listAllForOrganization store organizationId ↔
    record ∈ (recordsByCode store organizationId).rows := by
  unfold listAllForOrganization
  rw [List.mem_insertionSort]

/-- What is listed comes from a row, under the canonical code. -/
theorem exists_of_mem_listAll (h : Entitled modules store)
    (hrecord : record ∈ listAllForOrganization store organizationId) :
    normalizeModuleCode record.moduleCode = record.moduleCode ∧
      ∃ row ∈ store.rows, row.organizationId = organizationId ∧ record = toRecord row := by
  rcases Spellings.mem_foldl_enter (mem_listAll.mp hrecord) with hempty | ⟨row, hrow, rfl⟩
  · exact absurd hempty List.not_mem_nil
  · obtain ⟨hstored, horganization⟩ := mem_rowsOfOrganization.mp hrow
    refine ⟨?_, row, hstored, horganization, rfl⟩
    rw [toRecord_moduleCode, ← canonical_eq]
    exact (h.known row hstored).canonical_canonical

theorem find?_listAll (h : Entitled modules store) (hcode : normalizeModuleCode code = code) :
    (listAllForOrganization store organizationId).find? (fun record => record.moduleCode = code) =
      (moduleSpellings.stored store organizationId code).map toRecord := by
  rw [Table.find?_eq_get? fun _ => mem_listAll, get?_recordsByCode h hcode]

theorem Entitled.exists_listed (h : Entitled modules store)
    (hcode : normalizeModuleCode code = code)
    (hstored : (moduleSpellings.stored store organizationId code).isSome = true) :
    ∃ record ∈ listAllForOrganization store organizationId, record.moduleCode = code := by
  rw [← Option.isSome_map, ← find?_listAll h hcode, List.find?_isSome] at hstored
  simpa using hstored

theorem Entitled.covered_of_listed (h : Entitled modules store)
    (hlisted : listAllForOrganization store organizationId ≠ []) :
    Covered modules store organizationId := by
  obtain ⟨record, hrecord⟩ := List.exists_mem_of_ne_nil _ hlisted
  obtain ⟨-, row, hrow, horganization, -⟩ := exists_of_mem_listAll h hrecord
  exact h.covered organizationId ⟨row, hrow, horganization⟩

/-! ## Records that are written -/

theorem provisionedRecord_coherent (licensed enabled : List String)
    (hcode : normalizeModuleCode module.code = module.code) :
    (provisionedRecord licensed enabled module).Coherent where
  canonical := hcode
  enabled henabled := by
    have hlicensed : module.code ∈ licensed := (of_decide_eq_true henabled).2
    simp [provisionedRecord, defaultLifecycleStatus, hlicensed, LifecycleStatus.hasRuntimeAccess]
  licensed := by
    by_cases hlicensed : module.code ∈ licensed <;>
      simp [provisionedRecord, defaultLifecycleStatus, hlicensed]

theorem licensedRecord_coherent {enabledGiven : Option Bool} {enabled : Bool}
    {status : LifecycleStatus} (hcode : normalizeModuleCode module.code = module.code)
    (h : licensedRecord module enabledGiven enabled status = .ok record) : record.Coherent := by
  unfold licensedRecord at h
  dsimp only at h
  have hactive : (if status = .inactive then defaultLifecycleStatus true else status) ≠
      .inactive := by
    cases status <;> simp [defaultLifecycleStatus]
  generalize (if status = .inactive then defaultLifecycleStatus true else status) = effective
    at h hactive
  split at h
  next haccess =>
    cases h
    exact ⟨hcode, fun _ => ⟨rfl, haccess⟩, fun _ => hactive, fun _ => rfl⟩
  next =>
    obtain ⟨_, -, h⟩ := bind_ok h
    cases h
    constructor <;> simp [hcode, hactive]

/-- Whatever is asked for, what is enabled is licensed and has access. -/
theorem nextRecord_coherent {current : ModuleEntitlement} {change : ModuleStateChange}
    (hcode : normalizeModuleCode module.code = module.code)
    (h : nextRecord module current change = .ok record) : record.Coherent := by
  unfold nextRecord at h
  dsimp only at h
  obtain ⟨status, -, h⟩ := bind_ok h
  iterate 3 obtain ⟨_, -, h⟩ := bind_ok h
  split at h
  next => exact licensedRecord_coherent hcode h
  next =>
    cases h
    constructor <;> simp [hcode]

end

/-! ## First use -/

namespace ModuleServices

variable {services : ModuleServices} {store : EntitlementStore} {organizationId : String}
  {module : EnterpriseModule}

/-- The store after an organization was first used. -/
def defaulted (services : ModuleServices) (store : EntitlementStore) : EntitlementStore :=
  match services.activeOrganizationId with
  | some id =>
      if listAllForOrganization store id = [] then
        (services.catalog.modules.map services.defaultRecord).foldl (upsertForOrganization · id ·)
          store
      else store
  | none => store

/-- What a call in the active organization may do. -/
abbrev Kept (services : ModuleServices) (start next : EntitlementStore) : Prop :=
  Within services.catalog.modules services.activeOrganizationId start next

theorem foldlM_upsert (hactive : services.activeOrganizationId = some organizationId)
    (modules : List EnterpriseModule) (store : EntitlementStore) :
    modules.foldlM (fun store module => services.upsert (services.defaultRecord module) store)
      store = .ok ((modules.map services.defaultRecord).foldl
        (upsertForOrganization · organizationId ·) store) := by
  induction modules generalizing store with
  | nil => rfl
  | cons module rest ih =>
      have hwritten : services.upsert (services.defaultRecord module) store =
          .ok (upsertForOrganization store organizationId (services.defaultRecord module)) := by
        rw [upsert, hactive]
      rw [List.foldlM_cons, hwritten]
      exact ih _

theorem listAll_of_active (hactive : services.activeOrganizationId = some organizationId) :
    services.listAll store = listAllForOrganization store organizationId := by
  rw [listAll, hactive]

/-- In an organization the records are read, and written first where there are none. -/
theorem ensureContextDefaults_run (hactive : services.activeOrganizationId = some organizationId) :
    services.ensureContextDefaults (.clean store) =
      (.ok (listAllForOrganization (services.defaulted store) organizationId),
        .clean (services.defaulted store)) := by
  have hread : ∀ state : EntitlementStore,
      (Program.read services.listAll : ModuleProgram _) (.clean state) =
        (.ok (listAllForOrganization state organizationId), .clean state) := by
    intro state
    rw [← listAll_of_active hactive]
    rfl
  unfold ensureContextDefaults defaulted
  rw [Program.bind_of_ok (hread store), hactive]
  by_cases hempty : listAllForOrganization store organizationId = []
  · have hwritten : services.saveDefaults store = .ok _ :=
      foldlM_upsert hactive services.catalog.modules store
    rw [if_neg (not_not_intro hempty), Program.bind_of_ok (Program.save_of_ok hwritten), hread]
    simp [hempty]
  · simp [hempty]
    rfl

theorem defaultRecord_coherent (hcode : normalizeModuleCode module.code = module.code) :
    (services.defaultRecord module).Coherent :=
  provisionedRecord_coherent services.catalog.licensedCodes services.catalog.enabledCodes hcode

variable (hcodes : ∀ module ∈ services.catalog.modules,
  normalizeModuleCode module.code = module.code)

include hcodes

theorem within_defaulted {start : EntitlementStore}
    (h : services.Kept start store) :
    services.Kept start (services.defaulted store) ∧
      ∀ id ∈ services.activeOrganizationId,
        Covered services.catalog.modules (services.defaulted store) id := by
  unfold ModuleServices.defaulted
  cases hactive : services.activeOrganizationId with
  | none => simpa [hactive] using h
  | some id =>
      simp only [Option.mem_some_iff, forall_eq']
      split
      next =>
        have hrecords : ∀ record ∈ services.catalog.modules.map services.defaultRecord,
            record.Coherent := by
          simpa using fun module hmodule => defaultRecord_coherent (hcodes module hmodule)
        have hcovered := @covered_upserts store id services.catalog.modules _ hrecords
          fun module hmodule =>
            ⟨hcodes module hmodule, List.mem_map_of_mem (List.mem_map_of_mem hmodule)⟩
        exact ⟨h.upserts hactive hcodes hrecords hcovered, hcovered⟩
      next hlisted => exact ⟨h, h.entitled.covered_of_listed hlisted⟩

omit hcodes in
/-- Without an organization nothing is read, and nothing can be written. -/
theorem ensureContextDefaults_inactive (hactive : services.activeOrganizationId = none)
    (hmodules : services.catalog.modules ≠ []) :
    services.ensureContextDefaults (.clean store) = (.error (.runtime
      "Active organization context is required for module entitlements."), .clean store) := by
  obtain ⟨module, rest, hrest⟩ := List.exists_cons_of_ne_nil hmodules
  have hread : (Program.read services.listAll : ModuleProgram _) (.clean store) =
      (.ok [], .clean store) := by
    have hlisted : services.listAll store = [] := by rw [listAll, hactive]
    rw [← hlisted]
    rfl
  have hrefused : services.saveDefaults store = .error (.runtime
      "Active organization context is required for module entitlements.") := by
    rw [saveDefaults, hrest, List.foldlM_cons, upsert, hactive]
    rfl
  unfold ensureContextDefaults
  rw [Program.bind_of_ok hread, if_neg (not_not_intro rfl)]
  apply Program.bind_of_error
  change (Program.step _ >>= fun _ => Program.commit Except.ok) _ = _
  exact Program.bind_of_error (Program.step_of_error hrefused)

omit hcodes in
theorem saveDefaults_inactive {next : EntitlementStore}
    (hactive : services.activeOrganizationId = none)
    (h : services.saveDefaults store = .ok next) : next = store := by
  unfold saveDefaults at h
  cases hmodules : services.catalog.modules with
  | nil =>
      rw [hmodules] at h
      exact (Except.ok.inj h).symm
  | cons module rest =>
      rw [hmodules, List.foldlM_cons, upsert, hactive] at h
      cases h

theorem settles_ensureContextDefaults {start : EntitlementStore}
    (h : services.Kept start store) :
    services.ensureContextDefaults.Settles store
      (fun _ next =>
        services.Kept start next ∧
          ∀ id ∈ services.activeOrganizationId, Covered services.catalog.modules next id)
      fun _ next => services.Kept start next := by
  cases hactive : services.activeOrganizationId with
  | some id =>
      unfold Program.Settles Program.Spec
      rw [ensureContextDefaults_run hactive, ← hactive]
      exact ⟨_, rfl, within_defaulted hcodes h⟩
  | none =>
      have hlisted : services.listAll store = [] := by rw [listAll, hactive]
      refine Program.Settles.bind (Program.settles_read.mpr ?_)
      rw [hlisted, if_neg (not_not_intro rfl)]
      refine Program.Settles.bind (Program.settles_save.mpr ⟨?_, fun _ _ => h⟩)
      intro next hnext
      obtain rfl := saveDefaults_inactive hactive hnext
      exact Program.settles_read.mpr ⟨h, fun _ hid => absurd hid (Option.not_mem_none _)⟩

/-! ## Calls -/

variable {start : EntitlementStore} {moduleCode : String}

theorem settles_effectiveCodes
    (h : services.Kept start store) :
    services.effectiveCodes.Settles store
      (fun _ next => services.Kept start next)
      fun _ next => services.Kept start next := by
  refine Program.Settles.bind ((settles_ensureContextDefaults hcodes h).mono ?_ fun _ _ => id)
  intro records next hnext
  split <;> exact Program.settles_pure.mpr hnext.1

theorem settles_getEntitlement
    (h : services.Kept start store) :
    (services.getEntitlement moduleCode).Settles store
      (fun found next =>
        services.Kept start next ∧
          (found.isSome = true → ∀ id ∈ services.activeOrganizationId,
            Covered services.catalog.modules next id))
      fun _ next => services.Kept start next := by
  unfold getEntitlement
  cases services.findModule moduleCode with
  | none => simpa using h
  | some module =>
      refine Program.Settles.bind (Program.Settles.bind
        ((settles_ensureContextDefaults hcodes h).mono ?_ fun _ _ => id))
      intro records next hnext
      exact Program.settles_pure.mpr (Program.settles_pure.mpr ⟨hnext.1, fun _ => hnext.2⟩)

omit hcodes in
theorem raising_eq_ok {α : Type} {result : Except DomainError α} {value : α} :
    raising result = .ok value ↔ result = .ok value := by
  cases result <;> simp [raising, Except.mapError]

omit hcodes in
theorem upsert_eq_ok {record : ModuleEntitlementRecord} {next : EntitlementStore} :
    services.upsert record store = .ok next ↔ ∃ id, services.activeOrganizationId = some id ∧
      next = upsertForOrganization store id record := by
  unfold upsert
  cases services.activeOrganizationId <;> simp [eq_comm]

theorem settles_setModuleState {change : ModuleStateChange}
    (h : services.Kept start store) :
    (services.setModuleState moduleCode change).Settles store
      (fun _ next => services.Kept start next)
      fun _ next => services.Kept start next := by
  refine Program.Settles.bind (Program.settles_check.mpr ⟨fun _ _ => ?_, fun _ _ => h⟩)
  refine Program.Settles.bind (Program.settles_check.mpr ⟨fun module hmodule => ?_, fun _ _ => h⟩)
  refine Program.Settles.bind ((settles_getEntitlement hcodes h).mono ?_ fun _ _ => id)
  rintro found next ⟨hnext, hcovered⟩
  refine Program.Settles.bind (Program.settles_check.mpr
    ⟨fun current hcurrent => ?_, fun _ _ => hnext⟩)
  refine Program.Settles.bind (Program.settles_check.mpr
    ⟨fun record hrecord => ?_, fun _ _ => hnext⟩)
  refine Program.Settles.bind (Program.settles_save.mpr ⟨fun saved hsaved => ?_, fun _ _ => hnext⟩)
  obtain ⟨active, hactive, rfl⟩ := upsert_eq_ok.mp hsaved
  have hmember := List.mem_of_find?_eq_some (require_eq_ok.mp (raising_eq_ok.mp hmodule))
  have hrecords : ∀ written ∈ [record], written.Coherent := by
    simpa using nextRecord_coherent (hcodes module hmember) (raising_eq_ok.mp hrecord)
  have hfound : found.isSome = true := by
    rw [require_eq_ok.mp (raising_eq_ok.mp hcurrent)]
    rfl
  have hwritten : services.Kept start ([record].foldl (upsertForOrganization · active ·) next) := by
    refine hnext.upserts hactive hcodes hrecords fun other hother => ?_
    rw [isSome_stored_upserts hrecords (hcodes other hother)]
    exact Or.inr (hcovered hfound active hactive other hother)
  refine Program.Settles.bind ((settles_getEntitlement hcodes hwritten).mono ?_ fun _ _ => id)
  rintro shown last ⟨hlast, -⟩
  exact Program.settles_check.mpr ⟨fun _ _ => hlast, fun _ _ => hlast⟩

theorem settles_requireModuleEnabled {operationLabel : Option String}
    (h : services.Kept start store) :
    (services.requireModuleEnabled moduleCode operationLabel).Settles store
      (fun _ next => services.Kept start next) fun _ next => services.Kept start next := by
  refine Program.Settles.bind ((settles_getEntitlement hcodes h).mono ?_ fun _ _ => id)
  rintro found next ⟨hnext, -⟩
  exact Program.settles_check.mpr ⟨fun _ _ => hnext, fun _ _ => hnext⟩

omit hcodes in
theorem selectProvision_id {id : String} {licensedModuleCodes licensed enabled : List String}
    {enabledModuleCodes : Option (List String)}
    (h : services.selectProvision organizationId licensedModuleCodes enabledModuleCodes =
      .ok (id, licensed, enabled)) : strip organizationId = id := by
  iterate 6 obtain ⟨_, -, h⟩ := bind_ok h
  exact congrArg Prod.fst (Except.ok.inj h)

theorem settles_provision {licensedModuleCodes : List String}
    {enabledModuleCodes : Option (List String)}
    (h : Entitled services.catalog.modules store) :
    (services.provisionOrganizationEntitlements organizationId licensedModuleCodes
      enabledModuleCodes).Settles store
      (fun _ next =>
        Within services.catalog.modules (some (strip organizationId)) store next)
      fun _ next => Within services.catalog.modules (some (strip organizationId)) store next := by
  have hkept : Within services.catalog.modules (some (strip organizationId)) store store :=
    ⟨h, fun _ _ => rfl⟩
  refine Program.Settles.bind (Program.settles_check.mpr ⟨?_, fun _ _ => hkept⟩)
  rintro ⟨id, licensed, enabled⟩ hselected
  obtain rfl := selectProvision_id (raising_eq_ok.mp hselected)
  refine Program.Settles.bind (Program.settles_save.mpr ⟨fun next hnext => ?_, fun _ _ => hkept⟩)
  cases hnext
  have hrecords : ∀ record ∈ services.catalog.modules.map (provisionedRecord licensed enabled),
      record.Coherent := by
    simpa using fun module hmodule =>
      provisionedRecord_coherent licensed enabled (hcodes module hmodule)
  have hcovered := @covered_upserts store (strip organizationId) services.catalog.modules _ hrecords
    fun module hmodule =>
      ⟨hcodes module hmodule, List.mem_map_of_mem (List.mem_map_of_mem hmodule)⟩
  have hwritten := hkept.upserts rfl hcodes hrecords hcovered
  rw [List.foldl_map] at hwritten
  exact Program.settles_read.mpr hwritten

end ModuleServices

variable {modules : List EnterpriseModule}

theorem ModuleCall.within_run (call : ModuleCall) {store : EntitlementStore}
    (hcatalog : call.services.catalog.modules = modules)
    (hcodes : ∀ module ∈ modules, normalizeModuleCode module.code = module.code)
    (h : Entitled modules store) :
    ∃ last, (call.run (.clean store)).2 = .clean last ∧
      Within modules call.subject store last := by
  subst hcatalog
  have hkept : call.services.Kept store store := ⟨h, fun _ _ => rfl⟩
  cases call with
  | bootstrapDefaults services =>
      exact ((services.settles_ensureContextDefaults hcodes hkept).mono
        (fun _ _ hnext => hnext.1) fun _ _ => id).outcome
  | isLicensed services moduleCode | isEnabled services moduleCode =>
      refine (Program.Settles.bind ((services.settles_effectiveCodes hcodes hkept).mono ?_
        fun _ _ => id)).outcome
      exact fun _ _ hnext => Program.settles_pure.mpr hnext
  | getEntitlement services moduleCode =>
      exact ((services.settles_getEntitlement hcodes hkept).mono
        (fun _ _ hnext => hnext.1) fun _ _ => id).outcome
  | requireModuleEnabled services moduleCode operationLabel =>
      exact (services.settles_requireModuleEnabled hcodes hkept).outcome
  | setModuleState services moduleCode change =>
      exact (services.settles_setModuleState hcodes hkept).outcome
  | provision services organizationId licensedModuleCodes enabledModuleCodes =>
      exact (services.settles_provision hcodes h).outcome

theorem entitled_run (calls : List ModuleCall) {start : EntitlementStore}
    (hcatalog : ∀ call ∈ calls, call.services.catalog.modules = modules)
    (hcodes : ∀ module ∈ modules, normalizeModuleCode module.code = module.code)
    (h : Entitled modules start) :
    ∃ last, sessionAfter ModuleCall.run (.clean start) calls = .clean last ∧
      Entitled modules last ∧
      ∀ other, (∀ call ∈ calls, call.subject ≠ some other) →
        rowsOfOrganization last other = rowsOfOrganization start other := by
  induction calls generalizing start with
  | nil => exact ⟨start, rfl, h, fun _ _ => rfl⟩
  | cons call rest ih =>
      obtain ⟨hcall, hrest⟩ := List.forall_mem_cons.mp hcatalog
      obtain ⟨middle, hmiddle, hwithin⟩ := call.within_run hcall hcodes h
      obtain ⟨last, hlast, hentitled, hapart⟩ := ih hrest hwithin.entitled
      refine ⟨last, (sessionAfter_cons hmiddle rest).trans hlast, hentitled, ?_⟩
      intro other hother
      obtain ⟨hsubject, hlater⟩ := List.forall_mem_cons.mp hother
      rw [hapart other hlater, hwithin.apart other hsubject]

/-- Whatever calls are made for whatever organizations, an organization has no records or one for
every module, what is enabled is licensed and has access, and organizations that no call is about
keep their records. -/
theorem entitlements_kept (calls : List ModuleCall) {start : EntitlementStore}
    (hcatalog : ∀ call ∈ calls, call.services.catalog.modules = modules)
    (hcodes : ∀ module ∈ modules, normalizeModuleCode module.code = module.code)
    (h : Entitled modules start) :
    ∃ last, sessionAfter ModuleCall.run (.clean start) calls = .clean last ∧
      Entitled modules last ∧
      (∀ organizationId, listAllForOrganization last organizationId ≠ [] →
        ∀ module ∈ modules, ∃ record ∈ listAllForOrganization last organizationId,
          record.moduleCode = module.code) ∧
      (∀ organizationId, ∀ record ∈ listAllForOrganization last organizationId,
        record.enabled = true →
          record.licensed = true ∧ record.lifecycleStatus.hasRuntimeAccess = true) ∧
      ∀ other, (∀ call ∈ calls, call.subject ≠ some other) →
        listAllForOrganization last other = listAllForOrganization start other := by
  obtain ⟨last, hlast, hentitled, hapart⟩ := entitled_run calls hcatalog hcodes h
  refine ⟨last, hlast, hentitled, ?_, ?_, ?_⟩
  · intro organizationId hlisted module hmodule
    exact hentitled.exists_listed (hcodes module hmodule)
      (hentitled.covered_of_listed hlisted module hmodule)
  · intro organizationId record hrecord henabled
    obtain ⟨-, row, hrow, -, rfl⟩ := exists_of_mem_listAll hentitled hrecord
    exact (hentitled.coherent row hrow).enabled (Bool.and_eq_true_iff.mp henabled).1
  · intro other hother
    unfold listAllForOrganization recordsByCode
    rw [hapart other hother]

def plantServices : ModuleServices where
  catalog := installedCatalog none none
  userSession := .admin
  activeOrganization := some "plant"

/-- The plant stores its module of people under the older code. -/
def plantEntitlements : EntitlementStore where
  rows := [
    ⟨"plant", "inventory_procurement", false, false, .inactive⟩,
    ⟨"plant", "maintenance_management", true, false, .suspended⟩,
    ⟨"plant", "payroll", false, false, .inactive⟩,
    ⟨"plant", "project_management", true, true, .active⟩,
    ⟨"plant", "qhse", false, false, .inactive⟩]
  nodup := by decide

def plantCalls : List ModuleCall :=
  [.setModuleState plantServices "Maintenance_Management" { lifecycleStatus := some "trial" },
    .provision plantServices " depot " ["project_management"] none]

theorem plantEntitlements_entitled : Entitled defaultEnterpriseModules plantEntitlements where
  known := by
    unfold Spellings.Known
    decide
  coherent := by decide
  covered := by
    have hplant : ∀ row ∈ plantEntitlements.rows, ∀ module ∈ defaultEnterpriseModules,
        (moduleSpellings.stored plantEntitlements row.organizationId module.code).isSome =
          true := by
      decide
    rintro organizationId ⟨row, hrow, rfl⟩
    exact hplant row hrow

theorem entitlements_kept_plant :
    ∃ last, sessionAfter ModuleCall.run (.clean plantEntitlements) plantCalls = .clean last ∧
      Entitled defaultEnterpriseModules last ∧
      (∀ organizationId, listAllForOrganization last organizationId ≠ [] →
        ∀ module ∈ defaultEnterpriseModules,
          ∃ record ∈ listAllForOrganization last organizationId, record.moduleCode = module.code) ∧
      (∀ organizationId, ∀ record ∈ listAllForOrganization last organizationId,
        record.enabled = true →
          record.licensed = true ∧ record.lifecycleStatus.hasRuntimeAccess = true) ∧
      ∀ other, (∀ call ∈ plantCalls, call.subject ≠ some other) →
        listAllForOrganization last other = listAllForOrganization plantEntitlements other :=
  entitlements_kept plantCalls (by decide) (by decide) plantEntitlements_entitled

/-! ## Answers -/

/-- The answers to all questions about a module, and the store that they leave. -/
structure ModuleServices.Answers (services : ModuleServices) (store next : EntitlementStore)
    (moduleCode : String) (operationLabel : Option String)
    (found : Except ModuleError ModuleEntitlement) : Prop where
  getEntitlement : services.getEntitlement moduleCode (.clean store) =
    (found.map some, .clean next)
  isLicensed : services.isLicensed moduleCode (.clean store) =
    (found.map ModuleEntitlement.licensed, .clean next)
  isEnabled : services.isEnabled moduleCode (.clean store) =
    (found.map ModuleEntitlement.runtimeEnabled, .clean next)
  requireModuleEnabled : services.requireModuleEnabled moduleCode operationLabel (.clean store) =
    (found.bind fun entitlement => raising (ensure (entitlement.runtimeEnabled = true)
      (businessRuleError (moduleDisabledMessage (entitlement.module.shownLabel moduleCode)
        (strip (orElse (operationLabel.getD "") "access this feature"))
        entitlement.lifecycleStatus) "MODULE_DISABLED")), .clean next)

section

variable {services : ModuleServices} {store : EntitlementStore} {organizationId code : String}
  {record : ModuleEntitlementRecord} {module : EnterpriseModule} {moduleCode : String}

/-- The codes of the records that satisfy a condition. -/
theorem mem_codes_iff {modules : List EnterpriseModule} (h : Entitled modules store)
    (p : ModuleEntitlementRecord → Bool)
    (hrecord : record ∈ listAllForOrganization store organizationId) :
    record.moduleCode ∈ ((listAllForOrganization store organizationId).filter p).map
      (fun record => normalizeModuleCode record.moduleCode) ↔ p record = true := by
  rw [List.mem_map]
  constructor
  · rintro ⟨other, hother, hcode⟩
    obtain ⟨hlisted, hp⟩ := List.mem_filter.mp hother
    rw [(exists_of_mem_listAll h hlisted).1] at hcode
    rwa [(recordsByCode store organizationId).eq_of_key_eq (mem_listAll.mp hrecord)
      (mem_listAll.mp hlisted) hcode.symm]
  · intro hp
    exact ⟨record, List.mem_filter.mpr ⟨hrecord, hp⟩, (exists_of_mem_listAll h hrecord).1⟩

theorem ModuleServices.effectiveCodes_run
    (hactive : services.activeOrganizationId = some organizationId)
    (hlisted : listAllForOrganization (services.defaulted store) organizationId ≠ []) :
    services.effectiveCodes (.clean store) =
      (.ok (((listAllForOrganization (services.defaulted store) organizationId).filter
          ModuleEntitlementRecord.licensed).map fun record => normalizeModuleCode record.moduleCode,
        ((listAllForOrganization (services.defaulted store) organizationId).filter fun record =>
          record.licensed && record.enabled && record.lifecycleStatus.hasRuntimeAccess).map
            fun record => normalizeModuleCode record.moduleCode),
        .clean (services.defaulted store)) := by
  unfold effectiveCodes
  rw [Program.bind_of_ok (ensureContextDefaults_run hactive), if_neg hlisted]
  rfl

theorem ModuleServices.answers_of_active
    (hcodes : ∀ module ∈ services.catalog.modules, normalizeModuleCode module.code = module.code)
    (h : Entitled services.catalog.modules store)
    (hactive : services.activeOrganizationId = some organizationId)
    (hfound : services.findModule moduleCode = some module) (operationLabel : Option String) :
    ∃ record ∈ listAllForOrganization (services.defaulted store) organizationId,
      record.moduleCode = module.code ∧
        services.Answers store (services.defaulted store) moduleCode operationLabel
          (.ok ⟨module, record.licensed, record.enabled, record.lifecycleStatus⟩) := by
  have hmodule := List.mem_of_find?_eq_some hfound
  have hcode : module.code = normalizeModuleCode moduleCode := by
    simpa using List.find?_some hfound
  have hkept : services.Kept store store := ⟨h, fun _ _ => rfl⟩
  obtain ⟨hnext, hcovered⟩ := services.within_defaulted hcodes hkept
  obtain ⟨record, hrecord, hsame⟩ := hnext.entitled.exists_listed (hcodes module hmodule)
    (hcovered organizationId hactive module hmodule)
  have hlisted := List.ne_nil_of_mem hrecord
  have hshown : (listAllForOrganization (services.defaulted store) organizationId).find?
      (fun record => record.moduleCode = module.code) = some record := by
    rw [Table.find?_eq_get? fun _ => mem_listAll, ← hsame]
    exact Table.get?_of_mem _ (mem_listAll.mp hrecord)
  have hentitlement : services.getEntitlement moduleCode (.clean store) =
      (.ok (some ⟨module, record.licensed, record.enabled, record.lifecycleStatus⟩),
        .clean (services.defaulted store)) := by
    have hbuilt : services.buildEntitlement module (.clean store) =
        (.ok ⟨module, record.licensed, record.enabled, record.lifecycleStatus⟩,
          .clean (services.defaulted store)) := by
      unfold buildEntitlement
      rw [Program.bind_of_ok (ensureContextDefaults_run hactive), entitlementFrom, hshown]
      rfl
    rw [getEntitlement, hfound]
    exact Program.bind_of_ok hbuilt
  have hcodesRun := effectiveCodes_run hactive hlisted
  refine ⟨record, hrecord, hsame, hentitlement, ?_, ?_, ?_⟩
  · rw [isLicensed, Program.bind_of_ok hcodesRun, ← hcode, ← hsame]
    refine Prod.ext (congrArg Except.ok ?_) rfl
    exact Bool.eq_iff_iff.mpr
      (decide_eq_true_iff.trans (mem_codes_iff hnext.entitled _ hrecord))
  · rw [isEnabled, Program.bind_of_ok hcodesRun, ← hcode, ← hsame]
    refine Prod.ext (congrArg Except.ok ?_) rfl
    exact Bool.eq_iff_iff.mpr
      (decide_eq_true_iff.trans (mem_codes_iff hnext.entitled _ hrecord))
  · rw [requireModuleEnabled, Program.bind_of_ok hentitlement]
    rfl

theorem ModuleServices.answers_of_inactive (hactive : services.activeOrganizationId = none)
    (hfound : services.findModule moduleCode = some module) (operationLabel : Option String) :
    services.Answers store store moduleCode operationLabel (.error (.runtime
      "Active organization context is required for module entitlements.")) := by
  have hmodules := List.ne_nil_of_mem (List.mem_of_find?_eq_some hfound)
  have hrefused := @ensureContextDefaults_inactive services store hactive hmodules
  have hcodes : services.effectiveCodes (.clean store) = (.error (.runtime
      "Active organization context is required for module entitlements."), .clean store) :=
    Program.bind_of_error hrefused
  have hentitlement : services.getEntitlement moduleCode (.clean store) = (.error (.runtime
      "Active organization context is required for module entitlements."), .clean store) := by
    rw [getEntitlement, hfound]
    exact Program.bind_of_error (Program.bind_of_error hrefused)
  exact ⟨hentitlement, Program.bind_of_error hcodes, Program.bind_of_error hcodes,
    Program.bind_of_error hentitlement⟩

theorem ModuleServices.defaulted_defaulted
    (hactive : services.activeOrganizationId = some organizationId)
    (hlisted : listAllForOrganization (services.defaulted store) organizationId ≠ []) :
    services.defaulted (services.defaulted store) = services.defaulted store := by
  generalize services.defaulted store = next at hlisted
  unfold defaulted
  rw [hactive]
  exact if_neg hlisted

theorem runtimeEnabled_of_listed {modules : List EnterpriseModule} (h : Entitled modules store)
    (hrecord : record ∈ listAllForOrganization store organizationId) :
    record.enabled = (ModuleEntitlement.mk module record.licensed record.enabled
      record.lifecycleStatus).runtimeEnabled := by
  obtain ⟨-, row, hrow, -, rfl⟩ := exists_of_mem_listAll h hrecord
  have hcoherent := (h.coherent row hrow).enabled
  unfold ModuleEntitlement.runtimeEnabled toRecord
  cases henabled : row.enabled with
  | false => simp
  | true => simp [hcoherent henabled]

end

/-- After every run of calls all questions about a module, under any of its spellings, have one
answer, and asking changes no answer. -/
theorem answers_agree (calls : List ModuleCall) {start : EntitlementStore}
    (hcatalog : ∀ call ∈ calls, call.services.catalog.modules = modules)
    (hcodes : ∀ module ∈ modules, normalizeModuleCode module.code = module.code)
    (h : Entitled modules start) {services : ModuleServices}
    (hservices : services.catalog.modules = modules) {moduleCode : String}
    {module : EnterpriseModule} (hfound : services.findModule moduleCode = some module)
    (operationLabel : Option String) :
    ∃ store found next, sessionAfter ModuleCall.run (.clean start) calls = .clean store ∧
      services.Answers store next moduleCode operationLabel found ∧
      services.Answers next next moduleCode operationLabel found ∧
      ∀ entitlement, found = .ok entitlement →
        entitlement.module = module ∧ entitlement.enabled = entitlement.runtimeEnabled := by
  subst hservices
  obtain ⟨store, hstore, hentitled, -⟩ := entitled_run calls hcatalog hcodes h
  cases hactive : services.activeOrganizationId with
  | none =>
      have hanswers := @services.answers_of_inactive store module moduleCode hactive hfound
        operationLabel
      refine ⟨store, _, store, hstore, hanswers, hanswers, ?_⟩
      intro entitlement hentitlement
      cases hentitlement
  | some organizationId =>
      have hkept : services.Kept store store := ⟨hentitled, fun _ _ => rfl⟩
      have hnext := (services.within_defaulted hcodes hkept).1.entitled
      obtain ⟨record, hrecord, hcode, hanswers⟩ :=
        services.answers_of_active hcodes hentitled hactive hfound operationLabel
      obtain ⟨again, hagain, hsame, hanswered⟩ :=
        services.answers_of_active hcodes hnext hactive hfound operationLabel
      rw [services.defaulted_defaulted hactive (List.ne_nil_of_mem hrecord)] at hagain hanswered
      obtain rfl : again = record := (recordsByCode _ organizationId).eq_of_key_eq
        (mem_listAll.mp hagain) (mem_listAll.mp hrecord) (hsame.trans hcode.symm)
      refine ⟨store, _, _, hstore, hanswers, hanswered, ?_⟩
      intro entitlement hentitlement
      cases hentitlement
      exact ⟨rfl, runtimeEnabled_of_listed hnext hrecord⟩

theorem answers_agree_plant :
    ∃ store found next,
      sessionAfter ModuleCall.run (.clean plantEntitlements) plantCalls = .clean store ∧
      plantServices.Answers store next " Payroll" none found ∧
      plantServices.Answers next next " Payroll" none found ∧
      ∀ entitlement, found = .ok entitlement →
        entitlement.module = { code := "hr_management", label := "HR Management" } ∧
          entitlement.enabled = entitlement.runtimeEnabled :=
  answers_agree plantCalls (by decide) (by decide) plantEntitlements_entitled rfl (by decide) none

end ProjectManager.Org
