import Mathlib.Algebra.Order.BigOperators.Group.List
import ProjectManager.Foundation.Upserts
import ProjectManager.MasterData.Exchange

/-! # Previews and imports

An import upserts its rows by their codes. The preview judges each row by the codes
that are stored before the import, so that it misses the codes that earlier rows
of the file add.
-/

namespace ProjectManager.MasterData

open Foundation Org

/-! ## What becomes of the rows -/

def shownAction : UpsertAction → PreviewAction
  | .created => .create
  | .updated => .update
  | .rejected => .skip

theorem shownAction_injective : Function.Injective shownAction := by
  intro first second h
  cases first <;> cases second <;> first | rfl | cases h

def outcomeAction : RowOutcome → PreviewAction
  | .created => .create
  | .updated => .update

namespace MasterDataImporter

variable (importer : MasterDataImporter)

/-- What an import does with each of the rows. -/
def importActions (store : MasterDataStore) : List ImportSourceRow → List PreviewAction
  | [] => []
  | row :: rest =>
      match importer.importRow store row with
      | .error _ => .skip :: importActions store rest
      | .ok (next, outcome) => outcomeAction outcome :: importActions next rest

/-- The code of a row that is not rejected. -/
def rowKey (store : MasterDataStore) (row : ImportSourceRow) : Option String :=
  if (strip (row.values importer.codeKey) ≠ "" ∧ strip (row.values importer.nameKey) ≠ "") ∧
      (importer.previewChecks store row).isOk = true then
    some (upper (strip (row.values importer.codeKey)))
  else none

/-- The same codes are accepted on both stores. -/
def SameFinds (store next : MasterDataStore) : Prop :=
  ∀ code, (importer.find next code).isOk = (importer.find store code).isOk

/-- A row adds its code to the stored ones, or updates the record with the code. -/
structure Upserting (codes : MasterDataStore → List String) : Prop where
  find : ∀ {store : MasterDataStore} {code existing}, importer.find store code = .ok existing →
    (existing.isSome = true ↔ upper (strip code) ∈ codes store)
  create : ∀ {store} {row : ImportSourceRow} {payload}, importer.parse row.values = .ok payload →
    strip (row.values importer.nameKey) ≠ "" →
    importer.find store (strip (row.values importer.codeKey)) = .ok none →
      ∃ next, importer.create store (strip (row.values importer.codeKey)) payload = .ok next ∧
        codes next = upper (strip (row.values importer.codeKey)) :: codes store ∧
          importer.SameFinds store next
  update : ∀ {store} {row : ImportSourceRow} {payload entity}, importer.parse row.values = .ok payload →
    strip (row.values importer.nameKey) ≠ "" →
    importer.find store (strip (row.values importer.codeKey)) = .ok (some entity) →
      ∃ next, importer.update store entity payload = .ok next ∧ codes next = codes store ∧
        importer.SameFinds store next

variable {importer} {store next : MasterDataStore} {row : ImportSourceRow}
  {rows : List ImportSourceRow} {codes : MasterDataStore → List String}

theorem previewChecks_eq_ok {existing : Option importer.Entity} :
    importer.previewChecks store row = .ok existing ↔
      importer.find store (strip (row.values importer.codeKey)) = .ok existing ∧
        ∃ payload, importer.parse row.values = .ok payload := by
  unfold previewChecks
  rw [bind_eq_ok]
  constructor
  · rintro ⟨found, hfound, h⟩
    obtain ⟨payload, hpayload, h⟩ := bind_ok h
    obtain rfl := Except.ok.inj h
    exact ⟨hfound, payload, hpayload⟩
  · rintro ⟨hfound, payload, hpayload⟩
    exact ⟨existing, hfound, bind_eq_ok.mpr ⟨payload, hpayload, rfl⟩⟩

theorem isOk_previewChecks : (importer.previewChecks store row).isOk = true ↔
    (importer.find store (strip (row.values importer.codeKey))).isOk = true ∧
      (importer.parse row.values).isOk = true := by
  simp only [isOk_iff, previewChecks_eq_ok]
  constructor
  · rintro ⟨existing, hfound, hparsed⟩
    exact ⟨⟨existing, hfound⟩, hparsed⟩
  · rintro ⟨⟨existing, hfound⟩, hparsed⟩
    exact ⟨existing, hfound, hparsed⟩

theorem SameFinds.rowKey (h : importer.SameFinds store next) (row : ImportSourceRow) :
    importer.rowKey next row = importer.rowKey store row := by
  unfold MasterDataImporter.rowKey
  simp only [isOk_previewChecks, h _]

namespace Upserting

theorem previewRow_action (h : importer.Upserting codes) (store : MasterDataStore)
    (row : ImportSourceRow) :
    (importer.previewRow store row).action =
      shownAction (.of (codes store) (importer.rowKey store row)) := by
  unfold previewRow rowKey
  by_cases hcode : strip (row.values importer.codeKey) = ""
  · simp [hcode, previewErrorRow, UpsertAction.of, shownAction]
  by_cases hname : strip (row.values importer.nameKey) = ""
  · simp [hcode, hname, previewErrorRow, UpsertAction.of, shownAction]
  rw [if_neg hcode, if_neg hname]
  cases hchecks : importer.previewChecks store row with
  | error e =>
      rw [if_neg fun haccepted => Bool.false_ne_true haccepted.2]
      rfl
  | ok existing =>
      rw [if_pos ⟨⟨hcode, hname⟩, rfl⟩]
      have hknown := h.find (previewChecks_eq_ok.mp hchecks).1
      rw [strip_strip] at hknown
      change (if existing.isSome then PreviewAction.update else .create) =
        shownAction (if _ ∈ codes store then _ else _)
      simp only [hknown]
      split <;> rfl

theorem importCalls_spec (h : importer.Upserting codes)
    (hname : strip (row.values importer.nameKey) ≠ "") {existing : Option importer.Entity}
    (hchecks : importer.previewChecks store row = .ok existing) :
    ∃ next outcome, importer.importCalls store row = .ok (next, outcome) ∧
      outcomeAction outcome =
        shownAction (.of (codes store) (some (upper (strip (row.values importer.codeKey))))) ∧
      codes next = UpsertAction.learn (codes store)
        (some (upper (strip (row.values importer.codeKey)))) ∧
      importer.SameFinds store next := by
  obtain ⟨hfound, payload, hpayload⟩ := previewChecks_eq_ok.mp hchecks
  have hknown := h.find hfound
  rw [strip_strip] at hknown
  cases existing with
  | none =>
      have hnew := hknown.not.mp (by simp)
      obtain ⟨next, hnext, hcodes, hsame⟩ := h.create hpayload hname hfound
      refine ⟨next, .created, ?_, ?_, ?_, hsame⟩
      · exact bind_eq_ok.mpr ⟨payload, hpayload, bind_eq_ok.mpr ⟨none, hfound,
          bind_eq_ok.mpr ⟨next, hnext, rfl⟩⟩⟩
      · simp [UpsertAction.of, hnew, outcomeAction, shownAction]
      · simp [UpsertAction.learn, hnew, hcodes]
  | some entity =>
      have hstored := hknown.mp rfl
      obtain ⟨next, hnext, hcodes, hsame⟩ := h.update hpayload hname hfound
      refine ⟨next, .updated, ?_, ?_, ?_, hsame⟩
      · exact bind_eq_ok.mpr ⟨payload, hpayload, bind_eq_ok.mpr ⟨some entity, hfound,
          bind_eq_ok.mpr ⟨next, hnext, rfl⟩⟩⟩
      · simp [UpsertAction.of, hstored, outcomeAction, shownAction]
      · simp [UpsertAction.learn, hstored, hcodes]

theorem importCalls_error {e : DomainError} (hchecks : importer.previewChecks store row = .error e) :
    ∃ e, importer.importCalls store row = .error e := by
  cases hcalls : importer.importCalls store row with
  | error e => exact ⟨e, rfl⟩
  | ok result =>
      obtain ⟨payload, hpayload, hcalls⟩ := bind_ok hcalls
      obtain ⟨existing, hfound, -⟩ := bind_ok hcalls
      rw [previewChecks_eq_ok.mpr ⟨hfound, payload, hpayload⟩] at hchecks
      cases hchecks

theorem importActions_eq (h : importer.Upserting codes) (store : MasterDataStore)
    (rows : List ImportSourceRow) :
    importer.importActions store rows =
      (upsertActions (codes store) (rows.map (importer.rowKey store))).map shownAction := by
  induction rows generalizing store with
  | nil => rfl
  | cons row rest ih =>
      have hrejected : importer.rowKey store row = none →
          (∃ e, importer.importRow store row = .error e) →
            importer.importActions store (row :: rest) = (upsertActions (codes store)
              ((row :: rest).map (importer.rowKey store))).map shownAction := by
        rintro hkey ⟨e, he⟩
        unfold importActions
        rw [he, List.map_cons, hkey]
        exact congrArg _ (ih store)
      by_cases hcode : strip (row.values importer.codeKey) = ""
      · refine hrejected (if_neg fun haccepted => haccepted.1.1 hcode) ?_
        unfold importRow
        rw [if_pos hcode]
        exact ⟨_, rfl⟩
      by_cases hname : strip (row.values importer.nameKey) = ""
      · refine hrejected (if_neg fun haccepted => haccepted.1.2 hname) ?_
        unfold importRow
        rw [if_neg hcode, if_pos hname]
        exact ⟨_, rfl⟩
      have hrow : importer.importRow store row = (importer.importCalls store row).mapError
          fun e => { lineNo := row.lineNo, message := e.message } :=
        (if_neg hcode).trans (if_neg hname)
      cases hchecks : importer.previewChecks store row with
      | error e =>
          obtain ⟨raised, hraised⟩ := importCalls_error hchecks
          refine hrejected (if_neg fun haccepted => ?_) ⟨_, by rw [hrow, hraised]; rfl⟩
          rw [hchecks] at haccepted
          exact Bool.false_ne_true haccepted.2
      | ok existing =>
          obtain ⟨next, outcome, hcalls, houtcome, hcodes, hsame⟩ := h.importCalls_spec hname hchecks
          have hkey : importer.rowKey store row =
              some (upper (strip (row.values importer.codeKey))) :=
            if_pos ⟨⟨hcode, hname⟩, by rw [hchecks]; rfl⟩
          have hkeys : rest.map (importer.rowKey next) = rest.map (importer.rowKey store) :=
            List.map_congr_left fun other _ => hsame.rowKey other
          unfold importActions
          rw [hrow, hcalls, List.map_cons, hkey]
          change outcomeAction outcome :: importer.importActions next rest = _
          rw [ih next, hkeys, hcodes, houtcome]
          rfl

end Upserting

/-! ## Counts -/

section

variable (importer)

theorem importTurn_error {store : MasterDataStore} {row : ImportSourceRow} {e : RowError}
    (h : importer.importRow store row = .error e) (summary : ImportSummary) :
    importer.importTurn (store, summary) row =
      (store, { summary with rowErrors := summary.rowErrors ++ [e] }) := by
  unfold importTurn
  rw [h]

theorem importTurn_ok {store next : MasterDataStore} {row : ImportSourceRow} {outcome : RowOutcome}
    (h : importer.importRow store row = .ok (next, outcome)) (summary : ImportSummary) :
    importer.importTurn (store, summary) row = (next, summary.count outcome) := by
  unfold importTurn
  rw [h]

theorem importRows_counts (store : MasterDataStore) (summary : ImportSummary)
    (rows : List ImportSourceRow) :
    let imported := (rows.foldl importer.importTurn (store, summary)).2
    imported.createdCount =
        summary.createdCount + (importer.importActions store rows).count .create ∧
      imported.updatedCount =
          summary.updatedCount + (importer.importActions store rows).count .update ∧
        imported.rowErrors.length =
          summary.rowErrors.length + (importer.importActions store rows).count .skip := by
  induction rows generalizing store summary with
  | nil => simp [importActions]
  | cons row rest ih =>
      unfold importActions
      cases hrow : importer.importRow store row with
      | error e =>
          have hrest := ih store { summary with rowErrors := summary.rowErrors ++ [e] }
          rw [List.length_append, List.length_singleton] at hrest
          simp only [List.foldl_cons, importer.importTurn_error hrow, hrest, List.count_cons]
          exact ⟨rfl, rfl, by simp; omega⟩
      | ok result =>
          obtain ⟨next, outcome⟩ := result
          have hrest := ih next (summary.count outcome)
          simp only [List.foldl_cons, importer.importTurn_ok hrow, hrest, List.count_cons]
          cases outcome with
          | created => exact ⟨by simp [ImportSummary.count, outcomeAction]; omega, rfl, rfl⟩
          | updated => exact ⟨rfl, by simp [ImportSummary.count, outcomeAction]; omega, rfl⟩

theorem status_previewRow (store : MasterDataStore) (row : ImportSourceRow) :
    (importer.previewRow store row).status = .error ↔
      (importer.previewRow store row).action = .skip := by
  unfold previewRow
  split_ifs
  · simp [previewErrorRow]
  · simp [previewErrorRow]
  · cases importer.previewChecks store row with
    | error e => simp [previewErrorRow]
    | ok existing => cases existing <;> simp [previewReadyRow]

theorem previewTurn_counts (store : MasterDataStore) (preview : ImportPreview)
    (row : ImportSourceRow) :
    let next := importer.previewTurn store preview row
    let action := (importer.previewRow store row).action
    next.rows = preview.rows ++ [importer.previewRow store row] ∧
      next.createdCount = preview.createdCount + [action].count .create ∧
        next.updatedCount = preview.updatedCount + [action].count .update := by
  unfold previewTurn
  dsimp only
  cases (importer.previewRow store row).action <;> exact ⟨rfl, rfl, rfl⟩

theorem previewRows_counts (store : MasterDataStore) (preview : ImportPreview)
    (rows : List ImportSourceRow) :
    let previewed := rows.foldl (importer.previewTurn store) preview
    let actions := rows.map fun row => (importer.previewRow store row).action
    previewed.rows = preview.rows ++ rows.map (importer.previewRow store) ∧
      previewed.createdCount = preview.createdCount + actions.count .create ∧
        previewed.updatedCount = preview.updatedCount + actions.count .update := by
  induction rows generalizing preview with
  | nil => simp
  | cons row rest ih =>
      obtain ⟨hrows, hcreated, hupdated⟩ := importer.previewTurn_counts store preview row
      obtain ⟨hrestRows, hrestCreated, hrestUpdated⟩ := ih (importer.previewTurn store preview row)
      refine ⟨?_, ?_, ?_⟩
      · rw [List.foldl_cons, hrestRows, hrows, List.append_assoc]
        rfl
      · rw [List.foldl_cons, hrestCreated, hcreated, List.map_cons, add_assoc,
          ← List.count_append]
        rfl
      · rw [List.foldl_cons, hrestUpdated, hupdated, List.map_cons, add_assoc,
          ← List.count_append]
        rfl

end

/-- A preview tells the counts of an import and what it does with each row. -/
structure PreviewPredicts (preview : ImportPreview) (summary : ImportSummary)
    (actions : List PreviewAction) : Prop where
  actions : preview.rows.map ImportPreviewRow.action = actions
  created : preview.createdCount = summary.createdCount
  updated : preview.updatedCount = summary.updatedCount
  errors : preview.errorCount = summary.rowErrors.length

theorem Upserting.predicts_iff (h : importer.Upserting codes) (store : MasterDataStore)
    (rows : List ImportSourceRow) :
    PreviewPredicts (importer.previewRows store rows) (importer.importRows store rows).2
        (importer.importActions store rows) ↔
      (newKeys (codes store) (rows.map (importer.rowKey store))).Nodup := by
  obtain ⟨hrows, hcreated, hupdated⟩ := importer.previewRows_counts store
    { entityType := importer.entityType, availableColumns := [], mappedColumns := [] } rows
  obtain ⟨hcreates, hupdates, hskips⟩ :=
    importer.importRows_counts store { entityType := importer.entityType } rows
  rw [List.nil_append] at hrows
  rw [zero_add] at hcreated hupdated hcreates hupdates
  have hactions : rows.map (fun row => (importer.previewRow store row).action) =
      ((rows.map (importer.rowKey store)).map (UpsertAction.of (codes store))).map shownAction := by
    rw [List.map_map, List.map_map]
    exact List.map_congr_left fun row _ => h.previewRow_action store row
  have hshown : (importer.previewRows store rows).rows.map ImportPreviewRow.action =
      rows.map fun row => (importer.previewRow store row).action := by
    rw [previewRows, hrows, List.map_map]
    rfl
  have herrors : (importer.previewRows store rows).errorCount =
      (rows.map fun row => (importer.previewRow store row).action).count .skip := by
    rw [ImportPreview.errorCount, previewRows, hrows, List.countP_map, List.count, List.countP_map]
    apply List.countP_congr
    intro row _
    simp [importer.status_previewRow]
  have hsame : rows.map (fun row => (importer.previewRow store row).action) =
      importer.importActions store rows ↔
        (newKeys (codes store) (rows.map (importer.rowKey store))).Nodup := by
    rw [hactions, h.importActions_eq, (List.map_injective_iff.mpr shownAction_injective).eq_iff,
      eq_comm, upsertActions_eq_iff]
  rw [← hsame]
  constructor
  · intro hpredicts
    rw [← hshown]
    exact hpredicts.actions
  · intro heq
    refine ⟨hshown.trans heq, ?_, ?_, ?_⟩
    · exact hcreated.trans ((congrArg _ heq).trans hcreates.symm)
    · exact hupdated.trans ((congrArg _ heq).trans hupdates.symm)
    · rw [herrors, heq]
      exact ((zero_add _).symm.trans hskips.symm)

end MasterDataImporter

/-! ## Sites and parties -/

/-- The codes of the active organization, among the codes with their organizations. -/
def activeCodes (store : MasterDataStore) (codes : List (String × String)) : List String :=
  match getActive store with
  | none => []
  | some organization => (codes.filter fun code => code.1 = organization.id).map Prod.snd

def siteCodes (store : MasterDataStore) : List String :=
  activeCodes store (store.sites.rows.map fun site => (site.organizationId, site.siteCode))

def partyCodes (store : MasterDataStore) : List String :=
  activeCodes store (store.parties.rows.map fun party => (party.organizationId, party.partyCode))

section

variable {store next : MasterDataStore} {organization : Organization}
  {codes : List (String × String)} {code : String}

theorem activeCodes_eq (h : getActive store = some organization) (codes : List (String × String)) :
    activeCodes store codes =
      (codes.filter fun code => code.1 = organization.id).map Prod.snd := by
  rw [activeCodes, h]

theorem mem_activeCodes (h : getActive store = some organization) :
    code ∈ activeCodes store codes ↔ (organization.id, code) ∈ codes := by
  simp [activeCodes_eq h]

theorem activeCodes_cons (h : getActive store = some organization) :
    activeCodes store ((organization.id, code) :: codes) = code :: activeCodes store codes := by
  simp [activeCodes_eq h]

theorem normalizeCode_eq_ok {value label normalized : String} :
    Org.normalizeCode value label = .ok normalized ↔
      normalized ≠ "" ∧ upper (strip value) = normalized := by
  unfold Org.normalizeCode
  simp only [bind_eq_ok, ensure_eq_ok]
  constructor
  · rintro ⟨_, hne, h⟩
    obtain rfl := Except.ok.inj h
    exact ⟨hne, rfl⟩
  · rintro ⟨hne, rfl⟩
    exact ⟨(), hne, rfl⟩

theorem normalizeName_of_ne {value label : String} (h : strip value ≠ "") :
    Org.normalizeName value label = .ok (strip value) :=
  bind_eq_ok.mpr ⟨(), ensure_eq_ok.mpr h, rfl⟩

/-- What a search by code needs does not depend on the records. -/
theorem isOk_search {α : Type} (allowed : Except DomainError Unit)
    (normalized : Except DomainError String) (lookUp : String → String → Option α)
    (store : MasterDataStore) :
    (do
      allowed
      let code ← normalized
      let organization ← activeOrganization store
      return lookUp organization.id code : Except DomainError (Option α)).isOk =
      (allowed.isOk && normalized.isOk && (getActive store).isSome) := by
  unfold activeOrganization
  cases allowed <;> cases normalized <;> cases getActive store <;> rfl

theorem search_ok {α : Type} {allowed : Except DomainError Unit} {value label : String}
    {lookUp : String → String → Option α} {existing : Option α}
    (h : (do
      allowed
      let code ← Org.normalizeCode value label
      let organization ← activeOrganization store
      return lookUp organization.id code : Except DomainError (Option α)) = .ok existing) :
    ∃ organization, getActive store = some organization ∧ upper (strip value) ≠ "" ∧
      lookUp organization.id (upper (strip value)) = existing := by
  obtain ⟨_, -, h⟩ := bind_ok h
  obtain ⟨code, hcode, h⟩ := bind_ok h
  obtain ⟨organization, hactive, h⟩ := bind_ok h
  obtain ⟨hne, rfl⟩ := normalizeCode_eq_ok.mp hcode
  exact ⟨organization, require_eq_ok.mp hactive, hne, Except.ok.inj h⟩

section

variable {allowed : Except DomainError Unit} (hallowed : allowed = .ok ())
  (hactive : getActive store = some organization)

include hallowed hactive

theorem create_eq_ok {value name codeLabel nameLabel : String} (free : String → String → Prop)
    [∀ id code, Decidable (free id code)] {taken : DomainError}
    (make : Organization → String → String → MasterDataStore) (hcode : upper (strip value) ≠ "")
    (hname : strip name ≠ "") (hfree : free organization.id (upper (strip value))) :
    (do
      allowed
      let organization ← activeOrganization store
      let code ← Org.normalizeCode value codeLabel
      let name ← Org.normalizeName name nameLabel
      ensure (free organization.id code) taken
      return make organization code name : Except DomainError MasterDataStore) =
        .ok (make organization (upper (strip value)) (strip name)) :=
  bind_eq_ok.mpr ⟨(), hallowed, bind_eq_ok.mpr ⟨organization, require_eq_ok.mpr hactive,
    bind_eq_ok.mpr ⟨_, normalizeCode_eq_ok.mpr ⟨hcode, rfl⟩,
      bind_eq_ok.mpr ⟨_, normalizeName_of_ne hname,
        bind_eq_ok.mpr ⟨(), ensure_eq_ok.mpr hfree, rfl⟩⟩⟩⟩⟩

theorem update_eq_ok {α : Type} {key : α → String} {table : Table key} {row : α}
    (hrow : row ∈ table.rows) {owner : α → String} (howner : owner row = organization.id)
    (version : α → ℕ) {missing stale : DomainError} {name nameLabel : String}
    (hname : strip name ≠ "") (make : α → String → MasterDataStore) :
    (do
      allowed
      let organization ← activeOrganization store
      let stored ← require ((table.get? (key row)).filter fun row => owner row = organization.id)
        missing
      ensure (version stored = version row) stale
      let name ← Org.normalizeName name nameLabel
      return make stored name : Except DomainError MasterDataStore) =
        .ok (make row (strip name)) := by
  have hfound : (table.get? (key row)).filter (fun row => owner row = organization.id) =
      some row := by
    rw [table.get?_of_mem hrow]
    simp [howner]
  exact bind_eq_ok.mpr ⟨(), hallowed, bind_eq_ok.mpr ⟨organization, require_eq_ok.mpr hactive,
    bind_eq_ok.mpr ⟨row, require_eq_ok.mpr hfound, bind_eq_ok.mpr ⟨(), ensure_eq_ok.mpr rfl,
      bind_eq_ok.mpr ⟨_, normalizeName_of_ne hname, rfl⟩⟩⟩⟩⟩

end

theorem getActive_congr (h : next.organizations = store.organizations) :
    getActive next = getActive store := by
  unfold getActive
  rw [h]

theorem activeCodes_congr (h : next.organizations = store.organizations)
    (codes : List (String × String)) : activeCodes next codes = activeCodes store codes := by
  unfold activeCodes
  rw [getActive_congr h]

section

variable {α : Type} {key : α → String} {table : Table key} {row : α} {g : α → String × String}

theorem isSome_find_iff (hactive : getActive store = some organization) {p : α → Bool}
    (hp : ∀ row, p row = true ↔ g row = (organization.id, code)) :
    (table.rows.find? p).isSome = true ↔ code ∈ activeCodes store (table.rows.map g) := by
  rw [List.find?_isSome, mem_activeCodes hactive, List.mem_map]
  simp only [hp]

/-- A new record adds its code. -/
theorem activeCodes_insert (hactive : getActive store = some organization)
    (hsame : next.organizations = store.organizations) (hfresh : key row ∉ table.ids)
    (hrow : g row = (organization.id, code)) :
    activeCodes next ((table.insert row).rows.map g) =
      code :: activeCodes store (table.rows.map g) := by
  rw [Table.rows_insert hfresh, List.map_cons, hrow, activeCodes_congr hsame,
    activeCodes_cons hactive]

/-- A record that keeps its code and organization changes no codes. -/
theorem activeCodes_update (hsame : next.organizations = store.organizations) {stored : α}
    (hstored : stored ∈ table.rows) (hkey : key row = key stored) (hrow : g row = g stored) :
    activeCodes next ((table.update row).rows.map g) = activeCodes store (table.rows.map g) := by
  rw [Table.map_rows_update (hkey ▸ table.get?_of_mem hstored) hrow, activeCodes_congr hsame]

end

end

section

variable {service : MasterDataService} {store next : MasterDataStore}

theorem findSiteByCode_ok {siteCode : String} {existing : Option Site}
    (h : findSiteByCode service store siteCode = .ok existing) :
    ∃ organization, getActive store = some organization ∧ upper (strip siteCode) ≠ "" ∧
      siteByCode store organization.id (upper (strip siteCode)) = existing :=
  search_ok h

theorem siteImporter_sameFinds (h : next.organizations = store.organizations) :
    (siteImporter service).SameFinds store next := by
  intro code
  change (findSiteByCode service next code).isOk = (findSiteByCode service store code).isOk
  unfold findSiteByCode
  rw [isOk_search, isOk_search, getActive_congr h]

theorem name_parseSitePayload {values : String → String} {payload : SitePayload}
    (h : parseSitePayload values = .ok payload) : payload.name = strip (values "name") := by
  obtain ⟨isActive, -, h⟩ := bind_ok h
  rw [← Except.ok.inj h]

theorem updatedSite_codes (site : Site) (name : String) (payload : SitePayload) :
    (updatedSite service site name payload).id = site.id ∧
      (updatedSite service site name payload).organizationId = site.organizationId ∧
        (updatedSite service site name payload).siteCode = site.siteCode := by
  unfold updatedSite Site.toggled
  dsimp only
  split_ifs <;> exact ⟨rfl, rfl, rfl⟩

theorem isSome_siteByCode {organization : Organization} {code : String}
    (hactive : getActive store = some organization) :
    (siteByCode store organization.id code).isSome = true ↔ code ∈ siteCodes store :=
  isSome_find_iff hactive fun site => by rw [decide_eq_true_iff, Prod.mk.injEq]

theorem createSite_spec (hallowed : service.userSession.hasPermission "settings.manage" = true)
    {organization : Organization} (hactive : getActive store = some organization)
    {siteCode : String} (hcode : upper (strip siteCode) ≠ "")
    (hnone : siteByCode store organization.id (upper (strip siteCode)) = none)
    {payload : SitePayload} (hname : strip payload.name ≠ "") :
    ∃ next, createSite service store siteCode payload = .ok next ∧
      siteCodes next = upper (strip siteCode) :: siteCodes store ∧
        next.organizations = store.organizations := by
  have hcreated : createSite service store siteCode payload = .ok { store with
      sites := store.sites.insert (createdSite service store organization (upper (strip siteCode))
        (strip payload.name) payload) } :=
    create_eq_ok (ensure_eq_ok.mpr hallowed) hactive
      (fun id code => siteByCode store id code = none) (fun organization code name =>
        { store with
          sites := store.sites.insert (createdSite service store organization code name payload) })
      hcode hname hnone
  refine ⟨_, hcreated, ?_, rfl⟩
  exact activeCodes_insert hactive rfl (service.generateId_fresh _) rfl

theorem updateSite_spec (hallowed : service.userSession.hasPermission "settings.manage" = true)
    {organization : Organization} (hactive : getActive store = some organization)
    {site : Site} (hsite : site ∈ store.sites.rows) (howned : site.organizationId = organization.id)
    {payload : SitePayload} (hname : strip payload.name ≠ "") :
    ∃ next, updateSite service store site.id site.version payload = .ok next ∧
      siteCodes next = siteCodes store ∧ next.organizations = store.organizations := by
  have hupdated : updateSite service store site.id site.version payload = .ok { store with
      sites := store.sites.update (updatedSite service site (strip payload.name) payload) } :=
    update_eq_ok (ensure_eq_ok.mpr hallowed) hactive hsite howned Site.version hname
      fun site name => { store with
        sites := store.sites.update (updatedSite service site name payload) }
  refine ⟨_, hupdated, ?_, rfl⟩
  obtain ⟨hid, horganization, hcode⟩ :=
    @updatedSite_codes service site (strip payload.name) payload
  exact activeCodes_update rfl hsite hid (by rw [horganization, hcode])

theorem siteImporter_upserting
    (hallowed : service.userSession.hasPermission "settings.manage" = true) :
    (siteImporter service).Upserting siteCodes where
  find := by
    intro store code existing h
    obtain ⟨organization, hactive, -, rfl⟩ := findSiteByCode_ok h
    exact isSome_siteByCode hactive
  create := by
    intro store row payload hpayload hname hfound
    obtain ⟨organization, hactive, hcode, hnone⟩ := findSiteByCode_ok hfound
    have hgiven : strip (SitePayload.name payload) ≠ "" := by
      rw [name_parseSitePayload hpayload, strip_strip]
      exact hname
    obtain ⟨next, hnext, hcodes, hsame⟩ := createSite_spec hallowed hactive hcode hnone hgiven
    rw [strip_strip] at hcodes
    exact ⟨next, hnext, hcodes, siteImporter_sameFinds hsame⟩
  update := by
    intro store row payload site hpayload hname hfound
    obtain ⟨organization, hactive, -, hsome⟩ := findSiteByCode_ok hfound
    have hgiven : strip (SitePayload.name payload) ≠ "" := by
      rw [name_parseSitePayload hpayload, strip_strip]
      exact hname
    have howned := List.find?_some hsome
    rw [decide_eq_true_iff] at howned
    obtain ⟨next, hnext, hcodes, hsame⟩ := updateSite_spec hallowed hactive
      (List.mem_of_find?_eq_some hsome) howned.1 hgiven
    exact ⟨next, hnext, hcodes, siteImporter_sameFinds hsame⟩

theorem findPartyByCode_ok {partyCode : String} {existing : Option Party}
    (h : findPartyByCode service store partyCode = .ok existing) :
    ∃ organization, getActive store = some organization ∧ upper (strip partyCode) ≠ "" ∧
      partyByCode store organization.id (upper (strip partyCode)) = existing :=
  search_ok h

theorem partyImporter_sameFinds (h : next.organizations = store.organizations) :
    (partyImporter service).SameFinds store next := by
  intro code
  change (findPartyByCode service next code).isOk = (findPartyByCode service store code).isOk
  unfold findPartyByCode
  rw [isOk_search, isOk_search, getActive_congr h]

theorem partyName_parsePartyPayload {values : String → String} {payload : PartyPayload}
    (h : parsePartyPayload values = .ok payload) :
    payload.partyName = strip (values "party_name") := by
  obtain ⟨partyType, -, h⟩ := bind_ok h
  obtain ⟨isActive, -, h⟩ := bind_ok h
  rw [← Except.ok.inj h]

theorem isSome_partyByCode {organization : Organization} {code : String}
    (hactive : getActive store = some organization) :
    (partyByCode store organization.id code).isSome = true ↔ code ∈ partyCodes store :=
  isSome_find_iff hactive fun party => by rw [decide_eq_true_iff, Prod.mk.injEq]

theorem createParty_spec (hallowed : service.userSession.hasPermission "settings.manage" = true)
    {organization : Organization} (hactive : getActive store = some organization)
    {partyCode : String} (hcode : upper (strip partyCode) ≠ "")
    (hnone : partyByCode store organization.id (upper (strip partyCode)) = none)
    {payload : PartyPayload} (hname : strip payload.partyName ≠ "") :
    ∃ next, createParty service store partyCode payload = .ok next ∧
      partyCodes next = upper (strip partyCode) :: partyCodes store ∧
        next.organizations = store.organizations := by
  have hcreated : createParty service store partyCode payload = .ok { store with
      parties := store.parties.insert (createdParty service store organization (upper (strip partyCode))
        (strip payload.partyName) payload) } :=
    create_eq_ok (ensure_eq_ok.mpr hallowed) hactive
      (fun id code => partyByCode store id code = none) (fun organization code name =>
        { store with
          parties := store.parties.insert (createdParty service store organization code name payload) })
      hcode hname hnone
  refine ⟨_, hcreated, ?_, rfl⟩
  exact activeCodes_insert hactive rfl (service.generateId_fresh _) rfl

theorem updateParty_spec (hallowed : service.userSession.hasPermission "settings.manage" = true)
    {organization : Organization} (hactive : getActive store = some organization)
    {party : Party} (hparty : party ∈ store.parties.rows)
    (howned : party.organizationId = organization.id) {payload : PartyPayload}
    (hname : strip payload.partyName ≠ "") :
    ∃ next, updateParty service store party.id party.version payload = .ok next ∧
      partyCodes next = partyCodes store ∧ next.organizations = store.organizations := by
  have hupdated : updateParty service store party.id party.version payload = .ok { store with
      parties := store.parties.update (updatedParty party (strip payload.partyName) payload) } :=
    update_eq_ok (ensure_eq_ok.mpr hallowed) hactive hparty howned Party.version hname
      fun party name => { store with
        parties := store.parties.update (updatedParty party name payload) }
  refine ⟨_, hupdated, ?_, rfl⟩
  exact activeCodes_update rfl hparty rfl rfl

theorem partyImporter_upserting
    (hallowed : service.userSession.hasPermission "settings.manage" = true) :
    (partyImporter service).Upserting partyCodes where
  find := by
    intro store code existing h
    obtain ⟨organization, hactive, -, rfl⟩ := findPartyByCode_ok h
    exact isSome_partyByCode hactive
  create := by
    intro store row payload hpayload hname hfound
    obtain ⟨organization, hactive, hcode, hnone⟩ := findPartyByCode_ok hfound
    have hgiven : strip (PartyPayload.partyName payload) ≠ "" := by
      rw [partyName_parsePartyPayload hpayload, strip_strip]
      exact hname
    obtain ⟨next, hnext, hcodes, hsame⟩ := createParty_spec hallowed hactive hcode hnone hgiven
    rw [strip_strip] at hcodes
    exact ⟨next, hnext, hcodes, partyImporter_sameFinds hsame⟩
  update := by
    intro store row payload party hpayload hname hfound
    obtain ⟨organization, hactive, -, hsome⟩ := findPartyByCode_ok hfound
    have hgiven : strip (PartyPayload.partyName payload) ≠ "" := by
      rw [partyName_parsePartyPayload hpayload, strip_strip]
      exact hname
    have howned := List.find?_some hsome
    rw [decide_eq_true_iff] at howned
    obtain ⟨next, hnext, hcodes, hsame⟩ := updateParty_spec hallowed hactive
      (List.mem_of_find?_eq_some hsome) howned.1 hgiven
    exact ⟨next, hnext, hcodes, partyImporter_sameFinds hsame⟩

end

def storedCodes (store : MasterDataStore) : ImportType → List String
  | .sites => siteCodes store
  | .parties => partyCodes store

theorem importer_upserting {service : MasterDataService}
    (hallowed : service.userSession.hasPermission "settings.manage" = true)
    (importType : ImportType) :
    (importType.importer service).Upserting (storedCodes · importType) := by
  cases importType with
  | sites => exact siteImporter_upserting hallowed
  | parties => exact partyImporter_upserting hallowed

/-- The codes of the accepted rows of a file that are not stored yet. -/
def addedCodes (service : MasterDataService) (importType : ImportType) (source : CsvSource)
    (mapping : List (String × Option String)) (store : MasterDataStore) : List String :=
  newKeys (storedCodes store importType) ((importSourceRows service importType source mapping).map
    ((importType.importer service).rowKey store))

/-- A preview of all rows predicts the import exactly when no code that is new comes twice. -/
theorem previewCsv_predicts_iff {service : MasterDataService} {store next : MasterDataStore}
    {importType : ImportType} {source : CsvSource} {mapping : List (String × Option String)}
    {maxRows : ℤ} {preview : ImportPreview} {summary : ImportSummary}
    (hall : (importSourceRows service importType source mapping).length ≤ max 1 maxRows)
    (hpreview : previewCsv service importType source mapping maxRows store = .ok preview)
    (himport : importCsv service importType source mapping store = .ok (next, summary)) :
    MasterDataImporter.PreviewPredicts preview summary
        ((importType.importer service).importActions store
          (importSourceRows service importType source mapping)) ↔
      (addedCodes service importType source mapping store).Nodup := by
  obtain ⟨_, hallowed, hpreview⟩ := bind_ok hpreview
  obtain ⟨_, -, himport⟩ := bind_ok himport
  have hpreview := Except.ok.inj hpreview
  have himport := congrArg Prod.snd (Except.ok.inj himport)
  have htake : (importSourceRows service importType source mapping).take (max 1 maxRows).toNat =
      importSourceRows service importType source mapping := by
    apply List.take_of_length_le
    omega
  have hiff := (importer_upserting (ensure_eq_ok.mp hallowed) importType).predicts_iff store
    (importSourceRows service importType source mapping)
  rw [himport] at hiff
  rw [htake] at hpreview
  rw [addedCodes, ← hiff, ← hpreview]
  constructor <;> exact fun h => ⟨h.actions, h.created, h.updated, h.errors⟩

/-! ## Files with one code -/

def someoneAt (permissions : List String) : AuthorizationEngine where
  hasPermission code := code ∈ permissions
  hasScopePermission _ _ _ := false

/-- Ids that are longer than all that there are. -/
def masterDataAdmin : MasterDataService where
  userSession := someoneAt ["settings.manage"]
  now := 0
  generateId ids := String.ofList (List.replicate ((ids.map String.length).sum + 1) '0')
  generateId_fresh ids hmem := by
    have hlength : (String.ofList (List.replicate ((ids.map String.length).sum + 1) '0')).length ≤
        (ids.map String.length).sum := List.le_sum_of_mem (List.mem_map_of_mem hmem)
    rw [String.length_ofList, List.length_replicate] at hlength
    omega

def oneOrganization : MasterDataStore where
  organizations := ⟨[{ id := "org", id_ne := by decide, organizationCode := "ORG"
                       displayName := "Works" }], by decide⟩

def hubFile (secondCode : String) : CsvSource where
  fieldnames := ["site_code", "name"]
  records := [["HUB", "Hamburg"], [secondCode, "Harburg"]]

/-- A file with two new codes. -/
theorem previewCsv_predicts_yard :
    ∃ preview next summary,
      importCsv masterDataAdmin .sites (hubFile "YARD") [] oneOrganization = .ok (next, summary) ∧
        MasterDataImporter.PreviewPredicts preview summary
          ((ImportType.sites.importer masterDataAdmin).importActions oneOrganization
            (importSourceRows masterDataAdmin .sites (hubFile "YARD") [])) := by
  have hpreviewed : (previewCsv masterDataAdmin .sites (hubFile "YARD") [] 100
      oneOrganization).isOk = true := by
    decide +kernel
  have himported : (importCsv masterDataAdmin .sites (hubFile "YARD") []
      oneOrganization).isOk = true := by
    decide +kernel
  obtain ⟨preview, hpreview⟩ := isOk_iff.mp hpreviewed
  obtain ⟨⟨next, summary⟩, himport⟩ := isOk_iff.mp himported
  refine ⟨preview, next, summary, himport, ?_⟩
  exact (previewCsv_predicts_iff (by decide +kernel) hpreview himport).mpr (by decide +kernel)

/-- A code that comes twice in two spellings is previewed as two sites. -/
theorem not_previewPredicts_hub :
    ((previewCsv masterDataAdmin .sites (hubFile "hub") [] 100 oneOrganization).map fun preview =>
        (preview.createdCount, preview.updatedCount)) = .ok (2, 0) ∧
      ((importCsv masterDataAdmin .sites (hubFile "hub") [] oneOrganization).map fun result =>
        (result.2.createdCount, result.2.updatedCount)) = .ok (1, 1) := by
  constructor <;> decide +kernel

end ProjectManager.MasterData
