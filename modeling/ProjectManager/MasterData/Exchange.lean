import ProjectManager.MasterData.Services

/-! # Importing sites and parties

A preview says what an import would do with each row; both read the rows in the
same way. The importers of sites and of parties are one definition with two sets of
parameters.
-/

namespace ProjectManager.MasterData

open Foundation

/-! ## Cells and payloads -/

def optionalText (cell : String) : Option String := (some (strip cell)).filter fun text => text ≠ ""

def parseOptionalBool (cell : String) : Except DomainError (Option Bool) :=
  let normalized := lower (strip cell)
  if normalized = "" then .ok none
  else if normalized ∈ ["1", "true", "yes", "y", "on"] then .ok (some true)
  else if normalized ∈ ["0", "false", "no", "n", "off"] then .ok (some false)
  else .error (valueError "Value must be a boolean token such as true/false or yes/no.")

def partyTypes : List PartyType :=
  [.general, .supplier, .manufacturer, .vendor, .contractor, .serviceProvider]

def partyTypeValue : PartyType → String
  | .general => "GENERAL"
  | .supplier => "SUPPLIER"
  | .manufacturer => "MANUFACTURER"
  | .vendor => "VENDOR"
  | .contractor => "CONTRACTOR"
  | .serviceProvider => "SERVICE_PROVIDER"

def parseOptionalPartyType : String → Except DomainError (Option PartyType) :=
  optionalCell (memberOf "PartyType" partyTypes partyTypeValue)

def parseSitePayload (values : String → String) : Except DomainError SitePayload := do
  let isActive ← parseOptionalBool (values "is_active")
  return {
    name := strip (values "name")
    description := optionalText (values "description")
    country := optionalText (values "country")
    region := optionalText (values "region")
    city := optionalText (values "city")
    addressLine1 := optionalText (values "address_line_1")
    addressLine2 := optionalText (values "address_line_2")
    postalCode := optionalText (values "postal_code")
    siteType := optionalText (values "site_type")
    status := optionalText (values "status")
    defaultCalendarId := optionalText (values "default_calendar_id")
    defaultLanguage := optionalText (values "default_language")
    notes := optionalText (values "notes")
    timezoneName := optionalText (values "timezone")
    currencyCode := optionalText (values "currency_code")
    isActive := isActive }

def parsePartyPayload (values : String → String) : Except DomainError PartyPayload := do
  let partyType ← parseOptionalPartyType (values "party_type")
  let isActive ← parseOptionalBool (values "is_active")
  return {
    partyName := strip (values "party_name")
    partyType := partyType
    legalName := optionalText (values "legal_name")
    contactName := optionalText (values "contact_name")
    email := optionalText (values "email")
    phone := optionalText (values "phone")
    country := optionalText (values "country")
    city := optionalText (values "city")
    addressLine1 := optionalText (values "address_line_1")
    addressLine2 := optionalText (values "address_line_2")
    postalCode := optionalText (values "postal_code")
    website := optionalText (values "website")
    taxRegistrationNumber := optionalText (values "tax_registration_number")
    externalReference := optionalText (values "external_reference")
    notes := optionalText (values "notes")
    isActive := isActive }

def siteFields : List ImportFieldSpec :=
  [⟨"site_code", "Site Code", true⟩, ⟨"name", "Name", true⟩,
    ⟨"description", "Description", false⟩, ⟨"country", "Country", false⟩,
    ⟨"region", "Region", false⟩, ⟨"city", "City", false⟩,
    ⟨"address_line_1", "Address Line 1", false⟩, ⟨"address_line_2", "Address Line 2", false⟩,
    ⟨"postal_code", "Postal Code", false⟩, ⟨"timezone", "Timezone", false⟩,
    ⟨"currency_code", "Currency Code", false⟩, ⟨"site_type", "Site Type", false⟩,
    ⟨"status", "Status", false⟩, ⟨"default_calendar_id", "Default Calendar", false⟩,
    ⟨"default_language", "Default Language", false⟩, ⟨"is_active", "Is Active", false⟩,
    ⟨"notes", "Notes", false⟩]

def partyFields : List ImportFieldSpec :=
  [⟨"party_code", "Party Code", true⟩, ⟨"party_name", "Party Name", true⟩,
    ⟨"party_type", "Party Type", false⟩, ⟨"legal_name", "Legal Name", false⟩,
    ⟨"contact_name", "Contact Name", false⟩, ⟨"email", "Email", false⟩,
    ⟨"phone", "Phone", false⟩, ⟨"country", "Country", false⟩, ⟨"city", "City", false⟩,
    ⟨"address_line_1", "Address Line 1", false⟩, ⟨"address_line_2", "Address Line 2", false⟩,
    ⟨"postal_code", "Postal Code", false⟩, ⟨"website", "Website", false⟩,
    ⟨"tax_registration_number", "Tax Registration Number", false⟩,
    ⟨"external_reference", "External Reference", false⟩, ⟨"is_active", "Is Active", false⟩,
    ⟨"notes", "Notes", false⟩]

/-! ## Previews -/

inductive PreviewStatus
  | ready
  | error
  deriving DecidableEq

inductive PreviewAction
  | create
  | update
  | skip
  deriving DecidableEq

structure ImportPreviewRow where
  lineNo : ℕ
  status : PreviewStatus
  action : PreviewAction
  message : String
  row : String → String

structure ImportPreview where
  entityType : String
  availableColumns : List String
  mappedColumns : List (String × Option String)
  rows : List ImportPreviewRow := []
  createdCount : ℕ := 0
  updatedCount : ℕ := 0

def ImportPreview.errorCount (preview : ImportPreview) : ℕ :=
  preview.rows.countP fun row => row.status = .error

def previewErrorRow (row : ImportSourceRow) (message : String) : ImportPreviewRow where
  lineNo := row.lineNo
  status := .error
  action := .skip
  message := message
  row := row.values

/-! ## The two importers -/

/-- What the importers of sites and of parties differ in. -/
structure MasterDataImporter where
  entityType : String
  noun : String
  codeKey : String
  nameKey : String
  fields : List ImportFieldSpec
  Payload : Type
  Entity : Type
  find : MasterDataStore → String → Except DomainError (Option Entity)
  parse : (String → String) → Except DomainError Payload
  create : MasterDataStore → String → Payload → Except DomainError MasterDataStore
  update : MasterDataStore → Entity → Payload → Except DomainError MasterDataStore

namespace MasterDataImporter

variable (importer : MasterDataImporter)

def previewReadyRow (row : ImportSourceRow) (existing : Option importer.Entity) :
    ImportPreviewRow where
  lineNo := row.lineNo
  status := .ready
  action := if existing.isSome then .update else .create
  message := if existing.isSome then "Will update existing " ++ importer.noun ++ "."
    else "Will create " ++ importer.noun ++ "."
  row := row.values

/-- The calls that a preview tries. -/
def previewChecks (store : MasterDataStore) (row : ImportSourceRow) :
    Except DomainError (Option importer.Entity) := do
  let existing ← importer.find store (strip (row.values importer.codeKey))
  let _ ← importer.parse row.values
  return existing

def previewRow (store : MasterDataStore) (row : ImportSourceRow) : ImportPreviewRow :=
  if strip (row.values importer.codeKey) = "" then
    previewErrorRow row ("Missing " ++ importer.codeKey ++ ".")
  else if strip (row.values importer.nameKey) = "" then
    previewErrorRow row ("Missing " ++ importer.nameKey ++ ".")
  else
    match importer.previewChecks store row with
    | .error e => previewErrorRow row e.message
    | .ok existing => importer.previewReadyRow row existing

def previewTurn (store : MasterDataStore) (preview : ImportPreview) (row : ImportSourceRow) :
    ImportPreview :=
  let previewed := importer.previewRow store row
  let shown := { preview with rows := preview.rows ++ [previewed] }
  match previewed.action with
  | .create => { shown with createdCount := shown.createdCount + 1 }
  | .update => { shown with updatedCount := shown.updatedCount + 1 }
  | .skip => shown

def previewRows (store : MasterDataStore) (rows : List ImportSourceRow) : ImportPreview :=
  rows.foldl (importer.previewTurn store)
    { entityType := importer.entityType, availableColumns := [], mappedColumns := [] }

/-- The calls that an import tries. -/
def importCalls (store : MasterDataStore) (row : ImportSourceRow) :
    Except DomainError (MasterDataStore × RowOutcome) := do
  let payload ← importer.parse row.values
  let existing ← importer.find store (strip (row.values importer.codeKey))
  match existing with
  | none => do
      let next ← importer.create store (strip (row.values importer.codeKey)) payload
      return (next, .created)
  | some entity => do
      let next ← importer.update store entity payload
      return (next, .updated)

def importRow (store : MasterDataStore) (row : ImportSourceRow) :
    Except RowError (MasterDataStore × RowOutcome) :=
  if strip (row.values importer.codeKey) = "" then
    .error { lineNo := row.lineNo, fieldKey := some importer.codeKey
             message := importer.codeKey ++ " is required." }
  else if strip (row.values importer.nameKey) = "" then
    .error { lineNo := row.lineNo, fieldKey := some importer.nameKey
             message := importer.nameKey ++ " is required." }
  else (importer.importCalls store row).mapError fun e =>
    { lineNo := row.lineNo, message := e.message }

def importTurn (state : MasterDataStore × ImportSummary) (row : ImportSourceRow) :
    MasterDataStore × ImportSummary :=
  match importer.importRow state.1 row with
  | .error e => (state.1, { state.2 with rowErrors := state.2.rowErrors ++ [e] })
  | .ok (next, outcome) => (next, state.2.count outcome)

def importRows (store : MasterDataStore) (rows : List ImportSourceRow) :
    MasterDataStore × ImportSummary :=
  rows.foldl importer.importTurn (store, { entityType := importer.entityType })

end MasterDataImporter

section

variable (service : MasterDataService)

def siteImporter : MasterDataImporter where
  entityType := "sites"
  noun := "site"
  codeKey := "site_code"
  nameKey := "name"
  fields := siteFields
  Payload := SitePayload
  Entity := Site
  find := findSiteByCode service
  parse := parseSitePayload
  create := createSite service
  update store site payload := updateSite service store site.id site.version payload

def partyImporter : MasterDataImporter where
  entityType := "parties"
  noun := "party"
  codeKey := "party_code"
  nameKey := "party_name"
  fields := partyFields
  Payload := PartyPayload
  Entity := Party
  find := findPartyByCode service
  parse := parsePartyPayload
  create := createParty service
  update store party payload := updateParty service store party.id party.version payload

/-- The types that the registry knows. -/
inductive ImportType
  | sites
  | parties
  deriving DecidableEq

def ImportType.importer : ImportType → MasterDataImporter
  | .sites => siteImporter service
  | .parties => partyImporter service

/-! ## The runtime -/

variable (importType : ImportType) (source : CsvSource) (mapping : List (String × Option String))

def importSourceRows : List ImportSourceRow :=
  source.prepareRows (importType.importer service).fields mapping

def previewCsv (maxRows : ℤ) (store : MasterDataStore) : Except DomainError ImportPreview := do
  let importer := importType.importer service
  service.userSession.requirePermission "settings.manage"
    ("preview " ++ importer.entityType ++ " import")
  let rows := importSourceRows service importType source mapping
  return {
    importer.previewRows store (rows.take (max 1 maxRows).toNat) with
    availableColumns := source.columns
    mappedColumns := importer.fields.map fun field =>
      (field.key, source.effectiveColumn mapping field) }

def importCsv (store : MasterDataStore) : Except DomainError (MasterDataStore × ImportSummary) := do
  let importer := importType.importer service
  service.userSession.requirePermission "settings.manage"
    ("run " ++ importer.entityType ++ " import")
  return importer.importRows store (importSourceRows service importType source mapping)

end

end ProjectManager.MasterData
