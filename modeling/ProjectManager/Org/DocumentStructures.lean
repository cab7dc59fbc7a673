import ProjectManager.Domain.Checks
import ProjectManager.Foundation.Hierarchies

/-! # Document structures

Folders for documents, with a parent folder in the same organization.
-/

namespace ProjectManager.Org

open Foundation

inductive DocumentType
  | general
  | manual
  | datasheet
  | drawing
  | procedure
  | policy
  | certificate
  deriving DecidableEq, Repr

def DocumentType.value : DocumentType → String
  | .general => "GENERAL"
  | .manual => "MANUAL"
  | .datasheet => "DATASHEET"
  | .drawing => "DRAWING"
  | .procedure => "PROCEDURE"
  | .policy => "POLICY"
  | .certificate => "CERTIFICATE"

def coerceDocumentType : Option (Choice DocumentType) → Except DomainError DocumentType :=
  coerce [.general, .manual, .datasheet, .drawing, .procedure, .policy, .certificate]
    DocumentType.value "GENERAL" (validationError "Document type is invalid." "DOCUMENT_TYPE_INVALID")

structure DocumentStructure where
  id : String
  organizationId : String
  structureCode : String
  name : String
  description : String := ""
  parentStructureId : Option String := none
  objectScope : String := "GENERAL"
  defaultDocumentType : DocumentType := .general
  sortOrder : ℤ := 0
  isActive : Bool := true
  notes : String := ""
  version : ℕ := 1
  deriving DecidableEq

abbrev DocumentStructureStore := Table DocumentStructure.id

/-- Blanks and hyphens become underscores. -/
def underscored (value : String) : String :=
  String.ofList ((upper (strip value)).toList.map fun c => if c = ' ' ∨ c = '-' then '_' else c)

def normalizeStructureCode (value : String) : Except DomainError String := do
  let normalized := underscored value
  ensure (normalized ≠ "")
    (validationError "Document structure code is required." "DOCUMENT_STRUCTURE_CODE_REQUIRED")
  return normalized

def normalizeStructureName (value : String) : Except DomainError String := do
  let normalized := strip value
  ensure (normalized ≠ "")
    (validationError "Document structure name is required." "DOCUMENT_STRUCTURE_NAME_REQUIRED")
  return normalized

def normalizeObjectScope (value : String) : String := orElse (underscored value) "GENERAL"

structure DocumentServices where
  userSession : AuthorizationEngine
  activeOrganization : Option String

def DocumentServices.organization (services : DocumentServices) : Except DomainError String :=
  require services.activeOrganization
    (notFoundError "Active organization not found." "ORGANIZATION_NOT_FOUND")

section

variable (store : DocumentStructureStore) (organization : String)

def structureByCode (structureCode : String) : Option DocumentStructure :=
  store.rows.find? fun row =>
    row.organizationId = organization ∧ row.structureCode = structureCode

def structureCodeExists : DomainError :=
  validationError "Document structure code already exists in the active organization."
    "DOCUMENT_STRUCTURE_CODE_EXISTS"

def storedStructure (structureId : String) : Except DomainError DocumentStructure :=
  require ((store.get? structureId).filter fun row => row.organizationId = organization)
    (notFoundError "Document structure not found in the active organization."
      "DOCUMENT_STRUCTURE_NOT_FOUND")

/-- `_resolve_structure_for_context`, as far as the id of the structure. -/
def resolveStructure (structureId : Option String) : Except DomainError (Option String) :=
  match normalizeReference structureId with
  | none => .ok none
  | some normalized => do
      let parent ← storedStructure store organization normalized
      return some parent.id

end

structure CreateDocumentStructureArguments where
  structureId : String
  structureCode : String
  name : String
  description : String := ""
  parentStructureId : Option String := none
  objectScope : String := "GENERAL"
  defaultDocumentType : Option (Choice DocumentType) := none
  sortOrder : ℤ := 0
  isActive : Bool := true
  notes : String := ""

structure UpdateDocumentStructureArguments where
  structureId : String
  structureCode : Option String := none
  name : Option String := none
  description : Option String := none
  parentStructureId : Option String := none
  objectScope : Option String := none
  defaultDocumentType : Option (Choice DocumentType) := none
  sortOrder : Option ℤ := none
  isActive : Option Bool := none
  notes : Option String := none
  expectedVersion : Option ℕ := none

section

variable (services : DocumentServices) (store : DocumentStructureStore)

def newDocumentStructure (arguments : CreateDocumentStructureArguments) :
    Except DomainError DocumentStructure := do
  services.userSession.requirePermission "settings.manage" "create document structure"
  let organization ← services.organization
  let structureCode ← normalizeStructureCode arguments.structureCode
  ensure (structureByCode store organization structureCode = none) structureCodeExists
  let parentStructureId ← resolveStructure store organization arguments.parentStructureId
  let name ← normalizeStructureName arguments.name
  let defaultDocumentType ← coerceDocumentType arguments.defaultDocumentType
  return {
    id := arguments.structureId
    organizationId := organization
    structureCode := structureCode
    name := name
    description := strip arguments.description
    parentStructureId := parentStructureId
    objectScope := normalizeObjectScope arguments.objectScope
    defaultDocumentType := defaultDocumentType
    sortOrder := arguments.sortOrder
    isActive := arguments.isActive
    notes := strip arguments.notes }

def createDocumentStructure (arguments : CreateDocumentStructureArguments) :
    Except DomainError DocumentStructureStore := do
  let documentStructure ← newDocumentStructure services store arguments
  ensure (documentStructure.id ∉ store.ids) structureCodeExists
  return store.insert documentStructure

def changedDocumentStructure (organization : String) (stored : DocumentStructure)
    (arguments : UpdateDocumentStructureArguments) : Except DomainError DocumentStructure := do
  let structureCode ← givenOr arguments.structureCode stored.structureCode fun given => do
    let normalized ← normalizeStructureCode given
    ensure (∀ existing ∈ structureByCode store organization normalized, existing.id = stored.id)
      structureCodeExists
    return normalized
  let name ← givenOr arguments.name stored.name normalizeStructureName
  let parentStructureId ← givenOr arguments.parentStructureId stored.parentStructureId
    fun given => do
      let parent ← resolveStructure store organization (some given)
      ensure (parent ≠ some stored.id)
        (validationError "A document structure cannot be its own parent."
          "DOCUMENT_STRUCTURE_PARENT_INVALID")
      return parent
  let defaultDocumentType ← givenOr arguments.defaultDocumentType stored.defaultDocumentType
    fun given => coerceDocumentType (some given)
  return {
    stored with
    structureCode := structureCode
    name := name
    description := arguments.description.elim stored.description strip
    parentStructureId := parentStructureId
    objectScope := arguments.objectScope.elim stored.objectScope normalizeObjectScope
    defaultDocumentType := defaultDocumentType
    sortOrder := arguments.sortOrder.getD stored.sortOrder
    isActive := arguments.isActive.getD stored.isActive
    notes := arguments.notes.elim stored.notes strip
    version := stored.version + 1 }

def updateDocumentStructure (arguments : UpdateDocumentStructureArguments) :
    Except DomainError DocumentStructureStore := do
  services.userSession.requirePermission "settings.manage" "update document structure"
  let organization ← services.organization
  let stored ← storedStructure store organization arguments.structureId
  ensure (∀ version ∈ arguments.expectedVersion, stored.version = version)
    (staleWrite "Document structure")
  let documentStructure ← changedDocumentStructure store organization stored arguments
  return store.update documentStructure

end

/-! ## What the calls do -/

section

variable {services : DocumentServices} {store next : DocumentStructureStore} {organization : String}

theorem storedStructure_eq_ok {structureId : String} {stored : DocumentStructure}
    (h : storedStructure store organization structureId = .ok stored) :
    store.get? structureId = some stored ∧ stored.id = structureId := by
  obtain ⟨hfound, _⟩ := Option.filter_eq_some_iff.mp (require_eq_ok.mp h)
  exact ⟨hfound, (Table.get?_eq_some_iff.mp hfound).2⟩

theorem resolveStructure_eq_ok {given parent : Option String}
    (h : resolveStructure store organization given = .ok parent) :
    parent = normalizeReference given ∧ ∀ above ∈ parent, above ∈ store.ids := by
  unfold resolveStructure at h
  split at h
  next hnone =>
    cases h
    exact ⟨hnone.symm, fun _ habove => nomatch habove⟩
  next normalized hsome =>
    obtain ⟨stored, hstored, h⟩ := bind_ok h
    cases h
    obtain ⟨hfound, hid⟩ := storedStructure_eq_ok hstored
    refine ⟨hid ▸ hsome.symm, fun above habove => ?_⟩
    cases habove
    exact store.mem_ids (Table.get?_eq_some_iff.mp hfound).1

theorem createDocumentStructure_hierarchy {arguments : CreateDocumentStructureArguments}
    (h : store.Hierarchy DocumentStructure.parentStructureId)
    (hcall : createDocumentStructure services store arguments = .ok next) :
    next.Hierarchy DocumentStructure.parentStructureId := by
  obtain ⟨documentStructure, hnew, hcall⟩ := bind_ok hcall
  obtain ⟨_, hfresh, hcall⟩ := bind_ok hcall
  cases hcall
  refine h.insert (ensure_eq_ok.mp hfresh) ?_
  unfold newDocumentStructure at hnew
  iterate 4 obtain ⟨_, _, hnew⟩ := bind_ok hnew
  obtain ⟨_, hparent, hnew⟩ := bind_ok hnew
  obtain ⟨_, _, hnew⟩ := bind_ok hnew
  obtain ⟨_, _, hnew⟩ := bind_ok hnew
  cases hnew
  exact (resolveStructure_eq_ok hparent).2

def UpdateDocumentStructureArguments.parent (arguments : UpdateDocumentStructureArguments) :
    Option (Option String) :=
  arguments.parentStructureId.map fun given => normalizeReference (some given)

theorem changedDocumentStructure_parent {stored documentStructure : DocumentStructure}
    {arguments : UpdateDocumentStructureArguments}
    (h : changedDocumentStructure store organization stored arguments = .ok documentStructure) :
    documentStructure.id = stored.id ∧
      documentStructure.parentStructureId = arguments.parent.getD stored.parentStructureId ∧
      ∀ above, arguments.parent = some (some above) → above ∈ store.ids := by
  unfold changedDocumentStructure at h
  obtain ⟨_, _, h⟩ := bind_ok h
  obtain ⟨_, _, h⟩ := bind_ok h
  obtain ⟨parent, hparent, h⟩ := bind_ok h
  obtain ⟨_, _, h⟩ := bind_ok h
  cases h
  refine ⟨rfl, ?_⟩
  unfold UpdateDocumentStructureArguments.parent
  cases hgiven : arguments.parentStructureId with
  | none =>
      rw [hgiven] at hparent
      exact ⟨(Except.ok.inj hparent).symm, fun _ heq => nomatch heq⟩
  | some given =>
      rw [hgiven] at hparent
      obtain ⟨resolved, hresolved, hparent⟩ := bind_ok hparent
      obtain ⟨_, _, hparent⟩ := bind_ok hparent
      cases hparent
      obtain ⟨hnormalized, hstored⟩ := resolveStructure_eq_ok hresolved
      exact ⟨hnormalized, fun above heq =>
        hstored above (hnormalized.trans (Option.some.inj heq))⟩

theorem updateDocumentStructure_hierarchy {arguments : UpdateDocumentStructureArguments}
    (h : store.Hierarchy DocumentStructure.parentStructureId)
    (hcall : updateDocumentStructure services store arguments = .ok next) :
    next.Hierarchy DocumentStructure.parentStructureId ↔
      store.NotBelow DocumentStructure.parentStructureId arguments.structureId
        arguments.parent := by
  obtain ⟨_, _, hcall⟩ := bind_ok hcall
  obtain ⟨organization, _, hcall⟩ := bind_ok hcall
  obtain ⟨stored, hstored, hcall⟩ := bind_ok hcall
  obtain ⟨_, _, hcall⟩ := bind_ok hcall
  obtain ⟨documentStructure, hchanged, hcall⟩ := bind_ok hcall
  cases hcall
  obtain ⟨hid, hparent, hgiven⟩ := changedDocumentStructure_parent hchanged
  obtain ⟨hfound, hkey⟩ := storedStructure_eq_ok hstored
  rw [← hid.trans hkey] at hfound ⊢
  exact h.update_given_iff hfound hparent hgiven

end

end ProjectManager.Org
