import ProjectManager.Importing.Rows
import ProjectManager.Org.Organizations

/-! # Sites and parties

The services that keep the sites and the parties of the active organization. Both
find a record by its code, create it, and update the fields that are given. The
unique codes of the database are checked before a record is added, so that the
database never refuses it.
-/

namespace ProjectManager.MasterData

open Foundation Org

structure Site where
  id : String
  organizationId : String
  siteCode : String
  name : String
  description : String := ""
  country : String := ""
  region : String := ""
  city : String := ""
  addressLine1 : String := ""
  addressLine2 : String := ""
  postalCode : String := ""
  timezone : String := ""
  currencyCode : String := ""
  siteType : String := ""
  status : String := "ACTIVE"
  defaultCalendarId : String := ""
  defaultLanguage : String := ""
  isActive : Bool := true
  openedAt : Option Moment := none
  closedAt : Option Moment := none
  notes : String := ""
  version : ℕ := 1
  deriving DecidableEq

structure Party where
  id : String
  organizationId : String
  partyCode : String
  partyName : String
  partyType : PartyType := .general
  legalName : String := ""
  contactName : String := ""
  email : String := ""
  phone : String := ""
  country : String := ""
  city : String := ""
  addressLine1 : String := ""
  addressLine2 : String := ""
  postalCode : String := ""
  website : String := ""
  taxRegistrationNumber : String := ""
  externalReference : String := ""
  isActive : Bool := true
  notes : String := ""
  version : ℕ := 1
  deriving DecidableEq

structure MasterDataStore where
  organizations : OrganizationStore := .empty
  sites : Table Site.id := .empty
  parties : Table Party.id := .empty

/-- Who calls, when, and the generator of ids, which are new. -/
structure MasterDataService where
  userSession : AuthorizationEngine
  now : Moment
  generateId : List String → String
  generateId_fresh : ∀ ids, generateId ids ∉ ids

/-- `get_active`, the first by display name. -/
def getActive (store : MasterDataStore) : Option Organization :=
  ((store.organizations.rows.filter fun row => row.isActive).insertionSort fun first second =>
    first.displayName ≤ second.displayName).head?

def activeOrganization (store : MasterDataStore) : Except DomainError Organization :=
  require (getActive store)
    (notFoundError "Active organization not found." "ORGANIZATION_NOT_FOUND")

/-- A text that is given replaces the stored one. -/
def givenStripped (given : Option String) (stored : String) : String :=
  (given.map strip).getD stored

/-! ## Sites -/

/-- The keyword arguments that an import gives. -/
structure SitePayload where
  name : String
  description : Option String := none
  country : Option String := none
  region : Option String := none
  city : Option String := none
  addressLine1 : Option String := none
  addressLine2 : Option String := none
  postalCode : Option String := none
  siteType : Option String := none
  status : Option String := none
  defaultCalendarId : Option String := none
  defaultLanguage : Option String := none
  notes : Option String := none
  timezoneName : Option String := none
  currencyCode : Option String := none
  isActive : Option Bool := none

def normalizeStatus (value : Option String) (isActive : Bool) : String :=
  orElse (upper (strip (value.getD ""))) (if isActive then "ACTIVE" else "INACTIVE")

section

variable (service : MasterDataService) (store : MasterDataStore)

def siteByCode (organizationId siteCode : String) : Option Site :=
  store.sites.rows.find? fun site => site.organizationId = organizationId ∧ site.siteCode = siteCode

def findSiteByCode (siteCode : String) : Except DomainError (Option Site) := do
  service.userSession.requireAnyPermission ["settings.manage", "site.read"] "resolve site"
  let normalizedCode ← Org.normalizeCode siteCode "Site code"
  let organization ← activeOrganization store
  return siteByCode store organization.id normalizedCode

def siteCodeExists : DomainError :=
  validationError "Site code already exists in the active organization." "SITE_CODE_EXISTS"

def createdSite (organization : Organization) (siteCode name : String) (payload : SitePayload) :
    Site :=
  let isActive := payload.isActive.getD true
  { id := service.generateId store.sites.ids
    organizationId := organization.id
    siteCode := siteCode
    name := name
    description := givenStripped payload.description ""
    country := givenStripped payload.country ""
    region := givenStripped payload.region ""
    city := givenStripped payload.city ""
    addressLine1 := givenStripped payload.addressLine1 ""
    addressLine2 := givenStripped payload.addressLine2 ""
    postalCode := givenStripped payload.postalCode ""
    timezone := orElse (givenStripped payload.timezoneName "") organization.timezoneName
    currencyCode := orElse (upper (givenStripped payload.currencyCode "")) organization.baseCurrency
    siteType := givenStripped payload.siteType ""
    status := normalizeStatus payload.status isActive
    defaultCalendarId := orElse (givenStripped payload.defaultCalendarId "") "default"
    defaultLanguage := givenStripped payload.defaultLanguage ""
    isActive := isActive
    openedAt := if isActive then some service.now else none
    notes := givenStripped payload.notes "" }

def createSite (siteCode : String) (payload : SitePayload) : Except DomainError MasterDataStore := do
  service.userSession.requirePermission "settings.manage" "create site"
  let organization ← activeOrganization store
  let normalizedCode ← Org.normalizeCode siteCode "Site code"
  let normalizedName ← Org.normalizeName payload.name "Site name"
  ensure (siteByCode store organization.id normalizedCode = none) siteCodeExists
  let site := createdSite service store organization normalizedCode normalizedName payload
  return { store with sites := store.sites.insert site }

/-- The dates of a site whose activity changes. -/
def Site.toggled (site : Site) (wasActive : Bool) (status : Option String) (now : Moment) : Site :=
  if site.isActive = wasActive then site
  else if site.isActive then
    { site with
      status := if status = none then "ACTIVE" else site.status
      closedAt := none
      openedAt := site.openedAt.or (some now) }
  else
    { site with
      status := if status = none then "INACTIVE" else site.status
      closedAt := site.closedAt.or (some now) }

def updatedSite (site : Site) (name : String) (payload : SitePayload) : Site :=
  let changed : Site :=
    { site with
      name := name
      description := givenStripped payload.description site.description
      country := givenStripped payload.country site.country
      region := givenStripped payload.region site.region
      city := givenStripped payload.city site.city
      addressLine1 := givenStripped payload.addressLine1 site.addressLine1
      addressLine2 := givenStripped payload.addressLine2 site.addressLine2
      postalCode := givenStripped payload.postalCode site.postalCode
      timezone := givenStripped payload.timezoneName site.timezone
      currencyCode := (payload.currencyCode.map fun code => upper (strip code)).getD
        site.currencyCode
      siteType := givenStripped payload.siteType site.siteType
      status := (payload.status.map fun status =>
        normalizeStatus (some status) (payload.isActive.getD site.isActive)).getD site.status
      defaultCalendarId := givenStripped payload.defaultCalendarId site.defaultCalendarId
      defaultLanguage := givenStripped payload.defaultLanguage site.defaultLanguage
      isActive := payload.isActive.getD site.isActive
      notes := givenStripped payload.notes site.notes }
  { changed.toggled site.isActive payload.status service.now with version := site.version + 1 }

def updateSite (siteId : String) (expectedVersion : ℕ) (payload : SitePayload) :
    Except DomainError MasterDataStore := do
  service.userSession.requirePermission "settings.manage" "update site"
  let organization ← activeOrganization store
  let site ← require
    ((store.sites.get? siteId).filter fun site => site.organizationId = organization.id)
    (notFoundError "Site not found in the active organization." "SITE_NOT_FOUND")
  ensure (site.version = expectedVersion) (staleWrite "Site")
  let name ← Org.normalizeName payload.name "Site name"
  return { store with sites := store.sites.update (updatedSite service site name payload) }

end

/-! ## Parties -/

structure PartyPayload where
  partyName : String
  partyType : Option PartyType := none
  legalName : Option String := none
  contactName : Option String := none
  email : Option String := none
  phone : Option String := none
  country : Option String := none
  city : Option String := none
  addressLine1 : Option String := none
  addressLine2 : Option String := none
  postalCode : Option String := none
  website : Option String := none
  taxRegistrationNumber : Option String := none
  externalReference : Option String := none
  notes : Option String := none
  isActive : Option Bool := none

section

variable (service : MasterDataService) (store : MasterDataStore)

def partyByCode (organizationId partyCode : String) : Option Party :=
  store.parties.rows.find? fun party =>
    party.organizationId = organizationId ∧ party.partyCode = partyCode

def findPartyByCode (partyCode : String) : Except DomainError (Option Party) := do
  service.userSession.requireAnyPermission ["settings.manage", "party.read"] "resolve party"
  let normalizedCode ← Org.normalizeCode partyCode "Party code"
  let organization ← activeOrganization store
  return partyByCode store organization.id normalizedCode

def partyCodeExists : DomainError :=
  validationError "Party code already exists in the active organization." "PARTY_CODE_EXISTS"

/-- A party with the fields that are given. -/
def Party.withGiven (party : Party) (payload : PartyPayload) : Party :=
  { party with
    partyType := payload.partyType.getD party.partyType
    legalName := givenStripped payload.legalName party.legalName
    contactName := givenStripped payload.contactName party.contactName
    email := (payload.email.map fun email => lower (strip email)).getD party.email
    phone := givenStripped payload.phone party.phone
    country := givenStripped payload.country party.country
    city := givenStripped payload.city party.city
    addressLine1 := givenStripped payload.addressLine1 party.addressLine1
    addressLine2 := givenStripped payload.addressLine2 party.addressLine2
    postalCode := givenStripped payload.postalCode party.postalCode
    website := givenStripped payload.website party.website
    taxRegistrationNumber := givenStripped payload.taxRegistrationNumber
      party.taxRegistrationNumber
    externalReference := givenStripped payload.externalReference party.externalReference
    isActive := payload.isActive.getD party.isActive
    notes := givenStripped payload.notes party.notes }

def createdParty (organization : Organization) (partyCode partyName : String)
    (payload : PartyPayload) : Party :=
  let blank : Party :=
    { id := service.generateId store.parties.ids
      organizationId := organization.id
      partyCode := partyCode
      partyName := partyName }
  blank.withGiven payload

def createParty (partyCode : String) (payload : PartyPayload) :
    Except DomainError MasterDataStore := do
  service.userSession.requirePermission "settings.manage" "create party"
  let organization ← activeOrganization store
  let normalizedCode ← Org.normalizeCode partyCode "Party code"
  let normalizedName ← Org.normalizeName payload.partyName "Party name"
  ensure (partyByCode store organization.id normalizedCode = none) partyCodeExists
  let party := createdParty service store organization normalizedCode normalizedName payload
  return { store with parties := store.parties.insert party }

def updatedParty (party : Party) (partyName : String) (payload : PartyPayload) : Party :=
  { party.withGiven payload with partyName := partyName, version := party.version + 1 }

def updateParty (partyId : String) (expectedVersion : ℕ) (payload : PartyPayload) :
    Except DomainError MasterDataStore := do
  service.userSession.requirePermission "settings.manage" "update party"
  let organization ← activeOrganization store
  let party ← require
    ((store.parties.get? partyId).filter fun party => party.organizationId = organization.id)
    (notFoundError "Party not found in the active organization." "PARTY_NOT_FOUND")
  ensure (party.version = expectedVersion) (staleWrite "Party")
  let name ← Org.normalizeName payload.partyName "Party name"
  return { store with parties := store.parties.update (updatedParty party name payload) }

end

end ProjectManager.MasterData
