import ProjectManager.Domain.Errors
import ProjectManager.Domain.Text
import ProjectManager.Foundation.Calls

/-! # Permissions and arguments

What the authorization engine answers for the current user session, and the
checks that services make with it. The services take a member of an enumeration or the
text of one. A text that is empty stands for a default. Codes and names of master data
are checked in the same way by the services of organizations, departments and documents.
-/

namespace ProjectManager

open Foundation

structure AuthorizationEngine where
  hasPermission : String → Bool
  hasScopePermission : String → String → String → Bool

def permissionDenied (message : String) : DomainError where
  errorClass := .businessRuleError
  message := message
  code := "PERMISSION_DENIED"

namespace AuthorizationEngine

variable (engine : AuthorizationEngine)

def requirePermission (permissionCode operationLabel : String) : Except DomainError Unit :=
  ensure (engine.hasPermission permissionCode = true) (permissionDenied
    ("Permission denied for " ++ operationLabel ++ ". Missing '" ++ permissionCode ++ "'."))

def requireAnyPermission (permissionCodes : List String) (operationLabel : String) :
    Except DomainError Unit :=
  ensure (∃ code ∈ permissionCodes, engine.hasPermission code = true) (permissionDenied
    ("Permission denied for " ++ operationLabel ++ ". Missing one of " ++
      String.intercalate " or " (permissionCodes.map fun code => "'" ++ code ++ "'") ++ "."))

def requireScopePermission (scopeType scopeId permissionCode operationLabel : String) :
    Except DomainError Unit :=
  ensure (engine.hasScopePermission scopeType scopeId permissionCode = true) (permissionDenied
    ("Permission denied for " ++ operationLabel ++ ". Missing scoped '" ++ permissionCode ++
      "' access for " ++ scopeType ++ " '" ++ orElse (strip scopeId) "unknown" ++ "'."))

def requireProjectPermission (projectId permissionCode operationLabel : String) :
    Except DomainError Unit :=
  engine.requireScopePermission "project" projectId permissionCode operationLabel

end AuthorizationEngine

/-- A session that may do everything. -/
def AuthorizationEngine.admin : AuthorizationEngine where
  hasPermission _ := true
  hasScopePermission _ _ _ := true

end ProjectManager

namespace ProjectManager

open Foundation

/-- A member of an enumeration, or the text of one. -/
inductive Choice (α : Type)
  | member (value : α)
  | text (raw : String)
  deriving DecidableEq

def coerce {α : Type} (members : List α) (value : α → String) (default : String)
    (error : DomainError) : Option (Choice α) → Except DomainError α
  | some (.member chosen) => .ok chosen
  | some (.text raw) =>
      require (members.find? fun a => value a = upper (strip (orElse raw default))) error
  | none => require (members.find? fun a => value a = upper (strip default)) error

end ProjectManager

namespace ProjectManager.Org

open Foundation

/-- `label.upper().replace(" ", "_")` with the suffix of a required field. -/
def requiredCode (label : String) : String :=
  String.ofList ((upper label).toList.map fun c => if c = ' ' then '_' else c) ++ "_REQUIRED"

def normalizeCode (value label : String) : Except DomainError String := do
  let normalized := upper (strip value)
  ensure (normalized ≠ "") (validationError (label ++ " is required.") (requiredCode label))
  return normalized

def normalizeName (value label : String) : Except DomainError String := do
  let normalized := strip value
  ensure (normalized ≠ "") (validationError (label ++ " is required.") (requiredCode label))
  return normalized

/-- A reference that is blank is none. -/
def normalizeReference (value : Option String) : Option String :=
  (some (strip (value.getD ""))).filter (· ≠ "")

/-- A field that is given is checked and replaces the stored one. -/
def givenOr {α β : Type} (given : Option α) (stored : β) (check : α → Except DomainError β) :
    Except DomainError β :=
  match given with
  | none => .ok stored
  | some value => check value

theorem givenOr_none {α β : Type} (stored : β) (check : α → Except DomainError β) :
    givenOr none stored check = .ok stored :=
  rfl

theorem givenOr_some {α β : Type} (value : α) (stored : β) (check : α → Except DomainError β) :
    givenOr (some value) stored check = check value :=
  rfl

end ProjectManager.Org
