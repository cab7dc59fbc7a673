import ProjectManager.Auth.Domain

/-! # Roles and separation of duties

The permissions that exist, what the system roles are granted, and the pairs of
permissions that nobody but an administrator holds together.
-/

namespace ProjectManager

open Foundation

/-! ## Permissions of the system roles -/

def defaultPermissions : List String :=
  ["project.read", "project.manage", "task.read", "task.manage", "time.read", "time.manage",
    "resource.read", "resource.manage", "employee.read", "employee.manage", "inventory.read",
    "inventory.manage", "maintenance.read", "maintenance.manage", "site.read", "department.read",
    "party.read", "cost.read", "cost.manage", "finance.read", "finance.manage", "finance.export",
    "payroll.read", "payroll.manage", "payroll.approve", "payroll.export", "baseline.manage",
    "register.read", "register.manage", "report.view", "report.export", "portfolio.read",
    "portfolio.manage", "collaboration.read", "collaboration.manage", "timesheet.submit",
    "timesheet.approve", "timesheet.lock", "audit.read", "support.manage", "access.manage",
    "import.manage", "approval.request", "approval.decide", "settings.manage", "auth.read",
    "auth.manage", "security.manage"]

namespace RolePermissions

def viewer : List String :=
  ["project.read", "task.read", "time.read", "resource.read", "cost.read", "register.read",
    "report.view", "collaboration.read"]

def teamMember : List String :=
  viewer ++ ["collaboration.manage", "timesheet.submit"]

def planner : List String :=
  teamMember ++ ["project.manage", "task.manage", "time.manage", "baseline.manage",
    "register.manage", "report.export", "portfolio.read", "approval.request", "import.manage"]

def projectManager : List String :=
  planner ++ ["cost.manage", "finance.read", "finance.export", "timesheet.approve"]

def resourceManager : List String :=
  ["project.read", "task.read", "time.read", "resource.read", "resource.manage", "employee.read",
    "employee.manage", "site.read", "department.read", "report.view", "report.export",
    "collaboration.read", "timesheet.approve", "timesheet.lock"]

def financeController : List String :=
  ["project.read", "task.read", "time.read", "resource.read", "cost.read", "cost.manage",
    "party.read", "register.read", "report.view", "report.export", "finance.read",
    "finance.manage", "finance.export", "payroll.read", "approval.request"]

def inventoryManager : List String :=
  ["inventory.read", "inventory.manage", "site.read", "party.read", "report.view",
    "report.export", "import.manage", "approval.request"]

def maintenanceManager : List String :=
  ["maintenance.read", "maintenance.manage", "time.read", "time.manage", "site.read",
    "employee.read", "party.read", "report.view", "report.export", "approval.request",
    "import.manage"]

def payrollManager : List String :=
  ["project.read", "task.read", "time.read", "resource.read", "employee.read", "employee.manage",
    "site.read", "department.read", "report.view", "payroll.read", "payroll.manage",
    "payroll.approve", "payroll.export", "timesheet.approve", "timesheet.lock", "audit.read"]

def portfolioManager : List String :=
  ["project.read", "task.read", "time.read", "resource.read", "cost.read", "register.read",
    "report.view", "report.export", "portfolio.read", "portfolio.manage", "collaboration.read",
    "approval.request"]

def approver : List String :=
  ["project.read", "resource.read", "task.read", "time.read", "cost.read", "register.read",
    "report.view", "portfolio.read", "finance.read", "payroll.read", "approval.decide"]

def auditor : List String :=
  ["project.read", "task.read", "time.read", "resource.read", "cost.read", "finance.read",
    "payroll.read", "register.read", "report.view", "portfolio.read", "collaboration.read",
    "audit.read"]

def accessAdmin : List String :=
  ["project.read", "site.read", "auth.read", "access.manage", "audit.read"]

def securityAdmin : List String :=
  ["auth.read", "audit.read", "settings.manage", "security.manage"]

def supportAdmin : List String :=
  ["project.read", "task.read", "time.read", "register.read", "report.view", "auth.read",
    "audit.read", "support.manage"]

end RolePermissions

open RolePermissions in
def defaultRolePermissions : List (String × List String) :=
  [("viewer", viewer), ("team_member", teamMember), ("planner", planner),
    ("project_manager", projectManager), ("resource_manager", resourceManager),
    ("finance", financeController), ("finance_controller", financeController),
    ("inventory_manager", inventoryManager), ("maintenance_manager", maintenanceManager),
    ("maintenance_admin", maintenanceManager), ("payroll_manager", payrollManager),
    ("portfolio_manager", portfolioManager), ("approver", approver), ("auditor", auditor),
    ("access_admin", accessAdmin), ("security_admin", securityAdmin),
    ("support_admin", supportAdmin), ("admin", defaultPermissions)]

def permissionsOfRole (roleName : String) : List String :=
  (defaultRolePermissions.lookup roleName).getD []

def defaultRoleNames : List String := defaultRolePermissions.map Prod.fst

/-! ## Separation of duties -/

structure SeparationOfDutiesRule where
  requiredPermissions : List String
  message : String

def defaultSeparationOfDutiesRules : List SeparationOfDutiesRule :=
  [{ requiredPermissions := ["approval.request", "approval.decide"]
     message := "Users cannot both request and decide the same governed approvals." },
    { requiredPermissions := ["access.manage", "security.manage"]
      message :=
        "Users cannot both manage scoped access and manage login security controls." }]

def findConflicts (rules : List SeparationOfDutiesRule) (permissionCodes : List String) :
    List String :=
  let normalizedPermissions := (permissionCodes.map strip).filter (· ≠ "")
  (rules.filter fun rule =>
    decide (∀ code ∈ rule.requiredPermissions, code ∈ normalizedPermissions)).map
      SeparationOfDutiesRule.message

def normalizeRoleNames (roleNames : List String) : List String :=
  (roleNames.filter fun roleName => strip roleName ≠ "").map fun roleName => lower (strip roleName)

/-- Nothing is refused when the administrator role is among the names. The permissions are those
that a role has by default. -/
def enforceSeparationOfDuties (rules : List SeparationOfDutiesRule) (roleNames : List String)
    (store : AuthStore) : Except DomainError Unit :=
  let normalizedRoleNames := normalizeRoleNames roleNames
  if "admin" ∈ normalizedRoleNames then .ok ()
  else do
    let roles ← normalizedRoleNames.mapM (requireRoleByName store)
    match findConflicts rules (roles.flatMap fun role => permissionsOfRole role.name) with
    | [] => .ok ()
    | conflict :: _ => .error (validationError
        ("Role assignment violates separation of duties. " ++ conflict) "ROLE_CONFLICT")

end ProjectManager
