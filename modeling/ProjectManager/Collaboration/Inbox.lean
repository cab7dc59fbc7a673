import ProjectManager.Auth.Domain
import ProjectManager.Collaboration.Mentions
import ProjectManager.Domain.Projects

/-! # The collaboration inbox

The comments on the tasks that a principal may see, which of them mention the
principal, and which the principal has read. A comment records who read it twice,
by user ids and by aliases.
-/

namespace ProjectManager

open Foundation

/-- A comment; in the stored rows the lists of texts are as they were written. -/
structure TaskComment where
  id : String
  taskId : String
  authorUserId : Option String := none
  authorUsername : Option String := none
  body : String
  mentions : List String := []
  mentionedUserIds : List String := []
  attachments : List String := []
  readBy : List String := []
  readByUserIds : List String := []
  createdAt : Moment
  deriving DecidableEq

structure CollaborationStore extends ProjectStore where
  comments : Table TaskComment.id := .empty

def stripTexts (texts : List String) : List String :=
  (texts.map strip).filter fun text => text ≠ ""

def taskCommentFromOrm (row : TaskComment) : TaskComment :=
  { row with
    mentions := (stripTexts row.mentions).map lower
    mentionedUserIds := stripTexts row.mentionedUserIds
    attachments := stripTexts row.attachments
    readBy := (stripTexts row.readBy).map lower
    readByUserIds := stripTexts row.readByUserIds }

/-! ## The principal -/

section

variable (principal : Option UserSessionPrincipal)

def principalUserId : String := strip ((principal.map UserSessionPrincipal.userId).getD "")

def principalPrimaryAlias : String :=
  lower (strip ((principal.map UserSessionPrincipal.username).getD ""))

def principalAliases : List String :=
  match principal with
  | none => []
  | some user =>
      ((if user.username = "" then [] else [lower (strip user.username)]) ++
        displayAliases user.displayName).filter fun token => token ≠ ""

def commentMentionsPrincipal (comment : TaskComment) : Bool :=
  let mentions := comment.mentions.map lower
  (principalUserId principal ≠ "" ∧
      principalUserId principal ∈ stripTexts comment.mentionedUserIds) ∨
    ∃ token ∈ principalAliases principal, token ∈ mentions

def commentIsUnreadForPrincipal (comment : TaskComment) : Bool :=
  let readBy := comment.readBy.map lower
  commentMentionsPrincipal principal comment ∧
    ¬ (principalUserId principal ≠ "" ∧
      principalUserId principal ∈ stripTexts comment.readByUserIds) ∧
      ∀ token ∈ principalAliases principal, token ∉ readBy

/-- What the loop that marks comments takes for read. -/
def alreadyRead (comment : TaskComment) : Bool :=
  let aliases := principalAliases principal
  let aliasReads := comment.readBy.map lower
  (principalUserId principal ≠ "" ∧
      principalUserId principal ∈ stripTexts comment.readByUserIds) ∨
    (aliases ≠ [] ∧ ∃ token ∈ aliases, token ∈ aliasReads)

def markedRead (comment : TaskComment) : TaskComment :=
  let userId := principalUserId principal
  let primaryAlias := principalPrimaryAlias principal
  { comment with
    readByUserIds := if userId = "" then comment.readByUserIds
      else sortedSet (stripTexts comment.readByUserIds ++ [userId])
    readBy := if primaryAlias = "" then comment.readBy
      else sortedSet (comment.readBy.map lower ++ [primaryAlias]) }

end

/-! ## Comments and items -/

structure CollaborationService where
  userSession : Option UserSessionPrincipal

structure CollaborationInboxItem where
  commentId : String
  taskId : String
  taskName : String
  projectId : String
  projectName : String
  authorUsername : String
  bodyPreview : String
  mentions : List String
  createdAt : Moment
  unread : Bool
  deriving DecidableEq

def bodyPreview (body : String) : String :=
  let words := (body.toList.splitOnP isSpace).filter fun word => word ≠ []
  let text := [' '].intercalate words
  String.ofList (if text.length ≤ 120 then text else text.take 117 ++ "...".toList)

section

variable (service : CollaborationService) (store : CollaborationStore)

/-- The projects whose collaboration the principal may read. -/
def accessibleCollaborationProjects : List Project :=
  store.projects.rows.filter fun project =>
    (sessionAuthorizationEngine service.userSession).hasScopePermission "project" project.id
      "collaboration.read"

def accessibleTasksForCollaboration : List Task :=
  (accessibleCollaborationProjects service store).flatMap fun project =>
    (store.tasksOf project.id).tasks

def listCommentsByTask (taskId : String) : List TaskComment :=
  ((store.comments.rows.filter fun row => row.taskId = taskId).insertionSort fun first second =>
    first.createdAt ≤ second.createdAt).map taskCommentFromOrm

/-- The comments on some tasks, the latest first. -/
def recentCommentsOf (taskIds : List String) : List TaskComment :=
  ((store.comments.rows.filter fun row => row.taskId ∈ taskIds).insertionSort fun first second =>
    second.createdAt ≤ first.createdAt).map taskCommentFromOrm

def listRecentForTasks (taskIds : List String) (limit : ℕ) : List TaskComment :=
  (recentCommentsOf store taskIds).take limit

def inboxItem (comment : TaskComment) (task : Task) : CollaborationInboxItem where
  commentId := comment.id
  taskId := task.id
  taskName := task.name
  projectId := task.projectId
  projectName := (((accessibleCollaborationProjects service store).find? fun project =>
    project.id = task.projectId).map Project.name).getD ""
  authorUsername := orElse (comment.authorUsername.getD "") "unknown"
  bodyPreview := bodyPreview comment.body
  mentions := comment.mentions
  createdAt := comment.createdAt
  unread := commentIsUnreadForPrincipal service.userSession comment

def buildCommentItems (limit : ℕ) (mentionsOnly : Bool) : List CollaborationInboxItem :=
  let tasks := accessibleTasksForCollaboration service store
  let comments := listRecentForTasks store (tasks.map Task.id) limit
  let items := comments.filterMap fun comment =>
    if mentionsOnly ∧ ¬ commentMentionsPrincipal service.userSession comment then none
    else (tasks.find? fun task => task.id = comment.taskId).map (inboxItem service store comment)
  (items.insertionSort fun first second => second.createdAt ≤ first.createdAt).take limit

def listInbox (limit : ℕ) : Except DomainError (List CollaborationInboxItem) := do
  (sessionAuthorizationEngine service.userSession).requirePermission "collaboration.read"
    "view collaboration inbox"
  return buildCommentItems service store limit true

def unreadMentionsCount : Except DomainError ℕ := do
  let items ← listInbox service store 500
  return items.countP fun item => item.unread

def markTaskMentionsRead (taskId : String) : Except DomainError CollaborationStore := do
  let task ← require (store.tasks.get? taskId) (notFoundError "Task not found." "TASK_NOT_FOUND")
  let engine := sessionAuthorizationEngine service.userSession
  engine.requirePermission "collaboration.read" "mark collaboration updates read"
  engine.requireProjectPermission task.projectId "collaboration.read"
    "mark collaboration updates read"
  if principalUserId service.userSession = "" ∧ principalAliases service.userSession = [] then
    return store
  else
    let marked := (listCommentsByTask store taskId).filter fun comment =>
      commentMentionsPrincipal service.userSession comment &&
        !alreadyRead service.userSession comment
    return { store with
      comments := marked.foldl (fun comments comment =>
        comments.update (markedRead service.userSession comment)) store.comments }

end

end ProjectManager
