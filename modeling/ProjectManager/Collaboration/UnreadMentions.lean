import ProjectManager.Collaboration.Inbox

/-! # Unread mentions

The number of unread mentions is taken from the latest comments only, and the
alias that a reader leaves on a comment may be an alias of another user too.
-/

namespace ProjectManager

open Foundation

/-! ## Texts that are read back as they were written -/

theorem mem_stripTexts {texts : List String} {text : String} :
    text ∈ stripTexts texts ↔ text ≠ "" ∧ ∃ raw ∈ texts, strip raw = text := by
  unfold stripTexts
  rw [List.mem_filter, List.mem_map, and_comm, decide_eq_true_iff]

theorem stripTexts_eq_self {texts : List String} (h : ∀ text ∈ texts, strip text = text ∧ text ≠ "") :
    stripTexts texts = texts := by
  have hstripped : texts.map strip = texts := by
    conv_rhs => rw [← List.map_id texts]
    exact List.map_congr_left fun text htext => (h text htext).1
  unfold stripTexts
  rw [hstripped, List.filter_eq_self]
  intro text htext
  exact decide_eq_true (h text htext).2

theorem stripTexts_stripTexts (texts : List String) : stripTexts (stripTexts texts) = stripTexts texts := by
  apply stripTexts_eq_self
  intro text htext
  obtain ⟨hne, raw, -, rfl⟩ := mem_stripTexts.mp htext
  exact ⟨strip_strip raw, hne⟩

/-- A text in the form in which aliases are kept. -/
def IsAlias (text : String) : Prop := strip text = text ∧ lower text = text ∧ text ≠ ""

theorem isAlias_lower_strip {text : String} (h : lower (strip text) ≠ "") :
    IsAlias (lower (strip text)) :=
  ⟨strip_lower_strip text, lower_lower _, h⟩

/-- A list of aliases is read back unchanged. -/
theorem map_lower_stripTexts {texts : List String} (h : ∀ text ∈ texts, IsAlias text) :
    (stripTexts texts).map lower = texts := by
  rw [stripTexts_eq_self fun text htext => ⟨(h text htext).1, (h text htext).2.2⟩]
  conv_rhs => rw [← List.map_id texts]
  exact List.map_congr_left fun text htext => (h text htext).2.1

theorem isAlias_of_mem_decoded {texts : List String} {text : String}
    (h : text ∈ (stripTexts texts).map lower) : IsAlias text := by
  obtain ⟨stripped, hstripped, rfl⟩ := List.mem_map.mp h
  obtain ⟨hne, raw, -, rfl⟩ := mem_stripTexts.mp hstripped
  exact isAlias_lower_strip fun heq => hne (lower_eq_empty.mp heq)

theorem map_lower_aliases {texts : List String} (h : ∀ text ∈ texts, IsAlias text) :
    texts.map lower = texts := by
  conv_rhs => rw [← List.map_id texts]
  exact List.map_congr_left fun text htext => (h text htext).2.1

/-! ## A comment with marks -/

section

variable {reader other : Option UserSessionPrincipal} {row comment : TaskComment}

theorem isAlias_of_mem_principalAliases {token : String} (h : token ∈ principalAliases reader) :
    token ≠ "" := by
  unfold principalAliases at h
  cases reader with
  | none => simp at h
  | some user => exact of_decide_eq_true (List.mem_filter.mp h).2

/-- The loop marks the comments that are unread. -/
theorem unread_iff : commentIsUnreadForPrincipal reader comment =
    (commentMentionsPrincipal reader comment && !alreadyRead reader comment) := by
  have haliases : (principalAliases reader ≠ [] ∧ ∃ token ∈ principalAliases reader,
      token ∈ comment.readBy.map lower) ↔ ∃ token ∈ principalAliases reader,
        token ∈ comment.readBy.map lower := by
    refine ⟨And.right, fun h => ⟨?_, h⟩⟩
    obtain ⟨token, htoken, -⟩ := h
    exact List.ne_nil_of_mem htoken
  rw [Bool.eq_iff_iff]
  simp only [commentIsUnreadForPrincipal, alreadyRead, haliases, Bool.and_eq_true,
    Bool.not_eq_true', decide_eq_true_iff, decide_eq_false_iff_not, not_or, not_exists, not_and]

theorem commentMentionsPrincipal_congr {first second : TaskComment}
    (hmentions : first.mentions.map lower = second.mentions.map lower)
    (husers : stripTexts first.mentionedUserIds = stripTexts second.mentionedUserIds) :
    commentMentionsPrincipal reader first = commentMentionsPrincipal reader second := by
  unfold commentMentionsPrincipal
  rw [hmentions, husers]

def rereadMarks (reader : Option UserSessionPrincipal) (row : TaskComment) : TaskComment :=
  taskCommentFromOrm (markedRead reader (taskCommentFromOrm row))

theorem mentions_rereadMarks : (rereadMarks reader row).mentions = (taskCommentFromOrm row).mentions :=
  map_lower_stripTexts fun _ => isAlias_of_mem_decoded

theorem mentionedUserIds_rereadMarks :
    (rereadMarks reader row).mentionedUserIds = (taskCommentFromOrm row).mentionedUserIds :=
  stripTexts_stripTexts _

theorem readByUserIds_markedRead : (markedRead reader comment).readByUserIds =
    if principalUserId reader = "" then comment.readByUserIds
    else sortedSet (stripTexts comment.readByUserIds ++ [principalUserId reader]) := by
  rw [markedRead]

theorem readByUserIds_rereadMarks : (rereadMarks reader row).readByUserIds =
    stripTexts (markedRead reader (taskCommentFromOrm row)).readByUserIds := by
  rw [rereadMarks, taskCommentFromOrm]

theorem mem_readByUserIds_rereadMarks {userId : String} :
    userId ∈ stripTexts (rereadMarks reader row).readByUserIds ↔
      userId ∈ stripTexts (taskCommentFromOrm row).readByUserIds ∨
        (userId = principalUserId reader ∧ principalUserId reader ≠ "") := by
  have hself : strip (principalUserId reader) = principalUserId reader := strip_strip _
  rw [readByUserIds_rereadMarks, stripTexts_stripTexts, readByUserIds_markedRead]
  split
  next hblank => simp [hblank]
  next hgiven =>
    rw [stripTexts_eq_self, mem_sortedSet, List.mem_append, List.mem_singleton,
      and_iff_left hgiven]
    intro text htext
    rcases List.mem_append.mp (mem_sortedSet.mp htext) with htext | htext
    · obtain ⟨hne, raw, -, rfl⟩ := mem_stripTexts.mp htext
      exact ⟨strip_strip raw, hne⟩
    · obtain rfl := List.mem_singleton.mp htext
      exact ⟨hself, hgiven⟩

theorem id_markedRead : (markedRead reader comment).id = comment.id := by
  rw [markedRead]

theorem readBy_markedRead : (markedRead reader comment).readBy =
    if principalPrimaryAlias reader = "" then comment.readBy
    else sortedSet (comment.readBy.map lower ++ [principalPrimaryAlias reader]) := by
  rw [markedRead]

theorem readBy_rereadMarks : (rereadMarks reader row).readBy =
    (stripTexts (markedRead reader (taskCommentFromOrm row)).readBy).map lower := by
  rw [rereadMarks, taskCommentFromOrm]

theorem isAlias_primaryAlias (h : principalPrimaryAlias reader ≠ "") :
    IsAlias (principalPrimaryAlias reader) :=
  isAlias_lower_strip h

theorem mem_readBy_markedRead {token : String} (hkept : ∀ text ∈ comment.readBy, IsAlias text) :
    token ∈ (markedRead reader comment).readBy ↔ token ∈ comment.readBy ∨
      (token = principalPrimaryAlias reader ∧ principalPrimaryAlias reader ≠ "") := by
  rw [readBy_markedRead, map_lower_aliases hkept]
  split
  next hblank => simp [hblank]
  next hgiven => rw [mem_sortedSet, List.mem_append, List.mem_singleton, and_iff_left hgiven]

theorem mem_readBy_rereadMarks {token : String} :
    token ∈ (rereadMarks reader row).readBy.map lower ↔
      token ∈ (taskCommentFromOrm row).readBy.map lower ∨
        (token = principalPrimaryAlias reader ∧ principalPrimaryAlias reader ≠ "") := by
  have hkept : ∀ text ∈ (taskCommentFromOrm row).readBy, IsAlias text :=
    fun _ => isAlias_of_mem_decoded
  have hmarks : ∀ text ∈ (markedRead reader (taskCommentFromOrm row)).readBy, IsAlias text := by
    intro text htext
    rcases (mem_readBy_markedRead hkept).mp htext with htext | ⟨rfl, hgiven⟩
    · exact hkept text htext
    · exact isAlias_primaryAlias hgiven
  rw [readBy_rereadMarks, map_lower_stripTexts hmarks, map_lower_aliases hmarks,
    map_lower_aliases hkept]
  exact mem_readBy_markedRead hkept

theorem unread_rereadMarks :
    commentIsUnreadForPrincipal other (rereadMarks reader row) = true ↔
      commentIsUnreadForPrincipal other (taskCommentFromOrm row) = true ∧
        ¬ (principalUserId other = principalUserId reader ∧ principalUserId reader ≠ "") ∧
          principalPrimaryAlias reader ∉ principalAliases other := by
  have hmentions : commentMentionsPrincipal other (rereadMarks reader row) =
      commentMentionsPrincipal other (taskCommentFromOrm row) :=
    commentMentionsPrincipal_congr (by rw [mentions_rereadMarks])
      (by rw [mentionedUserIds_rereadMarks])
  have hprimary : principalPrimaryAlias reader ∉ principalAliases other ↔
      ∀ token ∈ principalAliases other,
        ¬ (token = principalPrimaryAlias reader ∧ principalPrimaryAlias reader ≠ "") := by
    constructor
    · rintro h token htoken ⟨rfl, -⟩
      exact h htoken
    · intro h hmem
      exact h _ hmem ⟨rfl, isAlias_of_mem_principalAliases hmem⟩
  rw [hprimary]
  simp only [commentIsUnreadForPrincipal, decide_eq_true_iff, hmentions,
    mem_readByUserIds_rereadMarks, mem_readBy_rereadMarks, not_or]
  constructor
  · rintro ⟨hmentioned, hids, haliases⟩
    refine ⟨⟨hmentioned, fun h => hids ⟨h.1, .inl h.2⟩, fun token h => (haliases token h).1⟩, ?_,
      fun token h => (haliases token h).2⟩
    rintro ⟨heq, hne⟩
    exact hids ⟨heq ▸ hne, .inr ⟨heq, hne⟩⟩
  · rintro ⟨⟨hmentioned, hids, haliases⟩, hreader, hnew⟩
    refine ⟨hmentioned, ?_, fun token h => ⟨haliases token h, hnew token h⟩⟩
    rintro ⟨hne, h | h⟩
    · exact hids ⟨hne, h⟩
    · exact hreader h

end

/-! ## Marking the comments of a task -/

section

variable {service : CollaborationService} {store next : CollaborationStore} {taskId : String}

/-- What is stored for a row after the comments of a task were marked. -/
def rowMarkedRead (reader : Option UserSessionPrincipal) (taskId : String) (row : TaskComment) :
    TaskComment :=
  if row.taskId = taskId ∧ commentIsUnreadForPrincipal reader (taskCommentFromOrm row) then
    markedRead reader (taskCommentFromOrm row)
  else row

theorem id_rowMarkedRead (reader : Option UserSessionPrincipal) (taskId : String)
    (row : TaskComment) : (rowMarkedRead reader taskId row).id = row.id := by
  unfold rowMarkedRead
  split
  next => exact id_markedRead
  next => rfl

theorem taskId_rowMarkedRead (reader : Option UserSessionPrincipal) (taskId : String)
    (row : TaskComment) : (rowMarkedRead reader taskId row).taskId = row.taskId := by
  unfold rowMarkedRead
  split <;> rfl

theorem mem_listCommentsByTask {comment : TaskComment} :
    comment ∈ listCommentsByTask store taskId ↔
      ∃ row ∈ store.comments.rows, row.taskId = taskId ∧ taskCommentFromOrm row = comment := by
  unfold listCommentsByTask
  rw [List.mem_map]
  simp only [(List.perm_insertionSort _ _).mem_iff, List.mem_filter, decide_eq_true_iff, and_assoc]

theorem nodup_listCommentsByTask :
    ((listCommentsByTask store taskId).map TaskComment.id).Nodup := by
  unfold listCommentsByTask
  rw [List.map_map]
  have hids : (TaskComment.id ∘ taskCommentFromOrm) = TaskComment.id := rfl
  rw [hids]
  apply ((List.perm_insertionSort _ _).map TaskComment.id).nodup_iff.mpr
  exact (store.comments.filter fun row => row.taskId = taskId).nodup

theorem unread_anonymous {reader : Option UserSessionPrincipal} (hid : principalUserId reader = "")
    (haliases : principalAliases reader = []) (comment : TaskComment) :
    commentIsUnreadForPrincipal reader comment = false := by
  simp [commentIsUnreadForPrincipal, commentMentionsPrincipal, hid, haliases]

def commentsToMark (reader : Option UserSessionPrincipal) (store : CollaborationStore)
    (taskId : String) : List TaskComment :=
  (listCommentsByTask store taskId).filter fun comment =>
    commentMentionsPrincipal reader comment && !alreadyRead reader comment

theorem mem_commentsToMark {reader : Option UserSessionPrincipal} {comment : TaskComment} :
    comment ∈ commentsToMark reader store taskId ↔ ∃ row ∈ store.comments.rows,
      (row.taskId = taskId ∧ commentIsUnreadForPrincipal reader (taskCommentFromOrm row) = true) ∧
        taskCommentFromOrm row = comment := by
  unfold commentsToMark
  rw [List.mem_filter, mem_listCommentsByTask, ← unread_iff]
  constructor
  · rintro ⟨⟨row, hrow, htask, rfl⟩, hunread⟩
    exact ⟨row, hrow, ⟨htask, hunread⟩, rfl⟩
  · rintro ⟨row, hrow, ⟨htask, hunread⟩, rfl⟩
    exact ⟨⟨row, hrow, htask, rfl⟩, hunread⟩

theorem find?_commentsToMark {reader : Option UserSessionPrincipal} {row : TaskComment}
    (hrow : row ∈ store.comments.rows) :
    (((commentsToMark reader store taskId).find? fun comment => comment.id = row.id).map
      (markedRead reader)).getD row = rowMarkedRead reader taskId row := by
  unfold rowMarkedRead
  cases hfound : (commentsToMark reader store taskId).find? fun comment => comment.id = row.id with
  | none =>
      rw [List.find?_eq_none] at hfound
      rw [if_neg]
      · rfl
      · intro hunread
        have hmem := mem_commentsToMark.mpr ⟨row, hrow, hunread, rfl⟩
        exact hfound _ hmem (decide_eq_true rfl)
  | some comment =>
      obtain ⟨marked, hmarked, hunread, rfl⟩ :=
        mem_commentsToMark.mp (List.mem_of_find?_eq_some hfound)
      have hid := List.find?_some hfound
      rw [decide_eq_true_iff] at hid
      obtain rfl := store.comments.eq_of_key_eq hmarked hrow hid
      rw [if_pos hunread]
      rfl

theorem rows_foldl_markedRead (reader : Option UserSessionPrincipal) :
    ((commentsToMark reader store taskId).foldl (fun comments comment =>
        comments.update (markedRead reader comment)) store.comments).rows =
      store.comments.rows.map (rowMarkedRead reader taskId) := by
  have hids : ((commentsToMark reader store taskId).map (markedRead reader)).map TaskComment.id =
      (commentsToMark reader store taskId).map TaskComment.id := by
    simp only [List.map_map, Function.comp_def, id_markedRead]
  have hnodup : ((commentsToMark reader store taskId).map TaskComment.id).Nodup :=
    nodup_listCommentsByTask.sublist (List.filter_sublist.map _)
  rw [← List.foldl_map, Table.rows_foldl_update (hids ▸ hnodup)]
  apply List.map_congr_left
  intro row hrow
  rw [List.find?_map]
  simp only [Function.comp_def, id_markedRead]
  exact find?_commentsToMark hrow

theorem markTaskMentionsRead_rows (h : markTaskMentionsRead service store taskId = .ok next) :
    next = { store with comments := next.comments } ∧
      next.comments.rows =
        store.comments.rows.map (rowMarkedRead service.userSession taskId) := by
  obtain ⟨task, -, h⟩ := bind_ok h
  iterate 2 obtain ⟨_, -, h⟩ := bind_ok h
  dsimp only at h
  split at h
  next hanonymous =>
    cases h
    refine ⟨rfl, ?_⟩
    conv_lhs => rw [← List.map_id store.comments.rows]
    apply List.map_congr_left
    intro row _
    unfold rowMarkedRead
    rw [unread_anonymous hanonymous.1 hanonymous.2, if_neg (by simp)]
    rfl
  next =>
    cases h
    exact ⟨rfl, rows_foldl_markedRead service.userSession⟩

end

/-! ## Counting unread mentions -/

section

variable {service : CollaborationService} {store : CollaborationStore} {count : ℕ}

/-- The comments on the tasks that the principal may see, the latest first. -/
def accessibleComments (service : CollaborationService) (store : CollaborationStore) :
    List TaskComment :=
  recentCommentsOf store ((accessibleTasksForCollaboration service store).map Task.id)

theorem unread_mentions {reader : Option UserSessionPrincipal} {comment : TaskComment}
    (h : commentMentionsPrincipal reader comment = false) :
    commentIsUnreadForPrincipal reader comment = false := by
  rw [unread_iff, h, Bool.false_and]

theorem taskId_mem_of_accessible {comment : TaskComment}
    (h : comment ∈ accessibleComments service store) :
    ∃ task ∈ accessibleTasksForCollaboration service store, task.id = comment.taskId := by
  obtain ⟨row, hrow, rfl⟩ := List.mem_map.mp h
  rw [(List.perm_insertionSort _ _).mem_iff, List.mem_filter, decide_eq_true_iff] at hrow
  exact List.mem_map.mp hrow.2

/-- The inbox shows the unread mentions among its comments. -/
theorem countP_buildCommentItems (limit : ℕ) :
    ((buildCommentItems service store limit true).countP fun item => item.unread) =
      ((accessibleComments service store).take limit).countP
        (commentIsUnreadForPrincipal service.userSession) := by
  unfold buildCommentItems
  dsimp only
  rw [List.take_of_length_le, (List.perm_insertionSort _ _).countP_eq, List.countP_filterMap]
  · apply List.countP_congr
    intro comment hcomment
    cases hmentions : commentMentionsPrincipal service.userSession comment with
    | false =>
        rw [unread_mentions hmentions]
        simp
    | true =>
        obtain ⟨task, htask, hid⟩ := taskId_mem_of_accessible (List.mem_of_mem_take hcomment)
        have hfinds : ((accessibleTasksForCollaboration service store).find? fun task =>
            task.id = comment.taskId).isSome := by
          rw [List.find?_isSome]
          exact ⟨task, htask, decide_eq_true hid⟩
        obtain ⟨found, hfound⟩ := Option.isSome_iff_exists.mp hfinds
        rw [hfound]
        simp [inboxItem]
  · rw [List.length_insertionSort]
    exact (List.length_filterMap_le _ _).trans (List.length_take_le _ _)

theorem unreadMentionsCount_eq (h : unreadMentionsCount service store = .ok count) :
    count = ((accessibleComments service store).take 500).countP
      (commentIsUnreadForPrincipal service.userSession) := by
  obtain ⟨items, hitems, h⟩ := bind_ok h
  obtain ⟨_, -, hitems⟩ := bind_ok hitems
  cases hitems
  cases h
  exact countP_buildCommentItems 500

/-- The comments on accessible tasks that mention the principal and are not marked read. -/
def unreadMentions (service : CollaborationService) (store : CollaborationStore) : ℕ :=
  store.comments.rows.countP fun row =>
    decide (∃ task ∈ accessibleTasksForCollaboration service store, task.id = row.taskId) &&
      commentIsUnreadForPrincipal service.userSession (taskCommentFromOrm row)

theorem unreadMentions_eq : unreadMentions service store =
    (accessibleComments service store).countP
      (commentIsUnreadForPrincipal service.userSession) := by
  unfold unreadMentions accessibleComments recentCommentsOf
  rw [List.countP_map, (List.perm_insertionSort _ _).countP_eq, List.countP_filter]
  apply List.countP_congr
  intro row _
  simp [and_comm]

theorem countP_take_eq_iff {α : Type*} {p : α → Bool} {items : List α} {limit : ℕ} :
    (items.take limit).countP p = items.countP p ↔ ∀ item ∈ items.drop limit, p item = false := by
  have hparts : items.countP p = (items.take limit).countP p + (items.drop limit).countP p := by
    rw [← List.countP_append, List.take_append_drop]
  rw [hparts, left_eq_add, List.countP_eq_zero]
  simp only [Bool.not_eq_true]

end

/-! ## Exact and private -/

def unreadIds (store : CollaborationStore) (principal : Option UserSessionPrincipal) : Set String :=
  {id | ∃ row ∈ store.comments.rows, row.id = id ∧
    commentIsUnreadForPrincipal principal (taskCommentFromOrm row) = true}

/-- The comments of a task are read, and other comments and the rest of the store are as before. -/
structure MarksTask (reader : Option UserSessionPrincipal) (taskId : String)
    (store next : CollaborationStore) : Prop where
  rest : next = { store with comments := next.comments }
  ids : next.comments.ids = store.comments.ids
  others : ∀ row ∈ store.comments.rows, row.taskId ≠ taskId → row ∈ next.comments.rows
  cleared : ∀ row ∈ next.comments.rows, row.taskId = taskId →
    commentIsUnreadForPrincipal reader (taskCommentFromOrm row) = false

/-- The principal leaves a mark of its own on the comments it reads. -/
def LeavesMark (principal : Option UserSessionPrincipal) : Prop :=
  principalUserId principal ≠ "" ∨ principalPrimaryAlias principal ≠ ""

/-- The marks of one principal count for another one. -/
def SharesMarks (reader other : Option UserSessionPrincipal) : Prop :=
  (principalUserId other = principalUserId reader ∧ principalUserId reader ≠ "") ∨
    principalPrimaryAlias reader ∈ principalAliases other

/-- A comment on the task is unread for all the given principals. -/
def UnreadOn (store : CollaborationStore) (taskId : String)
    (principals : List (Option UserSessionPrincipal)) : Prop :=
  ∃ row ∈ store.comments.rows, row.taskId = taskId ∧ ∀ principal ∈ principals,
    commentIsUnreadForPrincipal principal (taskCommentFromOrm row) = true

section

variable {service : CollaborationService} {store next : CollaborationStore} {taskId : String}
  {reader other : Option UserSessionPrincipal}

theorem principalPrimaryAlias_mem (h : principalPrimaryAlias reader ≠ "") :
    principalPrimaryAlias reader ∈ principalAliases reader := by
  cases reader with
  | none => exact absurd (by decide) h
  | some user =>
      have hname : user.username ≠ "" := by
        intro hname
        unfold principalPrimaryAlias at h
        rw [Option.map_some, Option.getD_some, hname] at h
        exact h (by decide)
      unfold principalAliases
      rw [List.mem_filter, if_neg hname]
      exact ⟨List.mem_append_left _ List.mem_cons_self, decide_eq_true h⟩

theorem unread_rereadMarks_self {row : TaskComment} :
    commentIsUnreadForPrincipal reader (rereadMarks reader row) = true ↔
      commentIsUnreadForPrincipal reader (taskCommentFromOrm row) = true ∧
        ¬ LeavesMark reader := by
  rw [unread_rereadMarks, LeavesMark, not_or]
  simp only [true_and]
  refine and_congr_right fun _ => and_congr_right fun _ => ?_
  constructor
  · exact fun h hne => h (principalPrimaryAlias_mem hne)
  · exact fun h hmem => h (isAlias_of_mem_principalAliases hmem)

theorem marksTask_iff (h : markTaskMentionsRead service store taskId = .ok next) :
    MarksTask service.userSession taskId store next ↔
      (UnreadOn store taskId [service.userSession] → LeavesMark service.userSession) := by
  obtain ⟨hrest, hrows⟩ := markTaskMentionsRead_rows h
  have hunread : ∀ row, row.taskId = taskId →
      (commentIsUnreadForPrincipal service.userSession
        (taskCommentFromOrm (rowMarkedRead service.userSession taskId row)) = true ↔
          commentIsUnreadForPrincipal service.userSession (taskCommentFromOrm row) = true ∧
            ¬ LeavesMark service.userSession) := by
    intro row htask
    unfold rowMarkedRead
    split
    next hmarked => exact unread_rereadMarks_self
    next hkept =>
      rw [not_and] at hkept
      exact ⟨fun hrow => absurd hrow (hkept htask), fun hrow => absurd hrow.1 (hkept htask)⟩
  constructor
  · rintro hmarks ⟨row, hrow, htask, hall⟩
    by_contra hnone
    have hmem : rowMarkedRead service.userSession taskId row ∈ next.comments.rows :=
      hrows ▸ List.mem_map_of_mem hrow
    have hcleared := hmarks.cleared _ hmem ((taskId_rowMarkedRead _ _ _).trans htask)
    rw [(hunread row htask).mpr ⟨hall _ List.mem_cons_self, hnone⟩] at hcleared
    cases hcleared
  · intro hleaves
    refine ⟨hrest, ?_, ?_, ?_⟩
    · rw [Table.ids, hrows, List.map_map]
      exact List.map_congr_left fun row _ => id_rowMarkedRead _ _ row
    · intro row hrow hother
      have hkept : rowMarkedRead service.userSession taskId row = row :=
        if_neg fun hmarked => hother hmarked.1
      rw [hrows, ← hkept]
      exact List.mem_map_of_mem hrow
    · intro row hrow htask
      rw [hrows] at hrow
      obtain ⟨stored, hstored, rfl⟩ := List.mem_map.mp hrow
      rw [taskId_rowMarkedRead] at htask
      by_contra hstill
      rw [Bool.not_eq_false, hunread stored htask] at hstill
      refine hstill.2 (hleaves ⟨stored, hstored, htask, fun principal hprincipal => ?_⟩)
      obtain rfl := List.mem_singleton.mp hprincipal
      exact hstill.1

theorem unreadIds_eq_iff (h : markTaskMentionsRead service store taskId = .ok next) :
    unreadIds next other = unreadIds store other ↔
      (UnreadOn store taskId [service.userSession, other] →
        ¬ SharesMarks service.userSession other) := by
  obtain ⟨-, hrows⟩ := markTaskMentionsRead_rows h
  have hunread : ∀ row, commentIsUnreadForPrincipal other
      (taskCommentFromOrm (rowMarkedRead service.userSession taskId row)) = true ↔
        commentIsUnreadForPrincipal other (taskCommentFromOrm row) = true ∧
          ((row.taskId = taskId ∧
            commentIsUnreadForPrincipal service.userSession (taskCommentFromOrm row) = true) →
              ¬ SharesMarks service.userSession other) := by
    intro row
    rw [SharesMarks, not_or]
    unfold rowMarkedRead
    split
    next hmarked =>
      rw [imp_iff_right hmarked]
      exact unread_rereadMarks
    next hkept => rw [and_iff_left fun hmarked => absurd hmarked hkept]
  have hids : ∀ id, id ∈ unreadIds next other ↔ ∃ row ∈ store.comments.rows, row.id = id ∧
      commentIsUnreadForPrincipal other
        (taskCommentFromOrm (rowMarkedRead service.userSession taskId row)) = true := by
    intro id
    unfold unreadIds
    rw [Set.mem_ofPred_eq, hrows]
    simp only [List.mem_map, exists_exists_and_eq_and, id_rowMarkedRead]
  constructor
  · rintro heq ⟨row, hrow, htask, hall⟩
    have hbefore : row.id ∈ unreadIds store other := ⟨row, hrow, rfl, hall _ (by simp)⟩
    rw [← heq, hids] at hbefore
    obtain ⟨same, hsame, hid, hafter⟩ := hbefore
    obtain rfl := store.comments.eq_of_key_eq hsame hrow hid
    exact ((hunread same).mp hafter).2 ⟨htask, hall _ (by simp)⟩
  · intro hprivate
    ext id
    rw [hids]
    refine exists_congr fun row => and_congr_right fun hrow => and_congr_right fun _ => ?_
    rw [hunread, and_iff_left_iff_imp]
    rintro hother ⟨htask, hreader⟩
    exact hprivate ⟨row, hrow, htask, by simpa using ⟨hreader, hother⟩⟩

end

/-- Unread mentions are counted exactly, marked exactly and privately, exactly when none is beyond
the latest comments, the reader leaves a mark, and the mark is not shared by another user who has
the same comment to read. -/
theorem unreadMentions_exact_iff {service : CollaborationService}
    {store next : CollaborationStore} {taskId : String} {count : ℕ}
    (hcount : unreadMentionsCount service store = .ok count)
    (hmark : markTaskMentionsRead service store taskId = .ok next)
    (other : UserSessionPrincipal) :
    (count = unreadMentions service store ∧ MarksTask service.userSession taskId store next ∧
        unreadIds next (some other) = unreadIds store (some other)) ↔
      (∀ comment ∈ (accessibleComments service store).drop 500,
          commentIsUnreadForPrincipal service.userSession comment = false) ∧
        (UnreadOn store taskId [service.userSession] → LeavesMark service.userSession) ∧
          (UnreadOn store taskId [service.userSession, some other] →
            ¬ SharesMarks service.userSession (some other)) := by
  rw [unreadMentionsCount_eq hcount, unreadMentions_eq, countP_take_eq_iff, marksTask_iff hmark,
    unreadIds_eq_iff hmark]

/-- A user who may read the collaboration of all projects. -/
def collaborator (userId username : String) (h : userId ≠ "") (displayName : Option String) :
    UserSessionPrincipal where
  userId := userId
  userId_ne := h
  username := username
  displayName := displayName
  permissions := ["collaboration.read"]

/-- A comment for two users. -/
def reviewComment : CollaborationStore where
  projects := ⟨[{ id := "P1", name := "North" }], by decide⟩
  tasks := ⟨[{ id := "T1", projectId := "P1", name := "Weld" }], by decide⟩
  comments := ⟨[{ id := "C1", taskId := "T1", body := "Please review, @alice and @bob"
                  mentions := ["alice", "bob"], mentionedUserIds := ["U1", "U2"]
                  createdAt := 0 }], by decide⟩

/-- Two users whose names differ. -/
theorem unreadMentions_exact_reviewComment :
    ∃ next, markTaskMentionsRead ⟨collaborator "U1" "alice" (by decide) none⟩ reviewComment "T1" =
        .ok next ∧
      unreadIds next (collaborator "U2" "bob" (by decide) none) =
        unreadIds reviewComment (collaborator "U2" "bob" (by decide) none) := by
  have hok : (markTaskMentionsRead ⟨collaborator "U1" "alice" (by decide) none⟩ reviewComment
      "T1").isOk = true := by
    decide +kernel
  have hcount : unreadMentionsCount ⟨collaborator "U1" "alice" (by decide) none⟩ reviewComment =
      .ok 1 := by
    decide +kernel
  obtain ⟨next, hnext⟩ := isOk_iff.mp hok
  refine ⟨next, hnext, ?_⟩
  refine ((unreadMentions_exact_iff hcount hnext (collaborator "U2" "bob" (by decide) none)).mpr
    ⟨by decide +kernel, fun _ => ?_, fun _ => ?_⟩).2.2
  · unfold LeavesMark
    decide +kernel
  · unfold SharesMarks
    decide +kernel

/-- The mark of alice counts for bob, whose display name is her handle. -/
theorem not_unreadMentions_exact_namesake :
    unreadMentionsCount ⟨collaborator "U2" "bob" (by decide) (some "Alice")⟩ reviewComment = .ok 1 ∧
      (do
        let next ← markTaskMentionsRead ⟨collaborator "U1" "alice" (by decide) none⟩ reviewComment
          "T1"
        unreadMentionsCount ⟨collaborator "U2" "bob" (by decide) (some "Alice")⟩ next) = .ok 0 := by
  constructor <;> decide +kernel

end ProjectManager
