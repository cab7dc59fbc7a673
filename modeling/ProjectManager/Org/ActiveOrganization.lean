import ProjectManager.Org.Organizations

/-! # One active organization

Whoever activates an organization writes the row of the one that was active when the list
was read, and so fails if another session has written that row since. However sessions
interleave, exactly one organization is active in whatever is committed.
-/

namespace ProjectManager.Org

open Foundation

def ExactlyOneActive (store : OrganizationStore) : Prop := (listActive store).length = 1

instance (store : OrganizationStore) : Decidable (ExactlyOneActive store) :=
  inferInstanceAs (Decidable (_ = _))

/-- The organization is the one that is active. -/
structure OnlyActive (store : OrganizationStore) (organization : Organization) : Prop where
  stored : store.get? organization.id = some organization
  active : organization.isActive = true
  only : ∀ other, store.get? other.id = some other → other.isActive = true →
    other.id = organization.id

theorem exactlyOneActive_iff {store : OrganizationStore} :
    ExactlyOneActive store ↔ ∃ organization, OnlyActive store organization := by
  unfold ExactlyOneActive listActive
  rw [List.length_eq_one_iff]
  constructor
  · rintro ⟨organization, h⟩
    have hmem : ∀ other, other ∈ store.rows ∧ other.isActive = true ↔ other = organization := by
      intro other
      have hfiltered : other ∈ store.rows.filter (fun organization => organization.isActive = true) ↔
          other ∈ [organization] := by rw [h]
      rwa [List.mem_filter, decide_eq_true_iff, List.mem_singleton] at hfiltered
    obtain ⟨hrow, hactive⟩ := (hmem organization).mpr rfl
    refine ⟨organization, store.get?_of_mem hrow, hactive, fun other hother hactive => ?_⟩
    rw [(hmem other).mp ⟨(Table.get?_eq_some_iff.mp hother).1, hactive⟩]
  · rintro ⟨organization, hstored, hactive, honly⟩
    refine ⟨organization, List.perm_singleton.mp ?_⟩
    have hnodup : (store.rows.filter fun other => other.isActive = true).Nodup :=
      (List.Nodup.of_map _ store.nodup).filter _
    refine (List.perm_ext_iff_of_nodup hnodup (List.nodup_singleton _)).mpr fun other => ?_
    rw [List.mem_filter, decide_eq_true_iff, List.mem_singleton]
    constructor
    · rintro ⟨hother, hactiveOther⟩
      exact store.eq_of_key_eq hother (Table.get?_eq_some_iff.mp hstored).1
        (honly other (store.get?_of_mem hother) hactiveOther)
    · rintro rfl
      exact ⟨(Table.get?_eq_some_iff.mp hstored).1, hactive⟩

theorem organizationRows_lawful : organizationRows.Lawful where
  check_version := by
    intro store write version hcheck hexpected
    cases write with
    | insert organization => cases hexpected
    | update organization =>
        cases hexpected
        obtain ⟨stored, hstored, hcheck⟩ := bind_ok hcheck
        obtain ⟨_, hversion, _⟩ := bind_ok hcheck
        exact ⟨stored, require_eq_ok.mp hstored, ensure_eq_ok.mp hversion⟩
  apply_row := by
    intro store next write happly
    obtain ⟨_, _, happly⟩ := bind_ok happly
    cases write with
    | insert organization =>
        obtain ⟨_, hfresh, happly⟩ := bind_ok happly
        cases happly
        exact Table.get?_insert_self (ensure_eq_ok.mp hfresh)
    | update organization =>
        obtain ⟨stored, hstored, happly⟩ := bind_ok happly
        cases happly
        have hkey : store.get? (OrganizationWrite.update organization).written.id = some stored :=
          require_eq_ok.mp hstored
        exact Table.get?_update_self hkey
  apply_frame := by
    intro store next write happly key hkey
    obtain ⟨_, _, happly⟩ := bind_ok happly
    cases write with
    | insert organization =>
        obtain ⟨_, _, happly⟩ := bind_ok happly
        cases happly
        exact Table.get?_insert_of_ne hkey
    | update organization =>
        obtain ⟨_, _, happly⟩ := bind_ok happly
        cases happly
        have hne : key ≠ (OrganizationWrite.update organization).written.id := hkey
        exact Table.get?_update_of_ne hne
  insert_fresh := by
    intro store next write happly hinsert
    obtain ⟨_, _, happly⟩ := bind_ok happly
    cases write with
    | insert organization =>
        obtain ⟨_, hfresh, _⟩ := bind_ok happly
        exact Table.get?_eq_none.mpr (ensure_eq_ok.mp hfresh)
    | update organization => cases hinsert
  version_written := by
    intro write version hexpected
    cases write with
    | insert organization => cases hexpected
    | update organization =>
        cases hexpected
        rfl

/-! ## What the service writes -/

/-- The writes that deactivate the others. -/
def deactivations (excludeId : Option String) (active : List Organization) :
    List OrganizationWrite :=
  (active.filter fun organization =>
    excludeId ≠ some organization.id ∧ organization.isActive = true).map
    fun organization => .update { organization with isActive := false }

section

variable {store : OrganizationStore} {reads : List OrganizationStore}
  {own final : List OrganizationWrite} {excludeId : Option String} {u : Unit}

theorem completes_deactivate (active : List Organization) :
    organizationRows.Completes (active.forM fun organization =>
      if excludeId = some organization.id then pure ()
      else if ¬ organization.isActive = true then pure ()
      else (Transaction.issue (.update { organization with isActive := false }) :
        OrganizationTransaction Unit)) reads own u final →
      reads = [] ∧ final = own ++ deactivations excludeId active := by
  induction active generalizing reads own with
  | nil =>
      intro h
      obtain ⟨rfl, -, rfl⟩ := VersionedStore.completes_pure.mp h
      exact ⟨rfl, (List.append_nil own).symm⟩
  | cons organization rest ih =>
      intro h
      obtain ⟨first, second, _, middle, rfl, hfirst, hsecond⟩ :=
        VersionedStore.completes_bind.mp h
      obtain ⟨rfl, rfl⟩ := ih hsecond
      unfold deactivations
      rw [List.filter_cons]
      beta_reduce at hfirst
      split at hfirst
      next hexcluded =>
        obtain ⟨rfl, -, rfl⟩ := VersionedStore.completes_pure.mp hfirst
        rw [if_neg (by simp [hexcluded])]
        exact ⟨rfl, rfl⟩
      next hother =>
        split at hfirst
        next hinactive =>
          obtain ⟨rfl, -, rfl⟩ := VersionedStore.completes_pure.mp hfirst
          rw [if_neg (by simp [hinactive])]
          exact ⟨rfl, rfl⟩
        next hactive =>
          obtain ⟨rfl, rfl⟩ := VersionedStore.completes_issue.mp hfirst
          rw [if_pos (decide_eq_true ⟨hother, not_not.mp hactive⟩), List.append_assoc]
          exact ⟨rfl, rfl⟩

theorem completes_deactivateOthers
    (h : organizationRows.Completes (deactivateOtherOrganizations excludeId) reads own u final) :
    ∃ found view, reads = [found] ∧ organizationRows.view found own = .ok view ∧
      final = own ++ deactivations excludeId (listActive view) := by
  obtain ⟨first, second, active, middle, rfl, hfirst, hsecond⟩ :=
    VersionedStore.completes_bind.mp h
  obtain ⟨found, view, rfl, hview, hactive, rfl⟩ := VersionedStore.completes_query.mp hfirst
  cases hactive
  obtain ⟨rfl, rfl⟩ := completes_deactivate _ hsecond
  exact ⟨found, view, rfl, hview, rfl⟩

end

/-! ## What the writes leave active -/

section

variable {found now next : OrganizationStore} {own : List OrganizationWrite}
  {organization active : Organization} {excludeId : Option String} {write : OrganizationWrite}

theorem mem_deactivations {list : List Organization} {write : OrganizationWrite}
    (h : write ∈ deactivations excludeId list) : ∃ organization ∈ list,
      excludeId ≠ some organization.id ∧ organization.isActive = true ∧
        write = .update { organization with isActive := false } := by
  obtain ⟨organization, hmem, rfl⟩ := List.mem_map.mp h
  obtain ⟨hlist, hkept⟩ := List.mem_filter.mp hmem
  obtain ⟨hother, hactive⟩ := of_decide_eq_true hkept
  exact ⟨organization, hlist, hother, hactive, rfl⟩

theorem OnlyActive.listed (h : OnlyActive found active) : active ∈ listActive found :=
  List.mem_filter.mpr ⟨(Table.get?_eq_some_iff.mp h.stored).1, decide_eq_true h.active⟩

/-- A row that is read and later still has its version is what it was. -/
theorem OnlyActive.of_version (h : OnlyActive now active) (hfound : OnlyActive found organization)
    (hlater : organizationRows.Later found now) {row : Organization}
    (hrow : now.get? organization.id = some row) (hversion : row.version = organization.version) :
    organization.id = active.id := by
  have hsame := (hlater.row_between (VersionedStore.Later.refl now) hfound.stored hrow hversion).2
  subst hsame
  exact h.only row hrow hfound.active

/-- The deactivation of the others and the write of an active row leave this row as the only active
one, provided that the one that was active is among the rows written. -/
theorem OnlyActive.replaced (h : OnlyActive now active)
    (hview : organizationRows.view now (own ++ [write]) = .ok next)
    (hactive : write.written.isActive = true) (hid : write.written.id = write.organization.id)
    (hothers : ∀ other ∈ own, other.written.isActive = false)
    (hwritten : ∃ other ∈ own ++ [write], other.organization.id = active.id) :
    OnlyActive next write.written := by
  have hlast : organizationRows.row next write.organization.id = some write.written := by
    unfold VersionedStore.view at hview
    rw [List.foldlM_append] at hview
    obtain ⟨middle, -, hview⟩ := bind_ok hview
    obtain ⟨last, hlast, hview⟩ := bind_ok hview
    cases hview
    exact organizationRows_lawful.apply_row hlast
  refine ⟨hid ▸ hlast, hactive, fun other hother hactiveOther => ?_⟩
  rcases organizationRows_lawful.row_view hview other.id with ⟨cause, hmem, hkey, hrow⟩ | ⟨hnone, hrow⟩
  · obtain rfl := Option.some.inj (hother.symm.trans hrow)
    rcases List.mem_append.mp hmem with hown | hnew
    · exact Bool.noConfusion ((hothers cause hown).symm.trans hactiveOther)
    · rw [List.mem_singleton.mp hnew]
      rfl
  · -- A row that is not written is not the one that was active.
    obtain ⟨stopping, hmem, hstopping⟩ := hwritten
    have hsame := h.only other (hrow.symm.trans hother) hactiveOther
    exact absurd (hstopping.trans hsame.symm) (hnone stopping hmem)

theorem nodup_keys_deactivations :
    ((deactivations excludeId (listActive found)).map organizationRows.key).Nodup := by
  unfold deactivations
  rw [List.map_map]
  refine found.nodup.sublist ?_
  exact (List.filter_sublist.trans List.filter_sublist).map Organization.id

theorem OnlyActive.deactivated (h : OnlyActive now active) (hfound : OnlyActive found organization)
    (hlater : organizationRows.Later found now)
    (hunchanged : organizationRows.Unchanged (organizationRows.row now)
      (deactivations excludeId (listActive found) ++ [write]))
    (hother : excludeId ≠ some organization.id) :
    ∃ other ∈ deactivations excludeId (listActive found), other.organization.id = active.id := by
  have hmem : OrganizationWrite.update { organization with isActive := false } ∈
      deactivations excludeId (listActive found) :=
    List.mem_map.mpr ⟨organization, List.mem_filter.mpr
      ⟨hfound.listed, decide_eq_true ⟨hother, hfound.active⟩⟩, rfl⟩
  refine ⟨_, hmem, ?_⟩
  obtain ⟨before, after, hsplit⟩ := List.append_of_mem hmem
  have hfirst : ∀ earlier ∈ before, organizationRows.key earlier ≠
      organizationRows.key (.update { organization with isActive := false }) := by
    have hkeys := @nodup_keys_deactivations found excludeId
    rw [hsplit, List.map_append, List.map_cons] at hkeys
    intro earlier hearlier heq
    exact (List.nodup_append.mp hkeys).2.2 _ (List.mem_map_of_mem hearlier) _ List.mem_cons_self heq
  rw [hsplit, List.append_assoc, List.cons_append] at hunchanged
  obtain ⟨row, hrow, hversion⟩ := hunchanged.version hfirst rfl
  have hsame : organization.id = active.id := h.of_version hfound hlater hrow hversion
  exact hsame

theorem not_active_deactivations :
    ∀ other ∈ deactivations excludeId (listActive found), other.written.isActive = false := by
  intro other hmem
  obtain ⟨_, _, _, _, rfl⟩ := mem_deactivations hmem
  rfl

end

/-! ## The calls -/

theorem view_nil {state view : OrganizationStore}
    (h : organizationRows.view state [] = .ok view) : view = state := (Except.ok.inj h).symm

theorem completes_writing {organization result : Organization} {isActive : Bool}
    {excludeId : Option String}
    {write : OrganizationWrite} {reads : List OrganizationStore} {own : List OrganizationWrite}
    (h : organizationRows.Completes (do
        if isActive = true then
          deactivateOtherOrganizations excludeId
        .issue write
        return organization : OrganizationTransaction Organization) reads [] result own) :
    (isActive = true ∧ ∃ listed, reads = [listed] ∧
        own = deactivations excludeId (listActive listed) ++ [write]) ∨
      (isActive = false ∧ reads = [] ∧ own = [write]) := by
  by_cases hactive : isActive = true
  · rw [if_pos hactive] at h
    obtain ⟨first, second, _, _, hreads, hothers, h⟩ := VersionedStore.completes_bind.mp h
    obtain ⟨listed, view, hfirst, hlisted, rfl⟩ := completes_deactivateOthers hothers
    obtain ⟨third, fourth, _, _, hsecond, hissued, h⟩ := VersionedStore.completes_bind.mp h
    obtain ⟨hthird, rfl⟩ := VersionedStore.completes_issue.mp hissued
    obtain ⟨hfourth, -, rfl⟩ := VersionedStore.completes_pure.mp h
    subst hfirst hthird hfourth hsecond hreads
    rw [view_nil hlisted]
    exact Or.inl ⟨hactive, listed, rfl, rfl⟩
  · rw [if_neg hactive] at h
    obtain ⟨first, second, _, _, hreads, hissued, h⟩ := VersionedStore.completes_bind.mp h
    obtain ⟨hfirst, rfl⟩ := VersionedStore.completes_issue.mp hissued
    obtain ⟨hsecond, -, rfl⟩ := VersionedStore.completes_pure.mp h
    subst hfirst hsecond hreads
    exact Or.inr ⟨Bool.not_eq_true _ ▸ hactive, rfl, rfl⟩

/-- An inactive row in place of an inactive row, or beside the others, changes nothing. -/
theorem OnlyActive.kept {now next : OrganizationStore} {active : Organization}
    {write : OrganizationWrite} (h : OnlyActive now active)
    (hview : organizationRows.view now [write] = .ok next)
    (hinactive : write.written.isActive = false)
    (hother : write.organization.id ≠ active.id) : OnlyActive next active := by
  have hframe : ∀ id, id ≠ write.organization.id → next.get? id = now.get? id := by
    intro id hid
    rcases organizationRows_lawful.row_view hview id with ⟨cause, hmem, hkey, _⟩ | ⟨_, hrow⟩
    · rw [List.mem_singleton.mp hmem] at hkey
      exact absurd hkey.symm hid
    · exact hrow
  refine ⟨(hframe _ (Ne.symm hother)).trans h.stored, h.active, fun other hstored hactive => ?_⟩
  by_cases hid : other.id = write.organization.id
  · obtain ⟨last, hlast, hdone⟩ := bind_ok hview
    obtain rfl := Except.ok.inj hdone
    have hrow : last.get? write.organization.id = some write.written :=
      organizationRows_lawful.apply_row hlast
    rw [hid, hrow] at hstored
    obtain rfl := Option.some.inj hstored
    exact Bool.noConfusion (hinactive.symm.trans hactive)
  · exact h.only other ((hframe _ hid).symm.trans hstored) hactive

/-- What an update knows of the row that it writes: the row that it has read, and that another one
was active when it takes an active one back. -/
structure UpdateOf (earlier now : OrganizationStore) (stored organization : Organization) :
    Prop where
  read : earlier.get? stored.id = some stored
  later : organizationRows.Later earlier now
  id : organization.id = stored.id
  version : organization.version = stored.version

theorem UpdateOf.row {earlier now : OrganizationStore} {stored organization : Organization}
    {own : List OrganizationWrite} (h : UpdateOf earlier now stored organization)
    (hunchanged : organizationRows.Unchanged (organizationRows.row now)
      (own ++ [.update organization]))
    (hfirst : ∀ other ∈ own, other.organization.id ≠ organization.id) :
    now.get? stored.id = some stored := by
  obtain ⟨row, hrow, hversion⟩ := hunchanged.version hfirst rfl
  have hstored : now.get? stored.id = some row := h.id ▸ hrow
  have hsame := (h.later.row_between (VersionedStore.Later.refl now) h.read hstored
    (hversion.trans h.version)).2
  rw [hstored, hsame]

theorem UpdateOf.activates {earlier listed now next : OrganizationStore}
    {stored organization : Organization} (h : UpdateOf earlier now stored organization)
    (hlisted : organizationRows.Later earlier listed) (hlater : organizationRows.Later listed now)
    (hnow : ExactlyOneActive now) (hbefore : ExactlyOneActive listed)
    (hunchanged : organizationRows.Unchanged (organizationRows.row now)
      (deactivations (some organization.id) (listActive listed) ++ [.update organization]))
    (hview : organizationRows.view now
      (deactivations (some organization.id) (listActive listed) ++ [.update organization]) =
        .ok next)
    (hactive : organization.isActive = true) : ExactlyOneActive next := by
  obtain ⟨active, honly⟩ := exactlyOneActive_iff.mp hnow
  obtain ⟨before, hbefore⟩ := exactlyOneActive_iff.mp hbefore
  have hfirst : ∀ other ∈ deactivations (some organization.id) (listActive listed),
      other.organization.id ≠ organization.id := by
    intro other hmem heq
    obtain ⟨_, _, hother, _, rfl⟩ := mem_deactivations hmem
    exact hother (congrArg some heq.symm)
  have hrow := h.row hunchanged hfirst
  refine exactlyOneActive_iff.mpr
    ⟨_, honly.replaced hview hactive rfl not_active_deactivations ?_⟩
  by_cases hsame : before.id = organization.id
  · -- The row was active itself, and still is.
    have hstored := (hlisted.row_between hlater h.read hrow rfl).1
    have hread : listed.get? stored.id = some before := by
      rw [← h.id, ← hsame]
      exact hbefore.stored
    obtain rfl := Option.some.inj (hstored.symm.trans hread)
    refine ⟨_, List.mem_append_right _ List.mem_cons_self, ?_⟩
    exact h.id.trans (honly.only stored hrow hbefore.active)
  · obtain ⟨other, hmem, hid⟩ := honly.deactivated hbefore hlater hunchanged
      fun heq => hsame (Option.some.inj heq).symm
    exact ⟨other, List.mem_append_left _ hmem, hid⟩

theorem UpdateOf.deactivates {earlier now next : OrganizationStore}
    {stored organization : Organization} (h : UpdateOf earlier now stored organization)
    (hnow : ExactlyOneActive now)
    (hunchanged : organizationRows.Unchanged (organizationRows.row now) [.update organization])
    (hview : organizationRows.view now [.update organization] = .ok next)
    (hinactive : organization.isActive = false)
    (hother : stored.isActive = true → ∃ between, organizationRows.Later earlier between ∧
      organizationRows.Later between now ∧ ExactlyOneActive between ∧
      hasOtherActiveOrganizations between stored.id = true) : ExactlyOneActive next := by
  obtain ⟨active, honly⟩ := exactlyOneActive_iff.mp hnow
  have hunchanged : organizationRows.Unchanged (organizationRows.row now)
      ([] ++ [.update organization]) := hunchanged
  have hrow := h.row hunchanged fun _ hmem => (nomatch hmem)
  have hstored : stored.isActive = false := by
    by_contra hstored
    obtain ⟨between, hearlier, hlater, hone, hothers⟩ := hother (Bool.not_eq_false _ ▸ hstored)
    obtain ⟨was, hwas⟩ := exactlyOneActive_iff.mp hone
    have hread := (hearlier.row_between hlater h.read hrow rfl).1
    obtain ⟨rival, hlisted, hrival⟩ := List.any_eq_true.mp hothers
    obtain ⟨hmem, hactive⟩ := List.mem_filter.mp hlisted
    have hsame := hwas.only rival (between.get?_of_mem hmem) (of_decide_eq_true hactive)
    exact of_decide_eq_true hrival
      (hsame.trans (hwas.only stored hread (Bool.not_eq_false _ ▸ hstored)).symm)
  refine exactlyOneActive_iff.mpr ⟨active, honly.kept hview hinactive fun hid => ?_⟩
  have hkey : stored.id = active.id := h.id.symm.trans hid
  rw [hkey, honly.stored] at hrow
  cases hrow
  exact Bool.noConfusion (hstored.symm.trans honly.active)

section

variable (engine : AuthorizationEngine)

theorem createOrganization_keeps (arguments : CreateOrganizationArguments) :
    organizationRows.KeepsCommitted ExactlyOneActive (createOrganization engine arguments) := by
  intro reads own value now next h hordered hfound hnow hunchanged hview
  obtain ⟨active, hactive⟩ := exactlyOneActive_iff.mp hnow
  obtain ⟨_, checked, organization, _, hreads, hchecked, h⟩ := VersionedStore.completes_bind.mp h
  obtain ⟨-, -, rfl⟩ := VersionedStore.completes_lift.mp hchecked
  obtain ⟨_, last, _, _, hcheckedReads, hcode, h⟩ := VersionedStore.completes_bind.mp h
  obtain ⟨_, _, -, -, -, rfl⟩ := VersionedStore.completes_query.mp hcode
  have hlast : ∀ state ∈ last, state ∈ reads := by
    intro state hstate
    rw [hreads, hcheckedReads]
    exact List.mem_append_right _ (List.mem_append_right _ hstate)
  rw [exactlyOneActive_iff]
  rcases completes_writing h with ⟨hcreated, listed, rfl, rfl⟩ | ⟨hcreated, -, rfl⟩
  · have hmem := hlast listed List.mem_cons_self
    obtain ⟨before, hbefore⟩ := exactlyOneActive_iff.mp (hfound listed hmem)
    have hlater : organizationRows.Later listed now :=
      (List.pairwise_append.mp hordered).2.2 listed hmem now List.mem_cons_self
    obtain ⟨other, hother, hid⟩ :=
      hactive.deactivated hbefore hlater hunchanged (Option.some_ne_none _).symm
    exact ⟨_, hactive.replaced hview hcreated rfl not_active_deactivations
      ⟨other, List.mem_append_left _ hother, hid⟩⟩
  · refine ⟨active, hactive.kept hview hcreated fun hid => ?_⟩
    have hfresh := organizationRows_lawful.row_of_inserted hview List.mem_cons_self rfl
    have hstored : organizationRows.row now active.id = some active := hactive.stored
    rw [← hid] at hstored
    exact Option.some_ne_none _ (hstored.symm.trans hfresh)

/-- The reads after the first one come later. -/
theorem later_of_read {earlier now : OrganizationStore} {last : List OrganizationStore}
    (hordered : ((earlier :: last) ++ [now]).Pairwise organizationRows.Later) :
    ∀ state ∈ last ++ [now], organizationRows.Later earlier state :=
  (List.pairwise_cons.mp hordered).1

theorem getOrganization_eq_ok {store : OrganizationStore} {organizationId : String}
    {organization : Organization} (h : getOrganization store organizationId = .ok organization) :
    store.get? organization.id = some organization :=
  store.get?_of_mem (Table.get?_eq_some_iff.mp (require_eq_ok.mp h)).1

theorem setActiveOrganization_completes {organizationId : String} {reads : List OrganizationStore}
    {own : List OrganizationWrite} {value : Organization}
    (h : organizationRows.Completes (setActiveOrganization engine organizationId) reads [] value
      own) :
    ∃ earlier listed stored, reads = [earlier, listed] ∧
      earlier.get? stored.id = some stored ∧
      own = deactivations (some stored.id) (listActive listed) ++
        [.update { stored with isActive := true }] := by
  obtain ⟨checked, rest, _, _, hreads, hchecked, hbody⟩ := VersionedStore.completes_bind.mp h
  obtain ⟨hnone, -, rfl⟩ := VersionedStore.completes_lift.mp hchecked
  obtain ⟨first, last, stored, _, hrest, hquery, hwriting⟩ := VersionedStore.completes_bind.mp hbody
  obtain ⟨earlier, view, hfirst, hearlier, hstored, rfl⟩ := VersionedStore.completes_query.mp hquery
  obtain ⟨second, third, _, _, hlast, hothers, hissuing⟩ := VersionedStore.completes_bind.mp hwriting
  obtain ⟨listed, seen, hsecond, hlisted, rfl⟩ := completes_deactivateOthers hothers
  obtain ⟨fourth, fifth, _, _, hthird, hissued, hdone⟩ := VersionedStore.completes_bind.mp hissuing
  obtain ⟨hfourth, rfl⟩ := VersionedStore.completes_issue.mp hissued
  obtain ⟨hfifth, -, rfl⟩ := VersionedStore.completes_pure.mp hdone
  subst hnone hfirst hsecond hfourth hfifth hthird hlast hrest hreads
  rw [view_nil hearlier] at hstored
  rw [view_nil hlisted]
  exact ⟨earlier, listed, stored, rfl, getOrganization_eq_ok hstored, rfl⟩

theorem setActiveOrganization_keeps (organizationId : String) :
    organizationRows.KeepsCommitted ExactlyOneActive
      (setActiveOrganization engine organizationId) := by
  intro reads own value now next h hordered hfound hnow hunchanged hview
  obtain ⟨earlier, listed, stored, rfl, hstored, rfl⟩ := setActiveOrganization_completes engine h
  have hlater := later_of_read hordered
  have hread : UpdateOf earlier now stored { stored with isActive := true } :=
    ⟨hstored, hlater now (by simp), rfl, rfl⟩
  exact hread.activates (hlater listed (by simp))
    ((List.pairwise_append.mp hordered).2.2 listed (by simp) now List.mem_cons_self) hnow
    (hfound listed (by simp)) hunchanged hview rfl

theorem changedCode_completes {stored : Organization} {given : Option String} {code : String}
    {reads : List OrganizationStore} {own final : List OrganizationWrite}
    (h : organizationRows.Completes (changedCode stored given) reads own code final) :
    final = own := by
  cases given with
  | none => exact (VersionedStore.completes_pure.mp h).2.2.symm
  | some given =>
      dsimp only [changedCode] at h
      obtain ⟨_, _, _, _, _, hnormalized, hbody⟩ := VersionedStore.completes_bind.mp h
      obtain ⟨-, -, rfl⟩ := VersionedStore.completes_lift.mp hnormalized
      obtain ⟨_, _, _, _, _, hcode, hdone⟩ := VersionedStore.completes_bind.mp hbody
      obtain ⟨_, _, -, -, -, rfl⟩ := VersionedStore.completes_query.mp hcode
      exact (VersionedStore.completes_pure.mp hdone).2.2.symm

/-- An active row is taken back only where another one was active. -/
theorem changedActive_completes {stored : Organization} {given : Option Bool} {isActive : Bool}
    {reads : List OrganizationStore} {final : List OrganizationWrite}
    (h : organizationRows.Completes (changedActive stored given) reads [] isActive final) :
    final = [] ∧ (isActive = false → stored.isActive = true →
      ∃ between ∈ reads, hasOtherActiveOrganizations between stored.id = true) := by
  cases given with
  | none =>
      obtain ⟨-, rfl, rfl⟩ := VersionedStore.completes_pure.mp h
      exact ⟨rfl, fun hinactive hactive => Bool.noConfusion (hinactive.symm.trans hactive)⟩
  | some given =>
      dsimp only [changedActive] at h
      by_cases hback : given = false ∧ stored.isActive = true
      · rw [if_pos hback] at h
        obtain ⟨first, second, _, _, hreads, hothers, hdone⟩ := VersionedStore.completes_bind.mp h
        obtain ⟨between, view, hfirst, hbetween, hensured, rfl⟩ :=
          VersionedStore.completes_query.mp hothers
        obtain ⟨-, -, rfl⟩ := VersionedStore.completes_pure.mp hdone
        rw [view_nil hbetween] at hensured
        refine ⟨rfl, fun _ _ => ⟨between, ?_, ensure_eq_ok.mp hensured⟩⟩
        rw [hreads, hfirst]
        exact List.mem_append_left _ List.mem_cons_self
      · rw [if_neg hback] at h
        obtain ⟨-, rfl, rfl⟩ := VersionedStore.completes_pure.mp h
        exact ⟨rfl, fun hinactive hactive => absurd ⟨hinactive, hactive⟩ hback⟩

theorem updateOrganization_completes {arguments : UpdateOrganizationArguments}
    {reads : List OrganizationStore} {own : List OrganizationWrite} {value : Organization}
    (h : organizationRows.Completes (updateOrganization engine arguments) reads [] value own) :
    ∃ earlier last stored organization, reads = earlier :: last ∧
      earlier.get? stored.id = some stored ∧ organization.id = stored.id ∧
      organization.version = stored.version ∧
      ((organization.isActive = true ∧ ∃ listed ∈ last,
          own = deactivations (some organization.id) (listActive listed) ++
            [.update organization]) ∨
        (organization.isActive = false ∧ own = [.update organization] ∧
          (stored.isActive = true →
            ∃ between ∈ last, hasOtherActiveOrganizations between stored.id = true))) := by
  obtain ⟨r1, t1, _, _, hreads, hchecked, rest1⟩ := VersionedStore.completes_bind.mp h
  obtain ⟨h1, -, rfl⟩ := VersionedStore.completes_lift.mp hchecked
  obtain ⟨r2, last, stored, _, ht1, hquery, rest2⟩ := VersionedStore.completes_bind.mp rest1
  obtain ⟨earlier, view, h2, hearlier, hstored, rfl⟩ := VersionedStore.completes_query.mp hquery
  rw [view_nil hearlier] at hstored
  obtain ⟨r3, t3, _, _, ht2, hversion, rest3⟩ := VersionedStore.completes_bind.mp rest2
  obtain ⟨h3, -, rfl⟩ := VersionedStore.completes_lift.mp hversion
  obtain ⟨r4, t4, code, _, ht3, hcode, rest4⟩ := VersionedStore.completes_bind.mp rest3
  obtain rfl := changedCode_completes hcode
  obtain ⟨r5, t5, name, _, ht4, hname, rest5⟩ := VersionedStore.completes_bind.mp rest4
  obtain ⟨h5, -, rfl⟩ := VersionedStore.completes_lift.mp hname
  obtain ⟨r6, t6, timezone, _, ht5, htimezone, rest6⟩ := VersionedStore.completes_bind.mp rest5
  obtain ⟨h6, -, rfl⟩ := VersionedStore.completes_lift.mp htimezone
  obtain ⟨r7, t7, currency, _, ht6, hcurrency, rest7⟩ := VersionedStore.completes_bind.mp rest6
  obtain ⟨h7, -, rfl⟩ := VersionedStore.completes_lift.mp hcurrency
  obtain ⟨r8, t8, isActive, _, ht7, hactive, rest8⟩ := VersionedStore.completes_bind.mp rest7
  obtain ⟨rfl, hothers⟩ := changedActive_completes hactive
  subst h1 h2 h3 h5 h6 h7 ht7 ht6 ht5 ht4 ht3 ht2 ht1 hreads
  refine ⟨earlier, _, stored,
    { stored with
      organizationCode := code
      displayName := name
      timezoneName := timezone
      baseCurrency := currency
      isActive := isActive }, rfl, getOrganization_eq_ok hstored, rfl, rfl, ?_⟩
  refine (completes_writing rest8).imp ?_ ?_
  · rintro ⟨hactivated, listed, rfl, rfl⟩
    exact ⟨hactivated, listed, by simp, rfl⟩
  · rintro ⟨hinactive, rfl, rfl⟩
    refine ⟨hinactive, rfl, fun hwas => ?_⟩
    obtain ⟨between, hmem, hother⟩ := hothers hinactive hwas
    exact ⟨between, by simp [hmem], hother⟩

theorem updateOrganization_keeps (arguments : UpdateOrganizationArguments) :
    organizationRows.KeepsCommitted ExactlyOneActive (updateOrganization engine arguments) := by
  intro reads own value now next h hordered hfound hnow hunchanged hview
  obtain ⟨earlier, last, stored, organization, rfl, hstored, hid, hversion, hcases⟩ :=
    updateOrganization_completes engine h
  have hlater := later_of_read hordered
  have hnext := (List.pairwise_append.mp hordered).2.2
  have hread : UpdateOf earlier now stored organization :=
    ⟨hstored, hlater now (by simp), hid, hversion⟩
  rcases hcases with ⟨hactive, listed, hmem, rfl⟩ | ⟨hinactive, rfl, hothers⟩
  · exact hread.activates (hlater listed (List.mem_append_left _ hmem))
      (hnext listed (List.mem_cons_of_mem _ hmem) now List.mem_cons_self) hnow
      (hfound listed (List.mem_cons_of_mem _ hmem)) hunchanged hview hactive
  · refine hread.deactivates hnow hunchanged hview hinactive fun hwas => ?_
    obtain ⟨between, hmem, hother⟩ := hothers hwas
    exact ⟨between, hlater between (List.mem_append_left _ hmem),
      hnext between (List.mem_cons_of_mem _ hmem) now List.mem_cons_self,
      hfound between (List.mem_cons_of_mem _ hmem), hother⟩

end

/-! ## Runs -/

inductive OrganizationCall
  | createOrganization (arguments : CreateOrganizationArguments)
  | updateOrganization (arguments : UpdateOrganizationArguments)
  | setActiveOrganization (organizationId : String)

def OrganizationCall.transaction (engine : AuthorizationEngine) :
    OrganizationCall → OrganizationTransaction Organization
  | .createOrganization arguments => Org.createOrganization engine arguments
  | .updateOrganization arguments => Org.updateOrganization engine arguments
  | .setActiveOrganization organizationId => Org.setActiveOrganization engine organizationId

theorem call_keeps (engine : AuthorizationEngine) (call : OrganizationCall) :
    organizationRows.KeepsCommitted ExactlyOneActive (call.transaction engine) := by
  cases call with
  | createOrganization arguments => exact createOrganization_keeps engine arguments
  | updateOrganization arguments => exact updateOrganization_keeps engine arguments
  | setActiveOrganization organizationId => exact setActiveOrganization_keeps engine organizationId

/-- What is committed after the bootstrap of an empty table, by calls that come one after another
and by sessions that run at the same time. A session with several calls counts once for each. -/
inductive Committed : OrganizationStore → Prop
  | bootstrap (organizationId : String) (hid : organizationId ≠ "") :
      Committed (organizationRows.stateAfter Table.empty (bootstrapDefaults organizationId hid))
  | call {store : OrganizationStore} (engine : AuthorizationEngine) (call : OrganizationCall)
      (hstore : Committed store) :
      Committed (organizationRows.stateAfter store (call.transaction engine))
  | interleaving {ι : Type} [DecidableEq ι] {start : OrganizationStore}
      {server : VersionedStore.Server OrganizationStore OrganizationWrite DomainError Organization ι}
      (engines : ι → AuthorizationEngine) (calls : ι → OrganizationCall) (hstart : Committed start)
      (hrun : Relation.ReflTransGen organizationRows.Step
        (.initial start fun i => (calls i).transaction (engines i)) server) :
      Committed server.committed

theorem bootstrapDefaults_active (organizationId : String) (hid : organizationId ≠ "") :
    ExactlyOneActive
      (organizationRows.stateAfter Table.empty (bootstrapDefaults organizationId hid)) := rfl

theorem exactlyOneActive_of_committed {store : OrganizationStore} (h : Committed store) :
    ExactlyOneActive store := by
  induction h with
  | bootstrap organizationId hid => exact bootstrapDefaults_active organizationId hid
  | call engine call _ ih =>
      exact (call_keeps engine call).stateAfter organizationRows_lawful ih
  | interleaving engines calls _ hrun ih =>
      exact VersionedStore.committed_of_run organizationRows_lawful
        (fun i => call_keeps (engines i) (calls i)) ih hrun

/-- A second organization is added and takes over. -/
theorem exactlyOneActive_of_secondOrganization :
    let second : OrganizationCall := .createOrganization
      { organizationCode := "b", displayName := "B", organizationId := "second",
        organizationId_ne := by decide }
    let store := organizationRows.stateAfter
      (organizationRows.stateAfter Table.empty (bootstrapDefaults "first" (by decide)))
      (second.transaction .admin)
    (listActive store).map Organization.id = ["second"] ∧ ExactlyOneActive store :=
  ⟨by decide +kernel,
    exactlyOneActive_of_committed (.call _ _ (.bootstrap "first" (by decide)))⟩

end ProjectManager.Org
