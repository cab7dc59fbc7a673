import Mathlib.Data.List.Sort
import Mathlib.Data.Prod.Lex
import ProjectManager.Foundation.Tallies
import ProjectManager.Reporting.EarnedValue
import ProjectManager.Reporting.ProjectKpis

/-! # Cost reports

The control totals, the breakdown by source, the breakdown by type and the key
figures read their amounts off the same cost policy. Only the breakdown by type
falls back on a baseline, when the policy has nothing planned.
-/

namespace ProjectManager

open Foundation

structure CostControlTotals where
  projectId : String
  projectCurrency : Option String
  budget : ℚ
  planned : ℚ
  committed : ℚ
  actual : ℚ
  exposure : ℚ
  available : Option ℚ
  deriving DecidableEq

structure CostSourceRow where
  sourceKey : String
  sourceLabel : String
  planned : ℚ
  committed : ℚ
  actual : ℚ
  deriving DecidableEq

structure CostSourceBreakdown where
  projectId : String
  projectCurrency : Option String
  rows : List CostSourceRow
  totalPlanned : ℚ
  totalCommitted : ℚ
  totalActual : ℚ
  notes : List String
  deriving DecidableEq

structure CostBreakdownRow where
  costType : CostType
  currency : String
  planned : ℚ
  actual : ℚ
  deriving DecidableEq

def sumBucketForType (values : CostBuckets) (costType : CostType)
    (projectCurrency : Option String) : ℚ :=
  values.total fun key => currencyInScope key.2 projectCurrency = true ∧ key.1 = costType

def sumBucketExcludingType (values : CostBuckets) (excludedType : CostType)
    (projectCurrency : Option String) : ℚ :=
  values.total fun key => currencyInScope key.2 projectCurrency = true ∧ ¬ key.1 = excludedType

def CostItem.isLaborIn (item : CostItem) (projectCurrency : Option String) : Bool :=
  item.costType = .labor ∧
    currencyInScope (normalizeCurrency item.currencyCode projectCurrency) projectCurrency = true

/-- The labor entered by hand, of whatever sign. -/
def manualRaw (items : List CostItem) (projectCurrency : Option String)
    (amount : CostItem → ℚ) : ℚ :=
  ((items.filter fun item => item.isLaborIn projectCurrency).map amount).sum

def manualLaborNotes (active : Bool) (planned committed actual : ℚ) : List String :=
  if 0 < planned ∨ 0 < committed ∨ 0 < actual then
    if active then ["Manual labor adjustment entries are active in current totals."]
    else ["Manual labor adjustment entries are recorded, but excluded from " ++
      "totals while computed labor exists."]
  else []

section

variable (service : ReportingService) (store : ProjectStore) (projectId : String)
  (asOf : Option Date)

def getProjectCostControlTotals : Except DomainError CostControlTotals := do
  service.requireView "view cost control totals" projectId
  let snapshot ← buildCostPolicySnapshot store projectId service asOf
  let planned := sumBucketMap snapshot.plannedMap snapshot.projectCurrency
  let committed := sumBucketMap snapshot.committedMap snapshot.projectCurrency
  let actual := sumBucketMap snapshot.actualMap snapshot.projectCurrency
  let exposure := max committed actual
  return {
    projectId := projectId
    projectCurrency := snapshot.projectCurrency
    budget := snapshot.budget
    planned := planned
    committed := committed
    actual := actual
    exposure := exposure
    available := if 0 < snapshot.budget then some (snapshot.budget - exposure) else none }

def getProjectCostSourceBreakdown : Except DomainError CostSourceBreakdown := do
  service.requireView "view cost source breakdown" projectId
  let day := asOf.getD service.today
  let snapshot ← buildCostPolicySnapshot store projectId service (some day)
  let currency := snapshot.projectCurrency
  let directPlanned := sumBucketExcludingType snapshot.plannedMap .labor currency
  let directCommitted := sumBucketExcludingType snapshot.committedMap .labor currency
  let directActual := sumBucketExcludingType snapshot.actualMap .labor currency
  let laborPlanned := sumBucketForType snapshot.plannedMap .labor currency
  let laborCommitted := sumBucketForType snapshot.committedMap .labor currency
  let laborActual := sumBucketForType snapshot.actualMap .labor currency
  let items := store.costsOf projectId
  let rawPlanned := manualRaw items currency CostItem.plannedAmount
  let rawCommitted := manualRaw items currency CostItem.committedAmount
  let rawActual := manualRaw (items.filter fun item => item.incurredDate.all fun incurred =>
    incurred ≤ day) currency CostItem.actualAmount
  let manualPlanned := if snapshot.includeManualLaborPlanned then rawPlanned else 0
  let manualActual := if snapshot.includeManualLaborActual then rawActual else 0
  let computedPlanned := max 0 (laborPlanned - manualPlanned)
  let computedActual := max 0 (laborActual - manualActual)
  return {
    projectId := projectId
    projectCurrency := currency
    rows :=
      [{ sourceKey := "DIRECT_COST", sourceLabel := "Direct Cost", planned := directPlanned
         committed := directCommitted, actual := directActual },
        { sourceKey := "COMPUTED_LABOR", sourceLabel := "Computed Labor"
          planned := computedPlanned, committed := 0, actual := computedActual },
        { sourceKey := "LABOR_ADJUSTMENT", sourceLabel := "Labor Adjustment"
          planned := manualPlanned, committed := laborCommitted, actual := manualActual }]
    totalPlanned := directPlanned + computedPlanned + manualPlanned
    totalCommitted := directCommitted + laborCommitted
    totalActual := directActual + computedActual + manualActual
    notes := manualLaborNotes (snapshot.includeManualLaborPlanned &&
      snapshot.includeManualLaborCommitted && snapshot.includeManualLaborActual)
      rawPlanned rawCommitted rawActual }

/-- What the tasks of the baseline cost. -/
def baselineTotal (baselineId : Option String) : ℚ :=
  (((store.baselineFor projectId baselineId).elim [] fun baseline =>
    store.baselineTasksOf baseline.id).map BaselineTask.baselinePlannedCost).sum

/-- Without planned costs, those of the baseline take their place. -/
def plannedOrBaseline (snapshot : CostPolicySnapshot) (baselineId : Option String) : CostBuckets :=
  if snapshot.plannedMap.rows = [] then
    if 0 < baselineTotal store projectId baselineId then
      addBucket snapshot.plannedMap .other (normalizeCurrency snapshot.projectCurrency none)
        (baselineTotal store projectId baselineId)
    else snapshot.plannedMap
  else snapshot.plannedMap

/-- One row for each type and currency. -/
def costBreakdownRows (plannedMap actualMap : CostBuckets) : List CostBreakdownRow :=
  ((plannedMap.ids ++ actualMap.ids).dedup.insertionSort fun first second =>
    toLex (first.1.value, first.2) ≤ toLex (second.1.value, second.2)).map fun key =>
      { costType := key.1
        currency := key.2
        planned := plannedMap.amount key
        actual := actualMap.amount key }

def getCostBreakdown (baselineId : Option String) : Except DomainError (List CostBreakdownRow) := do
  service.requireView "view cost breakdown report" projectId
  let day := asOf.getD service.today
  let snapshot ← buildCostPolicySnapshot store projectId service (some day)
  return costBreakdownRows (plannedOrBaseline store projectId snapshot baselineId)
    snapshot.actualMap

end

/-! ## Totals of collected amounts -/

section

variable (keep : CostType × String → Prop) [DecidablePred keep]

theorem total_addBucket (target : CostBuckets) (costType : CostType) (currency : String)
    (amount : ℚ) :
    (addBucket target costType currency amount).total keep =
      target.total keep + if keep (costType, currency) then max amount 0 else 0 := by
  unfold addBucket
  by_cases hamount : amount ≤ 0
  · rw [if_pos hamount, max_eq_right hamount, ite_self, add_zero]
  · rw [if_neg hamount, max_eq_left (not_le.mp hamount).le, Buckets.total_add]

/-- An item adds what it has of the amount, when it is kept. -/
theorem total_collectItems (projectCurrency : Option String) (items : List CostItem)
    (amount : CostItem → ℚ) (keepItem : CostItem → Bool) :
    (collectItems projectCurrency items amount keepItem).total keep =
      (items.map fun item =>
        if keepItem item = true ∧
            keep (item.costType, normalizeCurrency item.currencyCode projectCurrency) then
          max (amount item) 0
        else 0).sum := by
  have hfold : ∀ target : CostBuckets, (items.foldl (fun target item =>
      if 0 < amount item ∧ keepItem item = true then
        addBucket target item.costType (normalizeCurrency item.currencyCode projectCurrency)
          (amount item)
      else target) target).total keep = target.total keep + (items.map fun item =>
        if keepItem item = true ∧
            keep (item.costType, normalizeCurrency item.currencyCode projectCurrency) then
          max (amount item) 0
        else 0).sum := by
    induction items with
    | nil => exact fun target => (add_zero _).symm
    | cons item rest ih =>
        intro target
        rw [List.foldl_cons, ih, List.map_cons, List.sum_cons, ← add_assoc]
        congr 1
        by_cases hitem : keepItem item = true
        · by_cases hamount : 0 < amount item
          · simp only [hitem, hamount, and_self, if_true, true_and, total_addBucket]
          · simp only [hamount, false_and, if_false, max_eq_right (not_lt.mp hamount), ite_self,
              add_zero]
        · simp only [hitem, and_false, false_and, if_false, add_zero, Bool.false_eq_true]
  exact (hfold .empty).trans (zero_add _)

/-- Computed labor only adds to the buckets. -/
theorem total_le_addLabor (target : CostBuckets) (labor : Buckets String ℚ) :
    target.total keep ≤ (addLabor target labor).total keep := by
  unfold addLabor
  induction labor.rows generalizing target with
  | nil => exact le_rfl
  | cons row rest ih =>
      refine le_trans ?_ (ih (addBucket target .labor row.1 row.2))
      rw [total_addBucket]
      split_ifs
      · exact le_add_of_nonneg_right (le_max_right _ _)
      · rw [add_zero]

end

/-- The labor that the policy counts is no less than what was entered of it by hand. -/
theorem manualRaw_le {projectCurrency : Option String} {items : List CostItem}
    {amount : CostItem → ℚ} {keepItem counted : CostItem → Bool}
    (hkeep : ∀ item, item.costType = .labor → counted item = true → keepItem item = true)
    (labor : Buckets String ℚ) :
    manualRaw (items.filter counted) projectCurrency amount ≤
      sumBucketForType (addLabor (collectItems projectCurrency items amount keepItem) labor)
        .labor projectCurrency := by
  refine le_trans ?_ (total_le_addLabor _ _ labor)
  have hsum : manualRaw (items.filter counted) projectCurrency amount =
      (items.map fun item =>
        if item.isLaborIn projectCurrency = true ∧ counted item = true then amount item
        else 0).sum := by
    unfold manualRaw
    rw [List.filter_filter]
    induction items with
    | nil => rfl
    | cons item rest ih =>
        rw [List.map_cons, List.sum_cons, ← ih, List.filter_cons]
        by_cases hitem : item.isLaborIn projectCurrency = true ∧ counted item = true
        · rw [if_pos (Bool.and_eq_true_iff.mpr hitem), if_pos hitem, List.map_cons, List.sum_cons]
        · rw [if_neg (mt Bool.and_eq_true_iff.mp hitem), if_neg hitem, zero_add]
  rw [hsum, total_collectItems]
  apply List.sum_le_sum
  intro item _
  by_cases hitem : item.isLaborIn projectCurrency = true ∧ counted item = true
  · have hlabor := of_decide_eq_true hitem.1
    have hkept := hkeep item hlabor.1 hitem.2
    rw [if_pos hitem]
    simp only [hkept, hlabor, and_self, if_true]
    exact le_max_left _ _
  · rw [if_neg hitem]
    split_ifs
    · exact le_max_right _ _
    · exact le_rfl

theorem sumBucketForType_nonneg {projectCurrency : Option String} (items : List CostItem)
    (amount : CostItem → ℚ) (keepItem : CostItem → Bool) (labor : Buckets String ℚ) :
    0 ≤ sumBucketForType (addLabor (collectItems projectCurrency items amount keepItem) labor)
      .labor projectCurrency := by
  have hnone : manualRaw (items.filter fun _ => false) projectCurrency amount ≤
      sumBucketForType (addLabor (collectItems projectCurrency items amount keepItem) labor)
        .labor projectCurrency :=
    manualRaw_le (fun _ _ h => absurd h Bool.false_ne_true) labor
  simpa [manualRaw] using hnone

theorem sumBucketMap_split (values : CostBuckets) (projectCurrency : Option String) :
    sumBucketExcludingType values .labor projectCurrency +
      sumBucketForType values .labor projectCurrency = sumBucketMap values projectCurrency :=
  (Buckets.total_split values _ _).symm

/-- What is entered by hand and what is computed make up the labor that is counted. -/
theorem adjusted_total {direct labor manual total : ℚ} (htotal : direct + labor = total)
    (hmanual : manual ≤ labor) : direct + max 0 (labor - manual) + manual = total := by
  rw [max_eq_right (sub_nonneg.mpr hmanual), add_assoc, sub_add_cancel, htotal]

/-! ## Snapshots -/

section

variable {service : ReportingService} {store : ProjectStore} {projectId : String}
  {asOf : Option Date} {snapshot : CostPolicySnapshot}

/-- What a snapshot is made of. -/
structure Snapshots (service : ReportingService) (store : ProjectStore) (projectId : String)
    (asOf : Option Date) (snapshot : CostPolicySnapshot) : Prop where
  planned : snapshot.plannedMap = addLabor (collectItems snapshot.projectCurrency
    (store.costsOf projectId) CostItem.plannedAmount fun item =>
      item.costType ≠ .labor || snapshot.includeManualLaborPlanned)
    (resolvePlannedLaborMap store projectId snapshot.projectCurrency)
  actual : ∃ labor, snapshot.actualMap = addLabor (collectItems snapshot.projectCurrency
    (store.costsOf projectId) CostItem.actualAmount fun item =>
      (item.costType ≠ .labor || snapshot.includeManualLaborActual) &&
        item.incurredDate.all fun incurred => incurred ≤ asOf.getD service.today) labor
  included : snapshot.includeManualLaborPlanned =
    decide ((resolvePlannedLaborMap store projectId snapshot.projectCurrency).sum Prod.snd ≤ 0)
  currency : ∃ project, store.projects.get? projectId = some project ∧
    snapshot.projectCurrency = givenText (project.currency.map fun text => upper (strip text))

theorem buildCostPolicySnapshot_ok
    (h : buildCostPolicySnapshot store projectId service asOf = .ok snapshot) :
    Snapshots service store projectId asOf snapshot := by
  obtain ⟨project, hproject, h⟩ := bind_ok h
  obtain ⟨labor, -, h⟩ := bind_ok h
  cases h
  exact ⟨rfl, ⟨labor, rfl⟩, rfl, ⟨project, require_eq_ok.mp hproject, rfl⟩⟩

/-- The day matters for the actual costs only, and not by how it was given. -/
theorem buildCostPolicySnapshot_day {other : Option Date} {later : CostPolicySnapshot}
    (h : buildCostPolicySnapshot store projectId service asOf = .ok snapshot)
    (hlater : buildCostPolicySnapshot store projectId service other = .ok later) :
    later.projectCurrency = snapshot.projectCurrency ∧ later.plannedMap = snapshot.plannedMap ∧
      later.committedMap = snapshot.committedMap ∧
      (other.getD service.today = asOf.getD service.today →
        later.actualMap = snapshot.actualMap) := by
  obtain ⟨project, hproject, h⟩ := bind_ok h
  obtain ⟨labor, hlabor, h⟩ := bind_ok h
  obtain ⟨second, hsecond, hlater⟩ := bind_ok hlater
  obtain rfl := Except.ok.inj (hproject.symm.trans hsecond)
  obtain ⟨laterLabor, hlaterLabor, hlater⟩ := bind_ok hlater
  obtain rfl := Except.ok.inj (hlabor.symm.trans hlaterLabor)
  cases h
  cases hlater
  refine ⟨rfl, rfl, rfl, fun hday => ?_⟩
  dsimp only
  rw [hday]

/-! ## Agreement with the control totals -/

/-- The labor entered by hand that counts as planned is part of the planned labor. -/
theorem Snapshots.manualPlanned_le (h : Snapshots service store projectId asOf snapshot) :
    (if snapshot.includeManualLaborPlanned = true then
        manualRaw (store.costsOf projectId) snapshot.projectCurrency CostItem.plannedAmount
      else 0) ≤ sumBucketForType snapshot.plannedMap .labor snapshot.projectCurrency := by
  rw [h.planned]
  split_ifs with hmanual
  · have hall : (store.costsOf projectId).filter (fun _ => true) = store.costsOf projectId :=
      List.filter_eq_self.mpr fun _ _ => rfl
    rw [← hall]
    nth_rewrite 2 [hall]
    exact manualRaw_le (fun item _ _ => by rw [hmanual, Bool.or_true]) _
  · exact sumBucketForType_nonneg _ _ _ _

theorem Snapshots.manualActual_le (h : Snapshots service store projectId asOf snapshot) :
    (if snapshot.includeManualLaborActual = true then
        manualRaw ((store.costsOf projectId).filter fun item =>
          item.incurredDate.all fun incurred => incurred ≤ asOf.getD service.today)
          snapshot.projectCurrency CostItem.actualAmount
      else 0) ≤ sumBucketForType snapshot.actualMap .labor snapshot.projectCurrency := by
  obtain ⟨labor, hactual⟩ := h.actual
  rw [hactual]
  split_ifs with hmanual
  · exact manualRaw_le (fun item _ hcounted => by rw [hmanual, Bool.or_true, hcounted]; rfl) _
  · exact sumBucketForType_nonneg _ _ _ _

/-- Who may see one of the reports may see the others. -/
theorem requireView_other {operationLabel : String}
    (h : service.requireView operationLabel projectId = .ok ()) (other : String) :
    service.requireView other projectId = .ok () :=
  requireView_eq_ok.mpr (requireView_eq_ok.mp h)

/-- A snapshot without a day is that of today, which can then be taken too. -/
theorem exists_dailySnapshot
    (h : buildCostPolicySnapshot store projectId service asOf = .ok snapshot) :
    ∃ daily, buildCostPolicySnapshot store projectId service (some (asOf.getD service.today)) =
        .ok daily ∧
      snapshot.projectCurrency = daily.projectCurrency ∧ snapshot.plannedMap = daily.plannedMap ∧
      snapshot.committedMap = daily.committedMap ∧ snapshot.actualMap = daily.actualMap := by
  have hexists : ∃ daily, buildCostPolicySnapshot store projectId service
      (some (asOf.getD service.today)) = .ok daily := by
    obtain ⟨project, hproject, h⟩ := bind_ok h
    obtain ⟨labor, hlabor, -⟩ := bind_ok h
    exact ⟨_, bind_eq_ok.mpr ⟨project, hproject, bind_eq_ok.mpr ⟨labor, hlabor, rfl⟩⟩⟩
  obtain ⟨daily, hdaily⟩ := hexists
  obtain ⟨hcurrency, hplanned, hcommitted, hactual⟩ := buildCostPolicySnapshot_day hdaily h
  exact ⟨daily, hdaily, hcurrency, hplanned, hcommitted, hactual rfl⟩

/-- The columns of the breakdown by source, and its totals. -/
structure SourcesAgree (sources : CostSourceBreakdown) (totals : CostControlTotals) : Prop where
  planned : sources.totalPlanned = totals.planned
  committed : sources.totalCommitted = totals.committed
  actual : sources.totalActual = totals.actual
  plannedColumn : (sources.rows.map CostSourceRow.planned).sum = totals.planned
  committedColumn : (sources.rows.map CostSourceRow.committed).sum = totals.committed
  actualColumn : (sources.rows.map CostSourceRow.actual).sum = totals.actual

theorem sourcesAgree {totals : CostControlTotals}
    (htotals : getProjectCostControlTotals service store projectId asOf = .ok totals) :
    ∃ sources, getProjectCostSourceBreakdown service store projectId asOf = .ok sources ∧
      SourcesAgree sources totals := by
  obtain ⟨_, hview, htotals⟩ := bind_ok htotals
  obtain ⟨snapshot, hsnapshot, htotals⟩ := bind_ok htotals
  cases htotals
  obtain ⟨daily, hdaily, hcurrency, hplanned, hcommitted, hactual⟩ :=
    exists_dailySnapshot hsnapshot
  refine ⟨_, bind_eq_ok.mpr ⟨(), requireView_other hview _,
    bind_eq_ok.mpr ⟨daily, hdaily, rfl⟩⟩, ?_⟩
  have hmade := buildCostPolicySnapshot_ok hdaily
  have hplannedTotal := adjusted_total (sumBucketMap_split _ _) hmade.manualPlanned_le
  have hactualTotal := adjusted_total (sumBucketMap_split _ _) hmade.manualActual_le
  have hcommittedTotal := sumBucketMap_split daily.committedMap daily.projectCurrency
  constructor
  · dsimp only
    rw [hcurrency, hplanned]
    exact hplannedTotal
  · dsimp only
    rw [hcurrency, hcommitted]
    exact hcommittedTotal
  · dsimp only
    rw [hcurrency, hactual]
    exact hactualTotal
  · simp only [List.map_cons, List.map_nil, List.sum_cons, List.sum_nil, add_zero]
    rw [hcurrency, hplanned, ← add_assoc]
    exact hplannedTotal
  · simp only [List.map_cons, List.map_nil, List.sum_cons, List.sum_nil, add_zero, zero_add]
    rw [hcurrency, hcommitted]
    exact hcommittedTotal
  · simp only [List.map_cons, List.map_nil, List.sum_cons, List.sum_nil, add_zero]
    rw [hcurrency, hactual, ← add_assoc]
    exact hactualTotal

/-! ## Nothing planned -/

/-- No planned amount and no planned labor counts for anything. -/
def PlansNothing (store : ProjectStore) (projectId : String) : Prop :=
  (∀ item ∈ store.costsOf projectId, item.plannedAmount ≤ 0) ∧
    ∀ row ∈ store.projectResourcesOf projectId, plannedLabor store none row = none

instance : Decidable (PlansNothing store projectId) := inferInstanceAs (Decidable (_ ∧ _))

theorem addBucket_eq_nil_iff {target : CostBuckets} {costType : CostType} {currency : String}
    {amount : ℚ} : (addBucket target costType currency amount).rows = [] ↔
      target.rows = [] ∧ amount ≤ 0 := by
  unfold addBucket
  split_ifs with hamount
  · exact (and_iff_left hamount).symm
  · exact iff_of_false (target.rows_add_ne_nil _ _) fun h => hamount h.2

theorem collectItems_eq_nil_iff {projectCurrency : Option String} {items : List CostItem}
    {amount : CostItem → ℚ} {keepItem : CostItem → Bool} :
    (collectItems projectCurrency items amount keepItem).rows = [] ↔
      ∀ item ∈ items, keepItem item = true → amount item ≤ 0 := by
  have hfold : ∀ target : CostBuckets, (items.foldl (fun target item =>
      if 0 < amount item ∧ keepItem item = true then
        addBucket target item.costType (normalizeCurrency item.currencyCode projectCurrency)
          (amount item)
      else target) target).rows = [] ↔
        target.rows = [] ∧ ∀ item ∈ items, keepItem item = true → amount item ≤ 0 := by
    induction items with
    | nil => simp
    | cons item rest ih =>
        intro target
        rw [List.foldl_cons, ih, List.forall_mem_cons, ← and_assoc]
        apply and_congr_left'
        split_ifs with hitem
        · rw [addBucket_eq_nil_iff]
          exact and_congr_right fun _ => ⟨fun h _ => h, fun h => h hitem.2⟩
        · exact (and_iff_left fun hkept => not_lt.mp fun hlt => hitem ⟨hlt, hkept⟩).symm
  exact (hfold .empty).trans (and_iff_right rfl)

theorem addLabor_eq_nil_iff {target : CostBuckets} {labor : Buckets String ℚ} :
    (addLabor target labor).rows = [] ↔ target.rows = [] ∧ ∀ row ∈ labor.rows, row.2 ≤ 0 := by
  unfold addLabor
  induction labor.rows generalizing target with
  | nil => simp
  | cons row rest ih =>
      rw [List.foldl_cons, ih, addBucket_eq_nil_iff, List.forall_mem_cons, and_assoc]

theorem plannedLabor_eq_none_iff {currency : Option String} {row : ProjectResource} :
    plannedLabor store currency row = none ↔ plannedLabor store none row = none := by
  unfold plannedLabor
  dsimp only
  split_ifs <;> simp

theorem plannedLabor_pos {currency : Option String} {row : ProjectResource} {cost : String × ℚ}
    (h : plannedLabor store currency row = some cost) : 0 < cost.2 := by
  unfold plannedLabor at h
  dsimp only at h
  split_ifs at h with hgiven
  obtain rfl := Option.some.inj h
  exact mul_pos hgiven.2.1 hgiven.2.2

/-- No computed labor is planned when it costs nothing in total. -/
theorem sum_resolvePlannedLaborMap_le_iff {currency : Option String} :
    (resolvePlannedLaborMap store projectId currency).sum Prod.snd ≤ 0 ↔
      ∀ row ∈ store.projectResourcesOf projectId, plannedLabor store none row = none := by
  have hpos : ∀ cost ∈ (store.projectResourcesOf projectId).filterMap
      (plannedLabor store currency), 0 < cost.2 := by
    intro cost hcost
    obtain ⟨row, -, hrow⟩ := List.mem_filterMap.mp hcost
    exact plannedLabor_pos hrow
  unfold resolvePlannedLaborMap
  rw [Buckets.sum_addAll_le_iff hpos, List.filterMap_eq_nil_iff]
  exact forall₂_congr fun row _ => plannedLabor_eq_none_iff

/-- The policy has no planned costs exactly when nothing is planned. -/
theorem Snapshots.plannedMap_eq_nil_iff (h : Snapshots service store projectId asOf snapshot) :
    snapshot.plannedMap.rows = [] ↔ PlansNothing store projectId := by
  rw [h.planned, addLabor_eq_nil_iff, collectItems_eq_nil_iff]
  constructor
  · rintro ⟨hitems, hlabor⟩
    have hsum : (resolvePlannedLaborMap store projectId snapshot.projectCurrency).sum
        Prod.snd ≤ 0 := by
      have hall := List.sum_le_card_nsmul
        ((resolvePlannedLaborMap store projectId snapshot.projectCurrency).rows.map Prod.snd) 0
        (List.forall_mem_map.mpr hlabor)
      rwa [nsmul_zero] at hall
    have hincluded : snapshot.includeManualLaborPlanned = true :=
      h.included.trans (decide_eq_true hsum)
    refine ⟨fun item hitem => hitems item hitem ?_, sum_resolvePlannedLaborMap_le_iff.mp hsum⟩
    rw [hincluded, Bool.or_true]
  · rintro ⟨hitems, hlabor⟩
    refine ⟨fun item hitem _ => hitems item hitem, ?_⟩
    have hempty : (store.projectResourcesOf projectId).filterMap
        (plannedLabor store snapshot.projectCurrency) = [] :=
      List.filterMap_eq_nil_iff.mpr fun row hrow =>
        plannedLabor_eq_none_iff.mpr (hlabor row hrow)
    unfold resolvePlannedLaborMap
    rw [hempty]
    exact fun row hrow => absurd hrow List.not_mem_nil

theorem Snapshots.planned_eq_zero (h : Snapshots service store projectId asOf snapshot)
    (hnothing : PlansNothing store projectId) :
    sumBucketMap snapshot.plannedMap snapshot.projectCurrency = 0 := by
  have hnil := h.plannedMap_eq_nil_iff.mpr hnothing
  simp only [sumBucketMap, Buckets.total, Table.sum, hnil, List.map_nil, List.sum_nil]

/-! ## The breakdown by type -/

def inScopeSum (rows : List CostBreakdownRow) (projectCurrency : Option String)
    (column : CostBreakdownRow → ℚ) : ℚ :=
  (rows.map fun row =>
    if currencyInScope row.currency projectCurrency = true then column row else 0).sum

theorem inScopeSum_planned (plannedMap actualMap : CostBuckets) (currency : Option String) :
    inScopeSum (costBreakdownRows plannedMap actualMap) currency CostBreakdownRow.planned =
      sumBucketMap plannedMap currency := by
  unfold inScopeSum costBreakdownRows sumBucketMap
  rw [List.map_map]
  apply Buckets.sum_amount
  · exact (List.perm_insertionSort _ _).nodup_iff.mpr (List.nodup_dedup _)
  · intro key hkey
    rw [List.mem_insertionSort, List.mem_dedup]
    exact List.mem_append_left _ hkey

theorem inScopeSum_actual (plannedMap actualMap : CostBuckets) (currency : Option String) :
    inScopeSum (costBreakdownRows plannedMap actualMap) currency CostBreakdownRow.actual =
      sumBucketMap actualMap currency := by
  unfold inScopeSum costBreakdownRows sumBucketMap
  rw [List.map_map]
  apply Buckets.sum_amount
  · exact (List.perm_insertionSort _ _).nodup_iff.mpr (List.nodup_dedup _)
  · intro key hkey
    rw [List.mem_insertionSort, List.mem_dedup]
    exact List.mem_append_right _ hkey

theorem currencyInScope_projectCurrency (text : Option String) :
    currencyInScope (normalizeCurrency (givenText (text.map fun text => upper (strip text))) none)
      (givenText (text.map fun text => upper (strip text))) = true := by
  cases text with
  | none => rfl
  | some text =>
      by_cases hempty : upper (strip text) = ""
      · simp [givenText, hempty, currencyInScope]
      · have hgiven : givenText ((some text).map fun text => upper (strip text)) =
            some (upper (strip text)) :=
          Option.filter_eq_some_iff.mpr ⟨rfl, decide_eq_true hempty⟩
        have hagain : givenText (some (upper (strip text))) = some (upper (strip text)) := hgiven
        rw [hgiven, currencyInScope, hagain, normalizeCurrency]
        simp [strip_upper_strip, upper_upper, orElse, hempty]

theorem sumBucketMap_addBucket {target : CostBuckets} {costType : CostType} {currency : String}
    {projectCurrency : Option String} (h : currencyInScope currency projectCurrency = true)
    (amount : ℚ) : sumBucketMap (addBucket target costType currency amount) projectCurrency =
      sumBucketMap target projectCurrency + max amount 0 := by
  unfold sumBucketMap
  rw [total_addBucket, if_pos h]

/-- What the planned column adds up to. -/
theorem Snapshots.sum_plannedOrBaseline (h : Snapshots service store projectId asOf snapshot)
    (baselineId : Option String) :
    sumBucketMap (plannedOrBaseline store projectId snapshot baselineId)
        snapshot.projectCurrency =
      if PlansNothing store projectId then max 0 (baselineTotal store projectId baselineId)
      else sumBucketMap snapshot.plannedMap snapshot.projectCurrency := by
  unfold plannedOrBaseline
  generalize baselineTotal store projectId baselineId = total
  by_cases hnothing : PlansNothing store projectId
  · have hzero := h.planned_eq_zero hnothing
    have hscope : currencyInScope (normalizeCurrency snapshot.projectCurrency none)
        snapshot.projectCurrency = true := by
      obtain ⟨project, -, hcurrency⟩ := h.currency
      rw [hcurrency]
      exact currencyInScope_projectCurrency _
    rw [if_pos (h.plannedMap_eq_nil_iff.mpr hnothing), if_pos hnothing]
    by_cases htotal : 0 < total
    · rw [if_pos htotal, sumBucketMap_addBucket hscope, hzero, zero_add, max_comm]
    · rw [if_neg htotal, hzero, max_eq_left (not_lt.mp htotal)]
  · rw [if_neg (mt h.plannedMap_eq_nil_iff.mp hnothing), if_neg hnothing]

/-- The breakdown by type has the totals of the cost control, but for the costs of a baseline in
the place of planned costs. -/
structure BreakdownAgrees (store : ProjectStore) (projectId : String) (baselineId : Option String)
    (rows : List CostBreakdownRow) (totals : CostControlTotals) : Prop where
  actual : inScopeSum rows totals.projectCurrency CostBreakdownRow.actual = totals.actual
  planned : inScopeSum rows totals.projectCurrency CostBreakdownRow.planned =
    if PlansNothing store projectId then max 0 (baselineTotal store projectId baselineId)
    else totals.planned
  nothing : PlansNothing store projectId → totals.planned = 0

theorem breakdownAgrees {totals : CostControlTotals}
    (htotals : getProjectCostControlTotals service store projectId asOf = .ok totals)
    (baselineId : Option String) :
    ∃ rows, getCostBreakdown service store projectId asOf baselineId = .ok rows ∧
      BreakdownAgrees store projectId baselineId rows totals := by
  obtain ⟨_, hview, htotals⟩ := bind_ok htotals
  obtain ⟨snapshot, hsnapshot, htotals⟩ := bind_ok htotals
  cases htotals
  obtain ⟨daily, hdaily, hcurrency, hplanned, -, hactual⟩ := exists_dailySnapshot hsnapshot
  refine ⟨_, bind_eq_ok.mpr ⟨(), requireView_other hview _,
    bind_eq_ok.mpr ⟨daily, hdaily, rfl⟩⟩, ?_⟩
  have hmade := buildCostPolicySnapshot_ok hdaily
  constructor
  · dsimp only
    rw [hcurrency, hactual]
    exact inScopeSum_actual _ _ _
  · dsimp only
    rw [hcurrency, hplanned, inScopeSum_planned]
    exact hmade.sum_plannedOrBaseline baselineId
  · intro hnothing
    dsimp only
    rw [hcurrency, hplanned]
    exact hmade.planned_eq_zero hnothing

/-- The key figures have the totals of the cost control as of today. -/
structure KpisAgree (kpi : ProjectKPI) (totals : CostControlTotals) (isToday : Prop) : Prop where
  planned : kpi.totalPlannedCost = totals.planned
  committed : kpi.totalCommittedCost = totals.committed
  actual : isToday → kpi.totalActualCost = totals.actual

theorem kpisAgree {totals : CostControlTotals} {kpi : ProjectKPI}
    (htotals : getProjectCostControlTotals service store projectId asOf = .ok totals)
    (hkpi : getProjectKpis service store projectId = .ok kpi) :
    KpisAgree kpi totals (asOf.getD service.today = service.today) := by
  obtain ⟨_, -, htotals⟩ := bind_ok htotals
  obtain ⟨snapshot, hsnapshot, htotals⟩ := bind_ok htotals
  cases htotals
  obtain ⟨_, -, hkpi⟩ := bind_ok hkpi
  obtain ⟨project, -, hkpi⟩ := bind_ok hkpi
  obtain ⟨infos, -, hkpi⟩ := bind_ok hkpi
  obtain ⟨current, hcurrent, hkpi⟩ := bind_ok hkpi
  cases hkpi
  obtain ⟨hcurrency, hplanned, hcommitted, hactual⟩ :=
    buildCostPolicySnapshot_day hcurrent hsnapshot
  constructor
  · dsimp only
    rw [hcurrency, hplanned]
  · dsimp only
    rw [hcurrency, hcommitted]
  · intro htoday
    dsimp only
    rw [hcurrency, hactual htoday]

/-- One cost policy stands behind the control totals, both breakdowns and the key figures. -/
theorem costReports_agree {totals : CostControlTotals}
    (htotals : getProjectCostControlTotals service store projectId asOf = .ok totals) :
    (∃ sources, getProjectCostSourceBreakdown service store projectId asOf = .ok sources ∧
      SourcesAgree sources totals) ∧
    (∀ baselineId, ∃ rows, getCostBreakdown service store projectId asOf baselineId = .ok rows ∧
      BreakdownAgrees store projectId baselineId rows totals) ∧
    ∀ kpi, getProjectKpis service store projectId = .ok kpi →
      KpisAgree kpi totals (asOf.getD service.today = service.today) :=
  ⟨sourcesAgree htotals, breakdownAgrees htotals, fun _ => kpisAgree htotals⟩

end

/-! ## A hall with labor in two currencies, and one that only its baseline plans -/

def hallReports : ReportingService where
  userSession := .admin
  calendar := weekdayCalendar
  today := 30

def hallProjects : ProjectStore where
  projects := .insert .empty { id := "hall", name := "Hall", currency := some "eur " }
  resources := .insert .empty
    { id := "welder", name := "Welder", hourlyRate := 40, currencyCode := some "EUR" }
  projectResources := .insert .empty
    { id := "hall-welder", projectId := "hall", resourceId := "welder", plannedHours := 10 }
  costs := .insert (.insert .empty
    { id := "steel", projectId := "hall", costType := .material, plannedAmount := 100
      actualAmount := 70, incurredDate := some 15 })
    { id := "crane", projectId := "hall", costType := .equipment, plannedAmount := 30
      committedAmount := 20, currencyCode := some "usd" }

def hallTotals : CostControlTotals where
  projectId := "hall"
  projectCurrency := some "EUR"
  budget := 0
  planned := 500
  committed := 0
  actual := 70
  exposure := 70
  available := none

theorem costReports_agree_hall :
    (∃ sources, getProjectCostSourceBreakdown hallReports hallProjects "hall" (some 20) =
        .ok sources ∧ SourcesAgree sources hallTotals) ∧
      (∀ baselineId, ∃ rows,
        getCostBreakdown hallReports hallProjects "hall" (some 20) baselineId = .ok rows ∧
          BreakdownAgrees hallProjects "hall" baselineId rows hallTotals) ∧
      ∀ kpi, getProjectKpis hallReports hallProjects "hall" = .ok kpi →
        KpisAgree kpi hallTotals ((some 20).getD hallReports.today = hallReports.today) :=
  costReports_agree (by decide +kernel)

/-- Paint is bought on day 20, and only the baseline has a planned cost. -/
def paintedHall : ProjectStore where
  projects := .insert .empty { id := "hall", name := "Hall", currency := some "EUR" }
  costs := .insert .empty
    { id := "paint", projectId := "hall", actualAmount := 50, incurredDate := some 20 }
  baselines := .insert .empty
    { id := "first", projectId := "hall", name := "First", createdAt := 1 }
  baselineTasks := .insert .empty
    { id := "first-coat", baselineId := "first", taskId := "coat", taskName := none
      baselineStart := none, baselineFinish := none, baselineDurationDays := 1
      baselinePlannedCost := 100 }

/-- On day 10 the breakdown by type has planned costs, and the key figures have actual costs,
that the control totals do not have. -/
theorem not_costReportsAgree_paintedHall :
    (getProjectCostControlTotals hallReports paintedHall "hall" (some 10)).map
        (fun totals => (totals.projectCurrency, totals.planned, totals.actual)) =
        .ok (some "EUR", 0, 0) ∧
      (getCostBreakdown hallReports paintedHall "hall" (some 10) none).map
        (fun rows => inScopeSum rows (some "EUR") CostBreakdownRow.planned) = .ok 100 ∧
      (getProjectKpis hallReports paintedHall "hall").map
        (fun kpi => (kpi.totalPlannedCost, kpi.totalActualCost)) = .ok (0, 50) := by
  decide +kernel

end ProjectManager
