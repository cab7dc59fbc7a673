import ProjectManager.Finance.Ledger
import ProjectManager.Foundation.Peaks

/-! # The ledger and the cost policy

The ledger marks entry by entry what the cost policy counts in total, and the
cashflow adds up all entries. Both come to the totals of the policy exactly when no
entry is left out by either side.
-/

namespace ProjectManager

open Foundation

/-- Every entry without a project currency, and otherwise those in it. -/
def FinanceLedgerRow.inCurrency (row : FinanceLedgerRow) (projectCurrency : Option String) :
    Bool :=
  (givenText projectCurrency).all fun code =>
    row.currency.any fun currency => upper currency = upper code

/-- The entry is marked, and in the currency of the project. -/
def FinanceLedgerRow.counted (row : FinanceLedgerRow) (projectCurrency : Option String) : Bool :=
  row.includedInPolicy && row.inCurrency projectCurrency

def CostControlTotals.amounts (totals : CostControlTotals) : StageAmounts :=
  ⟨totals.planned, totals.committed, totals.actual⟩

/-- In each stage the counted entries and the cashflow come to the control total. -/
structure Reconciles (snapshot : FinanceSnapshot) (totals : CostControlTotals) : Prop where
  ledger : ∀ stage, stageTotal stage
    (snapshot.ledger.filter fun row => row.counted totals.projectCurrency) =
      totals.amounts.of stage
  cashflow : ∀ stage, (snapshot.cashflow.map fun row => row.of stage).sum =
    totals.amounts.of stage

/-! ## The condition -/

section

variable (store : ProjectStore) (projectId : String) (day : Date) (currency : Option String)

/-- No computed labor takes the place of the labor that was entered by hand. -/
def NoComputedLabor : FinanceStage → Prop
  | .planned => ∀ row ∈ store.projectResourcesOf projectId, plannedLabor store none row = none
  | .committed => (∀ row ∈ store.projectResourcesOf projectId,
      plannedLabor store none row = none) ∧
        ∀ row ∈ laborResourceRows store projectId, row.totalCost ≤ 0
  | .actual => ∀ row ∈ laborResourceRows store projectId, row.totalCost ≤ 0

/-- The labor entered by hand that is in the currency of the project. -/
def manualInCurrency (items : List CostItem) : StageAmounts where
  planned := manualRaw items currency CostItem.plannedAmount
  committed := manualRaw items currency fun item => max item.committedAmount 0
  actual := manualRaw (items.filter fun item => item.incurredDate.all fun incurred =>
    incurred ≤ day) currency CostItem.actualAmount

/-- Nearly all labor entered by hand is in the currency of the project. -/
def ManualMarked (stage : FinanceStage) : Prop :=
  (manualLaborRawTotals (store.costsOf projectId) day).of stage ≤ 0 ∨
    isEffectivelyEqual ((manualLaborRawTotals (store.costsOf projectId) day).of stage)
      ((manualInCurrency day currency (store.costsOf projectId)).of stage) = true

def CostItem.InCurrency (item : CostItem) : Prop :=
  currencyInScope (normalizeCurrency item.currencyCode currency) currency = true

/-- The logged labor of a resource counts as a whole. -/
structure LaborCounts (row : LaborResourceRow) : Prop where
  own : ∀ assignment ∈ row.assignments, 0 < assignment.cost →
    (givenText currency).all (fun code =>
      ((givenText assignment.currencyCode).or row.currencyCode).any fun own =>
        upper own = upper code) = true
  shared : currencyInScope (normalizeCurrency row.currencyCode currency) currency = true
  nonneg : ∀ assignment ∈ row.assignments, 0 ≤ assignment.cost

/-- Neither the ledger nor the policy leaves anything out that the other one counts. -/
structure NothingLeftOut : Prop where
  items : ∀ item ∈ store.costsOf projectId, ∀ stage, 0 < readStageAmount day item stage →
    item.InCurrency currency ∧ (item.costType = .labor →
      NoComputedLabor store projectId stage ∧ ManualMarked store projectId day currency stage)
  planned : ∀ row ∈ store.projectResourcesOf projectId, ∀ cost ∈ plannedLabor store currency row,
    currencyInScope cost.1 currency = true
  actual : ∀ row ∈ laborResourceRows store projectId,
    (∃ assignment ∈ row.assignments, 0 < assignment.cost) → LaborCounts currency row

end

section

def Project.policyCurrency (project : Project) : Option String :=
  givenText (project.currency.map fun text => upper (strip text))

/-- Both sides fall back on the same currency. -/
theorem normalizeCurrency_ledgerCurrency (project : Project) (value : Option String) :
    normalizeCurrency value project.ledgerCurrency =
      normalizeCurrency value project.policyCurrency := by
  have hfallback : orElse (upper (strip (project.ledgerCurrency.getD ""))) "-" =
      orElse (upper (strip (project.policyCurrency.getD ""))) "-" := by
    unfold Project.ledgerCurrency Project.policyCurrency normalizeCurrency
    cases project.currency with
    | none => decide +kernel
    | some text =>
        by_cases hempty : upper (strip text) = ""
        · simp only [Option.getD_some, Option.getD_none, hempty, givenText, Option.map_some]
          decide +kernel
        · have hgiven : givenText ((some text).map fun text => upper (strip text)) =
              some (upper (strip text)) :=
            Option.filter_eq_some_iff.mpr ⟨rfl, decide_eq_true hempty⟩
          rw [hgiven]
          simp [orElse, hempty, strip_upper_strip, upper_upper]
  unfold normalizeCurrency
  rw [hfallback]

end

/-! ## What the policy counts -/

namespace CostPolicySnapshot

variable (snapshot : CostPolicySnapshot)

def bucketsOf : FinanceStage → CostBuckets
  | .planned => snapshot.plannedMap
  | .committed => snapshot.committedMap
  | .actual => snapshot.actualMap

/-- Labor entered by hand counts in the stage. -/
def includesManual : FinanceStage → Bool
  | .planned => snapshot.includeManualLaborPlanned
  | .committed => snapshot.includeManualLaborCommitted
  | .actual => snapshot.includeManualLaborActual

end CostPolicySnapshot

section

variable (keep : CostType × String → Prop) [DecidablePred keep] (target : CostBuckets)

theorem total_addLabor {labor : Buckets String ℚ} (hlabor : ∀ row ∈ labor.rows, 0 ≤ row.2) :
    (addLabor target labor).total keep =
      target.total keep + labor.total fun currency => keep (.labor, currency) := by
  unfold addLabor
  rw [Buckets.total.eq_1 labor, Table.sum]
  generalize labor.rows = rows at hlabor ⊢
  induction rows generalizing target with
  | nil => exact (add_zero _).symm
  | cons row rest ih =>
      obtain ⟨hrow, hrest⟩ := List.forall_mem_cons.mp hlabor
      rw [List.foldl_cons, ih _ hrest, total_addBucket, max_eq_left hrow, List.map_cons,
        List.sum_cons, add_assoc]

theorem total_addLabor_addAll {costs : List (String × ℚ)} (hcosts : ∀ cost ∈ costs, 0 ≤ cost.2) :
    (addLabor target (Buckets.addAll .empty costs)).total keep =
      target.total keep +
        (costs.map fun cost => if keep (.labor, cost.1) then cost.2 else 0).sum := by
  have hwithin : (Buckets.addAll .empty costs).Within Set.univ :=
    Buckets.within_addAll (fun bucket hbucket => absurd hbucket List.not_mem_nil)
      fun cost hcost => ⟨trivial, hcosts cost hcost⟩
  rw [total_addLabor keep target fun row hrow => (hwithin row hrow).2, Buckets.total_addAll]
  exact congrArg _ (zero_add _)

end

section

variable (store : ProjectStore) (projectId : String) (day : Date) (currency : Option String)

def computedLabor : FinanceStage → List (String × ℚ)
  | .planned => (store.projectResourcesOf projectId).filterMap (plannedLabor store currency)
  | .committed => []
  | .actual => (laborResourceRows store projectId).filterMap (actualLabor currency)

def inScopeAmount (cost : String × ℚ) : ℚ :=
  if currencyInScope cost.1 currency = true then cost.2 else 0

def countedAmount (manual : Bool) (stage : FinanceStage) (item : CostItem) : ℚ :=
  if (item.costType ≠ .labor || manual) = true ∧
      currencyInScope (normalizeCurrency item.currencyCode currency) currency = true then
    max (readStageAmount day item stage) 0
  else 0

end

theorem getProjectLaborDetails_perm {store : ProjectStore} {projectId : String}
    {service : ReportingService} {details : List LaborResourceRow}
    (h : getProjectLaborDetails store projectId service = .ok details) :
    details.Perm (laborResourceRows store projectId) := by
  iterate 2 obtain ⟨_, -, h⟩ := bind_ok h
  cases h
  exact List.mergeSort_perm _ _

theorem actualLabor_pos {currency : Option String} {row : LaborResourceRow} {cost : String × ℚ}
    (h : actualLabor currency row = some cost) : 0 < cost.2 := by
  unfold actualLabor at h
  split_ifs at h with hpos
  obtain rfl := Option.some.inj h
  exact hpos

section

variable {currency : Option String}

theorem sumBucketMap_addLabor (target : CostBuckets) {costs : List (String × ℚ)}
    (hcosts : ∀ cost ∈ costs, 0 ≤ cost.2) :
    sumBucketMap (addLabor target (Buckets.addAll .empty costs)) currency =
      sumBucketMap target currency + (costs.map (inScopeAmount currency)).sum :=
  total_addLabor_addAll _ _ hcosts

theorem sumBucketMap_collectItems {day : Date} {manual : Bool} {stage : FinanceStage}
    {items : List CostItem} {amount : CostItem → ℚ} {keepItem : CostItem → Bool}
    (h : ∀ item ∈ items,
      (if keepItem item = true ∧
          currencyInScope (normalizeCurrency item.currencyCode currency) currency = true then
        max (amount item) 0 else 0) = countedAmount day currency manual stage item) :
    sumBucketMap (collectItems currency items amount keepItem) currency =
      (items.map (countedAmount day currency manual stage)).sum := by
  unfold sumBucketMap
  rw [total_collectItems, List.map_congr_left h]

end

/-- What the buckets of a snapshot are made of, and when they have labor entered by hand. -/
structure PolicyParts (store : ProjectStore) (projectId : String) (day : Date)
    (snapshot : CostPolicySnapshot) : Prop where
  planned : snapshot.plannedMap = addLabor (collectItems snapshot.projectCurrency
    (store.costsOf projectId) CostItem.plannedAmount fun item =>
      item.costType ≠ .labor || snapshot.includesManual .planned)
    (.addAll .empty (computedLabor store projectId snapshot.projectCurrency .planned))
  committed : snapshot.committedMap = collectItems snapshot.projectCurrency
    (store.costsOf projectId) CostItem.committedAmount fun item =>
      item.costType ≠ .labor || snapshot.includesManual .committed
  actual : ∃ costs, costs.Perm (computedLabor store projectId snapshot.projectCurrency .actual) ∧
    snapshot.actualMap = addLabor (collectItems snapshot.projectCurrency
      (store.costsOf projectId) CostItem.actualAmount fun item =>
        (item.costType ≠ .labor || snapshot.includesManual .actual) &&
          item.incurredDate.all fun incurred => incurred ≤ day) (.addAll .empty costs)
  includesManual : ∀ stage, snapshot.includesManual stage = true ↔
    NoComputedLabor store projectId stage

theorem computedLabor_pos {store : ProjectStore} {projectId : String} {currency : Option String}
    {stage : FinanceStage} {cost : String × ℚ}
    (h : cost ∈ computedLabor store projectId currency stage) : 0 < cost.2 := by
  cases stage with
  | planned =>
      obtain ⟨row, -, hrow⟩ := List.mem_filterMap.mp h
      exact plannedLabor_pos hrow
  | committed => cases h
  | actual =>
      obtain ⟨row, -, hrow⟩ := List.mem_filterMap.mp h
      exact actualLabor_pos hrow

section

variable {store : ProjectStore} {projectId : String} {service : ReportingService}
  {asOf : Option Date} {snapshot : CostPolicySnapshot}

theorem sum_actualLabor_le_iff {currency : Option String} {costs : List (String × ℚ)}
    (hcosts : costs.Perm (computedLabor store projectId currency .actual)) :
    (Buckets.addAll .empty costs).sum Prod.snd ≤ 0 ↔
      ∀ row ∈ laborResourceRows store projectId, row.totalCost ≤ 0 := by
  rw [Buckets.sum_addAll_le_iff fun cost hcost => computedLabor_pos (hcosts.subset hcost),
    ← List.length_eq_zero_iff, hcosts.length_eq, List.length_eq_zero_iff, computedLabor,
    List.filterMap_eq_nil_iff]
  apply forall₂_congr
  intro row _
  unfold actualLabor
  rw [ite_eq_right_iff, ← not_lt]
  exact ⟨fun h hpos => absurd (h hpos) (Option.some_ne_none _), fun h hpos => absurd hpos h⟩

theorem buildCostPolicySnapshot_parts
    (h : buildCostPolicySnapshot store projectId service asOf = .ok snapshot) :
    PolicyParts store projectId (asOf.getD service.today) snapshot := by
  obtain ⟨project, -, h⟩ := bind_ok h
  obtain ⟨labor, hlabor, h⟩ := bind_ok h
  obtain ⟨details, hdetails, hlabor⟩ := bind_ok hlabor
  cases hlabor
  cases h
  have hperm := (getProjectLaborDetails_perm hdetails).filterMap
    (actualLabor (givenText (project.currency.map fun text => upper (strip text))))
  have hplanned := decide_eq_true_iff.trans <| @sum_resolvePlannedLaborMap_le_iff store projectId
    (givenText (project.currency.map fun text => upper (strip text)))
  have hactual := decide_eq_true_iff.trans (sum_actualLabor_le_iff hperm)
  refine ⟨rfl, rfl, ⟨_, hperm, rfl⟩, fun stage => ?_⟩
  cases stage with
  | planned => exact hplanned
  | committed => exact Bool.and_eq_true_iff.trans (and_congr hplanned hactual)
  | actual => exact hactual

variable {day : Date}

theorem PolicyParts.total (h : PolicyParts store projectId day snapshot) (stage : FinanceStage) :
    sumBucketMap (snapshot.bucketsOf stage) snapshot.projectCurrency =
      ((store.costsOf projectId).map (countedAmount day
        snapshot.projectCurrency (snapshot.includesManual stage) stage)).sum +
      ((computedLabor store projectId snapshot.projectCurrency stage).map
        (inScopeAmount snapshot.projectCurrency)).sum := by
  have hlabor (cost) (hcost : cost ∈ computedLabor store projectId snapshot.projectCurrency stage) :
      0 ≤ cost.2 := (computedLabor_pos hcost).le
  cases stage with
  | planned =>
      unfold CostPolicySnapshot.bucketsOf
      rw [h.planned, sumBucketMap_addLabor _ hlabor]
      congr 1
      exact sumBucketMap_collectItems fun item _ => rfl
  | committed =>
      have hitems : sumBucketMap snapshot.committedMap snapshot.projectCurrency =
          ((store.costsOf projectId).map (countedAmount day snapshot.projectCurrency
            (snapshot.includesManual .committed) .committed)).sum := by
        rw [h.committed]
        exact sumBucketMap_collectItems fun item _ => rfl
      exact hitems.trans (add_zero _).symm
  | actual =>
      obtain ⟨costs, hcosts, hactual⟩ := h.actual
      unfold CostPolicySnapshot.bucketsOf
      rw [hactual, sumBucketMap_addLabor _ fun cost hcost => hlabor cost (hcosts.subset hcost),
        (hcosts.map _).sum_eq]
      congr 1
      apply sumBucketMap_collectItems
      intro item _
      unfold countedAmount readStageAmount
      by_cases hincurred : (item.incurredDate.all fun incurred => incurred ≤ day) = true
      · simp only [hincurred, Bool.and_true, if_true]
      · simp only [hincurred, Bool.and_false, Bool.false_eq_true, false_and, if_false, max_self,
          ite_self]

end

/-! ## What the ledger holds -/

theorem stageTotal_append (stage : FinanceStage) (first second : List FinanceLedgerRow) :
    stageTotal stage (first ++ second) = stageTotal stage first + stageTotal stage second := by
  unfold stageTotal
  rw [List.filter_append, List.map_append, List.sum_append]

theorem stageTotal_perm {first second : List FinanceLedgerRow} (h : first.Perm second)
    (stage : FinanceStage) : stageTotal stage first = stageTotal stage second :=
  ((h.filter _).map _).sum_eq

/-- What the totals see of an entry. -/
structure EntryTally where
  stage : FinanceStage
  amount : ℚ
  currency : Option String
  included : Bool

def FinanceLedgerRow.tally (row : FinanceLedgerRow) : EntryTally :=
  ⟨row.stage, row.amount, row.currency, row.includedInPolicy⟩

namespace EntryTally

def amountIn (tally : EntryTally) (stage : FinanceStage) : ℚ :=
  if tally.stage = stage then tally.amount else 0

def counted (tally : EntryTally) (projectCurrency : Option String) : Bool :=
  tally.included && (givenText projectCurrency).all fun code =>
    tally.currency.any fun currency => upper currency = upper code

theorem counted_some {stage : FinanceStage} {amount : ℚ} {own : String} {included : Bool}
    {projectCurrency : Option String} :
    (EntryTally.mk stage amount (some own) included).counted projectCurrency = true ↔
      included = true ∧ currencyInScope own projectCurrency = true :=
  Bool.and_eq_true_iff

theorem counted_included {stage : FinanceStage} {amount : ℚ} {own projectCurrency : Option String} :
    (EntryTally.mk stage amount own true).counted projectCurrency = true ↔
      ((givenText projectCurrency).all fun code =>
        own.any fun currency => upper currency = upper code) = true := by
  rw [counted, Bool.true_and]

end EntryTally

section

variable {store : ProjectStore} {project : Project} {day : Date}
  {manualIncluded : FinanceStage → Bool} {stage : FinanceStage}

theorem costItemLedgerRow_tally (item : CostItem) (stage : FinanceStage) :
    (costItemLedgerRow day store project manualIncluded item stage).map FinanceLedgerRow.tally =
      if readStageAmount day item stage ≤ 0 then none
      else some ⟨stage, readStageAmount day item stage,
        some (normalizeCurrency item.currencyCode project.policyCurrency),
        if item.costType = .labor then manualIncluded stage else true⟩ := by
  unfold costItemLedgerRow
  simp only [decide_eq_true_eq, normalizeCurrency_ledgerCurrency]
  split_ifs <;> rfl

theorem computedLaborPlanRow_tally (hnamed : "" ∉ store.resources.ids) (row : ProjectResource) :
    (computedLaborPlanRow day store project row).map FinanceLedgerRow.tally =
      (plannedLabor store project.policyCurrency row).map fun cost =>
        ⟨.planned, cost.2, some cost.1, true⟩ := by
  have hresource : (if row.resourceId = "" then none else store.resources.get? row.resourceId) =
      store.resources.get? row.resourceId := by
    split_ifs with hempty
    · rw [hempty, Table.get?_eq_none.mpr hnamed]
    · rfl
  have hskipped {rate : ℚ} : (row.isActive = true ∧ 0 < row.plannedHours ∧ 0 < rate) ↔
      ¬ (row.isActive = false ∨ row.plannedHours ≤ 0 ∨ rate ≤ 0) := by
    simp only [not_or, not_le, Bool.not_eq_false]
  unfold computedLaborPlanRow plannedLabor resolveRate
  simp only [hresource, normalizeCurrency_ledgerCurrency, hskipped]
  generalize row.hourlyRate.getD
    (((store.resources.get? row.resourceId).map Resource.hourlyRate).getD 0) = rate
  by_cases hskip : row.isActive = false ∨ row.plannedHours ≤ 0 ∨ rate ≤ 0
  · rw [if_pos hskip, if_neg (not_not_intro hskip)]
    rfl
  · rw [if_neg hskip, if_pos hskip, Option.map_some, Option.map_some, FinanceLedgerRow.tally]

theorem computedLaborActualRow_tally (row : LaborResourceRow) (assignment : LaborAssignmentRow) :
    (computedLaborActualRow day store project row assignment).map FinanceLedgerRow.tally =
      if assignment.cost ≤ 0 then none
      else some ⟨.actual, assignment.cost,
        (givenText assignment.currencyCode).or row.currencyCode, true⟩ := by
  unfold computedLaborActualRow
  split_ifs
  · rfl
  · rfl

theorem amountIn_of_tally {entry : Option FinanceLedgerRow} {tally : Option EntryTally}
    (h : entry.map FinanceLedgerRow.tally = tally) (stage : FinanceStage) :
    (entry.map fun row => row.amountIn stage).getD 0 =
      (tally.map fun tally => tally.amountIn stage).getD 0 := by
  rw [← h, Option.map_map]
  rfl

theorem amountIn_ite {amount : ℚ} {other : FinanceStage} {currency : Option String}
    {included : Bool} :
    (((if amount ≤ 0 then none else some ⟨other, amount, currency, included⟩ :
      Option EntryTally)).map fun tally => tally.amountIn stage).getD 0 =
        if other = stage then max amount 0 else 0 := by
  by_cases hamount : amount ≤ 0
  · rw [if_pos hamount, max_eq_right hamount, ite_self]
    rfl
  · rw [if_neg hamount, max_eq_left (not_le.mp hamount).le]
    rfl

theorem stageTotal_costItems :
    stageTotal stage (buildCostItemLedgerRows day store project manualIncluded) =
      ((store.costsOf project.id).map fun item => max (readStageAmount day item stage) 0).sum := by
  unfold buildCostItemLedgerRows
  rw [← stageTotal_eq, sum_map_flatMap]
  refine congrArg List.sum (List.map_congr_left fun item _ => ?_)
  have hentry (other : FinanceStage) (_ : other ∈ FinanceStage.all) :
      ((costItemLedgerRow day store project manualIncluded item other).map fun row =>
        row.amountIn stage).getD 0 =
          if other = stage then max (readStageAmount day item other) 0 else 0 :=
    (amountIn_of_tally (costItemLedgerRow_tally item other) stage).trans amountIn_ite
  rw [sum_map_filterMap, List.map_congr_left hentry]
  cases stage <;> simp [FinanceStage.all]

theorem stageTotal_laborPlan (hnamed : "" ∉ store.resources.ids) :
    stageTotal stage (buildComputedLaborPlanRows day store project) =
      ((store.projectResourcesOf project.id).map fun row =>
        if .planned = stage then
          ((plannedLabor store project.policyCurrency row).map Prod.snd).getD 0
        else 0).sum := by
  unfold buildComputedLaborPlanRows
  rw [← stageTotal_eq, sum_map_filterMap]
  refine congrArg List.sum (List.map_congr_left fun row _ => ?_)
  rw [amountIn_of_tally (computedLaborPlanRow_tally hnamed row), Option.map_map]
  cases plannedLabor store project.policyCurrency row with
  | none => exact (ite_self 0).symm
  | some cost => rfl

theorem stageTotal_laborActual (rows : List LaborResourceRow) :
    stageTotal stage (buildComputedLaborActualRows day store project rows) =
      (rows.map fun row => (row.assignments.map fun assignment =>
        if .actual = stage then max assignment.cost 0 else 0).sum).sum := by
  unfold buildComputedLaborActualRows
  rw [← stageTotal_eq, sum_map_flatMap]
  refine congrArg List.sum (List.map_congr_left fun row _ => ?_)
  rw [sum_map_filterMap]
  refine congrArg List.sum (List.map_congr_left fun assignment _ => ?_)
  exact (amountIn_of_tally (computedLaborActualRow_tally row assignment) stage).trans amountIn_ite

theorem forall_of_tally {entry : Option FinanceLedgerRow} {tally : Option EntryTally}
    (h : entry.map FinanceLedgerRow.tally = tally) {P : EntryTally → Prop} :
    (∀ row, entry = some row → P row.tally) ↔ ∀ seen, tally = some seen → P seen := by
  subst h
  cases entry with
  | none => simp
  | some row => simp

theorem forall_ite {amount : ℚ} {tally : EntryTally} {P : EntryTally → Prop} :
    (∀ seen, (if amount ≤ 0 then none else some tally) = some seen → P seen) ↔
      (0 < amount → P tally) := by
  by_cases hamount : amount ≤ 0
  · simp [hamount]
  · simp [hamount, not_le.mp hamount]

theorem forall_costItems {P : EntryTally → Prop} :
    (∀ row ∈ buildCostItemLedgerRows day store project manualIncluded, P row.tally) ↔
      ∀ item ∈ store.costsOf project.id, ∀ stage, 0 < readStageAmount day item stage →
        P ⟨stage, readStageAmount day item stage,
          some (normalizeCurrency item.currencyCode project.policyCurrency),
          if item.costType = .labor then manualIncluded stage else true⟩ := by
  have hall (stage : FinanceStage) : stage ∈ FinanceStage.all := by
    cases stage <;> decide
  unfold buildCostItemLedgerRows
  simp only [List.forall_mem_flatMap, List.forall_mem_filterMap,
    forall_of_tally (costItemLedgerRow_tally _ _), forall_ite, hall, true_imp_iff]

theorem forall_laborPlan (hnamed : "" ∉ store.resources.ids) {P : EntryTally → Prop} :
    (∀ row ∈ buildComputedLaborPlanRows day store project, P row.tally) ↔
      ∀ row ∈ store.projectResourcesOf project.id,
        ∀ cost ∈ plannedLabor store project.policyCurrency row,
          P ⟨.planned, cost.2, some cost.1, true⟩ := by
  unfold buildComputedLaborPlanRows
  simp only [List.forall_mem_filterMap, forall_of_tally (computedLaborPlanRow_tally hnamed _),
    Option.map_eq_some_iff, forall_exists_index, and_imp, forall_apply_eq_imp_iff₂,
    Option.mem_def]

theorem forall_laborActual {rows : List LaborResourceRow} {P : EntryTally → Prop} :
    (∀ row ∈ buildComputedLaborActualRows day store project rows, P row.tally) ↔
      ∀ row ∈ rows, ∀ assignment ∈ row.assignments, 0 < assignment.cost →
        P ⟨.actual, assignment.cost,
          (givenText assignment.currencyCode).or row.currencyCode, true⟩ := by
  unfold buildComputedLaborActualRows
  simp only [List.forall_mem_flatMap, List.forall_mem_filterMap,
    forall_of_tally (computedLaborActualRow_tally _ _), forall_ite]

end

/-! ## Labor -/

section

variable {store : ProjectStore} {projectId : String} {currency : Option String}

def ledgerLabor (store : ProjectStore) (projectId : String) (currency : Option String) :
    FinanceStage → ℚ
  | .planned => ((store.projectResourcesOf projectId).map fun row =>
      ((plannedLabor store currency row).map Prod.snd).getD 0).sum
  | .committed => 0
  | .actual => ((laborResourceRows store projectId).map fun row =>
      (row.assignments.map fun assignment => max assignment.cost 0).sum).sum

/-- The policy counts no more of the planned labor than the ledger. -/
theorem inScopeAmount_planned_le (row : ProjectResource) :
    ((plannedLabor store currency row).map (inScopeAmount currency)).getD 0 ≤
      ((plannedLabor store currency row).map Prod.snd).getD 0 := by
  cases hcost : plannedLabor store currency row with
  | none => exact le_rfl
  | some cost =>
      change inScopeAmount currency cost ≤ cost.2
      unfold inScopeAmount
      split_ifs
      · exact le_rfl
      · exact (plannedLabor_pos hcost).le

theorem inScopeAmount_planned_eq_iff (row : ProjectResource) :
    ((plannedLabor store currency row).map (inScopeAmount currency)).getD 0 =
        ((plannedLabor store currency row).map Prod.snd).getD 0 ↔
      ∀ cost ∈ plannedLabor store currency row, currencyInScope cost.1 currency = true := by
  cases hcost : plannedLabor store currency row with
  | none => simp
  | some cost =>
      have hpos := plannedLabor_pos hcost
      by_cases hscope : currencyInScope cost.1 currency = true
      · simp [inScopeAmount, hscope]
      · simp [inScopeAmount, hscope, hpos.ne]

theorem totalCost_eq {row : LaborResourceRow} (h : row ∈ laborResourceRows store projectId) :
    row.totalCost = (row.assignments.map LaborAssignmentRow.cost).sum := by
  obtain ⟨resourceId, -, rfl⟩ := List.mem_map.mp h
  rfl

theorem inScopeAmount_actual (row : LaborResourceRow) :
    ((actualLabor currency row).map (inScopeAmount currency)).getD 0 =
      if 0 < row.totalCost ∧
          currencyInScope (normalizeCurrency row.currencyCode currency) currency = true then
        row.totalCost
      else 0 := by
  unfold actualLabor inScopeAmount
  by_cases hpos : 0 < row.totalCost
  · simp [hpos]
  · simp [hpos]

theorem inScopeAmount_actual_le {row : LaborResourceRow}
    (h : row ∈ laborResourceRows store projectId) :
    ((actualLabor currency row).map (inScopeAmount currency)).getD 0 ≤
      (row.assignments.map fun assignment => max assignment.cost 0).sum := by
  rw [inScopeAmount_actual]
  split_ifs
  · rw [totalCost_eq h]
    exact List.sum_le_sum fun assignment _ => le_max_left _ _
  · exact List.sum_nonneg (List.forall_mem_map.mpr fun assignment _ => le_max_right _ _)

/-- The logged labor of a resource counts as a whole when it is in the currency of the project and
nothing is taken off. -/
theorem inScopeAmount_actual_eq_iff {row : LaborResourceRow}
    (h : row ∈ laborResourceRows store projectId) :
    ((actualLabor currency row).map (inScopeAmount currency)).getD 0 =
        (row.assignments.map fun assignment => max assignment.cost 0).sum ↔
      ((∃ assignment ∈ row.assignments, 0 < assignment.cost) →
        currencyInScope (normalizeCurrency row.currencyCode currency) currency = true ∧
          ∀ assignment ∈ row.assignments, 0 ≤ assignment.cost) := by
  rw [inScopeAmount_actual, totalCost_eq h]
  have hnonneg : ∀ assignment ∈ row.assignments, 0 ≤ max assignment.cost 0 :=
    fun assignment _ => le_max_right _ _
  have hsame : (row.assignments.map LaborAssignmentRow.cost).sum =
      (row.assignments.map fun assignment => max assignment.cost 0).sum ↔
        ∀ assignment ∈ row.assignments, 0 ≤ assignment.cost :=
    (sum_map_eq_iff fun assignment _ => le_max_left _ _).trans
      (forall₂_congr fun assignment _ => eq_comm.trans max_eq_left_iff)
  by_cases hsome : ∃ assignment ∈ row.assignments, 0 < assignment.cost
  · obtain ⟨assignment, hassignment, hcost⟩ := hsome
    have hpos : 0 < (row.assignments.map fun assignment => max assignment.cost 0).sum :=
      hcost.trans_le ((le_max_left _ _).trans (List.single_le_sum
        (List.forall_mem_map.mpr hnonneg) _ (List.mem_map_of_mem hassignment)))
    constructor
    · intro heq _
      split_ifs at heq with hcounts
      · exact ⟨hcounts.2, hsame.mp heq⟩
      · exact absurd heq hpos.ne
    · intro hcounts
      obtain ⟨hscope, hall⟩ := hcounts ⟨assignment, hassignment, hcost⟩
      rw [hsame.mpr hall]
      exact if_pos ⟨hpos, hscope⟩
  · have hnone : ∀ assignment ∈ row.assignments, max assignment.cost 0 = 0 :=
      fun assignment hassignment =>
        max_eq_right (not_lt.mp fun hcost => hsome ⟨assignment, hassignment, hcost⟩)
    have hzero := List.sum_eq_zero (List.forall_mem_map.mpr hnone)
    have hle : (row.assignments.map LaborAssignmentRow.cost).sum ≤ 0 :=
      hzero ▸ List.sum_le_sum fun assignment _ => le_max_left _ _
    rw [hzero, if_neg fun hcounts => absurd hcounts.1 (not_lt.mpr hle)]
    exact iff_of_true rfl fun hex => absurd hex hsome

/-- The labor that the policy counts is at most that of the ledger. -/
theorem sum_inScopeAmount_le (stage : FinanceStage) :
    ((computedLabor store projectId currency stage).map (inScopeAmount currency)).sum ≤
      ledgerLabor store projectId currency stage := by
  unfold computedLabor ledgerLabor
  cases stage with
  | planned =>
      rw [sum_map_filterMap]
      exact List.sum_le_sum fun row _ => inScopeAmount_planned_le row
  | committed => exact le_rfl
  | actual =>
      rw [sum_map_filterMap]
      exact List.sum_le_sum fun row hrow => inScopeAmount_actual_le hrow

theorem sum_inScopeAmount_eq_iff :
    (∀ stage, ((computedLabor store projectId currency stage).map (inScopeAmount currency)).sum =
        ledgerLabor store projectId currency stage) ↔
      (∀ row ∈ store.projectResourcesOf projectId, ∀ cost ∈ plannedLabor store currency row,
        currencyInScope cost.1 currency = true) ∧
      ∀ row ∈ laborResourceRows store projectId,
        (∃ assignment ∈ row.assignments, 0 < assignment.cost) →
          currencyInScope (normalizeCurrency row.currencyCode currency) currency = true ∧
            ∀ assignment ∈ row.assignments, 0 ≤ assignment.cost := by
  have hstages {P : FinanceStage → Prop} :
      (∀ stage, P stage) ↔ P .planned ∧ P .committed ∧ P .actual :=
    ⟨fun h => ⟨h .planned, h .committed, h .actual⟩, fun h stage => by
      cases stage with
      | planned => exact h.1
      | committed => exact h.2.1
      | actual => exact h.2.2⟩
  rw [hstages]
  unfold computedLabor ledgerLabor
  refine and_congr ?_ ((and_iff_right rfl).trans ?_)
  · rw [sum_map_filterMap, sum_map_eq_iff fun row _ => inScopeAmount_planned_le row]
    exact forall₂_congr fun row _ => inScopeAmount_planned_eq_iff row
  · rw [sum_map_filterMap, sum_map_eq_iff fun row hrow => inScopeAmount_actual_le hrow]
    exact forall₂_congr fun row hrow => inScopeAmount_actual_eq_iff hrow

end

/-! ## The two sides -/

section

variable {day : Date} {currency : Option String} {manual : Bool} {stage : FinanceStage}

theorem countedAmount_le (item : CostItem) :
    countedAmount day currency manual stage item ≤ max (readStageAmount day item stage) 0 := by
  unfold countedAmount
  split_ifs
  · exact le_rfl
  · exact le_max_right _ _

theorem countedAmount_eq_iff (item : CostItem) :
    countedAmount day currency manual stage item = max (readStageAmount day item stage) 0 ↔
      (0 < readStageAmount day item stage →
        item.InCurrency currency ∧ (item.costType = .labor → manual = true)) := by
  have hkept : (item.costType ≠ .labor || manual) = true ↔
      (item.costType = .labor → manual = true) := by
    rw [Bool.or_eq_true, decide_eq_true_iff, imp_iff_not_or]
  unfold countedAmount
  rw [← hkept]
  by_cases hamount : 0 < readStageAmount day item stage
  · rw [max_eq_left hamount.le, ite_eq_left_iff]
    constructor
    · intro h _
      by_contra hmiss
      exact hamount.ne (h fun hcounts => hmiss hcounts.symm)
    · intro h hmiss
      exact absurd (h hamount).symm hmiss
  · rw [max_eq_right (not_lt.mp hamount), ite_self]
    exact iff_of_true rfl fun hpos => absurd hpos hamount

end

/-- The three kinds of entries. -/
def ledgerRows (day : Date) (store : ProjectStore) (project : Project)
    (manualIncluded : FinanceStage → Bool) : List FinanceLedgerRow :=
  buildCostItemLedgerRows day store project manualIncluded ++
    buildComputedLaborPlanRows day store project ++
    buildComputedLaborActualRows day store project (laborResourceRows store project.id)

section

variable {day : Date} {store : ProjectStore} {project : Project} {policy : CostPolicySnapshot}
  {manualIncluded : FinanceStage → Bool}

theorem stageTotal_ledgerRows (hnamed : "" ∉ store.resources.ids) (stage : FinanceStage) :
    stageTotal stage (ledgerRows day store project manualIncluded) =
      ((store.costsOf project.id).map fun item => max (readStageAmount day item stage) 0).sum +
        ledgerLabor store project.id project.policyCurrency stage := by
  unfold ledgerRows
  rw [stageTotal_append, stageTotal_append, stageTotal_costItems, stageTotal_laborPlan hnamed,
    stageTotal_laborActual, add_assoc]
  congr 1
  cases stage <;> simp [ledgerLabor]

theorem stageTotal_eq_iff (hnamed : "" ∉ store.resources.ids)
    (hparts : PolicyParts store project.id day policy)
    (hcurrency : policy.projectCurrency = project.policyCurrency) :
    (∀ stage, stageTotal stage (ledgerRows day store project manualIncluded) =
        sumBucketMap (policy.bucketsOf stage) policy.projectCurrency) ↔
      (∀ item ∈ store.costsOf project.id, ∀ stage, 0 < readStageAmount day item stage →
        item.InCurrency policy.projectCurrency ∧
          (item.costType = .labor → NoComputedLabor store project.id stage)) ∧
      ∀ stage, ((computedLabor store project.id policy.projectCurrency stage).map
          (inScopeAmount policy.projectCurrency)).sum =
        ledgerLabor store project.id policy.projectCurrency stage := by
  have hsplit (stage : FinanceStage) :
      stageTotal stage (ledgerRows day store project manualIncluded) =
          sumBucketMap (policy.bucketsOf stage) policy.projectCurrency ↔
        (∀ item ∈ store.costsOf project.id, 0 < readStageAmount day item stage →
          item.InCurrency policy.projectCurrency ∧
            (item.costType = .labor → NoComputedLabor store project.id stage)) ∧
        ((computedLabor store project.id policy.projectCurrency stage).map
            (inScopeAmount policy.projectCurrency)).sum =
          ledgerLabor store project.id policy.projectCurrency stage := by
    rw [stageTotal_ledgerRows hnamed, ← hcurrency, hparts.total, eq_comm,
      add_eq_add_iff_eq_and_eq (List.sum_le_sum fun item _ => countedAmount_le item)
        (sum_inScopeAmount_le stage),
      sum_map_eq_iff fun item _ => countedAmount_le item]
    apply and_congr_left'
    apply forall₂_congr
    intro item _
    rw [countedAmount_eq_iff, hparts.includesManual]
  rw [forall_congr' hsplit, forall_and]
  apply and_congr_left'
  exact ⟨fun h item hitem stage => h stage item hitem, fun h stage item hitem => h item hitem stage⟩

theorem pos_of_mem_ledgerRows (hnamed : "" ∉ store.resources.ids) :
    ∀ row ∈ ledgerRows day store project manualIncluded, 0 < row.amount := by
  unfold ledgerRows
  rw [List.forall_mem_append, List.forall_mem_append]
  refine ⟨⟨?_, ?_⟩, ?_⟩
  · exact (forall_costItems (P := fun tally => 0 < tally.amount)).mpr
      fun item _ stage hamount => hamount
  · exact (forall_laborPlan hnamed (P := fun tally => 0 < tally.amount)).mpr
      fun row _ cost hcost => plannedLabor_pos hcost
  · exact (forall_laborActual (P := fun tally => 0 < tally.amount)).mpr
      fun row _ assignment _ hcost => hcost

theorem counted_iff {currency : Option String} (hnamed : "" ∉ store.resources.ids)
    (hcurrency : currency = project.policyCurrency) :
    (∀ row ∈ ledgerRows day store project manualIncluded, row.counted currency = true) ↔
      (∀ item ∈ store.costsOf project.id, ∀ stage, 0 < readStageAmount day item stage →
        item.InCurrency currency ∧ (item.costType = .labor → manualIncluded stage = true)) ∧
      (∀ row ∈ store.projectResourcesOf project.id, ∀ cost ∈ plannedLabor store currency row,
        currencyInScope cost.1 currency = true) ∧
      ∀ row ∈ laborResourceRows store project.id, ∀ assignment ∈ row.assignments,
        0 < assignment.cost → (givenText currency).all (fun code =>
          ((givenText assignment.currencyCode).or row.currencyCode).any fun own =>
            upper own = upper code) = true := by
  subst hcurrency
  unfold ledgerRows
  rw [List.forall_mem_append, List.forall_mem_append, and_assoc]
  have hitems := @forall_costItems store project day manualIncluded
    fun tally => tally.counted project.policyCurrency = true
  have hplans := @forall_laborPlan store project day hnamed
    fun tally => tally.counted project.policyCurrency = true
  have hactuals := @forall_laborActual store project day (laborResourceRows store project.id)
    fun tally => tally.counted project.policyCurrency = true
  simp only [EntryTally.counted_some, true_and] at hitems hplans
  simp only [EntryTally.counted_included] at hactuals
  refine and_congr (hitems.trans ?_) (and_congr hplans hactuals)
  refine forall₂_congr fun item _ => forall₂_congr fun stage _ => ?_
  rw [and_comm]
  apply and_congr_right'
  by_cases hlabor : item.costType = .labor
  · simp [hlabor]
  · simp [hlabor]

end

/-! ## Labor that is marked -/

theorem manualRaw_eq (items : List CostItem) (currency : Option String) (amount : CostItem → ℚ) :
    manualRaw items currency amount =
      (items.map fun item => if item.isLaborIn currency = true then amount item else 0).sum :=
  sum_map_filter _ _ _

section

variable {service : ReportingService} {store : ProjectStore} {projectId : String} {day : Date}
  {policy : CostPolicySnapshot} {sources : CostSourceBreakdown}

theorem PolicyParts.committedLabor (h : PolicyParts store projectId day policy)
    (hmanual : policy.includesManual .committed = true) :
    sumBucketForType policy.committedMap .labor policy.projectCurrency =
      (manualInCurrency day policy.projectCurrency (store.costsOf projectId)).committed := by
  unfold sumBucketForType manualInCurrency
  dsimp only
  rw [h.committed, total_collectItems, manualRaw_eq]
  refine congrArg List.sum (List.map_congr_left fun item _ => ?_)
  rw [hmanual]
  unfold CostItem.isLaborIn
  by_cases hlabor : item.costType = .labor
  · simp [hlabor]
  · simp [hlabor]

theorem resolveManualLaborInclusion_iff {direct computed adjustment : CostSourceRow}
    (hdirect : direct.sourceKey = "DIRECT_COST") (hcomputed : computed.sourceKey = "COMPUTED_LABOR")
    (hadjustment : adjustment.sourceKey = "LABOR_ADJUSTMENT") {raw : StageAmounts}
    {stage : FinanceStage} :
    resolveManualLaborInclusion [direct, computed, adjustment] raw stage = true ↔
      raw.of stage ≤ 0 ∨
        isEffectivelyEqual (raw.of stage) (adjustment.amounts.of stage) = true := by
  have hfind : [direct, computed, adjustment].find?
      (fun row => row.sourceKey = "LABOR_ADJUSTMENT") = some adjustment := by
    simp [hdirect, hcomputed, hadjustment]
  unfold resolveManualLaborInclusion
  rw [hfind, Option.any_some, Bool.or_eq_true, decide_eq_true_iff]

theorem manualIncluded_iff
    (hpolicy : buildCostPolicySnapshot store projectId service (some day) = .ok policy)
    (hsources : getProjectCostSourceBreakdown service store projectId (some day) = .ok sources)
    {stage : FinanceStage} (hmanual : policy.includesManual stage = true) :
    resolveManualLaborInclusion sources.rows (manualLaborRawTotals (store.costsOf projectId) day)
        stage = true ↔
      ManualMarked store projectId day policy.projectCurrency stage := by
  have hparts := buildCostPolicySnapshot_parts hpolicy
  obtain ⟨_, -, hsources⟩ := bind_ok hsources
  obtain ⟨other, hother, hsources⟩ := bind_ok hsources
  obtain rfl := Except.ok.inj (hpolicy.symm.trans hother)
  cases hsources
  refine (resolveManualLaborInclusion_iff rfl rfl rfl).trans ?_
  apply or_congr_right
  cases stage with
  | planned =>
      have hflag : policy.includeManualLaborPlanned = true := hmanual
      simp only [CostSourceRow.amounts, StageAmounts.of, manualInCurrency, hflag, if_true]
  | committed =>
      have hcommitted := hparts.committedLabor hmanual
      simp only [CostSourceRow.amounts, StageAmounts.of, hcommitted]
      rfl
  | actual =>
      have hflag : policy.includeManualLaborActual = true := hmanual
      simp only [CostSourceRow.amounts, StageAmounts.of, manualInCurrency, hflag, if_true]
      rfl

end

/-! ## Reconciliation -/

theorem stageTotal_filter_eq_iff {ledger : List FinanceLedgerRow} {stage : FinanceStage}
    (hpos : ∀ row ∈ ledger, 0 < row.amount) {keep : FinanceLedgerRow → Bool} :
    stageTotal stage (ledger.filter keep) = stageTotal stage ledger ↔
      ∀ row ∈ ledger, row.stage = stage → keep row = true := by
  unfold stageTotal
  rw [List.filter_comm, sum_filter_eq_iff fun row hrow => hpos row (List.mem_of_mem_filter hrow)]
  simp only [List.mem_filter, decide_eq_true_eq, and_imp]

/-- The cashflow has every entry, so nothing may be left out by the totals or by the marks. -/
theorem reconciles_iff {snapshot : FinanceSnapshot} {totals : CostControlTotals} {period : String}
    {day : Date} (hcashflow : snapshot.cashflow = buildPeriodCashflow snapshot.ledger period day)
    (hpos : ∀ row ∈ snapshot.ledger, 0 < row.amount) :
    Reconciles snapshot totals ↔
      (∀ stage, stageTotal stage snapshot.ledger = totals.amounts.of stage) ∧
        ∀ row ∈ snapshot.ledger, row.counted totals.projectCurrency = true := by
  have htotal (stage : FinanceStage) : (snapshot.cashflow.map fun row => row.of stage).sum =
      stageTotal stage snapshot.ledger := hcashflow ▸ cashflow_total stage
  constructor
  · intro h
    have hsame (stage : FinanceStage) : stageTotal stage snapshot.ledger =
        totals.amounts.of stage := (htotal stage).symm.trans (h.cashflow stage)
    refine ⟨hsame, fun row hrow => ?_⟩
    exact (stageTotal_filter_eq_iff hpos).mp ((h.ledger row.stage).trans (hsame row.stage).symm)
      row hrow rfl
  · rintro ⟨hsame, hcounted⟩
    refine ⟨fun stage => ?_, fun stage => (htotal stage).trans (hsame stage)⟩
    rw [← hsame, stageTotal_filter_eq_iff hpos]
    exact fun row hrow _ => hcounted row hrow

section

variable {service : FinanceService} {store : ProjectStore} {projectId period : String}
  {asOf : Option Date} {snapshot : FinanceSnapshot} {totals : CostControlTotals}

theorem getFinanceSnapshot_ok
    (h : getFinanceSnapshot service store projectId asOf period = .ok snapshot) :
    ∃ project sources, store.projects.get? projectId = some project ∧
      getProjectCostSourceBreakdown service.reporting store projectId
        (some (asOf.getD service.reporting.today)) = .ok sources ∧
      snapshot.ledger.Perm (ledgerRows (asOf.getD service.reporting.today) store project
        (resolveManualLaborInclusion sources.rows (manualLaborRawTotals (store.costsOf projectId)
          (asOf.getD service.reporting.today)))) ∧
      snapshot.cashflow = buildPeriodCashflow snapshot.ledger period
        (asOf.getD service.reporting.today) := by
  iterate 2 obtain ⟨_, -, h⟩ := bind_ok h
  obtain ⟨project, hproject, h⟩ := bind_ok h
  obtain ⟨sources, hsources, h⟩ := bind_ok h
  obtain ⟨_, -, h⟩ := bind_ok h
  obtain ⟨details, hdetails, h⟩ := bind_ok h
  cases h
  have hproject := require_eq_ok.mp hproject
  obtain ⟨-, rfl⟩ := store.projects.get?_eq_some hproject
  refine ⟨project, sources, hproject, hsources, ?_, rfl⟩
  refine (List.perm_insertionSort _ _).trans (List.Perm.append_left _ ?_)
  exact (getProjectLaborDetails_perm hdetails).flatMap_right _

theorem exists_policy
    (htotals : getProjectCostControlTotals service.reporting store projectId asOf = .ok totals) :
    ∃ policy, buildCostPolicySnapshot store projectId service.reporting
        (some (asOf.getD service.reporting.today)) = .ok policy ∧
      totals.projectCurrency = policy.projectCurrency ∧
      ∀ stage, totals.amounts.of stage =
        sumBucketMap (policy.bucketsOf stage) policy.projectCurrency := by
  obtain ⟨_, -, htotals⟩ := bind_ok htotals
  obtain ⟨policy, hpolicy, htotals⟩ := bind_ok htotals
  cases htotals
  obtain ⟨daily, hdaily, hcurrency, hplanned, hcommitted, hactual⟩ := exists_dailySnapshot hpolicy
  refine ⟨daily, hdaily, hcurrency, fun stage => ?_⟩
  rw [← hcurrency]
  cases stage with
  | planned => exact congrArg (sumBucketMap · _) hplanned
  | committed => exact congrArg (sumBucketMap · _) hcommitted
  | actual => exact congrArg (sumBucketMap · _) hactual

/-- The marked entries and the cashflow of a project come to the totals of the cost policy in every
stage exactly when neither side leaves anything out. -/
theorem getFinanceSnapshot_reconciles_iff (hnamed : "" ∉ store.resources.ids)
    (hsnapshot : getFinanceSnapshot service store projectId asOf period = .ok snapshot)
    (htotals : getProjectCostControlTotals service.reporting store projectId asOf = .ok totals) :
    Reconciles snapshot totals ↔
      NothingLeftOut store projectId (asOf.getD service.reporting.today) totals.projectCurrency := by
  obtain ⟨project, sources, hproject, hsources, hledger, hcashflow⟩ :=
    getFinanceSnapshot_ok hsnapshot
  obtain ⟨policy, hpolicy, hcurrency, hamounts⟩ := exists_policy htotals
  obtain ⟨-, rfl⟩ := store.projects.get?_eq_some hproject
  have hparts : PolicyParts store project.id (asOf.getD service.reporting.today) policy :=
    buildCostPolicySnapshot_parts hpolicy
  have hproject' : policy.projectCurrency = project.policyCurrency := by
    obtain ⟨other, hother, hpolicyCurrency⟩ := (buildCostPolicySnapshot_ok hpolicy).currency
    obtain rfl := Option.some.inj (hproject.symm.trans hother)
    exact hpolicyCurrency
  have hpos (row) (hrow : row ∈ snapshot.ledger) : 0 < row.amount :=
    pos_of_mem_ledgerRows hnamed row (hledger.subset hrow)
  have hmarked (stage : FinanceStage) (hnone : NoComputedLabor store project.id stage) :=
    manualIncluded_iff hpolicy hsources ((hparts.includesManual stage).mpr hnone)
  rw [reconciles_iff hcashflow hpos, hcurrency]
  simp only [stageTotal_perm hledger, hamounts, hledger.mem_iff]
  rw [stageTotal_eq_iff hnamed hparts hproject', sum_inScopeAmount_eq_iff,
    counted_iff hnamed hproject']
  constructor
  · rintro ⟨⟨hitems, hplans, hlabor⟩, hcounted, -, hown⟩
    refine ⟨fun item hitem stage hamount => ?_, hplans, fun row hrow hsome => ?_⟩
    · obtain ⟨hscope, hcomputed⟩ := hitems item hitem stage hamount
      refine ⟨hscope, fun hmanual => ?_⟩
      have hnone := hcomputed hmanual
      have hincluded := (hcounted item hitem stage hamount).2 hmanual
      exact ⟨hnone, (hmarked stage hnone).mp hincluded⟩
    · obtain ⟨hshared, hnonneg⟩ := hlabor row hrow hsome
      exact ⟨hown row hrow, hshared, hnonneg⟩
  · intro h
    refine ⟨⟨fun item hitem stage hamount => ?_, h.planned, fun row hrow hsome => ?_⟩,
      fun item hitem stage hamount => ?_, h.planned, fun row hrow assignment hassignment hcost => ?_⟩
    · obtain ⟨hscope, hmanual⟩ := h.items item hitem stage hamount
      exact ⟨hscope, fun hlabor => (hmanual hlabor).1⟩
    · have hcounts := h.actual row hrow hsome
      exact ⟨hcounts.shared, hcounts.nonneg⟩
    · obtain ⟨hscope, hmanual⟩ := h.items item hitem stage hamount
      refine ⟨hscope, fun hlabor => ?_⟩
      obtain ⟨hnone, hmark⟩ := hmanual hlabor
      exact (hmarked stage hnone).mpr hmark
    · have hcounts := h.actual row hrow ⟨assignment, hassignment, hcost⟩
      exact hcounts.own assignment hassignment hcost

end

/-! ## A hall with a crane in another currency -/

def hallFinance : FinanceService where
  userSession := .admin
  reporting := hallReports

/-- The hall without the crane, and with labor of a helper that is entered by hand. -/
def helpedHall : ProjectStore where
  projects := hallProjects.projects
  resources := hallProjects.resources
  projectResources := hallProjects.projectResources
  costs := .insert (.insert .empty
    { id := "steel", projectId := "hall", costType := .material, plannedAmount := 100
      actualAmount := 70, incurredDate := some 15 })
    { id := "helper", projectId := "hall", costType := .labor, actualAmount := 20
      incurredDate := some 15, currencyCode := some "eur" }

def helpedTotals : CostControlTotals :=
  { hallTotals with actual := 90, exposure := 90 }

theorem getFinanceSnapshot_reconciles_iff_helpedHall :
    ∃ snapshot, getFinanceSnapshot hallFinance helpedHall "hall" (some 20) "month" =
      .ok snapshot ∧ Reconciles snapshot helpedTotals := by
  have hexists : (getFinanceSnapshot hallFinance helpedHall "hall" (some 20)
      "month").toOption.isSome = true := by
    decide +kernel
  obtain ⟨snapshot, hsnapshot⟩ := Option.isSome_iff_exists.mp hexists
  have hsnapshot := toOption_eq_some.mp hsnapshot
  refine ⟨snapshot, hsnapshot, ?_⟩
  rw [getFinanceSnapshot_reconciles_iff (by decide) hsnapshot (by decide +kernel)]
  have hnone : laborResourceRows helpedHall "hall" = [] := by decide +kernel
  constructor
  · have hscope : ∀ item ∈ helpedHall.costsOf "hall",
        item.InCurrency (some "EUR") ∧ (item.costType = .labor →
          item.plannedAmount = 0 ∧ item.committedAmount = 0) := by
      unfold CostItem.InCurrency
      decide +kernel
    intro item hitem stage hamount
    obtain ⟨hcurrency, hlabor⟩ := hscope item hitem
    refine ⟨hcurrency, fun htype => ?_⟩
    obtain ⟨hplanned, hcommitted⟩ := hlabor htype
    cases stage with
    | planned => exact absurd hamount hplanned.le.not_gt
    | committed => exact absurd hamount hcommitted.le.not_gt
    | actual => exact ⟨by rw [NoComputedLabor, hnone]; exact nofun, Or.inr (by decide +kernel)⟩
  · decide +kernel
  · rw [hnone]
    exact nofun

/-- The cashflow has the dollars of the crane, and the totals in euros do not. -/
theorem not_reconciles_hall :
    ∃ snapshot, getFinanceSnapshot hallFinance hallProjects "hall" (some 20) "month" =
        .ok snapshot ∧
      getProjectCostControlTotals hallReports hallProjects "hall" (some 20) = .ok hallTotals ∧
      ¬ Reconciles snapshot hallTotals := by
  have hcashflow : (getFinanceSnapshot hallFinance hallProjects "hall" (some 20) "month").toOption.map
      (fun snapshot => (snapshot.cashflow.map fun row => row.of .planned).sum) = some 530 := by
    decide +kernel
  obtain ⟨snapshot, hsnapshot, hsum⟩ := Option.map_eq_some_iff.mp hcashflow
  refine ⟨snapshot, toOption_eq_some.mp hsnapshot, by decide +kernel, fun h => ?_⟩
  exact absurd (hsum.symm.trans (h.cashflow .planned)) (by decide +kernel)

end ProjectManager
