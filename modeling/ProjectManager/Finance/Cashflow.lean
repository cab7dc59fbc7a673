import ProjectManager.Calendar.Weeks
import ProjectManager.Foundation.Cadence
import ProjectManager.Foundation.Groups

/-! # Cashflow and expense analytics

The entries of a finance ledger, added up by the week or month of their date and
by their cost type, resource or task.
-/

namespace ProjectManager

open Foundation

inductive FinanceStage
  | planned
  | committed
  | actual
  deriving DecidableEq

structure FinanceLedgerRow where
  projectId : String
  sourceKey : String
  sourceLabel : String
  costType : String
  stage : FinanceStage
  amount : ℚ
  currency : Option String
  occurredOn : Option Date
  referenceType : String
  referenceId : String
  referenceLabel : String
  taskId : Option String
  taskName : Option String
  resourceId : Option String
  resourceName : Option String
  includedInPolicy : Bool
  deriving DecidableEq

/-- The amounts that a bucket has for the stages. -/
structure StageAmounts where
  planned : ℚ := 0
  committed : ℚ := 0
  actual : ℚ := 0
  deriving DecidableEq

namespace StageAmounts

def of (amounts : StageAmounts) : FinanceStage → ℚ
  | .planned => amounts.planned
  | .committed => amounts.committed
  | .actual => amounts.actual

def add (amounts : StageAmounts) (stage : FinanceStage) (amount : ℚ) : StageAmounts :=
  match stage with
  | .planned => { amounts with planned := amounts.planned + amount }
  | .committed => { amounts with committed := amounts.committed + amount }
  | .actual => { amounts with actual := amounts.actual + amount }

theorem of_add (amounts : StageAmounts) (stage other : FinanceStage) (amount : ℚ) :
    (amounts.add stage amount).of other =
      amounts.of other + if stage = other then amount else 0 := by
  cases stage <;> cases other <;> simp [add, of]

end StageAmounts

/-! ## Periods -/

inductive PeriodKind
  | week
  | month
  deriving DecidableEq

/-- Whatever is not a week is a month. -/
def normalizePeriod (value : String) : PeriodKind :=
  let token := lower (strip value)
  if token ∈ ["week", "weekly"] then .week else .month

structure PeriodBounds where
  key : String
  periodStart : Date
  periodEnd : Date
  deriving DecidableEq

def periodBounds (anchor : Date) : PeriodKind → PeriodBounds
  | .week =>
      let start := anchor - weekday anchor
      let iso := Date.isocalendar start
      { key := toString iso.year ++ "-W" ++ zfill 2 (toString iso.week)
        periodStart := start
        periodEnd := start + 6 }
  | .month =>
      let date := Date.ymd anchor
      { key := toString date.year ++ "-" ++ zfill 2 (toString date.month)
        periodStart := YMD.toordinal ⟨date.year, date.month, 1⟩
        periodEnd := YMD.toordinal ⟨date.year, date.month, YMD.monthrange date.year date.month⟩ }

example : (periodBounds (YMD.toordinal ⟨2024, 12, 31⟩) .week).key = "2025-W01" ∧
    (periodBounds (YMD.toordinal ⟨2024, 12, 31⟩) .month).key = "2024-12" := by
  decide +kernel

/-! ## Cashflow -/

structure FinancePeriodRow extends StageAmounts where
  periodKey : String
  periodStart : Date
  periodEnd : Date
  forecast : ℚ
  exposure : ℚ
  deriving DecidableEq

structure PeriodBucket extends PeriodBounds where
  amounts : StageAmounts := {}

section

variable (asOf : Date) (kind : PeriodKind)

/-- The day that an entry counts for. -/
def FinanceLedgerRow.anchor (entry : FinanceLedgerRow) : Date := entry.occurredOn.getD asOf

def entryBounds (entry : FinanceLedgerRow) : PeriodBounds := periodBounds (entry.anchor asOf) kind

/-- The loop over the ledger: an entry goes to the bucket of its key. -/
def periodBuckets : Grouping (fun entry => (entryBounds asOf kind entry).key)
    (fun bucket : PeriodBucket => bucket.key) where
  join bucket entry :=
    let bucket := bucket.getD { toPeriodBounds := entryBounds asOf kind entry }
    { bucket with amounts := bucket.amounts.add entry.stage entry.amount }
  key_join bucket entry h := by
    cases bucket with
    | none => rfl
    | some bucket => exact h bucket rfl

end

def PeriodBucket.row (bucket : PeriodBucket) : FinancePeriodRow where
  periodKey := bucket.key
  periodStart := bucket.periodStart
  periodEnd := bucket.periodEnd
  toStageAmounts := bucket.amounts
  forecast := max bucket.amounts.planned bucket.amounts.committed
  exposure := max bucket.amounts.committed bucket.amounts.actual

def buildPeriodCashflow (ledger : List FinanceLedgerRow) (period : String) (asOf : Date) :
    List FinancePeriodRow :=
  let buckets := (periodBuckets asOf (normalizePeriod period)).collect .empty ledger
  (buckets.rows.reverse.insertionSort fun first second =>
    first.periodStart ≤ second.periodStart).map PeriodBucket.row

/-! ## Analytics -/

inductive FinanceDimension
  | costType
  | resource
  | task
  deriving DecidableEq

def FinanceDimension.value : FinanceDimension → String
  | .costType => "cost_type"
  | .resource => "resource"
  | .task => "task"

def dimensionKeyLabel (row : FinanceLedgerRow) : FinanceDimension → String × String
  | .costType =>
      let key := orElse row.costType "OTHER"
      (key, key)
  | .resource =>
      let id := row.resourceId.getD ""
      if id = "" then ("__unassigned__", "Unassigned / Non-labor")
      else (id, orElse (row.resourceName.getD "") id)
  | .task =>
      let id := row.taskId.getD ""
      if id = "" then ("__project_level__", "Project-level / Non-task")
      else (id, orElse (row.taskName.getD "") id)

structure FinanceAnalyticsRow extends StageAmounts where
  dimension : String
  key : String
  label : String
  forecast : ℚ
  exposure : ℚ
  deriving DecidableEq

structure AnalyticsBucket where
  key : String
  label : String
  amounts : StageAmounts := {}

def dimensionBuckets (dimension : FinanceDimension) :
    Grouping (fun row => (dimensionKeyLabel row dimension).1) AnalyticsBucket.key where
  join bucket row :=
    let (key, label) := dimensionKeyLabel row dimension
    let bucket := bucket.getD { key := key, label := label }
    { bucket with amounts := bucket.amounts.add row.stage row.amount }
  key_join bucket row h := by
    cases bucket with
    | none => rfl
    | some bucket => exact h bucket rfl

def AnalyticsBucket.row (dimension : FinanceDimension) (bucket : AnalyticsBucket) :
    FinanceAnalyticsRow where
  dimension := dimension.value
  key := bucket.key
  label := bucket.label
  toStageAmounts := bucket.amounts
  forecast := max bucket.amounts.planned bucket.amounts.committed
  exposure := max bucket.amounts.committed bucket.amounts.actual

/-- The larger exposure comes first, then the label. -/
def FinanceAnalyticsRow.Before (first second : FinanceAnalyticsRow) : Prop :=
  second.exposure < first.exposure ∨
    second.exposure = first.exposure ∧ lower first.label ≤ lower second.label

instance : DecidableRel FinanceAnalyticsRow.Before :=
  fun _ _ => inferInstanceAs (Decidable (_ ∨ _ ∧ _))

def buildDimensionAnalytics (ledger : List FinanceLedgerRow) (dimension : FinanceDimension) :
    List FinanceAnalyticsRow :=
  let buckets := (dimensionBuckets dimension).collect .empty ledger
  (buckets.rows.reverse.map (AnalyticsBucket.row dimension)).insertionSort
    FinanceAnalyticsRow.Before

/-! ## Texts of numbers -/

theorem natRepr_injective {m n : ℕ} (h : m.repr = n.repr) : m = n := by
  have hdigits : Nat.toDigits 10 m = Nat.toDigits 10 n := by
    rw [← Nat.toList_repr, ← Nat.toList_repr, h]
  rw [← @Nat.ofDigitChars_ten_toDigits m, hdigits, Nat.ofDigitChars_ten_toDigits]

/-- No number without a sign is written like one with it. -/
theorem minus_append_ne_repr (text : String) (n : ℕ) : "-" ++ text ≠ n.repr := by
  intro h
  have hmem : '-' ∈ Nat.toDigits 10 n := by
    rw [← Nat.toList_repr, ← h, String.toList_append]
    exact List.mem_append_left _ (List.mem_singleton_self _)
  have hdigit := Nat.isDigit_of_mem_toDigits (by decide) (by decide) hmem
  exact absurd hdigit (by decide)

theorem toString_injective {a b : ℤ} (h : toString a = toString b) : a = b := by
  rw [Int.toString_eq_repr, Int.toString_eq_repr, Int.repr_eq_if, Int.repr_eq_if] at h
  split at h
  · split at h
    · have hnat := natRepr_injective h
      omega
    · exact absurd h.symm (minus_append_ne_repr _ _)
  · split at h
    · exact absurd h (minus_append_ne_repr _ _)
    · have htext := congrArg String.toList h
      rw [String.toList_append, String.toList_append] at htext
      have hnat := natRepr_injective (String.toList_inj.mp (List.append_cancel_left htext))
      omega

/-- Weeks and months are written with two digits. -/
theorem twoDigits : ∀ n : ℕ, n < 54 → (zfill 2 (toString (n : ℤ))).toList.length = 2 := by
  decide +kernel

theorem twoDigits_injective : ∀ n : ℕ, n < 54 → ∀ m : ℕ, m < 54 →
    zfill 2 (toString (n : ℤ)) = zfill 2 (toString (m : ℤ)) → n = m := by
  decide +kernel

/-- The key of a period is determined by its two numbers. -/
theorem periodKey_injective {separator : String} {a b m n : ℤ} (hm : 1 ≤ m ∧ m ≤ 53)
    (hn : 1 ≤ n ∧ n ≤ 53)
    (h : toString a ++ separator ++ zfill 2 (toString m) =
      toString b ++ separator ++ zfill 2 (toString n)) : a = b ∧ m = n := by
  obtain ⟨m, rfl⟩ := Int.eq_ofNat_of_zero_le (by omega : 0 ≤ m)
  obtain ⟨n, rfl⟩ := Int.eq_ofNat_of_zero_le (by omega : 0 ≤ n)
  have htext := congrArg String.toList h
  rw [String.toList_append, String.toList_append, String.toList_append, String.toList_append]
    at htext
  have hlength := (twoDigits m (by omega)).trans (twoDigits n (by omega)).symm
  obtain ⟨hyear, hnumber⟩ := List.append_inj' htext hlength
  have hnumbers := twoDigits_injective m (by omega) n (by omega) (String.toList_inj.mp hnumber)
  exact ⟨toString_injective (String.toList_inj.mp (List.append_cancel_right hyear)),
    congrArg Nat.cast hnumbers⟩

/-! ## Periods of a kind -/

namespace PeriodKind

def periods : PeriodKind → Periods
  | .week => weeks
  | .month => months

def place (d : ℤ) : PeriodKind → Place
  | .week => Date.weekPlace d
  | .month => (Date.ymd d).place

def index (kind : PeriodKind) (d : ℤ) : ℤ := (kind.place d).period

variable (kind : PeriodKind)

theorem contains_place (d : ℤ) : kind.periods.Contains (kind.place d) := by
  cases kind with
  | week => exact Date.contains_weekPlace d
  | month => exact Date.contains_place d

theorem point_place (d : ℤ) : kind.periods.point (kind.place d) = d := by
  cases kind with
  | week => exact Date.point_weekPlace d
  | month => exact Date.point_place d

end PeriodKind

theorem periodStart_eq (d : ℤ) (kind : PeriodKind) :
    (periodBounds d kind).periodStart = kind.periods.start (kind.index d) + 1 := by
  cases kind with
  | week =>
      change d - (d + 6) % 7 = 7 * ((d - 1) / 7) + 1
      omega
  | month =>
      obtain ⟨hfirst, hlast, hday, hdays⟩ := (Date.ymd_spec d).1
      have hvalid : YMD.Valid ⟨(Date.ymd d).year, (Date.ymd d).month, 1⟩ :=
        ⟨hfirst, hlast, le_rfl, hday.trans hdays⟩
      exact hvalid.point.symm

theorem periodEnd_eq (d : ℤ) (kind : PeriodKind) :
    (periodBounds d kind).periodEnd = kind.periods.lastPoint (kind.index d) := by
  cases kind with
  | week =>
      change d - (d + 6) % 7 + 6 = 7 * ((d - 1) / 7 + 1)
      omega
  | month => exact Date.monthEnd_eq d

/-- A date lies within the bounds of another one exactly when both lie in one period. -/
theorem mem_periodBounds_iff {d e : ℤ} {kind : PeriodKind} :
    (periodBounds d kind).periodStart ≤ e ∧ e ≤ (periodBounds d kind).periodEnd ↔
      kind.index e = kind.index d := by
  have hmem := Periods.mem_period_iff (kind.contains_place e) (i := kind.index d)
  rw [kind.point_place] at hmem
  rw [periodStart_eq, periodEnd_eq]
  exact hmem

theorem periodBounds_congr {d e : ℤ} {kind : PeriodKind} (h : kind.index d = kind.index e) :
    periodBounds d kind = periodBounds e kind := by
  cases kind with
  | week =>
      have hstart : d - weekday d = e - weekday e := by
        change d - (d + 6) % 7 = e - (e + 6) % 7
        change (d - 1) / 7 = (e - 1) / 7 at h
        omega
      unfold periodBounds
      dsimp only
      rw [hstart]
  | month =>
      obtain ⟨hfirst, hlast, -, -⟩ := (Date.ymd_spec d).1
      obtain ⟨hfirst', hlast', -, -⟩ := (Date.ymd_spec e).1
      change 12 * (Date.ymd d).year + ((Date.ymd d).month - 1) =
        12 * (Date.ymd e).year + ((Date.ymd e).month - 1) at h
      have hyear : (Date.ymd d).year = (Date.ymd e).year := by omega
      have hmonth : (Date.ymd d).month = (Date.ymd e).month := by omega
      unfold periodBounds
      dsimp only
      rw [hyear, hmonth]

/-- No two periods share a key. -/
theorem periodKey_eq_iff {d e : ℤ} {kind : PeriodKind} :
    (periodBounds d kind).key = (periodBounds e kind).key ↔ kind.index d = kind.index e := by
  constructor
  · intro h
    cases kind with
    | week =>
        obtain ⟨-, hweek, -⟩ := Date.isocalendar_spec (d - weekday d)
        obtain ⟨-, hweek', -⟩ := Date.isocalendar_spec (e - weekday e)
        obtain ⟨hyears, hweeks⟩ := periodKey_injective hweek hweek' h
        have hmonday (d : ℤ) : (d - (d + 6) % 7) % 7 = 1 := by omega
        have hstart : d - (d + 6) % 7 = e - (e + 6) % 7 :=
          Date.monday_eq (hmonday d) (hmonday e) hyears hweeks
        change (d - 1) / 7 = (e - 1) / 7
        omega
    | month =>
        obtain ⟨hfirst, hlast, -, -⟩ := (Date.ymd_spec d).1
        obtain ⟨hfirst', hlast', -, -⟩ := (Date.ymd_spec e).1
        obtain ⟨hyears, hmonths⟩ := periodKey_injective ⟨hfirst, by omega⟩ ⟨hfirst', by omega⟩ h
        change 12 * (Date.ymd d).year + ((Date.ymd d).month - 1) =
          12 * (Date.ymd e).year + ((Date.ymd e).month - 1)
        rw [hyears, hmonths]
  · intro h
    rw [periodBounds_congr h]

/-! ## What the buckets hold -/

def stageTotal (stage : FinanceStage) (entries : List FinanceLedgerRow) : ℚ :=
  ((entries.filter fun entry => entry.stage = stage).map FinanceLedgerRow.amount).sum

def FinanceLedgerRow.amountIn (entry : FinanceLedgerRow) (stage : FinanceStage) : ℚ :=
  if entry.stage = stage then entry.amount else 0

theorem stageTotal_eq (stage : FinanceStage) (entries : List FinanceLedgerRow) :
    (entries.map fun entry => entry.amountIn stage).sum = stageTotal stage entries := by
  unfold stageTotal FinanceLedgerRow.amountIn
  induction entries with
  | nil => rfl
  | cons entry rest ih =>
      rw [List.map_cons, List.sum_cons, ih]
      by_cases hstage : entry.stage = stage
      · simp [hstage]
      · simp [hstage]

section

variable {asOf : Date} {kind : PeriodKind} {ledger : List FinanceLedgerRow}

theorem periodBuckets_join (stage : FinanceStage) (bucket : Option PeriodBucket)
    (entry : FinanceLedgerRow) :
    ((periodBuckets asOf kind).join bucket entry).amounts.of stage =
      (bucket.map fun bucket => bucket.amounts.of stage).getD 0 + entry.amountIn stage := by
  cases bucket with
  | none =>
      refine (StageAmounts.of_add _ _ _ _).trans ?_
      cases stage <;> rfl
  | some bucket => exact StageAmounts.of_add _ _ _ _

theorem dimensionBuckets_join {dimension : FinanceDimension} (stage : FinanceStage)
    (bucket : Option AnalyticsBucket) (entry : FinanceLedgerRow) :
    ((dimensionBuckets dimension).join bucket entry).amounts.of stage =
      (bucket.map fun bucket => bucket.amounts.of stage).getD 0 + entry.amountIn stage := by
  cases bucket with
  | none =>
      refine (StageAmounts.of_add _ _ _ _).trans ?_
      cases stage <;> rfl
  | some bucket => exact StageAmounts.of_add _ _ _ _

theorem bounds_of_mem {bucket : PeriodBucket}
    (h : bucket ∈ ((periodBuckets asOf kind).collect .empty ledger).rows) :
    ∃ entry ∈ ledger, bucket.toPeriodBounds = entryBounds asOf kind entry := by
  have hget := (periodBuckets asOf kind).get?_collect .empty ledger bucket.key
  rw [Table.get?_of_mem _ h] at hget
  apply Grouping.joinAll_induction (periodBuckets asOf kind)
    (P := fun _ bucket => ∃ entry ∈ ledger, bucket.toPeriodBounds = entryBounds asOf kind entry)
    ?_ ?_ hget.symm
  · intro entry hentry
    exact ⟨entry, List.mem_of_mem_filter hentry, rfl⟩
  · intro before entry bucket _ hbucket
    exact hbucket

theorem within_iff {bucket : PeriodBucket}
    (h : bucket ∈ ((periodBuckets asOf kind).collect .empty ledger).rows)
    (entry : FinanceLedgerRow) :
    (bucket.periodStart ≤ entry.anchor asOf ∧ entry.anchor asOf ≤ bucket.periodEnd) ↔
      (entryBounds asOf kind entry).key = bucket.key := by
  obtain ⟨first, -, hbounds⟩ := bounds_of_mem h
  rw [hbounds]
  unfold entryBounds
  rw [mem_periodBounds_iff, periodKey_eq_iff]

theorem periodEnd_lt {first second : PeriodBucket}
    (hfirst : first ∈ ((periodBuckets asOf kind).collect .empty ledger).rows)
    (hsecond : second ∈ ((periodBuckets asOf kind).collect .empty ledger).rows)
    (h : first.periodStart < second.periodStart) : first.periodEnd < second.periodStart := by
  obtain ⟨entry, -, hentry⟩ := bounds_of_mem hfirst
  obtain ⟨other, -, hother⟩ := bounds_of_mem hsecond
  rw [hentry, hother] at h ⊢
  unfold entryBounds at h ⊢
  rw [periodStart_eq, periodStart_eq, add_lt_add_iff_right] at h
  rw [periodEnd_eq, periodStart_eq]
  have hindex := Periods.start_strictMono.lt_iff_lt.mp h
  exact Int.lt_add_one_of_le (Periods.lastPoint_le_start hindex)

/-- Different buckets start on different days. -/
theorem nodup_periodStarts : (((periodBuckets asOf kind).collect .empty ledger).rows.map
    fun bucket => bucket.periodStart).Nodup := by
  have hkeys := ((periodBuckets asOf kind).collect .empty ledger).nodup
  refine List.pairwise_map.mpr ((List.pairwise_map.mp hkeys).imp_of_mem ?_)
  intro first second hfirst hsecond hkey hstart
  obtain ⟨entry, -, hentry⟩ := bounds_of_mem hfirst
  obtain ⟨other, -, hother⟩ := bounds_of_mem hsecond
  apply hkey
  rw [hentry, hother] at hstart ⊢
  unfold entryBounds at hstart ⊢
  rw [periodStart_eq, periodStart_eq, add_left_inj] at hstart
  exact periodKey_eq_iff.mpr (Periods.start_strictMono.injective hstart)

end

/-! ## Conservation -/

/-- The rows of a cashflow are disjoint periods in their order; every entry falls into the one
that contains its date, and the amounts of a row are those of its entries. -/
structure IsCashflow (ledger : List FinanceLedgerRow) (asOf : Date) (kind : PeriodKind)
    (rows : List FinancePeriodRow) : Prop where
  bounds : ∀ row ∈ rows, ∃ entry ∈ ledger, periodBounds (entry.anchor asOf) kind =
    ⟨row.periodKey, row.periodStart, row.periodEnd⟩
  nonempty : ∀ row ∈ rows, row.periodStart ≤ row.periodEnd
  disjoint : rows.Pairwise fun first second => first.periodEnd < second.periodStart
  covers : ∀ entry ∈ ledger, ∃! row, row ∈ rows ∧
    row.periodStart ≤ entry.anchor asOf ∧ entry.anchor asOf ≤ row.periodEnd
  amount : ∀ row ∈ rows, ∀ stage, row.of stage = stageTotal stage (ledger.filter fun entry =>
    row.periodStart ≤ entry.anchor asOf ∧ entry.anchor asOf ≤ row.periodEnd)
  total : ∀ stage, (rows.map fun row => row.of stage).sum = stageTotal stage ledger

/-- Every entry counts in the one row of its key. -/
structure IsAnalytics (ledger : List FinanceLedgerRow) (dimension : FinanceDimension)
    (rows : List FinanceAnalyticsRow) : Prop where
  covers : ∀ entry ∈ ledger, ∃! row, row ∈ rows ∧ row.key = (dimensionKeyLabel entry dimension).1
  amount : ∀ row ∈ rows, ∀ stage, row.of stage = stageTotal stage (ledger.filter fun entry =>
    (dimensionKeyLabel entry dimension).1 = row.key)
  total : ∀ stage, (rows.map fun row => row.of stage).sum = stageTotal stage ledger

section

variable {ledger : List FinanceLedgerRow} {asOf : Date}

theorem mem_cashflow {period : String} {row : FinancePeriodRow} :
    row ∈ buildPeriodCashflow ledger period asOf ↔
      ∃ bucket ∈ ((periodBuckets asOf (normalizePeriod period)).collect .empty ledger).rows,
        bucket.row = row := by
  unfold buildPeriodCashflow
  simp only [List.mem_map, List.mem_insertionSort, List.mem_reverse]

variable {period : String}

theorem cashflow_disjoint : (buildPeriodCashflow ledger period asOf).Pairwise fun first second =>
    first.periodEnd < second.periodStart := by
  apply List.pairwise_map.mpr
  have hnodup : ((((periodBuckets asOf (normalizePeriod period)).collect .empty
      ledger).rows.reverse).map fun bucket => bucket.periodStart).Nodup :=
    ((List.reverse_perm _).map _).nodup_iff.mpr nodup_periodStarts
  refine (insertionSort_pairwise_lt hnodup).imp_of_mem ?_
  intro first second hfirst hsecond hlt
  rw [List.mem_insertionSort, List.mem_reverse] at hfirst hsecond
  exact periodEnd_lt hfirst hsecond hlt

theorem cashflow_covers {entry : FinanceLedgerRow} (hentry : entry ∈ ledger) :
    ∃! row, row ∈ buildPeriodCashflow ledger period asOf ∧
      row.periodStart ≤ entry.anchor asOf ∧ entry.anchor asOf ≤ row.periodEnd := by
  have hkey := (Grouping.mem_ids_collect (periodBuckets asOf (normalizePeriod period))).mpr
    ⟨entry, hentry, rfl⟩
  obtain ⟨bucket, hbucket, hsame, hget⟩ := Table.exists_of_mem_ids _ hkey
  refine ⟨bucket.row, ⟨mem_cashflow.mpr ⟨bucket, hbucket, rfl⟩,
    (within_iff hbucket entry).mpr hsame.symm⟩, ?_⟩
  rintro row ⟨hrow, hwithin⟩
  obtain ⟨other, hother, rfl⟩ := mem_cashflow.mp hrow
  have hotherKey := (within_iff hother entry).mp hwithin
  have hfound := Table.get?_of_mem _ hother
  rw [← hotherKey, hget] at hfound
  rw [Option.some.inj hfound]

theorem cashflow_amount {row : FinancePeriodRow} (hrow : row ∈ buildPeriodCashflow ledger period asOf)
    (stage : FinanceStage) :
    row.of stage = stageTotal stage (ledger.filter fun entry =>
      row.periodStart ≤ entry.anchor asOf ∧ entry.anchor asOf ≤ row.periodEnd) := by
  obtain ⟨bucket, hbucket, rfl⟩ := mem_cashflow.mp hrow
  have hamount := Grouping.measure_of_mem _ (fun bucket : PeriodBucket => bucket.amounts.of stage)
    (fun entry => entry.amountIn stage) (periodBuckets_join stage) hbucket
  have hsame : (ledger.filter fun entry =>
        (entryBounds asOf (normalizePeriod period) entry).key = bucket.key) =
      ledger.filter fun entry =>
        bucket.row.periodStart ≤ entry.anchor asOf ∧ entry.anchor asOf ≤ bucket.row.periodEnd := by
    apply List.filter_congr
    intro entry _
    rw [decide_eq_decide]
    exact (within_iff hbucket entry).symm
  rw [← hsame, ← stageTotal_eq]
  exact hamount

theorem cashflow_total (stage : FinanceStage) :
    ((buildPeriodCashflow ledger period asOf).map fun row => row.of stage).sum =
      stageTotal stage ledger := by
  have hsum := Grouping.sum_collect (periodBuckets asOf (normalizePeriod period))
    (fun bucket => bucket.amounts.of stage) (fun entry => entry.amountIn stage)
    (periodBuckets_join stage) .empty ledger
  have hempty : (Table.empty : Table fun bucket : PeriodBucket => bucket.key).sum
      (fun bucket => bucket.amounts.of stage) = 0 := rfl
  rw [stageTotal_eq, hempty, zero_add] at hsum
  rw [← hsum]
  unfold buildPeriodCashflow
  rw [List.map_map]
  apply List.Perm.sum_eq
  exact ((List.perm_insertionSort _ _).trans (List.reverse_perm _)).map _

theorem buildPeriodCashflow_isCashflow :
    IsCashflow ledger asOf (normalizePeriod period)
      (buildPeriodCashflow ledger period asOf) where
  bounds row hrow := by
    obtain ⟨bucket, hbucket, rfl⟩ := mem_cashflow.mp hrow
    obtain ⟨entry, hentry, hbounds⟩ := bounds_of_mem hbucket
    exact ⟨entry, hentry, hbounds.symm⟩
  nonempty row hrow := by
    obtain ⟨bucket, hbucket, rfl⟩ := mem_cashflow.mp hrow
    obtain ⟨entry, -, hbounds⟩ := bounds_of_mem hbucket
    have hwithin := (within_iff hbucket entry).mpr (congrArg PeriodBounds.key hbounds.symm)
    exact hwithin.1.trans hwithin.2
  disjoint := cashflow_disjoint
  covers _ := cashflow_covers
  amount _ := cashflow_amount
  total := cashflow_total

theorem mem_analytics {dimension : FinanceDimension} {row : FinanceAnalyticsRow} :
    row ∈ buildDimensionAnalytics ledger dimension ↔
      ∃ bucket ∈ ((dimensionBuckets dimension).collect .empty ledger).rows,
        bucket.row dimension = row := by
  unfold buildDimensionAnalytics
  simp only [List.mem_map, List.mem_insertionSort, List.mem_reverse]

theorem buildDimensionAnalytics_isAnalytics (dimension : FinanceDimension) :
    IsAnalytics ledger dimension (buildDimensionAnalytics ledger dimension) where
  covers entry hentry := by
    have hkey := (Grouping.mem_ids_collect (dimensionBuckets dimension)).mpr ⟨entry, hentry, rfl⟩
    obtain ⟨bucket, hbucket, hsame, hget⟩ := Table.exists_of_mem_ids _ hkey
    refine ⟨bucket.row dimension, ⟨mem_analytics.mpr ⟨bucket, hbucket, rfl⟩, hsame⟩, ?_⟩
    rintro row ⟨hrow, hrowKey⟩
    obtain ⟨other, hother, rfl⟩ := mem_analytics.mp hrow
    have hotherKey : other.key = (dimensionKeyLabel entry dimension).1 := hrowKey
    have hfound := Table.get?_of_mem _ hother
    rw [hotherKey, hget] at hfound
    rw [Option.some.inj hfound]
  amount row hrow stage := by
    obtain ⟨bucket, hbucket, rfl⟩ := mem_analytics.mp hrow
    refine (Grouping.measure_of_mem _ (fun bucket : AnalyticsBucket => bucket.amounts.of stage)
      (fun entry => entry.amountIn stage) (dimensionBuckets_join stage) hbucket).trans ?_
    rw [stageTotal_eq]
    rfl
  total stage := by
    have hsum := Grouping.sum_collect (dimensionBuckets dimension)
      (fun bucket => bucket.amounts.of stage) (fun entry => entry.amountIn stage)
      (dimensionBuckets_join stage) .empty ledger
    have hempty : (Table.empty : Table AnalyticsBucket.key).sum
        (fun bucket => bucket.amounts.of stage) = 0 := rfl
    rw [stageTotal_eq, hempty, zero_add] at hsum
    rw [← hsum]
    apply List.Perm.sum_eq
    refine (((List.perm_insertionSort _ _).map _).trans (.of_eq (List.map_map))).trans ?_
    exact (List.reverse_perm _).map _

end

/-- For every ledger, day and kind of period, the cashflow and the analytics of each dimension
lose nothing of the ledger and count nothing twice. -/
theorem ledger_conserved (ledger : List FinanceLedgerRow) (asOf : Date) (period : String) :
    IsCashflow ledger asOf (normalizePeriod period) (buildPeriodCashflow ledger period asOf) ∧
      ∀ dimension,
        IsAnalytics ledger dimension (buildDimensionAnalytics ledger dimension) :=
  ⟨buildPeriodCashflow_isCashflow, buildDimensionAnalytics_isAnalytics⟩

end ProjectManager
