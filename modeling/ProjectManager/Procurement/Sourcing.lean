import Mathlib.Algebra.Order.BigOperators.Group.List
import ProjectManager.Procurement.OnOrder

/-! # Sourced quantities

What a requisition line has sourced is what the approved orders order of it. It
stays within what was requested, and a requisition is fully sourced when its
lines are. This rests on references to requisitions that were approved before,
which an order with a requisition in its header always makes.
-/

namespace ProjectManager

open Foundation

/-- Approved at some time, and not rejected or cancelled. -/
def PurchaseOrder.HasSourced (order : PurchaseOrder) : Prop :=
  order.status ∈
    [PurchaseOrderStatus.approved, .sent, .partiallyReceived, .fullyReceived, .closed]

instance (order : PurchaseOrder) : Decidable order.HasSourced :=
  inferInstanceAs (Decidable (_ ∈ _))

def sourcedAt (store : InventoryStore) (requisitionLine : PurchaseRequisitionLine)
    (order : PurchaseOrder) (line : PurchaseOrderLine) : ℚ :=
  if order.HasSourced ∧ line.sourceLineId = some requisitionLine.id then
    store.convertedQuantity line requisitionLine.uom
  else 0

def sourcedTotal (store : InventoryStore) (requisitionLine : PurchaseRequisitionLine) : ℚ :=
  store.orderLines.sumRefs store.orders PurchaseOrderLine.purchaseOrderId
    (sourcedAt store requisitionLine)

/-- The requisition has lines, and all of them are fully sourced. -/
def AllSourced (store : InventoryStore) (requisitionId : String) : Prop :=
  (∃ line ∈ store.requisitionLines.rows, line.purchaseRequisitionId = requisitionId) ∧
    ∀ line ∈ store.requisitionLines.rows, line.purchaseRequisitionId = requisitionId →
      line.status = .fullySourced

theorem allSourced_congr {store next : InventoryStore} {requisitionId : String}
    (h : ∀ line : PurchaseRequisitionLine, line.purchaseRequisitionId = requisitionId →
      (line ∈ next.requisitionLines.rows ↔ line ∈ store.requisitionLines.rows)) :
    AllSourced store requisitionId ↔ AllSourced next requisitionId := by
  constructor
  · rintro ⟨⟨line, hline, hparent⟩, hall⟩
    exact ⟨⟨line, (h line hparent).mpr hline, hparent⟩,
      fun row hrow hrowParent => hall row ((h row hrowParent).mp hrow) hrowParent⟩
  · rintro ⟨⟨line, hline, hparent⟩, hall⟩
    exact ⟨⟨line, (h line hparent).mp hline, hparent⟩,
      fun row hrow hrowParent => hall row ((h row hrowParent).mpr hrow) hrowParent⟩

structure SourcingAgrees (store : InventoryStore) : Prop where
  sourced : ∀ line ∈ store.requisitionLines.rows,
    line.quantitySourced = sourcedTotal store line ∧
      line.quantitySourced ≤ line.quantityRequested
  lineStatus : ∀ line ∈ store.requisitionLines.rows,
    line.status = .fullySourced ↔ line.quantityRequested ≤ line.quantitySourced
  status : ∀ requisition ∈ store.requisitions.rows,
    requisition.status = .fullySourced ↔ AllSourced store requisition.id

/-- The requisition was approved, and its lines may have been sourced since. -/
def PurchaseRequisition.IsSourcing (requisition : PurchaseRequisition) : Prop :=
  requisition.status ∈ [PurchaseRequisitionStatus.approved, .partiallySourced, .fullySourced]

/-- An order line refers to a requisition line of its item, in units of the item. -/
def Refers (store : InventoryStore) (line : PurchaseOrderLine) (requisitionLineId : String) :
    Prop :=
  ∃ requisitionLine ∈ store.requisitionLines.get? requisitionLineId,
    (∃ item ∈ store.items.get? line.stockItemId,
      0 < uomFactor item line.uom ∧ 0 < uomFactor item requisitionLine.uom) ∧
      ∃ requisition ∈ store.requisitions.get? requisitionLine.purchaseRequisitionId,
        requisition.IsSourcing

structure SourcingInvariant (store : InventoryStore) : Prop extends SourcingAgrees store where
  references : ∀ line ∈ store.orderLines.rows, 0 < line.quantityOrdered ∧
    ∀ requisitionLineId ∈ line.sourceLineId, Refers store line requisitionLineId
  parents : ∀ line ∈ store.orderLines.rows, line.purchaseOrderId ∈ store.orders.ids
  headers : ∀ order ∈ store.orders.rows, ∀ requisitionId ∈ order.sourceRequisitionId,
    requisitionId ≠ "" ∧
      ∃ requisition ∈ store.requisitions.get? requisitionId, requisition.IsSourcing
  lineParents : ∀ line ∈ store.requisitionLines.rows,
    line.purchaseRequisitionId ∈ store.requisitions.ids
  requested : ∀ line ∈ store.requisitionLines.rows, 0 < line.quantityRequested

section

variable {store next : InventoryStore}

theorem sourcedAt_of_not_hasSourced {order : PurchaseOrder} (h : ¬ order.HasSourced)
    (requisitionLine : PurchaseRequisitionLine) (line : PurchaseOrderLine) :
    sourcedAt store requisitionLine order line = 0 :=
  if_neg fun hboth => h hboth.1

theorem sourcedTotal_of_unreferred {requisitionLine : PurchaseRequisitionLine}
    (h : ∀ line ∈ store.orderLines.rows, line.sourceLineId ≠ some requisitionLine.id) :
    sourcedTotal store requisitionLine = 0 := by
  apply Table.sum_eq_zero
  intro line hline
  cases store.orders.get? line.purchaseOrderId with
  | none => rfl
  | some order => exact if_neg fun hboth => h line hline hboth.2

theorem sourcedTotal_congr {first second : PurchaseRequisitionLine} (hid : first.id = second.id)
    (huom : first.uom = second.uom) : sourcedTotal store first = sourcedTotal store second := by
  unfold sourcedTotal sourcedAt
  rw [hid, huom]

/-- A requisition that is not yet approved has nothing sourced. -/
theorem SourcingInvariant.unreferred (h : SourcingInvariant store)
    {requisitionLine : PurchaseRequisitionLine}
    (hline : requisitionLine ∈ store.requisitionLines.rows)
    (hrequisition : ∀ requisition ∈
      store.requisitions.get? requisitionLine.purchaseRequisitionId, ¬ requisition.IsSourcing) :
    ∀ line ∈ store.orderLines.rows, line.sourceLineId ≠ some requisitionLine.id := by
  intro line hmem hsource
  obtain ⟨found, hfound, -, requisition, hparent, hsourcing⟩ :=
    (h.references line hmem).2 _ hsource
  rw [Option.mem_def, store.requisitionLines.get?_of_mem hline] at hfound
  cases hfound
  exact hrequisition requisition hparent hsourcing

theorem SourcingInvariant.quantitySourced_eq_zero (h : SourcingInvariant store)
    {requisitionLine : PurchaseRequisitionLine}
    (hline : requisitionLine ∈ store.requisitionLines.rows)
    (hrequisition : ∀ requisition ∈
      store.requisitions.get? requisitionLine.purchaseRequisitionId, ¬ requisition.IsSourcing) :
    requisitionLine.quantitySourced = 0 := by
  rw [(h.sourced _ hline).1]
  exact sourcedTotal_of_unreferred (h.unreferred hline hrequisition)

theorem not_isSourcing_of_undecided {requisition : PurchaseRequisition}
    (h : requisition.status ∈ [PurchaseRequisitionStatus.draft, .submitted, .underReview]) :
    ¬ requisition.IsSourcing := by
  unfold PurchaseRequisition.IsSourcing
  revert h
  cases requisition.status <;> decide

theorem isSourcing_of_isReady {requisition : PurchaseRequisition} (h : requisition.IsReady) :
    requisition.IsSourcing := by
  unfold PurchaseRequisition.IsReady at h
  unfold PurchaseRequisition.IsSourcing
  revert h
  cases requisition.status <;> decide

/-! ## Requisitions -/

/-- Requisitions that are being sourced stay so. -/
def KeepsSourcing (store next : InventoryStore) : Prop :=
  ∀ requisitionId, ∀ requisition ∈ store.requisitions.get? requisitionId,
    requisition.IsSourcing →
      ∃ kept ∈ next.requisitions.get? requisitionId, kept.IsSourcing

/-- Requisition lines are found as before, in the same unit and under the same requisition. -/
def KeepsLines (store next : InventoryStore) : Prop :=
  ∀ requisitionLineId, ∀ line ∈ store.requisitionLines.get? requisitionLineId,
    ∃ kept ∈ next.requisitionLines.get? requisitionLineId,
      kept.uom = line.uom ∧ kept.purchaseRequisitionId = line.purchaseRequisitionId

theorem Refers.mono {line : PurchaseOrderLine} {requisitionLineId : String}
    (h : Refers store line requisitionLineId) (hitems : next.items = store.items)
    (hlines : KeepsLines store next) (hrequisitions : KeepsSourcing store next) :
    Refers next line requisitionLineId := by
  obtain ⟨requisitionLine, hfound, ⟨item, hitem, hunit, hunit'⟩, requisition, hparent, hsourcing⟩ := h
  obtain ⟨kept, hkept, huom, hkeptParent⟩ := hlines requisitionLineId requisitionLine hfound
  refine ⟨kept, hkept, ⟨item, hitems ▸ hitem, hunit, ?_⟩, ?_⟩
  · rw [huom]
    exact hunit'
  · rw [hkeptParent]
    exact hrequisitions _ requisition hparent hsourcing

theorem keepsSourcing_insert {requisition : PurchaseRequisition}
    (hfresh : requisition.id ∉ store.requisitions.ids) :
    KeepsSourcing store
      { store with
        requisitions := store.requisitions.insert requisition } := by
  intro requisitionId found hfound hsourcing
  refine ⟨found, ?_, hsourcing⟩
  change (store.requisitions.insert requisition).get? requisitionId = some found
  rw [Table.get?_insert_of_ne, hfound]
  rintro rfl
  rw [Option.mem_def, Table.get?_eq_none.mpr hfresh] at hfound
  cases hfound

theorem keepsLines_insert {line : PurchaseRequisitionLine}
    (hfresh : line.id ∉ store.requisitionLines.ids) :
    KeepsLines store
      { store with
        requisitionLines := store.requisitionLines.insert line } := by
  intro requisitionLineId found hfound
  refine ⟨found, ?_, rfl, rfl⟩
  change (store.requisitionLines.insert line).get? requisitionLineId = some found
  rw [Table.get?_insert_of_ne, hfound]
  rintro rfl
  rw [Option.mem_def, Table.get?_eq_none.mpr hfresh] at hfound
  cases hfound

theorem SourcingInvariant.draftRequisition {requisition : PurchaseRequisition}
    (h : SourcingInvariant store) (hfresh : requisition.id ∉ store.requisitions.ids)
    (hdraft : requisition.status = .draft) :
    SourcingInvariant
      { store with
        requisitions := store.requisitions.insert requisition } := by
  have hkeeps := keepsSourcing_insert hfresh
  constructor
  · refine ⟨h.sourced, h.lineStatus, fun other hother => ?_⟩
    rcases Table.mem_insert hother with rfl | hother
    · rw [hdraft]
      refine iff_of_false (by decide) ?_
      rintro ⟨⟨line, hline, hparent⟩, -⟩
      exact hfresh (hparent ▸ h.lineParents line hline)
    · exact h.status other hother
  · intro line hline
    obtain ⟨hordered, hrefers⟩ := h.references line hline
    exact ⟨hordered, fun id hid => (hrefers id hid).mono rfl (fun _ found hfound =>
      ⟨found, hfound, rfl, rfl⟩) hkeeps⟩
  · exact h.parents
  · intro order horder requisitionId hheader
    obtain ⟨hne, found, hfound, hsourcing⟩ := h.headers order horder requisitionId hheader
    exact ⟨hne, hkeeps requisitionId found hfound hsourcing⟩
  · intro line hline
    change _ ∈ (store.requisitions.insert requisition).rows.map PurchaseRequisition.id
    rw [Table.rows_insert hfresh]
    exact List.mem_cons_of_mem _ (h.lineParents line hline)
  · exact h.requested

theorem SourcingInvariant.addRequisitionLine {line : PurchaseRequisitionLine}
    {requisition : PurchaseRequisition} (h : SourcingInvariant store)
    (hrequisition : store.requisitions.get? line.purchaseRequisitionId = some requisition)
    (hdraft : requisition.status = .draft) (hfresh : line.id ∉ store.requisitionLines.ids)
    (hstatus : line.status = .draft) (hsourced : line.quantitySourced = 0)
    (hrequested : 0 < line.quantityRequested) :
    SourcingInvariant
      { store with
        requisitionLines := store.requisitionLines.insert line } := by
  obtain ⟨hmem, hid⟩ := Table.get?_eq_some_iff.mp hrequisition
  have hunreferred : ∀ orderLine ∈ store.orderLines.rows,
      orderLine.sourceLineId ≠ some line.id := by
    intro orderLine horderLine hsource
    obtain ⟨found, hfound, -⟩ := (h.references orderLine horderLine).2 _ hsource
    rw [Option.mem_def, Table.get?_eq_none.mpr hfresh] at hfound
    cases hfound
  have hrows : ∀ other, other ∈ (store.requisitionLines.insert line).rows ↔
      other = line ∨ other ∈ store.requisitionLines.rows := by
    intro other
    rw [Table.rows_insert hfresh, List.mem_cons]
  constructor
  · constructor
    · intro other hother
      rcases (hrows other).mp hother with rfl | hother
      · rw [hsourced]
        exact ⟨(sourcedTotal_of_unreferred hunreferred).symm, hrequested.le⟩
      · exact h.sourced other hother
    · intro other hother
      rcases (hrows other).mp hother with rfl | hother
      · rw [hstatus, hsourced]
        exact iff_of_false (by decide) hrequested.not_ge
      · exact h.lineStatus other hother
    · intro other hother
      by_cases hown : other.id = line.purchaseRequisitionId
      · -- The requisition is the draft that the new line belongs to.
        obtain rfl := store.requisitions.eq_of_key_eq hother hmem (hown.trans hid.symm)
        rw [hdraft]
        refine iff_of_false (by decide) ?_
        rintro ⟨-, hall⟩
        have hline := hall line ((hrows line).mpr (Or.inl rfl)) hown.symm
        rw [hstatus] at hline
        cases hline
      · rw [h.status other hother]
        have hne : line.purchaseRequisitionId ≠ other.id := Ne.symm hown
        refine allSourced_congr fun child hparent => (hrows child).trans (or_iff_right ?_)
        rintro rfl
        exact hne hparent
  · intro orderLine horderLine
    obtain ⟨hordered, hrefers⟩ := h.references orderLine horderLine
    exact ⟨hordered, fun id hid => (hrefers id hid).mono rfl (keepsLines_insert hfresh)
      fun _ found hfound hsourcing => ⟨found, hfound, hsourcing⟩⟩
  · exact h.parents
  · exact h.headers
  · intro other hother
    rcases (hrows other).mp hother with rfl | hother
    · exact hid ▸ store.requisitions.mem_ids hmem
    · exact h.lineParents other hother
  · intro other hother
    rcases (hrows other).mp hother with rfl | hother
    · exact hrequested
    · exact h.requested other hother

theorem keepsSourcing_update {requisition stored : PurchaseRequisition}
    (hstored : store.requisitions.get? requisition.id = some stored)
    (hbefore : ¬ stored.IsSourcing) (lines : Table PurchaseRequisitionLine.id) :
    KeepsSourcing store
      { store with
        requisitions := store.requisitions.update requisition
        requisitionLines := lines } := by
  intro requisitionId found hfound hsourcing
  refine ⟨found, ?_, hsourcing⟩
  change (store.requisitions.update requisition).get? requisitionId = some found
  rw [Table.get?_update_of_ne, hfound]
  rintro rfl
  rw [Option.mem_def, hstored] at hfound
  cases hfound
  exact hbefore hsourcing

/-- A requisition moves on while nothing was sourced of it; at most the statuses of its lines
change, and not to fully sourced. -/
theorem SourcingInvariant.moveRequisition {requisition stored : PurchaseRequisition}
    (h : SourcingInvariant store)
    (hstored : store.requisitions.get? requisition.id = some stored)
    (hbefore : ¬ stored.IsSourcing) (hafter : requisition.status ≠ .fullySourced)
    {lines : Table PurchaseRequisitionLine.id} {f : PurchaseRequisitionLine → PurchaseRequisitionLine}
    (hlines : lines.rows = store.requisitionLines.rows.map f)
    (hf : ∀ line, ∃ status, f line = { line with status := status })
    (hother : ∀ line, line.purchaseRequisitionId ≠ requisition.id → f line = line)
    (hown : ∀ line ∈ store.requisitionLines.rows, line.purchaseRequisitionId = requisition.id →
      (f line).status ≠ .fullySourced) :
    SourcingInvariant
      { store with
        requisitions := store.requisitions.update requisition
        requisitionLines := lines } := by
  have hmem : ∀ line, line ∈ lines.rows ↔
      ∃ before ∈ store.requisitionLines.rows, f before = line := by
    intro line
    rw [hlines, List.mem_map]
  have hid : ∀ line, (f line).id = line.id := by
    intro line
    obtain ⟨_, hline⟩ := hf line
    rw [hline]
  have hparent : ∀ line, (f line).purchaseRequisitionId = line.purchaseRequisitionId := by
    intro line
    obtain ⟨_, hline⟩ := hf line
    rw [hline]
  have hkeeps := keepsSourcing_update hstored hbefore lines
  constructor
  · constructor
    · intro line hline
      obtain ⟨before, hbefore, rfl⟩ := (hmem line).mp hline
      obtain ⟨status, hline⟩ := hf before
      rw [hline]
      exact h.sourced before hbefore
    · intro line hline
      obtain ⟨before, hmemBefore, rfl⟩ := (hmem line).mp hline
      by_cases hsame : before.purchaseRequisitionId = requisition.id
      · obtain ⟨status, hline⟩ := hf before
        refine iff_of_false (hown before hmemBefore hsame) ?_
        rw [hline]
        change ¬ before.quantityRequested ≤ before.quantitySourced
        rw [h.quantitySourced_eq_zero hmemBefore ?_]
        · exact (h.requested before hmemBefore).not_ge
        · intro found hfound
          rw [hsame, Option.mem_def, hstored] at hfound
          cases hfound
          exact hbefore
      · rw [hother before hsame]
        exact h.lineStatus before hmemBefore
    · intro other hotherMem
      rcases Table.mem_update_iff.mp hotherMem with ⟨rfl, -⟩ | ⟨hotherMem, hne⟩
      · refine iff_of_false hafter ?_
        rintro ⟨⟨line, hline, hlineParent⟩, hall⟩
        have hfull := hall line hline hlineParent
        obtain ⟨before, hmemBefore, rfl⟩ := (hmem line).mp hline
        rw [hparent] at hlineParent
        exact hown before hmemBefore hlineParent hfull
      · have hsame : ∀ line, line.purchaseRequisitionId = other.id →
            (line ∈ lines.rows ↔ line ∈ store.requisitionLines.rows) := by
          intro line hlineParent
          have hneLine : line.purchaseRequisitionId ≠ requisition.id := hlineParent ▸ hne
          rw [hmem]
          constructor
          · rintro ⟨before, hbefore, rfl⟩
            rw [hparent] at hneLine
            rw [hother before hneLine]
            exact hbefore
          · exact fun hline => ⟨line, hline, hother line hneLine⟩
        rw [h.status other hotherMem]
        exact allSourced_congr hsame
  · intro line hline
    obtain ⟨hordered, hrefers⟩ := h.references line hline
    refine ⟨hordered, fun id hsource => (hrefers id hsource).mono rfl ?_ hkeeps⟩
    intro requisitionLineId found hfound
    refine ⟨f found, ?_, ?_, hparent found⟩
    · change lines.get? requisitionLineId = some (f found)
      rw [Table.get?_of_rows_map hid hlines, hfound]
      rfl
    · obtain ⟨_, hline⟩ := hf found
      rw [hline]
  · exact h.parents
  · intro order horder requisitionId hheader
    obtain ⟨hne, found, hfound, hsourcing⟩ := h.headers order horder requisitionId hheader
    exact ⟨hne, hkeeps requisitionId found hfound hsourcing⟩
  · intro line hline
    obtain ⟨before, hbefore, rfl⟩ := (hmem line).mp hline
    change _ ∈ (store.requisitions.update requisition).ids
    rw [Table.ids_update, hparent]
    exact h.lineParents before hbefore
  · intro line hline
    obtain ⟨before, hbefore, rfl⟩ := (hmem line).mp hline
    obtain ⟨_, hline⟩ := hf before
    rw [hline]
    exact h.requested before hbefore

/-! ## Orders -/

theorem sourcedAt_congr {order stored : PurchaseOrder}
    (h : order.HasSourced ↔ stored.HasSourced) (requisitionLine : PurchaseRequisitionLine)
    (line : PurchaseOrderLine) :
    sourcedAt store requisitionLine order line = sourcedAt store requisitionLine stored line := by
  unfold sourcedAt
  simp only [h]

theorem SourcingInvariant.updateOrder {order stored : PurchaseOrder} (h : SourcingInvariant store)
    (hstored : store.orders.get? order.id = some stored)
    (hcounts : order.HasSourced ↔ stored.HasSourced)
    (hheader : order.sourceRequisitionId = stored.sourceRequisitionId ∨ HeaderReady store order) :
    SourcingInvariant
      { store with
        orders := store.orders.update order } := by
  constructor
  · refine ⟨fun line hline => ?_, h.lineStatus, h.status⟩
    obtain ⟨hsourced, hle⟩ := h.sourced line hline
    refine ⟨hsourced.trans (Eq.symm ?_), hle⟩
    exact Table.sumRefs_update_parent_of_eq hstored fun child _ _ =>
      sourcedAt_congr hcounts line child
  · exact h.references
  · intro line hline
    change _ ∈ (store.orders.update order).ids
    rw [Table.ids_update]
    exact h.parents line hline
  · intro other hother requisitionId hmem
    rcases Table.mem_update_iff.mp hother with ⟨rfl, -⟩ | ⟨hother, -⟩
    · rcases hheader with hsame | hready
      · rw [hsame] at hmem
        exact h.headers stored (Table.get?_eq_some_iff.mp hstored).1 requisitionId hmem
      · obtain ⟨hne, requisition, hfound, hready⟩ := hready requisitionId hmem
        exact ⟨hne, requisition, hfound, isSourcing_of_isReady hready⟩
    · exact h.headers other hother requisitionId hmem
  · exact h.lineParents
  · exact h.requested

/-- An order line without what is done about it. -/
def PurchaseOrderLine.terms (line : PurchaseOrderLine) : PurchaseOrderLine :=
  { line with quantityReceived := 0, quantityRejected := 0, status := .draft }

theorem map_terms_of_bare {lines before : List PurchaseOrderLine}
    (h : lines.map PurchaseOrderLine.bare = before.map PurchaseOrderLine.bare) :
    lines.map PurchaseOrderLine.terms = before.map PurchaseOrderLine.terms := by
  have hterms := congrArg (List.map PurchaseOrderLine.terms) h
  rw [List.map_map, List.map_map] at hterms
  exact hterms

/-- Lines that differ in nothing that sourcing sees. -/
theorem SourcingInvariant.relabelLines {lines : Table PurchaseOrderLine.id}
    (h : SourcingInvariant store)
    (hlines : lines.rows.map PurchaseOrderLine.terms =
      store.orderLines.rows.map PurchaseOrderLine.terms) :
    SourcingInvariant
      { store with
        orderLines := lines } := by
  constructor
  · refine ⟨fun line hline => ?_, h.lineStatus, h.status⟩
    obtain ⟨hsourced, hle⟩ := h.sourced line hline
    exact ⟨hsourced.trans (Table.sum_eq_of_map_eq hlines fun _ => rfl).symm, hle⟩
  · exact Table.forall_of_map_eq hlines (fun _ => Iff.rfl) h.references
  · exact Table.forall_of_map_eq hlines (fun _ => Iff.rfl) h.parents
  · exact h.headers
  · exact h.lineParents
  · exact h.requested

theorem SourcingInvariant.draftOrder {order : PurchaseOrder} (h : SourcingInvariant store)
    (hfresh : order.id ∉ store.orders.ids) (hheader : HeaderReady store order) :
    SourcingInvariant
      { store with
        orders := store.orders.insert order } := by
  constructor
  · refine ⟨fun line hline => ?_, h.lineStatus, h.status⟩
    obtain ⟨hsourced, hle⟩ := h.sourced line hline
    refine ⟨hsourced.trans (Eq.symm ?_), hle⟩
    exact Table.sumRefs_insert_parent hfresh fun child hchild hparent =>
      absurd (hparent ▸ h.parents child hchild) hfresh
  · exact h.references
  · intro line hline
    change _ ∈ (store.orders.insert order).rows.map PurchaseOrder.id
    rw [Table.rows_insert hfresh]
    exact List.mem_cons_of_mem _ (h.parents line hline)
  · intro other hother requisitionId hmem
    rcases Table.mem_insert hother with rfl | hother
    · obtain ⟨hne, requisition, hfound, hready⟩ := hheader requisitionId hmem
      exact ⟨hne, requisition, hfound, isSourcing_of_isReady hready⟩
    · exact h.headers other hother requisitionId hmem
  · exact h.lineParents
  · exact h.requested

/-- A requisition line of an order with a header belongs to a requisition that is ready, since
one that is fully sourced has no demand left. -/
theorem SourcingInvariant.ready_of_header (h : SourcingInvariant store) {order : PurchaseOrder}
    {requisitionLine : PurchaseRequisitionLine} {requisitionId : String}
    (horder : order ∈ store.orders.rows) (hheader : order.sourceRequisitionId = some requisitionId)
    (hline : requisitionLine ∈ store.requisitionLines.rows)
    (hparent : requisitionId ≠ "" → requisitionLine.purchaseRequisitionId = requisitionId)
    (hdemand : requisitionLine.quantitySourced < requisitionLine.quantityRequested) :
    ∃ requisition ∈ store.requisitions.get? requisitionLine.purchaseRequisitionId,
      requisition.IsReady := by
  obtain ⟨hne, requisition, hfound, hsourcing⟩ := h.headers order horder requisitionId hheader
  obtain ⟨hmem, hid⟩ := Table.get?_eq_some_iff.mp hfound
  have hparent := hparent hne
  refine ⟨requisition, hparent ▸ hfound, ?_⟩
  have hopen : requisition.status ≠ .fullySourced := by
    intro hfull
    have hall := ((h.status requisition hmem).mp hfull).2
    have hstatus := hall requisitionLine hline (hparent.trans hid.symm)
    exact hdemand.not_ge ((h.lineStatus requisitionLine hline).mp hstatus)
  unfold PurchaseRequisition.IsSourcing at hsourcing
  unfold PurchaseRequisition.IsReady
  revert hsourcing hopen
  cases requisition.status <;> decide

theorem SourcingInvariant.addOrderLine {line : PurchaseOrderLine} {order : PurchaseOrder}
    {item : StockItem} (h : SourcingInvariant store)
    (horder : store.orders.get? line.purchaseOrderId = some order) (hdraft : order.status = .draft)
    (hfresh : line.id ∉ store.orderLines.ids)
    (hitem : store.items.get? line.stockItemId = some item) (hunit : 0 < uomFactor item line.uom)
    (hordered : 0 < line.quantityOrdered)
    (hsource : ∀ requisitionLineId ∈ line.sourceLineId,
      ∃ requisitionLine ∈ store.requisitionLines.get? requisitionLineId,
        0 < uomFactor item requisitionLine.uom ∧
          ∃ requisition ∈ store.requisitions.get? requisitionLine.purchaseRequisitionId,
            requisition.IsReady) :
    SourcingInvariant
      { store with
        orderLines := store.orderLines.insert line } := by
  obtain ⟨hmem, hid⟩ := Table.get?_eq_some_iff.mp horder
  have hcounts : ¬ order.HasSourced := by
    rw [PurchaseOrder.HasSourced, hdraft]
    decide
  constructor
  · refine ⟨fun requisitionLine hline => ?_, h.lineStatus, h.status⟩
    obtain ⟨hsourced, hle⟩ := h.sourced requisitionLine hline
    refine ⟨hsourced.trans (Eq.symm ?_), hle⟩
    refine Table.sumRefs_insert_child hfresh fun parent hparent => ?_
    rw [horder] at hparent
    cases hparent
    exact sourcedAt_of_not_hasSourced hcounts requisitionLine line
  · intro other hother
    rcases Table.mem_insert hother with rfl | hother
    · refine ⟨hordered, fun requisitionLineId hreference => ?_⟩
      obtain ⟨requisitionLine, hfound, hunit', requisition, hparent, hready⟩ :=
        hsource requisitionLineId hreference
      exact ⟨requisitionLine, hfound, ⟨item, hitem, hunit, hunit'⟩, requisition, hparent,
        isSourcing_of_isReady hready⟩
    · exact h.references other hother
  · intro other hother
    rcases Table.mem_insert hother with rfl | hother
    · exact hid ▸ store.orders.mem_ids hmem
    · exact h.parents other hother
  · exact h.headers
  · exact h.lineParents
  · exact h.requested

theorem LinesReceived.frame {order : PurchaseOrder} (h : LinesReceived order store next) :
    ∃ balances transactions receipts receiptLines orderLines,
      (next = { store with
        balances := balances
        transactions := transactions
        receipts := receipts
        receiptLines := receiptLines
        orderLines := orderLines }) ∧
      orderLines.rows.map PurchaseOrderLine.terms =
        store.orderLines.rows.map PurchaseOrderLine.terms := by
  induction h with
  | refl => exact ⟨_, _, _, _, _, rfl, rfl⟩
  | other _ hframe ih =>
      obtain ⟨_, _, _, _, _, rfl, hterms⟩ := ih
      obtain ⟨_, _, rfl⟩ := hframe
      exact ⟨_, _, _, _, _, rfl, hterms⟩
  | line _ stored _ _ _ hstored _ _ _ _ _ hframe _ ih =>
      obtain ⟨_, _, _, _, _, rfl, hterms⟩ := ih
      obtain ⟨_, _, _, rfl⟩ := hframe
      refine ⟨_, _, _, _, _, rfl, Eq.trans ?_ hterms⟩
      exact Table.map_rows_update hstored rfl

end

end ProjectManager
