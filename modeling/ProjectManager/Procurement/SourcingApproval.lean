import ProjectManager.Procurement.Sourcing

/-! # Approvals and sourced quantities

The approval of an order sources exactly what its lines order, and then gives
every requisition that was touched the status that its lines ask for.
-/

namespace ProjectManager

open Foundation

section

variable {store next : InventoryStore}

theorem convertedQuantity_nonneg {line : PurchaseOrderLine} {uom : String}
    (hordered : 0 < line.quantityOrdered)
    (hunits : ∃ item ∈ store.items.get? line.stockItemId,
      0 < uomFactor item line.uom ∧ 0 < uomFactor item uom) :
    0 ≤ store.convertedQuantity line uom := by
  obtain ⟨item, hitem, hunit, hunit'⟩ := hunits
  unfold InventoryStore.convertedQuantity
  rw [Option.mem_def.mp hitem]
  exact div_nonneg (mul_nonneg hordered.le hunit.le) hunit'.le

theorem SourcingInvariant.sourcedFrom_nonneg (h : SourcingInvariant store)
    {requisitionLine : PurchaseRequisitionLine}
    (hline : requisitionLine ∈ store.requisitionLines.rows) {lines : List PurchaseOrderLine}
    (hlines : ∀ line ∈ lines, line ∈ store.orderLines.rows) :
    0 ≤ store.sourcedFrom lines requisitionLine := by
  apply List.sum_nonneg
  intro quantity hquantity
  obtain ⟨line, hmem, rfl⟩ := List.mem_map.mp hquantity
  split
  next hsource =>
    obtain ⟨hordered, hrefers⟩ := h.references line (hlines line hmem)
    obtain ⟨found, hfound, hunits, -⟩ := hrefers _ hsource
    rw [Option.mem_def, store.requisitionLines.get?_of_mem hline] at hfound
    obtain rfl := Option.some.inj hfound
    exact convertedQuantity_nonneg hordered hunits
  next => exact le_refl 0

theorem sourcedFrom_le_of_linesFit {service : InventoryService} {order : PurchaseOrder}
    {requisitionLine : PurchaseRequisitionLine}
    (hline : requisitionLine ∈ store.requisitionLines.rows)
    (before lines : List PurchaseOrderLine)
    (hfit : LinesFit service store order before lines)
    (hbefore : requisitionLine.quantitySourced + store.sourcedFrom before requisitionLine ≤
      requisitionLine.quantityRequested) :
    requisitionLine.quantitySourced + store.sourcedFrom (before ++ lines) requisitionLine ≤
      requisitionLine.quantityRequested := by
  induction lines generalizing before with
  | nil =>
      rw [List.append_nil]
      exact hbefore
  | cons line rest ih =>
      obtain ⟨⟨item, hitem, -, hsource⟩, hrest⟩ := hfit
      rw [List.append_cons]
      apply ih _ hrest
      rw [sourcedFrom_append, sourcedFrom_singleton]
      by_cases hreference : line.sourceLineId = some requisitionLine.id
      · rw [if_pos hreference]
        obtain ⟨found, hfound, -, hle⟩ := hsource _ hreference
        rw [Option.mem_def, store.requisitionLines.get?_of_mem hline] at hfound
        obtain rfl := Option.some.inj hfound
        have hconverted : store.convertedQuantity line requisitionLine.uom =
            line.quantityOrdered * uomFactor item line.uom /
              uomFactor item requisitionLine.uom := by
          obtain ⟨hfound, -⟩ := getItemForInternalUse_ok (toOption_eq_some.mp hitem)
          unfold InventoryStore.convertedQuantity
          rw [hfound]
          rfl
        rw [hconverted, ← add_assoc]
        exact hle
      · rw [if_neg hreference, add_zero]
        exact hbefore

theorem resolveRequisitionLineStatus_fullySourced {line : PurchaseRequisitionLine}
    (h : 0 < line.quantityRequested) :
    resolveRequisitionLineStatus line = .fullySourced ↔
      line.quantityRequested ≤ line.quantitySourced := by
  unfold resolveRequisitionLineStatus
  split
  next hle => exact iff_of_false (by decide) fun hge => (h.trans_le hge).not_ge hle
  next => split <;> simp_all

theorem nextRequisitionStatus_mem (status : PurchaseRequisitionStatus)
    (lines : List PurchaseRequisitionLine) :
    nextRequisitionStatus status lines ∈
      [status, PurchaseRequisitionStatus.partiallySourced, .fullySourced] := by
  unfold nextRequisitionStatus
  split
  · simp
  · split
    · simp
    · split <;> simp

theorem nextRequisitionStatus_isSourcing {requisition : PurchaseRequisition}
    (h : requisition.IsSourcing) (lines : List PurchaseRequisitionLine) :
    nextRequisitionStatus requisition.status lines ∈
      [PurchaseRequisitionStatus.approved, .partiallySourced, .fullySourced] := by
  rcases List.mem_cons.mp (nextRequisitionStatus_mem requisition.status lines) with hsame | hsourced
  · rw [hsame]
    exact h
  · exact List.mem_cons_of_mem _ hsourced

section

variable {lines : List PurchaseOrderLine}

theorem refreshedRequisition_status {touched : List String} {requisition : PurchaseRequisition}
    (h : requisition.id ∈ touched) :
    (refreshedRequisition store lines touched requisition).status =
      nextRequisitionStatus requisition.status (store.sourcedLines lines requisition.id) := by
  unfold refreshedRequisition
  dsimp only
  split
  next => rfl
  next hsame =>
    by_contra hne
    exact hsame ⟨h, Ne.symm hne⟩

theorem keepsSourcing_refreshed {touched : List String}
    (h : next.requisitions.rows = store.requisitions.rows.map
      (refreshedRequisition store lines touched)) : KeepsSourcing store next := by
  intro requisitionId requisition hfound hsourcing
  refine ⟨refreshedRequisition store lines touched requisition, ?_, ?_⟩
  · rw [Table.get?_of_rows_map (refreshedRequisition_id store lines touched) h,
      Option.mem_def.mp hfound]
    rfl
  · by_cases htouched : requisition.id ∈ touched
    · unfold PurchaseRequisition.IsSourcing
      rw [refreshedRequisition_status htouched]
      exact nextRequisitionStatus_isSourcing hsourcing _
    · rw [refreshedRequisition_of_notMem htouched]
      exact hsourcing

theorem SourcingInvariant.sourcedBy_fullySourced (h : SourcingInvariant store)
    {line : PurchaseRequisitionLine} (hline : line ∈ store.requisitionLines.rows) :
    (store.sourcedBy lines line).status = .fullySourced ↔
      line.quantityRequested ≤ line.quantitySourced + store.sourcedFrom lines line := by
  by_cases hreferred : ∃ orderLine ∈ lines, orderLine.sourceLineId = some line.id
  · rw [sourcedBy_status hreferred, resolveRequisitionLineStatus_fullySourced]
    · rw [sourcedBy_quantityRequested, sourcedBy_quantitySourced]
    · rw [sourcedBy_quantityRequested]
      exact h.requested line hline
  · have hunreferred : ∀ orderLine ∈ lines, orderLine.sourceLineId ≠ some line.id :=
      fun orderLine hmem hsource => hreferred ⟨orderLine, hmem, hsource⟩
    have hsourced : (store.sourcedBy lines line).quantitySourced =
        line.quantitySourced + store.sourcedFrom lines line := sourcedBy_quantitySourced lines line
    rw [sourcedBy_of_unreferred lines line hunreferred] at hsourced ⊢
    rw [← hsourced]
    exact h.lineStatus line hline

theorem SourcingInvariant.sourcedLines_fullySourced (h : SourcingInvariant store)
    (hlines : ∀ line ∈ lines, line ∈ store.orderLines.rows) {requisition : PurchaseRequisition}
    (hmem : requisition ∈ store.requisitions.rows) (hstatus : requisition.status = .fullySourced) :
    ∀ row ∈ store.sourcedLines lines requisition.id, row.status = .fullySourced := by
  intro row hrow
  obtain ⟨line, hline, rfl⟩ := List.mem_map.mp hrow
  obtain ⟨hline, hparent⟩ := List.mem_filter.mp hline
  have hbefore := ((h.status requisition hmem).mp hstatus).2 line hline (of_decide_eq_true hparent)
  rw [h.sourcedBy_fullySourced hline]
  exact ((h.lineStatus line hline).mp hbefore).trans
    (le_add_of_nonneg_right (h.sourcedFrom_nonneg hline hlines))

theorem SourcingInvariant.refreshed_fullySourced (h : SourcingInvariant store)
    (hlines : ∀ line ∈ lines, line ∈ store.orderLines.rows) {touched : List String}
    (htouched : ∀ requisitionId, requisitionId ∈ touched ↔
      ∃ line ∈ lines, requisitionId ∈ store.touchedRequisition line)
    (hrows : next.requisitionLines.rows =
      store.requisitionLines.rows.map (store.sourcedBy lines))
    {requisition : PurchaseRequisition} (hmem : requisition ∈ store.requisitions.rows) :
    (refreshedRequisition store lines touched requisition).status = .fullySourced ↔
      AllSourced next requisition.id := by
  have hall : AllSourced next requisition.id ↔
      (∃ line ∈ store.requisitionLines.rows, line.purchaseRequisitionId = requisition.id) ∧
        ∀ line ∈ store.requisitionLines.rows, line.purchaseRequisitionId = requisition.id →
          (store.sourcedBy lines line).status = .fullySourced := by
    unfold AllSourced
    rw [hrows]
    constructor
    · rintro ⟨⟨line, hline, hparent⟩, hfull⟩
      obtain ⟨before, hbefore, rfl⟩ := List.mem_map.mp hline
      rw [sourcedBy_purchaseRequisitionId] at hparent
      refine ⟨⟨before, hbefore, hparent⟩, fun row hrow hrowParent => ?_⟩
      exact hfull _ (List.mem_map_of_mem hrow)
        ((sourcedBy_purchaseRequisitionId lines row).trans hrowParent)
    · rintro ⟨⟨line, hline, hparent⟩, hfull⟩
      refine ⟨⟨_, List.mem_map_of_mem hline,
        (sourcedBy_purchaseRequisitionId lines line).trans hparent⟩, fun row hrow hrowParent => ?_⟩
      obtain ⟨before, hbefore, rfl⟩ := List.mem_map.mp hrow
      rw [sourcedBy_purchaseRequisitionId] at hrowParent
      exact hfull before hbefore hrowParent
  rw [hall]
  by_cases hin : requisition.id ∈ touched
  · rw [refreshedRequisition_status hin]
    have hsourcedLines : ∀ row, row ∈ store.sourcedLines lines requisition.id ↔
        ∃ line ∈ store.requisitionLines.rows, line.purchaseRequisitionId = requisition.id ∧
          store.sourcedBy lines line = row := by
      intro row
      simp only [InventoryStore.sourcedLines, List.mem_map, List.mem_filter, decide_eq_true_iff,
        and_assoc]
    obtain ⟨orderLine, horderLine, hrequisition⟩ := (htouched requisition.id).mp hin
    obtain ⟨line, hfound, hparent⟩ := Option.map_eq_some_iff.mp hrequisition
    obtain ⟨lineId, hsource, hfound⟩ := Option.bind_eq_some_iff.mp hfound
    obtain ⟨hline, -⟩ := Table.get?_eq_some_iff.mp hfound
    have hnonempty : store.sourcedLines lines requisition.id ≠ [] :=
      List.ne_nil_of_mem ((hsourcedLines _).mpr ⟨line, hline, hparent, rfl⟩)
    unfold nextRequisitionStatus
    rw [if_neg hnonempty]
    by_cases hfull : ∀ row ∈ store.sourcedLines lines requisition.id, row.status = .fullySourced
    · rw [if_pos hfull]
      refine iff_of_true rfl ⟨⟨line, hline, hparent⟩, fun row hrow hrowParent => ?_⟩
      exact hfull _ ((hsourcedLines _).mpr ⟨row, hrow, hrowParent, rfl⟩)
    · rw [if_neg hfull]
      have hopen : ¬ ∀ row ∈ store.requisitionLines.rows,
          row.purchaseRequisitionId = requisition.id →
            (store.sourcedBy lines row).status = .fullySourced := by
        intro hrowsFull
        apply hfull
        intro row hrow
        obtain ⟨before, hbefore, hbeforeParent, rfl⟩ := (hsourcedLines row).mp hrow
        exact hrowsFull before hbefore hbeforeParent
      refine iff_of_false ?_ fun hboth => hopen hboth.2
      split
      · decide
      · exact fun hstatus => hfull (h.sourcedLines_fullySourced hlines hmem hstatus)
  · rw [refreshedRequisition_of_notMem hin, h.status requisition hmem]
    have hsame : ∀ row ∈ store.requisitionLines.rows,
        row.purchaseRequisitionId = requisition.id → store.sourcedBy lines row = row := by
      intro row hrow hrowParent
      apply sourcedBy_of_unreferred
      intro orderLine horderLine hsource
      apply hin
      refine (htouched requisition.id).mpr ⟨orderLine, horderLine, ?_⟩
      unfold InventoryStore.touchedRequisition
      rw [hsource, Option.bind_some, store.requisitionLines.get?_of_mem hrow, ← hrowParent]
      rfl
    unfold AllSourced
    refine and_congr Iff.rfl (forall₃_congr fun row hrow hrowParent => ?_)
    rw [hsame row hrow hrowParent]

theorem sum_sourcedAt_opened {order stored : PurchaseOrder}
    (hbefore : ¬ stored.HasSourced) (hafter : order.HasSourced)
    (requisitionLine : PurchaseRequisitionLine) :
    ((store.orderLines.rows.filter fun line => line.purchaseOrderId = order.id).map fun line =>
        sourcedAt store requisitionLine order line -
          sourcedAt store requisitionLine stored line).sum =
      store.sourcedFrom (listForPurchaseOrder store order.id) requisitionLine := by
  have hperm : (listForPurchaseOrder store order.id).Perm
      (store.orderLines.rows.filter fun line => line.purchaseOrderId = order.id) :=
    List.perm_insertionSort _ _
  unfold InventoryStore.sourcedFrom
  rw [(hperm.map _).sum_eq]
  refine congrArg List.sum (List.map_congr_left fun line _ => ?_)
  rw [sourcedAt_of_not_hasSourced hbefore, sub_zero]
  unfold sourcedAt
  simp only [hafter, true_and]

theorem OrderApproved.sourcingInvariant {service : InventoryService}
    {order stored : PurchaseOrder} (happroved : OrderApproved service store order next)
    (h : SourcingInvariant store) (hstored : store.orders.get? order.id = some stored)
    (hbefore : stored.status ∈ [PurchaseOrderStatus.submitted, .underReview])
    (horder : order = { stored with status := .approved }) : SourcingInvariant next := by
  obtain ⟨hmem, hid⟩ := Table.get?_eq_some_iff.mp hstored
  obtain ⟨touched, htouched, hrequisitions⟩ := happroved.requisitions
  have hrows := happroved.requisitionLines
  have horderLines := map_terms_of_bare happroved.orderLines
  have hfits := happroved.fits
  obtain ⟨balances, requisitions, requisitionLines, orderLines, rfl⟩ := happroved.frame
  have hlines : ∀ line ∈ listForPurchaseOrder store order.id, line ∈ store.orderLines.rows :=
    fun line hline => (mem_listForPurchaseOrder.mp hline).1
  have hunsourced : ¬ stored.HasSourced := by
    unfold PurchaseOrder.HasSourced
    revert hbefore
    cases stored.status <;> decide
  have hsourcing : order.HasSourced := by
    rw [horder]
    exact List.mem_cons_self
  have hkeeps := keepsSourcing_refreshed hrequisitions
  let row : PurchaseOrder := { order with version := order.version + 1 }
  constructor
  · constructor
    · intro line hline
      obtain ⟨before, hbefore, rfl⟩ := List.mem_map.mp (hrows ▸ hline)
      obtain ⟨hsourced, hle⟩ := h.sourced before hbefore
      rw [sourcedBy_quantitySourced, sourcedBy_quantityRequested]
      constructor
      · rw [hsourced]
        refine Eq.symm (Eq.trans (sourcedTotal_congr (sourcedBy_id _ before)
          (sourcedBy_uom _ before)) ?_)
        refine (Table.sum_eq_of_map_eq horderLines fun _ => rfl).trans ?_
        refine (Table.sumRefs_update_parent (f := sourcedAt store before)
          (show store.orders.get? row.id = some stored from hstored)).trans ?_
        exact congrArg (sourcedTotal store before + ·)
          (sum_sourcedAt_opened hunsourced (show row.HasSourced from hsourcing) before)
      · have hfit := sourcedFrom_le_of_linesFit hbefore [] _ hfits.1 (by
          rw [show store.sourcedFrom [] before = 0 from rfl, add_zero]
          exact hle)
        exact hfit
    · intro line hline
      obtain ⟨before, hbefore, rfl⟩ := List.mem_map.mp (hrows ▸ hline)
      rw [h.sourcedBy_fullySourced hbefore, sourcedBy_quantitySourced, sourcedBy_quantityRequested]
    · intro requisition hrequisition
      obtain ⟨before, hbefore, rfl⟩ := List.mem_map.mp (hrequisitions ▸ hrequisition)
      rw [refreshedRequisition_id]
      exact h.refreshed_fullySourced hlines htouched hrows hbefore
  · refine Table.forall_of_map_eq horderLines (fun _ => Iff.rfl) ?_
    intro line hline
    obtain ⟨hordered, hrefers⟩ := h.references line hline
    refine ⟨hordered, fun id hsource => (hrefers id hsource).mono rfl ?_ hkeeps⟩
    intro requisitionLineId found hfound
    refine ⟨store.sourcedBy (listForPurchaseOrder store order.id) found, ?_, sourcedBy_uom _ found,
      sourcedBy_purchaseRequisitionId _ found⟩
    rw [Table.get?_of_rows_map (sourcedBy_id _) hrows, Option.mem_def.mp hfound]
    rfl
  · refine Table.forall_of_map_eq horderLines (fun _ => Iff.rfl) ?_
    intro line hline
    rw [Table.ids_update]
    exact h.parents line hline
  · intro other hother requisitionId hheader
    have hheaders : ∃ requisition ∈ store.requisitions.get? requisitionId,
        requisitionId ≠ "" ∧ requisition.IsSourcing := by
      rcases Table.mem_update_iff.mp hother with ⟨rfl, -⟩ | ⟨hother, -⟩
      · obtain ⟨hne, found, hfound, hfoundSourcing⟩ :=
          h.headers stored hmem requisitionId (by rw [horder] at hheader; exact hheader)
        exact ⟨found, hfound, hne, hfoundSourcing⟩
      · obtain ⟨hne, found, hfound, hfoundSourcing⟩ := h.headers other hother requisitionId hheader
        exact ⟨found, hfound, hne, hfoundSourcing⟩
    obtain ⟨found, hfound, hne, hfoundSourcing⟩ := hheaders
    exact ⟨hne, hkeeps requisitionId found hfound hfoundSourcing⟩
  · intro line hline
    obtain ⟨before, hbefore, rfl⟩ := List.mem_map.mp (hrows ▸ hline)
    rw [sourcedBy_purchaseRequisitionId]
    have hids := Table.get?_of_rows_map (refreshedRequisition_id store _ touched) hrequisitions
      before.purchaseRequisitionId
    obtain ⟨found, -, -, hfound⟩ := store.requisitions.exists_of_mem_ids (h.lineParents before hbefore)
    rw [hfound, Option.map_some] at hids
    obtain ⟨hmemFound, hidFound⟩ := Table.get?_eq_some_iff.mp hids
    exact hidFound ▸ Table.mem_ids _ hmemFound
  · intro line hline
    obtain ⟨before, hbefore, rfl⟩ := List.mem_map.mp (hrows ▸ hline)
    rw [sourcedBy_quantityRequested]
    exact h.requested before hbefore

end

end

end ProjectManager
