import Mathlib.Tactic.FieldSimp
import ProjectManager.Inventory.Obligations

/-! # Converting between the units of an item

What the item master accepts gives each of the item's units a positive factor, and
conversions are scalings by the ratio of two factors. They therefore compose, undo
each other, and leave the value of a quantity at a unit cost alone.
-/

namespace ProjectManager

open Foundation

/-! ## Configured units -/

/-- A unit that the item has, as a user may write it. -/
def HasUom (item : StockItem) (uom : String) : Prop :=
  upper (strip uom) ∈ [item.stockUom, item.orderUom, item.issueUom]

instance (item : StockItem) (uom : String) : Decidable (HasUom item uom) :=
  inferInstanceAs (Decidable (_ ∈ _))

def IsNormalizedUom (uom : String) : Prop := upper (strip uom) = uom ∧ uom ≠ ""

instance (uom : String) : Decidable (IsNormalizedUom uom) := inferInstanceAs (Decidable (_ ∧ _))

structure UomsConfigured (item : StockItem) : Prop where
  stockUom : IsNormalizedUom item.stockUom
  orderUom : IsNormalizedUom item.orderUom
  issueUom : IsNormalizedUom item.issueUom
  orderUomRatio : 0 < item.orderUomRatio
  issueUomRatio : 0 < item.issueUomRatio

/-- The conversions of the item are exact: every pair of its units has one, it is undone by the
one back, it may be made over a third unit, and it keeps the value of a quantity. -/
structure ConvertsConsistently (item : StockItem) : Prop where
  back : ∀ q a b label other, HasUom item a → HasUom item b →
    ∃ converted, convertItemQuantity item q a b label = .ok converted ∧
      convertItemQuantity item converted b a other = .ok q
  chain : ∀ q a b c label other, HasUom item a → HasUom item b → HasUom item c →
    ∃ converted, convertItemQuantity item q a b label = .ok converted ∧
      convertItemQuantity item converted b c other = convertItemQuantity item q a c other
  value : ∀ q u a label other, HasUom item a → 0 ≤ u →
    ∃ converted cost, convertItemQuantity item q a item.stockUom label = .ok converted ∧
      convertItemUnitCostToStock item u a other = .ok cost ∧ converted * cost = q * u
  /-- Only a negative unit cost is refused. -/
  refused : ∀ u a label, HasUom item a → u < 0 →
    convertItemUnitCostToStock item u a label =
      .error (validationError (label ++ " cannot be negative.") "INVENTORY_QUANTITY_INVALID")

section

variable {item : StockItem} {uom : String}

theorem normalizeUom_normal {label normalized : String}
    (h : normalizeUom uom label = .ok normalized) : IsNormalizedUom normalized :=
  normalizeUom_eq_ok.mp (normalizeUom_normalized h label) |>.imp_left Eq.symm

theorem IsNormalizedUom.normalizeUom (h : IsNormalizedUom uom) (label : String) :
    normalizeUom uom label = .ok uom :=
  normalizeUom_eq_ok.mpr ⟨h.1.symm, h.2⟩

/-- A ratio that is positive already is a factor of its unit, unless the unit is the stock unit. -/
theorem resolveConfiguredUomRatio_configured {stockUom : String} {ratio : ℚ}
    (huom : IsNormalizedUom uom) (hstock : IsNormalizedUom stockUom) (hratio : 0 < ratio)
    (label lower : String) :
    ∃ factor, resolveConfiguredUomRatio uom stockUom (some ratio) label lower = .ok factor := by
  unfold resolveConfiguredUomRatio
  rw [hstock.normalizeUom, huom.normalizeUom]
  by_cases hsame : uom = stockUom
  · exact ⟨1, if_pos hsame⟩
  · refine ⟨ratio, (if_neg hsame).trans ?_⟩
    exact bind_eq_ok.mpr ⟨ratio, rfl, bind_eq_ok.mpr ⟨(), ensure_eq_ok.mpr hratio, rfl⟩⟩

theorem UomsConfigured.resolves (h : UomsConfigured item) (huom : HasUom item uom)
    (label : String) : ∃ factor, resolveItemUomFactor item uom label = .ok factor := by
  have hne : upper (strip uom) ≠ "" := by
    simp only [HasUom, List.mem_cons, List.not_mem_nil, or_false] at huom
    rcases huom with heq | heq | heq
    · exact heq ▸ h.stockUom.2
    · exact heq ▸ h.orderUom.2
    · exact heq ▸ h.issueUom.2
  suffices hfactor : ∃ factor, configuredUomFactor item (upper (strip uom)) = some (.ok factor) by
    exact hfactor.imp fun factor hfactor => resolveItemUomFactor_eq_ok.mpr ⟨hne, hfactor⟩
  unfold configuredUomFactor
  split
  next => exact ⟨1, rfl⟩
  next hstock =>
    split
    next =>
      exact (resolveConfiguredUomRatio_configured h.orderUom h.stockUom h.orderUomRatio
        "Order" "order").imp fun factor => congrArg some
    next horder =>
      have hissue : upper (strip uom) = item.issueUom := by
        simpa [HasUom, hstock, horder] using huom
      rw [if_pos hissue]
      exact (resolveConfiguredUomRatio_configured h.issueUom h.stockUom h.issueUomRatio
        "Issue" "issue").imp fun factor => congrArg some

theorem UomsConfigured.uomFactor_pos (h : UomsConfigured item) (huom : HasUom item uom) :
    0 < uomFactor item uom := by
  obtain ⟨factor, hfactor⟩ := h.resolves huom ""
  exact (resolveItemUomFactor_iff.mp hfactor).2

/-- The stock unit counts once. -/
theorem UomsConfigured.uomFactor_stockUom (h : UomsConfigured item) :
    uomFactor item item.stockUom = 1 := by
  have hresolved : resolveItemUomFactor item item.stockUom "" = .ok 1 := by
    rw [resolveItemUomFactor_eq_ok, h.stockUom.1]
    exact ⟨h.stockUom.2, if_pos rfl⟩
  exact uomFactor_of_resolved hresolved

theorem UomsConfigured.hasUom_stockUom (h : UomsConfigured item) : HasUom item item.stockUom := by
  rw [HasUom, h.stockUom.1]
  exact List.mem_cons_self

theorem UomsConfigured.convertItemQuantity_eq_ok (h : UomsConfigured item) {a b : String}
    (ha : HasUom item a) (hb : HasUom item b) (q : ℚ) (label : String) :
    convertItemQuantity item q a b label = .ok (q * uomFactor item a / uomFactor item b) :=
  convertItemQuantity_iff.mpr ⟨⟨h.uomFactor_pos ha, h.uomFactor_pos hb⟩, rfl⟩

/-- Where the units are configured, every conversion is exact. -/
theorem UomsConfigured.convertsConsistently (h : UomsConfigured item) :
    ConvertsConsistently item where
  back q a b label other ha hb := by
    have hposA := (h.uomFactor_pos ha).ne'
    have hposB := (h.uomFactor_pos hb).ne'
    refine ⟨_, h.convertItemQuantity_eq_ok ha hb q label, ?_⟩
    rw [h.convertItemQuantity_eq_ok hb ha]
    congr 1
    field_simp
  chain q a b c label other ha hb hc := by
    have hpos := (h.uomFactor_pos hb).ne'
    refine ⟨_, h.convertItemQuantity_eq_ok ha hb q label, ?_⟩
    rw [h.convertItemQuantity_eq_ok hb hc, h.convertItemQuantity_eq_ok ha hc]
    congr 1
    field_simp
  value q u a label other ha hu := by
    obtain ⟨factor, hfactor⟩ := h.resolves ha other
    have hpos := (resolveItemUomFactor_pos hfactor).ne'
    refine ⟨_, u / factor, h.convertItemQuantity_eq_ok ha h.hasUom_stockUom q label, ?_, ?_⟩
    · exact bind_eq_ok.mpr ⟨factor, hfactor, bind_eq_ok.mpr ⟨u,
        bind_eq_ok.mpr ⟨(), ensure_eq_ok.mpr hu, rfl⟩, rfl⟩⟩
    · rw [h.uomFactor_stockUom, uomFactor_of_resolved hfactor]
      field_simp
  refused u a label ha hu := by
    obtain ⟨factor, hfactor⟩ := h.resolves ha label
    unfold convertItemUnitCostToStock normalizeNonnegativeQuantity ensure
    rw [hfactor, if_neg hu.not_ge]
    rfl

end

/-! ## What the item master accepts -/

namespace ItemMasterService

section

variable {service : InventoryService} {store : PlatformStore} {item updated : StockItem}

/-- A created item has normalized units, and the ratios that were resolved for them. -/
theorem prepareItem_configured {arguments : CreateArguments}
    (h : prepareItem service store arguments = .ok item) : UomsConfigured item := by
  iterate 4 obtain ⟨_, -, h⟩ := bind_ok h
  obtain ⟨stockUom, hstock, h⟩ := bind_ok h
  obtain ⟨orderUom, horder, h⟩ := bind_ok h
  obtain ⟨issueUom, hissue, h⟩ := bind_ok h
  iterate 3 obtain ⟨_, -, h⟩ := bind_ok h
  obtain ⟨orderUomRatio, horderRatio, h⟩ := bind_ok h
  obtain ⟨issueUomRatio, hissueRatio, h⟩ := bind_ok h
  iterate 9 obtain ⟨_, -, h⟩ := bind_ok h
  cases h
  exact {
    stockUom := normalizeUom_normal hstock
    orderUom := normalizeUom_normal horder
    issueUom := normalizeUom_normal hissue
    orderUomRatio := resolveConfiguredUomRatio_pos horderRatio
    issueUomRatio := resolveConfiguredUomRatio_pos hissueRatio }

/-- A unit that is not given keeps its text, or follows the stock unit. -/
theorem updatedUom_normal {given : Option String} {stored stockUom previous label uom : String}
    {stockGiven : Bool} (hstored : IsNormalizedUom stored) (hstock : IsNormalizedUom stockUom)
    (h : updatedUom given stored stockGiven previous stockUom label = .ok uom) :
    IsNormalizedUom uom := by
  cases given with
  | some given => exact normalizeUom_normal h
  | none =>
      cases h
      split
      · exact hstock
      · exact hstored

theorem updateUoms_configured {arguments : UpdateArguments} (hitem : UomsConfigured item)
    (h : updateUoms arguments item = .ok updated) : UomsConfigured updated := by
  obtain ⟨stockUom, hstock, h⟩ := bind_ok h
  obtain ⟨orderUom, horder, h⟩ := bind_ok h
  obtain ⟨issueUom, hissue, h⟩ := bind_ok h
  iterate 2 obtain ⟨_, -, h⟩ := bind_ok h
  obtain ⟨orderUomRatio, horderRatio, h⟩ := bind_ok h
  obtain ⟨issueUomRatio, hissueRatio, h⟩ := bind_ok h
  cases h
  have hstockNormal : IsNormalizedUom stockUom := by
    cases hgiven : arguments.stockUom with
    | some given =>
        rw [hgiven] at hstock
        exact normalizeUom_normal hstock
    | none =>
        rw [hgiven] at hstock
        cases hstock
        exact hitem.stockUom
  exact {
    stockUom := hstockNormal
    orderUom := updatedUom_normal hitem.orderUom hstockNormal horder
    issueUom := updatedUom_normal hitem.issueUom hstockNormal hissue
    orderUomRatio := resolveConfiguredUomRatio_pos horderRatio
    issueUomRatio := resolveConfiguredUomRatio_pos hissueRatio }

/-- Only the step on the units writes them. -/
theorem prepareUpdatedItem_configured {itemId : String} {arguments : UpdateArguments}
    (hitems : ∀ item ∈ store.inventory.items.rows, UomsConfigured item)
    (h : prepareUpdatedItem service store itemId arguments = .ok updated) :
    UomsConfigured updated := by
  obtain ⟨_, -, h⟩ := bind_ok h
  obtain ⟨item, hitem, h⟩ := bind_ok h
  obtain ⟨_, -, h⟩ := bind_ok h
  obtain ⟨named, hnamed, h⟩ := bind_ok h
  obtain ⟨measured, hmeasured, h⟩ := bind_ok h
  obtain ⟨set, hset, h⟩ := bind_ok h
  obtain ⟨_, hstatus, h⟩ := bind_ok h
  iterate 2 obtain ⟨_, -, h⟩ := bind_ok h
  cases h
  have hstored : UomsConfigured item := by
    obtain ⟨hfound, -⟩ := getItemForInternalUse_ok hitem
    exact hitems item (Table.get?_eq_some_iff.mp hfound).1
  have hnamed : UomsConfigured named := by
    obtain ⟨_, _, _, _, rfl⟩ := updateTexts_ok hnamed
    exact { hstored with }
  have hmeasured := updateUoms_configured hnamed hmeasured
  iterate 8 obtain ⟨_, -, hset⟩ := bind_ok hset
  cases hset
  obtain ⟨_, -, hstatus⟩ := bind_ok hstatus
  cases hstatus
  exact { hmeasured with }

end

end ItemMasterService

/-! ## Runs of the item master -/

inductive ItemMasterCall
  | createItem (arguments : ItemMasterService.CreateArguments)
  | updateItem (itemId : String) (arguments : ItemMasterService.UpdateArguments)

def ItemMasterCall.guarded (service : InventoryService) :
    ItemMasterCall → GuardedCall DomainError PlatformStore
  | .createItem arguments => ItemMasterService.createItem service arguments
  | .updateItem itemId arguments => ItemMasterService.updateItem service itemId arguments

def runItemMasterCall (call : InventoryService × ItemMasterCall) (session : Session PlatformStore) :
    Outcome DomainError PlatformStore :=
  (call.2.guarded call.1).run session

def ItemsConfigured (store : PlatformStore) : Prop :=
  ∀ item ∈ store.inventory.items.rows, UomsConfigured item

theorem ItemsConfigured.flush {store next : PlatformStore} (h : ItemsConfigured store)
    (hflush : store.flush = .ok next) : ItemsConfigured next := by
  obtain ⟨⟨balances, rfl⟩, -⟩ := flush_ok hflush
  exact h

theorem runItemMasterCall_configured (session : Session PlatformStore)
    (call : InventoryService × ItemMasterCall) (h : session.Both ItemsConfigured) :
    (runItemMasterCall call session).2.Both ItemsConfigured := by
  obtain ⟨service, call⟩ := call
  refine GuardedCall.both_run ?_ h
  cases call with
  | createItem arguments =>
      intro item next hprepared hwritten
      obtain ⟨flushed, hflushed, hwritten⟩ := bind_ok hwritten
      obtain ⟨inventory, hinventory, hwritten⟩ := bind_ok hwritten
      cases hwritten
      obtain ⟨_, -, hinventory⟩ := bind_ok hinventory
      cases hinventory
      intro other hother
      rcases Table.mem_insert hother with rfl | hstored
      · exact ItemMasterService.prepareItem_configured hprepared
      · exact h.2.flush hflushed other hstored
  | updateItem itemId arguments =>
      intro updated next hprepared hwritten
      obtain ⟨flushed, hflushed, hwritten⟩ := bind_ok hwritten
      obtain ⟨inventory, hinventory, hwritten⟩ := bind_ok hwritten
      cases hwritten
      cases hinventory
      intro other hother
      rcases Table.mem_update_iff.mp hother with ⟨rfl, -⟩ | ⟨hstored, -⟩
      · exact { ItemMasterService.prepareUpdatedItem_configured h.2 hprepared with }
      · exact h.2.flush hflushed other hstored

/-- After every run of the item master the conversions of every item are exact. -/
theorem itemMasterRun_convertsConsistently (calls : List (InventoryService × ItemMasterCall))
    (start : PlatformStore) (hstart : ItemsConfigured start) :
    let last := sessionAfter runItemMasterCall (.clean start) calls
    ∀ item, item ∈ last.committed.inventory.items.rows ∨ item ∈ last.pending.inventory.items.rows →
      ConvertsConsistently item := by
  have hcalls : EachCall runItemMasterCall (fun _ _ => True) (.clean start) calls :=
    eachCall_of_forall (fun _ _ => trivial) calls _
  have hlast : (sessionAfter runItemMasterCall (.clean start) calls).Both ItemsConfigured :=
    sessionAfter_invariant (fun session call _ => runItemMasterCall_configured session call) calls
      hcalls (Session.both_clean.mpr hstart)
  rintro last item (hitem | hitem)
  · exact (hlast.1 item hitem).convertsConsistently
  · exact (hlast.2 item hitem).convertsConsistently

/-- Gloves come in boxes of fifty, and later in cartons as well. -/
def gloveCalls : List (InventoryService × ItemMasterCall) :=
  [(inventoryAdmin, .createItem { itemCode := "glove", name := "Gloves", stockUom := " pair"
                                  orderUom := some "box", orderUomRatio := some 50
                                  itemId := "glove" }),
    (inventoryAdmin, .updateItem "glove" { issueUom := some "Carton", issueUomRatio := some 600 })]

def emptyYard : PlatformStore where
  sites := .empty
  parties := .empty
  approvals := .empty
  inventory := { boltStore with items := .empty }

theorem itemMasterRun_convertsConsistently_gloves :
    let last := sessionAfter runItemMasterCall (.clean emptyYard) gloveCalls
    ∃ item, last.committed.inventory.items.rows = [item] ∧
      (item.stockUom, item.orderUom, item.issueUom) = ("PAIR", "BOX", "CARTON") ∧
      ConvertsConsistently item := by
  have hstart : ItemsConfigured emptyYard := fun item hitem => absurd hitem List.not_mem_nil
  have hconsistent := itemMasterRun_convertsConsistently gloveCalls emptyYard hstart
  have hrows : (sessionAfter runItemMasterCall (.clean emptyYard)
      gloveCalls).committed.inventory.items.rows.map
        (fun item => (item.stockUom, item.orderUom, item.issueUom)) =
      [("PAIR", "BOX", "CARTON")] := by
    decide +kernel
  obtain ⟨item, hitem, huoms⟩ := List.map_eq_singleton_iff.mp hrows
  refine ⟨item, hitem, huoms, hconsistent item (Or.inl ?_)⟩
  rw [hitem]
  exact List.mem_singleton_self item

end ProjectManager
