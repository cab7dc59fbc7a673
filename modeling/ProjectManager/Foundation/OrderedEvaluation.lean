import Mathlib.Data.List.Induction
import Mathlib.Data.List.Nodup
import Mathlib.Logic.Function.Basic

/-! # Evaluating recursive equations along an order

A table of values is filled in by visiting nodes one after another. When every
node is visited after the nodes it reads, the finished table solves the system
of equations the visits were computed from.
-/

namespace Foundation

variable {ι α : Type*} [DecidableEq ι]

/-- Visit the nodes of `order` in turn. The rule of a node sees its own current
entry and the table so far. -/
def evaluate (rule : ι → α → (ι → α) → α) (order : List ι) (table : ι → α) : ι → α :=
  order.foldl (fun values node => Function.update values node (rule node (values node) values)) table

/-- A listed node that another listed node reads comes before it. -/
def ReadsEarlier (reads : ι → ι → Prop) (order : List ι) : Prop :=
  ∀ before node after, order = before ++ node :: after →
    ∀ other ∈ order, reads node other → other ∈ before

omit [DecidableEq ι] in
theorem ReadsEarlier.reverse {reads : ι → ι → Prop} {order : List ι} (hnodup : order.Nodup)
    (hearlier : ReadsEarlier reads order) :
    ReadsEarlier (fun node other => reads other node) order.reverse := by
  intro before node after hsplit other hother hreads
  have hsplit' : order = after.reverse ++ node :: before.reverse := by
    rw [← List.reverse_reverse order, hsplit]
    simp
  rw [hsplit'] at hnodup
  obtain ⟨-, -, hdisjoint⟩ := List.nodup_append.mp hnodup
  have hmem : other ∈ after.reverse ++ node :: before.reverse :=
    hsplit' ▸ List.mem_reverse.mp hother
  rcases List.mem_append.mp hmem with hafter | hlater
  · -- A reader listed before its node would leave the node no place.
    obtain ⟨front, back, hfront⟩ := List.append_of_mem hafter
    have hnode := hearlier front other (back ++ node :: before.reverse)
      (by rw [hsplit', hfront]; simp) node (by rw [hsplit']; simp) hreads
    exact absurd rfl (hdisjoint node (hfront ▸ List.mem_append_left _ hnode) node
      List.mem_cons_self)
  · rcases List.mem_cons.mp hlater with rfl | hbefore
    · have hself := hearlier after.reverse other before.reverse hsplit' other
        (by rw [hsplit']; simp) hreads
      exact absurd rfl (hdisjoint other hself other List.mem_cons_self)
    · exact List.mem_reverse.mp hbefore

/-- A rule only looks at the entries its node reads. -/
def ReadsOnly (reads : ι → ι → Prop) (rule : ι → α → (ι → α) → α) : Prop :=
  ∀ node own first second, (∀ other, reads node other → first other = second other) →
    rule node own first = rule node own second

variable {rule : ι → α → (ι → α) → α} {reads : ι → ι → Prop}

theorem evaluate_append (first second : List ι) (table : ι → α) :
    evaluate rule (first ++ second) table = evaluate rule second (evaluate rule first table) :=
  List.foldl_append

theorem evaluate_of_not_mem {order : List ι} {node : ι} (h : node ∉ order) (table : ι → α) :
    evaluate rule order table node = table node := by
  induction order generalizing table with
  | nil => rfl
  | cons head rest ih =>
      obtain ⟨hhead, hrest⟩ := not_or.mp (List.mem_cons.not.mp h)
      change evaluate rule rest (Function.update table head _) node = _
      rw [ih hrest, Function.update_of_ne hhead]

/-- A table that solves all equations stays as it is. -/
theorem evaluate_eq_self {table : ι → α} (h : ∀ node, rule node (table node) table = table node)
    (order : List ι) : evaluate rule order table = table := by
  induction order with
  | nil => rfl
  | cons head rest ih =>
      change evaluate rule rest (Function.update table head _) = table
      rw [h, Function.update_eq_self, ih]

/-- The finished table satisfies the equation of every visited node. -/
theorem evaluate_eq {order : List ι} (hnodup : order.Nodup)
    (hearlier : ReadsEarlier reads order) (honly : ReadsOnly reads rule) (table : ι → α)
    {node : ι} (hmem : node ∈ order) :
    evaluate rule order table node = rule node (table node) (evaluate rule order table) := by
  obtain ⟨before, after, rfl⟩ := List.append_of_mem hmem
  have hdisjoint := List.nodup_append.mp hnodup
  have hnotBefore : node ∉ before := fun hbefore =>
    hdisjoint.2.2 node hbefore node List.mem_cons_self rfl
  have hnotAfter : node ∉ after := (List.nodup_cons.mp hdisjoint.2.1).1
  have hvalue : evaluate rule (before ++ node :: after) table node =
      rule node (table node) (evaluate rule before table) := by
    rw [evaluate_append]
    change evaluate rule after (Function.update _ node _) node = _
    rw [evaluate_of_not_mem hnotAfter, Function.update_self, evaluate_of_not_mem hnotBefore]
  rw [hvalue]
  apply honly
  intro other hreads
  by_cases hlisted : other ∈ before ++ node :: after
  · have hother := hearlier before node after rfl other hlisted hreads
    have hlater : other ∉ node :: after := fun hafter => hdisjoint.2.2 other hother other hafter rfl
    rw [evaluate_append, evaluate_of_not_mem hlater]
  · rw [evaluate_of_not_mem hlisted, evaluate_of_not_mem fun hbefore =>
      hlisted (List.mem_append_left _ hbefore)]

omit [DecidableEq ι] in
/-- Facts about the table follow by induction along the order of evaluation. -/
theorem ReadsEarlier.induction {order : List ι} (hearlier : ReadsEarlier reads order) (motive : ι → Prop)
    (hstep : ∀ node ∈ order, (∀ other ∈ order, reads node other → motive other) → motive node) :
    ∀ node ∈ order, motive node := by
  have hprefix : ∀ before after, order = before ++ after → ∀ node ∈ before, motive node := by
    intro before
    induction before using List.reverseRecOn with
    | nil => simp
    | append_singleton before last ih =>
        intro after hsplit node hnode
        have hsplit' : order = before ++ last :: after := by simpa using hsplit
        have hbefore := ih (last :: after) hsplit'
        rcases List.mem_append.mp hnode with hnode | hnode
        · exact hbefore node hnode
        · obtain rfl := List.mem_singleton.mp hnode
          apply hstep node (hsplit' ▸ List.mem_append_right _ List.mem_cons_self)
          intro other hother hreads
          exact hbefore other (hearlier before node after hsplit' other hother hreads)
  exact hprefix order [] (List.append_nil _).symm

end Foundation
