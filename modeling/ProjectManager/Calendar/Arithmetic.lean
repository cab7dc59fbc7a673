import Mathlib.Data.Finset.Card
import Mathlib.Data.Fintype.Basic
import Mathlib.Data.Int.ConditionallyCompleteOrder
import Mathlib.Tactic.Ring
import ProjectManager.Foundation.BoundedGaps
import ProjectManager.Calendar.Engine

/-! # Working-day arithmetic

The loops of the engine find the day at a computed position of the enumeration
of all working days. Every law of the calendar is then linear arithmetic on
positions; in particular the searches end within the iterations they are given.
-/

noncomputable section

namespace ProjectManager.WorkCalendarEngine

open Foundation

variable (calendar : WorkCalendarEngine)

/-- Seven days apart, the window holds more days of one working weekday than
there are holidays. -/
theorem boundedGaps :
    BoundedGaps (fun d => calendar.isWorkingDay d = true) calendar.searchWindow := by
  intro d
  obtain ⟨w, hw, hlow, hhigh⟩ := calendar.proper
  let first := d + (w - weekday d) % 7
  have hfirst : ∀ i : ℕ, weekday (first + 7 * i) = w := by
    intro i
    simp only [first, weekday]
    omega
  have hexists : ∃ i ∈ Finset.range (calendar.holidays.length + 1),
      first + 7 * (i : ℤ) ∉ calendar.holidays := by
    by_contra hall
    push Not at hall
    have hcard := Finset.card_le_card_of_injOn (fun i : ℕ => first + 7 * (i : ℤ))
      (s := Finset.range (calendar.holidays.length + 1)) (t := calendar.holidays.toFinset)
      (fun i hi => by simpa using hall i hi) (fun i _ j _ heq => by simpa using heq)
    have hlength := List.toFinset_card_le calendar.holidays
    rw [Finset.card_range] at hcard
    omega
  obtain ⟨i, hi, hholiday⟩ := hexists
  have hbound := Finset.mem_range.mp hi
  refine ⟨((w - weekday d) % 7 + 7 * i).toNat, ?_, ?_⟩
  · simp only [WorkingCalendarRepository.searchWindow]
    omega
  · have hday : d + (((w - weekday d) % 7 + 7 * i).toNat : ℤ) = first + 7 * i := by
      simp only [first]
      omega
    change calendar.isWorkingDay _ = true
    rw [hday, WorkingCalendarRepository.isWorkingDay, hfirst i, if_neg (not_not.mpr hw),
      List.all_eq_true]
    intro holiday hmem
    exact decide_eq_true fun heq => hholiday (heq ▸ hmem)

/-- The position of the first working day on or after a date. -/
def position (d : Date) : ℤ := calendar.boundedGaps.rank d

/-- The working day at a position. -/
def workingDay (k : ℤ) : Date := calendar.boundedGaps.nth k

theorem isWorkingDay_workingDay (k : ℤ) : calendar.isWorkingDay (calendar.workingDay k) = true :=
  calendar.boundedGaps.nth_mem k

@[simp]
theorem position_workingDay (k : ℤ) : calendar.position (calendar.workingDay k) = k :=
  calendar.boundedGaps.rank_nth k

theorem workingDay_le_workingDay {j k : ℤ} :
    calendar.workingDay j ≤ calendar.workingDay k ↔ j ≤ k :=
  calendar.boundedGaps.nth_le_nth

theorem workingDay_lt_workingDay {j k : ℤ} :
    calendar.workingDay j < calendar.workingDay k ↔ j < k :=
  calendar.boundedGaps.nth_lt_nth

theorem position_mono {d e : Date} (h : d ≤ e) : calendar.position d ≤ calendar.position e :=
  calendar.boundedGaps.rank_mono h

theorem le_workingDay_position (d : Date) : d ≤ calendar.workingDay (calendar.position d) :=
  calendar.boundedGaps.le_nth_rank d

theorem workingDay_position_eq_iff {d : Date} :
    calendar.workingDay (calendar.position d) = d ↔ calendar.isWorkingDay d = true :=
  calendar.boundedGaps.nth_rank_eq_iff

/-! ## The loops -/

theorem nextWorkingDayLoop_eq {iterations : ℕ} {current : Date}
    (h : calendar.workingDay (calendar.position current) < current + iterations) :
    calendar.nextWorkingDayLoop iterations current =
      some (calendar.workingDay (calendar.position current)) := by
  induction iterations generalizing current with
  | zero =>
      have := calendar.le_workingDay_position current
      simp only [Nat.cast_zero, add_zero] at h
      exact absurd (this.trans_lt h) (lt_irrefl _)
  | succ iterations ih =>
      rw [WorkingCalendarRepository.nextWorkingDayLoop]
      split
      next hworking => rw [calendar.workingDay_position_eq_iff.mpr hworking]
      next hworking =>
        have hposition : calendar.position (current + 1) = calendar.position current :=
          calendar.boundedGaps.rank_succ_of_not_mem hworking
        rw [← hposition]
        apply ih
        rw [hposition]
        push_cast at h
        linarith

theorem forwardLoop_eq {iterations remaining : ℕ} {current : Date} (hremaining : 0 < remaining)
    (h : calendar.workingDay (calendar.position (current + 1) + remaining - 1) ≤
      current + iterations) :
    calendar.forwardLoop iterations remaining current =
      some (calendar.workingDay (calendar.position (current + 1) + remaining - 1)) := by
  induction iterations generalizing remaining current with
  | zero =>
      have hle := calendar.le_workingDay_position (current + 1)
      have hmono := calendar.workingDay_le_workingDay.mpr
        (show calendar.position (current + 1) ≤ calendar.position (current + 1) + remaining - 1 by
          omega)
      simp only [Nat.cast_zero, add_zero] at h
      linarith
  | succ iterations ih =>
      obtain ⟨remaining, rfl⟩ : ∃ n, remaining = n + 1 := ⟨remaining - 1, by omega⟩
      rw [WorkingCalendarRepository.forwardLoop]
      split
      next hworking =>
        have hday := calendar.workingDay_position_eq_iff.mpr hworking
        have hposition : calendar.position (current + 1 + 1) = calendar.position (current + 1) + 1 :=
          calendar.boundedGaps.rank_succ_of_mem hworking
        cases remaining with
        | zero => simp [WorkingCalendarRepository.forwardLoop, hday]
        | succ remaining =>
            have htarget : calendar.position (current + 1 + 1) + ((remaining + 1 : ℕ) : ℤ) - 1 =
                calendar.position (current + 1) + ((remaining + 1 + 1 : ℕ) : ℤ) - 1 := by
              rw [hposition]
              push_cast
              ring
            rw [ih (by omega) (by rw [htarget]; push_cast at h ⊢; linarith), htarget]
      next hworking =>
        have hposition : calendar.position (current + 1 + 1) = calendar.position (current + 1) :=
          calendar.boundedGaps.rank_succ_of_not_mem hworking
        rw [ih (by omega) (by rw [hposition]; push_cast at h ⊢; linarith), hposition]

theorem backwardLoop_eq {iterations remaining : ℕ} {current : Date} (hremaining : 0 < remaining)
    (h : current - iterations ≤ calendar.workingDay (calendar.position current - remaining)) :
    calendar.backwardLoop iterations remaining current =
      some (calendar.workingDay (calendar.position current - remaining)) := by
  induction iterations generalizing remaining current with
  | zero =>
      have hlt := calendar.boundedGaps.nth_rank_sub_one_lt current
      have hmono := calendar.workingDay_le_workingDay.mpr
        (show calendar.position current - remaining ≤ calendar.position current - 1 by omega)
      simp only [Nat.cast_zero, sub_zero] at h
      exact absurd ((h.trans hmono).trans_lt hlt) (lt_irrefl _)
  | succ iterations ih =>
      obtain ⟨remaining, rfl⟩ : ∃ n, remaining = n + 1 := ⟨remaining - 1, by omega⟩
      rw [WorkingCalendarRepository.backwardLoop]
      split
      next hworking =>
        have hday := calendar.workingDay_position_eq_iff.mpr hworking
        have hposition : calendar.position current = calendar.position (current - 1) + 1 := by
          simpa [position] using calendar.boundedGaps.rank_succ_of_mem hworking
        cases remaining with
        | zero => simp [WorkingCalendarRepository.backwardLoop, hday, hposition]
        | succ remaining =>
            have htarget : calendar.position (current - 1) - ((remaining + 1 : ℕ) : ℤ) =
                calendar.position current - ((remaining + 1 + 1 : ℕ) : ℤ) := by
              rw [hposition]
              push_cast
              ring
            rw [ih (by omega) (by rw [htarget]; push_cast at h ⊢; linarith), htarget]
      next hworking =>
        have hposition : calendar.position current = calendar.position (current - 1) := by
          simpa [position] using calendar.boundedGaps.rank_succ_of_not_mem hworking
        rw [ih (by omega) (by rw [← hposition]; push_cast at h ⊢; linarith), hposition]

/-! ## The operations -/

theorem nextWorkingDay_eq (d : Date) :
    calendar.nextWorkingDay d true = calendar.workingDay (calendar.position d) := by
  simp only [nextWorkingDay, if_true]
  rw [calendar.nextWorkingDayLoop_eq (calendar.boundedGaps.nth_rank_lt_add_gap d),
    Option.getD_some]

@[simp]
theorem addWorkingDays_zero (d : Date) : calendar.addWorkingDays d 0 = d := rfl

theorem addWorkingDays_of_pos (d : Date) {n : ℤ} (hn : 0 < n) :
    calendar.addWorkingDays d n = calendar.workingDay (calendar.position d + n - 1) := by
  simp only [addWorkingDays, if_neg hn.ne', if_pos hn, calendar.nextWorkingDay_eq]
  obtain hone | hmore := eq_or_lt_of_le (show 1 ≤ n by omega)
  · subst hone
    simp [WorkingCalendarRepository.forwardLoop]
  · have hcast : (((n - 1).toNat : ℕ) : ℤ) = n - 1 := Int.toNat_of_nonneg (by omega)
    have hposition : calendar.position (calendar.workingDay (calendar.position d) + 1) =
        calendar.position d + 1 := by
      have hsucc := calendar.boundedGaps.rank_succ_of_mem
        (calendar.isWorkingDay_workingDay (calendar.position d))
      simpa only [workingDay, position, BoundedGaps.rank_nth] using hsucc
    have hbound := calendar.boundedGaps.nth_add_le (calendar.position d) (n - 1).toNat
    rw [calendar.forwardLoop_eq (by omega), Option.getD_some, hposition, hcast]
    · congr 1
      ring
    · rw [hposition, hcast]
      push_cast
      rw [hcast] at hbound ⊢
      have hrw : calendar.position d + 1 + (n - 1) - 1 = calendar.position d + (n - 1) := by ring
      rw [hrw]
      exact hbound

theorem addWorkingDays_of_neg (d : Date) {n : ℤ} (hn : n < 0) :
    calendar.addWorkingDays d n = calendar.workingDay (calendar.position d + n) := by
  simp only [addWorkingDays, if_neg hn.ne, if_neg (not_lt.mpr hn.le), gt_iff_lt,
    calendar.nextWorkingDay_eq]
  have hcast : (((-n).toNat : ℕ) : ℤ) = -n := Int.toNat_of_nonneg (by omega)
  have hbound := calendar.boundedGaps.nth_add_le (calendar.position d + n) (-n).toNat
  rw [hcast] at hbound
  simp only [add_neg_cancel_right] at hbound
  rw [calendar.backwardLoop_eq (by omega), Option.getD_some, position_workingDay, hcast,
    sub_neg_eq_add]
  rw [position_workingDay, hcast, sub_neg_eq_add]
  push_cast
  rw [hcast]
  simp only [workingDay, position] at hbound ⊢
  linarith

theorem workingDaysBetween_eq {start finish : Date} (h : start ≤ finish) :
    (calendar.workingDaysBetween start finish : ℤ) =
      calendar.position (finish + 1) - calendar.position start := by
  rw [workingDaysBetween, if_neg (not_lt.mpr h)]
  have hcount := calendar.boundedGaps.countP_range start (finish - start + 1).toNat
  have hend : start + (((finish - start + 1).toNat : ℕ) : ℤ) = finish + 1 := by
    rw [Int.toNat_of_nonneg (by linarith)]
    ring
  rw [hend] at hcount
  simpa [position] using hcount

theorem workingDaysBetween_mono (start : Date) {finish later : Date} (h : finish ≤ later) :
    calendar.workingDaysBetween start finish ≤ calendar.workingDaysBetween start later := by
  by_cases hstart : start ≤ finish
  · have hfinish := calendar.workingDaysBetween_eq hstart
    have hlater := calendar.workingDaysBetween_eq (hstart.trans h)
    have hposition := calendar.position_mono (add_le_add_left h 1)
    omega
  · rw [WorkCalendarEngine.workingDaysBetween, if_pos (not_le.mp hstart)]
    exact Nat.zero_le _

/-- A positive shift counts working days from the start, the start included. -/
theorem addWorkingDays_mono {d e : Date} (h : d ≤ e) (n : ℤ) :
    calendar.addWorkingDays d n ≤ calendar.addWorkingDays e n := by
  have hposition := calendar.position_mono h
  rcases lt_trichotomy n 0 with hn | rfl | hn
  · rw [calendar.addWorkingDays_of_neg d hn, calendar.addWorkingDays_of_neg e hn,
      workingDay_le_workingDay]
    omega
  · exact h
  · rw [calendar.addWorkingDays_of_pos d hn, calendar.addWorkingDays_of_pos e hn,
      workingDay_le_workingDay]
    omega

theorem isWorkingDay_addWorkingDays (d : Date) {n : ℤ} (hn : n ≠ 0) :
    calendar.isWorkingDay (calendar.addWorkingDays d n) = true := by
  rcases lt_or_gt_of_ne hn with hn | hn
  · rw [calendar.addWorkingDays_of_neg d hn]
    exact calendar.isWorkingDay_workingDay _
  · rw [calendar.addWorkingDays_of_pos d hn]
    exact calendar.isWorkingDay_workingDay _

/-- Going back `n - 1` working days and forward `n` ends on the next working day. -/
theorem addWorkingDays_neg_pred_add (d : Date) {n : ℤ} (hn : 1 ≤ n) :
    calendar.addWorkingDays (calendar.addWorkingDays d (-(n - 1))) n =
      calendar.workingDay (calendar.position d) := by
  obtain rfl | hmore := eq_or_lt_of_le hn
  · rw [show -((1 : ℤ) - 1) = 0 by ring, addWorkingDays_zero,
      calendar.addWorkingDays_of_pos d one_pos]
    congr 1
    ring
  · rw [calendar.addWorkingDays_of_neg d (show -(n - 1) < 0 by omega),
      calendar.addWorkingDays_of_pos _ (show 0 < n by omega), position_workingDay]
    congr 1
    ring

/-! ## Shifts back and forth -/

theorem workingDay_position_sub_one_lt (d : Date) :
    calendar.workingDay (calendar.position d - 1) < d :=
  calendar.boundedGaps.nth_rank_sub_one_lt d

theorem addWorkingDays_le_self (d : Date) {n : ℤ} (hn : n ≤ 0) :
    calendar.addWorkingDays d n ≤ d := by
  obtain rfl | hneg := eq_or_lt_of_le hn
  · exact le_rfl
  · rw [calendar.addWorkingDays_of_neg d hneg]
    exact (calendar.workingDay_le_workingDay.mpr (by omega)).trans
      (calendar.workingDay_position_sub_one_lt d).le

/-- A lag counts its first day, so shifting back and forth stays behind. -/
theorem addWorkingDays_neg_add_le (d : Date) {n : ℤ} (hn : 0 ≤ n) :
    calendar.addWorkingDays (calendar.addWorkingDays d (-n)) n ≤ d := by
  obtain rfl | hpos := eq_or_lt_of_le hn
  · exact le_rfl
  · rw [calendar.addWorkingDays_of_neg d (by omega), calendar.addWorkingDays_of_pos _ hpos,
      calendar.position_workingDay]
    exact (calendar.workingDay_le_workingDay.mpr (by omega)).trans
      (calendar.workingDay_position_sub_one_lt d).le

/-- The backward FS rule inverts the forward one on working days. -/
theorem addWorkingDays_neg_succ_add {d : Date} (hd : calendar.isWorkingDay d = true)
    {lag : ℤ} (hlag : 0 ≤ lag) :
    calendar.addWorkingDays (calendar.addWorkingDays d (-(lag + 1))) (lag + 2) = d := by
  rw [calendar.addWorkingDays_of_neg d (by omega), calendar.addWorkingDays_of_pos _ (by omega),
    calendar.position_workingDay]
  calc calendar.workingDay (calendar.position d + -(lag + 1) + (lag + 2) - 1)
      = calendar.workingDay (calendar.position d) := by congr 1; ring
    _ = d := calendar.workingDay_position_eq_iff.mpr hd

theorem addWorkingDays_add_neg_pred {d : Date} (hd : calendar.isWorkingDay d = true) {n : ℤ}
    (hn : 1 ≤ n) :
    calendar.addWorkingDays (calendar.addWorkingDays d n) (-(n - 1)) = d := by
  have hworking := calendar.workingDay_position_eq_iff.mpr hd
  rw [calendar.addWorkingDays_of_pos d (by omega)]
  obtain rfl | hmore := eq_or_lt_of_le hn
  · rw [sub_self, neg_zero, addWorkingDays_zero, add_sub_cancel_right, hworking]
  · rw [calendar.addWorkingDays_of_neg _ (by omega), calendar.position_workingDay]
    calc calendar.workingDay (calendar.position d + n - 1 + -(n - 1))
        = calendar.workingDay (calendar.position d) := by congr 1; ring
      _ = d := hworking

theorem position_add_one_le (d : Date) : calendar.position (d + 1) ≤ calendar.position d + 1 := by
  by_cases hd : calendar.isWorkingDay d = true
  · exact (calendar.boundedGaps.rank_succ_of_mem hd).le
  · exact (calendar.boundedGaps.rank_succ_of_not_mem hd).le.trans (le_add_of_nonneg_right one_pos.le)

/-! ## The laws -/

/-- The working days from one date to another, both included. -/
def workingDaysIn (first last : Date) : Finset Date :=
  (Finset.Icc first last).filter fun day => calendar.isWorkingDay day = true

theorem card_workingDaysIn (first last : Date) :
    (calendar.workingDaysIn first last).card = calendar.workingDaysBetween first last := by
  unfold workingDaysBetween workingDaysIn
  split
  next hlt => rw [Finset.Icc_eq_empty (not_le.mpr hlt), Finset.filter_empty, Finset.card_empty]
  next hle =>
    have hdays : ((List.range (last - first + 1).toNat).map fun i : ℕ => first + (i : ℤ)).toFinset =
        Finset.Icc first last := by
      ext day
      rw [List.mem_toFinset, mem_dayRange, Finset.mem_Icc]
    rw [← hdays, ← List.toFinset_filter, List.toFinset_card_of_nodup ((nodup_dayRange first last).filter _),
      ← List.countP_eq_length_filter, List.countP_map]
    simp only [Function.comp_def]

/-- The day is the `n`-th working day on or after a date. -/
structure IsNthWorkingDay (d : Date) (n : ℤ) (day : Date) : Prop where
  working : calendar.isWorkingDay day = true
  count : ((calendar.workingDaysIn d day).card : ℤ) = n

theorem workingDaysBetween_addWorkingDays (d : Date) {n : ℤ} (hn : 1 ≤ n) :
    (calendar.workingDaysBetween d (calendar.addWorkingDays d n) : ℤ) = n := by
  have hlast := calendar.boundedGaps.rank_succ_of_mem
    (calendar.isWorkingDay_workingDay (calendar.position d + n - 1))
  have hle : d ≤ calendar.workingDay (calendar.position d + n - 1) :=
    (calendar.le_workingDay_position d).trans (calendar.workingDay_le_workingDay.mpr (by omega))
  rw [calendar.addWorkingDays_of_pos d (by omega), calendar.workingDaysBetween_eq hle]
  simp only [position, workingDay, BoundedGaps.rank_nth] at hlast ⊢
  omega

theorem addWorkingDays_add (d : Date) {m n : ℤ} (hm : 1 ≤ m) (hn : 1 ≤ n) :
    calendar.addWorkingDays (calendar.addWorkingDays d m) n =
      calendar.addWorkingDays d (m + n - 1) := by
  rw [calendar.addWorkingDays_of_pos d (show 0 < m by omega),
    calendar.addWorkingDays_of_pos _ (show 0 < n by omega),
    calendar.addWorkingDays_of_pos d (show 0 < m + n - 1 by omega), position_workingDay]
  congr 1
  ring

/-- Going `n` days forward, counting the first, and `n - 1` back ends on the next working day. -/
theorem addWorkingDays_add_neg (d : Date) {n : ℤ} (hn : 1 ≤ n) :
    calendar.addWorkingDays (calendar.addWorkingDays d n) (-(n - 1)) =
      calendar.nextWorkingDay d true := by
  rw [calendar.nextWorkingDay_eq, calendar.addWorkingDays_of_pos d (show 0 < n by omega)]
  obtain rfl | hmore := eq_or_lt_of_le hn
  · rw [sub_self, neg_zero, addWorkingDays_zero, add_sub_cancel_right]
  · rw [calendar.addWorkingDays_of_neg _ (show -(n - 1) < 0 by omega), position_workingDay]
    congr 1
    ring

/-- Forward shifts count working days from the first one on. -/
theorem workingDay_laws (d : Date) {m n : ℤ} (hm : 1 ≤ m) (hn : 1 ≤ n) :
    calendar.IsNthWorkingDay d n (calendar.addWorkingDays d n) ∧
    calendar.workingDaysBetween d (calendar.addWorkingDays d n) = n ∧
    calendar.addWorkingDays (calendar.addWorkingDays d n) (-(n - 1)) =
      calendar.nextWorkingDay d true ∧
    calendar.addWorkingDays (calendar.addWorkingDays d m) n =
      calendar.addWorkingDays d (m + n - 1) ∧
    Monotone fun start => calendar.addWorkingDays start n := by
  have hcount := calendar.workingDaysBetween_addWorkingDays d hn
  refine ⟨⟨calendar.isWorkingDay_addWorkingDays d (by omega), ?_⟩, hcount,
    calendar.addWorkingDays_add_neg d hn, calendar.addWorkingDays_add d hm hn, ?_⟩
  · rw [card_workingDaysIn]
    exact hcount
  · exact fun _ _ h => calendar.addWorkingDays_mono h n

theorem workingDay_laws_overWeekend :
    weekdayCalendar.IsNthWorkingDay 6 2 (weekdayCalendar.addWorkingDays 6 2) ∧
    weekdayCalendar.workingDaysBetween 6 (weekdayCalendar.addWorkingDays 6 2) = (2 : ℤ) ∧
    weekdayCalendar.addWorkingDays (weekdayCalendar.addWorkingDays 6 2) (-(2 - 1)) =
      weekdayCalendar.nextWorkingDay 6 true ∧
    weekdayCalendar.addWorkingDays (weekdayCalendar.addWorkingDays 6 4) 2 =
      weekdayCalendar.addWorkingDays 6 (4 + 2 - 1) ∧
    Monotone fun start => weekdayCalendar.addWorkingDays start 2 :=
  weekdayCalendar.workingDay_laws 6 (by decide) (by decide)

end ProjectManager.WorkCalendarEngine

end
