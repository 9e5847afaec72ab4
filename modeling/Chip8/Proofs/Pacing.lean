import Chip8.Pacing.Deadline
import Mathlib.Algebra.Order.Field.Rat
import Mathlib.Algebra.Order.Field.Basic
import Mathlib.Tactic.Linarith
import Mathlib.Tactic.NormNum
import Mathlib.Tactic.Ring

/-!
# Paced loops on an exact clock

On a clock without rounding, a loop that is paced by deadlines neither falls behind nor makes up for lost time.
The deadlines lie one period apart, so a delay is gone with the next wait; only when an action ends more than a
period late are the deadlines moved, and then all that was missed is dropped at once.

* `Round.ended`, `Round.Due`: the end of an action, and the deadline after it.
* `roundsFrom_cons`: the first round of a loop, and the loop that is left.
* `InPace`: what is so of every round.
* `countP_within_le`: how many actions begin within a length of time.
* `rounds_in_pace`: all of it.
-/

namespace Chip8.Pacing

variable {period now deadline due : ℚ} {action : ℚ × ℚ} {actions rest : List (ℚ × ℚ)}
  {round : Round ℚ}

/-! ## Deadlines -/

theorem nextDeadline_of_le (h : now ≤ deadline + period + period) :
    nextDeadline period deadline now = deadline + period :=
  if_neg (by linarith)

theorem nextDeadline_of_lt (h : deadline + period + period < now) :
    nextDeadline period deadline now = now :=
  if_pos (by linarith)

theorem waitFor_eq_max (deadline now : ℚ) : waitFor deadline now = max 0 (deadline - now) := by
  unfold waitFor
  split_ifs with h
  · exact (max_eq_right h.le).symm
  · exact (max_eq_left (not_lt.mp h)).symm

/-! ## One round -/

/-- The time when an action ends that begins with the round. -/
def Round.ended (round : Round ℚ) (action : ℚ × ℚ) : ℚ := round.calledAt + action.1

/-- The deadline after the round, and the wait until then. It is one period later, unless the action ended more
than a period after that; then it is the end of the action. -/
structure Round.Due (round : Round ℚ) (period : ℚ) (action : ℚ × ℚ) (due : ℚ) : Prop where
  wait : round.wait = max 0 (due - round.ended action)
  le : round.deadline + period ≤ due
  kept : round.ended action ≤ round.deadline + period + period → due = round.deadline + period
  moved : round.deadline + period + period < round.ended action → due = round.ended action

theorem due_nextDeadline (hperiod : 0 < period) (now deadline : ℚ) (action : ℚ × ℚ) :
    let ended := now + action.1
    let due := nextDeadline period deadline ended
    (⟨now, deadline, waitFor due ended⟩ : Round ℚ).Due period action due where
  wait := waitFor_eq_max _ _
  le := by
    rcases le_or_gt (now + action.1) (deadline + period + period) with h | h
    · exact (nextDeadline_of_le h).ge
    · rw [nextDeadline_of_lt h]
      show deadline + period ≤ _
      linarith
  kept := nextDeadline_of_le
  moved := nextDeadline_of_lt

namespace Round.Due

theorem wait_nonneg (h : round.Due period action due) : 0 ≤ round.wait := by
  rw [h.wait]
  exact le_max_left _ _

/-- The next action begins at the deadline or later, since no wake-up is early. -/
theorem le_resumed (h : round.Due period action due) (hlate : 0 ≤ action.2) :
    due ≤ round.ended action + (round.wait + action.2) := by
  have hwait : due - round.ended action ≤ round.wait := by
    rw [h.wait]
    exact le_max_right _ _
  linarith

/-- The next deadline is at most a period before the end of the action. -/
theorem ended_le (h : round.Due period action due) (hperiod : 0 < period) :
    round.ended action ≤ due + period := by
  rcases le_or_gt (round.ended action) (round.deadline + period + period) with hin | hlate
  · linarith [h.le]
  · linarith [h.moved hlate]

theorem wait_le (h : round.Due period action due) (hperiod : 0 < period)
    (hbegun : round.deadline ≤ round.ended action) : round.wait ≤ period := by
  rw [h.wait]
  refine max_le hperiod.le ?_
  rcases le_or_gt (round.ended action) (round.deadline + period + period) with hin | hlate
  · linarith [h.kept hin]
  · linarith [h.moved hlate]

end Round.Due

/-- The first round of a loop, and the loop that is left. -/
theorem roundsFrom_cons (hperiod : 0 < period) (now deadline : ℚ) (action : ℚ × ℚ)
    (rest : List (ℚ × ℚ)) :
    ∃ round due, round.calledAt = now ∧ round.deadline = deadline ∧ round.Due period action due ∧
      roundsFrom period now deadline (action :: rest) =
        round :: roundsFrom period (round.ended action + (round.wait + action.2)) due rest :=
  ⟨_, _, rfl, rfl, due_nextDeadline hperiod now deadline action, rfl⟩

/-! ## All rounds -/

/-- No action takes less than no time, and no wake-up is early. -/
def Forward (actions : List (ℚ × ℚ)) : Prop := ∀ action ∈ actions, 0 ≤ action.1 ∧ 0 ≤ action.2

theorem Forward.head (h : Forward (action :: rest)) : 0 ≤ action.1 ∧ 0 ≤ action.2 :=
  h action List.mem_cons_self

theorem Forward.tail (h : Forward (action :: rest)) : Forward rest :=
  fun other hother => h other (List.mem_cons_of_mem action hother)

/-- The wait is never longer than a period, and the action begins at its deadline or later. The deadline of the
round with number `n` is at least `n` periods after the start. -/
structure InPace (period start : ℚ) (n : Nat) (round : Round ℚ) : Prop where
  wait_nonneg : 0 ≤ round.wait
  wait_le : round.wait ≤ period
  deadline_le : round.deadline ≤ round.calledAt
  start_le : start + n * period ≤ round.deadline

theorem length_roundsFrom (period now deadline : ℚ) (actions : List (ℚ × ℚ)) :
    (roundsFrom period now deadline actions).length = actions.length := by
  induction actions generalizing now deadline with
  | nil => rfl
  | cons action rest ih => exact congrArg (· + 1) (ih _ _)

theorem inPace_roundsFrom (hperiod : 0 < period) (hforward : Forward actions) (hbegun : deadline ≤ now)
    {i : Nat} (h : (roundsFrom period now deadline actions)[i]? = some round) :
    InPace period deadline i round := by
  induction actions generalizing now deadline i with
  | nil => cases h
  | cons action rest ih =>
    obtain ⟨first, due, hcalled, hdeadline, hdue, hrounds⟩ :=
      roundsFrom_cons hperiod now deadline action rest
    obtain ⟨hduration, hlate⟩ := hforward.head
    rw [hrounds] at h
    cases i with
    | zero =>
      cases h
      have hended : round.deadline ≤ round.ended action := by
        rw [Round.ended, hcalled, hdeadline]
        linarith
      refine ⟨hdue.wait_nonneg, hdue.wait_le hperiod hended, ?_, ?_⟩
      · rwa [hcalled, hdeadline]
      · rw [hdeadline]
        simp
    | succ i =>
      have hpace := ih hforward.tail (hdue.le_resumed hlate) h
      refine ⟨hpace.wait_nonneg, hpace.wait_le, hpace.deadline_le, ?_⟩
      have hstart := hpace.start_le
      have hle := hdue.le
      push_cast
      linarith

theorem head_roundsFrom (h : (roundsFrom period now deadline actions)[0]? = some round) :
    round.calledAt = now ∧ round.deadline = deadline := by
  cases actions with
  | nil => cases h
  | cons action rest =>
    cases h
    exact ⟨rfl, rfl⟩

/-- Each round has a deadline after it, which is that of the next round. -/
theorem exists_due (hperiod : 0 < period) {i : Nat}
    (hround : (roundsFrom period now deadline actions)[i]? = some round)
    (haction : actions[i]? = some action) :
    ∃ due, round.Due period action due ∧
      ∀ next, (roundsFrom period now deadline actions)[i + 1]? = some next →
        next.deadline = due ∧ next.calledAt = round.ended action + (round.wait + action.2) := by
  induction actions generalizing now deadline i with
  | nil => cases haction
  | cons other rest ih =>
    obtain ⟨first, due, -, -, hdue, hrounds⟩ := roundsFrom_cons hperiod now deadline other rest
    rw [hrounds] at hround ⊢
    cases i with
    | zero =>
      cases hround
      cases haction
      exact ⟨due, hdue, fun next hnext => (head_roundsFrom hnext).symm⟩
    | succ i => exact ih hround haction

/-- While no action ends more than a period after the deadline that is to come, the deadlines are one period
apart. -/
theorem deadline_of_in_time (hperiod : 0 < period) {n : Nat}
    (hround : (roundsFrom period now deadline actions)[n]? = some round)
    (hin : ∀ i < n, ∀ earlier action, (roundsFrom period now deadline actions)[i]? = some earlier →
      actions[i]? = some action → earlier.ended action ≤ earlier.deadline + period + period) :
    round.deadline = deadline + n * period := by
  induction n generalizing round with
  | zero =>
    rw [(head_roundsFrom hround).2]
    simp
  | succ n ih =>
    have hlt : n + 1 < actions.length := by
      rw [← length_roundsFrom period now deadline actions]
      exact (List.getElem?_eq_some_iff.mp hround).1
    obtain ⟨earlier, hearlier⟩ : ∃ earlier, (roundsFrom period now deadline actions)[n]? = some earlier :=
      ⟨_, List.getElem?_eq_getElem (by rw [length_roundsFrom]; omega)⟩
    obtain ⟨action, haction⟩ : ∃ action, actions[n]? = some action :=
      ⟨_, List.getElem?_eq_getElem (by omega)⟩
    obtain ⟨due, hdue, hnext⟩ := exists_due hperiod hearlier haction
    have hbefore := ih hearlier fun i hi => hin i (by omega)
    rw [(hnext round hround).1, hdue.kept (hin n (by omega) earlier action hearlier haction), hbefore]
    push_cast
    ring

/-! ## How many actions begin -/

/-- The actions that begin up to a time: the deadlines are a period apart, and none begins before its own. -/
theorem countP_until_le (hperiod : 0 < period) (hforward : Forward actions) (hbegun : deadline ≤ now)
    (last : ℚ) :
    ((roundsFrom period now deadline actions).countP fun round => round.calledAt ≤ last) * period ≤
      max 0 (last - deadline + period) := by
  induction actions generalizing now deadline with
  | nil => simp [roundsFrom]
  | cons action rest ih =>
    obtain ⟨first, due, hcalled, hdeadline, hdue, hrounds⟩ :=
      roundsFrom_cons hperiod now deadline action rest
    have hle := hdue.le
    rw [hdeadline] at hle
    have hrest := ih hforward.tail (hdue.le_resumed hforward.head.2)
    rw [hrounds]
    by_cases hin : first.calledAt ≤ last
    · rw [List.countP_cons_of_pos (by simpa using hin), Nat.cast_succ, add_mul, one_mul]
      have hshift : max 0 (last - due + period) ≤ last - deadline :=
        max_le (by linarith) (by linarith)
      exact le_max_of_le_right (by linarith)
    · rw [List.countP_cons_of_neg (by simpa using hin)]
      exact hrest.trans (max_le_max le_rfl (by linarith))

theorem countP_within_le_until (first last : ℚ) (rounds : List (Round ℚ)) :
    (rounds.countP fun round => first ≤ round.calledAt ∧ round.calledAt ≤ last) ≤
      rounds.countP fun round => round.calledAt ≤ last := by
  refine List.countP_mono_left fun round _ h => ?_
  rw [decide_eq_true_iff] at h ⊢
  exact h.2

/-- The actions that begin within a length of time: beside the one for each period there are at most three. -/
theorem countP_within_le (hperiod : 0 < period) (hforward : Forward actions) (hbegun : deadline ≤ now)
    {first last : ℚ} (hlength : first ≤ last) :
    ((roundsFrom period now deadline actions).countP
      fun round => first ≤ round.calledAt ∧ round.calledAt ≤ last) * period ≤
      last - first + 3 * period := by
  induction actions generalizing now deadline with
  | nil =>
    simp only [roundsFrom, List.countP_nil, Nat.cast_zero, zero_mul]
    linarith
  | cons action rest ih =>
    obtain ⟨round, due, -, -, hdue, hrounds⟩ := roundsFrom_cons hperiod now deadline action rest
    obtain ⟨hduration, hlate⟩ := hforward.head
    have hresumed := hdue.le_resumed hlate
    rw [hrounds]
    by_cases hin : first ≤ round.calledAt ∧ round.calledAt ≤ last
    · -- no deadline to come is more than a period before the end of this action
      have hsoon : first - period ≤ due := by
        have hended := hdue.ended_le hperiod
        unfold Round.ended at hended
        linarith [hin.1]
      have hbound : max 0 (last - due + period) ≤ last - first + 2 * period :=
        max_le (by linarith) (by linarith)
      have huntil := (countP_until_le hperiod hforward.tail hresumed last).trans hbound
      have hfewer := countP_within_le_until first last
        (roundsFrom period (round.ended action + (round.wait + action.2)) due rest)
      have hrest := (mul_le_mul_of_nonneg_right (Nat.cast_le.mpr hfewer) hperiod.le).trans huntil
      rw [List.countP_cons_of_pos (by simpa using hin), Nat.cast_succ, add_mul, one_mul]
      linarith
    · rw [List.countP_cons_of_neg (by simpa using hin)]
      exact ih hforward.tail hresumed

/-! ## The loop -/

/-- **A paced loop neither drifts nor bursts.** The first action begins at the start, which is its deadline. Each
round waits for a period at most, and its action begins at its deadline or later, which is at least its number of
periods after the start. The next deadline is one period later, unless the action ended more than a period after
that; then it is the end of the action. As long as no action ends so late, the deadlines are those of an
undisturbed clock. And whatever the delays before, within a length of time at most three more actions begin
than it has periods. -/
theorem rounds_in_pace (hperiod : 0 < period) (hforward : Forward actions) (start : ℚ) :
    (rounds period start actions).length = actions.length ∧
    (∀ round, (rounds period start actions)[0]? = some round →
      round.calledAt = start ∧ round.deadline = start) ∧
    (∀ (i : Nat) round, (rounds period start actions)[i]? = some round → InPace period start i round) ∧
    (∀ (i : Nat) round action, (rounds period start actions)[i]? = some round → actions[i]? = some action →
      ∃ due, round.Due period action due ∧
        ∀ next, (rounds period start actions)[i + 1]? = some next →
          next.deadline = due ∧ next.calledAt = round.ended action + (round.wait + action.2)) ∧
    (∀ (n : Nat) round, (rounds period start actions)[n]? = some round →
      (∀ i < n, ∀ earlier action, (rounds period start actions)[i]? = some earlier →
        actions[i]? = some action → earlier.ended action ≤ earlier.deadline + period + period) →
      round.deadline = start + n * period) ∧
    ∀ first length : ℚ, 0 ≤ length →
      ((rounds period start actions).countP fun round =>
        first ≤ round.calledAt ∧ round.calledAt ≤ first + length : ℚ) ≤ length / period + 3 := by
  refine ⟨length_roundsFrom period start start actions, fun round => head_roundsFrom,
    fun i round => inPace_roundsFrom hperiod hforward le_rfl, fun i round action => exists_due hperiod,
    fun n round => deadline_of_in_time hperiod, fun first length hlength => ?_⟩
  have hend : first ≤ first + length := le_add_of_nonneg_right hlength
  have hcount := countP_within_le hperiod hforward (le_refl start) hend
  have hthree : length / period + 3 = (length + 3 * period) / period := by
    rw [add_div, mul_div_cancel_right₀ _ hperiod.ne']
  rw [hthree, le_div_iff₀ hperiod]
  refine hcount.trans ?_
  linarith

/-- The second of three actions ends a period and a half after the deadline that was to come. -/
theorem rounds_in_pace_of_late :
    let actions : List (ℚ × ℚ) := [(1 / 2, 0), (7 / 2, 1 / 4), (0, 0)]
    ∃ second third : Round ℚ, (0 : ℚ) < 1 ∧ Forward actions ∧
      (rounds 1 0 actions)[1]? = some second ∧ second.deadline = 1 ∧
      second.ended (7 / 2, 1 / 4) = 9 / 2 ∧ (rounds 1 0 actions)[2]? = some third ∧
      third.deadline = 9 / 2 ∧ third.calledAt = 19 / 4 ∧ third.wait ≤ 1 ∧
      ((rounds 1 0 actions).countP fun round =>
        0 ≤ round.calledAt ∧ round.calledAt ≤ 0 + 1 : ℚ) ≤ 1 / 1 + 3 := by
  intro actions
  have hperiod : (0 : ℚ) < 1 := one_pos
  have hforward : Forward actions := by norm_num [Forward, actions]
  have hsecond : (rounds 1 0 actions)[1]? = some ⟨1, 1, 0⟩ := by
    norm_num [actions, rounds, roundsFrom, nextDeadline, waitFor]
  obtain ⟨hlength, -, hpace, hdue, -, hburst⟩ := rounds_in_pace hperiod hforward 0
  obtain ⟨third, hthird⟩ : ∃ third, (rounds 1 0 actions)[2]? = some third :=
    ⟨_, List.getElem?_eq_getElem (by rw [hlength]; decide)⟩
  obtain ⟨due, hlate, hnext⟩ := hdue 1 _ (7 / 2, 1 / 4) hsecond rfl
  obtain ⟨hdeadline, hcalled⟩ := hnext third hthird
  have hended : (⟨1, 1, 0⟩ : Round ℚ).ended (7 / 2, 1 / 4) = 9 / 2 := by norm_num [Round.ended]
  have hmoved : due = 9 / 2 := (hlate.moved (by rw [hended]; norm_num)).trans hended
  refine ⟨_, third, hperiod, hforward, hsecond, rfl, hended, hthird, hdeadline.trans hmoved, ?_,
    (hpace 2 third hthird).wait_le, hburst 0 1 zero_le_one⟩
  rw [hcalled, hended]
  norm_num

end Chip8.Pacing
