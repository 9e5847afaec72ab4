import Chip8.Proofs.Machine.Frames
import Chip8.Proofs.Machine.Watch
import Chip8.Session
import Mathlib.Data.List.Forall2

/-!
# Those who watch a machine

The threshold of the notices, the listener and, as long as the loops are not started, the renderer make no
difference to what becomes of a machine.

* `framesOf_heardOf`, `messagesOf_heardOf`: the frames and the messages under two watches.
* `Machine.Agrees`, `Exchange.SameCourse`: what is the same of two machines and of two exchanges.
* `History.agrees_shownTo`: machines with two renderers.
* `same_course_of_observers`: whoever watches, the course is the same.
-/

namespace Chip8

variable {threshold threshold' : Level} {listener : Listener}

/-! ## What is heard -/

theorem framesOf_heard (event : Event) : framesOf (event.heard threshold listener) = framesOf [event] := by
  cases event with
  | notice said =>
    unfold Event.heard
    dsimp only
    split_ifs <;> rfl
  | frame screen => rfl
  | report trouble =>
    cases listener with
    | failing failure =>
      unfold Event.heard
      dsimp only
      split_ifs <;> rfl
    | _ => rfl

/-- Every watch sees the same frames. -/
theorem framesOf_heardOf (events : List Event) :
    framesOf (heardOf threshold listener events) = framesOf events := by
  induction events with
  | nil => rfl
  | cons event rest ih =>
    have hcons : framesOf (event :: rest) = framesOf [event] ++ framesOf rest :=
      framesOf_append [event] rest
    rw [hcons, ← ih, ← framesOf_heard event, ← framesOf_append]
    rfl

theorem Level.shows_of_rank_le (h : threshold.rank ≤ threshold'.rank) {level : Level}
    (hshown : threshold'.shows level = true) : threshold.shows level = true := by
  have hlevel : threshold'.rank ≤ level.rank := of_decide_eq_true hshown
  exact decide_eq_true (Nat.le_trans h hlevel)

theorem messagesOf_notice (h : threshold.rank ≤ threshold'.rank) (said : Notice) :
    Session.messagesOf (if threshold'.shows said.level then [.notice said] else []) =
      (Session.messagesOf (if threshold.shows said.level then [.notice said] else [])).filter
        fun message => threshold'.shows message.level := by
  by_cases hhigh : threshold'.shows said.level = true
  · have hlow : threshold.shows said.level = true := Level.shows_of_rank_le h hhigh
    rw [if_pos hhigh, if_pos hlow]
    exact (List.filter_eq_self.mpr (by simpa [Session.messagesOf, Notice.message] using hhigh)).symm
  · rw [if_neg hhigh]
    split_ifs
    · exact (List.filter_eq_nil_iff.mpr (by simpa [Session.messagesOf, Notice.message] using hhigh)).symm
    · rfl

theorem messagesOf_heard (h : threshold.rank ≤ threshold'.rank) (event : Event) :
    Session.messagesOf (event.heard threshold' listener) =
      (Session.messagesOf (event.heard threshold listener)).filter fun message =>
        threshold'.shows message.level := by
  cases event with
  | notice said => exact messagesOf_notice h said
  | frame screen => rfl
  | report trouble =>
    cases listener with
    | failing failure => exact messagesOf_notice h (.listenerFailed failure)
    | _ => rfl

/-- A higher threshold lets those messages through that are severe enough. -/
theorem messagesOf_heardOf (h : threshold.rank ≤ threshold'.rank) (events : List Event) :
    Session.messagesOf (heardOf threshold' listener events) =
      (Session.messagesOf (heardOf threshold listener events)).filter fun message =>
        threshold'.shows message.level := by
  unfold heardOf Session.messagesOf
  rw [List.filterMap_flatMap, List.filterMap_flatMap, List.filter_flatMap]
  exact congrArg (List.flatMap · events) (funext fun event => messagesOf_heard h event)

/-- The messages of a history. -/
def loggedOf (history : List Exchange) : List Message :=
  history.flatMap fun x => Session.messagesOf x.turn.events

/-! ## The same course -/

/-- The machines are the same inside. -/
structure Machine.Agrees (m m' : Machine) : Prop where
  processor : m.processor = m'.processor
  count : m.count = m'.count
  fault : m.fault = m'.fault
  running : m.running = m'.running

/-- The same comes of two exchanges in which the same is asked. -/
structure Exchange.SameCourse (x y : Exchange) : Prop where
  request : x.request = y.request
  result : x.turn.result = y.turn.result
  state : x.turn.state.Agrees y.turn.state
  frames : framesOf x.turn.events = framesOf y.turn.events

namespace Machine

variable {m m' : Machine} {renderer : Renderer} {request : Request} {turn turn' : Turn Machine Answer}

theorem sameCourse_watched (x : Exchange) (listener' : Listener) :
    (exchangeWatched threshold listener x).SameCourse (exchangeWatched threshold' listener' x) where
  request := rfl
  result := rfl
  state := ⟨rfl, rfl, rfl, rfl⟩
  frames := (framesOf_heardOf x.turn.events).trans (framesOf_heardOf x.turn.events).symm

theorem loggedOf_watched (h : threshold.rank ≤ threshold'.rank) (history : List Exchange) :
    loggedOf (history.map (exchangeWatched threshold' listener)) =
      (loggedOf (history.map (exchangeWatched threshold listener))).filter fun message =>
        threshold'.shows message.level := by
  unfold loggedOf
  rw [List.flatMap_map, List.flatMap_map, List.filter_flatMap]
  exact congrArg (List.flatMap · history) (funext fun x => messagesOf_heardOf h x.turn.events)

/-! ## Another renderer -/

/-- The machine with another renderer. -/
def shownTo (m : Machine) (renderer : Renderer) : Machine := { m with renderer }

theorem step_state_of_ok {q : Processor} {i : Instruction} (h : m.fault = none)
    (hstep : m.processor.step = .ok (q, i)) : m.step.state = m.advanced q := by
  cases hlost : m.lost? i with
  | none => rw [step_of_shown h hstep hlost]
  | some failure => rw [step_of_lost h hstep hlost]

theorem step_state_shownTo (m : Machine) (renderer : Renderer) :
    (m.shownTo renderer).step.state = m.step.state.shownTo renderer := by
  cases hfault : m.fault with
  | some cause =>
    rw [step_of_halted hfault, step_of_halted (m := m.shownTo renderer) hfault]
  | none =>
    cases hstep : m.processor.step with
    | error f =>
      rw [step_of_error hfault hstep, step_of_error (m := m.shownTo renderer) hfault hstep]
      rfl
    | ok made =>
      obtain ⟨q, i⟩ := made
      rw [step_state_of_ok hfault hstep, step_state_of_ok (m := m.shownTo renderer) hfault hstep]
      rfl

theorem reset_state_shownTo (m : Machine) (renderer : Renderer) (rom : Rom) :
    ((m.shownTo renderer).reset rom).state = (m.reset rom).state.shownTo renderer := by
  cases hboot : Processor.boot? m.settings.random rom with
  | none =>
    rw [reset_of_tooLarge hboot, reset_of_tooLarge (m := m.shownTo renderer) hboot]
    rfl
  | some p =>
    rw [reset_state hboot, reset_state (m := m.shownTo renderer) hboot]
    rfl

/-- Unless loops are started, a request leaves the same behind with another renderer. -/
theorem answers_shownTo (hanswer : m.Answers request turn)
    (hanswer' : (m.shownTo renderer).Answers request turn') (h : request ≠ .start) :
    turn'.state = turn.state.shownTo renderer := by
  obtain ⟨limit, hturn⟩ := hanswer
  obtain ⟨limit', hturn'⟩ := hanswer'
  cases request with
  | start => exact absurd rfl h
  | step =>
    cases hturn
    cases hturn'
    exact m.step_state_shownTo renderer
  | reset rom =>
    cases hturn
    cases hturn'
    exact m.reset_state_shownTo renderer rom
  | press number | release number =>
    cases hturn
    cases hturn'
    simp only [perform?.silent, Machine.press, Machine.release, withKey]
    cases Key.ofInt? number <;> rfl
  | tick | stop =>
    cases hturn
    cases hturn'
    rfl

variable {history history' : List Exchange} {last last' : Machine}

/-- Unless loops are started, machines with two renderers stay the same inside. -/
theorem History.agrees_shownTo (h : m.History history last)
    (h' : (m.shownTo renderer).History history' last')
    (hasked : history.map Exchange.request = history'.map Exchange.request)
    (hstart : .start ∉ history.map Exchange.request) :
    List.Forall₂ (fun x y => x.turn.state.Agrees y.turn.state) history history' := by
  induction h generalizing history' with
  | nil m =>
    cases h' with
    | nil => exact .nil
    | cons => cases hasked
  | @cons m request turn rest last hanswer hrest ih =>
    cases h' with
    | nil => cases hasked
    | @cons _ request' turn' rest' _ hanswer' hrest' =>
      obtain ⟨rfl, hothers⟩ := List.cons.inj hasked
      have hstate : turn'.state = turn.state.shownTo renderer :=
        answers_shownTo hanswer hanswer' (List.ne_of_not_mem_cons hstart).symm
      rw [hstate] at hrest'
      refine .cons ?_ (ih hrest' hothers (List.not_mem_of_not_mem_cons hstart))
      rw [hstate]
      exact ⟨rfl, rfl, rfl, rfl⟩

/-! ## Whoever watches -/

/-- If these requests are made in a row, this is the history. -/
def Course (m : Machine) (requests : List Request) (history : List Exchange) : Prop :=
  (∃ last, m.History history last) ∧ history.map Exchange.request = requests

theorem course_watched_iff (h : m.Open) {requests : List Request} :
    (m.watched threshold listener).Course requests history' ↔
      ∃ history, m.Course requests history ∧
        history' = history.map (exchangeWatched threshold listener) := by
  have hasked : ∀ history : List Exchange,
      (history.map (exchangeWatched threshold listener)).map Exchange.request =
        history.map Exchange.request := by
    intro history
    rw [List.map_map]
    rfl
  constructor
  · rintro ⟨⟨last', hhistory'⟩, hrequests⟩
    obtain ⟨history, last, hhistory, -, rfl⟩ := (history_watched_iff h).mp hhistory'
    exact ⟨history, ⟨⟨last, hhistory⟩, (hasked history).symm.trans hrequests⟩, rfl⟩
  · rintro ⟨history, ⟨⟨last, hhistory⟩, hrequests⟩, rfl⟩
    exact ⟨⟨_, (history_watched_iff h).mpr ⟨history, last, hhistory, rfl, rfl⟩⟩,
      (hasked history).trans hrequests⟩

/-- A watch does not decide what can be asked. -/
theorem exists_course_watched_iff (h : m.Open) {requests : List Request} :
    (∃ history, (m.watched threshold listener).Course requests history) ↔
      ∃ history, m.Course requests history := by
  constructor
  · rintro ⟨history', hcourse⟩
    obtain ⟨history, hplain, -⟩ := (course_watched_iff h).mp hcourse
    exact ⟨history, hplain⟩
  · rintro ⟨history, hplain⟩
    exact ⟨_, (course_watched_iff h).mpr ⟨history, hplain, rfl⟩⟩

theorem Course.unique {requests : List Request} (h : m.Course requests history)
    (h' : m.Course requests history') : history = history' := by
  obtain ⟨⟨last, hhistory⟩, hasked⟩ := h
  obtain ⟨⟨last', hhistory'⟩, hasked'⟩ := h'
  exact (hhistory.unique hhistory' (hasked.trans hasked'.symm)).1

theorem exists_course (m : Machine) {requests : List Request} (h : .start ∉ requests) :
    ∃ history, m.Course requests history := by
  obtain ⟨history, last, hhistory, hasked⟩ := m.exists_history requests h
  exact ⟨history, ⟨last, hhistory⟩, hasked⟩

/-- What a new machine is to one that says and tells everything. -/
theorem create_watched {rom : Rom} {random : RandomKey} {steps ticks : Rate} {threshold : Level}
    {renderer : Renderer} {listener : Listener}
    (hnew : create rom random steps ticks threshold renderer listener = .ok m) :
    ∃ plain : Machine, plain.Open ∧ m = plain.watched threshold listener ∧
      create rom random steps ticks .debug renderer .attentive = .ok plain := by
  obtain ⟨processor, stepPeriod, tickPeriod, hboot, hsteps, hticks, rfl⟩ := create_eq_ok_iff.mp hnew
  refine ⟨_, ⟨?_, ?_⟩, ?_, create_eq_ok_iff.mpr ⟨processor, stepPeriod, tickPeriod, hboot, hsteps,
    hticks, rfl⟩⟩
  all_goals rfl

theorem create_shownTo {rom : Rom} {random : RandomKey} {steps ticks : Rate} {threshold : Level}
    {renderer renderer' : Renderer} {listener : Listener}
    (hnew : create rom random steps ticks threshold renderer listener = .ok m)
    (hnew' : create rom random steps ticks threshold renderer' listener = .ok m') :
    m' = m.shownTo renderer' := by
  obtain ⟨p, stepPeriod, tickPeriod, hboot, hsteps, hticks, rfl⟩ := create_eq_ok_iff.mp hnew
  obtain ⟨p', stepPeriod', tickPeriod', hboot', hsteps', hticks', rfl⟩ := create_eq_ok_iff.mp hnew'
  cases hboot.symm.trans hboot'
  cases hsteps.symm.trans hsteps'
  cases hticks.symm.trans hticks'
  rfl

variable {requests : List Request}

/-- Under two watches the course is the same. -/
theorem sameCourse_of_open (h : m.Open) {listener' : Listener}
    (hcourse : (m.watched threshold listener).Course requests history)
    (hcourse' : (m.watched threshold' listener').Course requests history') :
    List.Forall₂ Exchange.SameCourse history history' ∧
      (listener = listener' → threshold.rank ≤ threshold'.rank →
        loggedOf history' =
          (loggedOf history).filter fun message => threshold'.shows message.level) := by
  obtain ⟨plain, hplain, rfl⟩ := (course_watched_iff h).mp hcourse
  obtain ⟨plain', hplain', rfl⟩ := (course_watched_iff h).mp hcourse'
  obtain rfl := hplain.unique hplain'
  constructor
  · rw [List.forall₂_map_left_iff, List.forall₂_map_right_iff]
    exact List.forall₂_same.mpr fun x _ => sameCourse_watched x listener'
  · rintro rfl hrank
    exact loggedOf_watched hrank plain

/-- Under two watches, and shown to two renderers, the machine stays the same inside. -/
theorem agrees_of_open (h : m.Open) {listener' : Listener} (hstart : .start ∉ requests)
    (hcourse : (m.watched threshold listener).Course requests history)
    (hcourse' : ((m.shownTo renderer).watched threshold' listener').Course requests history') :
    List.Forall₂ (fun x y => x.turn.state.Agrees y.turn.state) history history' := by
  have hshown : (m.shownTo renderer).Open := ⟨h.threshold, h.listener⟩
  obtain ⟨plain, ⟨⟨last, hplain⟩, hasked⟩, rfl⟩ := (course_watched_iff h).mp hcourse
  obtain ⟨plain', ⟨⟨last', hplain'⟩, hasked'⟩, rfl⟩ := (course_watched_iff hshown).mp hcourse'
  have hagree := hplain.agrees_shownTo hplain' (hasked.trans hasked'.symm) (hasked ▸ hstart)
  rw [List.forall₂_map_left_iff, List.forall₂_map_right_iff]
  exact hagree.imp fun x y hxy => ⟨hxy.processor, hxy.count, hxy.fault, hxy.running⟩

/-- **Those who watch change nothing.** Let two new machines be alike but for the threshold of their notices and
their listener. Then one of them can be asked for the same things as the other, and if it is, then each
answer, what is inside after it, and the screens that are shown are the same; with the same listener, the
messages of the machine with the higher threshold are those of the other one that are severe enough.
If they have different renderers as well, they can still be asked for everything but a start, and stay the
same inside. -/
theorem same_course_of_observers {rom : Rom} {random : RandomKey} {steps ticks : Rate}
    {threshold threshold' : Level} {renderer renderer' : Renderer} {listener listener' : Listener}
    (hnew : create rom random steps ticks threshold renderer listener = .ok m)
    (hnew' : create rom random steps ticks threshold' renderer' listener' = .ok m') :
    (renderer = renderer' → ∀ requests,
      ((∃ history, m.Course requests history) ↔ ∃ history, m'.Course requests history) ∧
      ∀ history history', m.Course requests history → m'.Course requests history' →
        List.Forall₂ Exchange.SameCourse history history' ∧
        (listener = listener' → threshold.rank ≤ threshold'.rank →
          loggedOf history' =
            (loggedOf history).filter fun message => threshold'.shows message.level)) ∧
    ∀ requests, .start ∉ requests →
      (∃ history, m.Course requests history) ∧ (∃ history, m'.Course requests history) ∧
      ∀ history history', m.Course requests history → m'.Course requests history' →
        List.Forall₂ (fun x y => x.turn.state.Agrees y.turn.state) history history' := by
  obtain ⟨plain, hopen, rfl, hplain⟩ := create_watched hnew
  obtain ⟨plain', hopen', rfl, hplain'⟩ := create_watched hnew'
  constructor
  · rintro rfl requests
    obtain rfl : plain = plain' := Except.ok.inj (hplain.symm.trans hplain')
    refine ⟨(exists_course_watched_iff hopen).trans (exists_course_watched_iff hopen).symm, ?_⟩
    intro history history' hcourse hcourse'
    exact sameCourse_of_open hopen hcourse hcourse'
  · intro requests hstart
    obtain rfl := create_shownTo hplain hplain'
    refine ⟨exists_course _ hstart, exists_course _ hstart, ?_⟩
    intro history history' hcourse hcourse'
    exact agrees_of_open hopen hstart hcourse hcourse'

/-- A loop ends with a fault, and the listener fails to hear of it. With everything said there are five
messages, two of which are severe enough to be said by a machine that speaks of errors only. -/
theorem same_course_of_observers_of_underflow :
    ∃ (failure : HostFailure) (m m' : Machine) (history history' : List Exchange),
      create [0x60, 0x05, 0x00, 0xEE] ⟨0, 7⟩ (.whole 1000) (.whole 60) .debug .faithful
        (.failing failure) = .ok m ∧
      create [0x60, 0x05, 0x00, 0xEE] ⟨0, 7⟩ (.whole 1000) (.whole 60) .error .faithful
        (.failing failure) = .ok m' ∧
      m.Course [.start, .step] history ∧ m'.Course [.start, .step] history' ∧
      (loggedOf history).map Message.level = [.info, .debug, .error, .info, .error] ∧
      List.Forall₂ Exchange.SameCourse history history' ∧
      loggedOf history' = (loggedOf history).filter fun message => Level.error.shows message.level := by
  have hrun : ((create [0x60, 0x05, 0x00, 0xEE] ⟨0, 7⟩ (.whole 1000) (.whole 60) .debug .faithful
      (.failing ⟨"ValueError", "lost", false⟩)).toOption.bind fun m =>
        (m.performAll? 2 [.start, .step]).map fun made => (loggedOf made.1).map Message.level) =
      some [.info, .debug, .error, .info, .error] := by decide +kernel
  obtain ⟨m, hm, hmade⟩ := Option.bind_eq_some_iff.mp hrun
  obtain ⟨⟨history, last⟩, hall, hlevels⟩ := Option.map_eq_some_iff.mp hmade
  obtain ⟨hhistory, hasked⟩ := history_of_performAll? hall
  have hcourse : m.Course [.start, .step] history := ⟨⟨last, hhistory⟩, hasked⟩
  have hother : (create [0x60, 0x05, 0x00, 0xEE] ⟨0, 7⟩ (.whole 1000) (.whole 60) .error .faithful
      (.failing ⟨"ValueError", "lost", false⟩)).toOption.isSome = true := by decide +kernel
  obtain ⟨m', hm'⟩ := Option.isSome_iff_exists.mp hother
  have hnew := eq_ok_of_toOption hm
  have hnew' := eq_ok_of_toOption hm'
  obtain ⟨hasks, hsame⟩ := (same_course_of_observers hnew hnew').1 rfl [.start, .step]
  obtain ⟨history', hcourse'⟩ := hasks.mp ⟨history, hcourse⟩
  obtain ⟨hall', hlog⟩ := hsame history history' hcourse hcourse'
  exact ⟨_, m, m', history, history', hnew, hnew', hcourse, hcourse', hlevels, hall',
    hlog rfl (by decide)⟩

end Machine

end Chip8
