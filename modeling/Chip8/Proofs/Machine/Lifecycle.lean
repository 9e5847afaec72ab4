import Chip8.Proofs.Machine.Observers

/-!
# The lines of the log that tell of the loops

Whoever reads the log knows whether the loops run: they do when the latest line about them tells of a
start. Which lines these are is told by the words with which they begin.

A loop that breaks down at its first wait leaves no line behind. Then the log goes on telling that the loops run,
and the next start is told right after the one before.

* `Message.tellsStart`, `Message.tellsCount`, `Message.isLifecycle`: the lines that tell of the loops.
* `Machine.Passage`: what becomes of the loops in an exchange, and the notices that tell of it.
* `passage_of_answers`: every answer is such a passage.
* `Alternates`: lines that tell of starts and of ends by turns, where some of the ends may be left out.
* `lifecycle_of_history`: the lines of a history.
* `not_alternating_of_history`: a start may be told twice in a row.
-/

namespace Chip8

/-! ## Lines -/

/-- Whether the text of a message begins with these words. -/
def Message.begins (message : Message) (words : String) : Bool :=
  words.toList.isPrefixOf message.text.toList

/-- Whether the line tells that the loops start. -/
def Message.tellsStart (line : Message) : Bool := line.begins "Starting at "

/-- Whether the line tells after how many instructions the loops were stopped. -/
def Message.tellsCount (line : Message) : Bool := line.begins "Stopped after "

/-- Whether the line tells that the loops start or end. -/
def Message.isLifecycle (line : Message) : Bool :=
  line.tellsStart || line.tellsCount || line.begins "Step loop stopped"

namespace Notice

variable {notice : Notice}

/-- Whether the notice tells that the loops start. -/
def isStart : Notice → Bool
  | .starting .. => true
  | _ => false

/-- The words with which a notice begins. -/
def opening : Notice → String
  | .executed .. => "0x"
  | .halted .. => "Halted at 0x"
  | .starting .. => "Starting at "
  | .stopped _ => "Stopped after "
  | .loopEnded => "Step loop stopped"
  | .loopLost _ => "Step loop stopped by "
  | .listenerFailed _ => "on_error callback raised "
  | .restarted => "Reset"

theorem opening_prefix (notice : Notice) : notice.opening.toList <+: notice.text.toList := by
  cases notice with
  | loopEnded | restarted => exact List.prefix_rfl
  | _ =>
    unfold text opening
    simp only [String.toList_append, List.append_assoc]
    exact List.prefix_append _ _

/-- The opening of a notice settles whether it begins with the words of a line about the loops. -/
theorem begins_message (notice : Notice) {words : String}
    (h : words ∈ ["Starting at ", "Stopped after ", "Step loop stopped"]) :
    notice.message.begins words = words.toList.isPrefixOf notice.opening.toList := by
  -- The words are part of the opening, or one of its own letters is not theirs.
  have hsettled : words.toList.isPrefixOf notice.opening.toList = true ∨
      ¬ notice.opening.toList.isPrefixOf words.toList = true := by
    revert words
    cases notice <;> simp only [opening] <;> decide
  rw [Message.begins, Bool.eq_iff_iff]
  simp only [List.isPrefixOf_iff_prefix] at hsettled ⊢
  constructor
  · intro hbegins
    rcases List.prefix_or_prefix_of_prefix hbegins notice.opening_prefix with hwords | hopening
    · exact hwords
    · exact hsettled.resolve_right (not_not_intro hopening)
  · intro hwords
    exact hwords.trans notice.opening_prefix

theorem tellsStart_message (notice : Notice) : notice.message.tellsStart = notice.isStart := by
  rw [Message.tellsStart, begins_message _ (by simp)]
  cases notice <;> simp only [opening, isStart] <;> decide

theorem isLifecycle_message (notice : Notice) : notice.message.isLifecycle = notice.isLifecycle := by
  rw [Message.isLifecycle, tellsStart_message, Message.tellsCount, begins_message _ (by simp),
    begins_message _ (by simp)]
  cases notice <;> simp only [opening, isStart, isLifecycle] <;> decide

/-- Only one notice tells a number of instructions. -/
theorem eq_stopped_of_tellsCount (h : notice.message.tellsCount = true) :
    ∃ count, notice = .stopped count := by
  rw [Message.tellsCount, begins_message _ (by simp)] at h
  cases notice with
  | stopped count => exact ⟨count, rfl⟩
  | _ =>
    simp only [opening] at h
    exact absurd h (by decide)

end Notice

/-- Lines that tell of starts and of ends by turns, when the loops run or rest before and after them. Loops that
lapse may come to rest without a line. -/
inductive Alternates (lapses : Bool) : Bool → List Message → Bool → Prop where
  | nil (running : Bool) : Alternates lapses running [] running
  | cons {running line rest last} (hline : line.tellsStart = !running)
    (hrest : Alternates lapses (!running) rest last) : Alternates lapses running (line :: rest) last
  | lapse {lines last} (hlapses : lapses = true) (hrest : Alternates lapses false lines last) :
    Alternates lapses true lines last

namespace Alternates

variable {lapses before between after : Bool} {lines more : List Message} {line : Message}

theorem append (h : Alternates lapses before lines between) (hmore : Alternates lapses between more after) :
    Alternates lapses before (lines ++ more) after := by
  induction h with
  | nil running => exact hmore
  | cons hline hrest ih => exact .cons hline (ih hmore)
  | lapse hlapses hrest ih => exact .lapse hlapses (ih hmore)

/-- After a rest the first line tells of a start. -/
theorem tellsStart_of_rest (h : Alternates lapses false (line :: more) after) : line.tellsStart = true := by
  cases h with
  | cons hline => exact hline

/-- Where the loops have run, a line tells of an end, or they have lapsed before it. -/
theorem lapses_of_tellsStart (h : Alternates lapses true (line :: more) after)
    (hline : line.tellsStart = true) : lapses = true := by
  cases h with
  | cons hend => exact absurd (hline.symm.trans hend) nofun
  | lapse hlapses => exact hlapses

/-- No two ends follow each other, and two starts do only when loops lapse. -/
theorem isChain (h : Alternates lapses before lines after) :
    lines.IsChain fun line next => (line.tellsStart = true ∨ next.tellsStart = true) ∧
      (line.tellsStart = true → next.tellsStart = true → lapses = true) := by
  induction h with
  | nil => exact .nil
  | lapse hlapses hrest ih => exact ih
  | @cons running line rest last hline hrest ih =>
    cases rest with
    | nil => exact .singleton _
    | cons next rest =>
      refine .cons_cons ?_ ih
      cases running with
      | false => exact ⟨.inl hline, fun _ => hrest.lapses_of_tellsStart⟩
      | true =>
        refine ⟨.inr hrest.tellsStart_of_rest, fun hstart => ?_⟩
        exact absurd (hstart.symm.trans hline) nofun

/-- Loops that run in the end are told to have started by the latest line. -/
theorem tellsStart_of_running (h : Alternates lapses before lines after) (hafter : after = true) :
    (lines.map Message.tellsStart).getLastD before = true := by
  induction h with
  | nil => exact hafter
  | cons hline hrest ih =>
    rw [List.map_cons, List.getLastD_cons, hline]
    exact ih hafter
  | @lapse lines last hlapses hrest ih =>
    cases lines with
    | nil => rfl
    | cons line more => exact ih hafter

/-- The latest line tells what the loops do in the end, unless they lapse. -/
theorem eq_tellsStart (h : Alternates lapses before lines after) (hlapses : lapses = false) :
    after = (lines.map Message.tellsStart).getLastD before := by
  induction h with
  | nil => rfl
  | cons hline hrest ih => rw [ih, List.map_cons, List.getLastD_cons, hline]
  | lapse hlapsing => exact absurd (hlapses.symm.trans hlapsing) nofun

end Alternates

/-- The lines that tell of the loops, among those of a history. -/
def lifecycleLines (history : List Exchange) : List Message :=
  (loggedOf history).filter Message.isLifecycle

/-! ## Notices -/

/-- The notices that tell of the loops. -/
def lifecycleOf (events : List Event) : List Notice :=
  events.filterMap fun
    | .notice notice => if notice.isLifecycle then some notice else none
    | _ => none

@[simp] theorem lifecycleOf_nil : lifecycleOf [] = [] := rfl

@[simp] theorem lifecycleOf_append (events more : List Event) :
    lifecycleOf (events ++ more) = lifecycleOf events ++ lifecycleOf more :=
  List.filterMap_append

theorem lifecycleOf_notice (notice : Notice) :
    lifecycleOf [.notice notice] = if notice.isLifecycle then [notice] else [] := by
  simp only [lifecycleOf, List.filterMap_cons, List.filterMap_nil]
  split_ifs <;> rfl

/-- The lines that tell of the loops are those of the notices that do. -/
theorem filter_messagesOf (events : List Event) :
    (Session.messagesOf events).filter Message.isLifecycle =
      (lifecycleOf events).map Notice.message := by
  induction events with
  | nil => rfl
  | cons event rest ih =>
    have hmessages : Session.messagesOf (event :: rest) =
        Session.messagesOf [event] ++ Session.messagesOf rest :=
      List.filterMap_append (l := [event])
    have hlifecycle : lifecycleOf (event :: rest) = lifecycleOf [event] ++ lifecycleOf rest :=
      lifecycleOf_append [event] rest
    rw [hmessages, hlifecycle, List.filter_append, List.map_append, ih]
    congr 1
    cases event with
    | notice said =>
      have hone : Session.messagesOf [.notice said] = [said.message] := rfl
      rw [hone, List.filter_singleton, said.isLifecycle_message, lifecycleOf_notice]
      cases said.isLifecycle <;> rfl
    | frame screen | report trouble => rfl

namespace Machine

variable {m last : Machine} {request : Request} {turn : Turn Machine Answer}

/-- What becomes of the loops when a machine is asked for something, and the notices that tell of it. -/
inductive Passage (m : Machine) (request : Request) (last : Machine) : List Notice → Prop where
  | quiet (hsame : last.running = m.running) : Passage m request last []
  | stopped (hasked : request = .stop ∨ ∃ rom, request = .reset rom) (hrunning : m.running = true)
    (hrest : last.running = false) : Passage m request last [.stopped m.count]
  | started {steps ticks} (hrest : m.running = false) (hrunning : last.running = !m.stepper.breaksDown) :
    Passage m request last [.starting steps ticks]
  | ended {steps ticks ending} (hrest : m.running = false) (hlast : last.running = false)
    (hending : ending = .loopEnded ∨ ∃ failure, ending = .loopLost failure) :
    Passage m request last [.starting steps ticks, ending]

/-- The steps of a loop do not tell of it. -/
theorem lifecycleOf_during (m : Machine) (n : Nat) : lifecycleOf (m.during n) = [] := by
  refine List.filterMap_eq_nil_iff.mpr fun event hevent => ?_
  rcases mem_during hevent with ⟨place, i, rfl⟩ | ⟨screen, rfl⟩ <;> rfl

section Shown

variable (hinfo : m.settings.threshold.shows .info = true)

include hinfo

/-- The notices about the loops are severe enough to be shown. -/
theorem shows_of_isLifecycle {notice : Notice} (h : notice.isLifecycle = true) :
    m.settings.threshold.shows notice.level = true := by
  have hlevel : Level.info.rank ≤ notice.level.rank := by
    cases notice with
    | starting | stopped | loopEnded => exact Nat.le_refl 1
    | loopLost => exact Nat.le_add_left 1 2
    | _ => cases h
  exact decide_eq_true (Nat.le_trans (of_decide_eq_true hinfo) hlevel)

theorem lifecycleOf_say (notice : Notice) :
    lifecycleOf (m.say notice) = if notice.isLifecycle then [notice] else [] := by
  unfold say
  by_cases hshown : m.settings.threshold.shows notice.level = true
  · rw [if_pos hshown, lifecycleOf_notice]
  · have hother : ¬ notice.isLifecycle = true := fun h => hshown (shows_of_isLifecycle hinfo h)
    rw [if_neg hshown, if_neg hother]
    rfl

theorem lifecycleOf_tell (trouble : Trouble) : lifecycleOf (m.tell trouble) = [] := by
  unfold tell
  cases m.listener with
  | failing failure => exact lifecycleOf_say hinfo (.listenerFailed failure)
  | _ => rfl

/-- With a failure of the renderer comes one line about the loops. -/
theorem lifecycleOf_loss (failure : HostFailure) :
    ∃ ending : Notice, lifecycleOf (m.loss failure) = [ending] ∧
      (ending = .loopEnded ∨ ∃ failure, ending = .loopLost failure) := by
  unfold loss
  by_cases hown : failure.own = true
  · rw [if_pos hown, lifecycleOf_append, lifecycleOf_say hinfo, lifecycleOf_tell hinfo]
    exact ⟨_, rfl, .inl rfl⟩
  · rw [if_neg hown, lifecycleOf_say hinfo]
    exact ⟨_, rfl, .inr ⟨failure, rfl⟩⟩

theorem lifecycleOf_step : lifecycleOf m.step.events = [] := by
  cases hfault : m.fault with
  | some cause => rw [step_of_halted hfault, lifecycleOf_nil]
  | none =>
    cases hstep : m.processor.step with
    | error f =>
      rw [step_of_error hfault hstep, lifecycleOf_say hinfo]
      rfl
    | ok made =>
      obtain ⟨q, i⟩ := made
      have hduring := m.lifecycleOf_during 1
      cases hlost : m.lost? i with
      | none => rwa [step_of_shown hfault hstep hlost, ← during_shown hstep]
      | some failure => rwa [step_of_lost hfault hstep hlost, ← during_lost hstep hlost]

/-- After a stop the loops are at rest, and there is a notice if they were not before. -/
theorem passage_of_stop (hasked : request = .stop ∨ ∃ rom, request = .reset rom)
    (hrest : last.running = false) {events : List Event} (hevents : lifecycleOf events = []) :
    m.Passage request last (lifecycleOf (m.stop.events ++ events)) := by
  rw [lifecycleOf_append, hevents, List.append_nil, stop]
  dsimp only
  cases hrunning : m.running with
  | true =>
    rw [if_pos rfl, lifecycleOf_say hinfo]
    exact .stopped hasked hrunning hrest
  | false => exact .quiet (hrest.trans hrunning.symm)

theorem passage_of_reset (rom : Rom) :
    m.Passage (.reset rom) (m.reset rom).state (lifecycleOf (m.reset rom).events) := by
  have hstop : ∀ {last : Machine}, last.running = false →
      m.Passage (.reset rom) last (lifecycleOf m.stop.events) := by
    intro last hrest
    have h := passage_of_stop hinfo (.inr ⟨rom, rfl⟩) hrest lifecycleOf_nil
    rwa [List.append_nil] at h
  cases hboot : Processor.boot? m.settings.random rom with
  | none =>
    rw [reset_of_tooLarge hboot]
    exact hstop rfl
  | some p =>
    cases hlost : m.renderer.failure? with
    | some failure =>
      rw [reset_of_lost hboot hlost]
      exact hstop rfl
    | none =>
      rw [reset_of_shown hboot hlost]
      refine passage_of_stop hinfo (.inr ⟨rom, rfl⟩) rfl ?_
      unfold view
      cases (m.restarted p).renderer <;> rfl

/-- Loops that leave off tell of their end. Those that wait are still running, or break down without a line. -/
theorem passage_of_left (hrest : m.running = false) (n : Nat) (q : Processor) (ending : LoopEnd) :
    m.Passage .start (m.left n q ending)
      (lifecycleOf (m.say (.starting (1.0 / m.settings.stepPeriod) (1.0 / m.settings.tickPeriod)) ++
        (m.begun.during n ++ m.parting q ending))) := by
  rw [lifecycleOf_append, lifecycleOf_append, lifecycleOf_say hinfo, lifecycleOf_during]
  cases ending with
  | waiting => exact .started hrest rfl
  | lost failure =>
    obtain ⟨ending, hloss, hending⟩ := lifecycleOf_loss hinfo failure
    rw [parting, hloss]
    exact .ended hrest rfl hending
  | fault f =>
    rw [parting, lifecycleOf_append, lifecycleOf_append, lifecycleOf_say hinfo, lifecycleOf_say hinfo,
      lifecycleOf_tell hinfo]
    exact .ended hrest rfl (.inl rfl)

theorem passage_of_answers (hanswer : m.Answers request turn) :
    m.Passage request turn.state (lifecycleOf turn.events) := by
  obtain ⟨limit, hturn⟩ := hanswer
  cases request with
  | start =>
    cases hfault : m.fault with
    | some cause =>
      rw [perform?, start?_of_halted hfault] at hturn
      cases hturn
      exact .quiet rfl
    | none =>
      cases hrunning : m.running with
      | true =>
        rw [perform?, start?_of_running hfault hrunning] at hturn
        cases hturn
        exact .quiet rfl
      | false =>
        cases hrates : m.settings.zeroPeriod with
        | true =>
          obtain rfl := turn_of_zeroPeriod ⟨limit, hturn⟩ hfault hrunning hrates
          exact .quiet rfl
        | false =>
          obtain ⟨n, q, ending, -, rfl⟩ := turn_of_start ⟨limit, hturn⟩ hfault hrunning hrates
          exact passage_of_left hinfo hrunning n q ending
  | step =>
    cases hturn
    have hsame : ∀ {last answer}, m.Exit .step last answer → last.running = m.running := by
      intro last answer hexit
      cases hexit <;> rfl
    rw [lifecycleOf_step hinfo]
    exact .quiet (hsame m.exit_of_step)
  | reset rom =>
    cases hturn
    exact passage_of_reset hinfo rom
  | press number | release number =>
    cases hturn
    simp only [perform?.silent, Machine.press, Machine.release, withKey]
    cases Key.ofInt? number <;> exact .quiet rfl
  | tick =>
    cases hturn
    exact .quiet rfl
  | stop =>
    cases hturn
    have h : m.Passage .stop m.rest (lifecycleOf (m.stop.events ++ [])) :=
      passage_of_stop hinfo (.inl rfl) rfl lifecycleOf_nil
    rwa [List.append_nil] at h

end Shown

namespace Passage

variable {notices : List Notice}

theorem alternates (h : m.Passage request last notices) :
    Alternates m.stepper.breaksDown m.running (notices.map Notice.message) last.running := by
  cases h with
  | quiet hsame =>
    rw [hsame]
    exact .nil _
  | stopped _ hrunning hrest =>
    rw [hrunning, hrest]
    exact .cons (Notice.tellsStart_message _) (.nil _)
  | started hrest hrunning =>
    rw [hrest, hrunning]
    refine .cons (Notice.tellsStart_message _) ?_
    cases m.stepper.breaksDown with
    | false => exact .nil true
    | true => exact .lapse rfl (.nil false)
  | @ended steps ticks ending hrest hlast hending =>
    rw [hrest, hlast]
    refine .cons (Notice.tellsStart_message _) (.cons ?_ (.nil _))
    rw [Notice.tellsStart_message]
    rcases hending with rfl | ⟨failure, rfl⟩ <;> rfl

/-- The count that is told is the one the machine had when it was asked to stop. -/
theorem stopped_mem (h : m.Passage request last notices) {count : Nat}
    (hmem : Notice.stopped count ∈ notices) :
    (request = .stop ∨ ∃ rom, request = .reset rom) ∧ count = m.count := by
  cases h with
  | stopped hasked =>
    cases List.mem_singleton.mp hmem
    exact ⟨hasked, rfl⟩
  | ended _ _ hending => rcases hending with rfl | ⟨failure, rfl⟩ <;> simp at hmem
  | _ => simp at hmem

end Passage

/-- Each count that a line of an exchange tells is the count before the exchange, which was a stop or a
reset. -/
theorem text_of_tellsCount (hinfo : m.settings.threshold.shows .info = true)
    (hanswer : m.Answers request turn) {line : Message} (hline : line ∈ Session.messagesOf turn.events)
    (hcount : line.tellsCount = true) :
    (request = .stop ∨ ∃ rom, request = .reset rom) ∧
      line.text = "Stopped after " ++ Nat.repr m.count ++ " instructions" := by
  have hlifecycle : line.isLifecycle = true := by
    rw [Message.isLifecycle, hcount, Bool.or_true, Bool.true_or]
  have hmem : line ∈ (lifecycleOf turn.events).map Notice.message := by
    rw [← filter_messagesOf]
    exact List.mem_filter.mpr ⟨hline, hlifecycle⟩
  obtain ⟨notice, hnotice, rfl⟩ := List.mem_map.mp hmem
  obtain ⟨count, rfl⟩ := Notice.eq_stopped_of_tellsCount hcount
  obtain ⟨hasked, rfl⟩ := (passage_of_answers hinfo hanswer).stopped_mem hnotice
  exact ⟨hasked, rfl⟩

/-! ## Histories -/

variable {history : List Exchange}

theorem lifecycleLines_concat (past : List Exchange) (x : Exchange) :
    lifecycleLines (past ++ [x]) =
      lifecycleLines past ++ (lifecycleOf x.turn.events).map Notice.message := by
  rw [lifecycleLines, loggedOf, List.flatMap_append, List.filter_append, List.flatMap_singleton,
    filter_messagesOf]
  rfl

/-- The lines of a history tell of starts and ends by turns, where loops that break down lapse. -/
theorem alternates_of_history (hinfo : m.settings.threshold.shows .info = true)
    (h : m.History history last) :
    Alternates m.stepper.breaksDown m.running (lifecycleLines history) last.running ∧
      ∀ x ∈ history, ∀ line ∈ Session.messagesOf x.turn.events, line.tellsCount = true →
        (x.request = .stop ∨ ∃ rom, x.request = .reset rom) ∧
          line.text = "Stopped after " ++ Nat.repr x.before.count ++ " instructions" := by
  have hall := h.invariant (fun q past => q.settings = m.settings ∧
    Alternates m.stepper.breaksDown m.running (lifecycleLines past) q.running ∧
      ∀ x ∈ past, ∀ line ∈ Session.messagesOf x.turn.events, line.tellsCount = true →
        (x.request = .stop ∨ ∃ rom, x.request = .reset rom) ∧
          line.text = "Stopped after " ++ Nat.repr x.before.count ++ " instructions")
    ⟨rfl, .nil _, fun x hx => absurd hx List.not_mem_nil⟩ ?_
  · exact hall.2
  · rintro q past request turn ⟨hsettings, hlines, hcounts⟩ hanswer
    have hshows : q.settings.threshold.shows .info = true := by rwa [hsettings]
    refine ⟨?_, ?_, ?_⟩
    · rwa [(exit_of_answers hanswer).settings_eq]
    · have hmore := (passage_of_answers hshows hanswer).alternates
      rw [breaksDown_of_settings hsettings] at hmore
      rw [lifecycleLines_concat]
      exact hlines.append hmore
    · intro x hx line hline hcount
      rcases List.mem_append.mp hx with hx | hx
      · exact hcounts x hx line hline hcount
      · cases List.mem_singleton.mp hx
        exact text_of_tellsCount hshows hanswer hline hcount

/-- A start of a running machine changes nothing and tells nothing, and a stop of one at rest tells nothing. -/
theorem perform?_of_idle (m : Machine) (limit : Nat) :
    (m.running = true → ∃ result, m.perform? limit .start = some ⟨m, [], result⟩) ∧
      (m.running = false → m.perform? limit .stop = some ⟨m.rest, [], .ok none⟩) := by
  constructor
  · intro hrunning
    cases hfault : m.fault with
    | some cause =>
      rw [perform?, start?_of_halted hfault]
      exact ⟨_, rfl⟩
    | none =>
      rw [perform?, start?_of_running hfault hrunning]
      exact ⟨_, rfl⟩
  · intro hrest
    rw [perform?, stop, hrest]
    rfl

/-- **The log tells whether the loops run.** Let the threshold of a new machine let the lines about its loops
through. Then in every history the first of these lines tells of a start, and after an end comes a start; a
line that tells a count tells the one that the machine had before the stop or the reset at which it came. The
loops run exactly when the latest line tells of a start and they do not break down at their first wait. When
they do break down, and only then, a start can come right after a start. To start a running machine changes
nothing and leaves no line. To stop one at rest leaves no line, and changes nothing unless the loops have
broken down. -/
theorem lifecycle_of_history {rom : Rom} {random : RandomKey} {steps ticks : Rate} {threshold : Level}
    {renderer : Renderer} {listener : Listener}
    (hnew : create rom random steps ticks threshold renderer listener = .ok m)
    (hinfo : threshold.shows .info = true) (h : m.History history last) :
    (last.running = true ↔ m.stepper.breaksDown = false ∧
      ∃ line, (lifecycleLines history).getLast? = some line ∧ line.tellsStart = true) ∧
    (∀ line ∈ (lifecycleLines history).head?, line.tellsStart = true) ∧
    ((lifecycleLines history).IsChain fun line next =>
      (line.tellsStart = true ∨ next.tellsStart = true) ∧
        (line.tellsStart = true → next.tellsStart = true → m.stepper.breaksDown = true)) ∧
    (∀ x ∈ history, ∀ line ∈ Session.messagesOf x.turn.events, line.tellsCount = true →
      (x.request = .stop ∨ ∃ rom, x.request = .reset rom) ∧
        line.text = "Stopped after " ++ Nat.repr x.before.count ++ " instructions") ∧
    ∀ limit, (last.running = true → ∃ result, last.perform? limit .start = some ⟨last, [], result⟩) ∧
      (last.running = false → last.perform? limit .stop = some ⟨last.rest, [], .ok none⟩ ∧
        (m.stepper.breaksDown = false → last.rest = last)) := by
  have hsettings : last.settings = m.settings :=
    h.invariant (fun q _ => q.settings = m.settings) rfl fun _ _ _ _ hq hanswer =>
      (exit_of_answers hanswer).settings_eq.trans hq
  have hbreaks := breaksDown_of_settings hsettings
  obtain ⟨processor, stepPeriod, tickPeriod, -, -, -, rfl⟩ := create_eq_ok_iff.mp hnew
  obtain ⟨hlines, hcounts⟩ := alternates_of_history hinfo h
  refine ⟨?_, ?_, hlines.isChain, hcounts, fun limit => ?_⟩
  · have hlatest : (∃ line, (lifecycleLines history).getLast? = some line ∧ line.tellsStart = true) ↔
        ((lifecycleLines history).map Message.tellsStart).getLastD false = true := by
      rw [List.getLastD_eq_getLast?, List.getLast?_map]
      cases (lifecycleLines history).getLast? <;> simp
    rw [hlatest]
    constructor
    · intro hrunning
      refine ⟨?_, hlines.tellsStart_of_running hrunning⟩
      by_contra hbroken
      have hrest := running_of_breaksDown (hbreaks.trans (Bool.of_not_eq_false hbroken))
      exact absurd (hrunning.symm.trans hrest) nofun
    · rintro ⟨hwaits, hstart⟩
      exact (hlines.eq_tellsStart hwaits).trans hstart
  · cases hall : lifecycleLines history with
    | nil => exact fun line hline => absurd hline nofun
    | cons line more =>
      rintro _ ⟨⟩
      rw [hall] at hlines
      exact hlines.tellsStart_of_rest
  · obtain ⟨hstart, hstop⟩ := last.perform?_of_idle limit
    refine ⟨hstart, fun hrest => ⟨hstop hrest, fun hwaits => ?_⟩⟩
    exact rest_of_not_started (started_of_waits (hbreaks.trans hwaits) hrest)

/-- Two starts and two stops in a row, a loop that ends with a fault, and a reset of a running machine. -/
theorem lifecycle_of_history_of_underflow :
    ∃ (m last : Machine) (history : List Exchange),
      create [0x60, 0x01, 0x60, 0x02] ⟨0, 0⟩ (.real 0.001) (.real 0.001) .info .faithful
        (.failing ⟨"ValueError", "Starting at once", false⟩) = .ok m ∧
      m.History history last ∧
      history.map Exchange.request =
        [.start, .start, .step, .stop, .stop, .start, .reset [0x60, 0x01], .start, .reset []] ∧
      (lifecycleLines history).map Message.text =
        ["Starting at 0 steps/s, timers at 0 Hz", "Stopped after 2 instructions",
          "Starting at 0 steps/s, timers at 0 Hz", "Step loop stopped",
          "Starting at 0 steps/s, timers at 0 Hz", "Stopped after 1 instructions"] ∧
      m.stepper.breaksDown = false ∧
      ((lifecycleLines history).IsChain fun line next =>
        (line.tellsStart = true ∨ next.tellsStart = true) ∧
          (line.tellsStart = true → next.tellsStart = true → m.stepper.breaksDown = true)) ∧
      (last.running = true ↔ m.stepper.breaksDown = false ∧
        ∃ line, (lifecycleLines history).getLast? = some line ∧ line.tellsStart = true) := by
  have hrun : ((create [0x60, 0x01, 0x60, 0x02] ⟨0, 0⟩ (.real 0.001) (.real 0.001) .info .faithful
      (.failing ⟨"ValueError", "Starting at once", false⟩)).toOption.bind fun m =>
        (m.performAll? 0 [.start, .start, .step, .stop, .stop, .start, .reset [0x60, 0x01], .start,
          .reset []]).map fun made =>
            ((lifecycleLines made.1).map Message.text, m.stepper.breaksDown)) =
      some (["Starting at 0 steps/s, timers at 0 Hz", "Stopped after 2 instructions",
        "Starting at 0 steps/s, timers at 0 Hz", "Step loop stopped",
        "Starting at 0 steps/s, timers at 0 Hz", "Stopped after 1 instructions"], false) := by
    decide +kernel
  obtain ⟨m, hm, hmade⟩ := Option.bind_eq_some_iff.mp hrun
  obtain ⟨⟨history, last⟩, hall, hlast⟩ := Option.map_eq_some_iff.mp hmade
  obtain ⟨htexts, hwaits⟩ := Prod.mk.inj hlast
  obtain ⟨hhistory, hasked⟩ := history_of_performAll? hall
  have hnew := eq_ok_of_toOption hm
  obtain ⟨hrunning, -, hchain, -⟩ := lifecycle_of_history hnew (by decide) hhistory
  exact ⟨m, last, history, hnew, hhistory, hasked, htexts, hwaits, hchain, hrunning⟩

/-- With steps a hundred thousand million seconds apart it is not so that the loops run when the latest line tells
of a start, nor that starts and ends are told by turns. -/
theorem not_alternating_of_history :
    ∃ (m last : Machine) (history : List Exchange),
      create [0x12, 0x00] ⟨0, 0⟩ (.real 1e-11) (.whole 60) .info .absent .absent = .ok m ∧
      m.History history last ∧ history.map Exchange.request = [.start, .start] ∧
      (lifecycleLines history).map Message.text =
        ["Starting at 0 steps/s, timers at 60 Hz", "Starting at 0 steps/s, timers at 60 Hz"] ∧
      (∃ line, (lifecycleLines history).getLast? = some line ∧ line.tellsStart = true) ∧
      last.running = false ∧
      ¬ (lifecycleLines history).IsChain fun line next => next.tellsStart = !line.tellsStart := by
  have hrun : ((create [0x12, 0x00] ⟨0, 0⟩ (.real 1e-11) (.whole 60) .info .absent .absent).toOption.bind
      fun m => (m.performAll? 0 [.start, .start]).map fun made =>
        ((lifecycleLines made.1).map Message.text, (lifecycleLines made.1).map Message.tellsStart,
          made.2.running)) =
      some (["Starting at 0 steps/s, timers at 60 Hz", "Starting at 0 steps/s, timers at 60 Hz"],
        [true, true], false) := by decide +kernel
  obtain ⟨m, hm, hmade⟩ := Option.bind_eq_some_iff.mp hrun
  obtain ⟨⟨history, last⟩, hall, hlast⟩ := Option.map_eq_some_iff.mp hmade
  obtain ⟨htexts, hlast⟩ := Prod.mk.inj hlast
  obtain ⟨hstarts, hrest⟩ := Prod.mk.inj hlast
  obtain ⟨hhistory, hasked⟩ := history_of_performAll? hall
  obtain ⟨line, rest, hlines, hline, hstart⟩ := List.map_eq_cons_iff.mp hstarts
  obtain ⟨next, rest, rfl, hnext, hnil⟩ := List.map_eq_cons_iff.mp hstart
  cases List.map_eq_nil_iff.mp hnil
  refine ⟨m, last, history, eq_ok_of_toOption hm, hhistory, hasked, htexts, ?_, hrest, ?_⟩
  · rw [hlines]
    exact ⟨next, rfl, hnext⟩
  · rw [hlines]
    simp [hline, hnext]

end Machine

end Chip8
