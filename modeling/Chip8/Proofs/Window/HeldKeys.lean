import Chip8.Proofs.Processor.Footprint
import Chip8.Proofs.Window.Modes
import Mathlib.Data.List.DropRight

/-!
# The keys that a window holds down

Which keys of the keypad are held down is settled by the events since the program began anew: a key is down
when the latest event with its name was that it went down. All other events leave the keypad alone.

* `KeyName.isNameOf`: the names of a key; `WindowEvent.move?`: what an event does to a key.
* `Window.movesOf`: what became of a key since the program began anew.
* `Window.Ready`: what the keypad of a window relies on; `ready_of_handle?`: one event keeps it.
* `Course.holds_eq`: the keypad after many events.
* `pressed_iff_latest`: the keys of a window that is put around a new machine.
-/

namespace Chip8

/-! ## Names of keys -/

namespace Key

theorem character_injective : Function.Injective character := by
  unfold Function.Injective
  decide

/-- A text stands for the key whose character it is, in small letters or capitals. -/
theorem ofTyped?_eq_some_iff {typed : String} {key : Key} :
    ofTyped? typed = some key ↔ typed.toList.map Char.toLower = [key.character] := by
  have hfound : ∀ {key}, ofTyped? typed = some key →
      typed.toList.map Char.toLower = [key.character] := by
    intro key h
    simpa using List.find?_some h
  refine ⟨hfound, fun h => ?_⟩
  cases hother : ofTyped? typed with
  | none =>
    have hnone := List.find?_eq_none.mp hother key (List.mem_finRange key)
    exact absurd h (by simpa using hnone)
  | some other =>
    have hsame : [other.character] = [key.character] := (hfound hother).symm.trans h
    rw [character_injective (List.singleton_injective hsame)]

end Key

/-- Whether the name is the character of a key, in small letters or capitals. -/
def KeyName.isNameOf (key : Key) : KeyName → Bool
  | .typed text => text.toList.map Char.toLower = [key.character]
  | _ => false

theorem KeyName.key?_eq_some_iff {name : KeyName} {key : Key} :
    name.key? = some key ↔ name.isNameOf key = true := by
  cases name with
  | typed text => exact Key.ofTyped?_eq_some_iff.trans decide_eq_true_iff.symm
  | _ => exact iff_of_false nofun Bool.false_ne_true

/-- What an event does to a key: it goes down, it goes up, or nothing. -/
def WindowEvent.move? (key : Key) : WindowEvent → Option Bool
  | .keyDown name => if name.isNameOf key then some true else none
  | .keyUp name => if name.isNameOf key then some false else none
  | _ => none

/-- Only a step of the processor can come of a loop, and no step changes the keypad. -/
theorem LoopRun.keypad_eq {lost? : Instruction → Option HostFailure} {slow : Bool} {p q : Processor}
    {n : Nat} {ending : LoopEnd} (h : LoopRun lost? slow p n q ending) : q.keypad = p.keypad := by
  induction h with
  | fault hstep => rfl
  | lost hstep | wait _ hstep => exact (Processor.footprint_of_step hstep).1.keypad
  | next hslow hstep hshown hrest ih => exact ih.trans (Processor.footprint_of_step hstep).1.keypad

namespace Machine

variable {m : Machine} {limit : Nat} {started : Turn Machine (Except Refusal Unit)}

/-- A start leaves the keypad alone. -/
theorem keypad_of_start? (h : m.start? limit = some started) :
    started.state.processor.keypad = m.processor.keypad := by
  have hexit := exit_of_start h
  obtain ⟨last, events, result⟩ := started
  dsimp only at hexit ⊢
  generalize result.map (fun _ => none) = answer at hexit
  cases hexit with
  | start hfault hrest hrates hloop =>
    rw [left_processor, hloop.keypad_eq, processor_begun]
    split_ifs <;> rfl
  | _ => rfl

theorem result_of_start? (hfault : m.fault = none) (hrates : m.settings.zeroPeriod = false)
    (h : m.start? limit = some started) : started.result = .ok () := by
  cases hrunning : m.running with
  | true =>
    rw [start?_of_running hfault hrunning] at h
    cases h
    rfl
  | false =>
    rw [start?_of_rest hfault hrunning hrates] at h
    obtain ⟨begun, -, rfl⟩ := Option.map_eq_some_iff.mp h
    rfl

theorem mem_pressedKeys_iff {key : Key} :
    key ∈ m.pressedKeys ↔ m.processor.keypad.holds key = true := by
  rw [pressedKeys, Keypad.pressed, List.mem_filter]
  exact and_iff_right (List.mem_finRange key)

end Machine

namespace Window

variable {w last : Window} {settings : Settings} {limit : Nat} {key : Key}

/-- Whether a key of the machine is held down. -/
def holds (w : Window) (key : Key) : Bool := w.machine.processor.keypad.holds key

/-- What the window needs to begin anew, and to go on with it: a program that fits, its screens, and the settings
of its machine. -/
structure Ready (w : Window) (settings : Settings) : Prop where
  rom : w.rom.length ≤ 3584
  renderer : w.machine.renderer = .faithful
  settings : w.machine.settings = settings

/-! ## One event -/

theorem ready_of_start? (hready : w.Ready settings) {turn : Turn Window (Except Refusal Unit)}
    (h : w.start? limit = some turn) :
    turn.state.Ready settings ∧ turn.state.machine.processor.keypad = w.machine.processor.keypad ∧
      (w.machine.fault = none → settings.zeroPeriod = false → turn.result = .ok ()) := by
  obtain ⟨started, hstart, rfl⟩ := Option.map_eq_some_iff.mp h
  have hexit := Machine.exit_of_start hstart
  rw [absorb_eq]
  refine ⟨⟨hready.rom, hexit.renderer_eq.trans hready.renderer, hexit.settings_eq.trans hready.settings⟩,
    Machine.keypad_of_start? hstart, fun hfault hrates => ?_⟩
  rw [← hready.settings] at hrates
  exact Machine.result_of_start? hfault hrates hstart

theorem ready_of_togglePause? (hready : w.Ready settings) {turn : Turn Window (Except Refusal Unit)}
    (h : w.togglePause? limit = some turn) :
    (settings.zeroPeriod = false → turn.result = .ok ()) ∧ turn.state.Ready settings ∧
      turn.state.machine.processor.keypad = w.machine.processor.keypad := by
  unfold togglePause? at h
  split_ifs at h with hhalted hpaused
  · cases h
    exact ⟨fun _ => rfl, hready, rfl⟩
  · have hclean : w.machine.fault = none := by simpa [Machine.halted] using hhalted
    have hresumed : ({ w with paused := false } : Window).Ready settings :=
      ⟨hready.rom, hready.renderer, hready.settings⟩
    obtain ⟨hnext, hkeypad, hresult⟩ := ready_of_start? hresumed h
    exact ⟨hresult hclean, hnext, hkeypad⟩
  · dsimp only at h
    rw [stop_state] at h
    cases h
    exact ⟨fun _ => rfl, ⟨hready.rom, hready.renderer, hready.settings⟩, rfl⟩

/-- No key is held down after the program began anew, which is granted unless a rate is infinite. -/
theorem ready_of_restart? (hready : w.Ready settings) {turn : Turn Window (Except Refusal Unit)}
    (h : w.restart? limit = some turn) :
    (settings.zeroPeriod = false → turn.result = .ok ()) ∧ turn.state.Ready settings ∧
      turn.state.machine.processor.keypad = Keypad.released := by
  obtain ⟨p, hboot⟩ := Processor.exists_boot? w.machine.settings.random hready.rom
  have hreset := Machine.reset_of_shown hboot (congrArg Renderer.failure? hready.renderer)
  have hblank : p.keypad = Keypad.released := by
    obtain ⟨memory, rfl⟩ := Processor.boot?_eq_some hboot
    rfl
  unfold restart? at h
  rw [hreset] at h
  obtain ⟨started, hstart, hmade⟩ := Option.bind_eq_some_iff.mp h
  rw [absorb_eq] at hstart
  have hfresh : ∀ shown trouble paused,
      ({ w with machine := w.machine.restarted p, shown, trouble, paused } : Window).Ready settings :=
    fun shown trouble paused => ⟨hready.rom, hready.renderer, hready.settings⟩
  obtain ⟨hnext, hkeypad, hresult⟩ := ready_of_start? (hfresh _ _ _) hstart
  cases hstarted : started.result with
  | ok granted =>
    rw [hstarted] at hmade
    cases hmade
    exact ⟨fun _ => rfl, hnext, hkeypad.trans hblank⟩
  | error refusal =>
    rw [hstarted] at hmade hresult
    cases hmade
    exact ⟨fun hrates => absurd (hresult rfl hrates) nofun, hnext, hkeypad.trans hblank⟩

/-- Whether a key is held down after an event, when it was so before or not. -/
def heldAfter (key : Key) (down : Bool) (event : WindowEvent) : Bool :=
  if event = .keyDown .f2 then false else (event.move? key).getD down

theorem passKey_ready (hready : w.Ready settings) (name : KeyName)
    (change : Processor → Key → Processor) : (w.passKey name change).Ready settings := by
  obtain ⟨processor, hpass⟩ := w.passKey_eq name change
  rw [hpass]
  exact ⟨hready.rom, hready.renderer, hready.settings⟩

/-- A key that is passed on moves the key that it names. -/
theorem holds_passKey {change : Processor → Key → Processor} {down : Bool}
    (hchange : ∀ p other, (change p other).keypad = p.keypad.put other down) (name : KeyName) :
    (w.passKey name change).holds key =
      (if name.isNameOf key then some down else none).getD (w.holds key) := by
  unfold passKey
  cases hother : name.key? with
  | none =>
    have hno : ¬ name.isNameOf key = true := fun hname => by
      rw [KeyName.key?_eq_some_iff.mpr hname] at hother
      cases hother
    rw [if_neg hno]
    rfl
  | some other =>
    have hname : name.isNameOf key = true ↔ other = key := by
      rw [← KeyName.key?_eq_some_iff, hother, Option.some.injEq]
    show ((change w.machine.processor other).keypad).holds key = _
    rw [hchange, Keypad.holds_put]
    by_cases hsame : other = key
    · rw [if_pos hsame, if_pos (hname.mpr hsame)]
      rfl
    · rw [if_neg hsame, if_neg fun h => hsame (hname.mp h)]
      rfl

theorem ready_of_handle? (hready : w.Ready settings) {event : WindowEvent}
    {turn : Turn Window (Except Refusal Bool)} (h : w.handle? limit event = some turn) :
    (settings.zeroPeriod = false → turn.result = .ok event.closes) ∧ turn.state.Ready settings ∧
      ∀ key, turn.state.holds key = heldAfter key (w.holds key) event := by
  cases event with
  | quit | other =>
    cases h
    exact ⟨fun _ => rfl, hready, fun key => rfl⟩
  | keyUp name =>
    cases h
    exact ⟨fun _ => rfl, passKey_ready hready name _, fun key => holds_passKey (fun _ _ => rfl) name⟩
  | keyDown name =>
    cases name with
    | escape | f3 =>
      cases h
      exact ⟨fun _ => rfl, ⟨hready.rom, hready.renderer, hready.settings⟩, fun key => rfl⟩
    | f1 =>
      obtain ⟨toggled, htoggle, rfl⟩ := Option.map_eq_some_iff.mp h
      obtain ⟨hresult, hnext, hkeypad⟩ := ready_of_togglePause? hready htoggle
      refine ⟨fun hrates => ?_, hnext, fun key => ?_⟩
      · dsimp only
        rw [hresult hrates]
        rfl
      · rw [holds, hkeypad]
        rfl
    | f2 =>
      obtain ⟨restarted, hrestart, rfl⟩ := Option.map_eq_some_iff.mp h
      obtain ⟨hresult, hnext, hkeypad⟩ := ready_of_restart? hready hrestart
      refine ⟨fun hrates => ?_, hnext, fun key => ?_⟩
      · dsimp only
        rw [hresult hrates]
        rfl
      · rw [holds, hkeypad]
        exact Keypad.holds_released key
    | typed text =>
      cases h
      exact ⟨fun _ => rfl, passKey_ready hready (.typed text) _,
        fun key => holds_passKey (fun _ _ => rfl) (.typed text)⟩

/-! ## Many events -/

variable {course : List Handling} {events : List WindowEvent}

/-- What became of a key since the program began anew, or since the window was opened. -/
def movesOf (key : Key) (events : List WindowEvent) : List Bool :=
  (events.rtakeWhile fun event => event ≠ .keyDown .f2).filterMap (WindowEvent.move? key)

theorem movesOf_concat (key : Key) (past : List WindowEvent) (event : WindowEvent) :
    movesOf key (past ++ [event]) =
      if event = .keyDown .f2 then [] else movesOf key past ++ (event.move? key).toList := by
  unfold movesOf
  by_cases hf2 : event = .keyDown .f2
  · rw [if_pos hf2, List.rtakeWhile_concat_neg _ _ _ (by simpa using hf2)]
    rfl
  · rw [if_neg hf2, List.rtakeWhile_concat_pos _ _ _ (by simpa using hf2), List.filterMap_append]
    rfl

/-- The latest of these moves tells whether the key is held down. -/
theorem foldl_heldAfter (key : Key) (events : List WindowEvent) :
    events.foldl (heldAfter key) false = (movesOf key events).getLastD false := by
  induction events using List.reverseRecOn with
  | nil => rfl
  | append_singleton past event ih =>
    rw [List.foldl_append, ih, movesOf_concat]
    show heldAfter key _ event = _
    unfold heldAfter
    by_cases hf2 : event = .keyDown .f2
    · rw [if_pos hf2, if_pos hf2]
      rfl
    · rw [if_neg hf2, if_neg hf2]
      cases event.move? key with
      | none => rw [Option.toList_none, List.append_nil, Option.getD_none]
      | some down => rw [Option.toList_some, List.getLastD_concat, Option.getD_some]

/-- What many events come to, one after the other. -/
theorem ready_of_course (hready : w.Ready settings) (h : w.Course course last) :
    last.Ready settings ∧
      (settings.zeroPeriod = false → ∀ x ∈ course, x.turn.result = .ok x.event.closes) ∧
      ∀ key, last.holds key = (course.map Handling.event).foldl (heldAfter key) (w.holds key) := by
  induction h with
  | nil w => exact ⟨hready, fun _ x hx => absurd hx List.not_mem_nil, fun key => rfl⟩
  | cons hturn hrest ih =>
    obtain ⟨hresult, hnext, hkeys⟩ := ready_of_handle? hready hturn
    obtain ⟨hlast, hresults, hothers⟩ := ih hnext
    refine ⟨hlast, fun hrates x hx => ?_, fun key => ?_⟩
    · rcases List.mem_cons.mp hx with rfl | hx
      · exact hresult hrates
      · exact hresults hrates x hx
    · rw [hothers, hkeys]
      rfl

/-- The events of a turn are handled one after the other. -/
theorem course_of_handleAll? (hready : w.Ready settings) (hrates : settings.zeroPeriod = false)
    {turn : Turn Window (Except Refusal Bool)} (h : w.handleAll? limit events = some turn) :
    ∃ course, w.Course course turn.state ∧ course.map Handling.event = events ∧
      turn.result = .ok (events.any WindowEvent.closes) := by
  induction events generalizing w turn with
  | nil =>
    cases h
    exact ⟨[], .nil w, rfl, rfl⟩
  | cons event rest ih =>
    obtain ⟨first, hfirst, hmore⟩ := Option.bind_eq_some_iff.mp h
    obtain ⟨hresult, hnext, -⟩ := ready_of_handle? hready hfirst
    rw [hresult hrates] at hmore
    obtain ⟨others, hothers, hmade⟩ := Option.bind_eq_some_iff.mp hmore
    cases hmade
    obtain ⟨course, hcourse, hevents, hclosed⟩ := ih hnext hothers
    refine ⟨⟨w, event, first⟩ :: course, .cons hfirst hcourse, ?_, ?_⟩
    · rw [List.map_cons, hevents]
    · dsimp only
      rw [hclosed, List.any_cons]
      rfl

theorem course_of_turns? (hready : w.Ready settings) (hrates : settings.zeroPeriod = false)
    {batches : List (List WindowEvent)} {turn : Turn Window (Except Refusal (List Frame))}
    (h : w.turns? limit batches = some turn) :
    ∃ course frames, w.Course course turn.state ∧ course.map Handling.event = handledOf batches ∧
      turn.result = .ok frames := by
  induction batches generalizing w turn with
  | nil =>
    rw [turns?] at h
    obtain ⟨closing, hclosing, hmade⟩ := Option.bind_eq_some_iff.mp h
    cases hmade
    obtain ⟨course, hcourse, hevents, hclosed⟩ := course_of_handleAll? hready hrates hclosing
    refine ⟨course, [closing.state.view], hcourse, hevents, ?_⟩
    dsimp only
    rw [hclosed]
    rfl
  | cons events rest ih =>
    obtain ⟨first, hfirst, hmore⟩ := Option.bind_eq_some_iff.mp h
    obtain ⟨course, hcourse, hevents, hclosed⟩ := course_of_handleAll? hready hrates hfirst
    rw [hclosed] at hmore
    rw [handledOf]
    cases hcloses : events.any WindowEvent.closes with
    | true =>
      rw [hcloses] at hmore
      cases hmore
      exact ⟨course, _, hcourse, hevents, rfl⟩
    | false =>
      rw [hcloses] at hmore
      obtain ⟨others, hothers, hmade⟩ := Option.bind_eq_some_iff.mp hmore
      cases hmade
      obtain ⟨hnext, -⟩ := ready_of_course hready hcourse
      obtain ⟨more, frames, hmore, hhandled, hframes⟩ := ih hnext hothers
      refine ⟨course ++ more, first.state.view :: frames, hcourse.append hmore, ?_, ?_⟩
      · rw [List.map_append, hevents, hhandled]
        rfl
      · dsimp only
        rw [hframes]
        rfl

/-- A window around a new machine can begin its program anew if it fits, and no key is held down. -/
theorem ready_attach {rom program : Rom} {random : RandomKey} {steps ticks : Rate} {threshold : Level}
    {renderer : Renderer} {listener : Listener} {m : Machine}
    (hnew : Machine.create rom random steps ticks threshold renderer listener = .ok m)
    (hfits : program.length ≤ 3584) (scale : Int) (scheme : Scheme) (grid : Bool) :
    (attach m program scale scheme grid).Ready m.settings ∧
      (attach m program scale scheme grid).machine.fault = none ∧
      (attach m program scale scheme grid).machine.started = false ∧
      ∀ key, (attach m program scale scheme grid).holds key = false := by
  obtain ⟨processor, stepPeriod, tickPeriod, hboot, -, -, rfl⟩ := Machine.create_eq_ok_iff.mp hnew
  obtain ⟨memory, rfl⟩ := Processor.boot?_eq_some hboot
  exact ⟨⟨hfits, rfl, rfl⟩, rfl, rfl, Keypad.holds_released⟩

/-- **The latest event of a key tells whether it is held down.** Let a window be put around a new machine, with a
program that fits, and let it be opened. Then whatever events happen to it, a key of the machine is held down
exactly when there is an event with its name since the program began anew, or since the window was opened,
and the latest one is that it went down; and no event is refused, unless a rate is infinite. The same holds in
the end when the events happen turn by turn; with an infinite rate none of them is handled, and no key is
held down. To pass a key on is to press or to release it, which is always granted. -/
theorem pressed_iff_latest {rom program : Rom} {random : RandomKey} {steps ticks : Rate}
    {threshold : Level} {renderer : Renderer} {listener : Listener} {m : Machine} {scale : Int}
    {scheme : Scheme} {grid : Bool} {opened : Turn Window (Except Refusal Unit)}
    (hnew : Machine.create rom random steps ticks threshold renderer listener = .ok m)
    (hfits : program.length ≤ 3584)
    (hopen : (attach m program scale scheme grid).start? limit = some opened) :
    (∀ course last, opened.state.Course course last →
      (∀ key, key ∈ last.machine.pressedKeys ↔
        (movesOf key (course.map Handling.event)).getLast? = some true) ∧
      (m.settings.zeroPeriod = false → ∀ x ∈ course, x.turn.result = .ok x.event.closes)) ∧
    (∀ batches turn, (attach m program scale scheme grid).play? limit batches = some turn →
      (m.settings.zeroPeriod = false → (∃ frames, turn.result = .ok frames) ∧
        ∀ key, key ∈ turn.state.machine.pressedKeys ↔
          (movesOf key (handledOf batches)).getLast? = some true) ∧
      (m.settings.zeroPeriod = true → turn.result = .error .zeroPeriod ∧
        turn.state.machine.pressedKeys = [])) ∧
    ∀ (w : Window) (name : KeyName) (key : Key), name.isNameOf key = true →
      w.machine.press key = ⟨(w.passKey name Processor.press).machine, [], .ok ()⟩ ∧
      w.machine.release key = ⟨(w.passKey name Processor.release).machine, [], .ok ()⟩ := by
  obtain ⟨hready, hclean, hstarted, hup⟩ := ready_attach hnew hfits scale scheme grid
  obtain ⟨hopened, hkeypad, hgranted⟩ := ready_of_start? hready hopen
  have hstart : ∀ key, opened.state.holds key = false := fun key => by
    rw [holds, hkeypad]
    exact hup key
  have hcourse : ∀ course last, opened.state.Course course last → ∀ key,
      (key ∈ last.machine.pressedKeys ↔
        (movesOf key (course.map Handling.event)).getLast? = some true) := by
    intro course last h key
    obtain ⟨-, -, hkeys⟩ := ready_of_course hopened h
    have hlast : last.holds key = (movesOf key (course.map Handling.event)).getLastD false := by
      rw [hkeys, hstart, foldl_heldAfter]
    rw [Machine.mem_pressedKeys_iff, ← holds, hlast, List.getLastD_eq_getLast?]
    cases (movesOf key (course.map Handling.event)).getLast? <;> simp
  refine ⟨fun course last h => ⟨hcourse course last h, (ready_of_course hopened h).2.1⟩, ?_, ?_⟩
  · intro batches turn hplay
    constructor
    · intro hrates
      obtain ⟨opened', hopen', hmore⟩ := Option.bind_eq_some_iff.mp hplay
      cases hopen.symm.trans hopen'
      rw [hgranted hclean hrates] at hmore
      obtain ⟨played, hplayed, hmade⟩ := Option.bind_eq_some_iff.mp hmore
      cases hmade
      obtain ⟨course, frames, hhandled, hevents, hresult⟩ := course_of_turns? hopened hrates hplayed
      refine ⟨⟨frames, hresult⟩, fun key => ?_⟩
      dsimp only
      rw [stop_state, ← hevents]
      exact hcourse course played.state hhandled key
    · intro hzero
      cases hplay.symm.trans (play?_of_zeroPeriod hclean hstarted hzero limit batches)
      refine ⟨rfl, List.eq_nil_iff_forall_not_mem.mpr fun key hkey => ?_⟩
      exact absurd ((Machine.mem_pressedKeys_iff.mp hkey).symm.trans (hup key)) nofun
  · intro w name key hname
    have hkey : Key.ofInt? (key : Int) = some key := Key.ofInt?_eq_some_iff.mpr rfl
    have hpass : name.key? = some key := KeyName.key?_eq_some_iff.mpr hname
    constructor
    · simp only [Machine.press, Machine.withKey, hkey, passKey, hpass]
    · simp only [Machine.release, Machine.withKey, hkey, passKey, hpass]

/-- Two keys go down before the program begins anew, and one after it; then the machine is paused, and resumed it
runs into a fault. -/
theorem pressed_iff_latest_of_resumed :
    ∃ (m : Machine) (opened : Turn Window (Except Refusal Unit))
      (turn : Turn Window (Except Refusal (List Frame))),
      Machine.create [0x60, 0x01, 0x00, 0xEE] ⟨0, 0⟩ (.real 0.001) (.real 0.001) .info .absent .absent =
        .ok m ∧
      (attach m [0x60, 0x01, 0x00, 0xEE] 8 .classic false).start? 0 = some opened ∧
      (attach m [0x60, 0x01, 0x00, 0xEE] 8 .classic false).play? 0
        [[.keyDown (.typed "Q"), .keyDown (.typed "v"), .keyDown .f2], [.keyUp (.typed "v"),
          .keyDown (.typed "W"), .keyDown .f1, .keyUp .f1], [.keyDown .f1, .keyUp (.typed "left shift")]] =
        some turn ∧
      turn.state.machine.halted = true ∧ 5 ∈ turn.state.machine.pressedKeys ∧
      4 ∉ turn.state.machine.pressedKeys ∧ 0xF ∉ turn.state.machine.pressedKeys := by
  have hrun : ((Machine.create [0x60, 0x01, 0x00, 0xEE] ⟨0, 0⟩ (.real 0.001) (.real 0.001) .info .absent
      .absent).toOption.bind fun m =>
        ((attach m [0x60, 0x01, 0x00, 0xEE] 8 .classic false).start? 0).bind fun _ =>
          ((attach m [0x60, 0x01, 0x00, 0xEE] 8 .classic false).play? 0
            [[.keyDown (.typed "Q"), .keyDown (.typed "v"), .keyDown .f2], [.keyUp (.typed "v"),
              .keyDown (.typed "W"), .keyDown .f1, .keyUp .f1],
              [.keyDown .f1, .keyUp (.typed "left shift")]]).map fun turn =>
                (m.settings.zeroPeriod, turn.state.machine.halted)) = some (false, true) := by
    decide +kernel
  obtain ⟨m, hm, hopens⟩ := Option.bind_eq_some_iff.mp hrun
  obtain ⟨opened, hopen, hplays⟩ := Option.bind_eq_some_iff.mp hopens
  obtain ⟨turn, hplay, hlast⟩ := Option.map_eq_some_iff.mp hplays
  obtain ⟨hrates, hhalted⟩ := Prod.mk.inj hlast
  have hnew := Machine.eq_ok_of_toOption hm
  obtain ⟨-, hplayed, -⟩ := pressed_iff_latest hnew (by decide) hopen
  obtain ⟨-, hkeys⟩ := (hplayed _ turn hplay).1 hrates
  refine ⟨m, opened, turn, hnew, hopen, hplay, hhalted, ?_, ?_, ?_⟩
  · exact (hkeys 5).mpr (by decide)
  · exact fun hheld => absurd ((hkeys 4).mp hheld) (by decide)
  · exact fun hheld => absurd ((hkeys 0xF).mp hheld) (by decide)

end Window

end Chip8
