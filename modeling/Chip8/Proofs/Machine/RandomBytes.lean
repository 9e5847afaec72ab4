import Chip8.Proofs.Machine.Work
import Chip8.Proofs.Processor.RandomStream

/-!
# The random bytes of a machine

Each reset begins the stream of random bytes anew, and from then on it moves with the draws that are
completed. So machines with one key draw the same bytes, whatever their programs are and whatever else
happens to them.

* `Machine.drawsOf`: the draws since the latest reset.
* `draws_of_history`: which bytes are drawn.
-/

namespace Chip8

namespace Machine

variable {m last : Machine} {history : List Exchange}

/-- The draws since the latest reset, the first one first. -/
def drawsOf (history : List Exchange) : List Draw := gatheredOf Processor.draw history

theorem takesFrom_of_create {rom : Rom} {random : RandomKey} {steps ticks : Rate} {threshold : Level}
    {renderer : Renderer} {listener : Listener}
    (hnew : create rom random steps ticks threshold renderer listener = .ok m)
    (h : m.History history last) :
    last.processor.random = random.after (drawsOf history).length ∧
      TakesFrom random 0 (drawsOf history) := by
  obtain ⟨start, ⟨first, hboot⟩, hrun, -, hgathered⟩ := worked_of_history hnew h
  obtain ⟨memory, hfresh⟩ := Processor.boot?_eq_some hboot
  have hkey : start.random = random.after 0 := by
    rw [hfresh]
    rfl
  obtain ⟨hend, htakes⟩ := Processor.draws_of_run (workOf history) hkey
  rw [Nat.zero_add] at hend
  rw [drawsOf, hgathered, hrun]
  exact ⟨hend, htakes⟩

theorem length_drawsOf {rom : Rom} {random : RandomKey} {steps ticks : Rate} {threshold : Level}
    {renderer : Renderer} {listener : Listener}
    (hnew : create rom random steps ticks threshold renderer listener = .ok m)
    (h : m.History history last) :
    (drawsOf history).length = (stepsOf history).countP Executed.random := by
  obtain ⟨start, hworked⟩ := worked_of_history hnew h
  rw [hworked.stepsOf_eq, drawsOf, hworked.gathered]
  exact start.length_draws (workOf history)

/-- **Which bytes are drawn.** Let a new machine have gone through any history. Then the key is the one after as
many draws as there were since the latest reset, and these are the completed steps that drew a byte. Each
of them stored the byte at its position in the stream of the first key, less the bits outside its
mask, and changed no other register. Hence with the same key every other machine that draws at this
position draws this byte too, whatever its program, its rates and its observers are, and whatever else
happens to it. -/
theorem draws_of_history {rom : Rom} {random : RandomKey} {steps ticks : Rate} {threshold : Level}
    {renderer : Renderer} {listener : Listener}
    (hnew : create rom random steps ticks threshold renderer listener = .ok m)
    (h : m.History history last) :
    last.processor.random = random.after (drawsOf history).length ∧
    (drawsOf history).length = (stepsOf history).countP Executed.random ∧
    (∀ j (d : Draw), (drawsOf history)[j]? = some d →
      d.Takes random j ∧ d.after.register d.register &&& ~~~d.mask = 0) ∧
    ∀ (rom' : Rom) (steps' ticks' : Rate) (threshold' : Level) (renderer' : Renderer)
      (listener' : Listener) (m' last' : Machine) (history' : List Exchange),
      create rom' random steps' ticks' threshold' renderer' listener' = .ok m' →
      m'.History history' last' →
      ∀ (j : Nat) (d d' : Draw), (drawsOf history)[j]? = some d → (drawsOf history')[j]? = some d' →
        ∃ byte, d.after.register d.register = byte &&& d.mask ∧
          d'.after.register d'.register = byte &&& d'.mask := by
  obtain ⟨hkey, htakes⟩ := takesFrom_of_create hnew h
  refine ⟨hkey, length_drawsOf hnew h, fun j d hd => ?_, ?_⟩
  · have hd := htakes j d hd
    rw [Nat.zero_add] at hd
    exact ⟨hd, hd.masked⟩
  · intro rom' steps' ticks' threshold' renderer' listener' m' last' history' hnew' h' j d d' hd hd'
    obtain ⟨-, htakes'⟩ := takesFrom_of_create hnew' h'
    exact ⟨_, (htakes j d hd).register_eq, (htakes' j d' hd').register_eq⟩

/-- A program draws two bytes in a loop that ends with a fault. Another program with the same key does
something else first, and draws a byte after a tick. -/
theorem draws_of_history_of_masks :
    ∃ (m m' last last' : Machine) (history history' : List Exchange) (d d' : Draw) (byte : UInt8),
      create [0xC3, 0x0F, 0xC4, 0xFF, 0x00, 0xEE] ⟨0, 7⟩ (.whole 1000) (.whole 60) .info .faithful .absent =
        .ok m ∧
      create [0x61, 0x05, 0xC5, 0xF8] ⟨0, 7⟩ (.whole 500) (.whole 60) .debug .absent .attentive = .ok m' ∧
      m.History history last ∧ m'.History history' last' ∧
      (drawsOf history).length = 2 ∧ last.processor.random = RandomKey.after ⟨0, 7⟩ 2 ∧
      (drawsOf history)[0]? = some d ∧ (drawsOf history')[0]? = some d' ∧
      d.after.register 3 = byte &&& 0x0F ∧ d'.after.register 5 = byte &&& 0xF8 := by
  have hrun : ((create [0xC3, 0x0F, 0xC4, 0xFF, 0x00, 0xEE] ⟨0, 7⟩ (.whole 1000) (.whole 60) .info
      .faithful .absent).toOption.bind fun m => (m.performAll? 3 [.start]).map fun made =>
        (drawsOf made.1).map fun d => (d.register, d.mask)) = some [(3, 0x0F), (4, 0xFF)] := by
    decide +kernel
  have hrun' : ((create [0x61, 0x05, 0xC5, 0xF8] ⟨0, 7⟩ (.whole 500) (.whole 60) .debug .absent
      .attentive).toOption.bind fun m => (m.performAll? 0 [.step, .tick, .step]).map fun made =>
        (drawsOf made.1).map fun d => (d.register, d.mask)) = some [(5, 0xF8)] := by
    decide +kernel
  obtain ⟨m, hm, hmade⟩ := Option.bind_eq_some_iff.mp hrun
  obtain ⟨⟨history, last⟩, hall, hdraws⟩ := Option.map_eq_some_iff.mp hmade
  obtain ⟨d, rest, hsplit, hd, -⟩ := List.map_eq_cons_iff.mp hdraws
  obtain ⟨m', hm', hmade'⟩ := Option.bind_eq_some_iff.mp hrun'
  obtain ⟨⟨history', last'⟩, hall', hdraws'⟩ := Option.map_eq_some_iff.mp hmade'
  obtain ⟨d', rest', hsplit', hd', -⟩ := List.map_eq_cons_iff.mp hdraws'
  obtain ⟨hregister, hmask⟩ := Prod.mk.inj hd
  obtain ⟨hregister', hmask'⟩ := Prod.mk.inj hd'
  have hnew := eq_ok_of_toOption hm
  have hnew' := eq_ok_of_toOption hm'
  obtain ⟨hhistory, -⟩ := history_of_performAll? hall
  obtain ⟨hhistory', -⟩ := history_of_performAll? hall'
  obtain ⟨hkey, -, -, hsame⟩ := draws_of_history hnew hhistory
  have hlength : (drawsOf history).length = 2 := by
    simpa using congrArg List.length hdraws
  have hfirst : (drawsOf history)[0]? = some d := by
    rw [hsplit]
    rfl
  have hfirst' : (drawsOf history')[0]? = some d' := by
    rw [hsplit']
    rfl
  obtain ⟨byte, hbyte, hbyte'⟩ :=
    hsame _ _ _ _ _ _ m' last' history' hnew' hhistory' 0 d d' hfirst hfirst'
  rw [hregister, hmask] at hbyte
  rw [hregister', hmask'] at hbyte'
  rw [hlength] at hkey
  exact ⟨m, m', last, last', history, history', d, d', byte, hnew, hnew', hhistory, hhistory', hlength,
    hkey, hfirst, hfirst', hbyte, hbyte'⟩

end Machine

end Chip8
