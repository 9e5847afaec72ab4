/-!
# Workers

A worker does one thing again and again, once at the start and then after each period. Seen over a time
shorter than its period it acts once for every start. Between two actions it waits, but a thread cannot be
told to wait for any length of time: with a period beyond that the worker breaks down at its first wait,
without a word to anyone.

* `Worker.running`: whether a worker is still at work.
* `Worker.start`, `Worker.stop`: what can be done to a worker.
-/

namespace Chip8

namespace Pacing

/-- The longest time for which a thread can be told to wait, in seconds. -/
def longestWait : Float := 9223372036.0

/-- Whether a wait for this time is too long to be followed to its end. -/
def isSlow (period : Float) : Bool := 10.0 ≤ period

end Pacing

/-- A worker. -/
structure Worker where
  /-- The seconds between two actions. -/
  period : Float
  /-- Whether the worker has been started, and not been stopped since. -/
  started : Bool

namespace Worker

/-- Whether the worker breaks down after its first action, as it cannot wait for the next one. -/
def breaksDown (w : Worker) : Bool := Pacing.isSlow w.period && Pacing.longestWait < w.period

/-- Whether the worker is still at work. -/
def running (w : Worker) : Bool := w.started && !w.breaksDown

/-- Whether the worker acts at once when it is started; a running one goes on undisturbed. -/
def actsAtStart (w : Worker) : Bool := !w.running

/-- Start the worker. -/
def start (w : Worker) : Worker := { w with started := true }

/-- Stop the worker. -/
def stop (w : Worker) : Worker := { w with started := false }

end Worker

end Chip8
