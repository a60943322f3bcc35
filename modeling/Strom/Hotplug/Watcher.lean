import Mathlib.Logic.Function.Basic
import Strom.Effects.Run
import Strom.Go.Strings

/-!
# The hotplug watcher (`internal/hotplug`)

Kernel messages are read by one loop and turned into events by another.  The read
loop leaves a trigger in a channel with room for one; the debounce loop starts a
timer, or starts it again, for every trigger it takes, and sends an event when the
timer has expired.  The consumer may take its time.

A `Watcher` is the place of each loop in its code, and what they share.
-/

namespace Strom.Hotplug

open Strom.Go Strom.Effects

/-! ## Messages (`message.go`) -/

/-- `values` with a field read into it. -/
def parseField (values : Bytes → Option Bytes) (field : Bytes) : Bytes → Option Bytes :=
  match field.span (· ≠ '='.toUInt8) with
  | ([], _) => values
  | (_, []) => values
  | (key, _ :: value) => Function.update values key (some value)

def parseMessage (message : Bytes) : Bytes → Option Bytes :=
  (message.splitOn 0).foldl parseField fun _ => none

/-- A field, or the empty text where it is missing. -/
def valueOf (values : Bytes → Option Bytes) (key : String) : Bytes := (values (utf8 key)).getD []

def isRelevantMessage (message : Bytes) : Bool :=
  let values := parseMessage message
  if valueOf values "SUBSYSTEM" ≠ utf8 "usb" then false
  else
    let action := valueOf values "ACTION"
    action = utf8 "add" || action = utf8 "remove"

example : isRelevantMessage (utf8 "ACTION=add\x00SUBSYSTEM=usb\x00") = true := by decide

/-! ## The state -/

structure Event where
  time : Int
  synthetic : Bool := false
deriving DecidableEq, Repr

inductive Timer where
  | armed
  /-- Expired, and its value not yet received. -/
  | fired
  /-- Stopped, or expired and its value received. -/
  | idle
deriving DecidableEq, Repr

/-- `timer.Stop()`.  Up to Go 1.22 the value of a timer that has expired stays in its channel
    (`keeps`); since then nothing can be received after `Stop`. -/
def Timer.stop (keeps : Bool) : Timer → Bool × Timer
  | .armed => (true, .idle)
  | .fired => if keeps then (false, .fired) else (true, .idle)
  | .idle => (false, .idle)

inductive ReadLoop where
  /-- At the `select` on the context. -/
  | checking
  /-- In `conn.ReadMessage`. -/
  | reading
  | deciding (message : Bytes)
  | ended
deriving DecidableEq

inductive DebounceLoop where
  /-- Sends the first event. -/
  | greeting (event : Event)
  | selecting
  /-- A trigger has been received, and a timer runs. -/
  | stopping
  /-- `Stop` has returned false. -/
  | draining
  | resetting
  /-- Sends the event of an expired timer. -/
  | sending (event : Event)
  | ended
deriving DecidableEq

/-- What the watcher did, as seen from outside. -/
inductive Entry where
  | received (message : Bytes)
  | delivered (event : Event)
deriving DecidableEq

structure Watcher where
  reader : ReadLoop := .checking
  debounce : DebounceLoop
  /-- There is a trigger in the channel `triggers`. -/
  buffered : Bool := false
  /-- `triggers` is closed. -/
  closed : Bool := false
  /-- `triggersCh` is not nil. -/
  watching : Bool := true
  /-- `timer`; `timerChannel` is its channel, or nil where it is nil. -/
  timer : Option Timer := none
  cancelled : Bool := false
  log : List Entry := []
deriving DecidableEq

/-- `Events` has started the loops. -/
def start (now : Int) : Watcher where
  debounce := .greeting { time := now, synthetic := true }

/-! ## The loops (`watcher.go`) -/

inductive Move where
  | check
  | message (message : Bytes)
  | readError
  | offer
  | receiveTrigger
  | stopTimer
  | drainTimer
  | resetTimer
  /-- The time of the timer has come. -/
  | expire
  | receiveTime (now : Int)
  /-- The consumer receives the event that is being sent. -/
  | deliver
  | cancel
  /-- The debounce loop sees that the context is cancelled. -/
  | giveUp
deriving DecidableEq

namespace Watcher

/-- The read loop returns, and its deferred call closes `triggers`. -/
def endReader (w : Watcher) : Watcher := { w with reader := .ended, closed := true }

/-- `case _, ok := <-triggersCh`, as far as the next wait. -/
def receiveTrigger (w : Watcher) : Option Watcher :=
  if w.debounce ≠ .selecting ∨ w.watching = false then none
  else if w.buffered then
    match w.timer with
    | none => some { w with buffered := false, timer := some .armed }
    | some _ => some { w with buffered := false, debounce := .stopping }
  else if w.closed then
    match w.timer with
    | none => some { w with debounce := .ended }
    | some _ => some { w with watching := false }
  else none

/-- `if !timer.Stop()`. -/
def stopTimer (keeps : Bool) (w : Watcher) : Option Watcher :=
  match w.debounce, w.timer with
  | .stopping, some timer =>
    some { w with
      timer := some (timer.stop keeps).2
      debounce := if (timer.stop keeps).1 then .resetting else .draining }
  | _, _ => none

/-- The consumer receives an event; the loop goes on behind the send. -/
def deliver (w : Watcher) : Option Watcher :=
  match w.debounce with
  | .greeting event => some { w with log := w.log ++ [.delivered event], debounce := .selecting }
  | .sending event =>
    some { w with
      log := w.log ++ [.delivered event]
      timer := none
      debounce := if w.watching then .selecting else .ended }
  | _ => none

def giveUp (w : Watcher) : Option Watcher :=
  match w.cancelled, w.debounce with
  | true, .greeting _ => some { w with debounce := .ended }
  | true, .selecting | true, .sending _ =>
    some { w with debounce := .ended, timer := w.timer.map fun _ => .idle }
  | _, _ => none

def step (keeps : Bool) (w : Watcher) : Move → Option Watcher
  | .check =>
    if w.reader ≠ .checking then none
    else if w.cancelled then some w.endReader
    else some { w with reader := .reading }
  | .message message =>
    if w.reader ≠ .reading then none
    else some { w with reader := .deciding message, log := w.log ++ [.received message] }
  | .readError => if w.reader ≠ .reading then none else some w.endReader
  | .offer =>
    match w.reader with
    | .deciding message =>
      -- a full channel keeps the trigger it has
      some { w with reader := .checking, buffered := w.buffered || isRelevantMessage message }
    | _ => none
  | .receiveTrigger => w.receiveTrigger
  | .stopTimer => w.stopTimer keeps
  | .drainTimer =>
    -- the receive, or the default where there is no value
    if w.debounce ≠ .draining then none
    else some { w with timer := w.timer.map fun _ => .idle, debounce := .resetting }
  | .resetTimer =>
    if w.debounce ≠ .resetting then none
    else some { w with timer := w.timer.map fun _ => .armed, debounce := .selecting }
  | .expire => if w.timer ≠ some .armed then none else some { w with timer := some .fired }
  | .receiveTime now =>
    if w.debounce ≠ .selecting ∨ w.timer ≠ some .fired then none
    else some { w with timer := some .idle, debounce := .sending { time := now } }
  | .deliver => w.deliver
  | .cancel => some { w with cancelled := true }
  | .giveUp => w.giveUp

end Watcher

/-! ## What the log says -/

def Entry.isRelevant : Entry → Bool
  | .received message => isRelevantMessage message
  | .delivered _ => false

/-- The delivery of an event that is not the first. -/
def Entry.isHotplug : Entry → Bool
  | .received _ => false
  | .delivered event => !event.synthetic

/-- Whether a relevant message waits for an event, at one entry. -/
def Entry.waits (waiting : Bool) (entry : Entry) : Bool :=
  if entry.isHotplug then false else waiting || entry.isRelevant

/-- Whether a relevant message has been received since the last event, but for the first. -/
def unserved (log : List Entry) : Bool := log.foldl Entry.waits false

@[simp] theorem unserved_nil : unserved [] = false := rfl

@[simp] theorem unserved_append_one (log : List Entry) (entry : Entry) :
    unserved (log ++ [entry]) = entry.waits (unserved log) := by
  simp [unserved]

@[simp] theorem waits_received (waiting : Bool) (message : Bytes) :
    (Entry.received message).waits waiting = (waiting || isRelevantMessage message) := by
  simp [Entry.waits, Entry.isHotplug, Entry.isRelevant]

@[simp] theorem waits_delivered (waiting : Bool) (event : Event) :
    (Entry.delivered event).waits waiting = (event.synthetic && waiting) := by
  cases synthetic : event.synthetic <;> simp [Entry.waits, Entry.isHotplug, Entry.isRelevant, synthetic]

/-- Without a later event a message goes on waiting. -/
theorem waits_of_none {later : List Entry} (quiet : ∀ entry ∈ later, entry.isHotplug = false) :
    later.foldl Entry.waits true = true := by
  induction later with
  | nil => rfl
  | cons entry rest ih =>
    have first : entry.waits true = true := by
      simp [Entry.waits, quiet entry List.mem_cons_self]
    rw [List.foldl_cons, first]
    exact ih fun other member => quiet other (List.mem_cons_of_mem _ member)

/-- Every relevant message has been followed by an event. -/
theorem followed_of_served {log : List Entry} (served : unserved log = false)
    (earlier : List Entry) (message : Bytes) (later : List Entry)
    (split : log = earlier ++ .received message :: later)
    (relevant : isRelevantMessage message = true) :
    ∃ event, .delivered event ∈ later ∧ event.synthetic = false := by
  by_contra absent
  have quiet : ∀ entry ∈ later, entry.isHotplug = false := by
    intro entry member
    cases entry with
    | received message => rfl
    | delivered event =>
      simp only [Entry.isHotplug, Bool.not_eq_false']
      cases synthetic : event.synthetic
      · exact (absent ⟨event, member, synthetic⟩).elim
      · rfl
  have waiting : unserved log = true := by
    rw [split, unserved, List.foldl_append, List.foldl_cons, waits_received, relevant, Bool.or_true]
    exact waits_of_none quiet
  rw [served] at waiting
  cases waiting

end Strom.Hotplug
