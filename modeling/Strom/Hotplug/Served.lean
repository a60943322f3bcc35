import Strom.Hotplug.Watcher

/-!
# No hotplug message is lost

While a relevant message waits for an event, one of the loops holds it, a trigger is
in the channel, the timer runs, or an event is being sent; and when no more messages
arrive, the loops come to rest with nothing waiting.  Events are never more than the
relevant messages.
-/

namespace Strom.Hotplug

open Strom.Go Strom.Effects

/-! ## The invariant -/

/-- Where the timer can stand for each place of the debounce loop. -/
def TimerFits : DebounceLoop → Option Timer → Prop
  | .greeting event, timer => timer = none ∧ event.synthetic = true
  | .selecting, timer => timer ≠ some .idle
  | .stopping, timer => timer = some .armed ∨ timer = some .fired
  | .draining, timer => timer = some .fired
  | .resetting, timer => timer = some .idle
  | .sending event, timer => timer = some .idle ∧ event.synthetic = false
  | .ended, timer => timer = none

/-- No message arrives and the context is not cancelled. -/
def Move.isQuiet : Move → Bool
  | .message _ | .cancel => false
  | _ => true

namespace Watcher

/-- The read loop holds a relevant message. -/
def holdsMessage (w : Watcher) : Bool :=
  match w.reader with
  | .deciding message => isRelevantMessage message
  | _ => false

/-- The debounce loop has taken a trigger and not started the timer again yet. -/
def restarts (w : Watcher) : Bool :=
  match w.debounce with
  | .stopping | .draining | .resetting => true
  | _ => false

/-- The timer is armed, or has expired and its value is not received. -/
def timerRuns (w : Watcher) : Bool := w.timer = some .armed || w.timer = some .fired

/-- The event of an expired timer waits for the consumer. -/
def eventWaits (w : Watcher) : Bool :=
  match w.debounce with
  | .sending _ => true
  | _ => false

def Pending (w : Watcher) : Prop :=
  (w.holdsMessage = true ∨ w.restarts = true) ∨
    w.buffered = true ∨ w.timerRuns = true ∨ w.eventWaits = true

/-- The events that there are, or that are to come. -/
def due (w : Watcher) : Nat :=
  w.log.countP Entry.isHotplug + w.buffered.toNat + w.timer.isSome.toNat + w.holdsMessage.toNat

structure Sound (w : Watcher) : Prop where
  timer : TimerFits w.debounce w.timer
  closed : w.closed = true ↔ w.reader = .ended
  deaf : w.watching = false → w.closed = true ∧ w.buffered = false ∧
    (w.timer = none → w.debounce = .ended)
  stopped : w.debounce = .ended → w.closed = true ∧ w.buffered = false
  pending : unserved w.log = true → w.Pending
  due : w.due ≤ w.log.countP Entry.isRelevant

theorem sound_start (now : Int) : (start now).Sound := by
  refine ⟨⟨rfl, rfl⟩, ?_, ?_, ?_, ?_, ?_⟩ <;> simp [start, due, holdsMessage]

variable {w w' : Watcher} {keeps : Bool}

theorem sound_message {message : Bytes} (sound : w.Sound) (reading : w.reader = .reading) :
    Sound { w with reader := .deciding message, log := w.log ++ [.received message] } := by
  have open_ : w.closed = false := by
    have apart := sound.closed
    simp only [reading, reduceCtorEq, iff_false, Bool.not_eq_true] at apart
    exact apart
  refine ⟨sound.timer, by simp [open_], ?_, ?_, ?_, ?_⟩
  · intro deaf
    have closed := (sound.deaf deaf).1
    simp [open_] at closed
  · intro stopped
    have closed := (sound.stopped stopped).1
    simp [open_] at closed
  · intro waiting
    simp only [unserved_append_one, waits_received, Bool.or_eq_true] at waiting
    obtain before | relevant := waiting
    · obtain (held | restarts) | later := sound.pending before
      · simp [holdsMessage, reading] at held
      · exact .inl (.inr restarts)
      · exact .inr later
    · exact .inl (.inl relevant)
  · have before := sound.due
    unfold due at before ⊢
    cases relevant : isRelevantMessage message <;>
      simp_all [holdsMessage, Entry.isHotplug, Entry.isRelevant]

/-- The read loop passes a message on, or leaves it. -/
theorem sound_offer {message : Bytes} (sound : w.Sound) (holds : w.reader = .deciding message) :
    Sound { w with reader := .checking, buffered := w.buffered || isRelevantMessage message } := by
  have open_ : w.closed = false := by
    have apart := sound.closed
    simp only [holds, reduceCtorEq, iff_false, Bool.not_eq_true] at apart
    exact apart
  have held : w.holdsMessage = isRelevantMessage message := by simp [holdsMessage, holds]
  refine ⟨sound.timer, by simp [open_], ?_, ?_, ?_, ?_⟩
  · intro deaf
    have closed := (sound.deaf deaf).1
    simp [open_] at closed
  · intro stopped
    have closed := (sound.stopped stopped).1
    simp [open_] at closed
  · intro waiting
    obtain (mine | restarts) | buffered | later := sound.pending waiting
    · exact .inr (.inl (by simp [← held, mine]))
    · exact .inl (.inr restarts)
    · exact .inr (.inl (by simp [buffered]))
    · exact .inr (.inr later)
  · have before := sound.due
    unfold due at before ⊢
    rw [held] at before
    cases relevant : isRelevantMessage message <;> cases buffered : w.buffered <;>
      simp_all [holdsMessage] <;> omega

/-- The read loop goes on, or ends. -/
theorem sound_reader {reader : ReadLoop} {closed : Bool} (sound : w.Sound)
    (free : w.holdsMessage = false) (idle : ∀ message, reader ≠ .deciding message)
    (ends : closed = true ↔ reader = .ended) (stays : w.closed = true → closed = true) :
    Sound { w with reader, closed } := by
  have still : Watcher.holdsMessage { w with reader, closed } = false := by
    unfold holdsMessage
    cases reader with
    | deciding message => exact (idle message rfl).elim
    | _ => rfl
  refine ⟨sound.timer, ends, ?_, ?_, ?_, ?_⟩
  · intro deaf
    obtain ⟨shut, rest⟩ := sound.deaf deaf
    exact ⟨stays shut, rest⟩
  · intro stopped
    obtain ⟨shut, rest⟩ := sound.stopped stopped
    exact ⟨stays shut, rest⟩
  · intro waiting
    obtain (held | restarts) | later := sound.pending waiting
    · rw [free] at held
      cases held
    · exact .inl (.inr restarts)
    · exact .inr later
  · have before := sound.due
    unfold due at before ⊢
    rw [still]
    rw [free] at before
    exact before

/-- The debounce loop takes a trigger. -/
theorem sound_receiveTrigger (sound : w.Sound) (taken : w.receiveTrigger = some w') : w'.Sound := by
  unfold receiveTrigger at taken
  split_ifs at taken with away buffered closed
  all_goals simp only [not_or, not_not, Bool.not_eq_false] at away
  · obtain ⟨selecting, watching⟩ := away
    have fits := sound.timer
    have waited := sound.due
    unfold due at waited
    cases timer : w.timer with
    | none =>
      simp only [timer, Option.some.injEq] at taken
      subst taken
      refine ⟨by simp [selecting, TimerFits], sound.closed, by simp [watching], by simp [selecting],
        fun _ => .inr (.inr (.inl rfl)), ?_⟩
      simp only [due, holdsMessage] at waited ⊢
      simp only [timer, buffered] at waited
      simpa using waited
    | some value =>
      simp only [timer, Option.some.injEq] at taken
      subst taken
      rw [selecting, timer] at fits
      refine ⟨?_, sound.closed, by simp [watching], by simp, fun _ => .inl (.inr rfl), ?_⟩
      · cases value <;> simp_all [TimerFits]
      -- the trigger does not count any more
      simp only [due, holdsMessage] at waited ⊢
      simp only [timer, buffered] at waited
      simp only [Bool.toNat_false]
      simp only [Bool.toNat_true] at waited
      omega
  · obtain ⟨selecting, watching⟩ := away
    have fits := sound.timer
    cases timer : w.timer with
    | none =>
      simp only [timer, Option.some.injEq] at taken
      subst taken
      refine ⟨by simp [TimerFits], sound.closed, by simp [watching],
        fun _ => ⟨closed, by simpa using buffered⟩, ?_, ?_⟩
      -- nothing is pending when the channel is closed and empty
      · intro waiting
        have ended := sound.closed.mp closed
        obtain (held | restarts) | held | runs | waits := sound.pending waiting
        · simp [holdsMessage, ended] at held
        · simp [Watcher.restarts, selecting] at restarts
        · exact (buffered held).elim
        · simp [timerRuns, timer] at runs
        · simp [eventWaits, selecting] at waits
      · simpa [due, holdsMessage, timer] using sound.due
    | some value =>
      simp only [timer, Option.some.injEq] at taken
      subst taken
      refine ⟨timer ▸ sound.timer, sound.closed, ?_, sound.stopped, ?_, ?_⟩
      · exact fun _ => ⟨closed, by simpa using buffered, by simp⟩
      · simpa [Pending, holdsMessage, restarts, timerRuns, eventWaits, timer] using sound.pending
      · simpa [due, holdsMessage, timer] using sound.due

/-- The debounce loop goes on without taking anything from the channel or from the log. -/
theorem sound_debounce {debounce : DebounceLoop} {timer : Option Timer} (sound : w.Sound)
    (fits : TimerFits debounce timer) (on : w.debounce ≠ .ended) (goes : debounce ≠ .ended)
    (same : timer.isSome = w.timer.isSome)
    (pending : Pending { w with debounce, timer }) : Sound { w with debounce, timer } := by
  refine ⟨fits, sound.closed, ?_, fun stopped => (goes stopped).elim, fun _ => pending, ?_⟩
  · intro deaf
    obtain ⟨closed, empty, stopped⟩ := sound.deaf deaf
    refine ⟨closed, empty, fun gone => ?_⟩
    have none_ : w.timer.isSome = false := by
      rw [← same, show timer = none from gone]
      rfl
    exact (on (stopped (Option.isSome_eq_false_iff.mp none_ |> Option.isNone_iff_eq_none.mp))).elim
  · have before := sound.due
    unfold due at before ⊢
    simp only [same]
    exact before

theorem sound_deliver (sound : w.Sound) (taken : w.deliver = some w') : w'.Sound := by
  have fits := sound.timer
  have counted := sound.due
  unfold due at counted
  unfold deliver at taken
  cases debounce : w.debounce with
  | greeting event =>
    simp only [debounce, Option.some.injEq] at taken
    subst taken
    rw [debounce] at fits
    obtain ⟨timer, synthetic⟩ := fits
    have uncounted : Entry.isHotplug (.delivered event) = false := by simp [Entry.isHotplug, synthetic]
    refine ⟨by simp [TimerFits, timer], sound.closed, ?_, by simp, ?_, ?_⟩
    · intro deaf
      have stopped := (sound.deaf deaf).2.2 timer
      simp [debounce] at stopped
    · intro waiting
      simp only [unserved_append_one, waits_delivered, synthetic, Bool.true_and] at waiting
      obtain (held | restarts) | buffered | runs | waits := sound.pending waiting
      · exact .inl (.inl held)
      · simp [Watcher.restarts, debounce] at restarts
      · exact .inr (.inl buffered)
      · exact .inr (.inr (.inl runs))
      · simp [eventWaits, debounce] at waits
    · simp only [due, List.countP_append, List.countP_singleton, uncounted, Entry.isRelevant,
        Bool.false_eq_true, if_false, Nat.add_zero]
      exact counted
  | sending event =>
    simp only [debounce, Option.some.injEq] at taken
    subst taken
    rw [debounce] at fits
    obtain ⟨timer, real⟩ := fits
    have hotplug : Entry.isHotplug (.delivered event) = true := by simp [Entry.isHotplug, real]
    refine ⟨?_, sound.closed, ?_, ?_, ?_, ?_⟩
    · cases w.watching <;> simp [TimerFits]
    · intro deaf
      obtain ⟨closed, empty, -⟩ := sound.deaf deaf
      have deaf : w.watching = false := deaf
      exact ⟨closed, empty, fun _ => by simp [deaf]⟩
    · intro stopped
      cases watching : w.watching with
      | true => simp [watching] at stopped
      | false =>
        obtain ⟨closed, empty, -⟩ := sound.deaf watching
        exact ⟨closed, empty⟩
    · simp [real]
    · -- the event takes the place of the timer
      simp only [due, List.countP_append, List.countP_singleton, hotplug, Entry.isRelevant,
        Bool.false_eq_true, if_false, if_true, Nat.add_zero]
      simp only [timer, Option.isSome_some, Bool.toNat_true] at counted
      simp only [Option.isSome_none, Bool.toNat_false, holdsMessage] at counted ⊢
      omega
  | _ => simp [debounce] at taken

theorem sound_stopTimer (sound : w.Sound) (taken : w.stopTimer keeps = some w') : w'.Sound := by
  have fits := sound.timer
  unfold stopTimer at taken
  cases debounce : w.debounce with
  | stopping =>
    rw [debounce] at fits
    have on : w.debounce ≠ .ended := by simp [debounce]
    obtain timer | timer := fits
    · simp only [debounce, timer, Timer.stop, if_true, Option.some.injEq] at taken
      subst taken
      exact sound_debounce sound rfl on (by simp) (by simp [timer]) (.inl (.inr rfl))
    · cases keeps with
      | true =>
        simp only [debounce, timer, Timer.stop, if_true, Bool.false_eq_true, if_false,
          Option.some.injEq] at taken
        subst taken
        exact sound_debounce sound rfl on (by simp) (by simp [timer]) (.inl (.inr rfl))
      | false =>
        simp only [debounce, timer, Timer.stop, if_true, Bool.false_eq_true, if_false,
          Option.some.injEq] at taken
        subst taken
        exact sound_debounce sound rfl on (by simp) (by simp [timer]) (.inl (.inr rfl))
  | _ => simp [debounce] at taken

/-- Every move of a watcher whose context is not cancelled. -/
theorem sound_step (move : Move) (sound : w.Sound) (active : w.cancelled = false)
    (taken : w.step keeps move = some w') : w'.cancelled = true ∨ w'.Sound := by
  cases move with
  | check =>
    simp only [step] at taken
    split_ifs at taken with away cancelled
    · rw [active] at cancelled
      cases cancelled
    · cases taken
      have checking : w.reader = .checking := not_not.mp away
      have open_ : w.closed = false := by simpa [checking] using sound.closed
      exact .inr (sound_reader sound (by simp [holdsMessage, checking]) (by simp) (by simp [open_]) id)
  | message message =>
    simp only [step] at taken
    split_ifs at taken with away
    cases taken
    exact .inr (sound_message sound (not_not.mp away))
  | readError =>
    simp only [step] at taken
    split_ifs at taken with away
    cases taken
    have reading : w.reader = .reading := not_not.mp away
    exact .inr (sound_reader sound (by simp [holdsMessage, reading]) (by simp) (by simp) fun _ => rfl)
  | offer =>
    simp only [step] at taken
    cases holds : w.reader with
    | deciding message =>
      simp only [holds, Option.some.injEq] at taken
      subst taken
      exact .inr (sound_offer sound holds)
    | _ => simp [holds] at taken
  | receiveTrigger => exact .inr (sound_receiveTrigger sound taken)
  | stopTimer => exact .inr (sound_stopTimer sound taken)
  | drainTimer =>
    simp only [step] at taken
    split_ifs at taken with away
    cases taken
    have draining : w.debounce = .draining := not_not.mp away
    have timer : w.timer = some .fired := by simpa [draining, TimerFits] using sound.timer
    exact .inr (sound_debounce sound (by simp [TimerFits, timer]) (by simp [draining]) (by simp)
      (by simp) (.inl (.inr rfl)))
  | resetTimer =>
    simp only [step] at taken
    split_ifs at taken with away
    cases taken
    have resetting : w.debounce = .resetting := not_not.mp away
    have timer : w.timer = some .idle := by simpa [resetting, TimerFits] using sound.timer
    exact .inr (sound_debounce sound (by simp [TimerFits, timer]) (by simp [resetting]) (by simp)
      (by simp) (.inr (.inr (.inl (by simp [timerRuns, timer])))))
  | expire =>
    simp only [step] at taken
    split_ifs at taken with away
    cases taken
    have armed : w.timer = some .armed := not_not.mp away
    have fits := sound.timer
    have on : w.debounce ≠ .ended := by
      intro stopped
      simp [stopped, TimerFits, armed] at fits
    have fits' : TimerFits w.debounce (some .fired) := by
      cases debounce : w.debounce <;> simp_all [TimerFits]
    exact .inr (sound_debounce sound fits' on on (by simp [armed]) (.inr (.inr (.inl rfl))))
  | receiveTime now =>
    simp only [step] at taken
    split_ifs at taken with away
    cases taken
    simp only [not_or, not_not] at away
    exact .inr (sound_debounce sound ⟨rfl, rfl⟩ (by simp [away.1]) (by simp) (by simp [away.2])
      (.inr (.inr (.inr rfl))))
  | deliver => exact .inr (sound_deliver sound taken)
  | cancel =>
    cases taken
    exact .inl rfl
  | giveUp => simp [step, giveUp, active] at taken

/-- Only a cancellation cancels, and for good. -/
theorem cancelled_step (move : Move) (taken : w.step keeps move = some w') :
    w'.cancelled = (w.cancelled || move = .cancel) := by
  cases move with
  | receiveTrigger =>
    simp only [step, receiveTrigger] at taken
    split_ifs at taken <;> split at taken <;> cases taken <;> simp
  | stopTimer =>
    simp only [step, stopTimer] at taken
    split at taken <;> cases taken
    simp
  | deliver =>
    simp only [step, deliver] at taken
    split at taken <;> cases taken <;> simp
  | giveUp =>
    simp only [step, giveUp] at taken
    split at taken <;> cases taken <;> simp
  | offer =>
    simp only [step] at taken
    split at taken <;> cases taken
    simp
  | cancel =>
    cases taken
    simp
  | check | readError =>
    simp only [step] at taken
    split_ifs at taken <;> cases taken <;> simp [endReader]
  | _ =>
    simp only [step] at taken
    split_ifs at taken
    cases taken
    simp

theorem sound_run {now : Int} {moves : List Move} (active : w.cancelled = false)
    (run : replay (step keeps) (start now) moves = some w) : w.Sound := by
  have inv : w.cancelled = true ∨ w.Sound := by
    refine replay_preserves (I := fun w => w.cancelled = true ∨ w.Sound) ?_ (.inr (sound_start now)) run
    intro w move w' inv taken
    cases active : w.cancelled with
    | true =>
      left
      simp [cancelled_step move taken, active]
    | false =>
      obtain cancelled | sound := inv
      · rw [active] at cancelled
        cases cancelled
      · exact sound_step move sound active taken
  rw [active] at inv
  simpa using inv

/-! ## Coming to rest -/

/-- How far the debounce loop and its timer are from their end. -/
def debounceLeft : DebounceLoop → Option Timer → Nat
  | .stopping, some .armed => 8
  | .stopping, _ => 7
  | .draining, _ => 6
  | .resetting, _ => 5
  | .selecting, some .armed => 4
  | .selecting, some _ => 3
  | .sending _, _ => 2
  | .greeting _, _ => 2
  | .selecting, none => 1
  | .ended, _ => 0

def readerLeft : ReadLoop → Nat
  | .deciding _ => 8
  | .checking => 2
  | .reading => 1
  | .ended => 0

/-- At most so many moves are left until a message arrives. -/
def left (w : Watcher) : Nat :=
  readerLeft w.reader + 5 * w.buffered.toNat + w.watching.toNat + debounceLeft w.debounce w.timer

/-- Nothing goes on without a message, an error of the connection or the context. -/
def AtRest (keeps : Bool) (w : Watcher) : Prop :=
  ∀ move, move.isQuiet = true → move ≠ .readError → w.step keeps move = none

theorem left_receiveTrigger (sound : w.Sound) (taken : w.receiveTrigger = some w') :
    w'.left < w.left := by
  unfold receiveTrigger at taken
  split_ifs at taken with away buffered closed
  all_goals simp only [not_or, not_not, Bool.not_eq_false] at away
  · have fits := sound.timer
    rw [away.1] at fits
    cases timer : w.timer with
    | none =>
      simp only [timer, Option.some.injEq] at taken
      subst taken
      simp only [left, debounceLeft, away.1, timer, buffered, Bool.toNat_true, Bool.toNat_false]
      omega
    | some value =>
      simp only [timer, Option.some.injEq] at taken
      subst taken
      cases value <;> simp_all [left, debounceLeft, TimerFits]
  · cases timer : w.timer with
    | none =>
      simp only [timer, Option.some.injEq] at taken
      subst taken
      simp [left, debounceLeft, away.1, timer]
    | some value =>
      simp only [timer, Option.some.injEq] at taken
      subst taken
      simp [left, away.2, timer]

theorem left_step (move : Move) (sound : w.Sound) (active : w.cancelled = false)
    (quiet : move.isQuiet = true) (taken : w.step keeps move = some w') : w'.left < w.left := by
  have fits := sound.timer
  cases move with
  | message message | cancel => cases quiet
  | check =>
    simp only [step] at taken
    split_ifs at taken with away cancelled
    · rw [active] at cancelled
      cases cancelled
    · cases taken
      simp [left, readerLeft, not_not.mp away]
  | readError =>
    simp only [step] at taken
    split_ifs at taken with away
    cases taken
    simp [left, readerLeft, endReader, not_not.mp away]
  | offer =>
    simp only [step] at taken
    cases holds : w.reader with
    | deciding message =>
      simp only [holds, Option.some.injEq] at taken
      subst taken
      have bound : (w.buffered || isRelevantMessage message).toNat ≤ 1 := Bool.toNat_le _
      simp only [left, readerLeft, holds]
      omega
    | _ => simp [holds] at taken
  | receiveTrigger => exact left_receiveTrigger sound taken
  | stopTimer =>
    simp only [step, stopTimer] at taken
    cases debounce : w.debounce with
    | stopping =>
      rw [debounce] at fits
      obtain timer | timer := fits <;> cases keeps <;>
        simp only [debounce, timer, Timer.stop, if_true, Bool.false_eq_true, if_false,
          Option.some.injEq] at taken <;> subst taken <;> simp [left, debounceLeft, debounce, timer]
    | _ => simp [debounce] at taken
  | drainTimer =>
    simp only [step] at taken
    split_ifs at taken with away
    cases taken
    simp [left, debounceLeft, not_not.mp away]
  | resetTimer =>
    simp only [step] at taken
    split_ifs at taken with away
    cases taken
    have timer : w.timer = some .idle := by simpa [not_not.mp away, TimerFits] using fits
    simp [left, debounceLeft, not_not.mp away, timer]
  | expire =>
    simp only [step] at taken
    split_ifs at taken with away
    cases taken
    have armed : w.timer = some .armed := not_not.mp away
    -- only two places of the loop go with an armed timer
    cases debounce : w.debounce <;> simp_all [TimerFits, left, debounceLeft]
  | receiveTime now =>
    simp only [step] at taken
    split_ifs at taken with away
    cases taken
    simp only [not_or, not_not] at away
    simp [left, debounceLeft, away.1, away.2]
  | deliver =>
    simp only [step, deliver] at taken
    cases debounce : w.debounce with
    | greeting event =>
      simp only [debounce, Option.some.injEq] at taken
      subst taken
      rw [debounce] at fits
      have timer : w.timer = none := fits.1
      simp [left, debounceLeft, debounce, timer]
    | sending event =>
      simp only [debounce, Option.some.injEq] at taken
      subst taken
      cases watching : w.watching <;> simp [left, debounceLeft, debounce, watching]
    | _ => simp [debounce] at taken
  | giveUp => simp [step, giveUp, active] at taken

/-- Only messages keep the loops going. -/
theorem left_run {moves : List Move} (sound : w.Sound) (active : w.cancelled = false)
    (quiet : ∀ move ∈ moves, move.isQuiet = true) (run : replay (step keeps) w moves = some w') :
    w'.cancelled = false ∧ w'.Sound ∧ moves.length + w'.left ≤ w.left := by
  induction moves generalizing w with
  | nil =>
    cases run
    simp [sound, active]
  | cons move rest ih =>
    obtain ⟨next, taken, later⟩ := replay_cons.mp run
    have calm : move.isQuiet = true := quiet move List.mem_cons_self
    have still : next.cancelled = false := by
      rw [cancelled_step move taken, active]
      cases move <;> simp_all [Move.isQuiet]
    have next_ : next.Sound := by
      obtain cancelled | sound := sound_step move sound active taken
      · rw [still] at cancelled
        cases cancelled
      · exact sound
    have less := left_step move sound active calm taken
    obtain ⟨active', sound', bound⟩ :=
      ih next_ still (fun other member => quiet other (List.mem_cons_of_mem _ member)) later
    refine ⟨active', sound', ?_⟩
    rw [List.length_cons]
    omega

/-- At rest the debounce loop waits in its `select`, or has returned. -/
theorem debounce_at_rest (sound : w.Sound) (rest : AtRest keeps w) :
    w.debounce = .selecting ∨ w.debounce = .ended := by
  have fits := sound.timer
  cases debounce : w.debounce with
  | selecting => exact .inl rfl
  | ended => exact .inr rfl
  | greeting event | sending event =>
    have blocked := rest .deliver rfl (by simp)
    simp [step, deliver, debounce] at blocked
  | stopping =>
    have blocked := rest .stopTimer rfl (by simp)
    rw [debounce] at fits
    obtain timer | timer := fits <;> simp [step, stopTimer, debounce, timer] at blocked
  | draining =>
    have blocked := rest .drainTimer rfl (by simp)
    simp [step, debounce] at blocked
  | resetting =>
    have blocked := rest .resetTimer rfl (by simp)
    simp [step, debounce] at blocked

theorem not_pending_at_rest (sound : w.Sound) (rest : AtRest keeps w) : ¬ w.Pending := by
  have place := debounce_at_rest sound rest
  rintro ((held | restarts) | buffered | runs | waits)
  · have blocked := rest .offer rfl (by simp)
    cases reader : w.reader with
    | deciding message => simp [step, reader] at blocked
    | _ => simp [holdsMessage, reader] at held
  · obtain place | place := place <;> simp [Watcher.restarts, place] at restarts
  · obtain place | place := place
    · have blocked := rest .receiveTrigger rfl (by simp)
      have watching : w.watching = true := by
        by_contra deaf
        have empty := (sound.deaf (by simpa using deaf)).2.1
        rw [buffered] at empty
        cases empty
      simp only [step, receiveTrigger, place, watching, buffered] at blocked
      cases timer : w.timer <;> simp [timer] at blocked
    · have empty := (sound.stopped place).2
      rw [buffered] at empty
      cases empty
  · have timer : w.timer = some .armed ∨ w.timer = some .fired := by simpa [timerRuns] using runs
    obtain timer | timer := timer
    · have blocked := rest .expire rfl (by simp)
      simp [step, timer] at blocked
    · obtain place | place := place
      · have blocked := rest (.receiveTime 0) rfl (by simp)
        simp [step, place, timer] at blocked
      · have fits := sound.timer
        rw [place, timer] at fits
        cases fits
  · obtain place | place := place <;> simp [eventWaits, place] at waits

theorem served_at_rest (sound : w.Sound) (rest : AtRest keeps w) : unserved w.log = false := by
  by_contra waiting
  exact not_pending_at_rest sound rest (sound.pending (by simpa using waiting))

end Watcher

/-- In `log`, every relevant message is followed by an event that a message has caused. -/
def AllFollowed (log : List Entry) : Prop :=
  ∀ (earlier : List Entry) (message : Bytes) (later : List Entry),
    log = earlier ++ .received message :: later → isRelevantMessage message = true →
      ∃ event, Entry.delivered event ∈ later ∧ event.synthetic = false

/-- As long as the context is not cancelled: a relevant message without a later event is pending;
    events are no more than relevant messages; and without further messages the loops come to
    rest, and then every relevant message has been followed by an event. -/
theorem relevant_messages_served {keeps : Bool} {now : Int} {moves : List Move} {w : Watcher}
    (run : replay (Watcher.step keeps) (start now) moves = some w) (active : w.cancelled = false) :
    (¬ AllFollowed w.log → w.Pending) ∧
      w.log.countP Entry.isHotplug ≤ w.log.countP Entry.isRelevant ∧
      ∀ (quiet : List Move) (w' : Watcher), (∀ move ∈ quiet, move.isQuiet = true) →
        replay (Watcher.step keeps) w quiet = some w' →
        quiet.length ≤ w.left ∧ (w'.AtRest keeps → AllFollowed w'.log) := by
  have sound := Watcher.sound_run active run
  refine ⟨?_, ?_, ?_⟩
  · intro missed
    apply sound.pending
    by_contra served
    exact missed (followed_of_served (by simpa using served))
  · have counted := sound.due
    unfold Watcher.due at counted
    omega
  · intro quiet w' calm later
    obtain ⟨-, sound', bound⟩ := Watcher.left_run sound active calm later
    refine ⟨by omega, fun rest => ?_⟩
    exact followed_of_served (Watcher.served_at_rest sound' rest)

/-- A message while the consumer is busy with the first event. -/
theorem relevant_messages_served_of_one : ∃ w,
    replay (Watcher.step false) (start 0)
        [.check, .message (utf8 "ACTION=add\x00SUBSYSTEM=usb\x00"), .offer, .deliver] = some w ∧
      w.log.countP Entry.isHotplug ≤ w.log.countP Entry.isRelevant := by
  have run : (replay (Watcher.step false) (start 0)
      [.check, .message (utf8 "ACTION=add\x00SUBSYSTEM=usb\x00"), .offer, .deliver]).isSome := by
    decide +kernel
  have active : (replay (Watcher.step false) (start 0)
      [.check, .message (utf8 "ACTION=add\x00SUBSYSTEM=usb\x00"), .offer, .deliver]).map
        Watcher.cancelled = some false := by
    decide +kernel
  obtain ⟨w, run⟩ := Option.isSome_iff_exists.mp run
  rw [run, Option.map_some, Option.some.injEq] at active
  exact ⟨w, run, (relevant_messages_served run active).2.1⟩

end Strom.Hotplug
