import Strom.Alerts.Engine
import Strom.Effects.Run
import Strom.Effects.Triples

/-!
# The debounce of alert events

A run of evaluations, test events and changes from elsewhere, over an arbitrary clock.
`Debounced` is the invariant: the rows that evaluations have stored for a rule are in the
table, and of two for one subject the later one was created at least the debounce after
the earlier one.  The lookup takes the row with the greatest text, which over the years 0
to 9999 is the latest one, and a difference to a whole second that reaches the debounce
reaches it still when the new time is cut to its second.

An event that bears Go's zero time is stored with another reading of the clock
(`InsertAlertEvent`), and then the debounce can fail (`zero_reading_skips_debounce`).
-/

namespace Strom.Alerts

open Strom.Go Strom.Effects Strom.Registry

variable {F : Type}

/-! ## Runs -/

/-- What happens to the engine's world, one after the other. -/
inductive Moment (F : Type) where
  | evaluate (choices : Nat → Chance)
  | testRule (rule : AlertRule F) (choices : Nat → Chance)
  /-- Rules, nodes and UPS data are as somebody else has left them. -/
  | change (rules : List (AlertRule F)) (nodes : List AlertNode)
      (summaries : String → List (UPSSummary F))
  | deleteRule (ruleID : Int)

variable (e : Engine F)

def AlertWorld.after (w : AlertWorld F) : Moment F → AlertWorld F
  | .evaluate choices =>
    (e.evaluateOnce.exec (guide perform) { state := w, choices }).2.state
  | .testRule rule choices =>
    -- `stored` is about the rows of evaluations
    { (Action.exec (guide perform) (Engine.testRule rule) { state := w, choices }).2.state with
      stored := w.stored }
  | .change rules nodes summaries => { w with rules, nodes, summaries }
  | .deleteRule ruleID =>
    { w with rules := w.rules.filter (·.id ≠ ruleID), table := forgetRule ruleID w.table }

def AlertWorld.step (w : AlertWorld F) (moment : Moment F) : Option (AlertWorld F) :=
  some (w.after e moment)

/-- The rule keeps its debounce wherever it is listed. -/
def FixedDebounce (ruleID debounceSeconds : Int) (rules : List (AlertRule F)) : Prop :=
  ∀ rule ∈ rules, rule.id = ruleID → rule.debounceSeconds = debounceSeconds

/-- The moments that keep the rule and its debounce. -/
def Moment.Fixes (ruleID debounceSeconds : Int) : Moment F → Prop
  | .change rules _ _ => FixedDebounce ruleID debounceSeconds rules
  | .deleteRule deleted => deleted ≠ ruleID
  | _ => True

/-- The table as `InsertAlertEvent` leaves it, in the years that have four digits. -/
def Stamped (table : AlertEvents) : Prop :=
  ∀ row ∈ table.rows, ∃ t : Time, t.FourDigitYear ∧ row.createdAt = formatRFC3339 t

/-- The later row was created at least the debounce after the first one. -/
def Apart (ruleID debounceSeconds : Int) (first later : AlertEventRow) : Prop :=
  first.ruleID = some ruleID → later.ruleID = some ruleID → first.subjectKey = later.subjectKey →
    ∃ t u, parseRFC3339 first.createdAt = some t ∧ parseRFC3339 later.createdAt = some u ∧
      t.ns + debounceSeconds * second ≤ u.ns

/-! ## The invariant -/

/-- A reading of the clock that the engine can stamp an event with. -/
def Readable (t : Time) : Prop := t.FourDigitYear ∧ t.isZero = false

structure Debounced (ruleID debounceSeconds : Int) (w : AlertWorld F) : Prop where
  clock : ∀ n, Readable (w.clock n)
  fixed : FixedDebounce ruleID debounceSeconds w.rules
  stamped : Stamped w.table
  kept : ∀ row ∈ w.stored, row.ruleID = some ruleID → row ∈ w.table.rows
  apart : w.stored.Pairwise (Apart ruleID debounceSeconds)

/-- Every row of the rule and the subject is old enough for an event at `now`. -/
def Due (debounceSeconds : Int) (event : AlertEvent) (table : AlertEvents) : Prop :=
  ∀ row ∈ table.rows, row.IsFor event.ruleID (trimSpace event.subjectKey) →
    ∀ t, parseRFC3339 row.createdAt = some t → t.ns + debounceSeconds * second ≤ event.createdAt.ns

section Step

variable {ruleID debounceSeconds : Int} {w : AlertWorld F} {event : AlertEvent}

theorem Stamped.insert {now : Time} {table : AlertEvents} (stamped : Stamped table)
    (timed : Readable event.createdAt) : Stamped (Registry.insertAlertEvent event now table) := by
  intro row member
  simp only [Registry.insertAlertEvent, List.mem_append, List.mem_singleton] at member
  cases member with
  | inl old => exact stamped row old
  | inr new =>
    subst new
    exact ⟨event.createdAt, timed.1, by simp [AlertEvent.row, timed.2]⟩

/-- Only an event of the rule needs to be due. -/
theorem Debounced.insert (inv : Debounced ruleID debounceSeconds w) (timed : Readable event.createdAt)
    (due : event.ruleID = ruleID → Due debounceSeconds event w.table) :
    Debounced ruleID debounceSeconds (w.insert event) where
  clock := inv.clock
  fixed := inv.fixed
  stamped := inv.stamped.insert timed
  kept := by
    intro row member own
    simp only [AlertWorld.insert, List.mem_append, List.mem_singleton] at member
    simp only [AlertWorld.insert, Registry.insertAlertEvent, List.mem_append, List.mem_singleton]
    cases member with
    | inl old => exact .inl (inv.kept row old own)
    | inr new => exact .inr new
  apart := by
    simp only [AlertWorld.insert, List.pairwise_append, List.pairwise_singleton, true_and,
      List.mem_singleton, forall_eq]
    refine ⟨inv.apart, ?_⟩
    intro row old own rule subject
    replace rule : event.ruleID = ruleID := by simpa [AlertEvent.row] using rule
    replace subject : row.subjectKey = trimSpace event.subjectKey := subject
    -- an earlier row of the subject is in the table, and so the event was due after it
    have inTable := inv.kept row old own
    obtain ⟨t, years, text⟩ := inv.stamped row inTable
    have parsed : parseRFC3339 row.createdAt = some t.truncated := by
      rw [text, parseRFC3339_format years]
    have isFor : row.IsFor event.ruleID (trimSpace event.subjectKey) := by
      rw [rule]
      exact ⟨own, subject⟩
    have reached := due rule row inTable isFor _ parsed
    refine ⟨t.truncated, event.createdAt.truncated, parsed, ?_, ?_⟩
    · simp [AlertEvent.row, timed.2, parseRFC3339_format timed.1]
    · simp only [Time.truncated, Time.unix, Time.ofUnix, second] at *
      omega

/-- The lookup finds no row, or one that is the latest: what it allows is due. -/
theorem due_of_lookup (stamped : Stamped w.table) (positive : 0 < debounceSeconds)
    (representable : debounceSeconds * second ≤ maxDuration) {last : Option AlertEvent}
    (found : Registry.lastAlertEvent event.ruleID event.subjectKey w.table = .ok last)
    (allowed : ∀ before, last = some before →
      ¬ event.createdAt.sub before.createdAt < debounceSeconds * second) :
    Due debounceSeconds event w.table := by
  intro row member isFor t parsed
  obtain ⟨best, inTable, before, rfl, latest, bestParsed⟩ := latest_of_lookup found member isFor
  obtain ⟨u, years', text'⟩ := stamped best inTable
  obtain ⟨v, years, text⟩ := stamped row member
  rw [text, text', ← String.not_lt, formatRFC3339_lt_iff years' years] at latest
  rw [text, parseRFC3339_format years, Option.some.injEq] at parsed
  rw [text', parseRFC3339_format years', Option.some.injEq] at bestParsed
  have reached := allowed before rfl
  rw [not_lt, Time.le_sub_iff _ _ (by simp only [minDuration, second]; omega) representable] at reached
  rw [← parsed]
  rw [← bestParsed] at reached
  simp only [Time.truncated, Time.unix, Time.ofUnix, second] at *
  omega

end Step

/-! ## What an evaluation keeps -/

theorem wrapInt64_eq {x : Int} (lower : 0 ≤ x) (upper : x ≤ maxDuration) : wrapInt64 x = x := by
  simp only [wrapInt64, maxDuration] at *
  omega

/-- An event of a rule, raised at a reading of the clock. -/
def RaisedAt (now : Time) (rule : AlertRule F) (event : AlertEvent) : Prop :=
  event.ruleID = rule.id ∧ event.createdAt = now

/-- An operation that leaves the world alone. -/
theorem triple_quiet {op : AlertOp F} {P : AlertWorld F → Prop}
    (quiet : ∀ chance w, (perform op chance w).2 = w) :
    Program.Triple perform P (ask op) fun _ => P := by
  apply Program.triple_perform
  intro chance w holds
  rwa [quiet]

theorem raised_upsEvents {now : Time} {rule : AlertRule F} {node : AlertNode}
    {summary : UPSSummary F} {event : AlertEvent}
    (member : event ∈ Engine.onBatteryEvents now rule node summary ++
      e.lowBatteryEvents now rule node summary) : RaisedAt now rule event := by
  rw [List.mem_append] at member
  cases member with
  | inl onBattery =>
    simp only [Engine.onBatteryEvents] at onBattery
    split at onBattery
    · obtain rfl := List.mem_singleton.mp onBattery
      exact ⟨rfl, rfl⟩
    · cases onBattery
  | inr lowBattery =>
    simp only [Engine.lowBatteryEvents] at lowBattery
    split at lowBattery
    · split at lowBattery
      · obtain rfl := List.mem_singleton.mp lowBattery
        exact ⟨rfl, rfl⟩
      · cases lowBattery
    · cases lowBattery

/-- Looking for events stores nothing, and what is found is the rule's, of this moment. -/
theorem raised_events {P : AlertWorld F → Prop} (now : Time) (rule : AlertRule F) (node : AlertNode) :
    Program.Triple perform P (e.events now rule node) fun found w =>
      (∀ event ∈ found, RaisedAt now rule event) ∧ P w := by
  unfold Engine.events
  split
  · apply Program.triple_ret
    intro w holds
    refine ⟨?_, holds⟩
    simp only [Engine.offlineEvents]
    split <;> simp [RaisedAt]
  split
  · apply Program.triple_ret
    intro w holds
    refine ⟨?_, holds⟩
    simp only [Engine.commsEvents]
    split <;> simp [RaisedAt]
  split
  · apply Program.Triple.bind (triple_quiet fun _ _ => rfl)
    intro reply
    cases reply with
    | ok summaries =>
      apply Program.triple_ret
      intro w holds
      refine ⟨?_, holds⟩
      intro event member
      obtain ⟨summary, -, own⟩ := List.mem_flatMap.mp member
      exact raised_upsEvents e own
    | error cause =>
      apply Program.Triple.bind (triple_quiet fun _ _ => rfl)
      intro _
      exact Program.triple_ret fun w holds => ⟨by simp, holds⟩
  · exact Program.triple_ret fun w holds => ⟨by simp, holds⟩

section Evaluation

variable {ruleID debounceSeconds : Int} {rule : AlertRule F} {event : AlertEvent}

theorem delivered_keeps (event : AlertEvent) (outcome : Except GoError Unit) :
    (Engine.delivered event outcome).ruleID = event.ruleID ∧
      (Engine.delivered event outcome).subjectKey = event.subjectKey ∧
        (Engine.delivered event outcome).createdAt = event.createdAt := by
  cases outcome <;> exact ⟨rfl, rfl, rfl⟩

/-- The event is stored with the outcome of its delivery, or not at all. -/
theorem triple_deliverAndInsert {P Q : AlertWorld F → Prop}
    (inserted : ∀ w outcome, P w → Q (w.insert (Engine.delivered event outcome)))
    (stays : ∀ w, P w → Q w) :
    Action.Triple perform P (Engine.deliverAndInsert rule event) (fun _ => Q) := by
  apply Action.Triple.bind_always (triple_quiet fun _ _ => rfl)
  intro outcome
  apply Program.triple_perform
  intro choice w holds
  simp only [perform]
  split
  · exact inserted w outcome holds
  · -- the statement may have been carried out all the same
    split
    · exact inserted w outcome holds
    · exact stays w holds

theorem debounced_deliverAndInsert (timed : Readable event.createdAt) :
    Action.Triple perform
      (fun w => Debounced ruleID debounceSeconds w ∧
        (event.ruleID = ruleID → Due debounceSeconds event w.table))
      (Engine.deliverAndInsert rule event) (fun _ => Debounced ruleID debounceSeconds) := by
  apply triple_deliverAndInsert
  · intro w outcome holds
    obtain ⟨own, subject, created⟩ := delivered_keeps event outcome
    apply holds.1.insert
    · rwa [created]
    · intro same
      rw [own] at same
      have due := holds.2 same
      rwa [Due, own, subject, created]
  · intro w holds
    exact holds.1

theorem debounced_maybeFireEvent (positive : 0 < debounceSeconds)
    (representable : debounceSeconds * second ≤ maxDuration)
    (fixed : rule.id = ruleID → rule.debounceSeconds = debounceSeconds)
    (own : event.ruleID = rule.id) (timed : Readable event.createdAt) :
    Action.Triple perform (Debounced (F := F) ruleID debounceSeconds) (Engine.maybeFireEvent rule event)
      (fun _ => Debounced ruleID debounceSeconds) := by
  have looksUp : Action.Triple perform (Debounced ruleID debounceSeconds)
      (call (.lastAlertEvent rule.id event.subjectKey) rfl) fun found (w : AlertWorld F) =>
        Debounced ruleID debounceSeconds w ∧ ∀ last, found = .ok last →
          Registry.lastAlertEvent event.ruleID event.subjectKey w.table = .ok last := by
    apply Program.triple_perform
    intro choice w inv
    refine ⟨inv, ?_⟩
    intro last found
    simp only [perform, Chance.call] at found
    split at found
    · rwa [own]
    · cases found
  apply Action.Triple.bind looksUp
  · intro last
    have fires (allowed : ∀ before, last = some before →
        ¬ event.createdAt.sub before.createdAt < debounce rule) :
        Action.Triple perform (fun w : AlertWorld F => Debounced ruleID debounceSeconds w ∧
          ∀ found, Except.ok (ε := GoError) last = .ok found →
            Registry.lastAlertEvent event.ruleID event.subjectKey w.table = .ok found)
          (do
            let _ ← Engine.deliverAndInsert rule event
            return ()) (fun _ => Debounced ruleID debounceSeconds) := by
      apply Action.Triple.bind
      · apply Action.Triple.mono (debounced_deliverAndInsert timed)
        · intro w holds
          refine ⟨holds.1, ?_⟩
          intro same
          apply due_of_lookup holds.1.stamped positive representable (holds.2 last rfl)
          intro before equal
          have reached := allowed before equal
          rw [own] at same
          rwa [debounce, fixed same, wrapInt64_eq (by simp only [second]; omega) representable] at reached
        · intro result w inv
          exact inv
      · intro _
        exact Action.triple_pure fun w inv => inv
      · intro cause w inv
        exact inv
    cases last with
    | none => exact fires (by simp)
    | some before =>
      simp only
      split
      · exact Action.triple_pure fun w holds => holds.1
      · next late => exact fires (by simpa using late)
  · intro cause w holds
    exact holds.1

variable (positive : 0 < debounceSeconds) (representable : debounceSeconds * second ≤ maxDuration)
  (fixed : rule.id = ruleID → rule.debounceSeconds = debounceSeconds)

include positive representable fixed

theorem debounced_fireEvents {now : Time} (timed : Readable now) {found : List AlertEvent}
    (raised : ∀ event ∈ found, RaisedAt now rule event) :
    Program.Triple perform (Debounced (F := F) ruleID debounceSeconds) (Engine.fireEvents rule found)
      (fun _ => Debounced ruleID debounceSeconds) := by
  induction found with
  | nil => exact Program.triple_ret fun w inv => inv
  | cons event rest ih =>
    obtain ⟨own, created⟩ := raised event (List.mem_cons_self ..)
    have later := ih fun event' member => raised event' (List.mem_cons_of_mem _ member)
    apply Program.Triple.bind (debounced_maybeFireEvent positive representable fixed own (created ▸ timed))
    intro outcome
    cases outcome with
    | ok _ => exact later
    | error cause =>
      apply Program.Triple.bind (triple_quiet fun _ _ => rfl)
      intro _
      exact later

theorem debounced_evaluateNodes {now : Time} (timed : Readable now) (nodes : List AlertNode) :
    Program.Triple perform (Debounced (F := F) ruleID debounceSeconds) (e.evaluateNodes now rule nodes)
      (fun _ => Debounced ruleID debounceSeconds) := by
  induction nodes with
  | nil => exact Program.triple_ret fun w inv => inv
  | cons node rest ih =>
    apply Program.Triple.bind (raised_events e now rule node)
    intro found
    apply Program.Triple.assuming
    intro raised
    apply Program.Triple.bind (debounced_fireEvents positive representable fixed timed raised)
    intro _
    exact ih

omit fixed

theorem debounced_evaluateRules {now : Time} (timed : Readable now) (nodes : List AlertNode)
    {rules : List (AlertRule F)} (allFixed : FixedDebounce ruleID debounceSeconds rules) :
    Program.Triple perform (Debounced (F := F) ruleID debounceSeconds) (e.evaluateRules now nodes rules)
      (fun _ => Debounced ruleID debounceSeconds) := by
  induction rules with
  | nil => exact Program.triple_ret fun w inv => inv
  | cons rule rest ih =>
    have later := ih fun rule' member => allFixed rule' (List.mem_cons_of_mem _ member)
    have evaluated := debounced_evaluateNodes e positive representable
      (allFixed rule (List.mem_cons_self ..)) timed nodes
    unfold Engine.evaluateRules
    by_cases enabled : rule.enabled = true
    · simp only [enabled, if_true]
      apply Program.Triple.bind evaluated
      intro _
      exact later
    · simp only [enabled]
      exact later

/-- One evaluation, whatever fails in it. -/
theorem debounced_evaluateOnce :
    Action.Triple perform (Debounced (F := F) ruleID debounceSeconds) e.evaluateOnce
      (fun _ => Debounced ruleID debounceSeconds) := by
  have reads : Program.Triple perform (Debounced (F := F) ruleID debounceSeconds) (ask .now)
      fun now w => Readable now ∧ Debounced ruleID debounceSeconds w := by
    apply Program.triple_perform
    intro choice w inv
    exact ⟨inv.clock _, { inv with }⟩
  apply Action.Triple.bind_always reads
  intro now
  apply Program.Triple.assuming
  intro timed
  have lists : Action.Triple perform (Debounced ruleID debounceSeconds) (call .listAlertRules rfl)
      fun (listed : Except GoError (List (AlertRule F))) w =>
        (∀ rules, listed = .ok rules → FixedDebounce ruleID debounceSeconds rules) ∧
          Debounced ruleID debounceSeconds w := by
    apply Program.triple_perform
    intro choice w inv
    refine ⟨?_, inv⟩
    intro rules listed
    simp only [perform, Chance.call] at listed
    split at listed
    · cases listed
      exact inv.fixed
    · cases listed
  apply Action.Triple.bind lists
  · intro rules
    apply Program.Triple.assuming
    intro allFixed
    have nodesRead : Action.Triple perform (Debounced (F := F) ruleID debounceSeconds)
        (call .listAdoptedNodes rfl) (fun _ => Debounced ruleID debounceSeconds) :=
      triple_quiet fun _ _ => rfl
    apply Action.Triple.bind nodesRead
    · intro nodes
      exact Action.triple_always
        (debounced_evaluateRules e positive representable timed nodes (allFixed rules rfl))
    · intro cause w inv
      exact inv
  · intro cause w holds
    exact holds.2

end Evaluation

/-! ## Runs -/

section Runs

variable {e} {ruleID debounceSeconds : Int} {w w' : AlertWorld F} {moments : List (Moment F)}

/-- A row that no evaluation has stored is one more row in the table. -/
theorem Debounced.insertAside {stored : List AlertEventRow} {event : AlertEvent}
    (inv : Debounced ruleID debounceSeconds { w with stored }) (timed : Readable event.createdAt) :
    Debounced ruleID debounceSeconds { w.insert event with stored } where
  clock := inv.clock
  fixed := inv.fixed
  stamped := inv.stamped.insert timed
  kept := by
    intro row member own
    have old := inv.kept row member own
    simp only [AlertWorld.insert, Registry.insertAlertEvent, List.mem_append]
    exact .inl old
  apart := inv.apart

theorem debounced_testEvent {stored : List AlertEventRow} {rule : AlertRule F} {event : AlertEvent}
    (timed : Readable event.createdAt) :
    Action.Triple perform
      (fun v : AlertWorld F => Debounced ruleID debounceSeconds { v with stored })
      (Engine.deliverAndInsert rule event)
      (fun _ v => Debounced ruleID debounceSeconds { v with stored }) := by
  apply triple_deliverAndInsert
  · intro v outcome holds
    apply Debounced.insertAside holds
    rwa [(delivered_keeps event outcome).2.2]
  · intro v holds
    exact holds

theorem Debounced.testRule (inv : Debounced ruleID debounceSeconds w) (rule : AlertRule F)
    (choices : Nat → Chance) : Debounced ruleID debounceSeconds (w.after e (.testRule rule choices)) := by
  have keeps : Action.Triple perform
      (fun v : AlertWorld F => Debounced ruleID debounceSeconds { v with stored := w.stored })
      (Engine.testRule rule)
      (fun _ v => Debounced ruleID debounceSeconds { v with stored := w.stored }) := by
    have reads : Program.Triple perform
        (fun v : AlertWorld F => Debounced ruleID debounceSeconds { v with stored := w.stored })
        (ask .now) fun now v =>
          Readable now ∧ Debounced ruleID debounceSeconds { v with stored := w.stored } := by
      apply Program.triple_perform
      intro choice v holds
      exact ⟨holds.clock _, { holds with }⟩
    apply Action.Triple.bind_always reads
    intro now
    apply Program.Triple.assuming
    intro timed
    exact debounced_testEvent timed
  exact keeps.run { state := w, choices } inv

theorem Debounced.deleteRule (inv : Debounced ruleID debounceSeconds w) {deleted : Int}
    (other : deleted ≠ ruleID) : Debounced ruleID debounceSeconds (w.after e (.deleteRule deleted)) where
  clock := inv.clock
  fixed := fun rule member => inv.fixed rule (List.mem_of_mem_filter member)
  stamped := by
    intro row member
    simp only [AlertWorld.after, forgetRule, List.mem_map] at member
    obtain ⟨old, inTable, rfl⟩ := member
    split <;> exact inv.stamped old inTable
  kept := by
    intro row member own
    simp only [AlertWorld.after, forgetRule, List.mem_map]
    refine ⟨row, inv.kept row member own, ?_⟩
    simp [own, other.symm]
  apart := inv.apart

/-- What one moment keeps. -/
theorem Debounced.step (positive : 0 < debounceSeconds)
    (representable : debounceSeconds * second ≤ maxDuration)
    (inv : Debounced ruleID debounceSeconds w) {moment : Moment F}
    (fixes : moment.Fixes ruleID debounceSeconds) :
    Debounced ruleID debounceSeconds (w.after e moment) := by
  cases moment with
  | evaluate choices =>
    exact (debounced_evaluateOnce e positive representable).run { state := w, choices } inv
  | testRule rule choices => exact inv.testRule rule choices
  | change rules nodes summaries => exact { inv with fixed := fixes }
  | deleteRule deleted => exact inv.deleteRule fixes

/-- For every run of evaluations over a clock whose readings have four-digit years and are
    not Go's zero time, in which a rule keeps a positive debounce that is a representable
    duration: of two events that evaluations have stored for the rule and one subject, the
    later one was created at least the debounce after the earlier one. -/
theorem alert_events_apart (positive : 0 < debounceSeconds)
    (representable : debounceSeconds * second ≤ maxDuration)
    (clock : ∀ n, (w.clock n).FourDigitYear) (nonzero : ∀ n, (w.clock n).isZero = false)
    (stamped : Stamped w.table) (fresh : w.stored = [])
    (fixed : FixedDebounce ruleID debounceSeconds w.rules)
    (fixes : ∀ moment ∈ moments, moment.Fixes ruleID debounceSeconds)
    (run : replay (AlertWorld.step e) w moments = some w') :
    w'.stored.Pairwise (Apart ruleID debounceSeconds) := by
  have start : Debounced ruleID debounceSeconds w :=
    { clock := fun n => ⟨clock n, nonzero n⟩
      fixed
      stamped
      kept := by simp [fresh]
      apart := by simp [fresh] }
  have inv : Debounced ruleID debounceSeconds w' := by
    clear clock nonzero stamped fresh fixed
    induction moments generalizing w with
    | nil =>
      cases run
      exact start
    | cons moment rest ih =>
      obtain ⟨v, taken, later⟩ := replay_cons.mp run
      cases taken
      have here := fixes moment (List.mem_cons_self ..)
      exact ih (fun other member => fixes other (List.mem_cons_of_mem _ member)) later
        (start.step positive representable here)
  exact inv.apart

end Runs

/-- A rule about lost communications and a node that is offline. -/
def offlineWorld (clock : Nat → Time) : AlertWorld Int where
  rules := [{ id := 1, kind := kindCommsLost, webhookURL := "https://alerts.example",
              debounceSeconds := 300, enabled := true, createdAt := Time.zero }]
  nodes := [{ id := "node-a", lastSeen := Time.zero, commsState := commsStateOffline }]
  clock := clock

def integerEngine : Engine Int where
  floats := { le := fun x y => x ≤ y, text := fun x => toString x ++ ".0" }
  nodeOfflineAfter := 0

/-- The clock steps back after the first reading; the third one is 300 seconds after it. -/
def steppingClock : Nat → Time
  | 0 => ⟨1767226200 * second + 900000000⟩
  | 1 => ⟨1767225600 * second⟩
  | _ => ⟨1767226500 * second + 950000000⟩

/-- Three evaluations; the delivery of the first event fails. -/
def threeEvaluations : List (Moment Int) :=
  [.evaluate fun _ => { delivery := .error (.text "webhook returned status 500") },
    .evaluate fun _ => {}, .evaluate fun _ => {}]

/-- The columns of a row that the debounce is about. -/
def rowStamp (row : AlertEventRow) : Option Int × String × String :=
  (row.ruleID, row.subjectKey, row.createdAt)

def storedStamps (w : AlertWorld Int) : List (Moment Int) → List (Option Int × String × String)
  | moments => (moments.foldl (AlertWorld.after integerEngine) w).stored.map rowStamp

theorem alert_events_apart_of_three :
    storedStamps (offlineWorld steppingClock) threeEvaluations =
        [(some 1, "node-a", "2026-01-01T00:10:00Z"), (some 1, "node-a", "2026-01-01T00:15:00Z")] ∧
      ∃ w', replay (AlertWorld.step integerEngine) (offlineWorld steppingClock) threeEvaluations = some w' ∧
        w'.stored.Pairwise (Apart 1 300) := by
  have readings : ∀ n, (steppingClock n).FourDigitYear ∧ (steppingClock n).isZero = false
    | 0 => by decide +kernel
    | 1 => by decide +kernel
    | n + 2 => by
      show (steppingClock 2).FourDigitYear ∧ (steppingClock 2).isZero = false
      decide +kernel
  have fixes : ∀ moment ∈ threeEvaluations, moment.Fixes 1 300 := by
    simp [threeEvaluations, Moment.Fixes]
  refine ⟨by decide +kernel, _, rfl, ?_⟩
  exact alert_events_apart (w := offlineWorld steppingClock) (by decide) (by decide)
    (fun n => (readings n).1) (fun n => (readings n).2) (by simp [offlineWorld, Stamped]) rfl
    (by simp [offlineWorld, FixedDebounce]) fixes rfl

/-- The first reading is in the year 0 and the second one is the zero time; the insertion
    of the second event then takes the third reading. -/
def yearZeroClock : Nat → Time
  | 0 => ⟨-62167219200 * second⟩
  | 1 => Time.zero
  | _ => ⟨-62167219199 * second⟩

/-- An evaluation at the zero time stores an event one second after the one before it. -/
theorem zero_reading_skips_debounce :
    ¬ ∀ (e : Engine Int) (ruleID debounceSeconds : Int) (w w' : AlertWorld Int)
      (moments : List (Moment Int)), 0 < debounceSeconds → debounceSeconds * second ≤ maxDuration →
      (∀ n, (w.clock n).FourDigitYear) → Stamped w.table → w.stored = [] →
      FixedDebounce ruleID debounceSeconds w.rules →
      (∀ moment ∈ moments, moment.Fixes ruleID debounceSeconds) →
      replay (AlertWorld.step e) w moments = some w' →
      w'.stored.Pairwise (Apart ruleID debounceSeconds) := by
  intro claim
  have fourDigits : ∀ n, (yearZeroClock n).FourDigitYear
    | 0 => by decide +kernel
    | 1 => by decide +kernel
    | n + 2 => by
      show (yearZeroClock 2).FourDigitYear
      decide +kernel
  have fixes : ∀ moment ∈ [Moment.evaluate fun _ => {}, Moment.evaluate fun _ => {}],
      (moment : Moment Int).Fixes 1 300 := by
    simp [Moment.Fixes]
  have apart := claim integerEngine 1 300 (offlineWorld yearZeroClock) _ _ (by decide) (by decide)
    fourDigits (by simp [offlineWorld, Stamped]) rfl (by simp [offlineWorld, FixedDebounce]) fixes rfl
  have stamps : storedStamps (offlineWorld yearZeroClock)
      [.evaluate fun _ => {}, .evaluate fun _ => {}] =
        [(some 1, "node-a", "0000-01-01T00:00:00Z"), (some 1, "node-a", "0000-01-01T00:00:01Z")] := by
    decide +kernel
  have apartStamps : (storedStamps (offlineWorld yearZeroClock)
      [.evaluate fun _ => {}, .evaluate fun _ => {}]).Pairwise fun first later =>
        first.1 = some 1 → later.1 = some 1 → first.2.1 = later.2.1 →
          ∃ t u, parseRFC3339 first.2.2 = some t ∧ parseRFC3339 later.2.2 = some u ∧
            t.ns + 300 * second ≤ u.ns := List.pairwise_map.mpr apart
  rw [stamps] at apartStamps
  have both : ∃ t u, parseRFC3339 "0000-01-01T00:00:00Z" = some t ∧
      parseRFC3339 "0000-01-01T00:00:01Z" = some u ∧ t.ns + 300 * second ≤ u.ns := by
    simpa using apartStamps
  obtain ⟨t, u, first, later, spaced⟩ := both
  have readsFirst : parseRFC3339 "0000-01-01T00:00:00Z" = some ⟨-62167219200 * second⟩ := by
    decide +kernel
  have readsLater : parseRFC3339 "0000-01-01T00:00:01Z" = some ⟨-62167219199 * second⟩ := by
    decide +kernel
  rw [readsFirst, Option.some.injEq] at first
  rw [readsLater, Option.some.injEq] at later
  subst first later
  simp only [second] at spaced
  omega

end Strom.Alerts
