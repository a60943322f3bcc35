import Strom.Effects.Threads
import Strom.Go.Errors
import Strom.Go.Strings

/-!
# The aggregate listener's manager (`manager.go`)

`Apply`, `start` and `stop` as programs whose operations are the sections that the
manager's mutex makes atomic and the calls between them.  `Controller` is what they
share; contexts and listeners are numbered.  `start` leaves a goroutine behind that
waits for its context or its stop channel, so that the manager runs as threads of a
`Runtime`.

The accept loop of a listener ends with the listener and changes nothing here: a
listener that is open serves clients.
-/

namespace Strom.Aggregate

open Strom.Go Strom.Effects

/-- A listening socket; `id` counts the sockets opened. -/
structure Listener where
  id : Nat
  address : String
deriving DecidableEq, Repr

/-- The manager's fields behind `mu`.  The stop channel that a start makes has the
    number of its listener. -/
structure Fields where
  enabled : Bool := false
  listen : String := ""
  listener : Option Listener := none
  stopCh : Option Nat := none
deriving DecidableEq, Repr

structure ControllerSettings where
  aggregateNUTEnabled : Bool
  aggregateNUTListen : String
deriving DecidableEq, Repr

/-- The table `controller_settings`: the values stored under the two keys. -/
structure SettingsRows where
  enabled : Option String := none
  listen : Option String := none
deriving DecidableEq, Repr

structure Controller where
  fields : Fields := {}
  /-- How many listeners have been opened. -/
  opened : Nat := 0
  /-- The open listeners. -/
  listening : List Listener := []
  closedChannels : List Nat := []
  /-- The contexts that are cancelled. -/
  cancelled : List Nat := []
  settings : SettingsRows := {}

/-! ## Operations -/

inductive AggregateOp where
  /-- The section of `Apply` that compares the request with the fields. -/
  | needsRestart (enabled : Bool) (listen : String)
  /-- The section of `stop` that takes the listener and the channel. -/
  | take
  | closeChannel (ch : Nat)
  | closeListener (ln : Listener)
  /-- The section of `Apply` for a disabled listener. -/
  | disable (listen : String)
  /-- `net.Listen`. -/
  | listen (address : String)
  /-- The section of `start`. -/
  | record (ln : Listener) (ch : Nat)
  /-- Start the goroutine that waits for the context or the channel. -/
  | watch (ctx ch : Nat)
  /-- Wait for either; whether it was the context. -/
  | select (ctx ch : Nat)
  | cancel (ctx : Nat)
  | loadSettings (defaults : ControllerSettings)
  | saveSettings (settings : ControllerSettings)
deriving DecidableEq, Repr

@[reducible] def AggregateOp.Reply : AggregateOp → Type
  | .needsRestart _ _ => Bool
  | .take => Option Listener × Option Nat
  | .closeChannel _ => Unit
  | .closeListener _ => Unit
  | .disable _ => Unit
  | .listen _ => Except GoError Listener
  | .record _ _ => Unit
  | .watch _ _ => Unit
  | .select _ _ => Bool
  | .cancel _ => Unit
  | .loadSettings _ => Except GoError ControllerSettings
  | .saveSettings _ => Except GoError Unit

instance (op : AggregateOp) : Inhabited op.Reply := by
  cases op <;> exact ⟨default⟩

abbrev AggregateProgram := Program AggregateOp AggregateOp.Reply

def defaultListen : String := ":3493"

/-- `m.stop`. -/
def stop : AggregateProgram Unit := do
  let (ln, stopCh) ← Program.perform AggregateOp.take
  match stopCh with
  | some ch => Program.perform (AggregateOp.closeChannel ch)
  | none => pure ()
  match ln with
  | some ln => Program.perform (AggregateOp.closeListener ln)
  | none => pure ()

/-- `m.start`. -/
def start (ctx : Nat) (listen : String) : AggregateProgram (Except GoError Unit) := do
  match ← Program.perform (AggregateOp.listen listen) with
  | .error e => return .error (.wrap ("start aggregate NUT listener on " ++ listen) e)
  | .ok ln =>
    Program.perform (AggregateOp.record ln ln.id)
    Program.perform (AggregateOp.watch ctx ln.id)
    return .ok ()

/-- The address `Apply` works with. -/
def listenOrDefault (listen : String) : String :=
  if trimSpace listen = "" then defaultListen else trimSpace listen

/-- `m.Apply`. -/
def apply (ctx : Nat) (enabled : Bool) (listen : String) :
    AggregateProgram (Except GoError Unit) := do
  let listen := listenOrDefault listen
  if ← Program.perform (AggregateOp.needsRestart enabled listen) then
    stop
    if enabled then start ctx listen
    else
      Program.perform (AggregateOp.disable listen)
      return .ok ()
  else return .ok ()

/-- The goroutine that `start` leaves behind. -/
def watcher (ctx ch : Nat) : AggregateProgram Unit := do
  if ← Program.perform (AggregateOp.select ctx ch) then stop else return ()

/-! ## Their meaning -/

/-- The section of `Apply` that decides whether anything changes. -/
def Fields.needsRestart (f : Fields) (enabled : Bool) (listen : String) : Bool :=
  let prevListen := if f.listen = "" then defaultListen else f.listen
  f.enabled != enabled || prevListen != listen

/-- `strconv.ParseBool`. -/
def parseBool (s : String) : Option Bool :=
  if s ∈ ["1", "t", "T", "true", "TRUE", "True"] then some true
  else if s ∈ ["0", "f", "F", "false", "FALSE", "False"] then some false
  else none

/-- `strconv.FormatBool`. -/
def formatBool (b : Bool) : String := if b then "true" else "false"

/-- `registry.LoadControllerSettings`. -/
def SettingsRows.load (rows : SettingsRows) (defaults : ControllerSettings) : ControllerSettings where
  aggregateNUTEnabled :=
    (rows.enabled.bind fun value => parseBool (trimSpace value)).getD defaults.aggregateNUTEnabled
  aggregateNUTListen :=
    match rows.listen.map trimSpace with
    | none => listenOrDefault defaults.aggregateNUTListen
    | some listen => if listen = "" then listenOrDefault defaults.aggregateNUTListen else listen

/-- `registry.SaveControllerSettings`, one transaction. -/
def SettingsRows.save (rows : SettingsRows) (settings : ControllerSettings) :
    Except GoError SettingsRows :=
  if trimSpace settings.aggregateNUTListen = "" then
    .error (.text "aggregate NUT listen address is required")
  else .ok { rows with
    enabled := some (formatBool settings.aggregateNUTEnabled)
    listen := some (trimSpace settings.aggregateNUTListen) }

/-- What the surroundings decide about an operation. -/
inductive Choice where
  | go
  /-- The socket is bound and its address reads so. -/
  | bound (address : String)
  | refused (e : GoError)
  /-- `select` takes the branch of the context. -/
  | done
  /-- `select` takes the branch of the channel. -/
  | stopped

/-- The manager's fields after the section of `stop`. -/
def Controller.taken (s : Controller) : Controller :=
  { s with fields := { s.fields with enabled := false, listener := none, stopCh := none } }

/-- A new listener at the address. -/
def Controller.opening (s : Controller) (address : String) : Listener := { id := s.opened, address }

def perform : (op : AggregateOp) → Choice → Controller → Option (op.Reply × Controller)
  | .needsRestart enabled listen, .go, s => some (s.fields.needsRestart enabled listen, s)
  | .take, .go, s => some ((s.fields.listener, s.fields.stopCh), s.taken)
  | .closeChannel ch, .go, s => some ((), { s with closedChannels := ch :: s.closedChannels })
  | .closeListener ln, .go, s => some ((), { s with listening := s.listening.erase ln })
  | .disable listen, .go, s =>
    some ((), { s with fields := { s.fields with enabled := false, listen } })
  | .listen _, .bound address, s =>
    -- an address that is in use is refused
    if address ∈ s.listening.map (·.address) then none
    else some (.ok (s.opening address),
      { s with opened := s.opened + 1, listening := s.opening address :: s.listening })
  | .listen _, .refused e, s => some (.error e, s)
  | .record ln ch, .go, s =>
    some ((), { s with
      fields := { enabled := true, listen := ln.address, listener := some ln, stopCh := some ch } })
  | .watch _ _, .go, s => some ((), s)
  | .select ctx _, .done, s => if ctx ∈ s.cancelled then some (true, s) else none
  | .select _ ch, .stopped, s => if ch ∈ s.closedChannels then some (false, s) else none
  | .cancel ctx, .go, s => some ((), { s with cancelled := ctx :: s.cancelled })
  | .loadSettings defaults, .go, s => some (.ok (s.settings.load defaults), s)
  | .loadSettings _, .refused e, s => some (.error e, s)
  | .saveSettings settings, .go, s =>
    match s.settings.save settings with
    | .ok settings => some (.ok (), { s with settings })
    | .error e => some (.error e, s)
  | .saveSettings _, .refused e, s => some (.error e, s)
  | _, _, _ => none

/-! ## What an operation can do -/

section Performs

attribute [local simp] perform

variable {choice : Choice} {s s' : Controller}

theorem perform_needsRestart {enabled : Bool} {listen : String} {needed : Bool} :
    perform (.needsRestart enabled listen) choice s = some (needed, s') ↔
      choice = .go ∧ needed = s.fields.needsRestart enabled listen ∧ s' = s := by
  cases choice <;> simp [eq_comm]

theorem perform_take {taken : Option Listener × Option Nat} :
    perform .take choice s = some (taken, s') ↔
      choice = .go ∧ taken = (s.fields.listener, s.fields.stopCh) ∧ s' = s.taken := by
  cases choice <;> simp [eq_comm]

theorem perform_closeChannel {ch : Nat} {u : Unit} :
    perform (.closeChannel ch) choice s = some (u, s') ↔
      choice = .go ∧ s' = { s with closedChannels := ch :: s.closedChannels } := by
  cases choice <;> simp [eq_comm]

theorem perform_closeListener {ln : Listener} {u : Unit} :
    perform (.closeListener ln) choice s = some (u, s') ↔
      choice = .go ∧ s' = { s with listening := s.listening.erase ln } := by
  cases choice <;> simp [eq_comm]

theorem perform_disable {listen : String} {u : Unit} :
    perform (.disable listen) choice s = some (u, s') ↔
      choice = .go ∧ s' = { s with fields := { s.fields with enabled := false, listen } } := by
  cases choice <;> simp [eq_comm]

theorem perform_listen_ok {address : String} {ln : Listener} :
    perform (.listen address) choice s = some (.ok ln, s') ↔
      choice = .bound ln.address ∧ ln.address ∉ s.listening.map (·.address) ∧ ln.id = s.opened ∧
        s' = { s with opened := s.opened + 1, listening := ln :: s.listening } := by
  obtain ⟨id, bound⟩ := ln
  cases choice <;> simp [Controller.opening]
  grind

theorem perform_listen_error {address : String} {e : GoError} :
    perform (.listen address) choice s = some (.error e, s') ↔ choice = .refused e ∧ s' = s := by
  cases choice <;> simp [eq_comm]

theorem perform_record {ln : Listener} {ch : Nat} {u : Unit} :
    perform (.record ln ch) choice s = some (u, s') ↔ choice = .go ∧ s' = { s with fields :=
      { enabled := true, listen := ln.address, listener := some ln, stopCh := some ch } } := by
  cases choice <;> simp [eq_comm]

theorem perform_watch {ctx ch : Nat} {u : Unit} :
    perform (.watch ctx ch) choice s = some (u, s') ↔ choice = .go ∧ s' = s := by
  cases choice <;> simp [eq_comm]

theorem perform_select_done {ctx ch : Nat} :
    perform (.select ctx ch) choice s = some (true, s') ↔
      choice = .done ∧ ctx ∈ s.cancelled ∧ s' = s := by
  cases choice <;> simp [eq_comm]

theorem perform_select_closed {ctx ch : Nat} :
    perform (.select ctx ch) choice s = some (false, s') ↔
      choice = .stopped ∧ ch ∈ s.closedChannels ∧ s' = s := by
  cases choice <;> simp [eq_comm]

theorem perform_cancel {ctx : Nat} {u : Unit} :
    perform (.cancel ctx) choice s = some (u, s') ↔
      choice = .go ∧ s' = { s with cancelled := ctx :: s.cancelled } := by
  cases choice <;> simp [eq_comm]

theorem perform_loadSettings_ok {defaults settings : ControllerSettings} :
    perform (.loadSettings defaults) choice s = some (.ok settings, s') ↔
      choice = .go ∧ settings = s.settings.load defaults ∧ s' = s := by
  cases choice <;> simp [eq_comm]

theorem perform_loadSettings_error {defaults : ControllerSettings} {e : GoError} :
    perform (.loadSettings defaults) choice s = some (.error e, s') ↔
      choice = .refused e ∧ s' = s := by
  cases choice <;> simp [eq_comm]

theorem perform_saveSettings_ok {settings : ControllerSettings} {u : Unit} :
    perform (.saveSettings settings) choice s = some (.ok u, s') ↔
      choice = .go ∧ ∃ rows, s.settings.save settings = .ok rows ∧ s' = { s with settings := rows } := by
  cases choice <;> simp
  cases s.settings.save settings <;> simp [eq_comm]

theorem perform_saveSettings_error {settings : ControllerSettings} {e : GoError}
    (performed : perform (.saveSettings settings) choice s = some (.error e, s')) : s' = s := by
  cases choice <;> simp at performed
  · cases saved : s.settings.save settings <;> simp_all
  · exact performed.2.symm

/-! What an operation leaves alone. -/

variable {op : AggregateOp} {reply : op.Reply}

/-- Only `stop` and `start` change which listener is recorded. -/
theorem perform_keeps_listener (performed : perform op choice s = some (reply, s'))
    (notTake : op ≠ .take) (notRecord : ∀ ln ch, op ≠ .record ln ch) :
    s'.fields.listener = s.fields.listener ∧ s'.fields.stopCh = s.fields.stopCh := by
  cases op <;> cases choice <;> simp_all <;> grind

theorem perform_keeps_fields (performed : perform op choice s = some (reply, s'))
    (notTake : op ≠ .take) (notRecord : ∀ ln ch, op ≠ .record ln ch)
    (notDisable : ∀ listen, op ≠ .disable listen) : s'.fields = s.fields := by
  cases op <;> cases choice <;> simp_all <;> grind

/-- Only a store changes the settings. -/
theorem perform_keeps_settings (performed : perform op choice s = some (reply, s'))
    (notSave : ∀ settings, op ≠ .saveSettings settings) : s'.settings = s.settings := by
  cases op <;> cases choice <;> simp_all [Controller.taken] <;> grind

/-- A cancelled context stays cancelled. -/
theorem perform_keeps_cancelled (performed : perform op choice s = some (reply, s')) {ctx : Nat}
    (cancelled : ctx ∈ s.cancelled) : ctx ∈ s'.cancelled := by
  cases op <;> cases choice <;> simp_all [Controller.taken] <;> grind

end Performs

end Strom.Aggregate
