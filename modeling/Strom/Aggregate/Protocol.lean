import Mathlib.Data.List.Sort
import Strom.Effects.Trace
import Strom.Go.Strings

/-!
# The aggregate NUT protocol (`manager.go`)

One client session of the controller's aggregate NUT listener: `handleCommand`
answers one line, `handleConn` reads lines until one of them, or a failed write,
ends the session.  The backend is reached by the operations of `BackendOp` only,
so that what a line performs can be read off the trace of its program.
-/

namespace Strom.Aggregate

open Strom.Go Strom.Effects

structure UPS where
  name : String
  description : String
  vars : List (String × String)

structure Command where
  name : String
  description : String

/-- What `errors.Is(err, ErrUnknownUPS)` tells apart. -/
inductive BackendError where
  | unknownUPS
  | other (message : String)
deriving DecidableEq, Repr, Inhabited

inductive BackendOp where
  | list
  | listCommands (ups : String)
  | runCommand (ups command : String)
deriving DecidableEq, Repr

@[reducible] def BackendOp.Reply : BackendOp → Type
  | .list => Except BackendError (List UPS)
  | .listCommands _ => Except BackendError (List Command)
  | .runCommand _ _ => Except BackendError Unit

abbrev BackendProgram := Program BackendOp BackendOp.Reply

/-- A command that ends early answers with the error's response lines. -/
abbrev Answer := Action BackendOp BackendOp.Reply (List String)

abbrev Authenticator := String → String → Bool

/-- The manager's fields that a session reads. -/
structure Serving where
  auth : Option Authenticator := none
  /-- `m.backend` is set. -/
  backend : Bool := true

structure NutSession where
  username : String := ""
  authed : Bool := false
deriving DecidableEq, Repr

/-- `fmt.Sprintf("%s \"%s\"", ..)`: the value as a quoted NUT string. -/
def escapeNUTString (value : String) : String :=
  String.ofList (value.toList.flatMap fun c =>
    if c = '\\' then ['\\', '\\'] else if c = '"' then ['\\', '"'] else [c])

def firstNonEmpty : List String → String
  | [] => ""
  | value :: values => if trimSpace value ≠ "" then trimSpace value else firstNonEmpty values

def quoted (text : String) : String := "\"" ++ escapeNUTString text ++ "\""

def byName {α : Type} (name : α → String) (items : List α) : List α :=
  items.mergeSort fun a b => decide (name a ≤ name b)

/-- `m.authenticate`. -/
def Serving.authenticate (m : Serving) (username password : String) : Bool :=
  match m.auth with
  | some auth => auth (trimSpace username) (trimSpace password)
  | none => decide (trimSpace username ≠ "") && decide (trimSpace password ≠ "")

/-! ## The commands behind the password -/

/-- The response to an error of a backend operation. -/
def refusal (otherwise : String) : BackendError → List String
  | .unknownUPS => ["ERR UNKNOWN-UPS"]
  | .other _ => [otherwise]

def backendList : Action BackendOp BackendOp.Reply BackendError (List UPS) :=
  .ofProgram (.perform BackendOp.list)

def lookupUPS (name : String) : Action BackendOp BackendOp.Reply BackendError UPS := do
  let upses ← backendList
  match upses.find? (·.name = name) with
  | some ups => return ups
  | none => throw .unknownUPS

def upsOrRefuse (name : String) : Answer UPS :=
  Action.mapError (refusal "ERR DRIVER-NOT-CONNECTED") (lookupUPS name)

def commandsOf (ups : UPS) : Answer (List Command) :=
  Action.mapError (refusal "ERR DRIVER-NOT-CONNECTED")
    (.ofProgram (.perform (BackendOp.listCommands ups.name)))

def listUPS : Answer (List String) := do
  let upses ← Action.mapError (fun _ => ["ERR DRIVER-NOT-CONNECTED"]) backendList
  let lines := (byName (·.name) upses).map fun ups =>
    "UPS " ++ ups.name ++ " " ++ quoted (firstNonEmpty [ups.description, ups.name])
  return ["BEGIN LIST UPS"] ++ lines ++ ["END LIST UPS"]

def listVar (name : String) : Answer (List String) := do
  let ups ← upsOrRefuse name
  let lines := (byName (·.1) ups.vars).map fun entry =>
    "VAR " ++ ups.name ++ " " ++ entry.1 ++ " " ++ quoted entry.2
  return ["BEGIN LIST VAR " ++ ups.name] ++ lines ++ ["END LIST VAR " ++ ups.name]

def listCmd (name : String) : Answer (List String) := do
  let ups ← upsOrRefuse name
  let commands ← commandsOf ups
  let lines := (byName (·.name) commands).map fun command =>
    "CMD " ++ ups.name ++ " " ++ command.name
  return ["BEGIN LIST CMD " ++ ups.name] ++ lines ++ ["END LIST CMD " ++ ups.name]

def getVar (name key : String) : Answer (List String) := do
  let ups ← upsOrRefuse name
  match ups.vars.lookup key with
  | none => return ["ERR VAR-NOT-SUPPORTED"]
  | some value => return ["VAR " ++ ups.name ++ " " ++ key ++ " " ++ quoted value]

def getCmdDesc (name requested : String) : Answer (List String) := do
  let ups ← upsOrRefuse name
  let commands ← commandsOf ups
  match commands.find? (·.name = requested) with
  | none => return ["ERR CMD-NOT-SUPPORTED"]
  | some command =>
    return ["CMDDESC " ++ ups.name ++ " " ++ command.name ++ " " ++
      quoted (firstNonEmpty [command.description, command.name])]

def instCmd (name command : String) : Answer (List String) := do
  let _ ← upsOrRefuse name
  Action.mapError (refusal "ERR FAILED") (.ofProgram (.perform (BackendOp.runCommand name command)))
  return ["OK"]

/-- The commands of an authenticated client with a backend; `args` are the fields
    after the command. -/
def backendCommand (command : String) (args : List String) : Answer (List String) :=
  if command = "LIST" then
    match args with
    | [] => pure ["ERR INVALID-ARGUMENT"]
    | target :: rest =>
      if toUpper target = "UPS" then
        if rest = [] then listUPS else pure ["ERR INVALID-ARGUMENT"]
      else if toUpper target = "VAR" then
        match rest with
        | [] => pure ["ERR INVALID-ARGUMENT"]
        | name :: _ => listVar name
      else if toUpper target = "CMD" then
        match rest with
        | [] => pure ["ERR INVALID-ARGUMENT"]
        | name :: _ => listCmd name
      else pure ["ERR UNKNOWN-COMMAND"]
  else if command = "GET" then
    match args with
    | target :: name :: item :: _ =>
      if toUpper target = "VAR" then getVar name item
      else if toUpper target = "CMDDESC" then getCmdDesc name item
      else pure ["ERR UNKNOWN-COMMAND"]
    | _ => pure ["ERR INVALID-ARGUMENT"]
  else if command = "INSTCMD" then
    match args with
    | name :: item :: _ => instCmd name item
    | _ => pure ["ERR INVALID-ARGUMENT"]
  else pure ["ERR UNKNOWN-COMMAND"]

/-- The response lines of an answer of either kind. -/
def respond (answer : Answer (List String)) : BackendProgram (List String) :=
  answer.toProgram.bind fun
    | .ok lines => .ret lines
    | .error lines => .ret lines

/-! ## One line -/

/-- What a line leaves behind: the session, the response lines and whether the
    connection stays open. -/
structure Handled where
  session : NutSession
  response : List String
  keepOpen : Bool := true

/-- `m.handleCommand`. -/
def handleCommand (m : Serving) (session : NutSession) (line : String) : BackendProgram Handled :=
  match fields line with
  | [] => .ret { session, response := [] }
  | first :: args =>
    let command := toUpper first
    if command = "QUIT" ∨ command = "LOGOUT" then
      .ret { session, response := ["OK Goodbye"], keepOpen := false }
    else if command = "USERNAME" then
      match args with
      | [] => .ret { session, response := ["ERR INVALID-ARGUMENT"] }
      | name :: _ =>
        .ret { session := { username := trimSpace name, authed := false }, response := ["OK"] }
    else if command = "PASSWORD" then
      match args with
      | [] => .ret { session, response := ["ERR ACCESS-DENIED"] }
      | password :: _ =>
        if trimSpace session.username = "" then
          .ret { session, response := ["ERR ACCESS-DENIED"] }
        else if m.authenticate session.username (trimSpace password) then
          .ret { session := { session with authed := true }, response := ["OK"] }
        else
          .ret { session := { session with authed := false }, response := ["ERR ACCESS-DENIED"] }
    else if session.authed = false then .ret { session, response := ["ERR ACCESS-DENIED"] }
    else if m.backend = false then .ret { session, response := ["ERR DRIVER-NOT-CONNECTED"] }
    else (respond (backendCommand command args)).bind fun response => .ret { session, response }

/-! ## The connection -/

/-- A line as `ReadString` returns it, the manager's fields while it is handled,
    and whether its response can be written to the connection. -/
structure Incoming where
  line : String
  manager : Serving
  written : Bool := true

/-- One round of the loop of `handleConn`; `none` ends the session. -/
def handleLine (session : NutSession) (incoming : Incoming) : BackendProgram (Option NutSession) :=
  let line := trimSpace incoming.line
  if line = "" then .ret (some session)
  else
    (handleCommand incoming.manager session line).bind fun handled =>
      -- an empty response writes nothing, so no write of it fails
      if handled.response ≠ [] ∧ incoming.written = false then .ret none
      else if handled.keepOpen then .ret (some handled.session)
      else .ret none

/-- `m.handleConn` on the lines it reads: the session that waits for the next line,
    or `none` once the session is over. -/
def handleConn (session : NutSession) : List Incoming → BackendProgram (Option NutSession)
  | [] => .ret (some session)
  | incoming :: rest =>
    (handleLine session incoming).bind fun
      | none => .ret none
      | some session => handleConn session rest

end Strom.Aggregate
