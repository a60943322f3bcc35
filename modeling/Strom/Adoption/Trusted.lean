import Strom.Adoption.Adopter
import Strom.Effects.Threads

/-!
# Adopted nodes have their trust stored

Adoptions, forgettings and discoveries as threads over the table of nodes.  An
adoption stores the trust first and the flag after it, in two statements.  The
invariant `Sound` says that adopted rows have complete trust, and so has the row of
every node whose flag is about to be set.  Only a discovery that inserts such a row
anew breaks it (`adopted_rows_trusted`).
-/

namespace Strom.Registry

open Strom.Go

/-- Everything that the trusted calls to a node and the aggregate listener read. -/
structure Trust.Complete (trust : Trust) : Prop where
  tlsPort : trust.tlsPort ≠ 0
  tlsFingerprint : trust.tlsFingerprint ≠ ""
  nutUser : trust.nutUser ≠ ""
  apiTokenEnc : trust.apiTokenEnc ≠ ""
  nutPasswordEnc : trust.nutPasswordEnc ≠ ""

end Strom.Registry

namespace Strom.Adoption

open Strom.Go Strom.Effects Strom.Registry

/-! ## Threads over the table -/

/-- What the surroundings decide about an operation: the replies of whatever is not the
    table, whether a statement fails, before or after it took effect, and the time. -/
structure Choice where
  answer : (op : ControllerOp) → op.Reply
  fault : Option (Bool × GoError) := none
  now : String := ""

/-- A statement that may fail. -/
def Choice.statement (choice : Choice) (rows : Rows) (outcome : Except RegistryError Unit × Rows) :
    Except RegistryError Unit × Rows :=
  match choice.fault with
  | none => outcome
  | some (applied, e) => (.error (.other e), if applied then outcome.2 else rows)

/-- The effect of each operation on the table. -/
def perform : (op : ControllerOp) → Choice → Rows → op.Reply × Rows
  | .saveNodeTrust id trust, choice, rows => choice.statement rows (saveNodeTrust id trust rows)
  | .setNodeAdopted id adopted, choice, rows =>
    choice.statement rows (setNodeAdopted id adopted choice.now rows)
  | .deleteNode id, choice, rows => choice.statement rows (deleteNode id rows)
  | .upsertDiscoveredNode node, choice, rows =>
    choice.statement rows (upsertDiscoveredNode node rows)
  | .listNodes, choice, rows =>
    (match choice.fault with | none => .ok rows | some (_, e) => .error (.other e), rows)
  | .getNode id, choice, rows =>
    (match choice.fault with | none => getNode id rows | some (_, e) => .error (.other e), rows)
  | op, choice, rows => (choice.answer op, rows)

inductive Task where
  | adopt (caPEM host id : String)
  | forget (id : String)
  /-- Any request that begins with `syncLiveNodes`. -/
  | discover
deriving DecidableEq, Repr

def Task.code : Task → ControllerProgram Unit
  | .adopt caPEM host id => (handleAdoptNode caPEM host id).bind fun _ => .ret ()
  | .forget id => (handleForgetNode id).bind fun _ => .ret ()
  | .discover => (Action.toProgram syncLiveNodes).bind fun _ => .ret ()

def runtime : Runtime Task ControllerOp ControllerOp.Reply Choice Rows where
  code := Task.code
  perform := fun op choice rows => some (perform op choice rows)
  starts := fun _ => []

abbrev NodesPool := Pool Rows (Thread Task ControllerOp ControllerOp.Reply)

/-! ## Stages -/

inductive Stage where
  | elsewhere
  /-- The trust of the node is stored and its flag is not. -/
  | trusted (id : String)
deriving DecidableEq

instance (trust : Trust) : Decidable trust.Complete :=
  decidable_of_iff (trust.tlsPort ≠ 0 ∧ trust.tlsFingerprint ≠ "" ∧ trust.nutUser ≠ "" ∧
      trust.apiTokenEnc ≠ "" ∧ trust.nutPasswordEnc ≠ "")
    ⟨fun ⟨a, b, c, d, e⟩ => ⟨a, b, c, d, e⟩, fun ⟨a, b, c, d, e⟩ => ⟨a, b, c, d, e⟩⟩

def Stage.next : Stage → (op : ControllerOp) → op.Reply → Option Stage
  | .elsewhere, .saveNodeTrust id trust, reply =>
    if trust.Complete then
      match reply with
      | .ok _ => some (.trusted id)
      | .error _ => some .elsewhere
    else none
  | .elsewhere, .setNodeAdopted _ _, _ => none
  | .elsewhere, _, _ => some .elsewhere
  | .trusted id, .setNodeAdopted id' adopted, _ =>
    if id' = id ∧ adopted then some .elsewhere else none
  | .trusted _, _, _ => none

/-- The operations that neither write the trust nor the flag. -/
def Elsewhere : ControllerOp → Prop
  | .saveNodeTrust _ _ => False
  | .setNodeAdopted _ _ => False
  | _ => True

theorem elsewhere_stays (op : ControllerOp) (reply : op.Reply) (elsewhere : Elsewhere op) :
    Stage.elsewhere.next op reply = some .elsewhere := by
  cases op <;> simp_all [Elsewhere, Stage.next]

theorem only_upsertAll (lives : List LiveNode) : Action.Only Elsewhere (upsertAll lives) := by
  induction lives with
  | nil => exact Action.only_pure ()
  | cons live rest ih => exact Action.Only.bind (only_statement rfl trivial) fun _ => ih

theorem only_syncLiveNodes : Action.Only Elsewhere syncLiveNodes := by
  apply Action.Only.bind (only_statement rfl trivial)
  intro _
  apply Action.Only.bind (only_always trivial)
  intro lives
  exact only_upsertAll lives

theorem only_buildNodeResponse (id : String) : Action.Only Elsewhere (buildNodeResponse id) := by
  apply Action.Only.bind only_syncLiveNodes
  intro _
  apply Action.Only.bind (only_statement rfl trivial)
  intro row
  apply Action.Only.bind (only_always trivial)
  intro lives
  apply Action.Only.bind (only_statement rfl trivial)
  intro _
  exact Action.only_pure _

theorem only_adoptAttempt (url : String) (request : AdoptRequest) (last : Bool) :
    Action.Only Elsewhere (adoptAttempt url request last) := by
  apply Action.Only.bind (only_fallible rfl id trivial)
  intro _
  apply Action.Only.bind (only_always trivial)
  intro _
  apply Action.Only.bind (only_always trivial)
  intro reply
  cases reply with
  | error e =>
    cases last with
    | true => exact Action.only_pure _
    | false => exact Action.Only.bind (only_always trivial) fun _ => Action.only_pure _
  | ok reply =>
    dsimp only
    split_ifs <;> exact Action.only_pure _

theorem only_adoptExchange (url : String) (request : AdoptRequest) (left : Nat) :
    Action.Only Elsewhere (adoptExchange url request left) := by
  induction left with
  | zero =>
    apply Action.Only.bind (only_adoptAttempt url request true)
    intro attempt
    cases attempt with
    | accepted reply => exact Action.only_pure _
    | rejected e again => exact Action.only_throw _
  | succ left ih =>
    apply Action.Only.bind (only_adoptAttempt url request false)
    intro attempt
    match attempt with
    | .accepted reply => exact Action.only_pure _
    | .rejected e false => exact Action.only_throw _
    | .rejected e true =>
      apply Action.Only.bind (only_always trivial)
      intro waited
      cases waited with
      | ok _ => exact ih
      | error _ => exact Action.only_throw _

theorem follows_elsewhere {α : Type} {x : ControllerAction α} (only : Action.Only Elsewhere x) :
    Action.Follows Stage.next x (fun stage _ => stage = .elsewhere) .elsewhere :=
  Program.Only.follows only elsewhere_stays

/-- A part of `adoptNode` that writes neither, and what comes after it. -/
theorem follows_seq {α β : Type} {x : ControllerAction α} {f : α → ControllerAction β}
    (only : Action.Only Elsewhere x)
    (rest : ∀ value, Action.Follows Stage.next (f value) (fun stage _ => stage = .elsewhere) .elsewhere) :
    Action.Follows Stage.next (x >>= f) (fun stage _ => stage = .elsewhere) .elsewhere := by
  refine Action.Follows.bind (follows_elsewhere only) ?_ (fun _ _ here => here)
  intro stage value here
  subst here
  exact rest value

/-- The verified answer names a port and a fingerprint. -/
theorem follows_verify (address : String) (port : Int) (apiToken fingerprint : String) :
    Action.Follows Stage.next (verifyPinnedNodeHealth address port apiToken fingerprint)
      (fun stage result => stage = .elsewhere ∧
        (result.isOk = true → port ≠ 0 ∧ fingerprint ≠ "")) .elsewhere := by
  unfold verifyPinnedNodeHealth
  split
  · exact ⟨rfl, fun ok => by cases ok⟩
  · next inputs =>
    simp only [not_or] at inputs
    intro reply
    exact ⟨.elsewhere, rfl, rfl, fun _ => ⟨inputs.2.1, inputs.2.2.2⟩⟩

theorem follows_adoptNode (caPEM host : String) (node : NodeResponse) :
    Action.Follows Stage.next (adoptNode caPEM host node) (fun stage _ => stage = .elsewhere)
      .elsewhere := by
  unfold adoptNode
  refine follows_seq (only_fallible rfl id trivial) fun nutPassword => ?_
  refine follows_seq (only_fallible rfl id trivial) fun apiToken => ?_
  refine follows_seq (only_adoptExchange _ _ _) fun reply => ?_
  refine follows_seq (Action.only_ofExcept _) fun response => ?_
  refine Action.Follows.bind (follows_verify _ _ _ _) ?_ (fun _ _ post => post.1)
  intro stage _ ⟨here, verified⟩
  subst here
  obtain ⟨port, fingerprint⟩ := verified rfl
  refine follows_seq (only_fallible rfl _ trivial) fun sealedToken => ?_
  refine follows_seq (only_fallible rfl _ trivial) fun sealedPassword => ?_
  rw [Action.follows_bind]
  intro saved
  have complete : Trust.Complete
      { controllerURL := controllerURLFromRequest host
        tlsPort := response.tlsPort
        tlsFingerprint := response.tlsFingerprint
        nutUser := "controller"
        apiTokenEnc := sealedToken.text
        nutPasswordEnc := sealedPassword.text } :=
    ⟨port, fingerprint, by simp, sealedToken.nonempty, sealedPassword.nonempty⟩
  cases saved with
  | error e => exact ⟨.elsewhere, if_pos complete, rfl⟩
  | ok _ =>
    refine ⟨.trusted node.id, if_pos complete, ?_⟩
    -- the flag is the next thing that is written
    intro flagged
    refine ⟨.elsewhere, if_pos ⟨rfl, rfl⟩, ?_⟩
    cases flagged with
    | error e => rfl
    | ok _ =>
      refine follows_seq (only_buildNodeResponse _) fun updated => ?_
      exact follows_elsewhere (Action.only_pure _)

theorem follows_code (task : Task) :
    task.code.Follows Stage.next (fun stage _ => stage = .elsewhere) .elsewhere := by
  cases task with
  | adopt caPEM host id =>
    rw [Task.code, Program.follows_bind]
    unfold handleAdoptNode
    split_ifs
    · exact rfl
    · refine (Program.follows_bind _ _ _).mpr ((follows_elsewhere (only_buildNodeResponse id)).mono ?_)
      intro stage result here
      subst here
      cases result with
      | error e => exact rfl
      | ok node =>
        dsimp only
        split_ifs
        · exact rfl
        · refine (Program.follows_bind _ _ _).mpr ((follows_adoptNode caPEM host node).mono ?_)
          intro stage result here
          cases result <;> exact here
  | forget id =>
    rw [Task.code, Program.follows_bind]
    unfold handleForgetNode
    split_ifs
    · exact rfl
    · intro deleted
      refine ⟨.elsewhere, rfl, ?_⟩
      cases deleted <;> exact rfl
  | discover =>
    rw [Task.code, Program.follows_bind]
    exact (follows_elsewhere only_syncLiveNodes).mono fun _ _ here => here

/-! ## What an operation leaves of the rows -/

/-- Where a row of the table comes from after an operation. -/
inductive Origin (op : ControllerOp) (rows : Rows) (row : NodeRow) : Prop
  | kept (old : NodeRow) (member : old ∈ rows) (id : row.id = old.id)
      (trust : row.trust = old.trust) (adopted : row.adopted = old.adopted)
  | flagged (old : NodeRow) (member : old ∈ rows) (id : row.id = old.id)
      (trust : row.trust = old.trust) (write : op = .setNodeAdopted row.id row.adopted)
  | stored (write : op = .saveNodeTrust row.id row.trust)
  | inserted (node : DiscoveredNode) (write : op = .upsertDiscoveredNode node)
      (missing : find rows node.id = none) (new : row = node.row)

variable {op : ControllerOp} {choice : Choice} {rows : Rows} {row : NodeRow}

theorem Origin.same (member : row ∈ rows) : Origin op rows row := .kept row member rfl rfl rfl

theorem mem_statement {outcome : Except RegistryError Unit × Rows}
    (member : row ∈ (choice.statement rows outcome).2) : row ∈ rows ∨ row ∈ outcome.2 := by
  unfold Choice.statement at member
  split at member
  · exact .inr member
  · simp only at member
    split_ifs at member
    · exact .inr member
    · exact .inl member

/-- A stored trust is the one of every row with that id. -/
theorem trust_of_saved {id : String} {trust : Trust} {u : Unit} {rows' : Rows}
    (saved : perform (.saveNodeTrust id trust) choice rows = (.ok u, rows')) (member : row ∈ rows')
    (same : row.id = id) : row.trust = trust := by
  simp only [perform, Choice.statement, saveNodeTrust, affecting] at saved
  split at saved
  · split_ifs at saved
    · cases saved
      rcases mem_update.mp member with ⟨-, apart⟩ | ⟨old, -, -, rfl⟩
      · exact absurd same apart
      · rfl
    · cases saved
  · cases saved

theorem origin_perform (member : row ∈ (perform op choice rows).2) : Origin op rows row := by
  cases op with
  | saveNodeTrust id trust =>
    rcases mem_statement member with before | changed
    · exact .same before
    rcases mem_affecting changed with updated | ⟨-, before⟩
    · rcases mem_update.mp updated with ⟨before, -⟩ | ⟨old, before, found, rfl⟩
      · exact .same before
      · exact .stored (by simp [found])
    · exact .same before
  | setNodeAdopted id adopted =>
    rcases mem_statement member with before | changed
    · exact .same before
    rcases mem_affecting changed with updated | ⟨-, before⟩
    · rcases mem_update.mp updated with ⟨before, -⟩ | ⟨old, before, found, rfl⟩
      · exact .same before
      · exact .flagged old before rfl rfl (by simp [found])
    · exact .same before
  | deleteNode id =>
    rcases mem_statement member with before | changed
    · exact .same before
    rcases mem_affecting changed with left | ⟨-, before⟩
    · exact .same (List.mem_filter.mp left).1
    · exact .same before
  | upsertDiscoveredNode node =>
    rcases mem_statement member with before | changed
    · exact .same before
    unfold upsertDiscoveredNode at changed
    split_ifs at changed with unnamed known
    · exact .same changed
    · rcases mem_update.mp changed with ⟨before, -⟩ | ⟨old, before, -, rfl⟩
      · exact .same before
      · exact .kept old before rfl rfl rfl
    · rcases List.mem_append.mp changed with before | new
      · exact .same before
      · exact .inserted node rfl (by simpa using known) (List.mem_singleton.mp new)
  | _ => exact .same member

/-! ## The invariant -/

/-- Adopted rows have complete trust, and so have those whose flag is set next. -/
structure Sound (places : List (Task × Stage)) (rows : Rows) : Prop where
  adopted : ∀ row ∈ rows, row.adopted = true → row.trust.Complete
  trusted : ∀ task id, (task, Stage.trusted id) ∈ places →
    ∀ row ∈ rows, row.id = id → row.trust.Complete

/-- A discovery inserts no row anew whose flag is about to be set. -/
def Unraced (pool : NodesPool) (turn : Turn Choice) : Bool :=
  match Runtime.opOf pool turn with
  | some (.upsertDiscoveredNode node) => (find pool.state node.id).isSome ||
      pool.threads.all fun thread => thread.op? ≠ some (.setNodeAdopted node.id true)
  | _ => true

theorem sound_step {places : List (Task × Stage)} {rows rows' : Rows} {i : Nat} {task : Task}
    {stage stage' : Stage} {op : ControllerOp} {reply : op.Reply} (sound : Sound places rows)
    (found : places[i]? = some (task, stage)) (reached : stage.next op reply = some stage')
    (performed : perform op choice rows = (reply, rows'))
    (unraced : ∀ node, op = .upsertDiscoveredNode node → find rows node.id = none →
      ∀ task, (task, Stage.trusted node.id) ∉ places) :
    Sound (places.set i (task, stage')) rows' := by
  have origin : ∀ row ∈ rows', Origin op rows row := by
    intro row member
    apply origin_perform
    rw [performed]
    exact member
  have here : (task, stage) ∈ places := List.mem_of_getElem? found
  -- a stored trust is complete, and a flag is set where the trust is stored
  have stored : ∀ row : NodeRow, op = .saveNodeTrust row.id row.trust → row.trust.Complete := by
    rintro row rfl
    cases stage <;> simp [Stage.next] at reached
    exact reached.1
  have flagged : ∀ row : NodeRow, op = .setNodeAdopted row.id row.adopted →
      stage = .trusted row.id := by
    rintro row rfl
    cases stage <;> simp [Stage.next] at reached
    rw [reached.1.1]
  constructor
  · intro row member adopted
    cases origin row member with
    | kept old before _ trust same =>
      rw [trust]
      exact sound.adopted old before (same ▸ adopted)
    | flagged old before same trust write =>
      rw [trust]
      exact sound.trusted task row.id (flagged row write ▸ here) old before same.symm
    | stored write => exact stored row write
    | inserted node _ _ new =>
      subst new
      cases adopted
  · intro task' id member row there same
    rcases List.mem_or_eq_of_mem_set member with before | moved
    · cases origin row there with
      | kept old inside sameId trust _ =>
        rw [trust]
        exact sound.trusted task' id before old inside (sameId ▸ same)
      | flagged old inside sameId trust _ =>
        rw [trust]
        exact sound.trusted task' id before old inside (sameId ▸ same)
      | stored write => exact stored row write
      | inserted node write missing new =>
        subst new
        subst same
        exact absurd before (unraced node write missing task')
    · -- the thread has just stored the trust of `id`
      cases moved
      cases stage with
      | trusted id' => cases op <;> simp [Stage.next] at reached
      | elsewhere =>
        cases op <;> simp [Stage.next] at reached
        case saveNodeTrust id' trust =>
          obtain ⟨complete, reached⟩ := reached
          cases reply with
          | error e => cases reached
          | ok u =>
            cases reached
            rw [trust_of_saved performed there same]
            exact complete

/-- The flag is what a thread at `trusted` writes next. -/
theorem op?_of_trusted {task : Task} {id : String}
    {thread : Thread Task ControllerOp ControllerOp.Reply}
    (here : Runtime.At (fun _ => Stage.next) (fun _ stage => stage = .elsewhere)
      (task, .trusted id) thread) : thread.op? = some (.setNodeAdopted id true) := by
  cases issues : thread.op? with
  | none => cases here.op?_eq_none issues
  | some op =>
    obtain ⟨rest, same⟩ := Thread.op?_eq_some.mp issues
    have follows := here.follows
    rw [same] at follows
    cases op with
    | setNodeAdopted id' adopted =>
      obtain ⟨stage', reached, -⟩ := follows (.ok ())
      simp [Stage.next] at reached
      rw [reached.1.1, reached.1.2]
    | _ =>
      obtain ⟨stage', reached, -⟩ := follows (default : ControllerOp.Reply _)
      simp [Stage.next] at reached

theorem sound_run {rows : Rows} {tasks : List Task} {schedule : List (Turn Choice)}
    {pool : NodesPool} (sound : ∀ row ∈ rows, row.adopted = true → row.trust.Complete)
    (run : replay runtime.step (runtime.start rows tasks) schedule = some pool)
    (guarded : Guarded runtime.step (fun pool turn => Unraced pool turn = true)
      (runtime.start rows tasks) schedule) :
    ∃ places, Runtime.Staged (fun _ => Stage.next) (fun _ stage => stage = .elsewhere) places
      pool.threads ∧ Sound places pool.state := by
  refine replay_invariant (I := fun pool => ∃ places, Runtime.Staged (fun _ => Stage.next)
    (fun _ stage => stage = .elsewhere) places pool.threads ∧ Sound places pool.state)
    ?_ ?_ guarded run
  · intro pool turn next ⟨places, staged, sound⟩ unraced taken
    obtain ⟨task, stage, op, reply, stage', found, issues, reached, performed, staged'⟩ :=
      Runtime.step_staged follows_code staged taken
    refine ⟨_, staged', ?_⟩
    rw [show Runtime.places (fun _ => Stage.elsewhere) (runtime.starts op) = [] from rfl,
      List.append_nil]
    refine sound_step sound found reached (Option.some.inj performed) ?_
    rintro node rfl missing task' member
    obtain ⟨thread, inside, here⟩ := Runtime.staged_mem staged member
    simp only [Unraced, issues, missing, Option.isSome_none, Bool.false_or] at unraced
    have free := List.all_eq_true.mp unraced thread inside
    simp [op?_of_trusted here] at free
  · refine ⟨_, Runtime.staged_launch follows_code tasks, sound, ?_⟩
    intro task id member
    simp [Runtime.places] at member

/-- In every run of adoptions, forgettings and discoveries in which no discovery inserts
    the row of a node anew between the two writes of its adoption, the rows that are
    adopted have their trust stored. -/
theorem adopted_rows_trusted {rows : Rows} {tasks : List Task} {schedule : List (Turn Choice)}
    {pool : NodesPool} (sound : ∀ row ∈ rows, row.adopted = true → row.trust.Complete)
    (run : replay runtime.step (runtime.start rows tasks) schedule = some pool)
    (guarded : Guarded runtime.step (fun pool turn => Unraced pool turn = true)
      (runtime.start rows tasks) schedule) :
    ∀ row ∈ pool.state, row.adopted = true → row.trust.Complete := by
  obtain ⟨places, -, kept⟩ := sound_run sound run guarded
  exact kept.adopted

/-! ## One node -/

/-- A node on the network. -/
def node1 : DiscoveredNode where
  id := "n1"
  instance_ := "n1"
  hostname := "n1.local"
  address := "10.0.0.7"
  port := 8080
  version := "1.0.0"
  upsCount := 1
  lastSeen := ""

def response1 : AdoptResponse where
  serial := "1"
  version := "1.0.0"
  controllerURL := "http://strom"
  tlsPort := 8443
  tlsFingerprint := "ab"
  tokenSHA256 := "cd"

/-- Surroundings in which the node is seen and answers, and nothing fails. -/
def answering : Choice where
  answer
    | .randomSecret _ => .ok "secret"
    | .newRequest _ => .ok ()
    | .send _ _ => ()
    | .receive => .ok { status := 200, body := .ok response1 }
    | .contextErr => none
    | .waitForRetry _ => .ok ()
    | .health _ _ _ _ => .ok ()
    | .sealString _ => .ok { text := "sealed", nonempty := by decide }
    | .saveNodeTrust _ _ => .ok ()
    | .setNodeAdopted _ _ => .ok ()
    | .deleteNode _ => .ok ()
    | .listNodes => .ok []
    | .snapshot => [{ discovered := node1, adopted := false }]
    | .upsertDiscoveredNode _ => .ok ()
    | .getNode _ => .error .nodeNotFound
    | .listNodeUPSSummaries _ => .ok ()

/-- So many turns of one thread. -/
def turns (thread count : Nat) : List (Turn Choice) := List.replicate count ⟨thread, answering⟩

/-- The adopted rows and their trust when a schedule is through. -/
def adoptedRows (rows : Rows) (tasks : List Task) (schedule : List (Turn Choice)) :
    Option (List (String × Trust)) := do
  let pool ← replay runtime.step (runtime.start rows tasks) schedule
  return (pool.state.filter (·.adopted)).map fun row => (row.id, row.trust)

theorem adopted_rows_trusted_of_one : ∃ pool,
    replay runtime.step (runtime.start [] [.adopt "" "strom" "n1"]) (turns 0 22) = some pool ∧
      ∀ row ∈ pool.state, row.adopted = true → row.trust.Complete := by
  have run : (replay runtime.step (runtime.start [] [.adopt "" "strom" "n1"]) (turns 0 22)).isSome := by
    decide +kernel
  obtain ⟨pool, run⟩ := Option.isSome_iff_exists.mp run
  exact ⟨pool, run, adopted_rows_trusted (by simp) run (by decide +kernel)⟩

/-- The node is forgotten and seen again between the two writes of its adoption. -/
theorem adopted_row_without_trust :
    ¬ ∀ (rows : Rows) (tasks : List Task) (schedule : List (Turn Choice)) (pool : NodesPool),
      (∀ row ∈ rows, row.adopted = true → row.trust.Complete) →
      replay runtime.step (runtime.start rows tasks) schedule = some pool →
      ∀ row ∈ pool.state, row.adopted = true → row.trust.Complete := by
  intro claim
  have outcome : adoptedRows [] [.adopt "" "strom" "n1", .forget "n1", .discover]
      (turns 0 15 ++ turns 1 1 ++ turns 2 3 ++ turns 0 1) = some [("n1", {})] := by decide +kernel
  simp only [adoptedRows, Option.bind_eq_bind, Option.bind_eq_some_iff, Option.pure_def,
    Option.some.injEq] at outcome
  obtain ⟨pool, run, adopted⟩ := outcome
  have member : ("n1", ({} : Trust)) ∈ (pool.state.filter (·.adopted)).map fun row =>
      (row.id, row.trust) := by
    rw [adopted]
    exact List.mem_singleton.mpr rfl
  obtain ⟨row, inside, same⟩ := List.mem_map.mp member
  obtain ⟨there, adopted⟩ := List.mem_filter.mp inside
  have complete := claim _ _ _ pool (by simp) run row there adopted
  have empty : row.trust = {} := congrArg Prod.snd same
  rw [empty] at complete
  exact complete.tlsPort rfl

end Strom.Adoption
