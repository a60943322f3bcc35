import Strom.Mqtt.Cache

/-!
# A call as a list of messages

A call that ends without an error has published a list of messages in turn
(`callMessages`), each of them sent or suppressed (`Site.publish`).  `Emits` says so of a
part of a call, and what makes the part end without an error; `Emits.bind` puts the parts
together, and `exec_publishSnapshots` has the rest of a call.
-/

namespace Strom.Mqtt

open Strom.Go Strom.Effects

variable {F : Type}

/-! ## Messages in turn -/

/-- A message with the flag that `publish` is given. -/
structure Entry where
  message : PublishMessage
  discovery : Bool

/-- `publish` returns before it sends anything. -/
def Site.suppresses (heartbeat : Int) (site : Site) (entry : Entry) : Bool :=
  (entry.discovery && site.discovery.contains entry.message.topic) ||
    unchanged heartbeat entry.message (site.clock site.clockReadings) (site.published entry.message.topic)

/-- The publisher's clock was read `n` times more. -/
def Site.tick (site : Site) (n : Nat) : Site := { site with clockReadings := site.clockReadings + n }

/-- `time.Now` was read `n` times more. -/
def Site.read (site : Site) (n : Nat) : Site := { site with wallReadings := site.wallReadings + n }

def Site.send (site : Site) (message : PublishMessage) : Site :=
  { site with sent := site.sent ++ [message] }

/-- A publication that the client does not refuse. -/
def Site.publish (heartbeat : Int) (site : Site) (entry : Entry) : Site :=
  if site.suppresses heartbeat entry then site.tick 1
  else ((site.tick 1).send entry.message).remember entry.message (site.clock site.clockReadings) entry.discovery

def Site.publishAll (heartbeat : Int) (site : Site) (entries : List Entry) : Site :=
  entries.foldl (Site.publish heartbeat) site

variable {heartbeat : Int} {site : Site} {entry : Entry}

@[simp] theorem Site.publishAll_nil : site.publishAll heartbeat [] = site := rfl

@[simp] theorem Site.publishAll_append (first rest : List Entry) :
    site.publishAll heartbeat (first ++ rest) =
      (site.publishAll heartbeat first).publishAll heartbeat rest := by
  simp [Site.publishAll]

theorem Site.publishAll_cons (rest : List Entry) :
    site.publishAll heartbeat (entry :: rest) = (site.publish heartbeat entry).publishAll heartbeat rest := rfl

theorem Site.publish_read (n : Nat) :
    (site.read n).publish heartbeat entry = (site.publish heartbeat entry).read n := by
  have same : (site.read n).suppresses heartbeat entry = site.suppresses heartbeat entry := rfl
  unfold Site.publish
  rw [same]
  cases site.suppresses heartbeat entry <;> rfl

theorem Site.publishAll_read (n : Nat) (entries : List Entry) :
    (site.read n).publishAll heartbeat entries = (site.publishAll heartbeat entries).read n := by
  induction entries generalizing site with
  | nil => rfl
  | cons entry rest ih => rw [publishAll_cons, publish_read, ih, publishAll_cons]

@[simp] theorem Site.publish_wall : (site.publish heartbeat entry).wall = site.wall := by
  unfold Site.publish
  split <;> rfl

@[simp] theorem Site.publish_wallReadings :
    (site.publish heartbeat entry).wallReadings = site.wallReadings := by
  unfold Site.publish
  split <;> rfl

@[simp] theorem Site.publishAll_wall (entries : List Entry) :
    (site.publishAll heartbeat entries).wall = site.wall := by
  induction entries generalizing site with
  | nil => rfl
  | cons entry rest ih => rw [publishAll_cons, ih, publish_wall]

@[simp] theorem Site.publishAll_wallReadings (entries : List Entry) :
    (site.publishAll heartbeat entries).wallReadings = site.wallReadings := by
  induction entries generalizing site with
  | nil => rfl
  | cons entry rest ih => rw [publishAll_cons, ih, publish_wallReadings]

/-- What was sent stays sent. -/
theorem Site.sent_publish : ∃ more, (site.publish heartbeat entry).sent = site.sent ++ more := by
  unfold Site.publish
  split
  · exact ⟨[], by simp [Site.tick]⟩
  · exact ⟨[entry.message], rfl⟩

theorem Site.sent_publishAll (entries : List Entry) :
    ∃ more, (site.publishAll heartbeat entries).sent = site.sent ++ more := by
  induction entries generalizing site with
  | nil => exact ⟨[], by simp⟩
  | cons entry rest ih =>
    obtain ⟨first, one⟩ := Site.sent_publish 
    obtain ⟨later, all⟩ := ih
    refine ⟨first ++ later, ?_⟩
    rw [publishAll_cons, all, one, List.append_assoc]

/-- Nothing is sent. -/
def Silent (heartbeat : Int) (site : Site) (entries : List Entry) : Prop :=
  (site.publishAll heartbeat entries).sent = site.sent

theorem Silent.parts {first rest : List Entry} (silent : Silent heartbeat site (first ++ rest)) :
    Silent heartbeat site first ∧ Silent heartbeat (site.publishAll heartbeat first) rest := by
  obtain ⟨more, one⟩ : ∃ more, (site.publishAll heartbeat first).sent = site.sent ++ more :=
    Site.sent_publishAll first
  obtain ⟨later, all⟩ : ∃ later, ((site.publishAll heartbeat first).publishAll heartbeat rest).sent =
      (site.publishAll heartbeat first).sent ++ later := Site.sent_publishAll rest
  unfold Silent at silent ⊢
  rw [Site.publishAll_append, all, one, List.append_assoc, List.append_right_eq_self,
    List.append_eq_nil_iff] at silent
  obtain ⟨rfl, rfl⟩ := silent
  simp [one, all]

theorem silent_singleton : Silent heartbeat site [entry] ↔ site.suppresses heartbeat entry = true := by
  simp only [Silent, Site.publishAll_cons, Site.publishAll_nil, Site.publish]
  split
  · next yes => simp [yes, Site.tick]
  · next no => simp [no, Site.remember, Site.send, Site.tick]

/-- Silence is suppression of every message, each at its own reading of the clock. -/
theorem silent_iff {entries : List Entry} : Silent heartbeat site entries ↔
    ∀ n entry, entries[n]? = some entry → (site.tick n).suppresses heartbeat entry = true := by
  induction entries generalizing site with
  | nil => simp [Silent]
  | cons first rest ih =>
    constructor
    · intro silent
      obtain ⟨one, later⟩ := Silent.parts (show Silent heartbeat site ([first] ++ rest) from silent)
      rw [silent_singleton] at one
      have ticked : site.publishAll heartbeat [first] = site.tick 1 := by
        simp [Site.publishAll_cons, Site.publish, one]
      rw [ticked, ih] at later
      intro n entry found
      cases n with
      | zero =>
        obtain rfl : first = entry := by simpa using found
        exact one
      | succ n =>
        have := later n entry (by simpa using found)
        rwa [Site.tick, Site.tick, Nat.add_assoc, Nat.add_comm 1 n] at this
    · intro all
      have one : site.suppresses heartbeat first = true := all 0 first rfl
      have ticked : site.publish heartbeat first = site.tick 1 := by simp [Site.publish, one]
      unfold Silent
      rw [Site.publishAll_cons, ticked]
      apply ih.mpr
      intro n entry found
      have := all (n + 1) entry (by simpa using found)
      rwa [Site.tick, Site.tick, Nat.add_assoc, Nat.add_comm 1 n]

@[simp] theorem Site.tick_discovery (n : Nat) : (site.tick n).discovery = site.discovery := rfl

@[simp] theorem Site.tick_published (n : Nat) : (site.tick n).published = site.published := rfl

/-! ## The messages of a call -/

section Messages

variable (cfg : PublisherConfig) (floatText : FloatText F)

def upsMessages (node : NodeInfo) (ups : UPSInfo F) (now : Time) : Except GoError (List Entry) := do
  let discovery ← discoveryMessages cfg.messages node ups
  let state ← stateMessage cfg.messages node floatText ups now
  return discovery.map (⟨·, true⟩) ++ [⟨state, false⟩]

/-- The messages of UPSes, whose states are made at the readings of `time.Now` from the one
    numbered `k` on. -/
def upsesMessages (node : NodeInfo) (wall : Nat → Time) : Nat → List (UPSInfo F) → Except GoError (List Entry)
  | _, [] => return []
  | k, ups :: rest => do
    let first ← upsMessages cfg floatText node ups (wall k)
    let later ← upsesMessages node wall (k + 1) rest
    return first ++ later

def nodesMessages (wall : Nat → Time) : Nat → List (NodeSnapshot F) → Except GoError (List Entry)
  | _, [] => return []
  | k, snapshot :: rest => do
    let availability ← availabilityMessage cfg.messages snapshot.node
    let upses ← upsesMessages cfg floatText snapshot.node wall k snapshot.upses
    let later ← nodesMessages wall (k + snapshot.upses.length) rest
    return [⟨availability, false⟩] ++ (upses ++ later)

def callMessages (wall : Nat → Time) (k : Nat) (snapshots : List (NodeSnapshot F)) :
    Except GoError (List Entry) := do
  let nodes ← nodesMessages cfg floatText wall k snapshots
  return [⟨controllerMessage cfg, false⟩] ++ nodes

end Messages

/-! ## What a call does without a fault -/

/-- The topics that end as those of discovery messages do are published as discovery. -/
def Entry.Proper (entry : Entry) : Prop :=
  entry.message.topic.toList.getLast? = some 'g' ↔ entry.discovery = true

/-- What was published as discovery is noted as such. -/
def Noted (site : Site) : Prop :=
  ∀ topic, topic.toList.getLast? = some 'g' → site.published topic ≠ none → topic ∈ site.discovery

theorem Noted.publish (noted : Noted site) (proper : entry.Proper) : Noted (site.publish heartbeat entry) := by
  unfold Site.publish
  split
  · exact noted
  · intro topic last found
    by_cases same : topic = entry.message.topic
    · subst same
      simp [Site.remember, proper.mp last]
    · simp only [Site.remember, Site.send, Site.tick, Function.update_of_ne same] at found ⊢
      have known : topic ∈ site.discovery := noted topic last found
      split <;> simp [known]

/-- The client accepts whatever it is given. -/
def Faultless (g : Guided Site Choice) : Prop := ∀ turn, g.choices turn = none

theorem run_wasDiscovered (message : PublishMessage) (discovery : Bool) (g : Guided Site Choice) :
    ∃ turn, (wasDiscovered message discovery).run (guide perform) g =
      (discovery && g.state.discovery.contains message.topic, { g with turn }) := by
  cases discovery with
  | true => exact ⟨g.turn + 1, rfl⟩
  | false => exact ⟨g.turn, rfl⟩

theorem exec_clientPublish (message : PublishMessage) (g : Guided Site Choice) :
    (call (.clientPublish message) rfl : PublisherAction Unit).exec (guide perform) g =
      ((perform (.clientPublish message) g.choice g.state).1,
        g.next (perform (.clientPublish message) g.choice g.state).2) := rfl

/-- What one publication can do. -/
theorem publish_cases (cfg : PublisherConfig) (message : PublishMessage) (discovery : Bool)
    (g : Guided Site Choice) : ∃ g' : Guided Site Choice, g'.choices = g.choices ∧
      ((publish cfg message discovery).exec (guide perform) g = (.ok (), g') ∧
          g'.state = g.state.publish cfg.heartbeat ⟨message, discovery⟩ ∨
        ∃ cause, (publish cfg message discovery).exec (guide perform) g = (.error cause, g') ∧
          g'.state = g.state.tick 1 ∧ ¬ Faultless g ∧
          g.state.suppresses cfg.heartbeat ⟨message, discovery⟩ = false) := by
  have reading : guide perform .now g = (g.state.clock g.state.clockReadings, g.next (g.state.tick 1)) := rfl
  have looking : ∀ h : Guided Site Choice, guide perform (.cached message.topic) h =
      (h.state.published message.topic, h.next h.state) := fun _ => rfl
  obtain ⟨turn, looked⟩ := run_wasDiscovered message discovery (g.next (g.state.tick 1))
  simp only [publish, Action.exec_bind, Action.exec_always, ask, Program.run_perform, reading, looked,
    Guided.state_next, Site.tick_discovery]
  by_cases known : (discovery && g.state.discovery.contains message.topic) = true
  · have holds : g.state.suppresses cfg.heartbeat ⟨message, discovery⟩ = true := by
      simp only [Site.suppresses, known, Bool.true_or]
    rw [Site.publish, if_pos holds, if_pos known]
    exact ⟨{ g with state := g.state.tick 1, turn }, rfl, .inl ⟨rfl, rfl⟩⟩
  · simp only [if_neg known, Action.exec_bind, Action.exec_always, Program.run_perform, looking,
      Site.tick_published]
    by_cases same : unchanged cfg.heartbeat message (g.state.clock g.state.clockReadings)
        (g.state.published message.topic) = true
    · have holds : g.state.suppresses cfg.heartbeat ⟨message, discovery⟩ = true := by
        simp only [Site.suppresses, same, Bool.or_true]
      rw [Site.publish, if_pos holds, if_pos same]
      exact ⟨{ g with state := g.state.tick 1, turn := turn + 1 }, rfl, .inl ⟨rfl, rfl⟩⟩
    · have sends : g.state.suppresses cfg.heartbeat ⟨message, discovery⟩ = false := by
        simpa [Site.suppresses, same] using known
      rw [if_neg same, Site.publish, if_neg (by simp [sends])]
      -- the client's call decides
      cases choice : g.choices (turn + 1) with
      | none =>
        let now := g.state.clock g.state.clockReadings
        let done := ((g.state.tick 1).send message).remember message now discovery
        refine ⟨{ g with state := done, turn := turn + 3 }, rfl, .inl ⟨?_, rfl⟩⟩
        rw [Action.exec_bind, exec_clientPublish]
        simp only [Guided.choice, Guided.next, choice, perform, Site.attempt]
        rfl
      | some cause =>
        refine ⟨{ g with state := g.state.tick 1, turn := turn + 2 }, rfl, .inr ⟨cause, ?_, rfl, ?_, sends⟩⟩
        · rw [Action.exec_bind, exec_clientPublish]
          simp only [Guided.choice, Guided.next, choice, perform, Site.attempt]
        · intro faultless
          simp [faultless (turn + 1)] at choice

/-- What a part of a call does: where it ends without an error it has published its
    messages in turn, and it does so where the client refuses nothing or is given nothing. -/
structure Emits (cfg : PublisherConfig) (x : PublisherAction Unit)
    (messages : (Nat → Time) → Nat → Except GoError (List Entry)) (readings : Nat) : Prop where
  keeps : ∀ g, (x.exec (guide perform) g).2.choices = g.choices ∧
    (Noted g.state → Noted (x.exec (guide perform) g).2.state)
  ends : ∀ g, (x.exec (guide perform) g).1 = .ok () →
    ∃ entries, messages g.state.wall g.state.wallReadings = .ok entries ∧
      (x.exec (guide perform) g).2.state = (g.state.publishAll cfg.heartbeat entries).read readings
  succeeds : ∀ g entries, messages g.state.wall g.state.wallReadings = .ok entries →
    Faultless g ∨ Silent cfg.heartbeat g.state entries → (x.exec (guide perform) g).1 = .ok ()

section Emits

variable {cfg : PublisherConfig} {floatText : FloatText F} {x y : PublisherAction Unit}
  {messages more : (Nat → Time) → Nat → Except GoError (List Entry)} {n m : Nat}

theorem emits_pure : Emits cfg (pure ()) (fun _ _ => .ok []) 0 where
  keeps := fun _ => ⟨rfl, id⟩
  ends := fun _ _ => ⟨[], rfl, rfl⟩
  succeeds := fun _ _ _ _ => rfl

theorem emits_throw {cause : GoError} (fails : ∀ wall k, messages wall k = .error cause) :
    Emits cfg (throw cause) messages n where
  keeps := fun _ => ⟨rfl, id⟩
  ends := by simp
  succeeds := by simp [fails]

theorem Emits.congr (emits : Emits cfg x messages n) (same : ∀ wall k, more wall k = messages wall k) :
    Emits cfg x more n := by
  obtain rfl : more = messages := funext fun wall => funext (same wall)
  exact emits

/-- The messages of one part and those of the next, whose clock is further by `n` readings. -/
def andThen (n : Nat) (messages more : (Nat → Time) → Nat → Except GoError (List Entry))
    (wall : Nat → Time) (k : Nat) : Except GoError (List Entry) := do
  let first ← messages wall k
  let later ← more wall (k + n)
  return first ++ later

theorem andThen_eq_ok {wall : Nat → Time} {k : Nat} {entries : List Entry} :
    andThen n messages more wall k = .ok entries ↔
      ∃ first later, messages wall k = .ok first ∧ more wall (k + n) = .ok later ∧ entries = first ++ later := by
  unfold andThen
  simp only [except_bind_eq_ok]
  constructor
  · rintro ⟨first, one, later, two, all⟩
    exact ⟨first, later, one, two, (Except.ok.inj all).symm⟩
  · rintro ⟨first, later, one, two, rfl⟩
    exact ⟨first, one, later, two, rfl⟩

/-- One part of a call after another. -/
theorem Emits.bind (first : Emits cfg x messages n) (rest : Emits cfg y more m) :
    Emits cfg (x >>= fun _ => y) (andThen n messages more) (n + m) where
  keeps := by
    intro g
    rw [Action.exec_bind]
    have one := first.keeps g
    cases ran : x.exec (guide perform) g with
    | mk result g₁ =>
      rw [ran] at one
      cases result with
      | ok _ =>
        have two := rest.keeps g₁
        exact ⟨two.1.trans one.1, fun noted => two.2 (one.2 noted)⟩
      | error cause => exact one
  ends := by
    intro g ok
    rw [Action.exec_bind] at ok ⊢
    have one := first.ends g
    cases ran : x.exec (guide perform) g with
    | mk result g₁ =>
      rw [ran] at one ok
      cases result with
      | ok _ =>
        obtain ⟨a, made, state⟩ := one rfl
        obtain ⟨b, later, final⟩ := rest.ends g₁ ok
        replace state : g₁.state = (g.state.publishAll cfg.heartbeat a).read n := state
        rw [state] at later final
        refine ⟨a ++ b, ?_, ?_⟩
        · apply andThen_eq_ok.mpr
          exact ⟨a, b, made, by simpa [Site.read] using later, rfl⟩
        · rw [Site.publishAll_append]
          rw [Site.publishAll_read] at final
          simpa [Site.read, Nat.add_assoc] using final
      | error cause => cases ok
  succeeds := by
    intro g entries made able
    obtain ⟨a, b, one, two, rfl⟩ := andThen_eq_ok.mp made
    rw [Action.exec_bind]
    have ok : (x.exec (guide perform) g).1 = .ok () :=
      first.succeeds g a one (able.imp id fun silent => silent.parts.1)
    obtain ⟨a', one', state⟩ := first.ends g ok
    obtain rfl : a = a' := Except.ok.inj (one.symm.trans one')
    have kept := (first.keeps g).1
    cases ran : x.exec (guide perform) g with
    | mk result g₁ =>
      rw [ran] at ok state kept
      cases ok
      replace state : g₁.state = (g.state.publishAll cfg.heartbeat a).read n := state
      apply rest.succeeds g₁ b
      · rw [state]
        simpa [Site.read] using two
      · cases able with
        | inl faultless =>
          left
          intro turn
          rw [show g₁.choices = g.choices from kept]
          exact faultless turn
        | inr silent =>
          right
          have rest := silent.parts.2
          unfold Silent at rest ⊢
          rw [state, Site.publishAll_read]
          exact rest

theorem emits_publish {message : PublishMessage} {discovery : Bool}
    (proper : (⟨message, discovery⟩ : Entry).Proper) :
    Emits cfg (publish cfg message discovery) (fun _ _ => .ok [⟨message, discovery⟩]) 0 where
  keeps := by
    intro g
    obtain ⟨g', choices, done⟩ := publish_cases cfg message discovery g
    cases done with
    | inl ok =>
      rw [ok.1]
      refine ⟨choices, fun noted => ?_⟩
      rw [show g'.state = _ from ok.2]
      exact noted.publish proper
    | inr failed =>
      obtain ⟨cause, ran, state, -⟩ := failed
      rw [ran]
      refine ⟨choices, fun noted => ?_⟩
      rw [show g'.state = _ from state]
      exact noted
  ends := by
    intro g ok
    obtain ⟨g', choices, done⟩ := publish_cases cfg message discovery g
    cases done with
    | inl done =>
      refine ⟨_, rfl, ?_⟩
      rw [done.1]
      exact done.2
    | inr failed =>
      obtain ⟨cause, ran, -⟩ := failed
      rw [ran] at ok
      cases ok
  succeeds := by
    intro g entries made able
    obtain rfl : [⟨message, discovery⟩] = entries := Except.ok.inj made
    obtain ⟨g', choices, done⟩ := publish_cases cfg message discovery g
    cases done with
    | inl done => rw [done.1]
    | inr failed =>
      -- an error needs a message that is sent and a client that refuses it
      obtain ⟨cause, -, -, faulty, sends⟩ := failed
      cases able with
      | inl faultless => exact absurd faultless faulty
      | inr silent =>
        rw [silent_singleton, sends] at silent
        cases silent

theorem emits_publishAll {list : List PublishMessage}
    (proper : ∀ message ∈ list, (⟨message, true⟩ : Entry).Proper) :
    Emits cfg (publishAll cfg true list) (fun _ _ => .ok (list.map (⟨·, true⟩))) 0 := by
  induction list with
  | nil => exact emits_pure
  | cons message rest ih =>
    have one : Emits cfg (publish cfg message true) _ 0 := emits_publish (proper message (List.mem_cons_self ..))
    exact one.bind (ih fun other member => proper other (List.mem_cons_of_mem _ member))

/-- A part that begins with a reading of `time.Now`. -/
theorem emits_timeNow {f : Time → PublisherAction Unit} {made : Time → Except GoError (List Entry)}
    (emits : ∀ now, Emits cfg (f now) (fun _ _ => made now) 0) :
    Emits cfg (Action.always (ask .timeNow) >>= f) (fun wall k => made (wall k)) 1 := by
  have reading : ∀ g : Guided Site Choice, (Action.always (ask .timeNow) >>= f).exec (guide perform) g =
      (f (g.state.wall g.state.wallReadings)).exec (guide perform) (g.next (g.state.read 1)) := fun _ => rfl
  constructor
  · intro g
    rw [reading]
    exact (emits _).keeps (g.next (g.state.read 1))
  · intro g ok
    rw [reading] at ok ⊢
    obtain ⟨entries, listed, state⟩ := (emits _).ends (g.next (g.state.read 1)) ok
    refine ⟨entries, listed, state.trans ?_⟩
    rw [Guided.state_next, Site.publishAll_read]
    rfl
  · intro g entries listed able
    rw [reading]
    apply (emits _).succeeds (g.next (g.state.read 1)) entries listed
    apply able.imp id
    intro silent
    unfold Silent at silent ⊢
    rw [Guided.state_next, Site.publishAll_read]
    exact silent

theorem proper_of_discoveryMessages {node : NodeInfo} {ups : UPSInfo F} {list : List PublishMessage}
    (made : discoveryMessages cfg.messages node ups = .ok list) :
    ∀ message ∈ list, (⟨message, true⟩ : Entry).Proper := by
  intro message member
  have last : message.topic.toList.getLast? = some 'g' := getLast?_of_discoveryMessages made message member
  simp [Entry.Proper, last]

/-- A message about the state of a node or of a UPS. -/
theorem proper_of_goal {message : PublishMessage} (goal : Goal F) (topic : message.topic = goal.topic cfg) :
    (⟨message, false⟩ : Entry).Proper := by
  simp [Entry.Proper, topic, getLast?_goal_topic goal]

theorem emits_publishUPS (node : NodeInfo) (ups : UPSInfo F) :
    Emits cfg (publishUPS cfg floatText node ups)
      (fun wall k => upsMessages cfg floatText node ups (wall k)) 1 := by
  unfold publishUPS upsMessages
  cases discovered : discoveryMessages cfg.messages node ups with
  | error cause => exact emits_throw fun wall k => rfl
  | ok list =>
    have states : Emits cfg (Action.always (ask .timeNow) >>= fun now =>
        Action.ofExcept (stateMessage cfg.messages node floatText ups now) >>= fun state =>
          publish cfg state false)
        (fun wall k => (stateMessage cfg.messages node floatText ups (wall k)).map ([⟨·, false⟩])) 1 := by
      have later : ∀ now, Emits cfg (Action.ofExcept (stateMessage cfg.messages node floatText ups now) >>=
          fun state => publish cfg state false)
          (fun _ _ => (stateMessage cfg.messages node floatText ups now).map ([⟨·, false⟩])) 0 := by
        intro now
        cases made : stateMessage cfg.messages node floatText ups now with
        | error cause => exact emits_throw fun wall k => rfl
        | ok message => exact emits_publish (proper_of_goal (.state node ups) (stateMessage_ok made).2)
      exact emits_timeNow later
    apply ((emits_publishAll (proper_of_discoveryMessages discovered)).bind states).congr
    intro wall k
    simp only [andThen, Nat.add_zero]
    cases stateMessage cfg.messages node floatText ups (wall k) <;> rfl

theorem emits_publishUPSes (node : NodeInfo) (upses : List (UPSInfo F)) :
    Emits cfg (publishUPSes cfg floatText node upses)
      (fun wall k => upsesMessages cfg floatText node wall k upses) upses.length := by
  induction upses with
  | nil => exact emits_pure
  | cons ups rest ih =>
    rw [List.length_cons, Nat.add_comm]
    exact ((emits_publishUPS node ups).bind ih).congr fun _ _ => rfl

theorem emits_publishNodes (snapshots : List (NodeSnapshot F)) :
    ∃ n, Emits cfg (publishNodes cfg floatText snapshots)
      (fun wall k => nodesMessages cfg floatText wall k snapshots) n := by
  induction snapshots with
  | nil => exact ⟨0, emits_pure⟩
  | cons snapshot rest ih =>
    obtain ⟨n, later⟩ := ih
    unfold publishNodes nodesMessages
    cases made : availabilityMessage cfg.messages snapshot.node with
    | error cause => exact ⟨0, emits_throw fun wall k => rfl⟩
    | ok message =>
      have proper : (⟨message, false⟩ : Entry).Proper :=
        proper_of_goal (.availability (F := F) snapshot.node) (availabilityMessage_ok made).2
      have upses : Emits cfg (publishUPSes cfg floatText snapshot.node snapshot.upses) _ _ :=
        emits_publishUPSes snapshot.node snapshot.upses
      refine ⟨_, ((emits_publish proper).bind (upses.bind later)).congr ?_⟩
      intro wall k
      simp only [andThen, Nat.add_zero]
      cases upsesMessages cfg floatText snapshot.node wall k snapshot.upses with
      | error cause => rfl
      | ok first => cases nodesMessages cfg floatText wall (k + snapshot.upses.length) rest <;> rfl

theorem proper_controllerMessage : (⟨controllerMessage cfg, false⟩ : Entry).Proper := by
  have last : (controllerMessage cfg).topic.toList.getLast? = some 'y' := getLast?_append_text rfl
  simp [Entry.Proper, last]

/-- The messages of a call, once its subscription is in place. -/
theorem emits_call (snapshots : List (NodeSnapshot F)) :
    ∃ n, Emits cfg (publish cfg (controllerMessage cfg) false >>= fun _ => publishNodes cfg floatText snapshots)
      (fun wall k => callMessages cfg floatText wall k snapshots) n := by
  obtain ⟨n, nodes⟩ : ∃ n, Emits cfg (publishNodes cfg floatText snapshots)
      (fun wall k => nodesMessages cfg floatText wall k snapshots) n := emits_publishNodes snapshots
  refine ⟨0 + n, ((emits_publish proper_controllerMessage).bind nodes).congr ?_⟩
  intro wall k
  simp only [andThen, callMessages, Nat.add_zero]
  cases nodesMessages cfg floatText wall k snapshots <;> rfl

/-- What a call does before its first publication touches no message, no cache and no clock. -/
def Opened (site opened : Site) : Prop :=
  opened = { site with routes := opened.routes, subscribed := opened.subscribed }

theorem Opened.trans {first second third : Site} (one : Opened first second) (two : Opened second third) :
    Opened first third := by
  unfold Opened at *
  rw [two, one]

def Prepares (x : PublisherAction Unit) : Prop :=
  ∀ g : Guided Site Choice, ∃ g₁ : Guided Site Choice, g₁.choices = g.choices ∧ Opened g.state g₁.state ∧
    (x.exec (guide perform) g = (.ok (), g₁) ∨
      ¬ Faultless g ∧ ∃ cause, x.exec (guide perform) g = (.error cause, g₁))

theorem Prepares.bind (first : Prepares x) (rest : Prepares y) : Prepares (x >>= fun _ => y) := by
  intro g
  obtain ⟨g₁, choices, opened, done⟩ := first g
  rw [Action.exec_bind]
  cases done with
  | inr failed =>
    obtain ⟨faulty, cause, ran⟩ := failed
    rw [ran]
    exact ⟨g₁, choices, opened, .inr ⟨faulty, cause, rfl⟩⟩
  | inl ran =>
    rw [ran]
    obtain ⟨g₂, choices', opened', done⟩ := rest g₁
    refine ⟨g₂, choices'.trans choices, opened.trans opened', done.imp id ?_⟩
    intro failed
    unfold Faultless at *
    rwa [choices] at failed

/-- A call of the client that has no effect on the site. -/
theorem prepares_call {x : PublisherAction Unit}
    (attempts : ∀ g, x.exec (guide perform) g = ((g.state.attempt g.choice g.state).1, g.next g.state)) :
    Prepares x := by
  intro g
  refine ⟨g.next g.state, rfl, rfl, ?_⟩
  rw [attempts]
  cases choice : g.choice with
  | none => exact .inl rfl
  | some cause =>
    right
    refine ⟨?_, cause, rfl⟩
    intro faultless
    simp [Guided.choice, faultless g.turn] at choice

theorem prepares_ensureCommandSubscription : Prepares (ensureCommandSubscription cfg) := by
  have asks : Prepares (call (.subscribe (commandSubscriptionTopic cfg)) rfl) := by
    apply prepares_call
    intro g
    cases choice : g.choice <;> simp [call, ask, guide, perform, Site.attempt, choice]
  have sets : Prepares (Action.always (ask .setSubscribed)) := by
    intro g
    exact ⟨g.next { g.state with subscribed := true }, rfl, rfl, .inl rfl⟩
  intro g
  have looked : (ensureCommandSubscription cfg).exec (guide perform) g =
      (if g.state.subscribed then (pure () : PublisherAction Unit)
        else call (.subscribe (commandSubscriptionTopic cfg)) rfl >>= fun (_ : Unit) =>
          Action.always (ask .setSubscribed)).exec (guide perform) (g.next g.state) := rfl
  rw [looked]
  split
  · exact ⟨g.next g.state, rfl, rfl, .inl rfl⟩
  · exact asks.bind sets (g.next g.state)

theorem prepares_setRoutes (routes : Routes) : Prepares (Action.always (ask (.setRoutes routes))) := by
  intro g
  exact ⟨g.next { g.state with routes }, rfl, rfl, .inl rfl⟩

/-- A call is its preparation and then its publications. -/
theorem exec_publishSnapshots (cfg : PublisherConfig) (floatText : FloatText F) (snapshots : List (NodeSnapshot F))
    (g : Guided Site Choice) : ∃ g₁ : Guided Site Choice, g₁.choices = g.choices ∧ Opened g.state g₁.state ∧
      ((publishSnapshots cfg floatText snapshots).exec (guide perform) g =
          (publish cfg (controllerMessage cfg) false >>= fun _ => publishNodes cfg floatText snapshots).exec
            (guide perform) g₁ ∨
        ¬ Faultless g ∧ ∃ cause,
          (publishSnapshots cfg floatText snapshots).exec (guide perform) g = (.error cause, g₁)) := by
  have awaits : Prepares (call .awaitConnection rfl) := by
    apply prepares_call
    intro g
    cases choice : g.choice <;> simp [call, ask, guide, perform, Site.attempt, choice]
  have ensures : Prepares (ensureCommandSubscription cfg) := prepares_ensureCommandSubscription
  obtain ⟨g₁, choices, opened, done⟩ := (awaits.bind (ensures.bind
    (prepares_setRoutes (routesOf cfg.messages.statePrefix snapshots)))) g
  have parts : publishSnapshots cfg floatText snapshots =
      (call .awaitConnection rfl >>= fun (_ : Unit) => ensureCommandSubscription cfg >>= fun _ =>
        Action.always (ask (.setRoutes (routesOf cfg.messages.statePrefix snapshots)))) >>= fun _ =>
          publish cfg (controllerMessage cfg) false >>= fun _ => publishNodes cfg floatText snapshots := by
    simp only [Action.bind_assoc]
    rfl
  refine ⟨g₁, choices, opened, ?_⟩
  rw [parts, Action.exec_bind]
  cases done with
  | inl ran =>
    left
    rw [ran]
  | inr failed =>
    obtain ⟨faulty, cause, ran⟩ := failed
    right
    rw [ran]
    exact ⟨faulty, cause, rfl⟩

end Emits

end Strom.Mqtt
