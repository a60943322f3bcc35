import Strom.Effects.Run
import Strom.Mqtt.Identifiers

/-!
# Commands from the broker (`updateRoutes`, `lookupRoute`)

A call of `PublishSnapshots` replaces the routes before it publishes, and from then on a message
on the command topic of a UPS finds the route of the snapshot that was published last.  What the
route lists is what the UPS advertises, but a route without commands lets every command pass.  A
message is answered as the snapshot allows exactly where the UPS that it addresses advertises
some command, or the message is blank (`dispatch_iff_advertises`).
-/

namespace Strom.Mqtt

open Strom.Go Strom.Effects

variable {F : Type}

/-! ## What the snapshots advertise -/

/-- The UPSes of some snapshots that have a route, with the ids of their nodes. -/
def routedUPSes (snapshots : List (NodeSnapshot F)) : List (String × UPSInfo F) :=
  snapshots.flatMap fun snapshot =>
    if trimSpace snapshot.node.id = "" then []
    else (snapshot.upses.filter fun ups => trimSpace ups.name ≠ "").map (trimSpace snapshot.node.id, ·)

/-- The topic on which the commands for a UPS come. -/
def topicOf (statePrefix : String) (entry : String × UPSInfo F) : String :=
  commandTopic statePrefix entry.1 (trimSpace entry.2.name)

/-- The UPS that a topic addresses: of several with one topic the last. -/
def addressed (statePrefix : String) (snapshots : List (NodeSnapshot F)) (topic : String) :
    Option (String × UPSInfo F) :=
  (routedUPSes snapshots).reverse.find? fun entry => topicOf statePrefix entry = topic

/-- The snapshot of a UPS that was published last. -/
def latestOf (snapshots : List (NodeSnapshot F)) (nodeID upsName : String) : Option (UPSInfo F) :=
  ((routedUPSes snapshots).reverse.find? fun entry =>
    entry.1 = nodeID && trimSpace entry.2.name = upsName).map (·.2)

/-- The commands that a UPS advertises. -/
def UPSInfo.advertised (ups : UPSInfo F) : List String :=
  (ups.commands.map fun command => trimSpace command.name).filter (· ≠ "")

/-- The last snapshot of the UPS that a request is for lists the command. -/
def Authorized (snapshots : List (NodeSnapshot F)) (request : CommandRequest) : Prop :=
  ∃ ups, latestOf snapshots request.nodeID request.upsName = some ups ∧ request.command ∈ ups.advertised

/-! ## Runs -/

/-- A publisher, with the snapshots that it has taken up last. -/
structure Bridge (F : Type) where
  site : Site
  snapshots : List (NodeSnapshot F) := []

/-- A call of `PublishSnapshots` with the choices of its operations, as far as it has come. -/
structure PublishCall (F : Type) where
  snapshots : List (NodeSnapshot F)
  choices : Nat → Choice
  operations : Nat

def PublisherOp.setsRoutes : PublisherOp → Bool
  | .setRoutes _ => true
  | _ => false

variable (cfg : PublisherConfig) (floatText : FloatText F)

/-- The snapshots of a call that fails before it has set the routes are not taken up. -/
def bridgeStep (b : Bridge F) (call : PublishCall F) : Option (Bridge F) :=
  let program := Action.toProgram (publishSnapshots cfg floatText call.snapshots)
  let start : Guided Site Choice := { state := b.site, choices := call.choices }
  some {
    site := (program.cut (guide perform) call.operations start).state
    snapshots :=
      if (program.issued (guide perform) call.operations start).any PublisherOp.setsRoutes then call.snapshots
      else b.snapshots }

/-- A publisher that has just been made. -/
def newBridge (clock wall : Nat → Time) : Bridge F where
  site := { clock, wall }

/-! ## Routes -/

theorem routes_addRoutes (statePrefix nodeID : String) (upses : List (UPSInfo F)) (routes : Routes) :
    addRoutes statePrefix nodeID upses routes =
      ((upses.filter fun ups => trimSpace ups.name ≠ "").map (nodeID, ·)).foldl (fun routes entry =>
        Function.update routes (topicOf statePrefix entry) (some (routeOf entry.1 entry.2))) routes := by
  unfold addRoutes
  induction upses generalizing routes with
  | nil => rfl
  | cons ups rest ih =>
    by_cases blank : trimSpace ups.name = ""
    · simpa [blank] using ih routes
    · simpa [blank, topicOf] using ih _

theorem routesOf_eq_foldl (statePrefix : String) (snapshots : List (NodeSnapshot F)) :
    routesOf statePrefix snapshots = (routedUPSes snapshots).foldl (fun routes entry =>
      Function.update routes (topicOf statePrefix entry) (some (routeOf entry.1 entry.2))) fun _ => none := by
  unfold routesOf routedUPSes
  rw [List.foldl_flatMap]
  congr
  funext routes snapshot
  split
  · rfl
  · rw [routes_addRoutes]

/-- The last entry with a key is what a map of updates has at it. -/
theorem foldl_update_eq {Entry Value : Type} (key : Entry → String) (value : Entry → Value) (entries : List Entry)
    (k : String) : entries.foldl (fun map entry => Function.update map (key entry) (some (value entry)))
      (fun _ => none) k = (entries.reverse.find? fun entry => key entry = k).map value := by
  induction entries using List.reverseRecOn with
  | nil => rfl
  | append_singleton entries entry ih =>
    rw [List.foldl_append, List.foldl_cons, List.foldl_nil, List.reverse_append, List.reverse_singleton,
      List.singleton_append, List.find?_cons]
    by_cases same : key entry = k
    · simp [same]
    · have apart : k ≠ key entry := fun back => same back.symm
      rw [Function.update_of_ne apart, ih]
      simp [same]

theorem routesOf_apply (statePrefix : String) (snapshots : List (NodeSnapshot F)) (topic : String) :
    routesOf statePrefix snapshots topic =
      (addressed statePrefix snapshots topic).map fun entry => routeOf entry.1 entry.2 := by
  rw [routesOf_eq_foldl, foldl_update_eq (topicOf statePrefix) (fun entry => routeOf entry.1 entry.2)]
  rfl

/-! ## The routes are those of the last snapshots -/

/-- The operations before and after the routes are set. -/
abbrev Unrouted (op : PublisherOp) : Prop := op.setsRoutes = false

theorem only_ask {op : PublisherOp} (unrouted : Unrouted op) :
    Action.Only Unrouted (Action.always (ask op) : PublisherAction op.Reply) :=
  Action.Only.always (Program.only_perform unrouted)

theorem only_publish (message : PublishMessage) (discovery : Bool) :
    Action.Only Unrouted (publish cfg message discovery) := by
  have wasDiscovered : Action.Only Unrouted
      (Action.always (wasDiscovered message discovery) : PublisherAction Bool) := by
    apply Action.Only.always
    cases discovery with
    | true => exact Program.only_perform rfl
    | false => exact Program.only_ret false
  apply (only_ask rfl).bind
  intro now
  apply wasDiscovered.bind
  intro known
  split
  · exact Action.only_pure ()
  · apply (only_ask rfl).bind
    intro previous
    split
    · exact Action.only_pure ()
    · have publishes : Action.Only Unrouted (call (.clientPublish message) rfl) := Program.only_perform rfl
      apply publishes.bind
      intro _
      exact only_ask rfl

theorem only_publishAll (discovery : Bool) (messages : List PublishMessage) :
    Action.Only Unrouted (publishAll cfg discovery messages) := by
  induction messages with
  | nil => exact Action.only_pure ()
  | cons message rest ih => exact (only_publish cfg message discovery).bind fun _ => ih

theorem only_publishUPS (node : NodeInfo) (ups : UPSInfo F) :
    Action.Only Unrouted (publishUPS cfg floatText node ups) := by
  apply (Action.only_ofExcept _).bind
  intro messages
  apply (only_publishAll cfg true messages).bind
  intro _
  apply (only_ask rfl).bind
  intro now
  apply (Action.only_ofExcept _).bind
  intro state
  exact only_publish cfg state false

theorem only_publishUPSes (node : NodeInfo) (upses : List (UPSInfo F)) :
    Action.Only Unrouted (publishUPSes cfg floatText node upses) := by
  induction upses with
  | nil => exact Action.only_pure ()
  | cons ups rest ih => exact (only_publishUPS cfg floatText node ups).bind fun _ => ih

theorem only_publishNodes (snapshots : List (NodeSnapshot F)) :
    Action.Only Unrouted (publishNodes cfg floatText snapshots) := by
  induction snapshots with
  | nil => exact Action.only_pure ()
  | cons snapshot rest ih =>
    apply (Action.only_ofExcept _).bind
    intro availability
    apply (only_publish cfg availability false).bind
    intro _
    exact (only_publishUPSes cfg floatText snapshot.node snapshot.upses).bind fun _ => ih

theorem only_ensureCommandSubscription : Action.Only Unrouted (ensureCommandSubscription cfg) := by
  apply (only_ask rfl).bind
  intro subscribed
  split
  · exact Action.only_pure ()
  · have subscribes : Action.Only Unrouted (call (.subscribe (commandSubscriptionTopic cfg)) rfl) :=
      Program.only_perform rfl
    exact subscribes.bind fun _ => only_ask rfl

/-- The routes, and whether the log of operations has them set. -/
def RoutesAre (routes : Routes) (taken : Bool) (s : Guided Site Choice × List PublisherOp) : Prop :=
  s.1.state.routes = routes ∧ s.2.any PublisherOp.setsRoutes = taken

theorem routes_perform {op : PublisherOp} (unrouted : Unrouted op) (choice : Choice) (site : Site) :
    (perform op choice site).2.routes = site.routes := by
  cases op with
  | setRoutes => cases unrouted
  | awaitConnection | subscribe | clientPublish => cases choice <;> rfl
  | _ => rfl

theorem routesAre_kept {routes : Routes} {taken : Bool} (op : PublisherOp)
    (s : Guided Site Choice × List PublisherOp) (unrouted : Unrouted op) (are : RoutesAre routes taken s) :
    RoutesAre routes taken (Program.logged (guide perform) op s).2 := by
  obtain ⟨g, log⟩ := s
  refine ⟨?_, ?_⟩
  · exact (routes_perform unrouted g.choice g.state).trans are.1
  · simpa [unrouted] using are.2

/-- At every instant of a call the routes are those from before it, or its own and then set by it. -/
theorem holds_publishSnapshots (snapshots : List (NodeSnapshot F)) (g : Guided Site Choice) :
    Action.Holds (Program.logged (guide perform))
      (fun s => RoutesAre g.state.routes false s ∨ RoutesAre (routesOf cfg.messages.statePrefix snapshots) true s)
      (publishSnapshots cfg floatText snapshots) (fun _ _ => True) (g, []) := by
  have before {α : Type} {x : PublisherAction α} {s : Guided Site Choice × List PublisherOp}
      (only : Action.Only Unrouted x) (are : RoutesAre g.state.routes false s) :
      Action.Holds (Program.logged (guide perform))
        (fun s => RoutesAre g.state.routes false s ∨ RoutesAre (routesOf cfg.messages.statePrefix snapshots) true s)
        x (fun _ s => RoutesAre g.state.routes false s) s :=
    (only.holds routesAre_kept are).weaken fun _ => Or.inl
  have after {α : Type} {x : PublisherAction α} {s : Guided Site Choice × List PublisherOp}
      (only : Action.Only Unrouted x) (are : RoutesAre (routesOf cfg.messages.statePrefix snapshots) true s) :
      Action.Holds (Program.logged (guide perform))
        (fun s => RoutesAre g.state.routes false s ∨ RoutesAre (routesOf cfg.messages.statePrefix snapshots) true s)
        x (fun _ _ => True) s :=
    ((only.holds routesAre_kept are).weaken fun _ => Or.inr).mono fun _ _ _ _ => trivial
  have awaits : Action.Only Unrouted (call .awaitConnection rfl) := Program.only_perform rfl
  have start : RoutesAre g.state.routes false (g, []) := ⟨rfl, rfl⟩
  apply Action.holds_bind.mpr
  apply (before awaits start).mono
  intro result s _ are
  cases result with
  | error cause => exact ⟨.inl are, trivial⟩
  | ok _ =>
    apply Action.holds_bind.mpr
    apply (before (only_ensureCommandSubscription cfg) are).mono
    intro result s _ are
    cases result with
    | error cause => exact ⟨.inl are, trivial⟩
    | ok _ =>
      -- the instant at which the routes are set
      have set : RoutesAre (routesOf cfg.messages.statePrefix snapshots) true
          (Program.logged (guide perform) (.setRoutes (routesOf cfg.messages.statePrefix snapshots)) s).2 := by
        obtain ⟨g', log⟩ := s
        exact ⟨rfl, by simp [PublisherOp.setsRoutes]⟩
      apply Action.holds_bind.mpr
      apply Action.holds_always.mpr
      apply Program.holds_perform.mpr
      refine ⟨.inl are, .inr set, .inr set, ?_⟩
      exact after ((only_publish cfg (controllerMessage cfg) false).bind fun _ =>
        only_publishNodes cfg floatText snapshots) set

/-- After every step of a run the routes are those of the snapshots taken up last. -/
theorem routes_step (b b' : Bridge F) (call : PublishCall F)
    (inv : b.site.routes = routesOf cfg.messages.statePrefix b.snapshots)
    (taken : bridgeStep cfg floatText b call = some b') :
    b'.site.routes = routesOf cfg.messages.statePrefix b'.snapshots := by
  have instants := ((Program.holds_iff _ _ _).mp
    (holds_publishSnapshots cfg floatText call.snapshots { state := b.site, choices := call.choices })).1
    call.operations
  rw [Program.cut_logged] at instants
  cases taken
  obtain ⟨routes, unset⟩ | ⟨routes, set⟩ := instants
  · simp only [List.nil_append] at unset
    simp only [unset, Bool.false_eq_true, if_false]
    exact routes.trans inv
  · simp only [List.nil_append] at set
    simp only [set, if_true]
    exact routes

theorem routes_of_replay {clock wall : Nat → Time} {calls : List (PublishCall F)} {b : Bridge F}
    (run : replay (bridgeStep cfg floatText) (newBridge clock wall) calls = some b) :
    b.site.routes = routesOf cfg.messages.statePrefix b.snapshots :=
  replay_preserves (I := fun b : Bridge F => b.site.routes = routesOf cfg.messages.statePrefix b.snapshots)
    (fun b call b' inv taken => routes_step cfg floatText b b' call inv taken) rfl run

/-! ## What is dispatched -/

variable {cfg floatText} {snapshots : List (NodeSnapshot F)} {topic payload : String}

/-- The first element with a property is also the first with a stronger one, where it has that. -/
theorem find?_of_imp {α : Type} {p q : α → Bool} {l : List α} {a : α} (found : l.find? p = some a)
    (own : q a = true) (stronger : ∀ b, q b = true → p b = true) : l.find? q = some a := by
  obtain ⟨-, before, after, shape, none⟩ := List.find?_eq_some_iff_append.mp found
  apply List.find?_eq_some_iff_append.mpr
  refine ⟨own, before, after, shape, ?_⟩
  intro b inside
  have fails := none b inside
  simp only [Bool.not_eq_true'] at fails ⊢
  exact Bool.eq_false_iff.mpr fun holds => by simp [stronger b holds] at fails

/-- The UPS that a topic addresses is the last snapshot of itself. -/
theorem latestOf_addressed {statePrefix : String} {entry : String × UPSInfo F}
    (found : addressed statePrefix snapshots topic = some entry) :
    latestOf snapshots entry.1 (trimSpace entry.2.name) = some entry.2 := by
  have same := List.find?_some found
  simp only [decide_eq_true_eq] at same
  have last : ((routedUPSes snapshots).reverse.find? fun other =>
      other.1 = entry.1 && trimSpace other.2.name = trimSpace entry.2.name) = some entry := by
    apply find?_of_imp found
    · simp
    · intro other own
      simp only [Bool.and_eq_true, decide_eq_true_eq] at own
      simp only [decide_eq_true_eq, ← same, topicOf, own.1, own.2]
  rw [latestOf, last]
  rfl

/-- The receiver's checks on the topic pass for every topic that addresses a UPS. -/
theorem hasPrefix_topicOf (statePrefix : String) (entry : String × UPSInfo F) :
    hasPrefix (topicOf statePrefix entry) (statePrefix ++ "/nodes/") = true ∧
      hasSuffix (topicOf statePrefix entry) "/command" = true := by
  constructor
  · rw [hasPrefix, List.isPrefixOf_iff_prefix]
    simp [topicOf, commandTopic, String.toList_append, List.append_assoc]
  · rw [hasSuffix, List.isSuffixOf_iff_suffix]
    simp only [topicOf, commandTopic, String.toList_append]
    exact List.suffix_append _ _

/-- A message on the topic of a UPS is for the UPS, if that takes it. -/
theorem receive_eq {routes : Routes} (are : routesOf cfg.messages.statePrefix snapshots = routes) :
    receive cfg routes topic payload =
      (addressed cfg.messages.statePrefix snapshots (trimSpace topic)).bind fun entry =>
        (accepted entry.2 payload).map fun command =>
          { nodeID := entry.1, upsName := trimSpace entry.2.name, command } := by
  subst are
  have at_topic := routesOf_apply cfg.messages.statePrefix snapshots (trimSpace topic)
  by_cases blank : trimSpace payload = ""
  · simp [receive, accepted, blank]
  cases found : addressed cfg.messages.statePrefix snapshots (trimSpace topic) with
  | none =>
    rw [found] at at_topic
    simp [receive, blank, lookupRoute, at_topic]
  | some entry =>
    rw [found] at at_topic
    have same := List.find?_some found
    simp only [decide_eq_true_eq] at same
    obtain ⟨starts, ends⟩ := hasPrefix_topicOf cfg.messages.statePrefix entry
    rw [same] at starts ends
    simp only [receive, starts, ends, Bool.not_true, Bool.or_self, Bool.false_eq_true, if_false, blank,
      lookupRoute_routeOf at_topic blank, Option.bind_some, Option.map_map]
    rfl

/-- What a UPS takes that advertises a command, it advertises. -/
theorem advertised_of_accepted {ups : UPSInfo F} {command : String}
    (advertises : trimSpace payload ≠ "" → ups.advertised ≠ []) (taken : accepted ups payload = some command) : command ∈ ups.advertised := by
  unfold accepted at taken
  split at taken
  · cases taken
  · next given =>
    have some := advertises given
    unfold UPSInfo.advertised at some ⊢
    rw [if_neg some] at taken
    exact List.mem_reverse.mp (List.mem_of_find?_eq_some taken)

/-- Where the addressed UPS advertises a command, or the message is blank, the receiver passes
    on authorized requests only. -/
theorem authorized_of_advertises {routes : Routes} (are : routesOf cfg.messages.statePrefix snapshots = routes)
    (advertises : ∀ entry, addressed cfg.messages.statePrefix snapshots (trimSpace topic) = some entry →
      trimSpace payload ≠ "" → entry.2.advertised ≠ [])
    {request : CommandRequest} (received : receive cfg routes topic payload = some request) :
    Authorized snapshots request := by
  rw [receive_eq are] at received
  obtain ⟨entry, found, target⟩ := Option.bind_eq_some_iff.mp received
  obtain ⟨command, taken, rfl⟩ := Option.map_eq_some_iff.mp target
  exact ⟨entry.2, latestOf_addressed found, advertised_of_accepted (advertises entry found) taken⟩

/-- In every state of a publisher, at every moment of a call: a message leads to no request but for
    a command that the last snapshot of the UPS lists, if and only if it is blank or the UPS that
    its topic addresses advertises some command. -/
theorem dispatch_iff_advertises {clock wall : Nat → Time} {calls : List (PublishCall F)} {b : Bridge F}
    (run : replay (bridgeStep cfg floatText) (newBridge clock wall) calls = some b) (topic payload : String) :
    (∀ request, receive cfg b.site.routes topic payload = some request → Authorized b.snapshots request) ↔
      ∀ entry, addressed cfg.messages.statePrefix b.snapshots (trimSpace topic) = some entry →
        trimSpace payload ≠ "" → entry.2.advertised ≠ [] := by
  have routes := (routes_of_replay cfg floatText run).symm
  constructor
  · intro authorized entry found given none
    have received : receive cfg b.site.routes topic payload =
        some { nodeID := entry.1, upsName := trimSpace entry.2.name, command := trimSpace payload } := by
      have taken : accepted entry.2 payload = some (trimSpace payload) := by
        unfold UPSInfo.advertised at none
        rw [accepted, if_neg given, if_pos none]
      rw [receive_eq routes, found, Option.bind_some, taken]
      rfl
    obtain ⟨ups, latest, listed⟩ := authorized _ received
    rw [latestOf_addressed found, Option.some.injEq] at latest
    rw [← latest, none] at listed
    cases listed
  · intro advertises request received
    exact authorized_of_advertises routes advertises received

/-- A call for one UPS of one node, which comes to its end. -/
def publishOf (commands : List CommandInfo) : PublishCall Unit where
  snapshots := [{ node := { id := "node-1" }, upses := [{ name := "ups", commands }] }]
  choices := fun _ => none
  operations := 200

/-- A publisher with the default prefixes. -/
def defaultPublisher : PublisherConfig := newPublisher {}

/-- The state after one call for a UPS with these commands. -/
def publishedOnce (commands : List CommandInfo) : Option (Bridge Unit) :=
  replay (bridgeStep defaultPublisher fun _ => .ok "0") (newBridge (fun _ => Time.zero) fun _ => Time.zero)
    [publishOf commands]

/-- The command topic of that UPS. -/
def onlyTopic : String := "strom/nodes/node_1/ups/ups/command"

theorem dispatch_iff_advertises_of_one : ∃ b, publishedOnce [{ name := "test.battery.start" }] = some b ∧
    ((∀ request, receive defaultPublisher b.site.routes onlyTopic "load.off" = some request →
        Authorized b.snapshots request) ↔
      ∀ entry, addressed defaultPublisher.messages.statePrefix b.snapshots (trimSpace onlyTopic) = some entry →
        trimSpace "load.off" ≠ "" → entry.2.advertised ≠ []) := by
  obtain ⟨b, run⟩ : ∃ b, publishedOnce [{ name := "test.battery.start" }] = some b := ⟨_, rfl⟩
  exact ⟨b, run, dispatch_iff_advertises run onlyTopic "load.off"⟩

/-- A UPS whose last snapshot lists no command is switched off. -/
theorem unlisted_command_dispatched : ∃ b, publishedOnce [] = some b ∧
    receive defaultPublisher b.site.routes onlyTopic "load.off" =
      some { nodeID := "node-1", upsName := "ups", command := "load.off" } ∧
    ¬ Authorized b.snapshots { nodeID := "node-1", upsName := "ups", command := "load.off" } := by
  obtain ⟨b, run⟩ : ∃ b, publishedOnce [] = some b := ⟨_, rfl⟩
  have received : (publishedOnce []).bind (fun b => receive defaultPublisher b.site.routes onlyTopic "load.off") =
      some { nodeID := "node-1", upsName := "ups", command := "load.off" } := by decide +kernel
  have last : (publishedOnce []).bind (fun b => latestOf b.snapshots "node-1" "ups") = some { name := "ups" } := by
    decide +kernel
  rw [run] at received last
  refine ⟨b, run, received, ?_⟩
  intro authorized
  obtain ⟨ups, latest, listed⟩ := authorized
  have none : ups.advertised = [] := by
    rw [← Option.some.inj (last.symm.trans latest)]
    rfl
  rw [none] at listed
  cases listed

end Strom.Mqtt
