import Strom.Effects.Run
import Strom.Mqtt.Publisher

/-!
# What the broker holds

The cache of payloads that `publish` consults always agrees with the broker: an entry is
the last payload that was published on its topic (`Cached`), through every failure in the
middle of a call.  So when a call has ended without an error, the last payload on each
topic of its snapshots is the one that the call made of them
(`broker_holds_snapshots`), whether it was sent again or suppressed.
-/

namespace Strom.Mqtt

open Strom.Go Strom.Effects

variable {F : Type}

/-- The payload that was published last on a topic. -/
def lastSent (sent : List PublishMessage) (topic : String) : Option String :=
  ((sent.filter (·.topic = topic)).getLast?).map (·.payload)

@[simp] theorem lastSent_append_same (sent : List PublishMessage) (message : PublishMessage) :
    lastSent (sent ++ [message]) message.topic = some message.payload := by
  simp [lastSent, List.filter_append]

theorem lastSent_append_of_ne {sent : List PublishMessage} {message : PublishMessage} {topic : String}
    (apart : message.topic ≠ topic) : lastSent (sent ++ [message]) topic = lastSent sent topic := by
  simp [lastSent, List.filter_append, apart]

/-- An entry of the cache is what was published last on its topic. -/
def Cached (site : Site) (topic : String) : Prop :=
  ∀ entry, site.published topic = some entry → lastSent site.sent topic = some entry.payload

/-! ## What a call has to bring about -/

/-- A topic that the snapshots of a call say something about. -/
inductive Goal (F : Type) where
  | availability (node : NodeInfo)
  | state (node : NodeInfo) (ups : UPSInfo F)

def goalsOf (snapshots : List (NodeSnapshot F)) : List (Goal F) :=
  snapshots.flatMap fun snapshot =>
    .availability snapshot.node :: snapshot.upses.map (.state snapshot.node)

variable (cfg : PublisherConfig) (floatText : FloatText F)

def Goal.topic : Goal F → String
  | .availability node => availabilityTopic cfg.messages.stateRoot node.id
  | .state node ups => stateTopic cfg.messages.stateRoot node.id ups.name

/-- The broker holds the payload that the snapshot has, for a state message at a reading of
    the clock from the one numbered `start` on. -/
def Goal.Met (start : Nat) (site : Site) : Goal F → Prop
  | .availability node => lastSent site.sent (availabilityTopic cfg.messages.stateRoot node.id) =
      some (if node.online then "online" else "offline")
  | .state node ups => ∃ reading payload, start ≤ reading ∧ reading < site.wallReadings ∧
      statePayload node floatText ups (site.wall reading) = .ok payload ∧
        lastSent site.sent (stateTopic cfg.messages.stateRoot node.id ups.name) = some payload

/-- The invariant of a call: the cache agrees with the broker, and the goals are met. -/
structure Reached (start : Nat) (goals : List (Goal F)) (site : Site) : Prop where
  cached : ∀ topic, Cached site topic
  started : start ≤ site.wallReadings
  met : ∀ goal ∈ goals, goal.Met cfg floatText start site

/-- A message is sent and not yet in the cache. -/
structure Sending (start : Nat) (goals : List (Goal F)) (message : PublishMessage) (site : Site) :
    Prop where
  cached : ∀ topic, topic ≠ message.topic → Cached site topic
  started : start ≤ site.wallReadings
  met : ∀ goal ∈ goals, goal.Met cfg floatText start site
  sent : lastSent site.sent message.topic = some message.payload

variable {cfg floatText} {start : Nat} {goals : List (Goal F)} {message : PublishMessage} {site : Site}

/-- A goal is about its topic and the readings of the call only. -/
theorem Goal.Met.of_same {goal : Goal F} {site' : Site} (met : goal.Met cfg floatText start site)
    (sent : lastSent site'.sent (goal.topic cfg) = lastSent site.sent (goal.topic cfg))
    (wall : site'.wall = site.wall) (later : site.wallReadings ≤ site'.wallReadings) :
    goal.Met cfg floatText start site' := by
  cases goal with
  | availability node =>
    simp only [Goal.Met, Goal.topic] at *
    rwa [sent]
  | state node ups =>
    obtain ⟨reading, payload, lower, upper, made, last⟩ := met
    refine ⟨reading, payload, lower, by omega, by rwa [wall], ?_⟩
    simp only [Goal.topic] at sent
    rwa [sent]

/-- A successful publication, on a topic that no goal is about. -/
theorem Reached.send (reached : Reached cfg floatText start goals site)
    (apart : ∀ goal ∈ goals, message.topic ≠ goal.topic cfg) :
    Sending cfg floatText start goals message { site with sent := site.sent ++ [message] } where
  cached := by
    intro topic other entry found
    rw [lastSent_append_of_ne other.symm]
    exact reached.cached topic entry found
  started := reached.started
  met := by
    intro goal member
    exact (reached.met goal member).of_same (lastSent_append_of_ne (apart goal member)) rfl (Nat.le_refl _)
  sent := by simp

theorem Sending.remember (sending : Sending cfg floatText start goals message site) (time : Time)
    (discovery : Bool) : Reached cfg floatText start goals (site.remember message time discovery) where
  cached := by
    intro topic entry found
    by_cases same : topic = message.topic
    · subst same
      simp only [Site.remember, Function.update_self, Option.some.injEq] at found
      subst found
      exact sending.sent
    · simp only [Site.remember, Function.update_of_ne same] at found
      exact sending.cached topic same entry found
  started := sending.started
  met := fun goal member => (sending.met goal member).of_same rfl rfl (Nat.le_refl _)

/-! ## What a call does -/

/-- The readings of `time.Now` so far, which no publication touches. -/
abbrev Readings := (Nat → Time) → Nat → Prop

/-- The invariant and what is known of the readings. -/
def Reached.With (cfg : PublisherConfig) (floatText : FloatText F) (start : Nat) (goals : List (Goal F))
    (K : Readings) (site : Site) : Prop :=
  Reached cfg floatText start goals site ∧ K site.wall site.wallReadings

/-- What sending a message leaves, by its result. -/
def Reached.After (cfg : PublisherConfig) (floatText : FloatText F) (start : Nat) (goals : List (Goal F))
    (K : Readings) (message : PublishMessage) : Except GoError Unit → Site → Prop
  | .ok _, site => Sending cfg floatText start goals message site ∧ K site.wall site.wallReadings
  | .error _, site => Reached.With cfg floatText start goals K site

theorem triple_wasDiscovered {P : Site → Prop} {discovery : Bool} :
    Program.Triple perform P (wasDiscovered message discovery) fun known site =>
      (known = true → discovery = true) ∧ P site := by
  cases discovery with
  | true => exact Program.triple_perform fun choice site holds => ⟨fun _ => rfl, holds⟩
  | false => exact Program.triple_ret fun site holds => ⟨by simp, holds⟩

/-- A publication keeps the invariant and the goals on other topics; where it reports no
    error, the broker holds its payload, even if nothing was sent. -/
theorem reached_publish {K : Readings} (discovery : Bool)
    (apart : ∀ goal ∈ goals, message.topic ≠ goal.topic cfg) :
    Action.Triple perform (Reached.With cfg floatText start goals K) (publish cfg message discovery)
      fun result site => Reached.With cfg floatText start goals K site ∧
        (result = .ok () → discovery = false → lastSent site.sent message.topic = some message.payload) := by
  have reads : Program.Triple perform (Reached.With cfg floatText start goals K) (ask .now)
      fun _ => Reached.With cfg floatText start goals K :=
    Program.triple_perform fun choice site holds => ⟨{ holds.1 with }, holds.2⟩
  apply Action.Triple.bind_always reads
  intro now
  apply Action.Triple.bind_always triple_wasDiscovered
  intro known
  apply Program.Triple.assuming
  intro onlyDiscovery
  cases known with
  | true =>
    apply Action.triple_pure
    intro site holds
    refine ⟨holds, ?_⟩
    intro _ notDiscovery
    simp [onlyDiscovery rfl] at notDiscovery
  | false =>
    have looksUp : Program.Triple perform (Reached.With cfg floatText start goals K)
        (ask (.cached message.topic)) fun previous site =>
          Reached.With cfg floatText start goals K site ∧ site.published message.topic = previous :=
      Program.triple_perform fun choice site holds => ⟨holds, rfl⟩
    apply Action.Triple.bind_always looksUp
    intro previous
    split
    · next same =>
      apply Action.triple_pure
      intro site holds
      refine ⟨holds.1, ?_⟩
      intro _ _
      -- the entry has the message's payload, and the broker has the entry's
      cases previous with
      | none => simp [unchanged] at same
      | some entry =>
        simp only [unchanged, Bool.and_eq_true, decide_eq_true_eq] at same
        rw [holds.1.1.cached _ entry holds.2, same.1]
    · have sends : Action.Triple perform
          (fun site => Reached.With cfg floatText start goals K site ∧ site.published message.topic = previous)
          (call (.clientPublish message) rfl) (Reached.After cfg floatText start goals K message) := by
        apply Program.triple_perform
        intro choice site holds
        cases choice with
        | none => exact ⟨holds.1.1.send apart, holds.1.2⟩
        | some cause => exact holds.1
      apply Action.Triple.bind sends
      · intro _
        apply Action.triple_always
        apply Program.triple_perform
        intro choice site holds
        exact ⟨⟨holds.1.remember now discovery, holds.2⟩, fun _ _ => holds.1.sent⟩
      · intro cause site holds
        exact ⟨holds, by simp⟩

/-! ## The topics of a call -/

theorem getLast?_append_text {s t : String} {c : Char} (last : t.toList.getLast? = some c) :
    (s ++ t).toList.getLast? = some c := by
  rw [String.toList_append, List.getLast?_append, last]
  rfl

theorem getLast?_goal_topic (goal : Goal F) : (goal.topic cfg).toList.getLast? ≠ some 'g' := by
  cases goal with
  | availability node =>
    rw [show ((Goal.availability (F := F) node).topic cfg).toList.getLast? = some 'y' from
      getLast?_append_text rfl]
    decide
  | state node ups =>
    rw [show ((Goal.state node ups).topic cfg).toList.getLast? = some 'e' from getLast?_append_text rfl]
    decide

theorem getLast?_discoveryTopic (discoveryPrefix component object : String) :
    (discoveryTopic discoveryPrefix component object).toList.getLast? = some 'g' :=
  getLast?_append_text rfl

theorem getLast?_of_discoveryMessages {node : NodeInfo} {ups : UPSInfo F} {messages : List PublishMessage}
    (made : discoveryMessages cfg.messages node ups = .ok messages) :
    ∀ message ∈ messages, message.topic.toList.getLast? = some 'g' := by
  intro message member
  simp only [discoveryMessages, except_bind_eq_ok] at made
  obtain ⟨_, -, _, -, listed⟩ := made
  obtain rfl : _ = messages := Except.ok.inj listed
  rw [List.mem_append] at member
  cases member with
  | inl sensor =>
    obtain ⟨spec, -, rfl⟩ := List.mem_map.mp sensor
    exact getLast?_discoveryTopic _ _ _
  | inr button =>
    obtain ⟨command, -, rfl⟩ := List.mem_map.mp button
    exact getLast?_discoveryTopic _ _ _

/-- A discovery message is on a topic of its own kind. -/
theorem topic_of_discoveryMessages {node : NodeInfo} {ups : UPSInfo F} {messages : List PublishMessage}
    (made : discoveryMessages cfg.messages node ups = .ok messages) :
    ∀ message ∈ messages, ∀ goal : Goal F, message.topic ≠ goal.topic cfg := by
  intro message member goal same
  have last : message.topic.toList.getLast? = some 'g' := getLast?_of_discoveryMessages made message member
  rw [same] at last
  exact getLast?_goal_topic goal last

theorem stateMessage_ok {node : NodeInfo} {ups : UPSInfo F} {now : Time}
    (made : stateMessage cfg.messages node floatText ups now = .ok message) :
    statePayload node floatText ups now = .ok message.payload ∧
      message.topic = (Goal.state node ups).topic cfg := by
  simp only [stateMessage, except_bind_eq_ok] at made
  obtain ⟨_, -, payload, encoded, built⟩ := made
  obtain rfl : _ = message := Except.ok.inj built
  exact ⟨encoded, rfl⟩

theorem availabilityMessage_ok {node : NodeInfo} (made : availabilityMessage cfg.messages node = .ok message) :
    message.payload = (if node.online then "online" else "offline") ∧
      message.topic = (Goal.availability (F := F) node).topic cfg := by
  simp only [availabilityMessage, except_bind_eq_ok] at made
  obtain ⟨_, -, built⟩ := made
  obtain rfl : _ = message := Except.ok.inj built
  exact ⟨rfl, rfl⟩

/-! ## The parts of a call -/

/-- Where a part of a call has ended without an error, its goals are met too. -/
def Extended (cfg : PublisherConfig) (floatText : FloatText F) (start : Nat) (goals more : List (Goal F))
    (result : Except GoError Unit) (site : Site) : Prop :=
  Reached cfg floatText start goals site ∧
    (result = .ok () → Reached cfg floatText start (goals ++ more) site)

theorem Reached.add (reached : Reached cfg floatText start goals site) {goal : Goal F}
    (met : goal.Met cfg floatText start site) : Reached cfg floatText start (goals ++ [goal]) site where
  cached := reached.cached
  started := reached.started
  met := by
    intro other member
    rw [List.mem_append, List.mem_singleton] at member
    cases member with
    | inl old => exact reached.met other old
    | inr new => exact new ▸ met

theorem reached_publishAll {K : Readings} {messages : List PublishMessage}
    (apart : ∀ message ∈ messages, ∀ goal ∈ goals, message.topic ≠ goal.topic cfg) :
    Action.Triple perform (Reached.With cfg floatText start goals K) (publishAll cfg true messages)
      fun _ => Reached.With cfg floatText start goals K := by
  induction messages with
  | nil => exact Action.triple_pure fun site holds => holds
  | cons message rest ih =>
    apply Action.Triple.bind (reached_publish true (apart message (List.mem_cons_self ..)))
    · intro _
      apply Action.Triple.mono (ih fun other member => apart other (List.mem_cons_of_mem _ member))
      · intro site holds
        exact holds.1
      · intro result site holds
        exact holds
    · intro cause site holds
      exact holds.1

/-- The topics of the goals are pairwise distinct. -/
def Distinct (cfg : PublisherConfig) (goals : List (Goal F)) : Prop :=
  goals.Pairwise fun goal other => goal.topic cfg ≠ other.topic cfg

theorem Distinct.apart {goal : Goal F} {rest : List (Goal F)} (distinct : Distinct cfg (goals ++ goal :: rest)) :
    ∀ other ∈ goals, goal.topic cfg ≠ other.topic cfg := by
  intro other member
  exact ((List.pairwise_append.mp distinct).2.2 other member goal (List.mem_cons_self ..)).symm

/-- A reading of `time.Now` in the call. -/
def TakenIn (start : Nat) (now : Time) : Readings := fun wall readings =>
  ∃ reading, start ≤ reading ∧ reading < readings ∧ wall reading = now

theorem reached_timeNow : Program.Triple perform (Reached.With cfg floatText start goals fun _ _ => True)
    (ask .timeNow) fun now => Reached.With cfg floatText start goals (TakenIn start now) := by
  apply Program.triple_perform
  intro choice site holds
  have started := holds.1.started
  refine ⟨⟨holds.1.cached, Nat.le_succ_of_le started, ?_⟩, site.wallReadings, started, Nat.lt_succ_self _, rfl⟩
  intro goal member
  exact (holds.1.met goal member).of_same rfl rfl (Nat.le_succ _)

theorem extended_publishState {node : NodeInfo} {ups : UPSInfo F} {now : Time}
    (made : stateMessage cfg.messages node floatText ups now = .ok message)
    (apart : ∀ other ∈ goals, (Goal.state node ups).topic cfg ≠ other.topic cfg) :
    Action.Triple perform (Reached.With cfg floatText start goals (TakenIn start now))
      (publish cfg message false) (Extended cfg floatText start goals [.state node ups]) := by
  obtain ⟨encoded, topic⟩ := stateMessage_ok made
  have clear : ∀ goal ∈ goals, message.topic ≠ goal.topic cfg := by
    rw [topic]
    exact apart
  apply Action.Triple.mono (reached_publish false clear) (fun site holds => holds)
  intro result site holds
  obtain ⟨⟨reached, reading, lower, upper, taken⟩, sent⟩ := holds
  refine ⟨reached, ?_⟩
  intro ok
  apply reached.add
  refine ⟨reading, message.payload, lower, upper, by rwa [taken], ?_⟩
  rw [← sent ok rfl, topic]
  rfl

theorem extended_publishUPS (node : NodeInfo) (ups : UPSInfo F)
    (apart : ∀ other ∈ goals, (Goal.state node ups).topic cfg ≠ other.topic cfg) :
    Action.Triple perform (Reached cfg floatText start goals) (publishUPS cfg floatText node ups)
      (Extended cfg floatText start goals [.state node ups]) := by
  unfold publishUPS
  cases discovered : discoveryMessages cfg.messages node ups with
  | error cause => exact Action.triple_throw fun site reached => ⟨reached, by simp⟩
  | ok messages =>
    have discovers : Action.Triple perform
        (Reached.With cfg floatText start goals fun _ _ => True) (publishAll cfg true messages)
        (fun _ => Reached.With cfg floatText start goals fun _ _ => True) :=
      reached_publishAll fun message member goal _ => topic_of_discoveryMessages discovered message member goal
    apply Action.Triple.bind (discovers.mono (fun site reached => ⟨reached, trivial⟩) fun _ _ holds => holds)
    · intro _
      apply Action.Triple.bind_always reached_timeNow
      intro now
      cases made : stateMessage cfg.messages node floatText ups now with
      | error cause => exact Action.triple_throw fun site holds => ⟨holds.1, by simp⟩
      | ok message => exact extended_publishState made apart
    · intro cause site holds
      exact ⟨holds.1, by simp⟩

theorem Reached.left {more : List (Goal F)} (reached : Reached cfg floatText start (goals ++ more) site) :
    Reached cfg floatText start goals site where
  cached := reached.cached
  started := reached.started
  met := fun goal member => reached.met goal (List.mem_append_left _ member)

/-- One part of a call after another. -/
theorem extended_bind {x y : PublisherAction Unit} {first rest : List (Goal F)}
    (before : Action.Triple perform (Reached cfg floatText start goals) x
      (Extended cfg floatText start goals first))
    (after : Action.Triple perform (Reached cfg floatText start (goals ++ first)) y
      (Extended cfg floatText start (goals ++ first) rest)) :
    Action.Triple perform (Reached cfg floatText start goals) (x >>= fun _ => y)
      (Extended cfg floatText start goals (first ++ rest)) := by
  apply Action.Triple.bind before
  · intro _
    apply Action.Triple.mono after
    · intro site extended
      exact extended.2 rfl
    · intro result site extended
      refine ⟨extended.1.left, ?_⟩
      rw [← List.append_assoc]
      exact extended.2
  · intro cause site extended
    exact ⟨extended.1, by simp⟩

theorem extended_pure : Action.Triple perform (Reached cfg floatText start goals)
    (pure () : PublisherAction Unit) (Extended cfg floatText start goals []) := by
  apply Action.triple_pure
  intro site reached
  refine ⟨reached, ?_⟩
  rw [List.append_nil]
  exact fun _ => reached

theorem extended_publishUPSes {node : NodeInfo} {upses : List (UPSInfo F)}
    (distinct : Distinct cfg (goals ++ upses.map (.state node))) :
    Action.Triple perform (Reached cfg floatText start goals) (publishUPSes cfg floatText node upses)
      (Extended cfg floatText start goals (upses.map (.state node))) := by
  induction upses generalizing goals with
  | nil => exact extended_pure
  | cons ups rest ih =>
    apply extended_bind (extended_publishUPS node ups distinct.apart)
    apply ih
    simpa using distinct

theorem extended_publishAvailability {node : NodeInfo}
    (made : availabilityMessage cfg.messages node = .ok message)
    (apart : ∀ other ∈ goals, (Goal.availability (F := F) node).topic cfg ≠ other.topic cfg) :
    Action.Triple perform (Reached cfg floatText start goals) (publish cfg message false)
      (Extended cfg floatText start goals [.availability node]) := by
  obtain ⟨payload, topic⟩ := availabilityMessage_ok (F := F) made
  have clear : ∀ goal ∈ goals, message.topic ≠ goal.topic cfg := by
    rw [topic]
    exact apart
  have publishes : Action.Triple perform (Reached.With cfg floatText start goals fun _ _ => True)
      (publish cfg message false) fun result site =>
        Reached.With cfg floatText start goals (fun _ _ => True) site ∧
          (result = .ok () → false = false → lastSent site.sent message.topic = some message.payload) :=
    reached_publish false clear
  apply publishes.mono (fun site reached => ⟨reached, trivial⟩)
  intro result site holds
  refine ⟨holds.1.1, ?_⟩
  intro ok
  apply holds.1.1.add
  simp only [Goal.Met]
  rw [← payload, ← holds.2 ok rfl, topic]
  rfl

theorem extended_publishNodes {snapshots : List (NodeSnapshot F)}
    (distinct : Distinct cfg (goals ++ goalsOf snapshots)) :
    Action.Triple perform (Reached cfg floatText start goals) (publishNodes cfg floatText snapshots)
      (Extended cfg floatText start goals (goalsOf snapshots)) := by
  induction snapshots generalizing goals with
  | nil => exact extended_pure
  | cons snapshot rest ih =>
    have shape : goalsOf (snapshot :: rest) = [.availability snapshot.node] ++
        (snapshot.upses.map (.state snapshot.node) ++ goalsOf rest) := by
      simp [goalsOf]
    rw [shape] at distinct ⊢
    cases made : availabilityMessage cfg.messages snapshot.node with
    | error cause =>
      unfold publishNodes
      rw [made]
      exact Action.triple_throw fun site reached => ⟨reached, by simp⟩
    | ok message =>
      unfold publishNodes
      rw [made]
      apply extended_bind (extended_publishAvailability made distinct.apart)
      have upses : Distinct cfg (goals ++ [.availability snapshot.node] ++
          snapshot.upses.map (.state snapshot.node)) := by
        rw [← List.append_assoc, ← List.append_assoc] at distinct
        exact (List.pairwise_append.mp distinct).1
      apply extended_bind (extended_publishUPSes upses)
      apply ih
      simpa using distinct

/-- What a call before its first publication leaves of the invariant. -/
theorem reached_ensureCommandSubscription :
    Action.Triple perform (Reached cfg floatText start goals) (ensureCommandSubscription cfg)
      (fun _ => Reached cfg floatText start goals) := by
  have looks : Program.Triple perform (Reached cfg floatText start goals) (ask .isSubscribed)
      fun _ => Reached cfg floatText start goals :=
    Program.triple_perform fun choice site reached => reached
  apply Action.Triple.bind_always looks
  intro subscribed
  cases subscribed with
  | true => exact Action.triple_pure fun site reached => reached
  | false =>
    have subscribes : Action.Triple perform (Reached cfg floatText start goals)
        (call (.subscribe (commandSubscriptionTopic cfg)) rfl)
        (fun _ => Reached cfg floatText start goals) := by
      apply Program.triple_perform
      intro choice site reached
      cases choice <;> exact reached
    apply Action.Triple.bind subscribes
    · intro _
      exact Action.triple_always (Program.triple_perform fun choice site reached => { reached with })
    · intro cause site reached
      exact reached

theorem extended_publishSnapshots {snapshots : List (NodeSnapshot F)}
    (distinct : Distinct cfg (goalsOf snapshots)) :
    Action.Triple perform (Reached cfg floatText start []) (publishSnapshots cfg floatText snapshots)
      (Extended cfg floatText start [] (goalsOf snapshots)) := by
  have awaits : Action.Triple perform (Reached cfg floatText start []) (call .awaitConnection rfl)
      fun (_ : Except GoError Unit) => Reached cfg floatText start [] := by
    apply Program.triple_perform
    intro choice site reached
    cases choice <;> exact reached
  apply Action.Triple.bind awaits
  · intro _
    apply Action.Triple.bind reached_ensureCommandSubscription
    · intro _
      have routes : Program.Triple perform (Reached cfg floatText start [])
          (ask (.setRoutes (routesOf cfg.messages.statePrefix snapshots)))
          (fun _ => Reached cfg floatText start []) :=
        Program.triple_perform fun choice site reached => { reached with }
      apply Action.Triple.bind_always routes
      intro _
      have online : Action.Triple perform (Reached cfg floatText start []) (publish cfg (controllerMessage cfg) false)
          (Extended cfg floatText start [] []) := by
        have publishes : Action.Triple perform (Reached.With cfg floatText start [] fun _ _ => True)
            (publish cfg (controllerMessage cfg) false) fun _ site =>
              Reached.With cfg floatText start [] (fun _ _ => True) site :=
          (reached_publish false (by simp)).mono (fun _ holds => holds) fun _ _ holds => holds.1
        apply publishes.mono (fun site reached => ⟨reached, trivial⟩)
        intro result site holds
        exact ⟨holds.1, fun _ => holds.1⟩
      exact extended_bind online (extended_publishNodes (by simpa using distinct))
    · intro cause site reached
      exact ⟨reached, by simp⟩
  · intro cause site reached
    exact ⟨reached, by simp⟩

/-! ## Runs -/

/-- A call with the snapshots it is given and the choices of its operations. -/
structure Call (F : Type) where
  snapshots : List (NodeSnapshot F)
  choices : Nat → Choice

def Call.outcome (cfg : PublisherConfig) (floatText : FloatText F) (call : Call F) (site : Site) :
    Except GoError Unit × Site :=
  let result := (publishSnapshots cfg floatText call.snapshots).exec (guide perform)
    { state := site, choices := call.choices }
  (result.1, result.2.state)

def callStep (cfg : PublisherConfig) (floatText : FloatText F) (site : Site) (call : Call F) : Option Site :=
  some (call.outcome cfg floatText site).2

theorem extended_call {call : Call F} (distinct : Distinct cfg (goalsOf call.snapshots))
    (cached : ∀ topic, Cached site topic) :
    Extended cfg floatText site.wallReadings [] (goalsOf call.snapshots)
      (call.outcome cfg floatText site).1 (call.outcome cfg floatText site).2 := by
  have reached : Reached cfg floatText site.wallReadings [] site :=
    { cached, started := Nat.le_refl _, met := by simp }
  exact (extended_publishSnapshots distinct).run { state := site, choices := call.choices } reached

theorem cached_run {site' : Site} {calls : List (Call F)}
    (distinct : ∀ call ∈ calls, Distinct cfg (goalsOf call.snapshots))
    (cached : ∀ topic, Cached site topic) (run : replay (callStep cfg floatText) site calls = some site') :
    ∀ topic, Cached site' topic := by
  induction calls generalizing site with
  | nil =>
    cases run
    exact cached
  | cons call rest ih =>
    obtain ⟨next, taken, later⟩ := replay_cons.mp run
    cases taken
    have extended : Extended cfg floatText _ _ _ _ _ :=
      extended_call (distinct call (List.mem_cons_self ..)) cached
    exact ih (fun other member => distinct other (List.mem_cons_of_mem _ member)) extended.1.cached later

/-- For every sequence of calls on a publisher whose cache is empty at first, in which
    anything may fail, with snapshots whose topics are pairwise distinct: after a call that
    ends without an error the last payload that was published on the topic of each of its
    nodes and UPSes is the one made from the snapshot in that call. -/
theorem broker_holds_snapshots {site' after : Site} {calls : List (Call F)} {call : Call F}
    (empty : site.published = fun _ => none)
    (distinct : ∀ other ∈ calls ++ [call], Distinct cfg (goalsOf other.snapshots))
    (run : replay (callStep cfg floatText) site calls = some site')
    (ok : call.outcome cfg floatText site' = (.ok (), after)) :
    ∀ snapshot ∈ call.snapshots,
      lastSent after.sent (availabilityTopic cfg.messages.stateRoot snapshot.node.id) =
        some (if snapshot.node.online then "online" else "offline") ∧
      ∀ ups ∈ snapshot.upses, ∃ reading payload, site'.wallReadings ≤ reading ∧
        reading < after.wallReadings ∧
        statePayload snapshot.node floatText ups (after.wall reading) = .ok payload ∧
        lastSent after.sent (stateTopic cfg.messages.stateRoot snapshot.node.id ups.name) = some payload := by
  have cached : ∀ topic, Cached site topic := by
    intro topic entry found
    simp [empty] at found
  have before := cached_run (fun other member => distinct other (List.mem_append_left _ member)) cached run
  have extended : Extended cfg floatText _ _ _ _ _ := extended_call (distinct call (by simp)) before
  rw [ok] at extended
  have met := (extended.2 rfl).met
  intro snapshot member
  have goals : ∀ goal ∈ Goal.availability snapshot.node :: snapshot.upses.map (.state snapshot.node),
      goal.Met cfg floatText site'.wallReadings after := by
    intro goal own
    exact met goal (List.mem_flatMap.mpr ⟨snapshot, member, own⟩)
  constructor
  · exact goals _ (List.mem_cons_self ..)
  · intro ups own
    exact goals (.state snapshot.node ups) (List.mem_cons_of_mem _ (List.mem_map_of_mem own))

def sampleConfig : PublisherConfig := newPublisher {}

def integerText : FloatText Int := fun value => .ok (toString value)

def labSnapshot (online : Bool) (charge : Int) : NodeSnapshot Int where
  node := { id := "serial-1234", displayName := "Lab Rack Node", online, commsState := "healthy", version := "v0.3.0" }
  upses := [{ name := "ups-a", displayName := "Rack UPS", status := "OL", batteryCharge := some charge }]

def sampleSite : Site where
  clock := fun reading => ⟨(1782378000 + reading) * second⟩
  wall := fun reading => ⟨(1782378000 + reading) * second⟩

/-- A call that fails where it publishes the availability of its node. -/
def interruptedCalls : List (Call Int) := [
  { snapshots := [labSnapshot true 98]
    choices := fun turn => if turn = 11 then some (.text "broken pipe") else none }]

def lastCall : Call Int := { snapshots := [labSnapshot false 97], choices := fun _ => none }

def interruptedSite : Site :=
  interruptedCalls.foldl (fun site call => (call.outcome sampleConfig integerText site).2) sampleSite

theorem broker_holds_snapshots_of_two :
    (lastCall.outcome sampleConfig integerText interruptedSite).1 = .ok () ∧
      lastSent (lastCall.outcome sampleConfig integerText interruptedSite).2.sent
        "strom/nodes/serial_1234/availability" = some "offline" := by
  have distinct : ∀ other ∈ interruptedCalls ++ [lastCall], Distinct sampleConfig (goalsOf other.snapshots) := by
    simp only [interruptedCalls, lastCall, List.cons_append, List.nil_append, List.mem_cons,
      List.not_mem_nil, or_false, forall_eq_or_imp, forall_eq, Distinct,
      goalsOf, labSnapshot]
    decide +kernel
  have ok : (lastCall.outcome sampleConfig integerText interruptedSite).1 = .ok () := by decide +kernel
  refine ⟨ok, ?_⟩
  have holds := broker_holds_snapshots rfl distinct rfl (Prod.ext ok rfl)
  exact (holds (labSnapshot false 97) (by simp [lastCall])).1

end Strom.Mqtt
