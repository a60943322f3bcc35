import Strom.Mqtt.Emissions

/-!
# A second call with the same snapshots (`publisher.go`)

A second call with the same snapshots makes the same messages as the first, but for the
time in each state message.  `second_call_silent_iff` says when it sends none of them.
-/

namespace Strom.Mqtt

open Strom.Go Strom.Effects

variable {F : Type} {heartbeat : Int} {site : Site} {entry : Entry}

/-! ## The messages of two calls -/

section Again

variable {cfg : PublisherConfig} {floatText : FloatText F} {node : NodeInfo} {ups : UPSInfo F}
  {wall : Nat → Time} {k : Nat}

theorem statePayload_again {now : Time} (later : Time) {payload : String}
    (made : statePayload node floatText ups now = .ok payload) :
    ∃ payload', statePayload node floatText ups later = .ok payload' := by
  simp only [statePayload, except_bind_eq_ok] at made ⊢
  obtain ⟨charge, one, voltage, two, load, three, -⟩ := made
  exact ⟨_, charge, one, voltage, two, load, three, rfl⟩

theorem stateMessage_again {now : Time} (later : Time) {message : PublishMessage}
    (made : stateMessage cfg.messages node floatText ups now = .ok message) :
    ∃ message', stateMessage cfg.messages node floatText ups later = .ok message' ∧
      message'.topic = message.topic := by
  simp only [stateMessage, except_bind_eq_ok] at made ⊢
  obtain ⟨_, named, payload, encoded, built⟩ := made
  obtain rfl : _ = message := Except.ok.inj built
  obtain ⟨payload', encoded'⟩ := statePayload_again later encoded
  exact ⟨_, ⟨_, named, payload', encoded', rfl⟩, rfl⟩

/-- The second messages are of the kinds and on the topics of the first. -/
def Alike (first second : List Entry) : Prop :=
  ∀ entry ∈ second, ∃ earlier ∈ first,
    earlier.message.topic = entry.message.topic ∧ earlier.discovery = entry.discovery

theorem Alike.append {a b c d : List Entry} (one : Alike a b) (two : Alike c d) : Alike (a ++ c) (b ++ d) := by
  intro entry member
  cases List.mem_append.mp member with
  | inl left =>
    obtain ⟨earlier, own, same⟩ := one entry left
    exact ⟨earlier, List.mem_append_left _ own, same⟩
  | inr right =>
    obtain ⟨earlier, own, same⟩ := two entry right
    exact ⟨earlier, List.mem_append_right _ own, same⟩

theorem alike_refl (entries : List Entry) : Alike entries entries :=
  fun entry member => ⟨entry, member, rfl, rfl⟩

theorem upsMessages_again {now : Time} (later : Time) {entries : List Entry}
    (made : upsMessages cfg floatText node ups now = .ok entries) :
    (∀ entry ∈ entries, entry.Proper) ∧
      ∃ entries', upsMessages cfg floatText node ups later = .ok entries' ∧ Alike entries entries' := by
  simp only [upsMessages, except_bind_eq_ok] at made ⊢
  obtain ⟨list, discovered, message, stated, all⟩ := made
  obtain rfl : _ = entries := Except.ok.inj all
  constructor
  · intro entry member
    simp only [List.mem_append, List.mem_map, List.mem_singleton] at member
    obtain ⟨found, own, rfl⟩ | rfl := member
    · exact proper_of_discoveryMessages discovered found own
    · exact proper_of_goal (.state node ups) (stateMessage_ok stated).2
  · obtain ⟨message', stated', topic⟩ := stateMessage_again later stated
    refine ⟨_, ⟨list, discovered, message', stated', rfl⟩, (alike_refl _).append ?_⟩
    simp [Alike, topic]

theorem upsesMessages_again {upses : List (UPSInfo F)} (k' : Nat) {entries : List Entry}
    (made : upsesMessages cfg floatText node wall k upses = .ok entries) :
    (∀ entry ∈ entries, entry.Proper) ∧
      ∃ entries', upsesMessages cfg floatText node wall k' upses = .ok entries' ∧ Alike entries entries' := by
  induction upses generalizing k k' entries with
  | nil =>
    obtain rfl : [] = entries := Except.ok.inj made
    exact ⟨by simp, [], rfl, alike_refl []⟩
  | cons ups rest ih =>
    simp only [upsesMessages, except_bind_eq_ok] at made ⊢
    obtain ⟨first, one, others, two, all⟩ := made
    obtain rfl : _ = entries := Except.ok.inj all
    obtain ⟨proper, first', one', alike⟩ := upsMessages_again (wall k') one
    obtain ⟨propers, others', two', alikes⟩ := ih (k' + 1) two
    refine ⟨?_, _, ⟨first', one', others', two', rfl⟩, alike.append alikes⟩
    simpa [or_imp, forall_and] using ⟨proper, propers⟩

theorem nodesMessages_again {snapshots : List (NodeSnapshot F)} (k' : Nat) {entries : List Entry}
    (made : nodesMessages cfg floatText wall k snapshots = .ok entries) :
    (∀ entry ∈ entries, entry.Proper) ∧
      ∃ entries', nodesMessages cfg floatText wall k' snapshots = .ok entries' ∧ Alike entries entries' := by
  induction snapshots generalizing k k' entries with
  | nil =>
    obtain rfl : [] = entries := Except.ok.inj made
    exact ⟨by simp, [], rfl, alike_refl []⟩
  | cons snapshot rest ih =>
    simp only [nodesMessages, except_bind_eq_ok] at made ⊢
    obtain ⟨message, available, upses, one, others, two, all⟩ := made
    obtain rfl : _ = entries := Except.ok.inj all
    have own : (⟨message, false⟩ : Entry).Proper :=
      proper_of_goal (.availability (F := F) snapshot.node) (availabilityMessage_ok available).2
    obtain ⟨proper, upses', one', alike⟩ := upsesMessages_again k' one
    obtain ⟨propers, others', two', alikes⟩ := ih (k' + snapshot.upses.length) two
    refine ⟨?_, _, ⟨message, available, upses', one', others', two', rfl⟩,
      (alike_refl _).append (alike.append alikes)⟩
    simpa [or_imp, forall_and] using ⟨own, proper, propers⟩

theorem callMessages_again {snapshots : List (NodeSnapshot F)} (k' : Nat) {entries : List Entry}
    (made : callMessages cfg floatText wall k snapshots = .ok entries) :
    (∀ entry ∈ entries, entry.Proper) ∧
      ∃ entries', callMessages cfg floatText wall k' snapshots = .ok entries' ∧ Alike entries entries' := by
  simp only [callMessages, except_bind_eq_ok] at made ⊢
  obtain ⟨nodes, listed, all⟩ := made
  obtain rfl : _ = entries := Except.ok.inj all
  obtain ⟨propers, nodes', listed', alike⟩ := nodesMessages_again k' listed
  refine ⟨?_, _, ⟨nodes', listed', rfl⟩, (alike_refl _).append alike⟩
  simpa [or_imp, forall_and] using ⟨proper_controllerMessage, propers⟩

end Again

/-! ## What the messages of a call leave -/

theorem Site.discovery_publish {topic : String} (known : topic ∈ site.discovery) :
    topic ∈ (site.publish heartbeat entry).discovery := by
  unfold Site.publish
  split
  · exact known
  · simp only [Site.remember, Site.send, Site.tick]
    split <;> simp [known]

theorem Site.discovery_publishAll {topic : String} {entries : List Entry} (known : topic ∈ site.discovery) :
    topic ∈ (site.publishAll heartbeat entries).discovery := by
  induction entries generalizing site with
  | nil => exact known
  | cons entry rest ih => exact ih (site.discovery_publish known)

/-- A discovery message is known as such after it was published. -/
theorem Noted.discovered (noted : Noted site) (proper : entry.Proper) (discovery : entry.discovery = true) :
    entry.message.topic ∈ (site.publish heartbeat entry).discovery := by
  unfold Site.publish
  split
  · next suppressed =>
    simp only [Site.suppresses, discovery, Bool.true_and, Bool.or_eq_true, List.contains_iff_mem] at suppressed
    obtain known | same := suppressed
    · exact known
    · -- the topic was published before, which was as discovery
      apply noted _ (proper.mpr discovery)
      intro never
      simp [unchanged, never] at same
  · simp [Site.remember, discovery]

theorem Noted.all_discovered {entries : List Entry} (noted : Noted site)
    (proper : ∀ entry ∈ entries, entry.Proper) : ∀ entry ∈ entries, entry.discovery = true →
      entry.message.topic ∈ (site.publishAll heartbeat entries).discovery := by
  induction entries generalizing site with
  | nil => simp
  | cons first rest ih =>
    obtain ⟨own, others⟩ := List.forall_mem_cons.mp proper
    intro entry member discovery
    obtain rfl | later := List.mem_cons.mp member
    · rw [Site.publishAll_cons]
      exact Site.discovery_publishAll (noted.discovered own discovery)
    · exact ih (noted.publish own) others entry later discovery

/-- The cache has the last of the messages on each topic of theirs. -/
theorem published_publishAll {entries : List Entry} (proper : ∀ entry ∈ entries, entry.Proper)
    {topic payload : String} (state : topic.toList.getLast? ≠ some 'g')
    (last : lastSent (entries.map (·.message)) topic = some payload) :
    ∃ previous, (site.publishAll heartbeat entries).published topic = some previous ∧
      previous.payload = payload := by
  -- the induction takes the list from its end, where the last message is
  induction entries using List.reverseRecOn with
  | nil => simp [lastSent] at last
  | append_singleton entries entry ih =>
    rw [Site.publishAll_append, Site.publishAll_cons, Site.publishAll_nil]
    rw [List.map_append, List.map_singleton] at last
    have own : entry.Proper := proper entry (by simp)
    by_cases same : entry.message.topic = topic
    · subst same
      rw [lastSent_append_same] at last
      cases last
      have plain : entry.discovery = false := by
        rw [← Bool.not_eq_true]
        exact fun discovery => state (own.mpr discovery)
      unfold Site.publish
      split
      · next suppressed =>
        simp only [Site.suppresses, plain, Bool.false_and, Bool.false_or] at suppressed
        cases found : (site.publishAll heartbeat entries).published entry.message.topic with
        | none => simp [unchanged, found] at suppressed
        | some previous =>
          simp only [unchanged, found, Bool.and_eq_true, decide_eq_true_eq] at suppressed
          exact ⟨previous, found, suppressed.1⟩
      · simp [Site.remember]
    · rw [lastSent_append_of_ne same] at last
      obtain ⟨previous, found, payload⟩ := ih (fun other member => proper other (by simp [member])) last
      refine ⟨previous, ?_, payload⟩
      unfold Site.publish
      split
      · exact found
      · simp only [Site.remember, Function.update_of_ne (Ne.symm same)]
        exact found

/-! ## The second call -/

/-- The payload of each state and availability message is that of the first call's last
    message on its topic, and its topic was published to less than a heartbeat ago. -/
def Repeats (heartbeat : Int) (first second : List Entry) (site : Site) : Prop :=
  ∀ n message, second[n]? = some ⟨message, false⟩ →
    lastSent (first.map (·.message)) message.topic = some message.payload ∧
      ∀ previous, site.published message.topic = some previous →
        (site.clock (site.clockReadings + n)).sub previous.time < heartbeat

theorem lastSent_eq_some_of_mem {messages : List PublishMessage} {message : PublishMessage}
    (member : message ∈ messages) : ∃ payload, lastSent messages message.topic = some payload := by
  unfold lastSent
  cases last : (messages.filter (·.topic = message.topic)).getLast? with
  | some found => exact ⟨found.payload, rfl⟩
  | none =>
    rw [List.getLast?_eq_none_iff, List.filter_eq_nil_iff] at last
    simpa using last message member

theorem silent_iff_repeats {first second : List Entry} (alike : Alike first second)
    (proper : ∀ entry ∈ second, entry.Proper)
    (discovered : ∀ entry ∈ first, entry.discovery = true → entry.message.topic ∈ site.discovery)
    (cached : ∀ topic payload, topic.toList.getLast? ≠ some 'g' →
      lastSent (first.map (·.message)) topic = some payload →
        ∃ previous, site.published topic = some previous ∧ previous.payload = payload) :
    Silent heartbeat site second ↔ Repeats heartbeat first second site := by
  rw [silent_iff]
  -- what is in the cache on the topic of a message that is not a discovery message
  have entryOf : ∀ message, (⟨message, false⟩ : Entry) ∈ second → ∃ previous,
      site.published message.topic = some previous ∧
        lastSent (first.map (·.message)) message.topic = some previous.payload := by
    intro message member
    obtain ⟨earlier, own, topic, -⟩ := alike _ member
    have state : message.topic.toList.getLast? ≠ some 'g' := by
      intro last
      simpa using (proper _ member).mp last
    obtain ⟨payload, last⟩ := lastSent_eq_some_of_mem (List.mem_map_of_mem (f := Entry.message) own)
    rw [topic] at last
    obtain ⟨previous, found, rfl⟩ := cached _ payload state last
    exact ⟨previous, found, last⟩
  constructor
  · intro silent n message found
    obtain ⟨previous, entry, last⟩ := entryOf message (List.mem_of_getElem? found)
    have suppressed := silent n _ found
    simp only [Site.suppresses, Site.tick, Bool.false_and, Bool.false_or, entry, unchanged,
      Bool.and_eq_true, decide_eq_true_eq] at suppressed
    refine ⟨by rw [last, suppressed.1], ?_⟩
    intro previous' entry'
    obtain rfl : previous = previous' := Option.some.inj (entry.symm.trans entry')
    exact of_decide_eq_true suppressed.2
  · intro repeats n entry found
    cases entry with
    | mk message discovery =>
      cases discovery with
      | true =>
        obtain ⟨earlier, own, topic, kind⟩ := alike _ (List.mem_of_getElem? found)
        have known := discovered earlier own kind
        rw [topic] at known
        simp [Site.suppresses, Site.tick, known]
      | false =>
        obtain ⟨same, recent⟩ := repeats n message found
        obtain ⟨previous, entry, last⟩ := entryOf message (List.mem_of_getElem? found)
        have payload : previous.payload = message.payload := Option.some.inj (last.symm.trans same)
        simp [Site.suppresses, Site.tick, entry, unchanged, payload, recent previous entry]

variable {cfg : PublisherConfig} {floatText : FloatText F}

theorem noted_call (call : Call F) (noted : Noted site) : Noted (call.outcome cfg floatText site).2 := by
  obtain ⟨g₁, -, opened, done⟩ := exec_publishSnapshots cfg floatText call.snapshots
    { state := site, choices := call.choices }
  have noted₁ : Noted g₁.state := by
    rw [show g₁.state = _ from opened]
    exact noted
  unfold Call.outcome
  cases done with
  | inl ran =>
    rw [ran]
    obtain ⟨n, emits⟩ : ∃ n, Emits cfg _ (fun wall k => callMessages cfg floatText wall k call.snapshots) n :=
      emits_call call.snapshots
    exact (emits.keeps g₁).2 noted₁
  | inr failed =>
    obtain ⟨-, cause, ran⟩ := failed
    rw [ran]
    exact noted₁

theorem noted_run {calls : List (Call F)} {after : Site} (noted : Noted site)
    (run : replay (callStep cfg floatText) site calls = some after) : Noted after := by
  apply replay_preserves _ noted run
  intro s call t noted taken
  cases taken
  exact noted_call call noted

/-- What a call that ends without an error has done. -/
theorem publishes_of_ok {call : Call F} {after : Site}
    (ok : call.outcome cfg floatText site = (.ok (), after)) : ∃ opened entries n, Opened site opened ∧
      callMessages cfg floatText site.wall site.wallReadings call.snapshots = .ok entries ∧
        after = (opened.publishAll cfg.heartbeat entries).read n := by
  obtain ⟨g₁, -, opened, done⟩ := exec_publishSnapshots cfg floatText call.snapshots
    { state := site, choices := call.choices }
  unfold Call.outcome at ok
  cases done with
  | inr failed =>
    obtain ⟨-, cause, ran⟩ := failed
    rw [ran] at ok
    cases ok
  | inl ran =>
    rw [ran] at ok
    obtain ⟨n, emits⟩ : ∃ n, Emits cfg _ (fun wall k => callMessages cfg floatText wall k call.snapshots) n :=
      emits_call call.snapshots
    obtain ⟨entries, made, state⟩ := emits.ends g₁ (congrArg Prod.fst ok)
    rw [show g₁.state = _ from opened] at made
    exact ⟨g₁.state, entries, n, opened, made, (congrArg Prod.snd ok).symm.trans state⟩

theorem Opened.silent {opened : Site} (same : Opened site opened) {entries : List Entry} :
    Silent heartbeat opened entries ↔ Silent heartbeat site entries := by
  rw [silent_iff, silent_iff, same]
  rfl

/-- What is sent by a call that ends without an error. -/
theorem sends_of_ok {call : Call F} {entries : List Entry}
    (made : callMessages cfg floatText site.wall site.wallReadings call.snapshots = .ok entries)
    (ok : (call.outcome cfg floatText site).1 = .ok ()) :
    (call.outcome cfg floatText site).2.sent = site.sent ↔ Silent cfg.heartbeat site entries := by
  obtain ⟨opened, entries', n, same, made', after⟩ := publishes_of_ok (Prod.ext ok rfl)
  obtain rfl : entries = entries' := Except.ok.inj (made.symm.trans made')
  have final : (call.outcome cfg floatText site).2 = _ := after
  rw [final, ← same.silent]
  unfold Silent
  rw [show site.sent = opened.sent by rw [same]]
  rfl

/-- A call ends without an error where the client accepts everything, and where it is given
    nothing unless the call fails before its first message. -/
theorem ends_of_able {call : Call F} {entries : List Entry}
    (made : callMessages cfg floatText site.wall site.wallReadings call.snapshots = .ok entries)
    (able : (∀ turn, call.choices turn = none) ∨ Silent cfg.heartbeat site entries) :
    (call.outcome cfg floatText site).1 = .ok () ∨
      ¬ (∀ turn, call.choices turn = none) ∧ (call.outcome cfg floatText site).2.sent = site.sent := by
  obtain ⟨g₁, choices, opened, done⟩ := exec_publishSnapshots cfg floatText call.snapshots
    { state := site, choices := call.choices }
  unfold Call.outcome
  cases done with
  | inr failed =>
    obtain ⟨faulty, cause, ran⟩ := failed
    rw [ran]
    refine .inr ⟨faulty, ?_⟩
    show g₁.state.sent = site.sent
    rw [opened]
  | inl ran =>
    left
    rw [ran]
    obtain ⟨n, emits⟩ : ∃ n, Emits cfg _ (fun wall k => callMessages cfg floatText wall k call.snapshots) n :=
      emits_call call.snapshots
    apply emits.succeeds g₁ entries
    · rw [opened]
      exact made
    · apply able.imp
      · intro faultless
        unfold Faultless
        rwa [choices]
      · exact opened.silent.mpr

/-- A call sends nothing, whatever the client does, exactly if its messages are suppressed. -/
theorem sends_nothing_iff {snapshots : List (NodeSnapshot F)} {entries : List Entry}
    (made : callMessages cfg floatText site.wall site.wallReadings snapshots = .ok entries) :
    (∀ choices, ((Call.mk snapshots choices).outcome cfg floatText site).2.sent = site.sent) ↔
      Silent cfg.heartbeat site entries := by
  constructor
  · intro nothing
    let accepting : Call F := { snapshots, choices := fun _ => none }
    have accepts : ∀ turn, accepting.choices turn = none := fun _ => rfl
    have ends : (accepting.outcome cfg floatText site).1 = .ok () ∨ _ := ends_of_able made (.inl accepts)
    cases ends with
    | inl ok => exact (sends_of_ok made ok).mp (nothing _)
    | inr failed => exact absurd accepts failed.1
  · intro silent choices
    let repeated : Call F := { snapshots, choices }
    have ends : (repeated.outcome cfg floatText site).1 = .ok () ∨ _ := ends_of_able made (.inr silent)
    cases ends with
    | inl ok => exact (sends_of_ok made ok).mpr silent
    | inr failed => exact failed.2

end Strom.Mqtt
