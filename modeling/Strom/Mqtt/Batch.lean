import Strom.Mqtt.Repeats

/-!
# Batches of encodable states (`publisher.go`)

`PublishSnapshots` stops at the first UPS whose state has no JSON text.  Where all of them have
one, and all names are given, a client that accepts everything is given the state of every UPS
(`publishesAll_of_encodes`).
-/

namespace Strom.Mqtt

open Strom.Go Strom.Effects

variable {F : Type} {cfg : PublisherConfig} {floatText : FloatText F} {wall : Nat → Time} {k : Nat}

/-- The state of a UPS has a JSON text at every time. -/
def Encodes (floatText : FloatText F) (node : NodeInfo) (ups : UPSInfo F) : Prop :=
  ∀ now, ∃ payload, statePayload node floatText ups now = .ok payload

/-- The node and its UPSes have names. -/
def Named (snapshot : NodeSnapshot F) : Prop :=
  trimSpace snapshot.node.id ≠ "" ∧ ∀ ups ∈ snapshot.upses, trimSpace ups.name ≠ ""

/-! ## The messages of a batch -/

theorem upsMessages_of_encodes (cfg : PublisherConfig) {node : NodeInfo} {ups : UPSInfo F} (given : trimSpace node.id ≠ "")
    (named : trimSpace ups.name ≠ "") (encodes : Encodes floatText node ups) (now : Time) :
    ∃ entries, upsMessages cfg floatText node ups now = .ok entries := by
  obtain ⟨payload, made⟩ := encodes now
  have discovered : ∃ messages, discoveryMessages cfg.messages node ups = .ok messages := by
    simp only [discoveryMessages, rejectIf, if_neg given, if_neg named]
    exact ⟨_, rfl⟩
  have stated : ∃ message, stateMessage cfg.messages node floatText ups now = .ok message := by
    have both : ¬ (trimSpace node.id = "" ∨ trimSpace ups.name = "") := by simp [given, named]
    simp only [stateMessage, rejectIf, if_neg both, made]
    exact ⟨_, rfl⟩
  obtain ⟨messages, discovered⟩ := discovered
  obtain ⟨message, stated⟩ := stated
  simp only [upsMessages, discovered, stated]
  exact ⟨_, rfl⟩

theorem upsesMessages_of_encodes (cfg : PublisherConfig) (wall : Nat → Time) (k : Nat) {node : NodeInfo} {upses : List (UPSInfo F)} (given : trimSpace node.id ≠ "")
    (named : ∀ ups ∈ upses, trimSpace ups.name ≠ "") (encodes : ∀ ups ∈ upses, Encodes floatText node ups) :
    ∃ entries, upsesMessages cfg floatText node wall k upses = .ok entries := by
  induction upses generalizing k with
  | nil => exact ⟨[], rfl⟩
  | cons ups rest ih =>
    obtain ⟨own, others⟩ := List.forall_mem_cons.mp named
    obtain ⟨encodesOwn, encodesOthers⟩ := List.forall_mem_cons.mp encodes
    obtain ⟨first, one⟩ := upsMessages_of_encodes cfg given own encodesOwn (wall k)
    obtain ⟨later, two⟩ := ih (k + 1) others encodesOthers
    simp only [upsesMessages, one, two]
    exact ⟨_, rfl⟩

theorem nodesMessages_of_encodes (cfg : PublisherConfig) (wall : Nat → Time) (k : Nat)
    {snapshots : List (NodeSnapshot F)} (named : ∀ snapshot ∈ snapshots, Named snapshot)
    (encodes : ∀ snapshot ∈ snapshots, ∀ ups ∈ snapshot.upses, Encodes floatText snapshot.node ups) :
    ∃ entries, nodesMessages cfg floatText wall k snapshots = .ok entries := by
  induction snapshots generalizing k with
  | nil => exact ⟨[], rfl⟩
  | cons snapshot rest ih =>
    obtain ⟨own, others⟩ := List.forall_mem_cons.mp named
    obtain ⟨encodesOwn, encodesOthers⟩ := List.forall_mem_cons.mp encodes
    obtain ⟨upses, one⟩ := upsesMessages_of_encodes cfg wall k own.1 own.2 encodesOwn
    obtain ⟨later, two⟩ := ih (k + snapshot.upses.length) others encodesOthers
    simp only [nodesMessages, availabilityMessage, rejectIf, if_neg own.1, one, two]
    exact ⟨_, rfl⟩

/-- The state message of a UPS is among the messages of its batch. -/
theorem state_mem_upsesMessages {node : NodeInfo} {upses : List (UPSInfo F)} {entries : List Entry}
    (made : upsesMessages cfg floatText node wall k upses = .ok entries) {ups : UPSInfo F} (member : ups ∈ upses) :
    ∃ message, (⟨message, false⟩ : Entry) ∈ entries ∧ message.topic = (Goal.state node ups).topic cfg := by
  induction upses generalizing k entries with
  | nil => cases member
  | cons first rest ih =>
    simp only [upsesMessages, except_bind_eq_ok] at made
    obtain ⟨own, one, others, two, all⟩ := made
    obtain rfl : own ++ others = entries := Except.ok.inj all
    obtain rfl | later := List.mem_cons.mp member
    · simp only [upsMessages, except_bind_eq_ok] at one
      obtain ⟨discovery, -, message, stated, listed⟩ := one
      obtain rfl : _ = own := Except.ok.inj listed
      exact ⟨message, by simp, (stateMessage_ok stated).2⟩
    · obtain ⟨message, inside, topic⟩ := ih two later
      exact ⟨message, List.mem_append_right _ inside, topic⟩

theorem state_mem_nodesMessages {snapshots : List (NodeSnapshot F)} {entries : List Entry}
    (made : nodesMessages cfg floatText wall k snapshots = .ok entries) {snapshot : NodeSnapshot F}
    (listed : snapshot ∈ snapshots) {ups : UPSInfo F} (member : ups ∈ snapshot.upses) :
    ∃ message, (⟨message, false⟩ : Entry) ∈ entries ∧ message.topic = (Goal.state snapshot.node ups).topic cfg := by
  induction snapshots generalizing k entries with
  | nil => cases listed
  | cons first rest ih =>
    simp only [nodesMessages, except_bind_eq_ok] at made
    obtain ⟨availability, -, upses, one, others, two, all⟩ := made
    obtain rfl : _ = entries := Except.ok.inj all
    obtain rfl | later := List.mem_cons.mp listed
    · obtain ⟨message, inside, topic⟩ := state_mem_upsesMessages one member
      exact ⟨message, by simp [inside], topic⟩
    · obtain ⟨message, inside, topic⟩ := ih two later
      exact ⟨message, by simp [inside], topic⟩

/-! ## The batch -/

/-- With a client that accepts everything, a call ends without an error and has the state of every
    UPS published. -/
def PublishesAll (cfg : PublisherConfig) (floatText : FloatText F) (snapshots : List (NodeSnapshot F)) : Prop :=
  ∀ site, ∃ after, (Call.mk snapshots fun _ => none).outcome cfg floatText site = (.ok (), after) ∧
    ∀ snapshot ∈ snapshots, ∀ ups ∈ snapshot.upses, ∃ state,
      after.published (stateTopic cfg.messages.stateRoot snapshot.node.id ups.name) = some state

theorem publishesAll_of_encodes {snapshots : List (NodeSnapshot F)} (named : ∀ snapshot ∈ snapshots, Named snapshot)
    (encodes : ∀ snapshot ∈ snapshots, ∀ ups ∈ snapshot.upses, Encodes floatText snapshot.node ups) :
    PublishesAll cfg floatText snapshots := by
  intro site
  obtain ⟨nodes, listed⟩ :=
    nodesMessages_of_encodes cfg site.wall site.wallReadings named encodes
  have made : callMessages cfg floatText site.wall site.wallReadings snapshots =
      .ok ([⟨controllerMessage cfg, false⟩] ++ nodes) := by
    simp only [callMessages, listed]
    rfl
  let call : Call F := { snapshots, choices := fun _ => none }
  have accepts : ∀ turn, call.choices turn = none := fun _ => rfl
  have ends : (call.outcome cfg floatText site).1 = .ok () ∨ _ := ends_of_able made (.inl accepts)
  obtain ok | failed := ends
  · refine ⟨_, Prod.ext ok rfl, ?_⟩
    intro snapshot listed' ups member
    obtain ⟨opened, entries, n, -, made', after⟩ := publishes_of_ok (Prod.ext ok rfl)
    obtain rfl := Except.ok.inj (made.symm.trans made')
    obtain ⟨message, inside, topic⟩ := state_mem_nodesMessages listed listed' member
    have sent : message ∈ List.map Entry.message ([⟨controllerMessage cfg, false⟩] ++ nodes) :=
      List.mem_map.mpr ⟨_, List.mem_append_right _ inside, rfl⟩
    obtain ⟨payload, last⟩ := lastSent_eq_some_of_mem sent
    rw [topic] at last
    have proper := (callMessages_again 0 made).1
    have published : ∃ previous, (opened.publishAll cfg.heartbeat _).published _ = some previous ∧ previous.payload = payload :=
      published_publishAll proper (getLast?_goal_topic _) last
    obtain ⟨previous, found, -⟩ := published
    refine ⟨previous, ?_⟩
    rw [after]
    exact found
  · exact absurd accepts failed.1

end Strom.Mqtt
