import Strom.Handshake.Stages

/-!
# A successful adoption is agreed on

`Linked` is the invariant of all interleavings of attempts and handlers: `Fact` says of each thread
what its stage stands for.  Once `adoption.json` holds an adoption it is not written again, so that
an attempt whose request was answered with 200 knows what the agent accepts, and the trust it
stores is the one the agent is adopted with (`agreement_run`).  The agent's handlers do not exclude
each other: `Unclaimed` rules out that two of them create the file.
-/

namespace Strom.Handshake

open Strom.Go Strom.Effects Strom.Registry Strom.Adoption Strom.Agent

variable (p : Parties) (nodeID : String)

/-- `adoption.json` is still missing when a handler comes to create it. -/
def Unclaimed (pool : LinkPool) (turn : Turn Chance) : Bool :=
  match Runtime.opOf pool turn with
  | some (.agent (.truncate .adoption)) => (pool.state.node.files .adoption).isNone
  | _ => true

/-- The agent is adopted by a request with this body. -/
def AgentHolds (link : Link) (body : AdoptRequest) : Prop :=
  ∃ state, AdoptedAs link state ∧ state.isFor p.adopter body = true

/-- What a thread's stage stands for. -/
def Fact (link : Link) : Task × LinkStage → Prop
  | (.attempt id _, .attempt .drawing) => ∀ body, (id, body) ∉ link.requests
  | (.attempt id _, .attempt (.drawn _)) => ∀ body, (id, body) ∉ link.requests
  | (.attempt id _, .attempt (.asking body)) => ∀ body', (id, body') ∈ link.requests → body' = body
  | (.attempt _ _, .attempt (.accepted body)) => AgentHolds p link body
  | (.attempt _ _, .attempt (.tokenSealed body text)) =>
    AgentHolds p link body ∧ p.vault.openString text = .ok body.apiToken
  | (.attempt _ _, .attempt .trusted) => Agreed p nodeID link
  | (.attempt id _, .finished) => ∃ result, (id, result) ∈ link.results
  | (.handle id _ body, .request stage) => (id, body) ∈ link.requests ∧
    (stage = .creating → link.node.files .adoption = some .empty) ∧
    (stage.holds = true → AgentHolds p link body ∧ stage ≠ .rewriting)
  | (.attempt _ _, .attempt .failed) => True
  | _ => False

/-- What `adoption.json` can hold. -/
def FileSound (link : Link) : Prop :=
  link.node.files .adoption = none ∨ link.node.files .adoption = some .empty ∨ ∃ id, AdoptedBy p link id

/-- An answer is one to a request of the attempt, and a success comes from its adoption. -/
def AnswerSound (link : Link) (id : Nat) : AdoptAnswer → Prop
  | .ok _ => ∃ body, (id, body) ∈ link.requests ∧ AgentHolds p link body
  | .error (status, _) => status ≠ 200 ∧ ∃ body, (id, body) ∈ link.requests

structure Linked (places : List (Task × LinkStage)) (link : Link) : Prop where
  facts : ∀ place ∈ places, Fact p nodeID link place
  numbered : ∀ (k id : Nat) (call : Call) (stage : LinkStage), places[k]? = some (.attempt id call, stage) →
    k = id ∧ call.node.id = nodeID
  creator : ∀ (k k' : Nat) (task task' : Task), places[k]? = some (task, .request .creating) →
    places[k']? = some (task', .request .creating) → k = k'
  /-- A request was sent by an attempt that is under way. -/
  known : ∀ entry ∈ link.requests, ∃ call stage, places[entry.1]? = some (.attempt entry.1 call, stage) ∧
    stage ≠ .attempt .drawing
  file : FileSound p link
  answered : ∀ id number answer, ((id, number), answer) ∈ link.answers → AnswerSound p link id answer
  agreed : ∀ id response, (id, .ok response) ∈ link.results → Agreed p nodeID link
  row : (find link.rows nodeID).isSome = true

/-! ## What stays -/

/-- What a step leaves as it was: the requests, the results, an adoption, and what is agreed on. -/
structure Onward (link link' : Link) : Prop where
  requests : ∀ entry ∈ link.requests, entry ∈ link'.requests
  results : ∀ entry ∈ link.results, entry ∈ link'.results
  adopted : ∀ state, AdoptedAs link state → AdoptedAs link' state
  agreed : Agreed p nodeID link → Agreed p nodeID link'

variable {p nodeID} {link link' : Link} {places : List (Task × LinkStage)} {i : Nat} {task : Task}
  {stage stage' : LinkStage}

theorem AgentHolds.of_node {body : AdoptRequest} (same : link'.node = link.node)
    (holds : AgentHolds p link body) : AgentHolds p link' body := by
  obtain ⟨state, adopted, isFor⟩ := holds
  refine ⟨state, ?_, isFor⟩
  rw [AdoptedAs, same]
  exact adopted

theorem AgentHolds.onward {body : AdoptRequest} (onward : Onward p nodeID link link')
    (holds : AgentHolds p link body) : AgentHolds p link' body := by
  obtain ⟨state, adopted, same⟩ := holds
  exact ⟨state, onward.adopted state adopted, same⟩

theorem AdoptedBy.onward {id : Nat} (onward : Onward p nodeID link link') (adopted : AdoptedBy p link id) :
    AdoptedBy p link' id := by
  obtain ⟨state, body, here, sent, same⟩ := adopted
  exact ⟨state, body, onward.adopted state here, onward.requests _ sent, same⟩

theorem AnswerSound.onward {id : Nat} {answer : AdoptAnswer} (onward : Onward p nodeID link link')
    (sound : AnswerSound p link id answer) : AnswerSound p link' id answer := by
  cases answer with
  | ok response =>
    obtain ⟨body, sent, holds⟩ := sound
    exact ⟨body, onward.requests _ sent, AgentHolds.onward onward holds⟩
  | error refusal =>
    obtain ⟨differs, body, sent⟩ := sound
    exact ⟨differs, body, onward.requests _ sent⟩

/-- A fact stays, unless the thread's own attempt sends or a handler fills the empty file. -/
theorem Fact.onward {place : Task × LinkStage} (onward : Onward p nodeID link link')
    (others : ∀ id call body, place.1 = .attempt id call → (id, body) ∈ link'.requests →
      (id, body) ∈ link.requests)
    (empty : place.2 = .request .creating → link.node.files .adoption = some .empty →
      link'.node.files .adoption = some .empty)
    (fact : Fact p nodeID link place) : Fact p nodeID link' place := by
  obtain ⟨task, stage⟩ := place
  cases task with
  | attempt id call =>
    cases stage with
    | attempt stage =>
      cases stage with
      | drawing => exact fun body sent => fact body (others id call body rfl sent)
      | drawn nutPassword => exact fun body sent => fact body (others id call body rfl sent)
      | asking body => exact fun body' sent => fact body' (others id call body' rfl sent)
      | accepted body => exact AgentHolds.onward onward fact
      | tokenSealed body text => exact ⟨AgentHolds.onward onward fact.1, fact.2⟩
      | trusted => exact onward.agreed fact
      | failed => trivial
    | finished =>
      obtain ⟨result, member⟩ := fact
      exact ⟨result, onward.results _ member⟩
    | request stage => exact fact
  | handle id number body =>
    cases stage with
    | request stage =>
      obtain ⟨sent, creating, held⟩ := fact
      refine ⟨onward.requests _ sent, ?_, ?_⟩
      · rintro rfl
        exact empty rfl (creating rfl)
      · intro holds
        exact ⟨AgentHolds.onward onward (held holds).1, (held holds).2⟩
    | attempt stage => exact fact
    | finished => exact fact

/-- One turn: the thread at `i` goes on to its next stage, and the handlers of `started` begin. -/
theorem Linked.step {started : List (Task × LinkStage)} (linked : Linked p nodeID places link)
    (found : places[i]? = some (task, stage)) (onward : Onward p nodeID link link')
    (mine : Fact p nodeID link' (task, stage'))
    (senders : ∀ entry ∈ link'.requests, entry ∈ link.requests ∨
      (∃ call, task = .attempt entry.1 call) ∧ stage' ≠ .attempt .drawing)
    (moved : stage' = .attempt .drawing → stage = .attempt .drawing)
    (empty : link.node.files .adoption = some .empty → link'.node.files .adoption = some .empty ∨
      stage = .request .creating)
    (creates : stage' = .request .creating → stage = .request .creating ∨ link.node.files .adoption = none)
    (begun : ∀ place ∈ started, Fact p nodeID link' place ∧ ∃ id number body,
      place = (.handle id number body, .request .sent))
    (file : FileSound p link')
    (answered : ∀ id number answer, ((id, number), answer) ∈ link'.answers → AnswerSound p link' id answer)
    (agreed : ∀ id response, (id, .ok response) ∈ link'.results → Agreed p nodeID link')
    (row : (find link'.rows nodeID).isSome = true) :
    Linked p nodeID (places.set i (task, stage') ++ started) link' := by
  have inside := (List.getElem?_eq_some_iff.mp found).1
  -- where a thread of the new pool comes from
  have origin : ∀ (k : Nat) (place : Task × LinkStage), (places.set i (task, stage') ++ started)[k]? = some place →
      k = i ∧ place = (task, stage') ∨ k ≠ i ∧ places[k]? = some place ∨ place ∈ started := by
    intro k place there
    by_cases old : k < (places.set i (task, stage')).length
    · rw [List.getElem?_append_left old, List.getElem?_set] at there
      split_ifs at there with same bound
      · exact .inl ⟨same.symm, (Option.some.inj there).symm⟩
      · exact .inr (.inl ⟨Ne.symm same, there⟩)
    · rw [List.getElem?_append_right (by omega)] at there
      exact .inr (.inr (List.mem_of_getElem? there))
  have kept : ∀ (k : Nat) (place : Task × LinkStage), places[k]? = some place → k ≠ i →
      (places.set i (task, stage') ++ started)[k]? = some place := by
    intro k place there other
    have bound : k < places.length := (List.getElem?_eq_some_iff.mp there).1
    rw [List.getElem?_append_left (by simpa using bound), List.getElem?_set_ne (Ne.symm other)]
    exact there
  have here : (places.set i (task, stage') ++ started)[i]? = some (task, stage') := by
    rw [List.getElem?_append_left (by simpa using inside)]
    exact List.getElem?_set_self inside
  refine ⟨?_, ?_, ?_, ?_, file, answered, agreed, row⟩
  · intro place member
    obtain ⟨k, there⟩ := List.getElem?_of_mem member
    rcases origin k place there with ⟨-, rfl⟩ | ⟨other, old⟩ | new
    · exact mine
    · refine Fact.onward onward ?_ ?_ (linked.facts place (List.mem_of_getElem? old))
      · intro id call body same sent
        rcases senders _ sent with before | ⟨⟨call', own⟩, -⟩
        · exact before
        · -- another attempt of the same number would be the thread itself
          subst own
          have first := (linked.numbered i id call' stage found).1
          have second := (linked.numbered k id call place.2 (by rw [← same]; exact old)).1
          exact absurd (second.trans first.symm) other
      · intro creating wasEmpty
        rcases empty wasEmpty with still | mine
        · exact still
        · subst mine
          refine absurd (linked.creator k i place.1 task ?_ found) other
          rw [← creating]
          exact old
    · exact (begun place new).1
  · intro k id call stage₁ there
    rcases origin k _ there with ⟨rfl, same⟩ | ⟨-, old⟩ | new
    · cases same
      exact linked.numbered k id call stage found
    · exact linked.numbered k id call stage₁ old
    · obtain ⟨-, _, _, _, same⟩ := begun _ new
      cases same
  · -- a second creator would have found the file missing, but the first one has emptied it
    have unique : ∀ (k : Nat) (task' : Task), places[k]? = some (task', .request .creating) →
        stage' = .request .creating → k = i := by
      intro k task' there creating
      rcases creates creating with before | missing
      · subst before
        exact linked.creator k i task' task there found
      · have fact := linked.facts _ (List.mem_of_getElem? there)
        cases task' with
        | attempt id call => exact fact.elim
        | handle id number body =>
          rw [fact.2.1 rfl] at missing
          cases missing
    intro k k' task₁ task₂ there there'
    rcases origin k _ there with ⟨rfl, same⟩ | ⟨other, old⟩ | new
    · rcases origin k' _ there' with ⟨rfl, -⟩ | ⟨-, old'⟩ | new
      · rfl
      · exact (unique k' task₂ old' (congrArg Prod.snd same).symm).symm
      · obtain ⟨-, _, _, _, same⟩ := begun _ new
        cases same
    · rcases origin k' _ there' with ⟨rfl, same⟩ | ⟨-, old'⟩ | new
      · exact unique k task₁ old (congrArg Prod.snd same).symm
      · exact linked.creator k k' task₁ task₂ old old'
      · obtain ⟨-, _, _, _, same⟩ := begun _ new
        cases same
    · obtain ⟨-, _, _, _, same⟩ := begun _ new
      cases same
  · intro entry sent
    rcases senders entry sent with before | ⟨⟨call, own⟩, moved'⟩
    · obtain ⟨call, stage₁, there, begun'⟩ := linked.known entry before
      by_cases own : entry.1 = i
      · rw [own] at there
        cases found.symm.trans there
        refine ⟨call, stage', ?_, fun still => begun' (moved still)⟩
        rw [own]
        exact here
      · exact ⟨call, stage₁, kept _ _ there own, begun'⟩
    · subst own
      refine ⟨call, stage', ?_, moved'⟩
      obtain rfl : i = entry.1 := (linked.numbered i entry.1 call stage found).1
      exact here

/-! ## The table -/

section Table

variable {op : ControllerOp} {choice : Choice} {rows rows' : Rows} {apiToken text : String}

theorem find_update {id : String} {set : NodeRow → NodeRow} (keeps : ∀ row, (set row).id = row.id) :
    (find (update rows id set) nodeID).isSome = (find rows nodeID).isSome := by
  rw [Bool.eq_iff_iff, find_isSome, find_isSome]
  constructor
  · rintro ⟨row, member, same⟩
    rcases mem_update.mp member with ⟨before, -⟩ | ⟨old, before, -, rfl⟩
    · exact ⟨row, before, same⟩
    · exact ⟨old, before, (keeps old).symm.trans same⟩
  · rintro ⟨row, member, same⟩
    by_cases reached : row.id = id
    · exact ⟨set row, mem_update.mpr (.inr ⟨row, member, reached, rfl⟩), (keeps row).trans same⟩
    · exact ⟨row, mem_update.mpr (.inl ⟨member, reached⟩), same⟩

/-- A row leaves the table only where it is deleted. -/
theorem row_stays (apart : ∀ id, op ≠ .deleteNode id) (row : (find rows nodeID).isSome = true) :
    (find (Adoption.perform op choice rows).2 nodeID).isSome = true := by
  have statement : ∀ outcome : Except RegistryError Unit × Rows, (find outcome.2 nodeID).isSome = true →
      (find (choice.statement rows outcome).2 nodeID).isSome = true := by
    intro outcome there
    unfold Choice.statement
    cases choice.fault with
    | none => exact there
    | some fault =>
      dsimp only
      split_ifs
      · exact there
      · exact row
  have affects : ∀ (id : String) (set : NodeRow → NodeRow), (∀ row, (set row).id = row.id) →
      (find (affecting rows id (update rows id set)).2 nodeID).isSome = true := by
    intro id set keeps
    unfold affecting
    split_ifs
    · exact (find_update keeps).trans row
    · exact row
  cases op with
  | saveNodeTrust id trust => exact statement _ (affects id _ fun _ => rfl)
  | setNodeAdopted id adopted => exact statement _ (affects id _ fun _ => rfl)
  | deleteNode id => exact absurd rfl (apart id)
  | upsertDiscoveredNode node =>
    refine statement _ ?_
    unfold upsertDiscoveredNode
    split_ifs
    · exact row
    · have kept : (find (update rows node.id fun row => row.rediscovered node) nodeID).isSome = _ :=
        find_update fun _ => rfl
      exact kept.trans row
    · obtain ⟨old, member, same⟩ := find_isSome.mp row
      exact find_isSome.mpr ⟨old, List.mem_append_left _ member, same⟩
  | _ => exact row

theorem deletes_not (keeps : KeepsTrust op) (id : String) : op ≠ .deleteNode id := by
  rintro rfl
  exact keeps

/-- What is agreed on stays so where the trust is not touched. -/
theorem agreed_keeps (keeps : KeepsTrust op) (agreed : Agreed p nodeID link) :
    Agreed p nodeID { link with rows := (Adoption.perform op choice link.rows).2 } := by
  obtain ⟨state, adopted, there, trusted⟩ := agreed
  refine ⟨state, adopted, row_stays (deletes_not keeps) there, ?_⟩
  intro row member same
  cases origin_perform member with
  | kept old before id trust _ =>
    rw [trust]
    exact trusted old before (id.symm.trans same)
  | flagged old before id trust _ =>
    rw [trust]
    exact trusted old before (id.symm.trans same)
  | stored write =>
    subst write
    exact keeps.elim
  | inserted node _ missing new =>
    -- the node has a row, so that no new one is inserted for it
    subst new
    rw [show node.id = nodeID from same] at missing
    rw [missing] at there
    cases there

/-- The trust of an adoption that the agent holds is stored: all of it, or, where the statement
    fails, perhaps none of it. -/
theorem agreed_saved {body : AdoptRequest} {trust : Trust} {reply : Except RegistryError Unit}
    (performed : Adoption.perform (.saveNodeTrust nodeID trust) choice link.rows = (reply, rows'))
    (holds : AgentHolds p link body) (opens : p.vault.openString trust.apiTokenEnc = .ok body.apiToken)
    (there : (find link.rows nodeID).isSome = true) (stored : reply.isOk = true ∨ Agreed p nodeID link) :
    Agreed p nodeID { link with rows := rows' } := by
  have rows_eq : rows' = (Adoption.perform (.saveNodeTrust nodeID trust) choice link.rows).2 := by
    rw [performed]
  obtain ⟨state, adopted, same⟩ := holds
  have digest : p.adopter.digests.token body.apiToken = state.tokenSHA256 := by
    simp only [AdoptionState.isFor, Bool.and_eq_true, decide_eq_true_eq] at same
    exact same.1.1.1.symm
  refine ⟨state, adopted, ?_, ?_⟩
  · rw [rows_eq]
    exact row_stays (fun _ deletes => by cases deletes) there
  intro row member named
  rcases stored with ok | ⟨state', adopted', -, trusted⟩
  · cases reply with
    | error e => cases ok
    | ok u => exact ⟨body.apiToken, by rw [trust_of_saved performed member named, opens], digest⟩
  · obtain rfl : state = state' := by
      have both := adopted.symm.trans adopted'
      cases both
      rfl
    rw [rows_eq] at member
    cases origin_perform member with
    | kept old before id trust _ =>
      rw [trust]
      exact trusted old before (id.symm.trans named)
    | flagged old before id trust write => cases write
    | stored write =>
      cases write
      exact ⟨body.apiToken, opens, digest⟩
    | inserted node write _ _ => cases write

end Table

/-! ## One operation of an attempt -/

section Attempts

variable {id sent : Nat} {call : Call} {op : ControllerOp} {reply : op.Reply} {chance : Chance}
  {before after : AttemptStage}

/-- Everything but sending and receiving reaches the table only. -/
theorem perform_rows (keeps : KeepsTrust op) : (perform p (.attempt id sent op) chance link).2 =
    { link with rows := (Adoption.perform op chance.controller link.rows).2 } := by
  cases op with
  | send url request => exact keeps.elim
  | receive => exact keeps.elim
  | _ => rfl

theorem perform_saveNodeTrust {name : String} {trust : Trust} {reply : Except RegistryError Unit}
    (performed : perform p (.attempt id sent (.saveNodeTrust name trust)) chance link = (reply, link')) :
    Adoption.perform (.saveNodeTrust name trust) chance.controller link.rows = (reply, link'.rows) ∧
      link' = { link with rows := link'.rows } := by
  have replied : (Adoption.perform (.saveNodeTrust name trust) chance.controller link.rows).1 = reply :=
    congrArg Prod.fst performed
  have state : { link with rows := (Adoption.perform (.saveNodeTrust name trust) chance.controller link.rows).2 } =
      link' := congrArg Prod.snd performed
  subst state
  exact ⟨Prod.ext replied rfl, rfl⟩

/-- An attempt goes on, and no more than the rows have changed. -/
theorem Linked.rows_step {rows : Rows} (linked : Linked p nodeID places link)
    (found : places[i]? = some (.attempt id call, .attempt before))
    (agreed : Agreed p nodeID link → Agreed p nodeID { link with rows := rows })
    (row : (find rows nodeID).isSome = true)
    (mine : Fact p nodeID { link with rows := rows } (.attempt id call, .attempt after))
    (moved : after = .drawing → before = .drawing) :
    Linked p nodeID (places.set i (.attempt id call, .attempt after) ++ []) { link with rows := rows } := by
  have onward : Onward p nodeID link { link with rows := rows } :=
    ⟨fun _ member => member, fun _ member => member, fun _ adopted => adopted, agreed⟩
  refine linked.step found onward mine (fun entry member => .inl member) ?_ (fun empty => .inl empty) nofun nofun
    ?_ linked.answered (fun id response member => agreed (linked.agreed id response member)) row
  · intro drawing
    cases drawing
    rw [moved rfl]
  · rcases linked.file with absent | empty | ⟨id, adopted⟩
    · exact .inl absent
    · exact .inr (.inl empty)
    · exact .inr (.inr ⟨id, adopted⟩)

/-- An attempt goes on by an operation that leaves the trust of every row. -/
theorem Linked.keeps_step (linked : Linked p nodeID places link)
    (found : places[i]? = some (.attempt id call, .attempt before))
    (performed : perform p (.attempt id sent op) chance link = (reply, link')) (keeps : KeepsTrust op)
    (mine : (Agreed p nodeID link → Agreed p nodeID link') → link'.requests = link.requests →
      link'.node = link.node → Fact p nodeID link' (.attempt id call, .attempt after))
    (moved : after = .drawing → before = .drawing) :
    Linked p nodeID (places.set i (.attempt id call, .attempt after) ++ []) link' := by
  have same := (congrArg Prod.snd performed).symm.trans (perform_rows keeps)
  subst same
  have agreed : Agreed p nodeID link →
      Agreed p nodeID { link with rows := (Adoption.perform op chance.controller link.rows).2 } := agreed_keeps keeps
  exact linked.rows_step found agreed (row_stays (deletes_not keeps) linked.row) (mine agreed rfl rfl) moved

/-- The request of an attempt is sent, and its handler begins. -/
theorem Linked.send_step {url : String} {body : AdoptRequest} (linked : Linked p nodeID places link)
    (found : places[i]? = some (.attempt id call, .attempt (.asking body))) :
    Linked p nodeID (places.set i (.attempt id call, .attempt (.asking body)) ++
        Runtime.places Task.first (LinkOp.starts (.attempt id sent (.send url body))))
      { link with requests := link.requests ++ [(id, body)] } := by
  have fact : ∀ body', (id, body') ∈ link.requests → body' = body := linked.facts _ (List.mem_of_getElem? found)
  have onward : Onward p nodeID link { link with requests := link.requests ++ [(id, body)] } :=
    ⟨fun _ member => List.mem_append_left _ member, fun _ member => member, fun _ adopted => adopted,
      fun agreed => agreed⟩
  refine linked.step found onward ?_ ?_ nofun (fun empty => .inl empty) nofun ?_ ?_ ?_ linked.agreed linked.row
  · intro body' member
    rcases List.mem_append.mp member with old | new
    · exact fact body' old
    · cases List.mem_singleton.mp new
      rfl
  · intro entry member
    rcases List.mem_append.mp member with old | new
    · exact .inl old
    · cases List.mem_singleton.mp new
      exact .inr ⟨⟨call, rfl⟩, nofun⟩
  · intro place member
    cases List.mem_singleton.mp member
    exact ⟨⟨List.mem_append_right _ (List.mem_singleton.mpr rfl), nofun, nofun⟩, id, sent + 1, body, rfl⟩
  · rcases linked.file with absent | empty | ⟨id', adopted⟩
    · exact .inl absent
    · exact .inr (.inl empty)
    · exact .inr (.inr ⟨id', AdoptedBy.onward onward adopted⟩)
  · exact fun id' number answer member => AnswerSound.onward onward (linked.answered id' number answer member)

/-- A reply with status 200 is the agent's own, and comes from the adoption that it holds. -/
theorem accepted_holds (linked : Linked p nodeID places link) {body : AdoptRequest} {answer : AdoptReply}
    (fact : ∀ body', (id, body') ∈ link.requests → body' = body)
    (received : chance.delivery.received (link.answers.lookup (id, sent)) = .ok answer)
    (accepted : answer.status = 200) : AgentHolds p link body := by
  cases delivery : chance.delivery with
  | failed e =>
    rw [delivery] at received
    cases received
  | refused status message isError =>
    rw [delivery] at received
    cases received
    exact absurd accepted isError
  | delivered =>
    rw [delivery] at received
    cases given : link.answers.lookup (id, sent) with
    | none =>
      rw [given] at received
      cases received
    | some given' =>
      rw [given] at received
      cases received
      obtain ⟨before, after, split, -⟩ := List.lookup_eq_some_iff.mp given
      have member : ((id, sent), given') ∈ link.answers := by
        rw [split]
        exact List.mem_append_right _ List.mem_cons_self
      have sound := linked.answered id sent given' member
      cases given' with
      | error refusal => exact absurd accepted sound.1
      | ok response =>
        obtain ⟨body', sent', holds⟩ := sound
        rw [← fact body' sent']
        exact holds

theorem linked_attempt (linked : Linked p nodeID places link)
    (found : places[i]? = some (.attempt id call, .attempt before))
    (reached : attemptNext call before op reply = some after)
    (performed : perform p (.attempt id sent op) chance link = (reply, link')) :
    Linked p nodeID (places.set i (.attempt id call, .attempt after) ++
      Runtime.places Task.first (LinkOp.starts (.attempt id sent op))) link' := by
  have fact := linked.facts _ (List.mem_of_getElem? found)
  have named : call.node.id = nodeID := (linked.numbered i id call _ found).2
  cases before with
  | drawing =>
    cases op <;> simp only [attemptNext, reduceCtorEq] at reached
    case randomSecret length =>
      cases reply with
      | ok nutPassword =>
        cases reached
        exact linked.keeps_step found performed trivial (fun _ requests _ => by rwa [Fact, requests]) (by rintro ⟨⟩)
      | error e =>
        cases reached
        exact linked.keeps_step found performed trivial (fun _ _ _ => trivial) (by rintro ⟨⟩)
  | drawn nutPassword =>
    cases op <;> simp only [attemptNext, reduceCtorEq] at reached
    case randomSecret length =>
      cases reply with
      | ok apiToken =>
        cases reached
        refine linked.keeps_step found performed trivial (fun _ requests _ => ?_) (by rintro ⟨⟩)
        intro body' sent'
        rw [requests] at sent'
        exact absurd sent' (fact body')
      | error e =>
        cases reached
        exact linked.keeps_step found performed trivial (fun _ _ _ => trivial) (by rintro ⟨⟩)
  | asking body =>
    have waits : KeepsTrust op → after = .asking body →
        Linked p nodeID (places.set i (.attempt id call, .attempt after) ++ []) link' := by
      rintro keeps rfl
      exact linked.keeps_step found performed keeps (fun _ requests _ => by rwa [Fact, requests]) (by rintro ⟨⟩)
    cases op <;> simp only [attemptNext, isWaiting, reduceCtorEq, if_true, if_false, Bool.false_eq_true] at reached
    case newRequest url => exact waits trivial (Option.some.inj reached).symm
    case contextErr => exact waits trivial (Option.some.inj reached).symm
    case waitForRetry attempt => exact waits trivial (Option.some.inj reached).symm
    case send url body' =>
      split_ifs at reached with same
      cases reached
      cases performed
      subst same
      exact linked.send_step found
    case receive =>
      cases performed
      cases received : chance.delivery.received (link.answers.lookup (id, sent)) with
      | error e =>
        rw [received] at reached
        cases reached
        exact linked.rows_step found (fun agreed => agreed) linked.row fact (by rintro ⟨⟩)
      | ok answer =>
        rw [received] at reached
        simp only [Option.some.injEq] at reached
        subst reached
        split_ifs with accepted
        · exact linked.rows_step found (fun agreed => agreed) linked.row
            (accepted_holds linked fact received accepted) (by rintro ⟨⟩)
        · exact linked.rows_step found (fun agreed => agreed) linked.row fact (by rintro ⟨⟩)
  | accepted body =>
    cases op <;> simp only [attemptNext, reduceCtorEq] at reached
    case health address port apiToken fingerprint =>
      cases reached
      exact linked.keeps_step found performed trivial (fun _ _ node => AgentHolds.of_node node fact) (by rintro ⟨⟩)
    case sealString value =>
      split_ifs at reached with same
      subst same
      cases reply with
      | error e =>
        cases reached
        exact linked.keeps_step found performed trivial (fun _ _ _ => trivial) (by rintro ⟨⟩)
      | ok sealedToken =>
        cases reached
        refine linked.keeps_step found performed trivial (fun _ _ node => ⟨AgentHolds.of_node node fact, ?_⟩) (by rintro ⟨⟩)
        -- what the vault has sealed is opened again
        have replied := congrArg Prod.fst performed
        simp only [perform] at replied
        split at replied
        · cases replied
        · cases replied
          exact p.vault.open_seal _ _
  | tokenSealed body text =>
    cases op <;> simp only [attemptNext, reduceCtorEq] at reached
    case sealString value =>
      cases reached
      exact linked.keeps_step found performed trivial
        (fun _ _ node => ⟨AgentHolds.of_node node fact.1, fact.2⟩) (by rintro ⟨⟩)
    case saveNodeTrust id' trust =>
      split_ifs at reached with mine
      obtain ⟨rfl, rfl⟩ := mine
      rw [named] at performed
      obtain ⟨saved, same⟩ := perform_saveNodeTrust performed
      rw [same]
      have agreed := agreed_saved saved fact.1 fact.2 linked.row
      have row : (find link'.rows nodeID).isSome = true := by
        have there : (find (Adoption.perform (.saveNodeTrust nodeID trust) chance.controller link.rows).2
            nodeID).isSome = true := row_stays (fun _ deletes => by cases deletes) linked.row
        rwa [saved] at there
      cases reply with
      | ok u =>
        cases reached
        exact linked.rows_step found (fun already => agreed (.inr already)) row (agreed (.inl rfl)) (by rintro ⟨⟩)
      | error e =>
        cases reached
        exact linked.rows_step found (fun already => agreed (.inr already)) row trivial (by rintro ⟨⟩)
  | trusted =>
    simp only [attemptNext] at reached
    split_ifs at reached with finishing
    cases reached
    have keeps : KeepsTrust op := keepsTrust_of_finishing finishing
    have quiet : LinkOp.starts (.attempt id sent op) = [] := by
      cases op with
      | send url request => exact keeps.elim
      | _ => rfl
    rw [quiet]
    exact linked.keeps_step found performed keeps (fun agreed _ _ => agreed fact) (by rintro ⟨⟩)
  | failed => cases op <;> simp only [attemptNext, reduceCtorEq] at reached

end Attempts

/-! ## One operation of a handler -/

section Handlers

variable {id number : Nat} {body : AdoptRequest} {op : AgentOp} {reply : op.Reply} {chance : Chance}
  {node' : Node} {before after : RequestStage}

theorem onward_node (adopted : ∀ state, AdoptedAs link state → AdoptedAs { link with node := node' } state) :
    Onward p nodeID link { link with node := node' } where
  requests := fun _ member => member
  results := fun _ member => member
  adopted := adopted
  agreed := by
    rintro ⟨state, here, row, trusted⟩
    exact ⟨state, adopted state here, row, trusted⟩

/-- A handler goes on, and no more than the agent's files have changed. -/
theorem Linked.node_step (linked : Linked p nodeID places link)
    (found : places[i]? = some (.handle id number body, .request before))
    (adopted : ∀ state, AdoptedAs link state → AdoptedAs { link with node := node' } state)
    (mine : Fact p nodeID { link with node := node' } (.handle id number body, .request after))
    (empty : link.node.files .adoption = some .empty → node'.files .adoption = some .empty ∨ before = .creating)
    (creates : after = .creating → before = .creating ∨ link.node.files .adoption = none)
    (file : FileSound p { link with node := node' }) :
    Linked p nodeID (places.set i (.handle id number body, .request after) ++ [])
      { link with node := node' } := by
  have onward : Onward p nodeID link { link with node := node' } := onward_node adopted
  refine linked.step found onward mine (fun entry member => .inl member) nofun ?_ ?_ nofun file ?_ ?_ linked.row
  · exact fun wasEmpty => (empty wasEmpty).imp_right (congrArg LinkStage.request)
  · intro creating
    cases creating
    exact (creates rfl).imp_left (congrArg LinkStage.request)
  · exact fun id' number' answer member => AnswerSound.onward onward (linked.answered id' number' answer member)
  · exact fun id' response member => onward.agreed (linked.agreed id' response member)

/-- A handler goes on, and `adoption.json` is as it was. -/
theorem Linked.file_step (linked : Linked p nodeID places link)
    (found : places[i]? = some (.handle id number body, .request before))
    (same : node'.files .adoption = link.node.files .adoption)
    (mine : after.holds = true → AgentHolds p link body ∧ after ≠ .rewriting) (creates : after ≠ .creating) :
    Linked p nodeID (places.set i (.handle id number body, .request after) ++ [])
      { link with node := node' } := by
  have adopted : ∀ state, AdoptedAs link state → AdoptedAs { link with node := node' } state :=
    fun state here => same.trans here
  have onward : Onward p nodeID link { link with node := node' } := onward_node adopted
  have fact := linked.facts _ (List.mem_of_getElem? found)
  refine linked.node_step found adopted ⟨fact.1, fun creating => absurd creating creates, ?_⟩
    (fun wasEmpty => .inl (same.trans wasEmpty)) (fun creating => absurd creating creates) ?_
  · exact fun holds => ⟨AgentHolds.onward onward (mine holds).1, (mine holds).2⟩
  · rcases linked.file with absent | empty | ⟨id', adoptedBy⟩
    · exact .inl (same.trans absent)
    · exact .inr (.inl (same.trans empty))
    · exact .inr (.inr ⟨id', AdoptedBy.onward onward adoptedBy⟩)

/-- The missing file is opened. -/
theorem Linked.open_step (linked : Linked p nodeID places link)
    (found : places[i]? = some (.handle id number body, .request before))
    (missing : link.node.files .adoption = none)
    (opened : node'.files .adoption = some .empty ∨ node'.files .adoption = none ∧ after = .failed)
    (went : after = .creating ∨ after = .failed) :
    Linked p nodeID (places.set i (.handle id number body, .request after) ++ [])
      { link with node := node' } := by
  have fact := linked.facts _ (List.mem_of_getElem? found)
  refine linked.node_step found ?_ ⟨fact.1, ?_, ?_⟩ ?_ (fun _ => .inr missing) ?_
  · intro state here
    rw [AdoptedAs, missing] at here
    cases here
  · rintro rfl
    rcases opened with empty | ⟨-, failed⟩
    · exact empty
    · cases failed
  · rcases went with rfl | rfl <;> nofun
  · rw [missing]
    nofun
  · rcases opened with empty | ⟨still, -⟩
    · exact .inr (.inl empty)
    · exact .inl still

/-- The empty file is filled by the handler that has opened it. -/
theorem Linked.fill_step {state : AdoptionState} (linked : Linked p nodeID places link)
    (found : places[i]? = some (.handle id number body, .request .creating))
    (same : state.isFor p.adopter body = true)
    (filled : node'.files .adoption = some (.adoption state) ∨ node'.files .adoption = some .empty ∧ after = .failed)
    (went : after = .stored ∨ after = .failed) :
    Linked p nodeID (places.set i (.handle id number body, .request after) ++ [])
      { link with node := node' } := by
  have fact := linked.facts _ (List.mem_of_getElem? found)
  have wasEmpty : link.node.files .adoption = some .empty := fact.2.1 rfl
  refine linked.node_step found ?_ ⟨fact.1, ?_, ?_⟩ (fun _ => .inr rfl) (fun _ => .inl rfl) ?_
  · intro state' here
    rw [AdoptedAs, wasEmpty] at here
    cases here
  · rintro rfl
    rcases went with stored | failed
    · cases stored
    · cases failed
  · intro holds
    rcases went with rfl | rfl
    · rcases filled with full | ⟨-, failed⟩
      · exact ⟨⟨state, full, same⟩, nofun⟩
      · cases failed
    · cases holds
  · rcases filled with full | ⟨still, -⟩
    · exact .inr (.inr ⟨id, state, body, full, fact.1, same⟩)
    · exact .inr (.inl still)

/-- Operations that leave `adoption.json`. -/
theorem harmless_file (harmless : op.harmless = true) {chance : Agent.Chance} {node : Node}
    (performed : Agent.perform op chance node = (reply, node')) :
    node'.files .adoption = node.files .adoption := by
  have kept := (harmless_keeps harmless chance node).1
  rwa [performed] at kept

theorem linked_agent (linked : Linked p nodeID places link) {chance : Agent.Chance}
    (found : places[i]? = some (.handle id number body, .request before))
    (reached : requestNext p.adopter body before op reply = some after)
    (performed : Agent.perform op chance link.node = (reply, node'))
    (unclaimed : op = .truncate .adoption → link.node.files .adoption = none) :
    Linked p nodeID (places.set i (.handle id number body, .request after) ++ [])
      { link with node := node' } := by
  have fact := linked.facts _ (List.mem_of_getElem? found)
  -- a harmless operation leaves the stage, and what it stands for
  have stays : op.harmless = true → after = before → before ≠ .creating →
      Linked p nodeID (places.set i (.handle id number body, .request after) ++ []) { link with node := node' } := by
    rintro harmless rfl other
    exact linked.file_step found (harmless_file harmless performed) fact.2.2 other
  cases before with
  | asking =>
    cases op with
    | stat file =>
      cases file <;> simp only [requestNext, reduceCtorEq] at reached
      have same := harmless_file rfl performed
      cases reply with
      | ok _ =>
        cases reached
        exact linked.file_step found same (by rintro ⟨⟩) (by rintro ⟨⟩)
      | error e =>
        cases reached
        refine linked.file_step found same ?_ ?_ <;> split_ifs <;> rintro ⟨⟩
    | _ => simp only [requestNext, reduceCtorEq] at reached
  | existing =>
    cases op with
    | readFile file =>
      cases file <;> simp only [requestNext, reduceCtorEq] at reached
      have same := harmless_file rfl performed
      cases reply with
      | error e =>
        cases reached
        exact linked.file_step found same (by rintro ⟨⟩) (by rintro ⟨⟩)
      | ok content =>
        cases content with
        | adoption state =>
          cases reached
          obtain ⟨holds, -⟩ := readFile_ok performed
          by_cases isFor : state.isFor p.adopter body = true
          · rw [if_pos isFor]
            exact linked.file_step found same (fun _ => ⟨⟨state, holds, isFor⟩, by rintro ⟨⟩⟩) (by rintro ⟨⟩)
          · rw [if_neg isFor]
            exact linked.file_step found same (by rintro ⟨⟩) (by rintro ⟨⟩)
        | _ =>
          cases reached
          exact linked.file_step found same (by rintro ⟨⟩) (by rintro ⟨⟩)
    | _ => simp only [requestNext, reduceCtorEq] at reached
  | replaying =>
    by_cases truncates : op = .truncate .adoption
    · -- the file that holds the request is there
      obtain ⟨⟨state, holds, -⟩, -⟩ := fact.2.2 rfl
      rw [AdoptedAs, unclaimed truncates] at holds
      cases holds
    · have harmless : op.harmless = true ∧ RequestStage.replaying = after := by
        cases op with
        | truncate file => cases file <;> simp_all [requestNext, AgentOp.harmless]
        | _ => simp_all [requestNext]
      exact stays harmless.1 harmless.2.symm (by rintro ⟨⟩)
  | rewriting => exact absurd rfl (fact.2.2 rfl).2
  | missing =>
    by_cases truncates : op = .truncate .adoption
    · subst truncates
      have absent := unclaimed rfl
      cases reply with
      | ok _ =>
        cases reached
        exact linked.open_step found absent (.inl (truncate_ok performed)) (.inl rfl)
      | error e =>
        cases reached
        refine linked.open_step found absent ?_ (.inr rfl)
        rcases truncate_error performed with empty | still
        · exact .inl empty
        · exact .inr ⟨still.trans absent, rfl⟩
    · have harmless : op.harmless = true ∧ RequestStage.missing = after := by
        cases op with
        | truncate file => cases file <;> simp_all [requestNext, AgentOp.harmless]
        | _ => simp_all [requestNext]
      exact stays harmless.1 harmless.2.symm (by rintro ⟨⟩)
  | creating =>
    cases op with
    | write file content =>
      cases file <;> cases content <;> simp only [requestNext, reduceCtorEq] at reached
      case adoption.adoption state =>
        split_ifs at reached with same
        have wasEmpty := fact.2.1 rfl
        cases reply with
        | ok _ =>
          cases reached
          exact linked.fill_step found same (.inl (write_ok performed wasEmpty)) (.inl rfl)
        | error e =>
          cases reached
          refine linked.fill_step found same ?_ (.inr rfl)
          rcases write_error performed wasEmpty with full | still
          · exact .inl full
          · exact .inr ⟨still, rfl⟩
    | _ => simp only [requestNext, reduceCtorEq] at reached
  | stored =>
    have harmless : op.harmless = true ∧ RequestStage.stored = after := by
      simpa [requestNext] using reached
    exact stays harmless.1 harmless.2.symm (by rintro ⟨⟩)
  | sent | failed | ended => cases op <;> simp only [requestNext, reduceCtorEq] at reached

/-- A handler begins, if its request has come in. -/
theorem linked_arrive {arrived : Bool} (linked : Linked p nodeID places link)
    (found : places[i]? = some (.handle id number body, .request .sent)) :
    Linked p nodeID (places.set i (.handle id number body, .request (if arrived then .asking else .ended)) ++ [])
      link := by
  cases arrived <;> exact linked.file_step found rfl nofun nofun

/-- A handler answers. -/
theorem linked_answer {answer : AdoptAnswer} (linked : Linked p nodeID places link)
    (found : places[i]? = some (.handle id number body, .request before)) (sound : before.answers answer = true) :
    Linked p nodeID (places.set i (.handle id number body, .request .ended) ++ [])
      { link with answers := link.answers ++ [((id, number), answer)] } := by
  have fact := linked.facts _ (List.mem_of_getElem? found)
  have onward : Onward p nodeID link { link with answers := link.answers ++ [((id, number), answer)] } :=
    ⟨fun _ member => member, fun _ member => member, fun _ adopted => adopted, fun agreed => agreed⟩
  refine linked.step found onward ⟨fact.1, nofun, nofun⟩ (fun entry member => .inl member) nofun
    (fun empty => .inl empty) nofun nofun ?_ ?_ linked.agreed linked.row
  · rcases linked.file with absent | empty | ⟨id', adopted⟩
    · exact .inl absent
    · exact .inr (.inl empty)
    · exact .inr (.inr ⟨id', adopted⟩)
  · intro id' number' answer' member
    rcases List.mem_append.mp member with old | new
    · exact AnswerSound.onward onward (linked.answered id' number' answer' old)
    · cases List.mem_singleton.mp new
      cases answer with
      | error refusal =>
        obtain ⟨status, message⟩ := refusal
        exact ⟨of_decide_eq_true sound, body, fact.1⟩
      | ok response => exact ⟨body, fact.1, (fact.2.2 sound).1⟩

end Handlers

/-- `adoptNode` returns. -/
theorem linked_finish {id : Nat} {call : Call} {before : AttemptStage} {result : Except AdoptError AdoptNodeResponse}
    (linked : Linked p nodeID places link) (found : places[i]? = some (.attempt id call, .attempt before))
    (sound : result.isOk = true → before = .trusted) :
    Linked p nodeID (places.set i (.attempt id call, .finished) ++ [])
      { link with results := link.results ++ [(id, result)] } := by
  have fact := linked.facts _ (List.mem_of_getElem? found)
  have onward : Onward p nodeID link { link with results := link.results ++ [(id, result)] } :=
    ⟨fun _ member => member, fun _ member => List.mem_append_left _ member, fun _ adopted => adopted,
      fun agreed => agreed⟩
  refine linked.step found onward ⟨result, List.mem_append_right _ (List.mem_singleton.mpr rfl)⟩
    (fun entry member => .inl member) nofun (fun empty => .inl empty) nofun nofun ?_ ?_ ?_ linked.row
  · rcases linked.file with absent | empty | ⟨id', adopted⟩
    · exact .inl absent
    · exact .inr (.inl empty)
    · exact .inr (.inr ⟨id', adopted⟩)
  · exact fun id' number answer member => AnswerSound.onward onward (linked.answered id' number answer member)
  · intro id' response member
    rcases List.mem_append.mp member with old | new
    · exact linked.agreed id' response old
    · cases List.mem_singleton.mp new
      cases sound rfl
      exact fact

/-! ## All of them -/

theorem linked_step {op : LinkOp} {reply : op.Reply} {chance : Chance} (linked : Linked p nodeID places link)
    (found : places[i]? = some (task, stage)) (reached : task.next p stage op reply = some stage')
    (performed : perform p op chance link = (reply, link'))
    (unclaimed : op = .agent (.truncate .adoption) → link.node.files .adoption = none) :
    Linked p nodeID (places.set i (task, stage') ++ Runtime.places Task.first op.starts) link' := by
  cases task with
  | attempt id call =>
    cases stage with
    | attempt before =>
      cases op with
      | attempt id' sent op =>
        simp only [Task.next] at reached
        split_ifs at reached with same
        subst same
        obtain ⟨after, next, rfl⟩ := Option.map_eq_some_iff.mp reached
        exact linked_attempt linked found next performed
      | finish id' result =>
        simp only [Task.next] at reached
        split_ifs at reached with sound
        obtain ⟨rfl, trusted⟩ := sound
        cases reached
        cases performed
        exact linked_finish linked found trusted
      | arrive | agent op | answer id' number answer => simp only [Task.next, reduceCtorEq] at reached
    | finished | request before => cases op <;> simp only [Task.next, reduceCtorEq] at reached
  | handle id number body =>
    cases stage with
    | request before =>
      cases op with
      | arrive =>
        by_cases fresh : before = .sent
        · subst fresh
          cases reached
          cases performed
          exact linked_arrive linked found
        · simp only [Task.next, fresh, if_false, reduceCtorEq] at reached
      | agent op =>
        obtain ⟨after, next, rfl⟩ := Option.map_eq_some_iff.mp reached
        cases performed
        exact linked_agent linked found next rfl fun same => unclaimed (congrArg LinkOp.agent same)
      | answer id' number' answer =>
        simp only [Task.next] at reached
        split_ifs at reached with sound
        obtain ⟨rfl, rfl, answers⟩ := sound
        cases reached
        cases performed
        exact linked_answer linked found answers
      | attempt id' sent op | finish id' result => simp only [Task.next, reduceCtorEq] at reached
    | finished | attempt before => cases op <;> simp only [Task.next, reduceCtorEq] at reached

/-- Before the first attempt: the node is registered and its agent is not adopted. -/
structure Initial (nodeID : String) (link : Link) : Prop where
  row : (find link.rows nodeID).isSome = true
  file : link.node.files .adoption = none
  requests : link.requests = []
  answers : link.answers = []
  results : link.results = []

theorem linked_start {calls : List Call} (initial : Initial nodeID link)
    (named : ∀ call ∈ calls, call.node.id = nodeID) :
    Linked p nodeID (Runtime.places Task.first (attempts calls)) link := by
  have places_eq : Runtime.places Task.first (attempts calls) =
      calls.mapIdx fun id call => (Task.attempt id call, LinkStage.attempt .drawing) := by
    apply List.ext_getElem?
    intro k
    simp [Runtime.places, attempts, Function.comp_def, Task.first]
  rw [places_eq]
  constructor
  · intro place member
    obtain ⟨id, inside, rfl⟩ := List.mem_mapIdx.mp member
    intro body sent
    rw [initial.requests] at sent
    cases sent
  · intro k id call stage there
    rw [List.getElem?_mapIdx] at there
    obtain ⟨call', found, same⟩ := Option.map_eq_some_iff.mp there
    cases same
    exact ⟨rfl, named call (List.mem_of_getElem? found)⟩
  · intro k k' task task' there
    rw [List.getElem?_mapIdx] at there
    obtain ⟨call', -, same⟩ := Option.map_eq_some_iff.mp there
    cases same
  · rw [initial.requests]
    simp
  · exact .inl initial.file
  · rw [initial.answers]
    simp
  · rw [initial.results]
    simp
  · exact initial.row

theorem linked_run {calls : List Call} {schedule : List (Turn Chance)} {pool : LinkPool}
    (initial : Initial nodeID link) (named : ∀ call ∈ calls, call.node.id = nodeID)
    (run : replay (runtime p).step ((runtime p).start link (attempts calls)) schedule = some pool)
    (guarded : Guarded (runtime p).step (fun pool turn => Unclaimed pool turn = true)
      ((runtime p).start link (attempts calls)) schedule) :
    ∃ places, Runtime.Staged (Task.next p) Task.ended places pool.threads ∧ Linked p nodeID places pool.state := by
  refine replay_invariant (I := fun pool => ∃ places, Runtime.Staged (Task.next p) Task.ended places
    pool.threads ∧ Linked p nodeID places pool.state) ?_ ?_ guarded run
  · intro pool turn next ⟨places, staged, linked⟩ unclaimed taken
    obtain ⟨task, stage, op, reply, stage', found, issues, reached, performed, staged'⟩ :=
      Runtime.step_staged (follows_code p) staged taken
    refine ⟨_, staged', linked_step linked found reached (Option.some.inj performed) ?_⟩
    rintro rfl
    simpa [Unclaimed, issues] using unclaimed
  · exact ⟨_, Runtime.staged_launch (follows_code p) _, linked_start initial named⟩

/-- An attempt that has not begun has drawn at most one secret. -/
theorem stage_of_launched {id : Nat} {call call' : Call} {stage : LinkStage}
    (here : Runtime.At (Task.next p) Task.ended (.attempt id call, stage)
      ((runtime p).launch (.attempt id call'))) :
    stage = .attempt .drawing ∨ ∃ nutPassword, stage = .attempt (.drawn nutPassword) := by
  have issues : ((runtime p).launch (.attempt id call')).op? = some (.attempt id 0 (.randomSecret 24)) := rfl
  have reached := here.op?_eq_some issues (.ok "")
  cases stage with
  | attempt stage =>
    cases stage with
    | drawing => exact .inl rfl
    | drawn nutPassword => exact .inr ⟨nutPassword, rfl⟩
    | _ => simp [Task.next, attemptNext, isWaiting, Finishing] at reached
  | finished | request stage => simp [Task.next] at reached

/-- In every run of adoption attempts in which no handler creates the `adoption.json` that another
    one has created meanwhile, an attempt that ends with success has stored a token that the agent
    accepts.  Whenever no exchange is in progress, an adopted agent was adopted by the request of an
    attempt that has returned; where that one returned no error, the two parties agree. -/
theorem adoption_agreed {calls : List Call} {schedule : List (Turn Chance)} {pool : LinkPool}
    (initial : Initial nodeID link) (named : ∀ call ∈ calls, call.node.id = nodeID)
    (run : replay (runtime p).step ((runtime p).start link (attempts calls)) schedule = some pool)
    (guarded : Guarded (runtime p).step (fun pool turn => Unclaimed pool turn = true)
      ((runtime p).start link (attempts calls)) schedule) :
    (∀ id response, (id, .ok response) ∈ pool.state.results → Agreed p nodeID pool.state) ∧
      (Quiet p pool → ∀ state, AdoptedAs pool.state state → ∃ id result, AdoptedBy p pool.state id ∧
        (id, result) ∈ pool.state.results ∧ (result.isOk = true → Agreed p nodeID pool.state)) := by
  obtain ⟨places, staged, linked⟩ := linked_run initial named run guarded
  refine ⟨linked.agreed, ?_⟩
  intro quiet state adopted
  have adopter : ∃ id, AdoptedBy p pool.state id := by
    rcases linked.file with absent | empty | adoptedBy
    · rw [AdoptedAs, absent] at adopted
      cases adopted
    · rw [AdoptedAs, empty] at adopted
      cases adopted
    · exact adoptedBy
  obtain ⟨id, adoptedBy⟩ := adopter
  have ⟨_, body, _, sent, _⟩ := adoptedBy
  obtain ⟨call, stage, there, -⟩ := linked.known _ sent
  obtain ⟨thread, member, here⟩ := Runtime.staged_mem staged (List.mem_of_getElem? there)
  have fact := linked.facts _ (List.mem_of_getElem? there)
  rcases quiet thread member with ended | ⟨id', call', rfl⟩
  · cases here.op?_eq_none ended
    obtain ⟨result, returned⟩ := fact
    refine ⟨id, result, adoptedBy, returned, ?_⟩
    intro ok
    cases result with
    | error e => cases ok
    | ok response => exact linked.agreed id response returned
  · -- an attempt that has not begun has sent nothing
    cases here.task
    rcases stage_of_launched here with rfl | ⟨nutPassword, rfl⟩
    · exact absurd sent (fact body)
    · exact absurd sent (fact body)

theorem adoption_agreed_of_one : ∃ pool,
    replay (runtime parties1).step ((runtime parties1).start link1 (attempts [call1]))
        (smoothTurns [(0, 4), (1, 23), (0, 13)]) = some pool ∧
      ∀ id response, (id, .ok response) ∈ pool.state.results → Agreed parties1 "n1" pool.state := by
  have run : (replay (runtime parties1).step ((runtime parties1).start link1 (attempts [call1]))
      (smoothTurns [(0, 4), (1, 23), (0, 13)])).isSome := by decide +kernel
  obtain ⟨pool, run⟩ := Option.isSome_iff_exists.mp run
  have initial : Initial "n1" link1 := ⟨rfl, rfl, rfl, rfl, rfl⟩
  exact ⟨pool, run, (adoption_agreed initial (by simp [call1]) run (by decide +kernel)).1⟩

end Strom.Handshake
