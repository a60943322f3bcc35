import Strom.Aggregate.Backend
import Strom.Naming.Keys

/-!
# The aliases of the aggregate server (`main.go`, `manager.go`)

An alias is two slugs with `__` between them.  `Resolves` says that the aliases tell the
UPSes apart and that a request on each of them reaches its UPS; `resolves_iff` says of
which contents of the registry that is so.
-/

namespace Strom.Aggregate

open Strom.Go Strom.Effects

variable {F : Type}

/-! ## The aliases of two pairs -/

/-- The alias of one pair is that of the other with the separator at another place. -/
def Shifted (pair other : Pair F) : Prop :=
  Naming.Overlaps '_' (aggregateSlug pair.nodeID).toList (aggregateSlug pair.ups.name).toList
    (aggregateSlug other.nodeID).toList (aggregateSlug other.ups.name).toList

theorem alias_toList (pair : Pair F) : pair.upsAlias.toList =
    (aggregateSlug pair.nodeID).toList ++ '_' :: '_' :: (aggregateSlug pair.ups.name).toList := by
  simp [Pair.upsAlias, aggregateUPSAlias]

theorem alias_eq_iff (pair other : Pair F) : pair.upsAlias = other.upsAlias ↔
    (aggregateSlug pair.nodeID = aggregateSlug other.nodeID ∧
        aggregateSlug pair.ups.name = aggregateSlug other.ups.name) ∨
      Shifted pair other ∨ Shifted other pair := by
  have last : ∀ value, (aggregateSlug value).toList.getLast? ≠ some '_' := fun value => (Naming.slug_ends value).2
  rw [← String.toList_inj, alias_toList, alias_toList, Naming.joined_eq_iff (last _) (last _),
    String.toList_inj, String.toList_inj]
  rfl

theorem alias_ne_empty (pair : Pair F) : pair.upsAlias ≠ "" := by
  intro empty
  have := congrArg String.toList empty
  simp [alias_toList] at this

/-! ## Finding a UPS by its alias -/

variable {contents : Contents F} {pair : Pair F} {floatText : F → String}

theorem mem_list {entry : UPS} : entry ∈ contents.list floatText ↔
    ∃ pair ∈ contents.pairs, pair.entry floatText = entry := by
  rw [Contents.list, byName, (List.mergeSort_perm _ _).mem_iff, List.mem_map]

theorem resolve_of_distinct (distinct : (contents.pairs.map (·.upsAlias)).Nodup) (member : pair ∈ contents.pairs) :
    contents.resolve pair.upsAlias = some pair := Naming.find_of_nodup distinct member

@[simp] theorem name_entry (pair : Pair F) : (pair.entry floatText).name = pair.upsAlias := rfl

theorem listed_of_distinct (distinct : (contents.pairs.map (·.upsAlias)).Nodup) (member : pair ∈ contents.pairs) :
    (contents.list floatText).find? (fun ups => ups.name = pair.upsAlias) = some (pair.entry floatText) := by
  have names : ((contents.list floatText).map (·.name)).Nodup := by
    rw [Contents.list, byName, ((List.mergeSort_perm _ _).map _).nodup_iff, List.map_map]
    simpa [Function.comp_def] using distinct
  have member' : pair.entry floatText ∈ contents.list floatText := mem_list.mpr ⟨pair, member, rfl⟩
  rw [show pair.upsAlias = (pair.entry floatText).name from rfl]
  exact Naming.find_of_nodup names member'

theorem listed_of_mem (member : pair ∈ contents.pairs) :
    ∃ ups, (contents.list floatText).find? (fun ups => ups.name = pair.upsAlias) = some ups := by
  rw [← Option.isSome_iff_exists, List.find?_isSome]
  exact ⟨pair.entry floatText, mem_list.mpr ⟨pair, member, rfl⟩, by simp⟩

/-- Whatever is resolved has the alias that was asked for. -/
theorem alias_of_resolve {name : String} (found : contents.resolve name = some pair) :
    pair ∈ contents.pairs ∧ pair.upsAlias = name :=
  ⟨List.mem_of_find?_eq_some found, by simpa using List.find?_some found⟩

/-! ## Requests -/

variable {m : Serving} {session : NutSession} {world : BackendWorld F}

/-- A line of a client, with what it leaves of the world. -/
def request (floatText : F → String) (m : Serving) (session : NutSession) (world : BackendWorld F)
    (line : String) : Handled × BackendWorld F :=
  (handleCommand m session line).run (aggregateNUTBackend floatText) world

/-- A client that may use the backend. -/
def Admitted (m : Serving) (session : NutSession) : Prop := m.backend = true ∧ session.authed = true

/-- What a command of an admitted client answers and does. -/
def answered (floatText : F → String) (world : BackendWorld F) (answer : Answer (List String)) :
    List String × BackendWorld F :=
  let ended := answer.exec (aggregateNUTBackend floatText) world
  (match ended.1 with
    | .ok lines => lines
    | .error lines => lines, ended.2)

/-- An admitted line reaches the commands behind the password. -/
theorem request_of_fields (admitted : Admitted m session) {line command : String} {args : List String}
    (split : fields line = command :: args) (plain : command = "LIST" ∨ command = "INSTCMD") :
    request floatText m session world line =
      ({ session, response := (answered floatText world (backendCommand command args)).1 },
        (answered floatText world (backendCommand command args)).2) := by
  have upper : toUpper command = command ∧ command ≠ "QUIT" ∧ command ≠ "LOGOUT" ∧ command ≠ "USERNAME" ∧
      command ≠ "PASSWORD" := by
    obtain rfl | rfl := plain <;> decide
  obtain ⟨upper, quit, logout, username, password⟩ := upper
  unfold request handleCommand
  simp only [split, upper, quit, logout, username, password, or_self, if_false, admitted.1, admitted.2,
    Bool.true_eq_false, respond, Program.run_bind, answered, Action.exec]
  cases (Action.toProgram (backendCommand command args)).run (aggregateNUTBackend floatText) world with
  | mk result after => cases result <;> rfl

theorem fields_request (words : String) {name : String} (plain : ∀ c ∈ name.toList, isSpaceRune c = false)
    (nonempty : name ≠ "") : fields (words ++ " " ++ name) = fields words ++ [name] := by
  rw [fields_append, fields_eq_singleton plain nonempty]

/-- The lines that show the variables of a UPS. -/
def varLines (floatText : F → String) (pair : Pair F) : List String :=
  ["BEGIN LIST VAR " ++ pair.upsAlias] ++
    (byName (·.1) (pair.ups.exposed floatText)).map (fun entry =>
      "VAR " ++ pair.upsAlias ++ " " ++ entry.1 ++ " " ++ quoted entry.2) ++
    ["END LIST VAR " ++ pair.upsAlias]

theorem exec_upsOrRefuse (name : String) :
    (upsOrRefuse name).exec (aggregateNUTBackend floatText) world =
      match (world.contents.list floatText).find? (fun ups => ups.name = name) with
      | some ups => (.ok ups, world)
      | none => (.error ["ERR UNKNOWN-UPS"], world) := by
  have lists : backendList.exec (aggregateNUTBackend floatText) world =
      (.ok (world.contents.list floatText), world) := rfl
  rw [upsOrRefuse, Action.exec_mapError, lookupUPS, Action.exec_bind, lists]
  simp only
  cases (world.contents.list floatText).find? (fun ups => ups.name = name) <;> rfl

/-- The calls of a request that has found a UPS in the list. -/
theorem calls_listCmd (name : String) : (answered floatText world (listCmd name)).2 =
    match (world.contents.list floatText).find? (fun ups => ups.name = name) with
    | some ups =>
      match world.contents.resolve ups.name with
      | some target => world.called (.fetchDetail target.nodeID target.ups.name)
      | none => world
    | none => world := by
  unfold answered listCmd
  rw [Action.exec_bind, exec_upsOrRefuse]
  cases (world.contents.list floatText).find? (fun ups => ups.name = name) with
  | none => rfl
  | some ups =>
    have fetches : (commandsOf ups).exec (aggregateNUTBackend floatText) world =
        ((aggregateNUTBackend floatText (.listCommands ups.name) world).1.mapError
            (refusal "ERR DRIVER-NOT-CONNECTED"),
          (aggregateNUTBackend floatText (.listCommands ups.name) world).2) := by
      rw [commandsOf, Action.exec_mapError]
      rfl
    simp only [Action.exec_bind, fetches, aggregateNUTBackend]
    cases world.contents.resolve ups.name with
    | none => rfl
    | some target =>
      simp only
      cases world.commands target.nodeID target.ups.name <;> rfl

theorem calls_instCmd (name command : String) : (answered floatText world (instCmd name command)).2 =
    match (world.contents.list floatText).find? (fun ups => ups.name = name) with
    | some _ =>
      match world.contents.resolve name with
      | some target => world.called (.runCommand target.nodeID target.ups.name command)
      | none => world
    | none => world := by
  unfold answered instCmd
  rw [Action.exec_bind, exec_upsOrRefuse]
  cases (world.contents.list floatText).find? (fun ups => ups.name = name) with
  | none => rfl
  | some ups =>
    have runs : (Action.mapError (refusal "ERR FAILED")
          (Action.ofProgram (Program.perform (BackendOp.runCommand name command)))).exec
        (aggregateNUTBackend floatText) world =
        ((aggregateNUTBackend floatText (.runCommand name command) world).1.mapError (refusal "ERR FAILED"),
          (aggregateNUTBackend floatText (.runCommand name command) world).2) := by
      rw [Action.exec_mapError]
      rfl
    simp only [Action.exec_bind, runs, aggregateNUTBackend]
    cases world.contents.resolve name with
    | none => rfl
    | some target =>
      simp only
      cases world.ran target.nodeID target.ups.name command <;> rfl

theorem answered_listVar (name : String) : answered floatText world (listVar name) =
    match (world.contents.list floatText).find? (fun ups => ups.name = name) with
    | some ups =>
      (["BEGIN LIST VAR " ++ ups.name] ++ (byName (·.1) ups.vars).map (fun entry =>
          "VAR " ++ ups.name ++ " " ++ entry.1 ++ " " ++ quoted entry.2) ++ ["END LIST VAR " ++ ups.name], world)
    | none => (["ERR UNKNOWN-UPS"], world) := by
  unfold answered listVar
  rw [Action.exec_bind, exec_upsOrRefuse]
  cases (world.contents.list floatText).find? (fun ups => ups.name = name) <;> rfl

/-! ## The claim of a listing -/

/-- The aliases tell the UPSes apart, and the requests of every admitted client on the
    alias of a UPS reach that UPS. -/
structure Resolves (floatText : F → String) (world : BackendWorld F) : Prop where
  distinct : (world.contents.pairs.map (·.upsAlias)).Nodup
  listVar : ∀ pair ∈ world.contents.pairs, ∀ m session, Admitted m session →
    (request floatText m session world ("LIST VAR " ++ pair.upsAlias)).1.response = varLines floatText pair
  listCmd : ∀ pair ∈ world.contents.pairs, ∀ m session, Admitted m session →
    (request floatText m session world ("LIST CMD " ++ pair.upsAlias)).2 =
      world.called (.fetchDetail pair.nodeID pair.ups.name)
  instCmd : ∀ pair ∈ world.contents.pairs, ∀ command ≠ "", (∀ c ∈ command.toList, isSpaceRune c = false) →
    ∀ m session, Admitted m session →
      (request floatText m session world ("INSTCMD " ++ pair.upsAlias ++ " " ++ command)).2 =
        world.called (.runCommand pair.nodeID pair.ups.name command)

/-- No two UPSes share both slugs, none has the alias of another with the separator moved,
    and no slug has a blank in it. -/
structure Clear (contents : Contents F) : Prop where
  slugs : ∀ pair ∈ contents.pairs, ∀ other ∈ contents.pairs,
    aggregateSlug pair.nodeID = aggregateSlug other.nodeID →
      aggregateSlug pair.ups.name = aggregateSlug other.ups.name → pair.key = other.key
  shifted : ∀ pair ∈ contents.pairs, ∀ other ∈ contents.pairs, ¬ Shifted pair other
  plain : ∀ pair ∈ contents.pairs, ∀ c ∈ (aggregateSlug pair.nodeID).toList ++ (aggregateSlug pair.ups.name).toList,
    isSpaceRune c = false

theorem keys_nodup (contents : Contents F) : (contents.pairs.map (·.key)).Nodup := by
  rw [Contents.pairs, List.map_flatMap]
  simp only [List.map_map]
  exact Naming.nodup_pairs contents.distinctNodes contents.distinctUPSes

theorem pair_eq_of_key {contents : Contents F} {pair other : Pair F} (member : pair ∈ contents.pairs)
    (member' : other ∈ contents.pairs) (same : pair.key = other.key) : pair = other :=
  List.inj_on_of_nodup_map (keys_nodup contents) member member' same

theorem not_shifted_self (pair : Pair F) : ¬ Shifted pair pair := by
  rintro ⟨w, longer, -⟩
  have := congrArg List.length longer
  simp only [List.length_append, List.length_cons] at this
  omega

theorem distinct_iff : (contents.pairs.map (·.upsAlias)).Nodup ↔
    (∀ pair ∈ contents.pairs, ∀ other ∈ contents.pairs,
      aggregateSlug pair.nodeID = aggregateSlug other.nodeID →
        aggregateSlug pair.ups.name = aggregateSlug other.ups.name → pair.key = other.key) ∧
      ∀ pair ∈ contents.pairs, ∀ other ∈ contents.pairs, ¬ Shifted pair other := by
  constructor
  · intro distinct
    have same : ∀ pair ∈ contents.pairs, ∀ other ∈ contents.pairs, pair.upsAlias = other.upsAlias → pair = other :=
      fun pair member other member' => List.inj_on_of_nodup_map distinct member member'
    constructor
    · intro pair member other member' nodes upses
      rw [same pair member other member' ((alias_eq_iff pair other).mpr (.inl ⟨nodes, upses⟩))]
    · intro pair member other member' shifted
      have equal := same pair member other member' ((alias_eq_iff pair other).mpr (.inr (.inl shifted)))
      rw [equal] at shifted
      exact not_shifted_self other shifted
  · rintro ⟨slugs, shifted⟩
    refine (List.nodup_map_iff_inj_on (keys_nodup contents).of_map).mpr fun pair member other member' same => ?_
    obtain ⟨nodes, upses⟩ | shift | shift := (alias_eq_iff pair other).mp same
    · exact pair_eq_of_key member member' (slugs pair member other member' nodes upses)
    · exact absurd shift (shifted pair member other member')
    · exact absurd shift (shifted other member' pair member)

theorem resolves_of_clear (clear : Clear world.contents) : Resolves floatText world := by
  have distinct := distinct_iff.mpr ⟨clear.slugs, clear.shifted⟩
  have fieldOf : ∀ pair ∈ world.contents.pairs, ∀ words,
      fields (words ++ " " ++ pair.upsAlias) = fields words ++ [pair.upsAlias] := by
    intro pair member words
    refine fields_request words (fun c inAlias => ?_) (alias_ne_empty pair)
    rw [alias_toList] at inAlias
    simp only [List.mem_append, List.mem_cons] at inAlias
    obtain inNode | rfl | rfl | inUPS := inAlias
    · exact clear.plain pair member c (List.mem_append_left _ inNode)
    · rfl
    · rfl
    · exact clear.plain pair member c (List.mem_append_right _ inUPS)
  constructor
  · exact distinct
  · intro pair member m session admitted
    have split : fields ("LIST VAR " ++ pair.upsAlias) = ["LIST", "VAR", pair.upsAlias] :=
      fieldOf pair member "LIST VAR"
    have command : backendCommand "LIST" ["VAR", pair.upsAlias] = listVar pair.upsAlias := rfl
    rw [request_of_fields admitted split (.inl rfl), command, answered_listVar, listed_of_distinct distinct member]
    rfl
  · intro pair member m session admitted
    have split : fields ("LIST CMD " ++ pair.upsAlias) = ["LIST", "CMD", pair.upsAlias] :=
      fieldOf pair member "LIST CMD"
    have command : backendCommand "LIST" ["CMD", pair.upsAlias] = listCmd pair.upsAlias := rfl
    rw [request_of_fields admitted split (.inl rfl), command, calls_listCmd, listed_of_distinct distinct member]
    simp only [name_entry, resolve_of_distinct distinct member]
  · intro pair member command nonempty plain m session admitted
    have split : fields ("INSTCMD " ++ pair.upsAlias ++ " " ++ command) = ["INSTCMD", pair.upsAlias, command] := by
      rw [fields_request _ plain nonempty]
      exact congrArg (· ++ [command]) (fieldOf pair member "INSTCMD")
    have dispatched : backendCommand "INSTCMD" [pair.upsAlias, command] = instCmd pair.upsAlias command := rfl
    rw [request_of_fields admitted split (.inr rfl), dispatched, calls_instCmd, listed_of_distinct distinct member,
      resolve_of_distinct distinct member]

theorem called_ne (call : TrustedCall) : world ≠ world.called call := by
  intro same
  have := congrArg (fun world => world.calls.length) same
  simp [BackendWorld.called] at this

/-- A `LIST CMD` that asked the right node was answered for a field of its line, so that
    the alias has no blank. -/
theorem plain_of_listCmd (member : pair ∈ world.contents.pairs) (admitted : Admitted m session)
    (asked : (request floatText m session world ("LIST CMD " ++ pair.upsAlias)).2 =
      world.called (.fetchDetail pair.nodeID pair.ups.name)) :
    ∀ c ∈ pair.upsAlias.toList, isSpaceRune c = false := by
  have split : fields ("LIST CMD " ++ pair.upsAlias) = "LIST" :: "CMD" :: fields pair.upsAlias := by
    have words : fields "LIST CMD" = ["LIST", "CMD"] := by decide
    have spaced : "LIST CMD " = "LIST CMD" ++ " " := by decide
    rw [spaced, fields_append, words, List.cons_append, List.cons_append, List.nil_append]
  rw [request_of_fields admitted split (.inl rfl)] at asked
  cases parts : fields pair.upsAlias with
  | nil =>
    have command : backendCommand "LIST" ["CMD"] = pure ["ERR INVALID-ARGUMENT"] := rfl
    rw [parts, command] at asked
    exact absurd asked (called_ne _)
  | cons name rest =>
    have command : backendCommand "LIST" ("CMD" :: name :: rest) = listCmd name := rfl
    rw [parts, command, calls_listCmd] at asked
    cases listed : (world.contents.list floatText).find? (fun ups => ups.name = name) with
    | none =>
      simp only [listed] at asked
      exact absurd asked (called_ne _)
    | some ups =>
      have named : ups.name = name := by simpa using List.find?_some listed
      cases resolved : world.contents.resolve name with
      | none =>
        simp only [listed, named, resolved] at asked
        exact absurd asked (called_ne _)
      | some target =>
        simp only [listed, named, resolved, BackendWorld.called, BackendWorld.mk.injEq, List.append_cancel_left_eq,
          List.cons.injEq, TrustedCall.fetchDetail.injEq, true_and, and_true] at asked
        obtain ⟨inside, aliased⟩ := alias_of_resolve resolved
        have same : target = pair := pair_eq_of_key inside member (Prod.ext asked.1 asked.2)
        have field : name ∈ fields pair.upsAlias := by simp [parts]
        rw [← same, aliased]
        exact not_blank_of_mem_fields field

/-- The aliases resolve as listed exactly where they are clear. -/
theorem resolves_iff : Resolves floatText world ↔ Clear world.contents := by
  refine ⟨fun resolves => ?_, resolves_of_clear⟩
  obtain ⟨slugs, shifted⟩ := distinct_iff.mp resolves.distinct
  refine ⟨slugs, shifted, fun pair member c inside => ?_⟩
  have admitted : Admitted {} { authed := true } := ⟨rfl, rfl⟩
  have plain := plain_of_listCmd member admitted (resolves.listCmd pair member _ _ admitted)
  apply plain c
  rw [alias_toList]
  simp only [List.mem_append, List.mem_cons] at inside ⊢
  exact inside.imp_right fun inUPS => .inr (.inr inUPS)

/-! ## Two UPSes with one alias -/

/-- A node `rack-1` and a node `rack.1`, each with a UPS `ups`. -/
def twoRacks : Contents Nat where
  nodes := [{ id := "rack-1", upses := [{ name := "ups" }] }, { id := "rack.1", upses := [{ name := "ups" }] }]
  distinctNodes := by decide
  distinctUPSes := by decide

/-- A shutdown that is sent to the UPS of the second node reaches that of the first. -/
theorem shutdown_reaches_other_node :
    aggregateUPSAlias "rack.1" "ups" = "rack_1__ups" ∧
      (request toString {} { authed := true } { contents := twoRacks } "INSTCMD rack_1__ups shutdown.return").2.calls =
        [.runCommand "rack-1" "ups" "shutdown.return"] ∧
      ¬ ∀ world : BackendWorld Nat, Resolves toString world := by
  have aliases : twoRacks.pairs.map (·.upsAlias) = ["rack_1__ups", "rack_1__ups"] := by decide +kernel
  have split : fields "INSTCMD rack_1__ups shutdown.return" = ["INSTCMD", "rack_1__ups", "shutdown.return"] := by
    decide +kernel
  have found : twoRacks.resolve "rack_1__ups" = some { nodeID := "rack-1", ups := { name := "ups" } } := by
    decide +kernel
  refine ⟨by decide +kernel, ?_, fun resolves => ?_⟩
  · have command : backendCommand "INSTCMD" ["rack_1__ups", "shutdown.return"] =
        instCmd "rack_1__ups" "shutdown.return" := rfl
    obtain ⟨inside, aliased⟩ := alias_of_resolve found
    obtain ⟨ups, listed⟩ : ∃ ups, (twoRacks.list toString).find? (fun ups => ups.name = "rack_1__ups") = some ups := by
      rw [← aliased]
      exact listed_of_mem inside
    rw [request_of_fields ⟨rfl, rfl⟩ split (.inr rfl), command, calls_instCmd]
    simp only [listed, found]
    rfl
  · have distinct := (resolves { contents := twoRacks }).distinct
    rw [aliases] at distinct
    exact absurd distinct (by decide)

end Strom.Aggregate
