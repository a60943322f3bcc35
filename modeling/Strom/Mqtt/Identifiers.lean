import Strom.Mqtt.Publisher
import Strom.Naming.Keys

/-!
# Topics and ids of the MQTT messages (`mqtt.go`, `publisher.go`)

The topics and unique ids of a UPS are made of slugs, and the routes of commands are found
again by topic.  `Addressed` says that they tell the UPSes apart and that a command on the
topic of a UPS is passed on to that UPS; `addressed_iff` says of which nodes and UPSes that
is so.
-/

namespace Strom.Mqtt

open Strom.Go

/-- The nodes with their UPSes, as a call of `PublishSnapshots` has them. -/
structure Fleet (F : Type) where
  nodes : List (NodeSnapshot F)
  distinctNodes : (nodes.map (·.node.id)).Nodup
  distinctUPSes : ∀ snapshot ∈ nodes, (snapshot.upses.map (·.name)).Nodup

structure Pair (F : Type) where
  node : NodeInfo
  ups : UPSInfo F

variable {F : Type}

def Fleet.pairs (fleet : Fleet F) : List (Pair F) :=
  fleet.nodes.flatMap fun snapshot => snapshot.upses.map fun ups => { node := snapshot.node, ups }

namespace Pair

variable (pair : Pair F) (cfg : Config)

def key : String × String := (pair.node.id, pair.ups.name)

def slugs : String × String := (slug pair.node.id, slug pair.ups.name)

def base : String := baseID pair.node.id pair.ups.name

def state : String := stateTopic cfg.stateRoot pair.node.id pair.ups.name

def command : String := commandTopic cfg.stateRoot pair.node.id pair.ups.name

/-- The discovery messages before they are sorted. -/
def entities : List PublishMessage :=
  specs.map (sensorMessage cfg pair.node pair.ups) ++ pair.ups.commands.map (buttonMessage cfg pair.node pair.ups)

def discoveryTopics : List String := (pair.entities cfg).map (·.topic)

def uniqueIDs : List String :=
  specs.map (fun spec => pair.base ++ "-" ++ spec.objectID) ++
    pair.ups.commands.map fun command => pair.base ++ "-cmd-" ++ slug command.name

end Pair

variable {pair other : Pair F} {cfg : Config}

/-- These are the discovery messages of a UPS, in some order. -/
theorem entities_perm {messages : List PublishMessage}
    (made : discoveryMessages cfg pair.node pair.ups = .ok messages) : messages.Perm (pair.entities cfg) := by
  simp only [discoveryMessages, rejectIf] at made
  split at made
  · cases made
  split at made
  · cases made
  · cases made
    exact ((List.mergeSort_perm _ _).map _).append_left _

/-- Each of them carries one of the ids. -/
theorem uniqueID_of_entity {message : PublishMessage} (member : message ∈ pair.entities cfg) :
    ∃ payload : DiscoveryPayload, message.payload = Json.marshal payload.json ∧
      payload.uniqueID ∈ pair.uniqueIDs := by
  simp only [Pair.entities, List.mem_append, List.mem_map] at member
  obtain ⟨spec, listed, rfl⟩ | ⟨command, listed, rfl⟩ := member
  · exact ⟨_, rfl, List.mem_append_left _ (List.mem_map_of_mem listed)⟩
  · exact ⟨_, rfl, List.mem_append_right _ (List.mem_map_of_mem listed)⟩

/-! ## Which topics and ids are the same -/

theorem separator_notMem_slug {c : Char} (separator : Naming.isSeparator c = true) (value : String) :
    c ∉ (slug value).toList := by
  intro member
  have free : Naming.isSeparator c = false := Naming.not_isSeparator_of_mem_slug member
  rw [separator] at free
  cases free

/-- The topics of a kind determine both slugs. -/
theorem upsTopic_inj (root last n u n' u' : String) :
    root ++ "/nodes/" ++ slug n ++ "/ups/" ++ slug u ++ last =
        root ++ "/nodes/" ++ slug n' ++ "/ups/" ++ slug u' ++ last ↔ slug n = slug n' ∧ slug u = slug u' := by
  constructor
  · intro same
    have lists := congrArg String.toList same
    simp only [String.toList_append, List.append_assoc, List.append_cancel_left_eq] at lists
    have ups : "/ups/".toList = '/' :: "ups/".toList := rfl
    rw [ups, List.cons_append, List.cons_append,
      Naming.append_cons_inj (separator_notMem_slug rfl n) (separator_notMem_slug rfl n')] at lists
    simp only [List.append_cancel_left_eq, List.append_cancel_right_eq] at lists
    exact ⟨String.toList_inj.mp lists.1, String.toList_inj.mp lists.2⟩
  · rintro ⟨nodes, upses⟩
    rw [nodes, upses]

theorem state_eq_iff : pair.state cfg = other.state cfg ↔ pair.slugs = other.slugs := by
  rw [Pair.slugs, Pair.slugs, Prod.mk.injEq]
  exact upsTopic_inj cfg.stateRoot "/state" _ _ _ _

theorem command_eq_iff : pair.command cfg = other.command cfg ↔ pair.slugs = other.slugs := by
  rw [Pair.slugs, Pair.slugs, Prod.mk.injEq]
  exact upsTopic_inj cfg.stateRoot "/command" _ _ _ _

theorem discoveryTopic_inj {root c o c' o' : String} (free : '/' ∉ c.toList) (free' : '/' ∉ c'.toList)
    (same : discoveryTopic root c o = discoveryTopic root c' o') : c = c' ∧ o = o' := by
  have lists := congrArg String.toList same
  have slash : "/".toList = ['/'] := rfl
  simp only [discoveryTopic, String.toList_append, List.append_assoc, List.append_cancel_left_eq, slash,
    List.cons_append, List.nil_append, List.cons.injEq, true_and] at lists
  rw [Naming.append_cons_inj free free', List.append_cancel_right_eq] at lists
  exact ⟨String.toList_inj.mp lists.1, String.toList_inj.mp lists.2⟩

/-- No object id of a sensor is the end of another one's. -/
theorem objectID_of_suffix : ∀ spec ∈ specs, ∀ spec' ∈ specs, spec.component = spec'.component →
    ("_" ++ spec.objectID).toList <:+ ("_" ++ spec'.objectID).toList → spec.objectID = spec'.objectID := by
  decide +kernel

theorem component_free : ∀ spec ∈ specs, '/' ∉ spec.component.toList ∧ spec.component ≠ "button" := by
  decide +kernel

/-- The sensors of two UPSes share a topic only if these have one base id. -/
theorem base_of_sensors {spec spec' : EntitySpec} (member : spec ∈ specs) (member' : spec' ∈ specs)
    (same : (sensorMessage cfg pair.node pair.ups spec).topic =
      (sensorMessage cfg other.node other.ups spec').topic) : pair.base = other.base := by
  obtain ⟨components, objects⟩ := discoveryTopic_inj (component_free spec member).1
    (component_free spec' member').1 same
  have lists : pair.base.toList ++ ("_" ++ spec.objectID).toList =
      other.base.toList ++ ("_" ++ spec'.objectID).toList := by
    have := congrArg String.toList objects
    simpa only [Pair.base, String.toList_append, List.append_assoc] using this
  have ends := List.suffix_append pair.base.toList ("_" ++ spec.objectID).toList
  have ends' := List.suffix_append other.base.toList ("_" ++ spec'.objectID).toList
  rw [lists] at ends
  have ids : spec.objectID = spec'.objectID := by
    obtain shorter | shorter := List.suffix_or_suffix_of_suffix ends ends'
    · exact objectID_of_suffix spec member spec' member' components shorter
    · exact (objectID_of_suffix spec' member' spec member components.symm shorter).symm
  rw [ids, List.append_cancel_right_eq] at lists
  exact String.toList_inj.mp lists

/-- The text of one button is that of the other with `_cmd_` at another place; the two may
    share an underscore. -/
def Moved (base command base' command' : List Char) : Prop :=
  ∃ w, base' = base ++ "_cmd".toList ++ w ∧ '_' :: command = w ++ "_cmd_".toList ++ command'

theorem joined_cmd_iff {base command base' command' : List Char} :
    base ++ "_cmd_".toList ++ command = base' ++ "_cmd_".toList ++ command' ↔
      (base = base' ∧ command = command') ∨ Moved base command base' command' ∨
        Moved base' command' base command := by
  have separator : "_cmd_".toList = ['_', 'c', 'm', 'd', '_'] := rfl
  have cut : "_cmd".toList = ['_', 'c', 'm', 'd'] := rfl
  -- the longer base holds the separator of the other one, or all of it but its last character
  have moved : ∀ {a b a' b' : List Char},
      (∃ t, a' = a ++ t ∧ "_cmd_".toList ++ b = t ++ ("_cmd_".toList ++ b')) → (a = a' ∧ b = b') ∨ Moved a b a' b' := by
    rintro a b a' b' ⟨t, rfl, rest⟩
    rw [separator] at rest
    match t with
    | [] => exact .inl ⟨by simp, by simpa using rest⟩
    | [_] => simp at rest
    | [_, _] => simp at rest
    | [_, _, _] => simp at rest
    | _ :: _ :: _ :: _ :: w =>
      simp only [List.cons_append, List.nil_append, List.cons.injEq] at rest
      obtain ⟨rfl, rfl, rfl, rfl, rest⟩ := rest
      exact .inr ⟨w, by simp [cut], by simpa [separator] using rest⟩
  simp only [List.append_assoc]
  constructor
  · intro same
    obtain longer | longer := List.append_eq_append_iff.mp same
    · obtain equal | one := moved longer
      · exact .inl equal
      · exact .inr (.inl one)
    · obtain equal | one := moved longer
      · exact .inl ⟨equal.1.symm, equal.2.symm⟩
      · exact .inr (.inr one)
  · have joined : ∀ {a b a' b' : List Char}, Moved a b a' b' →
        a ++ ("_cmd_".toList ++ b) = a' ++ ("_cmd_".toList ++ b') := by
      rintro a b a' b' ⟨w, rfl, rest⟩
      have split : "_cmd_".toList ++ b = "_cmd".toList ++ '_' :: b := rfl
      rw [split, rest]
      simp only [List.append_assoc]
    rintro (⟨rfl, rfl⟩ | one | one)
    · rfl
    · exact joined one
    · exact (joined one).symm

/-- The button of a command of one UPS has the text of one of the other. -/
def ButtonMoved (pair other : Pair F) : Prop :=
  ∃ command ∈ pair.ups.commands, ∃ command' ∈ other.ups.commands,
    Moved pair.base.toList (slug command.name).toList other.base.toList (slug command'.name).toList

theorem buttons_eq_iff {command command' : CommandInfo} :
    (buttonMessage cfg pair.node pair.ups command).topic = (buttonMessage cfg other.node other.ups command').topic ↔
      (pair.base = other.base ∧ slug command.name = slug command'.name) ∨
        Moved pair.base.toList (slug command.name).toList other.base.toList (slug command'.name).toList ∨
          Moved other.base.toList (slug command'.name).toList pair.base.toList (slug command.name).toList := by
  have same_iff : (pair.base = other.base ∧ slug command.name = slug command'.name) ↔
      pair.base.toList = other.base.toList ∧ (slug command.name).toList = (slug command'.name).toList := by
    rw [String.toList_inj, String.toList_inj]
  rw [same_iff, ← joined_cmd_iff]
  constructor
  · intro same
    have objects := (discoveryTopic_inj (by decide) (by decide) same).2
    simpa only [Pair.base, String.toList_append] using congrArg String.toList objects
  · intro same
    have objects : pair.base ++ "_cmd_" ++ slug command.name = other.base ++ "_cmd_" ++ slug command'.name := by
      apply String.toList_inj.mp
      simpa only [String.toList_append] using same
    exact congrArg (discoveryTopic cfg.discoveryRoot "button") objects

/-! ## Routes -/

/-- The command that a payload names, as a UPS takes it: any where it has no named command,
    else its own, whatever the case of the letters. -/
def accepted (ups : UPSInfo F) (payload : String) : Option String :=
  let commands := (ups.commands.map fun command => trimSpace command.name).filter (· ≠ "")
  if trimSpace payload = "" then none
  else if commands = [] then some (trimSpace payload)
  else commands.reverse.find? fun name => toLower name = toLower (trimSpace payload)

/-- The request that a payload on the topic of a pair is to lead to. -/
def Pair.request (pair : Pair F) (payload : String) : Option CommandRequest :=
  (accepted pair.ups payload).map fun command =>
    { nodeID := pair.node.id, upsName := pair.ups.name, command }

/-- The names of a pair are as they are stored in a route. -/
def Pair.Named (pair : Pair F) : Prop :=
  (pair.node.id ≠ "" ∧ trimSpace pair.node.id = pair.node.id) ∧
    pair.ups.name ≠ "" ∧ trimSpace pair.ups.name = pair.ups.name

section Routes

variable {cfg : RuntimeConfig} {fleet : Fleet F}

theorem commands_routeOf (nodeID : String) (ups : UPSInfo F) : (routeOf nodeID ups).commands =
    ((ups.commands.map fun command => trimSpace command.name).filter (· ≠ "")).map fun name => (toLower name, name) := by
  show List.filterMap (fun name => if name = "" then none else some (toLower name, name)) _ = _
  induction ups.commands.map fun command => trimSpace command.name with
  | nil => rfl
  | cons name names ih =>
    by_cases blank : name = ""
    · simp [blank, ih]
    · simp [blank, ih]

/-- What a route makes of a payload. -/
theorem lookupRoute_routeOf {routes : Routes} {topic nodeID payload : String} {ups : UPSInfo F}
    (found : routes topic = some (routeOf nodeID ups)) (nonblank : trimSpace payload ≠ "") :
    lookupRoute routes topic (trimSpace payload) = (accepted ups payload).map fun command =>
      (routeOf nodeID ups, command) := by
  unfold lookupRoute accepted
  rw [found, Option.bind_eq_bind, Option.bind_some, commands_routeOf, if_neg nonblank]
  generalize (ups.commands.map fun command => trimSpace command.name).filter (· ≠ "") = names
  by_cases none : names = []
  · simp [none]
  · simp only [List.map_eq_nil_iff, none, if_false, trimSpace_trimSpace, ← List.map_reverse, List.find?_map,
      Option.bind_eq_bind, Function.comp_def]
    cases names.reverse.find? fun name => toLower name = toLower (trimSpace payload) <;> rfl

theorem stateRoot_newPublisher : (newPublisher cfg).messages.stateRoot = (newPublisher cfg).messages.statePrefix := by
  simp only [Config.stateRoot, newPublisher, defaultString]
  by_cases blank : trimSpace cfg.statePrefix = ""
  · simp only [blank, if_true]
    decide
  · simp [blank]

/-- The root of the topics does not begin with a blank. -/
theorem statePrefix_newPublisher (cfg : RuntimeConfig) : ∃ c rest, (newPublisher cfg).messages.statePrefix.toList = c :: rest ∧
    isSpaceRune c = false := by
  simp only [newPublisher, defaultString]
  by_cases blank : trimSpace cfg.statePrefix = ""
  · rw [if_pos blank]
    exact ⟨'s', ['t', 'r', 'o', 'm'], rfl, rfl⟩
  · rw [if_neg blank]
    have first := head?_trimmed (p := isSpaceRune) cfg.statePrefix.toList
    rw [← trimSpace_toList] at first
    cases chars : (trimSpace cfg.statePrefix).toList with
    | nil => exact absurd (String.toList_eq_nil_iff.mp chars) blank
    | cons c rest =>
      rw [chars] at first
      exact ⟨c, rest, rfl, first c rfl⟩

theorem route_of_lookup {routes : Routes} {topic command : String} {target : CommandRoute × String}
    (found : lookupRoute routes topic command = some target) : routes topic = some target.1 := by
  unfold lookupRoute at found
  cases route : routes topic with
  | none =>
    rw [route] at found
    cases found
  | some route' =>
    rw [route, Option.bind_eq_bind, Option.bind_some] at found
    split at found
    · cases found
      rfl
    · rw [Option.bind_eq_bind, Option.bind_eq_some_iff] at found
      obtain ⟨entry, -, same⟩ := found
      cases same
      rfl

/-- A publication on the topic of commands of a pair goes to the route of the topic. -/
theorem receive_command (routes : Routes) (payload : String) :
    receive (newPublisher cfg) routes (pair.command (newPublisher cfg).messages) payload =
      if trimSpace payload = "" then none
      else (lookupRoute routes (pair.command (newPublisher cfg).messages) (trimSpace payload)).map fun target =>
        { nodeID := target.1.nodeID, upsName := target.1.upsName, command := target.2 } := by
  obtain ⟨c, rest, root, nonblank⟩ := statePrefix_newPublisher cfg
  have chars : (pair.command (newPublisher cfg).messages).toList =
      (newPublisher cfg).messages.statePrefix.toList ++ ("/nodes/".toList ++ ((slug pair.node.id).toList ++
        ("/ups/".toList ++ ((slug pair.ups.name).toList ++ "/command".toList)))) := by
    simp only [Pair.command, commandTopic, stateRoot_newPublisher, String.toList_append, List.append_assoc]
  have trimmed : trimSpace (pair.command (newPublisher cfg).messages) = pair.command (newPublisher cfg).messages := by
    apply trimSpace_eq_self
    · intro first head
      rw [chars, root] at head
      obtain rfl : c = first := by simpa using head
      exact nonblank
    · intro last tail
      have command : "/command".toList = "/comman".toList ++ ['d'] := rfl
      rw [chars, command] at tail
      simp only [← List.append_assoc, List.getLast?_concat, Option.mem_def, Option.some.injEq] at tail
      rw [← tail]
      rfl
  have begins : hasPrefix (pair.command (newPublisher cfg).messages)
      ((newPublisher cfg).messages.statePrefix ++ "/nodes/") = true := by
    rw [hasPrefix, List.isPrefixOf_iff_prefix, chars, String.toList_append, ← List.append_assoc]
    exact List.prefix_append _ _
  have ends : hasSuffix (pair.command (newPublisher cfg).messages) "/command" = true := by
    rw [hasSuffix, List.isSuffixOf_iff_suffix, chars]
    simp only [← List.append_assoc]
    exact List.suffix_append _ _
  unfold receive
  rw [trimmed, begins, ends]
  rfl

@[simp] theorem slug_trimSpace (value : String) : slug (trimSpace value) = slug value := by
  simp [slug, Naming.slug]

/-- Pairs without a blank name get a route. -/
def Pair.routed (pair : Pair F) : Bool := trimSpace pair.node.id ≠ "" && trimSpace pair.ups.name ≠ ""

def Pair.route (pair : Pair F) : CommandRoute := routeOf (trimSpace pair.node.id) pair.ups

/-- The loops of `updateRoutes` as one over the pairs. -/
theorem routesOf_eq (root : String) : routesOf root fleet.nodes =
    (fleet.pairs.filter Pair.routed).foldl (fun routes pair =>
      Function.update routes (commandTopic root pair.node.id pair.ups.name) (some pair.route)) fun _ => none := by
  have inner : ∀ (node : NodeInfo) (upses : List (UPSInfo F)) (routes : Routes), trimSpace node.id ≠ "" →
      addRoutes root (trimSpace node.id) upses routes =
        ((upses.map fun ups => ({ node, ups } : Pair F)).filter Pair.routed).foldl (fun routes pair =>
          Function.update routes (commandTopic root pair.node.id pair.ups.name) (some pair.route)) routes := by
    intro node upses routes named
    unfold addRoutes
    induction upses generalizing routes with
    | nil => rfl
    | cons ups upses ih =>
      rw [List.foldl_cons, ih]
      by_cases blank : trimSpace ups.name = ""
      · simp [blank, Pair.routed]
      · simp [blank, named, Pair.routed, Pair.route, commandTopic]
  have outer : ∀ (nodes : List (NodeSnapshot F)) (routes : Routes),
      nodes.foldl (fun routes snapshot => if trimSpace snapshot.node.id = "" then routes
        else addRoutes root (trimSpace snapshot.node.id) snapshot.upses routes) routes =
      ((nodes.flatMap fun snapshot => snapshot.upses.map fun ups => ({ node := snapshot.node, ups } : Pair F)).filter
        Pair.routed).foldl (fun routes pair =>
          Function.update routes (commandTopic root pair.node.id pair.ups.name) (some pair.route)) routes := by
    intro nodes routes
    induction nodes generalizing routes with
    | nil => rfl
    | cons snapshot nodes ih =>
      rw [List.foldl_cons, ih, List.flatMap_cons, List.filter_append, List.foldl_append]
      by_cases blank : trimSpace snapshot.node.id = ""
      · have none : (snapshot.upses.map fun ups => ({ node := snapshot.node, ups } : Pair F)).filter Pair.routed = [] := by
          simp [Pair.routed, blank]
        rw [if_pos blank, none]
        rfl
      · rw [if_neg blank, inner _ _ _ blank]
  exact outer fleet.nodes _

theorem pair_keys_nodup (fleet : Fleet F) : (fleet.pairs.map (·.key)).Nodup := by
  rw [Fleet.pairs, List.map_flatMap]
  simp only [List.map_map]
  exact Naming.nodup_pairs fleet.distinctNodes fleet.distinctUPSes

/-- Where the slugs tell the pairs apart, each named pair keeps its route. -/
theorem route_of_pair (root : String) (member : pair ∈ fleet.pairs) (routed : pair.routed = true)
    (slugs : ∀ pair ∈ fleet.pairs, ∀ other ∈ fleet.pairs, pair.key ≠ other.key → pair.slugs ≠ other.slugs) :
    routesOf root fleet.nodes (commandTopic root pair.node.id pair.ups.name) = some pair.route := by
  have keys : ((fleet.pairs.filter Pair.routed).map (·.key)).Nodup :=
    (pair_keys_nodup fleet).sublist (List.filter_sublist.map _)
  have distinct : ((fleet.pairs.filter Pair.routed).map fun pair =>
      commandTopic root pair.node.id pair.ups.name).Nodup := by
    refine (List.nodup_map_iff_inj_on keys.of_map).mpr fun pair member other member' same => ?_
    by_contra differ
    have inside := List.mem_of_mem_filter member
    have inside' := List.mem_of_mem_filter member'
    refine slugs pair inside other inside' (fun key => differ ?_) (Prod.mk.injEq .. ▸ ?_)
    · exact List.inj_on_of_nodup_map (pair_keys_nodup fleet) inside inside' key
    · exact (upsTopic_inj root "/command" _ _ _ _).mp same
  rw [routesOf_eq]
  exact Naming.foldl_update_of_nodup distinct (List.mem_filter.mpr ⟨member, routed⟩) _

/-- Every route is that of a named pair. -/
theorem pair_of_route {root topic : String} {route : CommandRoute}
    (found : routesOf root fleet.nodes topic = some route) : ∃ pair : Pair F, pair.routed = true ∧ pair.route = route := by
  rw [routesOf_eq] at found
  obtain none | ⟨pair, member, -, holds⟩ := Naming.foldl_update_cases
    (fun pair => commandTopic root pair.node.id pair.ups.name) (fun pair => some pair.route)
    (fleet.pairs.filter Pair.routed) topic fun _ => none
  · rw [none] at found
    cases found
  · rw [found] at holds
    exact ⟨pair, (List.mem_filter.mp member).2, (Option.some.inj holds).symm⟩

/-- Some payload is taken by a UPS, whatever its commands are. -/
theorem exists_accepted (ups : UPSInfo F) : ∃ payload command, accepted ups payload = some command := by
  unfold accepted
  cases names : (ups.commands.map fun command => trimSpace command.name).filter (· ≠ "") with
  | nil => exact ⟨"x", "x", by decide⟩
  | cons name rest =>
    have member : name ∈ (ups.commands.map fun command => trimSpace command.name).filter (· ≠ "") := by
      rw [names]
      exact List.mem_cons_self
    obtain ⟨listed, named⟩ := List.mem_filter.mp member
    obtain ⟨command, -, rfl⟩ := List.mem_map.mp listed
    have present : ((trimSpace command.name :: rest).reverse.find? fun name =>
        toLower name = toLower (trimSpace (trimSpace command.name))).isSome := by
      simp
    obtain ⟨taken, found⟩ := Option.isSome_iff_exists.mp present
    refine ⟨trimSpace command.name, taken, ?_⟩
    have nonblank : trimSpace (trimSpace command.name) ≠ "" := by simpa using named
    rw [if_neg nonblank, if_neg (List.cons_ne_nil _ _)]
    exact found

end Routes

/-! ## The claim of the topics -/

/-- The topics and ids tell the UPSes apart, and what is published on the topic of commands
    of a UPS leads to a request to that UPS. -/
structure Addressed (cfg : RuntimeConfig) (fleet : Fleet F) : Prop where
  state : ∀ pair ∈ fleet.pairs, ∀ other ∈ fleet.pairs, pair.key ≠ other.key →
    pair.state (newPublisher cfg).messages ≠ other.state (newPublisher cfg).messages
  command : ∀ pair ∈ fleet.pairs, ∀ other ∈ fleet.pairs, pair.key ≠ other.key →
    pair.command (newPublisher cfg).messages ≠ other.command (newPublisher cfg).messages
  discovery : ∀ pair ∈ fleet.pairs, ∀ other ∈ fleet.pairs, pair.key ≠ other.key →
    (pair.discoveryTopics (newPublisher cfg).messages).Disjoint (other.discoveryTopics (newPublisher cfg).messages)
  ids : ∀ pair ∈ fleet.pairs, ∀ other ∈ fleet.pairs, pair.key ≠ other.key →
    pair.uniqueIDs.Disjoint other.uniqueIDs
  dispatched : ∀ pair ∈ fleet.pairs, ∀ payload,
    receive (newPublisher cfg) (routesOf (newPublisher cfg).messages.statePrefix fleet.nodes)
      (pair.command (newPublisher cfg).messages) payload = pair.request payload

/-- No two pairs share both slugs or the base id, no button has the text of one of another
    pair, and the names are trimmed and not empty. -/
structure Apart (fleet : Fleet F) : Prop where
  slugs : ∀ pair ∈ fleet.pairs, ∀ other ∈ fleet.pairs, pair.key ≠ other.key → pair.slugs ≠ other.slugs
  bases : ∀ pair ∈ fleet.pairs, ∀ other ∈ fleet.pairs, pair.key ≠ other.key → pair.base ≠ other.base
  buttons : ∀ pair ∈ fleet.pairs, ∀ other ∈ fleet.pairs, pair.key ≠ other.key → ¬ ButtonMoved pair other
  named : ∀ pair ∈ fleet.pairs, pair.Named

section Claim

variable {cfg : RuntimeConfig} {fleet : Fleet F}

theorem sensor_ne_button {messages : Config} {spec : EntitySpec} (member : spec ∈ specs) {command : CommandInfo} :
    (sensorMessage messages pair.node pair.ups spec).topic ≠
      (buttonMessage messages other.node other.ups command).topic := by
  intro same
  obtain ⟨free, sensor⟩ := component_free spec member
  exact sensor (discoveryTopic_inj free (by decide) same).1

theorem discovery_of_apart {messages : Config} (bases : pair.base ≠ other.base) (moved : ¬ ButtonMoved pair other)
    (moved' : ¬ ButtonMoved other pair) : (pair.discoveryTopics messages).Disjoint (other.discoveryTopics messages) := by
  simp only [List.disjoint_left, Pair.discoveryTopics, Pair.entities, List.map_append, List.map_map, List.mem_append,
    List.mem_map, Function.comp_apply]
  rintro topic (⟨spec, listed, rfl⟩ | ⟨command, listed, rfl⟩) (⟨spec', listed', same⟩ | ⟨command', listed', same⟩)
  · exact bases (base_of_sensors listed listed' same.symm)
  · exact sensor_ne_button listed same.symm
  · exact sensor_ne_button listed' same
  · obtain ⟨base, -⟩ | one | one := buttons_eq_iff.mp same
    · exact bases base.symm
    · exact moved' ⟨command', listed', command, listed, one⟩
    · exact moved ⟨command, listed, command', listed', one⟩

/-- An id begins with the base id, which has no hyphen. -/
theorem uniqueID_shape {id : String} (member : id ∈ pair.uniqueIDs) : ∃ rest,
    id.toList = pair.base.toList ++ '-' :: rest := by
  simp only [Pair.uniqueIDs, List.mem_append, List.mem_map] at member
  obtain ⟨spec, -, rfl⟩ | ⟨command, -, rfl⟩ := member
  · refine ⟨spec.objectID.toList, ?_⟩
    rw [String.toList_append, String.toList_append, List.append_assoc]
    rfl
  · refine ⟨"cmd-".toList ++ (slug command.name).toList, ?_⟩
    rw [String.toList_append, String.toList_append, List.append_assoc]
    rfl

theorem ids_of_apart (bases : pair.base ≠ other.base) : pair.uniqueIDs.Disjoint other.uniqueIDs := by
  rw [List.disjoint_left]
  intro id member member'
  obtain ⟨rest, shape⟩ := uniqueID_shape member
  obtain ⟨rest', shape'⟩ := uniqueID_shape member'
  have hyphen : Naming.isSeparator '-' = true := rfl
  have free : ∀ pair : Pair F, '-' ∉ pair.base.toList := fun pair =>
    separator_notMem_slug hyphen (pair.node.id ++ "-" ++ pair.ups.name)
  rw [shape, Naming.append_cons_inj (free pair) (free other)] at shape'
  exact bases (String.toList_inj.mp shape'.1)

theorem addressed_of_apart (apart : Apart fleet) : Addressed cfg fleet where
  state pair member other member' differ same := apart.slugs pair member other member' differ (state_eq_iff.mp same)
  command pair member other member' differ same :=
    apart.slugs pair member other member' differ (command_eq_iff.mp same)
  discovery pair member other member' differ :=
    discovery_of_apart (apart.bases pair member other member' differ) (apart.buttons pair member other member' differ)
      (apart.buttons other member' pair member differ.symm)
  ids pair member other member' differ := ids_of_apart (apart.bases pair member other member' differ)
  dispatched pair member payload := by
    obtain ⟨⟨node, nodeTrimmed⟩, ups, upsTrimmed⟩ := apart.named pair member
    have routed : pair.routed = true := by simp [Pair.routed, nodeTrimmed, upsTrimmed, node, ups]
    have found := route_of_pair (newPublisher cfg).messages.statePrefix member routed apart.slugs
    have topic : pair.command (newPublisher cfg).messages =
        commandTopic (newPublisher cfg).messages.statePrefix pair.node.id pair.ups.name := by
      rw [Pair.command, stateRoot_newPublisher]
    rw [← topic] at found
    rw [receive_command]
    by_cases blank : trimSpace payload = ""
    · simp [blank, Pair.request, accepted]
    · rw [if_neg blank, lookupRoute_routeOf found blank, Option.map_map, Pair.request]
      simp only [Function.comp_def, routeOf, nodeTrimmed, upsTrimmed]

theorem named_of_addressed (addressed : Addressed cfg fleet) (member : pair ∈ fleet.pairs) : pair.Named := by
  obtain ⟨payload, command, taken⟩ := exists_accepted pair.ups
  have request := addressed.dispatched pair member payload
  rw [receive_command, Pair.request, taken] at request
  split at request
  · cases request
  · -- the request names the UPS as its route does
    obtain ⟨target, found, same⟩ := Option.map_eq_some_iff.mp request
    obtain ⟨owner, routed, route⟩ := pair_of_route (route_of_lookup found)
    simp only [CommandRequest.mk.injEq, ← route, Pair.route, routeOf] at same
    obtain ⟨node, ups, -⟩ := same
    simp only [Pair.routed, Bool.and_eq_true, decide_eq_true_eq] at routed
    rw [Pair.Named, ← node, ← ups]
    exact ⟨⟨routed.1, trimSpace_trimSpace _⟩, routed.2, trimSpace_trimSpace _⟩

/-- The topics and ids address the UPSes exactly where these are apart. -/
theorem addressed_iff : Addressed cfg fleet ↔ Apart fleet := by
  refine ⟨fun addressed => ?_, addressed_of_apart⟩
  constructor
  · intro pair member other member' differ same
    exact addressed.state pair member other member' differ (state_eq_iff.mpr same)
  · intro pair member other member' differ same
    -- the ids of a sensor are the same
    have disjoint := List.disjoint_left.mp (addressed.ids pair member other member' differ)
    obtain ⟨spec, listed⟩ : ∃ spec, spec ∈ specs := ⟨_, List.mem_cons_self⟩
    have id : ∀ pair : Pair F, pair.base ++ "-" ++ spec.objectID ∈ pair.uniqueIDs := fun pair =>
      List.mem_append_left _ (List.mem_map_of_mem listed)
    have id' := id other
    rw [← same] at id'
    exact disjoint (id pair) id'
  · rintro pair member other member' differ ⟨command, listed, command', listed', moved⟩
    have disjoint := List.disjoint_left.mp (addressed.discovery pair member other member' differ)
    have topic : ∀ (pair : Pair F) command, command ∈ pair.ups.commands →
        (buttonMessage (newPublisher cfg).messages pair.node pair.ups command).topic ∈
          pair.discoveryTopics (newPublisher cfg).messages := fun pair command listed =>
      List.mem_map_of_mem (List.mem_append_right _ (List.mem_map_of_mem listed))
    have same : (buttonMessage (newPublisher cfg).messages pair.node pair.ups command).topic =
        (buttonMessage (newPublisher cfg).messages other.node other.ups command').topic :=
      buttons_eq_iff.mpr (.inr (.inl moved))
    have topic' := topic other command' listed'
    rw [← same] at topic'
    exact disjoint (topic pair command listed) topic'
  · intro pair member
    exact named_of_addressed addressed member

end Claim

/-- Nodes `rack-1` and `rack.1`, each with a UPS `ups`. -/
def twoRacks : Fleet Nat where
  nodes := [{ node := { id := "rack-1" }, upses := [{ name := "ups" }] },
    { node := { id := "rack.1" }, upses := [{ name := "ups" }] }]
  distinctNodes := by decide
  distinctUPSes := by decide

/-- A command on the topic of the first UPS reaches the second one. -/
theorem command_reaches_other_node :
    receive (newPublisher {}) (routesOf (newPublisher {}).messages.statePrefix twoRacks.nodes)
        (commandTopic "strom" "rack-1" "ups") "shutdown.return" =
      some { nodeID := "rack.1", upsName := "ups", command := "shutdown.return" } ∧
      ¬ ∀ (cfg : RuntimeConfig) (fleet : Fleet Nat), Addressed cfg fleet := by
  refine ⟨by decide +kernel, fun addressed => ?_⟩
  have differ := (addressed {} twoRacks).command { node := { id := "rack-1" }, ups := { name := "ups" } }
    (by simp [Fleet.pairs, twoRacks]) { node := { id := "rack.1" }, ups := { name := "ups" } }
    (by simp [Fleet.pairs, twoRacks]) (by decide)
  exact differ (by decide +kernel)

end Strom.Mqtt
