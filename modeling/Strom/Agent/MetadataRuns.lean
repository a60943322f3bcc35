import Strom.Agent.UpsMetadata

/-!
# Updates of the UPS labels (`updateUPSMetadata`)

An update saves the changed map and then keeps it in memory.  `WriteIfChanged` replaces the file by
a rename and sets its mode once more; where that last call fails, the save counts as failed, and
memory is left behind the file.  As long as no save fails there, the file loads as the map in
memory (`reload_agrees`).
-/

namespace Strom.Agent

open Strom.Go Strom.Collections

/-! ## The save -/

/-- The calls of `WriteIfChanged` that lead up to the new file, the rename included. -/
inductive SaveStep where
  | createParent
  | createTemp
  | writeTemp
  | chmodTemp
  | ownership
  | closeTemp
  | rename
deriving DecidableEq, Repr

def SaveStep.all : List SaveStep :=
  [.createParent, .createTemp, .writeTemp, .chmodTemp, .ownership, .closeTemp, .rename]

/-- The text that a failed call is wrapped with. -/
def SaveStep.context : SaveStep → String
  | .createParent => "create parent dir"
  | .createTemp => "create temp file"
  | .writeTemp => "write temp file"
  | .chmodTemp => "chmod temp file"
  | .ownership => "apply file ownership"
  | .closeTemp => "close temp file"
  | .rename => "rename temp file"

/-- How the calls of one save fail. -/
structure SaveFaults where
  read : Option GoError := none
  step : SaveStep → Option GoError := fun _ => none
  /-- The last call, behind the rename. -/
  chmod : Option GoError := none

namespace MetadataFile

/-- `os.ReadFile`; the file may not exist. -/
def readFile (fault : Option GoError) (file : Option (List Char)) : Except GoError (List Char) :=
  match fault, file with
  | some e, _ => .error e
  | none, none => .error (.os .notExist)
  | none, some content => .ok content

/-- The first failure up to the rename. -/
def stepFault (faults : SaveFaults) : Option GoError :=
  SaveStep.all.findSome? fun step => (faults.step step).map (.wrap step.context)

/-- The new file in the place of the old one. -/
def replaceFile (faults : SaveFaults) (content : List Char) (file : Option (List Char)) :
    Except GoError Bool × Option (List Char) :=
  match stepFault faults with
  | some e => (.error e, file)
  | none =>
    match faults.chmod with
    | some e => (.error (.wrap "chmod final file" e), some content)
    | none => (.ok true, some content)

/-- `WriteIfChanged`; contents with one hash are taken to be the same. -/
def writeIfChanged (faults : SaveFaults) (content : List Char) (file : Option (List Char)) :
    Except GoError Bool × Option (List Char) :=
  match readFile faults.read file with
  | .ok existing => if existing = content then (.ok false, file) else replaceFile faults content file
  | .error e =>
    if e.isNotExist then replaceFile faults content file
    else (.error (.wrap "read existing file" e), file)

end MetadataFile

/-- `saveUPSMetadata`. -/
def saveUPSMetadata (faults : SaveFaults) (metadata : MetadataMap) (file : Option (List Char)) :
    Except GoError Bool × Option (List Char) :=
  let (result, file) := MetadataFile.writeIfChanged faults (metadataText metadata) file
  (wrapError "write UPS metadata" result, file)

/-! ## The update -/

/-- The map of the service and its file. -/
structure MetadataService where
  upsMetadata : MetadataMap
  file : Option (List Char)

/-- A call of `updateUPSMetadata`, with the inventory at that time and what the system does. -/
structure MetadataUpdate where
  devices : List String
  name : String
  metadata : UpsMetadata
  faults : SaveFaults := {}

def isEmptyUPSMetadata (metadata : UpsMetadata) : Bool := metadata.displayName = "" && metadata.tags = []

/-- The map with the record of one name, or without one that is empty. -/
def nextMetadata (name : String) (normalized : UpsMetadata) (map : MetadataMap) : MetadataMap :=
  if isEmptyUPSMetadata normalized then map.filter fun entry => entry.1 ≠ name
  else modifyKey name (fun _ => normalized) map

def updateUPSMetadata (u : MetadataUpdate) (s : MetadataService) : Except GoError UpsMetadata × MetadataService :=
  if u.name ∉ u.devices then (.error (about errUPSNotFound u.name), s)
  else match normalizeUPSMetadata u.metadata with
    | .error e => (.error e, s)
    | .ok normalized =>
      let next := nextMetadata u.name normalized s.upsMetadata
      match saveUPSMetadata u.faults next s.file with
      | (.error e, file) => (.error e, { s with file })
      | (.ok _, file) => (.ok normalized, { upsMetadata := next, file })

/-- The service as it starts: a file that does not load leaves the map empty. -/
def startMetadata (file : Option (List Char)) : MetadataService where
  upsMetadata := ((loadUPSMetadata (MetadataFile.readFile none file)).toOption).getD []
  file

/-- The service after some calls, whatever they returned. -/
def runUpdates (updates : List MetadataUpdate) (s : MetadataService) : MetadataService :=
  updates.foldl (fun s u => (updateUPSMetadata u s).2) s

/-- The file loads, as the map in memory. -/
def InStep (s : MetadataService) : Prop :=
  ∃ reloaded, loadUPSMetadata (MetadataFile.readFile none s.file) = .ok reloaded ∧
    ∀ name, reloaded.lookup name = s.upsMetadata.lookup name

/-- The save gets as far as its last call, and that one fails. -/
def SaveFailsBehindRename (faults : SaveFaults) (content : List Char) (file : Option (List Char)) : Prop :=
  (∀ existing, MetadataFile.readFile faults.read file = .ok existing → existing ≠ content) ∧
  (∀ e, MetadataFile.readFile faults.read file = .error e → e.isNotExist = true) ∧
  MetadataFile.stepFault faults = none ∧ faults.chmod ≠ none

/-- The call replaces the file and then fails. -/
def FailsBehindRename (u : MetadataUpdate) (s : MetadataService) : Prop :=
  u.name ∈ u.devices ∧ ∃ normalized, normalizeUPSMetadata u.metadata = .ok normalized ∧
    SaveFailsBehindRename u.faults (metadataText (nextMetadata u.name normalized s.upsMetadata)) s.file

/-- No call of the run fails behind its rename. -/
def NoneFailsBehindRename : List MetadataUpdate → MetadataService → Prop
  | [], _ => True
  | u :: updates, s => ¬ FailsBehindRename u s ∧ NoneFailsBehindRename updates (updateUPSMetadata u s).2

/-! ## One save, one update -/

/-- A save writes the content, changes nothing, or fails behind the rename. -/
theorem writeIfChanged_cases (faults : SaveFaults) (content : List Char) (file : Option (List Char)) :
    (∃ changed, MetadataFile.writeIfChanged faults content file = (.ok changed, some content)) ∨
    (∃ e, MetadataFile.writeIfChanged faults content file = (.error e, file)) ∨
    SaveFailsBehindRename faults content file := by
  have replaces (differs : ∀ existing, MetadataFile.readFile faults.read file = .ok existing → existing ≠ content)
      (missing : ∀ e, MetadataFile.readFile faults.read file = .error e → e.isNotExist = true) :
      (∃ changed, MetadataFile.replaceFile faults content file = (.ok changed, some content)) ∨
      (∃ e, MetadataFile.replaceFile faults content file = (.error e, file)) ∨
      SaveFailsBehindRename faults content file := by
    unfold MetadataFile.replaceFile
    cases reached : MetadataFile.stepFault faults with
    | some e => exact .inr (.inl ⟨e, rfl⟩)
    | none =>
      cases last : faults.chmod with
      | some e => exact .inr (.inr ⟨differs, missing, reached, by simp [last]⟩)
      | none => exact .inl ⟨true, rfl⟩
  unfold MetadataFile.writeIfChanged
  cases read : MetadataFile.readFile faults.read file with
  | ok existing =>
    by_cases same : existing = content
    · subst same
      simp only [if_true]
      have whole : file = some existing := by
        unfold MetadataFile.readFile at read
        split at read
        · cases read
        · cases read
        · cases read
          rfl
      exact .inl ⟨false, by rw [whole]⟩
    · simp only [if_neg same]
      apply replaces
      · intro other found
        rw [read] at found
        cases found
        exact same
      · intro e found
        rw [read] at found
        cases found
  | error e =>
    by_cases missing : e.isNotExist = true
    · simp only [if_pos missing]
      apply replaces
      · intro other found
        rw [read] at found
        cases found
      · intro e' found
        rw [read] at found
        cases found
        exact missing
    · simp only [if_neg missing]
      exact .inr (.inl ⟨_, rfl⟩)

/-- An update is refused without a trace, stores its record in memory and in the file, or fails
    behind the rename. -/
theorem updateUPSMetadata_cases (u : MetadataUpdate) (s : MetadataService) :
    (∃ e, updateUPSMetadata u s = (.error e, s)) ∨
    (∃ normalized, normalizeUPSMetadata u.metadata = .ok normalized ∧ updateUPSMetadata u s =
      (.ok normalized, ⟨nextMetadata u.name normalized s.upsMetadata,
        some (metadataText (nextMetadata u.name normalized s.upsMetadata))⟩)) ∨
    FailsBehindRename u s := by
  unfold updateUPSMetadata
  by_cases known : u.name ∈ u.devices
  · rw [if_neg (not_not.mpr known)]
    cases accepted : normalizeUPSMetadata u.metadata with
    | error e => exact .inl ⟨e, rfl⟩
    | ok normalized =>
      obtain ⟨changed, written⟩ | ⟨e, refused⟩ | behind :=
        writeIfChanged_cases u.faults (metadataText (nextMetadata u.name normalized s.upsMetadata)) s.file
      · refine .inr (.inl ⟨normalized, rfl, ?_⟩)
        simp only [saveUPSMetadata, written]
        rfl
      · refine .inl ⟨.wrap "write UPS metadata" e, ?_⟩
        simp only [saveUPSMetadata, refused]
        rfl
      · exact .inr (.inr ⟨known, normalized, accepted, behind⟩)
  · rw [if_pos known]
    exact .inl ⟨_, rfl⟩

/-! ## The map in memory -/

/-- No name has two records, and every record is normalized. -/
structure Stored (map : MetadataMap) : Prop where
  nodup : (map.map (·.1)).Nodup
  normal : ∀ entry ∈ map, Normalized entry.2

theorem mem_modifyKey {Value : Type} {key : String} {value : Value} {map : List (String × Value)}
    {entry : String × Value} (inside : entry ∈ modifyKey key (fun _ => value) map) :
    entry ∈ map ∨ entry.2 = value := by
  induction map with
  | nil =>
    rw [modifyKey, List.mem_singleton] at inside
    exact .inr (by rw [inside])
  | cons first rest ih =>
    obtain ⟨other, old⟩ := first
    rw [modifyKey] at inside
    split at inside
    · obtain here | later := List.mem_cons.mp inside
      · exact .inr (by rw [here])
      · exact .inl (List.mem_cons_of_mem _ later)
    · obtain here | later := List.mem_cons.mp inside
      · exact .inl (by rw [here]; exact List.mem_cons_self)
      · exact (ih later).imp_left (List.mem_cons_of_mem _)

theorem Stored.next {map : MetadataMap} (stored : Stored map) {record : UpsMetadata} (normal : Normalized record)
    (name : String) : Stored (nextMetadata name record map) := by
  unfold nextMetadata
  split
  · refine ⟨stored.nodup.sublist (List.filter_sublist.map _), ?_⟩
    exact fun entry inside => stored.normal entry (List.mem_of_mem_filter inside)
  · refine ⟨nodup_modifyKey stored.nodup, ?_⟩
    intro entry inside
    obtain old | new := mem_modifyKey inside
    · exact stored.normal entry old
    · rw [new]
      exact normal

/-- Memory changes only by a whole next map. -/
theorem memory_update (u : MetadataUpdate) (s : MetadataService) :
    (updateUPSMetadata u s).2.upsMetadata = s.upsMetadata ∨
      ∃ normalized, normalizeUPSMetadata u.metadata = .ok normalized ∧
        (updateUPSMetadata u s).2.upsMetadata = nextMetadata u.name normalized s.upsMetadata := by
  unfold updateUPSMetadata
  split
  · exact .inl rfl
  · split
    · exact .inl rfl
    · next normalized accepted =>
      dsimp only
      split
      · exact .inl rfl
      · exact .inr ⟨normalized, accepted, rfl⟩

theorem Stored.update {s : MetadataService} (stored : Stored s.upsMetadata) (u : MetadataUpdate) :
    Stored (updateUPSMetadata u s).2.upsMetadata := by
  obtain same | ⟨normalized, accepted, next⟩ := memory_update u s
  · rw [same]
    exact stored
  · rw [next]
    exact stored.next (normalize_normalized accepted) u.name

/-- What has been saved loads as the map. -/
theorem Stored.inStep {map : MetadataMap} (stored : Stored map) : InStep ⟨map, some (metadataText map)⟩ := by
  have perm : (sortedEntries map).Perm map := List.mergeSort_perm _ _
  refine ⟨sortedEntries map, loadUPSMetadata_saved stored.nodup stored.normal, ?_⟩
  intro name
  apply Option.ext
  intro record
  have distinct : ((sortedEntries map).map (·.1)).Nodup := (perm.map _).nodup_iff.mpr stored.nodup
  rw [lookup_eq_some_iff_mem distinct, lookup_eq_some_iff_mem stored.nodup, perm.mem_iff]

/-! ## Starts and runs -/

theorem nodup_decodeMap {tree : Json.Tree} {map : MetadataMap} (decoded : decodeMap tree = some map) :
    (map.map (·.1)).Nodup := by
  have loop (members : List (String × Json.Tree)) (front : MetadataMap) (distinct : (front.map (·.1)).Nodup)
      (read : members.foldlM (fun map member =>
        (decodeRecord member.2).map fun record => modifyKey member.1 (fun _ => record) map) front = some map) :
      (map.map (·.1)).Nodup := by
    induction members generalizing front with
    | nil =>
      cases read
      exact distinct
    | cons member members ih =>
      rw [List.foldlM_cons] at read
      obtain ⟨after, first, later⟩ := Option.bind_eq_some_iff.mp read
      obtain ⟨record, -, same⟩ := Option.map_eq_some_iff.mp first
      rw [← same] at later
      exact ih _ (nodup_modifyKey distinct) later
  cases tree with
  | null =>
    cases decoded
    exact List.nodup_nil
  | object members => exact loop members [] List.nodup_nil decoded
  | bool _ | number _ | string _ | array _ => cases decoded

theorem stored_of_mapM {entries map : MetadataMap} (distinct : (entries.map (·.1)).Nodup)
    (validated : (entries.mapM fun entry => (wrapError ("validate UPS metadata for " ++ entry.1)
      (normalizeUPSMetadata entry.2)).map (entry.1, ·)) = .ok map) : Stored map := by
  have keys : map.map (·.1) = entries.map (·.1) ∧ ∀ entry ∈ map, Normalized entry.2 := by
    clear distinct
    induction entries generalizing map with
    | nil =>
      cases validated
      simp
    | cons entry entries ih =>
      rw [List.mapM_cons] at validated
      obtain ⟨first, one, rest⟩ := except_bind_eq_ok.mp validated
      obtain ⟨others, later, whole⟩ := except_bind_eq_ok.mp rest
      cases whole
      obtain ⟨sameKeys, normal⟩ := ih later
      cases accepted : normalizeUPSMetadata entry.2 with
      | error e =>
        rw [accepted] at one
        cases one
      | ok normalized =>
        rw [accepted] at one
        cases one
        refine ⟨?_, List.forall_mem_cons.mpr ⟨normalize_normalized accepted, normal⟩⟩
        simp only [List.map_cons, sameKeys]
  exact ⟨keys.1 ▸ distinct, keys.2⟩

theorem stored_of_load {content : Except GoError (List Char)} {map : MetadataMap}
    (loaded : loadUPSMetadata content = .ok map) : Stored map := by
  have empty : Stored [] := ⟨List.nodup_nil, by simp⟩
  unfold loadUPSMetadata at loaded
  split at loaded
  · split at loaded
    · cases loaded
      exact empty
    · cases loaded
  · cases loaded
    exact empty
  · split at loaded
    · cases loaded
    · next metadata decoded =>
      obtain ⟨tree, -, map'⟩ := Option.bind_eq_some_iff.mp decoded
      exact stored_of_mapM (nodup_decodeMap map') loaded

theorem stored_start (file : Option (List Char)) : Stored (startMetadata file).upsMetadata := by
  unfold startMetadata
  cases loaded : loadUPSMetadata (MetadataFile.readFile none file) with
  | ok map => exact stored_of_load loaded
  | error e => exact ⟨List.nodup_nil, by simp [Except.toOption]⟩

theorem stored_run (updates : List MetadataUpdate) {s : MetadataService} (stored : Stored s.upsMetadata) :
    Stored (runUpdates updates s).upsMetadata := by
  induction updates generalizing s with
  | nil => exact stored
  | cons u updates ih => exact ih (stored.update u)

/-- A file that loads at the start is in step with memory. -/
theorem inStep_start {file : Option (List Char)} {loaded : MetadataMap}
    (ok : loadUPSMetadata (MetadataFile.readFile none file) = .ok loaded) : InStep (startMetadata file) := by
  refine ⟨loaded, ok, ?_⟩
  intro name
  unfold startMetadata
  rw [ok]
  rfl

/-- An update that succeeds brings file and memory in step, whatever was before. -/
theorem inStep_of_ok {u : MetadataUpdate} {s : MetadataService} {normalized : UpsMetadata}
    (stored : Stored s.upsMetadata) (ok : (updateUPSMetadata u s).1 = .ok normalized)
    (whole : ¬ FailsBehindRename u s) : InStep (updateUPSMetadata u s).2 := by
  obtain ⟨e, refused⟩ | ⟨normalized', accepted, written⟩ | behind := updateUPSMetadata_cases u s
  · rw [refused] at ok
    cases ok
  · rw [written]
    exact (stored.next (normalize_normalized accepted) u.name).inStep
  · exact absurd behind whole

theorem InStep.update {u : MetadataUpdate} {s : MetadataService} (inStep : InStep s)
    (stored : Stored s.upsMetadata) (whole : ¬ FailsBehindRename u s) : InStep (updateUPSMetadata u s).2 := by
  obtain ⟨e, refused⟩ | ⟨normalized, accepted, written⟩ | behind := updateUPSMetadata_cases u s
  · rw [refused]
    exact inStep
  · rw [written]
    exact (stored.next (normalize_normalized accepted) u.name).inStep
  · exact absurd behind whole

theorem InStep.run {updates : List MetadataUpdate} {s : MetadataService} (inStep : InStep s)
    (stored : Stored s.upsMetadata) (whole : NoneFailsBehindRename updates s) : InStep (runUpdates updates s) := by
  induction updates generalizing s with
  | nil => exact inStep
  | cons u updates ih => exact ih (inStep.update stored whole.1) (stored.update u) whole.2

/-- Some update of the run succeeds. -/
def SomeSucceeds (updates : List MetadataUpdate) (s : MetadataService) : Prop :=
  ∃ front u back normalized, updates = front ++ u :: back ∧
    (updateUPSMetadata u (runUpdates front s)).1 = .ok normalized

theorem noneFails_append {front back : List MetadataUpdate} {s : MetadataService}
    (whole : NoneFailsBehindRename (front ++ back) s) : NoneFailsBehindRename back (runUpdates front s) := by
  induction front generalizing s with
  | nil => exact whole
  | cons u front ih => exact ih whole.2

/-- Normalization is idempotent; and in a run in which no save fails behind its rename, from a start whose file
    loads, or with some update that succeeds, the file loads as the map in memory. -/
theorem reload_agrees (metadata normalized : UpsMetadata) (file : Option (List Char))
    (updates : List MetadataUpdate) :
    (normalizeUPSMetadata metadata = .ok normalized → normalizeUPSMetadata normalized = .ok normalized) ∧
    (NoneFailsBehindRename updates (startMetadata file) →
      ((∃ loaded, loadUPSMetadata (MetadataFile.readFile none file) = .ok loaded) ∨
        SomeSucceeds updates (startMetadata file)) →
      InStep (runUpdates updates (startMetadata file))) := by
  refine ⟨normalize_normalized, ?_⟩
  intro whole start
  obtain ⟨loaded, ok⟩ | ⟨front, u, back, result, split, ok⟩ := start
  · exact (inStep_start ok).run (stored_start file) whole
  · subst split
    have rest := noneFails_append whole
    have stored := stored_run front (stored_start file)
    have here := inStep_of_ok stored ok rest.1
    have run : runUpdates (front ++ u :: back) (startMetadata file) =
        runUpdates back (updateUPSMetadata u (runUpdates front (startMetadata file))).2 := by
      simp [runUpdates]
    rw [run]
    exact here.run (stored.update u) rest.2

/-- A first label of a UPS whose save succeeds, on a node without a file. -/
theorem reload_agrees_of_label :
    InStep (runUpdates [⟨["ups1"], "ups1", ⟨"Rack", []⟩, {}⟩] (startMetadata none)) := by
  have whole : NoneFailsBehindRename [⟨["ups1"], "ups1", ⟨"Rack", []⟩, {}⟩] (startMetadata none) := by
    refine ⟨?_, trivial⟩
    intro fails
    obtain ⟨-, normalized, -, -, -, -, fault⟩ := fails
    exact fault rfl
  exact (reload_agrees {} {} none [⟨["ups1"], "ups1", ⟨"Rack", []⟩, {}⟩]).2 whole (.inl ⟨[], rfl⟩)

/-- The last call of the save fails: the file has the label, memory does not. -/
theorem failed_chmod_splits :
    ¬ InStep (runUpdates [⟨["ups1"], "ups1", ⟨"Rack", []⟩, { chmod := some (.os (.other "input/output error")) }⟩]
      (startMetadata none)) := by
  have accepted : normalizeUPSMetadata ⟨"Rack", []⟩ = .ok ⟨"Rack", []⟩ := by decide +kernel
  have update : (updateUPSMetadata ⟨["ups1"], "ups1", ⟨"Rack", []⟩,
      { chmod := some (.os (.other "input/output error")) }⟩ (startMetadata none)).2 =
        ⟨[], some (metadataText [("ups1", ⟨"Rack", []⟩)])⟩ := by
    simp only [updateUPSMetadata, accepted, List.mem_singleton, not_true_eq_false, if_false]
    rfl
  intro inStep
  obtain ⟨reloaded, loaded, same⟩ := inStep
  simp only [runUpdates, List.foldl_cons, List.foldl_nil, update] at loaded same
  have saved : loadUPSMetadata (.ok (metadataText [("ups1", ⟨"Rack", []⟩)])) =
      .ok (sortedEntries [("ups1", ⟨"Rack", []⟩)]) := by
    apply loadUPSMetadata_saved (by simp)
    intro entry inside
    rw [List.mem_singleton.mp inside]
    exact accepted
  have single : sortedEntries [("ups1", ⟨"Rack", []⟩)] = [("ups1", ⟨"Rack", []⟩)] := by simp [sortedEntries]
  rw [show MetadataFile.readFile none (some (metadataText [("ups1", ⟨"Rack", []⟩)])) =
    .ok (metadataText [("ups1", ⟨"Rack", []⟩)]) from rfl, saved, single] at loaded
  cases loaded
  have found := same "ups1"
  simp at found

end Strom.Agent
