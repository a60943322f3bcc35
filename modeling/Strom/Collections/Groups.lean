import Mathlib.Data.List.Induction
import Mathlib.Data.List.Nodup

/-!
# Rows gathered by a key

A loop over rows that keeps one value a key, in a map by its entries: the value of a key is
what the rows with that key make of it, in their order (`lookup_gather`), and no key has two
values (`nodup_gather`).
-/

namespace Strom.Collections

variable {Key Value Row : Type} [DecidableEq Key]

/-- Replace the value of a key by one made of it; a new key comes last. -/
def modifyKey (key : Key) (change : Option Value → Value) : List (Key × Value) → List (Key × Value)
  | [] => [(key, change none)]
  | (other, value) :: rest =>
    if other = key then (other, change (some value)) :: rest
    else (other, value) :: modifyKey key change rest

/-- The value that some rows make, none without a row. -/
def collect (add : Option Value → Row → Value) (rows : List Row) : Option Value :=
  rows.foldl (fun value row => some (add value row)) none

/-- The map that the loop builds. -/
def gather (key : Row → Key) (add : Option Value → Row → Value) (rows : List Row) : List (Key × Value) :=
  rows.foldl (fun map row => modifyKey (key row) (fun value => add value row) map) []

theorem lookup_modifyKey (key other : Key) (change : Option Value → Value) (map : List (Key × Value)) :
    (modifyKey key change map).lookup other =
      if other = key then some (change (map.lookup key)) else map.lookup other := by
  induction map with
  | nil =>
    by_cases same : other = key
    · simp [modifyKey, same]
    · simp [modifyKey, same, List.lookup_cons, beq_eq_false_iff_ne.mpr same]
  | cons entry rest ih =>
    obtain ⟨name, value⟩ := entry
    by_cases here : name = key
    · subst here
      by_cases same : other = name
      · simp [modifyKey, same]
      · simp [modifyKey, same, List.lookup_cons, beq_eq_false_iff_ne.mpr same]
    · have apart : (key == name) = false := beq_eq_false_iff_ne.mpr (Ne.symm here)
      by_cases same : other = name
      · subst same
        simp [modifyKey, here]
      · have passes : (other == name) = false := beq_eq_false_iff_ne.mpr same
        simp only [modifyKey, if_neg here, List.lookup_cons, passes, ih, apart]

theorem keys_modifyKey (key : Key) (change : Option Value → Value) (map : List (Key × Value)) :
    (modifyKey key change map).map (·.1) =
      if key ∈ map.map (·.1) then map.map (·.1) else map.map (·.1) ++ [key] := by
  induction map with
  | nil => simp [modifyKey]
  | cons entry rest ih =>
    by_cases here : entry.1 = key
    · simp [modifyKey, here]
    · have apart : key ≠ entry.1 := Ne.symm here
      simp only [modifyKey, if_neg here, List.map_cons, ih, List.mem_cons, apart, false_or]
      split <;> simp

theorem nodup_modifyKey {key : Key} {change : Option Value → Value} {map : List (Key × Value)}
    (distinct : (map.map (·.1)).Nodup) : ((modifyKey key change map).map (·.1)).Nodup := by
  rw [keys_modifyKey]
  split
  · exact distinct
  · next absent =>
    apply List.Nodup.append distinct (List.nodup_singleton key)
    intro other inside new
    exact absent (List.mem_singleton.mp new ▸ inside)

section Gather

variable {key : Row → Key} {add : Option Value → Row → Value}

theorem nodup_gather (rows : List Row) : ((gather key add rows).map (·.1)).Nodup := by
  induction rows using List.reverseRecOn with
  | nil => simp [gather]
  | append_singleton rows row ih =>
    simp only [gather, List.foldl_append, List.foldl_cons, List.foldl_nil] at ih ⊢
    exact nodup_modifyKey ih

/-- A key has the value that its own rows make. -/
theorem lookup_gather (rows : List Row) (k : Key) :
    (gather key add rows).lookup k = collect add (rows.filter fun row => key row = k) := by
  induction rows using List.reverseRecOn with
  | nil => rfl
  | append_singleton rows row ih =>
    have last : gather key add (rows ++ [row]) =
        modifyKey (key row) (fun value => add value row) (gather key add rows) := by
      simp [gather]
    rw [last, lookup_modifyKey]
    by_cases same : k = key row
    · subst same
      simp [ih, collect, List.filter_append]
    · have apart : key row ≠ k := Ne.symm same
      simp [same, apart, ih, List.filter_append]

end Gather

/-- Without a key twice the entries are what the lookup finds. -/
theorem lookup_eq_some_iff_mem {map : List (Key × Value)} (distinct : (map.map (·.1)).Nodup) {key : Key}
    {value : Value} : map.lookup key = some value ↔ (key, value) ∈ map := by
  induction map with
  | nil => simp
  | cons entry rest ih =>
    obtain ⟨name, first⟩ := entry
    obtain ⟨absent, distinct⟩ := List.nodup_cons.mp distinct
    by_cases same : key = name
    · subst same
      have later : (key, value) ∉ rest := fun inside => absent (List.mem_map.mpr ⟨_, inside, rfl⟩)
      simp [later, eq_comm]
    · have passes : (key == name) = false := beq_eq_false_iff_ne.mpr same
      simp [List.lookup_cons, passes, same, ih distinct]

theorem mem_gather {key : Row → Key} {add : Option Value → Row → Value} {rows : List Row} {k : Key} {value : Value} :
    (k, value) ∈ gather key add rows ↔ collect add (rows.filter fun row => key row = k) = some value := by
  rw [← lookup_gather, lookup_eq_some_iff_mem (nodup_gather rows)]

/-- What the first row of a key makes and every later row keeps holds of its value. -/
theorem collect_induction {add : Option Value → Row → Value} {P : Value → Prop} {rows : List Row}
    (first : ∀ row ∈ rows, P (add none row)) (later : ∀ value, ∀ row ∈ rows, P value → P (add (some value) row))
    {value : Value} (made : collect add rows = some value) : P value := by
  induction rows using List.reverseRecOn generalizing value with
  | nil => cases made
  | append_singleton rows row ih =>
    simp only [collect, List.foldl_append, List.foldl_cons, List.foldl_nil, Option.some.injEq] at made
    subst made
    cases before : rows.foldl (fun value row => some (add value row)) none with
    | none => exact first row (by simp)
    | some value =>
      have held := ih (fun row inside => first row (List.mem_append_left _ inside))
        (fun value row inside => later value row (List.mem_append_left _ inside)) before
      exact later value row (by simp) held

/-- A value that begins with its first row. -/
theorem collect_cons (start : Row → Value) (step : Value → Row → Value) (first : Row) (rest : List Row) :
    collect (fun value row => step (value.getD (start row)) row) (first :: rest) =
      some ((first :: rest).foldl step (start first)) := by
  have later (rows : List Row) (value : Value) :
      rows.foldl (fun value row => some (step (value.getD (start row)) row)) (some value) =
        some (rows.foldl step value) := by
    induction rows generalizing value with
    | nil => rfl
    | cons row rows ih => exact ih (step value row)
  exact later rest (step (start first) first)

end Strom.Collections
