import Mathlib.Data.List.Flatten
import Mathlib.Data.List.Nodup
import Mathlib.Logic.Function.Basic

/-!
# Lists with distinct keys

What a search for a key finds, and what a map holds that is filled key by key.  The
children of parents with distinct names, themselves distinct under each parent, are told
apart by both names (`nodup_pairs`).
-/

namespace Strom.Naming

variable {α β κ γ : Type}

theorem find_of_nodup [DecidableEq κ] {key : α → κ} {l : List α} (distinct : (l.map key).Nodup)
    {a : α} (member : a ∈ l) : l.find? (fun b => key b = key a) = some a := by
  cases found : l.find? (fun b => key b = key a) with
  | none =>
    rw [List.find?_eq_none] at found
    simpa using found a member
  | some b =>
    have same : key b = key a := by simpa using List.find?_some found
    rw [List.inj_on_of_nodup_map distinct (List.mem_of_find?_eq_some found) member same]

section Filled

variable [DecidableEq κ] {key : α → κ} {value : α → γ} {l : List α} {a : α}

theorem foldl_update_of_notMem {k : κ} (missing : k ∉ l.map key) (start : κ → γ) :
    (l.foldl (fun map a => Function.update map (key a) (value a)) start) k = start k := by
  induction l generalizing start with
  | nil => rfl
  | cons b l ih =>
    simp only [List.map_cons, List.mem_cons, not_or] at missing
    rw [List.foldl_cons, ih missing.2, Function.update_of_ne missing.1]

/-- An entry of a map that is filled with distinct keys stays. -/
theorem foldl_update_of_nodup (distinct : (l.map key).Nodup) (member : a ∈ l) (start : κ → γ) :
    (l.foldl (fun map a => Function.update map (key a) (value a)) start) (key a) = value a := by
  induction l generalizing start with
  | nil => cases member
  | cons b l ih =>
    obtain ⟨fresh, distinct⟩ := List.nodup_cons.mp distinct
    rw [List.foldl_cons]
    cases member with
    | head => rw [foldl_update_of_notMem fresh, Function.update_self]
    | tail _ member => exact ih distinct member _

/-- The entries are all that the map holds. -/
theorem foldl_update_cases (key : α → κ) (value : α → γ) (l : List α) (k : κ) (start : κ → γ) :
    (l.foldl (fun map a => Function.update map (key a) (value a)) start) k = start k ∨
      ∃ a ∈ l, key a = k ∧ (l.foldl (fun map a => Function.update map (key a) (value a)) start) k = value a := by
  induction l generalizing start with
  | nil => exact .inl rfl
  | cons b l ih =>
    rw [List.foldl_cons]
    obtain kept | ⟨a, member, same, holds⟩ := ih (Function.update start (key b) (value b))
    · by_cases same : k = key b
      · subst same
        rw [Function.update_self] at kept
        exact .inr ⟨b, List.mem_cons_self, rfl, kept⟩
      · rw [Function.update_of_ne same] at kept
        exact .inl kept
    · exact .inr ⟨a, List.mem_cons_of_mem _ member, same, holds⟩

end Filled

/-- The pairs of a parent's name and a child's. -/
theorem nodup_pairs {parents : List α} {children : α → List β} {parent : α → κ} {child : β → γ}
    (distinct : (parents.map parent).Nodup) (apart : ∀ a ∈ parents, ((children a).map child).Nodup) :
    (parents.flatMap fun a => (children a).map fun b => (parent a, child b)).Nodup := by
  refine List.nodup_flatMap.mpr ⟨fun a member => ?_, ?_⟩
  · have pairs : (children a).map (fun b => (parent a, child b)) = ((children a).map child).map (Prod.mk (parent a)) := by
      simp [Function.comp_def]
    rw [pairs]
    exact (apart a member).map fun b c same => (Prod.mk.inj same).2
  · -- the pairs of different parents differ in the parent
    refine (List.pairwise_map.mp distinct).imp fun {first second} differ => ?_
    simp only [Function.onFun, List.disjoint_left, List.mem_map]
    intro pair inFirst inSecond
    obtain ⟨b, -, rfl⟩ := inFirst
    obtain ⟨c, -, same⟩ := inSecond
    exact differ (Prod.mk.inj same).1.symm

end Strom.Naming
