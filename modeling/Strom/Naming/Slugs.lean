import Strom.Go.Strings

/-!
# Slugs

The function behind the aliases of the aggregate server (`aggregateSlug`) and the topics
and ids of the MQTT messages (`slug`), whose texts are the same: blanks around the name are
cut, letters are lowered, separators become underscores, and underscores around the rest
are cut.  A slug is not empty, has no separator in it and no underscore at its ends; many
names share one.
-/

namespace Strom.Naming

open Strom.Go

/-- What the replacer turns into underscores. -/
def isSeparator (c : Char) : Bool := c = ' ' || c = '/' || c = '.' || c = ':' || c = '-'

/-- `strings.Trim(value, "_")`. -/
def trimUnderscores (value : List Char) : List Char := trimmed (· = '_') value

def slug (value : String) : String :=
  let replaced := (toLower (trimSpace value)).toList.map fun c => if isSeparator c then '_' else c
  if trimUnderscores replaced = [] then "item" else String.ofList (trimUnderscores replaced)

example : slug " Rack-A/UPS.1: " = "rack_a_ups_1" := by decide

example : slug "-_-" = "item" := by decide

/-! ## The shape of a slug -/

theorem slug_ne_empty (value : String) : slug value ≠ "" := by
  simp only [slug]
  split
  · decide
  · next nonempty =>
    intro empty
    apply nonempty
    simpa using congrArg String.toList empty

/-- A slug neither begins nor ends with an underscore. -/
theorem slug_ends (value : String) :
    (slug value).toList.head? ≠ some '_' ∧ (slug value).toList.getLast? ≠ some '_' := by
  simp only [slug]
  split
  · decide
  · rw [String.toList_ofList]
    constructor
    · intro first
      simpa using head?_trimmed _ '_' first
    · intro last
      simpa using getLast?_trimmed _ '_' last

theorem not_isSeparator_of_mem_slug {c : Char} {value : String} (member : c ∈ (slug value).toList) :
    isSeparator c = false := by
  simp only [slug] at member
  split at member
  · have item : c ∈ ['i', 't', 'e', 'm'] := member
    simp only [List.mem_cons, List.not_mem_nil, or_false] at item
    obtain rfl | rfl | rfl | rfl := item <;> rfl
  · rw [String.toList_ofList] at member
    obtain ⟨original, -, rfl⟩ := List.mem_map.mp (mem_of_mem_trimmed member)
    split
    · rfl
    · simp_all

/-! ## Two slugs with a doubled underscore between them -/

section Joined

variable {α : Type} {u : α} {a b a' b' : List α}

/-- The second pair is the first with the separator at another place: what lies between
    the two separators has moved over. -/
def Overlaps (u : α) (a b a' b' : List α) : Prop := ∃ w, a' = a ++ u :: u :: w ∧ b = w ++ u :: u :: b'

/-- A joined text determines its parts but for a separator inside of them. -/
theorem joined_eq_iff (last : a.getLast? ≠ some u) (last' : a'.getLast? ≠ some u) :
    a ++ u :: u :: b = a' ++ u :: u :: b' ↔
      (a = a' ∧ b = b') ∨ Overlaps u a b a' b' ∨ Overlaps u a' b' a b := by
  -- the separators are at one place, or the longer first part contains the shorter one's
  have shifted : ∀ {a b a' b' : List α}, a'.getLast? ≠ some u →
      (∃ c, a' = a ++ c ∧ u :: u :: b = c ++ u :: u :: b') →
        (a = a' ∧ b = b') ∨ Overlaps u a b a' b' := by
    intro a b a' b' last' longer
    obtain ⟨c, rfl, rest⟩ := longer
    match c with
    | [] => exact .inl ⟨by simp, by simpa using rest⟩
    | [v] =>
      have same : u = v := (List.cons.inj rest).1
      simp [same] at last'
    | v :: v' :: w =>
      simp only [List.cons_append, List.cons.injEq] at rest
      obtain ⟨first, second, rest⟩ := rest
      exact .inr ⟨w, by rw [← first, ← second], rest⟩
  constructor
  · intro same
    obtain longer | longer := List.append_eq_append_iff.mp same
    · obtain equal | overlap := shifted last' longer
      · exact .inl equal
      · exact .inr (.inl overlap)
    · obtain equal | overlap := shifted last longer
      · exact .inl ⟨equal.1.symm, equal.2.symm⟩
      · exact .inr (.inr overlap)
  · intro parts
    obtain ⟨rfl, rfl⟩ | ⟨w, rfl, rfl⟩ | ⟨w, rfl, rfl⟩ := parts <;> simp

/-- Texts without the separator before it are determined by the joined text. -/
theorem append_cons_inj (free : u ∉ a) (free' : u ∉ a') :
    a ++ u :: b = a' ++ u :: b' ↔ a = a' ∧ b = b' := by
  constructor
  · intro same
    have shifted : ∀ {a b a' b' : List α}, u ∉ a' → (∃ c, a' = a ++ c ∧ u :: b = c ++ u :: b') →
        a = a' ∧ b = b' := by
      rintro a b a' b' free' ⟨c, rfl, rest⟩
      cases c with
      | nil => exact ⟨by simp, by simpa using rest⟩
      | cons v c =>
        have first : u = v := (List.cons.inj rest).1
        simp [first] at free'
    obtain longer | longer := List.append_eq_append_iff.mp same
    · exact shifted free' longer
    · obtain ⟨heads, tails⟩ := shifted free longer
      exact ⟨heads.symm, tails.symm⟩
  · rintro ⟨rfl, rfl⟩
    rfl

end Joined

end Strom.Naming
