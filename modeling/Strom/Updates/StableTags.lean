import Strom.Updates.CheckerSpec

/-!
# The tags that the pattern accepts (`version.go`, `checker.go`)

`IsStableVersion` matches the pattern, `ParseStableVersion` also converts the components to
`int`.  The two agree on exactly the tags whose components fit (`stable_agrees_iff_fits`).  The
comparison in `doCheck` relies on them to agree on the tag of the latest release: on a tag whose
components do not fit it fails.
-/

namespace Strom.Updates

open Strom.Go Strom.Effects

/-- The components of a tag that matches the pattern are `int`s. -/
def ComponentsFit (version : String) : Prop :=
  ∀ major minor patch, stableVersionPattern version = some (major, minor, patch) →
    digitsValue major ≤ maxInt ∧ digitsValue minor ≤ maxInt ∧ digitsValue patch ≤ maxInt

theorem wrapError_atoi_ok_iff (text : String) (digits : List Char) :
    (∃ n, wrapError text (atoi digits) = .ok n) ↔ digitsValue digits ≤ maxInt := by
  unfold atoi
  split
  · next fits => simp [fits]
  · next large =>
    simp only [large, iff_false, not_exists]
    intro n ok
    cases wrapError_eq_ok.mp ok

theorem stable_iff (version : String) :
    Stable version ↔ isStableVersion version = true ∧ ComponentsFit version := by
  unfold Stable parseStableVersion isStableVersion ComponentsFit
  cases shape : stableVersionPattern version with
  | none => simp
  | some components =>
    obtain ⟨major, minor, patch⟩ := components
    simp only [except_bind_eq_ok, Option.isSome_some, true_and]
    constructor
    · intro parses
      obtain ⟨parsed, first, one, second, two, third, three, -⟩ := parses
      intro _ _ _ same
      cases same
      exact ⟨(wrapError_atoi_ok_iff _ _).mp ⟨first, one⟩, (wrapError_atoi_ok_iff _ _).mp ⟨second, two⟩,
        (wrapError_atoi_ok_iff _ _).mp ⟨third, three⟩⟩
    · intro fits
      obtain ⟨one, two, three⟩ := fits major minor patch rfl
      obtain ⟨first, one⟩ := (wrapError_atoi_ok_iff "parse major version" major).mpr one
      obtain ⟨second, two⟩ := (wrapError_atoi_ok_iff "parse minor version" minor).mpr two
      obtain ⟨third, three⟩ := (wrapError_atoi_ok_iff "parse patch version" patch).mpr three
      exact ⟨_, first, one, second, two, third, three, rfl⟩

theorem agrees_iff_fits (version : String) :
    (isStableVersion version = true ↔ Stable version) ↔ ComponentsFit version := by
  rw [stable_iff]
  constructor
  · intro agrees
    cases matched : stableVersionPattern version with
    | none =>
      intro major minor patch found
      rw [matched] at found
      cases found
    | some components =>
      have stable : isStableVersion version = true := by rw [isStableVersion, matched]; rfl
      exact (agrees.mp stable).2
  · intro fits
    exact ⟨fun stable => ⟨stable, fits⟩, fun both => both.1⟩

/-- The release is one that `LatestRelease` has returned. -/
def LatestReturned (release : Release) : Prop :=
  ∃ (p : Platform) (client : GitHubClient) (w w' : CheckerWorld),
    execOnline (client.latestRelease p) w = (.ok release, w')

theorem LatestReturned.stable {release : Release} (returned : LatestReturned release) :
    isStableVersion release.tagName = true := by
  obtain ⟨p, client, w, w', ok⟩ := returned
  exact (GitHubClient.latestRelease_ok ok).2.1

/-- With a stable version installed the gate compares, and succeeds where the tag parses. -/
theorem nothingNewer_ok_iff {c : Checker} {release : Release} (installed : Stable c.installedVersion) :
    (∃ stop, c.nothingNewer release = .ok stop) ↔ Stable release.tagName := by
  obtain ⟨i, installedOk⟩ := installed
  unfold Checker.nothingNewer
  simp only [installedOk]
  cases candidateOk : parseStableVersion release.tagName with
  | ok candidate =>
    have stable : Stable release.tagName := ⟨candidate, candidateOk⟩
    simp only [isNewerStableVersion_ok candidateOk installedOk, wrapError_ok, Except.map, stable, iff_true]
    exact ⟨_, rfl⟩
  | error cause =>
    have unstable : ¬ Stable release.tagName := by
      intro stable
      obtain ⟨parsed, ok⟩ := stable
      rw [candidateOk] at ok
      cases ok
    simp only [unstable, iff_false, not_exists]
    intro stop ok
    simp [isNewerStableVersion, candidateOk, bind, Except.bind, Except.map] at ok

/-- The pattern and the parser agree on exactly the tags whose components fit, and with a stable
    version installed the comparison succeeds for exactly the latest releases that have such a tag. -/
theorem stable_agrees_iff_fits (version : String) (c : Checker) (release : Release) :
    ((isStableVersion version = true ↔ Stable version) ↔ ComponentsFit version) ∧
    (Stable c.installedVersion → LatestReturned release →
      ((∃ stop, c.nothingNewer release = .ok stop) ↔ ComponentsFit release.tagName)) := by
  constructor
  · exact agrees_iff_fits version
  · intro installed returned
    rw [nothingNewer_ok_iff installed, stable_iff]
    exact and_iff_right returned.stable

/-- A component of twenty digits matches the pattern and does not parse. -/
theorem long_component_matches_only :
    isStableVersion "v99999999999999999999.0.0" = true ∧ ¬ Stable "v99999999999999999999.0.0" := by
  decide +kernel

end Strom.Updates
