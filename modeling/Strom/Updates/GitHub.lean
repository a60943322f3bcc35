import Strom.Effects.Trace
import Strom.Updates.Archive
import Strom.Updates.Manifest
import Strom.Updates.StoreSpec

/-!
# The release server (`github.go`)

`GitHubClient` fetches release metadata and assets.  A request is an operation
whose reply the server chooses freely; `getBounded` is all that stands between
the reply and the rest of the code.  `CheckerOp` also lists the methods of `Store`
that the checker calls.
-/

namespace Strom.Updates

open Strom.Go Strom.Effects

def defaultGitHubAPIBaseURL : String := "https://api.github.com"
def defaultRepository : String := "Foehammer82/strom"
def userAgentPrefix : String := "strom-agent-updates"
def maxReleaseResponseBytes : Nat := 2 * 1024 * 1024
def maxAssetBytes : Nat := 128 * 1024 * 1024

structure ReleaseAsset where
  name : String
  browserDownloadURL : String
deriving DecidableEq, Repr

structure Release where
  tagName : String
  draft : Bool
  prerelease : Bool
  htmlURL : String
  assets : List ReleaseAsset
deriving DecidableEq, Repr

def Release.assetByName (r : Release) (name : String) : Option ReleaseAsset :=
  r.assets.find? fun asset => asset.name = name

structure ParsedURL where
  scheme : String
  hostname : String

/-- The target the binary is built for, and what it takes from the standard library. -/
structure Platform where
  /-- `runtime.GOOS`. -/
  goos : String
  /-- `runtime.GOARCH`. -/
  goarch : String
  ed25519Verify : Bytes → Bytes → Bytes → Bool
  format : ArchiveFormat
  decodeRelease : Bytes → Except GoError Release
  decodeManifest : Bytes → Except GoError Manifest
  /-- `url.Parse`. -/
  parseURL : String → Except GoError ParsedURL
deriving Inhabited

/-! ## Requests and replies -/

structure HttpRequest where
  url : String
  accept : String
  userAgent : String
deriving DecidableEq, Repr

inductive HttpReply where
  /-- `http.NewRequestWithContext` refused the URL. -/
  | malformed (err : GoError)
  | failed (err : GoError)
  /-- A response whose body yields `body` and then ends with `readError`, or with
      the end of the body. -/
  | response (status : Nat) (contentLength : Int) (body : Bytes) (readError : Option GoError)

inductive CheckerOp where
  | get (request : HttpRequest)
  | readStatus
  | writeStatus (status : PersistedStatus)
  | now
  | stageAndActivate (version : String) (binary : Bytes)
deriving DecidableEq

@[reducible] def CheckerOp.Reply : CheckerOp → Type
  | .get _ => HttpReply
  | .readStatus => Except GoError PersistedStatus
  | .writeStatus _ => Except GoError Unit
  | .now => Time
  | .stageAndActivate _ _ => Except GoError Unit

abbrev CheckerProgram := Program CheckerOp CheckerOp.Reply
abbrev CheckerAction := Action CheckerOp CheckerOp.Reply GoError

/-- A node and its release server: `replies n` is what the server answers to the
    `n`-th request. -/
structure CheckerWorld where
  machine : Machine
  replies : Nat → HttpReply
  requests : Nat := 0

/-- A method of `Store`, run to its end on the node. -/
def CheckerWorld.call {α : Type} (w : CheckerWorld) (x : StoreAction α) :
    Except GoError α × CheckerWorld :=
  ((exec x w.machine).1, { w with machine := (exec x w.machine).2 })

def checkerHandler : Handler CheckerOp CheckerOp.Reply CheckerWorld
  | .get _, w => (w.replies w.requests, { w with requests := w.requests + 1 })
  | .readStatus, w => w.call Updates.readStatus
  | .writeStatus status, w => w.call (Updates.writeStatus status)
  | .now, w => (w.machine.clock w.machine.reads,
      { w with machine := { w.machine with reads := w.machine.reads + 1 } })
  | .stageAndActivate version binary, w => w.call (Updates.stageAndActivate version binary)

/-- `fmt.Errorf("context: %w", err)` around the error of an action. -/
def context {α : Type} (text : String) (x : CheckerAction α) : CheckerAction α :=
  x.mapError (.wrap text)

/-! ## The client -/

def isAllowedAssetHost (host : String) : Bool :=
  let host := toLower host
  host = "github.com" || ".githubusercontent.com".toList.isSuffixOf host.toList
    || ".github.com".toList.isSuffixOf host.toList

def validateDownloadURL (p : Platform) (rawURL : String) : Except GoError Unit := do
  let parsed ← wrapError "parse download URL" (p.parseURL rawURL)
  rejectIf (parsed.scheme ≠ "https")
    (.text ("download URL must use https, got " ++ quote parsed.scheme))
  rejectIf (isAllowedAssetHost parsed.hostname = false)
    (.text ("download URL host " ++ quote parsed.hostname ++
      " is not an approved GitHub asset host"))

structure GitHubClient where
  baseURL : String := ""
  repository : String := ""
  agentVersion : String := ""
  /-- The field `ValidateDownloadURL`; `none` is nil. -/
  validate : Option (String → Except GoError Unit) := none

namespace GitHubClient

variable (c : GitHubClient)

def baseURLOrDefault : String :=
  if trimSpace c.baseURL ≠ "" then
    String.ofList ((c.baseURL.toList.reverse.dropWhile (· = '/')).reverse)
  else defaultGitHubAPIBaseURL

def repositoryOrDefault : String :=
  if trimSpace c.repository ≠ "" then c.repository else defaultRepository

def userAgent : String :=
  let version := trimSpace c.agentVersion
  userAgentPrefix ++ "/" ++ if version = "" then "dev" else version

/-- `io.ReadAll(io.LimitReader(response.Body, limit+1))`: a body that is too long hides the
    error it ends with. -/
def readLimited (limit : Nat) (body : Bytes) (readError : Option GoError) : Except GoError Bytes :=
  if body.length ≤ limit then
    match readError with
    | some err => .error err
    | none => .ok body
  else .ok (body.take (limit + 1))

/-- What `getBounded` makes of a reply. -/
def bounded (requestURL : String) (limit : Nat) : HttpReply → Except GoError Bytes
  | .malformed err => .error (.wrap ("build request for " ++ requestURL) err)
  | .failed err => .error (.wrap ("request " ++ requestURL) err)
  | .response status contentLength body readError => do
    rejectIf (status = 403 ∨ status = 429)
      (.text ("GitHub rate limit or access denied (status " ++ toString status ++ ") for " ++
        requestURL))
    rejectIf (status ≠ 200)
      (.text ("unexpected status " ++ toString status ++ " for " ++ requestURL))
    rejectIf (contentLength > limit)
      (.text ("response for " ++ requestURL ++ " exceeds " ++ toString limit ++ " byte limit"))
    let content ← wrapError ("read response for " ++ requestURL) (readLimited limit body readError)
    rejectIf (content.length > limit)
      (.text ("response for " ++ requestURL ++ " exceeds " ++ toString limit ++ " byte limit"))
    return content

def getBounded (requestURL : String) (limit : Nat) : CheckerAction Bytes := do
  let reply ← Action.always (.perform (CheckerOp.get
    { url := requestURL, accept := "application/vnd.github+json", userAgent := c.userAgent }))
  Action.ofExcept (bounded requestURL limit reply)

/-- The checks of `LatestRelease` on a decoded release. -/
def checkRelease (release : Release) : Except GoError Unit := do
  rejectIf release.draft (.text ("latest release " ++ release.tagName ++ " is a draft"))
  rejectIf release.prerelease
    (.text ("latest release " ++ release.tagName ++ " is a prerelease"))
  rejectIf (isStableVersion release.tagName = false)
    (.text ("latest release tag " ++ quote release.tagName ++
      " is not a stable vMAJOR.MINOR.PATCH version"))

def latestRelease (p : Platform) : CheckerAction Release := do
  let body ← c.getBounded
    (c.baseURLOrDefault ++ "/repos/" ++ c.repositoryOrDefault ++ "/releases/latest")
    maxReleaseResponseBytes
  let release ← Action.ofExcept
    (wrapError "decode GitHub release response" (p.decodeRelease body))
  Action.ofExcept (checkRelease release)
  return release

def downloadAsset (p : Platform) (downloadURL : String) : CheckerAction Bytes := do
  Action.ofExcept ((c.validate.getD (validateDownloadURL p)) downloadURL)
  c.getBounded downloadURL maxAssetBytes

end GitHubClient

/-! ## What the client returns -/

/-- The body of a reply that carries a whole one. -/
def HttpReply.body? : HttpReply → Option Bytes
  | .response _ _ body none => some body
  | _ => none

theorem GitHubClient.bounded_eq_ok {requestURL : String} {limit : Nat} {reply : HttpReply}
    {body : Bytes} (ok : bounded requestURL limit reply = .ok body) : reply.body? = some body := by
  cases reply with
  | malformed err => cases ok
  | failed err => cases ok
  | response status contentLength content readError =>
    simp only [bounded, except_bind_eq_ok, rejectIf_eq_ok] at ok
    obtain ⟨_, -, _, -, _, -, whole, read, -, short, same⟩ := ok
    cases same
    rw [wrapError_eq_ok] at read
    unfold readLimited at read
    split at read
    · cases readError with
      | none => cases read; rfl
      | some err => cases read
    · next long =>
      -- one byte more than the limit has been read
      cases read
      rw [List.length_take] at short
      omega

/-- Run an action of the checker to its end. -/
abbrev execOnline {α : Type} (x : CheckerAction α) (w : CheckerWorld) :
    Except GoError α × CheckerWorld :=
  Action.exec checkerHandler x w

@[simp] theorem execOnline_context {α : Type} (text : String) (x : CheckerAction α)
    (w : CheckerWorld) :
    execOnline (context text x) w = (wrapError text (execOnline x w).1, (execOnline x w).2) :=
  Action.exec_mapError ..

/-- The world after one more request. -/
def CheckerWorld.requested (w : CheckerWorld) : CheckerWorld := { w with requests := w.requests + 1 }

namespace GitHubClient

variable {c : GitHubClient} {p : Platform} {w w' : CheckerWorld}

theorem exec_getBounded (c : GitHubClient) (url : String) (limit : Nat) (w : CheckerWorld) :
    execOnline (c.getBounded url limit) w =
      (bounded url limit (w.replies w.requests), w.requested) := by
  simp [execOnline, getBounded, checkerHandler, CheckerWorld.requested]

theorem latestRelease_ok {release : Release}
    (ok : execOnline (c.latestRelease p) w = (.ok release, w')) :
    w' = w.requested ∧ isStableVersion release.tagName = true ∧
      ∃ body, (w.replies w.requests).body? = some body ∧ p.decodeRelease body = .ok release := by
  obtain ⟨body, t, fetched, rest⟩ := Action.exec_bind_ok _ ok
  obtain ⟨decoded, t', decode, rest⟩ := Action.exec_bind_ok _ rest
  obtain ⟨_, t'', checks, rest⟩ := Action.exec_bind_ok _ rest
  rw [← execOnline, exec_getBounded, Prod.mk.injEq] at fetched
  rw [Action.exec_ofExcept, Prod.mk.injEq] at decode checks
  obtain ⟨fetched, rfl⟩ := fetched
  obtain ⟨decode, rfl⟩ := decode
  obtain ⟨checks, rfl⟩ := checks
  cases rest
  simp only [checkRelease, except_bind_eq_ok, rejectIf_eq_ok, Bool.not_eq_false] at checks
  obtain ⟨_, -, _, -, stable⟩ := checks
  exact ⟨rfl, stable, body, bounded_eq_ok fetched, wrapError_eq_ok.mp decode⟩

theorem downloadAsset_ok {url : String} {content : Bytes}
    (ok : execOnline (c.downloadAsset p url) w = (.ok content, w')) :
    w' = w.requested ∧ (w.replies w.requests).body? = some content := by
  obtain ⟨_, t, valid, rest⟩ := Action.exec_bind_ok _ ok
  rw [Action.exec_ofExcept, Prod.mk.injEq] at valid
  obtain ⟨-, rfl⟩ := valid
  rw [← execOnline, exec_getBounded, Prod.mk.injEq] at rest
  exact ⟨rest.2.symm, bounded_eq_ok rest.1⟩

end GitHubClient

end Strom.Updates
