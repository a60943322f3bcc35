import Strom.Go.Urls

/-!
# Requests about nodes and UPSes (`api.ts`, the controller's `main.go`)

The web client builds the path of a request from a node id and a UPS name; the
browser makes a URL of it; the controller's mux and handlers take the path apart.
-/

namespace Strom.Routes

open Strom.Go

inductive Method where
  | get
  | post
  | patch
  | delete
  | other
deriving DecidableEq, Repr

inductive UPSAction where
  | detail
  | history
  | command
  | metadata
deriving DecidableEq, Repr

/-- What a request sets off, with the names that the handler has read. -/
inductive Operation where
  | listNodes
  | showNode (nodeID : Bytes)
  | showHealth (nodeID : Bytes)
  | adopt (nodeID : Bytes)
  | forget (nodeID : Bytes)
  | updateMetadata (nodeID : Bytes)
  | listUPSes (nodeID : Bytes)
  | ups (action : UPSAction) (nodeID upsName : Bytes)
  /-- It is answered with an error. -/
  | refused (status : Nat)
  /-- The mux redirects to the clean path. -/
  | redirected
  /-- Another handler answers. -/
  | elsewhere
deriving DecidableEq, Repr

structure Request where
  method : Method
  /-- The path as it is written, without the query. -/
  path : Bytes

/-! ## The client (`api.ts`) -/

/-- The path of a request about a node. -/
def nodePath (nodeID : String) (rest : Bytes) : Bytes :=
  utf8 "/api/nodes/" ++ encodeURIComponent nodeID ++ rest

/-- The path of a request about a UPS. -/
def upsPath (nodeID upsName : String) (rest : Bytes) : Bytes :=
  nodePath nodeID (utf8 "/ups/" ++ encodeURIComponent upsName ++ rest)

def fetchNode (nodeID : String) : Request := ⟨.get, nodePath nodeID []⟩

def fetchNodeHealth (nodeID : String) : Request := ⟨.get, nodePath nodeID (utf8 "/health")⟩

def fetchUPSDetail (nodeID upsName : String) : Request := ⟨.get, upsPath nodeID upsName []⟩

def fetchUPSHistory (nodeID upsName : String) : Request :=
  ⟨.get, upsPath nodeID upsName (utf8 "/history")⟩

def runUPSCommand (nodeID upsName : String) : Request :=
  ⟨.post, upsPath nodeID upsName (utf8 "/command")⟩

def updateUPSMetadata (nodeID upsName : String) : Request :=
  ⟨.patch, upsPath nodeID upsName (utf8 "/metadata")⟩

def adoptNode (nodeID : String) : Request := ⟨.post, nodePath nodeID (utf8 "/adopt")⟩

def forgetNode (nodeID : String) : Request := ⟨.delete, nodePath nodeID []⟩

def updateNode (nodeID : String) : Request := ⟨.patch, nodePath nodeID []⟩

/-! ## The browser -/

/-- A single-dot segment of a URL. -/
def isSingleDot (segment : Bytes) : Bool := [".", "%2e", "%2E"].map utf8 |>.contains segment

/-- A double-dot segment of a URL. -/
def isDoubleDot (segment : Bytes) : Bool :=
  ["..", ".%2e", ".%2E", "%2e.", "%2E.", "%2e%2e", "%2e%2E", "%2E%2e", "%2E%2E"].map utf8
    |>.contains segment

/-- The segments of a URL; `done` holds those gone through, the last one first. -/
def removeDots : (done : List Bytes) → (segments : List Bytes) → List Bytes
  | done, [] => done.reverse
  | done, segment :: rest =>
    let done :=
      if isDoubleDot segment then (if rest = [] then [] :: done.tail else done.tail)
      else if isSingleDot segment then (if rest = [] then [] :: done else done)
      else segment :: done
    removeDots done rest

/-- The path that is sent for a path that begins with a slash. -/
def urlPath (path : Bytes) : Bytes := joinPath ([] :: removeDots [] (splitPath path).tail)

/-! ## The handlers (`main.go`) -/

/-- `strings.TrimPrefix`. -/
def trimPrefix (s front : Bytes) : Bytes := if front.isPrefixOf s then s.drop front.length else s

/-- `strings.TrimSuffix`. -/
def trimSuffix (s back : Bytes) : Bytes :=
  if back.isSuffixOf s then s.take (s.length - back.length) else s

/-- `strings.Contains`. -/
def containsText (s part : Bytes) : Bool := decide (part <:+: s)

/-- `strings.TrimSpace(s) == ""`. -/
def isBlank (s : Bytes) : Bool := trimSpace (textOf s) = ""

def nodesPrefix : Bytes := utf8 "/api/nodes/"

/-- `handleNodeUPS`, as far as what it is about. -/
def handleNodeUPS (method : Method) (path : Bytes) : Operation :=
  if method ≠ .get ∧ method ≠ .post ∧ method ≠ .patch then .refused 405
  else
    match splitPath (trimPrefix path nodesPrefix) with
    | nodeID :: second :: parts =>
      if nodeID = [] ∨ second ≠ utf8 "ups" then .refused 404
      else
        match parts with
        | [] => .listUPSes nodeID
        | part :: parts =>
          match pathUnescape part with
          | none => .refused 400
          | some upsName =>
            if isBlank upsName then .refused 400
            else if parts = [utf8 "metadata"] then
              if method ≠ .patch then .refused 405 else .ups .metadata nodeID upsName
            else if parts = [] then .ups .detail nodeID upsName
            else if parts = [utf8 "command"] then .ups .command nodeID upsName
            else if parts = [utf8 "history"] then .ups .history nodeID upsName
            else .refused 404
    | _ => .refused 404

/-- The node id in front of a word at the end of a path. -/
def nodeIDBefore (word path : Bytes) : Bytes :=
  trimSuffix (trimSuffix (trimPrefix path nodesPrefix) word) [slash]

def handleAdoptNode (path : Bytes) : Operation :=
  let id := nodeIDBefore (utf8 "/adopt") path
  if id = [] then .refused 404 else .adopt id

/-- The node id of a path that ends with it. -/
def wholeNodeID (path : Bytes) : Bytes := trimSuffix (trimPrefix path nodesPrefix) [slash]

def handleForgetNode (path : Bytes) : Operation :=
  let id := wholeNodeID path
  if id = [] ∨ slash ∈ id then .refused 404 else .forget id

def handleUpdateNodeMetadata (path : Bytes) : Operation :=
  let id := wholeNodeID path
  if id = [] ∨ slash ∈ id then .refused 404 else .updateMetadata id

def handleTrustedNodeHealth (path : Bytes) : Operation :=
  let id := nodeIDBefore (utf8 "/health") path
  if id = [] then .refused 404 else .showHealth id

def handleNodes (method : Method) (path : Bytes) : Operation :=
  if method = .post ∧ (utf8 "/adopt").isSuffixOf path then handleAdoptNode path
  else if method = .patch ∧ containsText path (utf8 "/ups/") then handleNodeUPS method path
  else if method = .patch ∧ nodesPrefix.isPrefixOf path then handleUpdateNodeMetadata path
  else if method = .delete ∧ nodesPrefix.isPrefixOf path then handleForgetNode path
  else if method = .post ∧ containsText path (utf8 "/ups/") then handleNodeUPS method path
  else if method ≠ .get then .refused 405
  else if path = utf8 "/api/nodes" then .listNodes
  else if containsText path (utf8 "/ups") then handleNodeUPS method path
  else if (utf8 "/health").isSuffixOf path then handleTrustedNodeHealth path
  else
    let id := path.drop nodesPrefix.length
    if id = [] then .refused 404 else .showNode id

/-- Whether the mux redirects: there is a dot segment, or a slash is repeated. -/
def isUnclean (path : Bytes) : Bool :=
  let segments := (splitPath path).tail
  segments.any (fun segment => segment = utf8 "." || segment = utf8 "..") ||
    segments.dropLast.any (· = [])

/-- Whether the mux has `handleNodes` for the path: the patterns are `/api/nodes` and
    `/api/nodes/`, and are compared with the segments read. -/
def isNodesPath (path : Bytes) : Bool :=
  ((splitPath path).take 3).map pathUnescape = [some [], some (utf8 "api"), some (utf8 "nodes")]

/-- What the controller does with a request line. -/
def serveHTTP (method : Method) (path : Bytes) : Operation :=
  match pathUnescape path with
  | none => .refused 400
  | some decoded =>
    if isUnclean path then .redirected
    else if isNodesPath path then handleNodes method decoded
    else .elsewhere

/-- What becomes of a request of the client. -/
def Request.outcome (request : Request) : Operation := serveHTTP request.method (urlPath request.path)

example : (fetchUPSDetail "node 1" "ups-a").outcome =
    .ups .detail (utf8 "node 1") (utf8 "ups-a") := by
  decide +kernel

end Strom.Routes
