import Strom.Go.Strings

/-!
# Go's `path` package

The lexical operations on slash-separated paths that the code uses.
-/

namespace Strom.Go

/-- `strings.Split(s, "/")`. -/
def splitSlash (s : String) : List String :=
  (s.toList.splitOn '/').map String.ofList

def joinSlash (segments : List String) : String := "/".intercalate segments

/-- `path.IsAbs`. -/
def pathIsAbs (p : String) : Bool := p.toList.head? = some '/'

/-- The elements of a path after lexical processing; `done` holds those gone
    through, the last one first. -/
def cleanSegments (rooted : Bool) : (done : List String) → (segments : List String) → List String
  | done, [] => done.reverse
  | done, segment :: segments =>
    if segment = "" ∨ segment = "." then cleanSegments rooted done segments
    else if segment = ".." then
      match done with
      | [] => cleanSegments rooted (if rooted then [] else [".."]) segments
      | last :: before =>
        if last = ".." then cleanSegments rooted (".." :: done) segments
        else cleanSegments rooted before segments
    else cleanSegments rooted (segment :: done) segments

/-- `path.Clean`. -/
def pathClean (p : String) : String :=
  let segments := cleanSegments (pathIsAbs p) [] (splitSlash p)
  if pathIsAbs p then "/" ++ joinSlash segments
  else if segments = [] then "."
  else joinSlash segments

/-- `path.Base`. -/
def pathBase (p : String) : String :=
  if p = "" then "."
  else ((splitSlash p).filter (· ≠ "")).getLast?.getD "/"

example : pathClean "./strom-agent_v1/../strom-agent_v2//strom-agent" = "strom-agent_v2/strom-agent" := by
  decide

end Strom.Go
