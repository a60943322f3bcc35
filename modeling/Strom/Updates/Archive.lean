import Strom.Go.Errors
import Strom.Go.Paths

/-!
# Release archives (`archive.go`)

`ExtractAgentBinary` over the entries that `archive/tar` reads from the
decompressed archive.  Decompression and the tar format are a given function.
-/

namespace Strom.Updates

open Strom.Go

def agentBinaryName : String := "strom-agent"

def maxBinarySize : Int := 256 * 1024 * 1024

/-- `tar.TypeReg`. -/
def tarTypeReg : Char := '0'

/-- A tar header, and what reading the entry's data yields. -/
structure TarEntry where
  name : String
  typeflag : Char
  size : Int
  data : Except GoError Bytes
deriving DecidableEq

/-- The entries `tarReader.Next` returns, and the error it ends with; `none` is
    `io.EOF`. -/
structure TarStream where
  entries : List TarEntry
  failure : Option GoError
deriving DecidableEq

/-- What `ExtractAgentBinary` takes from the standard library. -/
structure ArchiveFormat where
  sha256 : Bytes → Bytes
  /-- `gzip.NewReader` and the tar stream behind it. -/
  openArchive : Bytes → Except GoError TarStream
deriving Inhabited

/-- `io.ReadAll(io.LimitReader(tarReader, header.Size+1))`. -/
def TarEntry.readLimited (entry : TarEntry) : Except GoError Bytes :=
  entry.data.map fun content => content.take (entry.size + 1).toNat

/-- The body of the loop of `ExtractAgentBinary`: the binary in the entry, or `none`
    for an entry that is skipped.  `found` says whether an earlier entry held one. -/
def extractEntry (found : Bool) (entry : TarEntry) : Except GoError (Option Bytes) := do
  let cleanName := pathClean entry.name
  rejectIf ("../".toList.isPrefixOf cleanName.toList ∨ cleanName = ".." ∨ pathIsAbs cleanName)
    (.text ("archive entry " ++ quote entry.name ++ " escapes the archive root"))
  if pathBase cleanName ≠ agentBinaryName then
    return none
  rejectIf (entry.typeflag ≠ tarTypeReg)
    (.text ("archive entry " ++ quote entry.name ++ " has unsupported type " ++
      toString entry.typeflag.toNat ++ ", want a regular file"))
  rejectIf ((splitSlash cleanName).length ≠ 2)
    (.text ("archive entry " ++ quote entry.name ++ " is not at the expected <release-dir>/" ++
      agentBinaryName ++ " path"))
  rejectIf found (.text ("archive contains more than one " ++ agentBinaryName ++ " entry"))
  rejectIf (entry.size ≤ 0)
    (.text ("archive entry " ++ quote entry.name ++ " has invalid size " ++ toString entry.size))
  rejectIf (entry.size > maxBinarySize)
    (.text ("archive entry " ++ quote entry.name ++ " exceeds maximum binary size"))
  let content ← wrapError ("extract " ++ quote entry.name) entry.readLimited
  rejectIf ((content.length : Int) ≠ entry.size)
    (.text ("archive entry " ++ quote entry.name ++ " size mismatch"))
  return some content

/-- The loop of `ExtractAgentBinary`, with the binary found so far. -/
def extractEntries : Option Bytes → List TarEntry → Except GoError (Option Bytes)
  | binary, [] => .ok binary
  | binary, entry :: entries => do
    match ← extractEntry binary.isSome entry with
    | none => extractEntries binary entries
    | some content => extractEntries (some content) entries

/-- The tar stream read to its end: the binary in it, if there is one. -/
def TarStream.extract (stream : TarStream) : Except GoError (Option Bytes) := do
  let binary ← extractEntries none stream.entries
  match stream.failure with
  | some err => throw (.wrap "read tar entry" err)
  | none => return binary

def extractAgentBinary (format : ArchiveFormat) (archiveBytes : Bytes) (expectedSize : Int)
    (expectedArchiveSHA256 expectedBinarySHA256 : String) : Except GoError Bytes := do
  rejectIf ((archiveBytes.length : Int) ≠ expectedSize)
    (.text ("archive size " ++ toString archiveBytes.length ++ " does not match expected size " ++
      toString expectedSize))
  rejectIf (hexEncode (format.sha256 archiveBytes) ≠ toLower expectedArchiveSHA256)
    (.text "archive sha256 does not match manifest")
  let stream ← wrapError "open gzip archive" (format.openArchive archiveBytes)
  match ← stream.extract with
  | none => throw (.text ("archive does not contain a " ++ agentBinaryName ++ " executable"))
  | some binary =>
    rejectIf (hexEncode (format.sha256 binary) ≠ toLower expectedBinarySHA256)
      (.text "extracted binary sha256 does not match manifest")
    return binary

/-- What `ExtractAgentBinary` has checked when it returns a binary. -/
structure Extracted (format : ArchiveFormat) (archiveBytes : Bytes) (expectedSize : Int)
    (expectedArchiveSHA256 expectedBinarySHA256 : String) (binary : Bytes) : Prop where
  size : (archiveBytes.length : Int) = expectedSize
  archive : hexEncode (format.sha256 archiveBytes) = toLower expectedArchiveSHA256
  binary : hexEncode (format.sha256 binary) = toLower expectedBinarySHA256

theorem extracted_of_ok {format : ArchiveFormat} {archiveBytes : Bytes} {expectedSize : Int}
    {expectedArchiveSHA256 expectedBinarySHA256 : String} {binary : Bytes}
    (ok : extractAgentBinary format archiveBytes expectedSize expectedArchiveSHA256
      expectedBinarySHA256 = .ok binary) :
    Extracted format archiveBytes expectedSize expectedArchiveSHA256 expectedBinarySHA256 binary := by
  simp only [extractAgentBinary, except_bind_eq_ok, rejectIf_eq_ok, not_not] at ok
  obtain ⟨-, size, -, archive, stream, -, found, -, rest⟩ := ok
  cases found with
  | none => cases rest
  | some content =>
    obtain ⟨_, digest, same⟩ := except_bind_eq_ok.mp rest
    cases same
    exact ⟨size, archive, not_not.mp (rejectIf_eq_ok.mp digest)⟩

end Strom.Updates
