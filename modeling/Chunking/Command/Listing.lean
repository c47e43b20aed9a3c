/-
What the commands print: versions and their chunks, summaries, statistics and
the configuration. Each is a text for people or a piece of JSON, and always ends
with a line break.
-/

import Chunking.Command.Arguments
import Chunking.Index
import Chunking.Json.Printer
import Chunking.Text.Visible
import Chunking.Workspace.Config.Json

namespace Chunking.Listing

/-- Lines with their line breaks. -/
def unlines (lines : List String) : String :=
  String.join (lines.map (· ++ "\n"))

def spaces (count : Nat) : String :=
  String.ofList (List.replicate count ' ')

/-- Fills a text up with spaces on the left. -/
def padLeft (width : Nat) (text : String) : String :=
  spaces (width - text.length) ++ text

/-- Fills a text up with spaces on the right. -/
def padRight (width : Nat) (text : String) : String :=
  text ++ spaces (width - text.length)

/-! ### Versions -/

/-- The two lines of a chunk. -/
def chunkLines (chunk : Chunk) : List String :=
  let name := if chunk.name == "" then "<anonymous>" else chunk.name
  ["  " ++ padLeft 5 (toString chunk.span.startLine) ++ "-"
      ++ padRight 5 (toString chunk.span.endLine) ++ " " ++ padRight 10 chunk.kind.tag ++ " "
      ++ padRight 30 name ++ " " ++ chunk.confidence.fixedText 2,
    "              id: " ++ chunk.id]

def versionLines (version : Version) : List String :=
  let recovered := if version.recovered then ", recovered" else ""
  let header := version.file ++ " (" ++ version.language.name ++ ", "
    ++ toString version.lineCount ++ " lines, " ++ toString version.chunks.length ++ " chunks"
    ++ recovered ++ ")"
  header :: if version.chunks.isEmpty then ["  No chunks."] else version.chunks.flatMap chunkLines

def version (format : OutputFormat) (version : Version) : String :=
  match format with
  | .json => version.toJson.compact ++ "\n"
  | .text => unlines (versionLines version)

/-! ### Summaries -/

def summaryJson (summary : Index.Summary) : Json :=
  .object [("files", .nat summary.files), ("updated", .nat summary.updated),
    ("unchanged", .nat summary.unchanged), ("removed", .nat summary.removed),
    ("failed", .strings summary.failed), ("chunks", .nat summary.chunks)]

def summary (format : OutputFormat) (summary : Index.Summary) : String :=
  match format with
  | .json => (summaryJson summary).pretty ++ "\n"
  | .text => unlines (["✓ Index complete",
      "  Files: " ++ toString summary.files,
      "  Updated: " ++ toString summary.updated,
      "  Unchanged: " ++ toString summary.unchanged,
      "  Removed: " ++ toString summary.removed,
      "  Chunks: " ++ toString summary.chunks]
    ++ if summary.failed.isEmpty then []
      else ["  Failed: " ++ String.intercalate ", " summary.failed])

def statsJson (stats : Archive.Stats) : Json :=
  .object [("files", .nat stats.files), ("chunks", .nat stats.chunks),
    ("recovered_files", .nat stats.recoveredFiles), ("last_indexed", .stringOrNull stats.lastIndexed)]

/-- What is known about the workspace at `root`. -/
def status (format : OutputFormat) (root : String) (stats : Archive.Stats) : String :=
  match format with
  | .json => (statsJson stats).pretty ++ "\n"
  | .text => unlines ["code-chunker Status", "===================", "",
      "Workspace: " ++ Text.shown root,
      "Files: " ++ toString stats.files,
      "Chunks: " ++ toString stats.chunks,
      "Recovered files: " ++ toString stats.recoveredFiles,
      "Last indexed: " ++ stats.lastIndexed.getD "never"]

/-! ### Configuration -/

def items (values : List String) : List String :=
  values.map ("  - " ++ ·)

/-- A configuration, with the settings that it leads to. -/
def config (format : OutputFormat) (config : Config) (settings : Settings) : String :=
  match format with
  | .json => config.toJson.pretty ++ "\n"
  | .text => unlines (["code-chunker Configuration", "==========================", "",
      "Include patterns:"] ++ items config.includePatterns
    ++ ["", "Ignore patterns:"] ++ items config.ignorePatterns
    ++ ["", "Languages: " ++ String.intercalate ", " config.languages,
      "Max file size: " ++ toString config.maxFileBytes ++ " bytes", "",
      "Parser:",
      "  Use case: " ++ settings.useCase.name,
      "  Escalation fraction: " ++ settings.escalationFraction.plainText,
      "  Id matching: " ++ settings.idMatching.title,
      "  Proximity lines: " ++ toString settings.proximityLines,
      "  Cache capacity: " ++ settings.cacheCapacity.elim "unbounded" toString,
      "  Diff timeout: " ++ toString settings.diffTimeout ++ " ms"])

end Chunking.Listing
