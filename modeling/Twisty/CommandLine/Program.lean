import Twisty.CommandLine.Arguments
import Twisty.Preferences.Yaml
import Twisty.Sequencer.Report
import Twisty.Text.Columns
import Twisty.Text.Json

/-!
# The program

What an invocation prints, how it fails and what it reports (`Invocation.run`). The size is that of
the option or the preferred one, and must be within the range of the preferences. An algorithm is
read strictly if the option or the preferences say so, and then any of its words that is not a move
makes the whole of it fail.

The subcommand `run` executes the algorithm in a session whose puzzle completes every rotation at
once, and prints each rotation with its number.
-/

namespace Twisty

open Text

/-- Why an invocation fails. -/
inductive Failure where
  /-- The preferences do not allow the size. -/
  | size (refusal : SizeRefusal)
  /-- Some words of a strict algorithm are not moves. -/
  | algorithm (errors : List MoveError)
  /-- A session came to rest before the algorithm was done. -/
  | stalled
deriving DecidableEq

/-- The wording of a failure. -/
def Failure.message : Failure → List Char
  | size refusal => refusal.message
  | algorithm errors =>
    "invalid algorithm: ".toList ++ "; ".toList.intercalate (errors.map MoveError.message)
  | stalled => "sequencer stopped before finishing".toList

/-- What comes of an invocation. -/
structure Outcome where
  stdout : List Char
  failure : Option Failure
  records : List LogRecord
deriving DecidableEq

namespace Outcome

/-- Success, with what is printed. -/
def success (stdout : List Char) (records : List LogRecord) : Outcome :=
  ⟨stdout, none, records⟩

/-- Failure, before anything is printed. -/
def failed (failure : Failure) (records : List LogRecord) : Outcome :=
  ⟨[], some failure, records⟩

/-- The outcome with records before its own. -/
def after (o : Outcome) (records : List LogRecord) : Outcome :=
  { o with records := records ++ o.records }

end Outcome

/-- A line of output. -/
def line (s : List Char) : List Char :=
  s ++ ['\n']

/-- What `parse` prints of a move. -/
def Move.toJson (m : Move) : Json :=
  .object [
    ("notation".toList, .string m.render),
    ("base".toList, .string m.stem.render),
    ("axis".toList, .string [m.axis.letter]),
    ("angle".toList, .number (Angle.quarter m.direction).radians),
    ("repetitions".toList, .ofNat m.repetitions),
    ("layers".toList, match m.kind with
      | .layers ps => .list (ps.map Json.ofNat)
      | .whole => .null)]

/-- What `table` prints of a turn. -/
def MoveKind.describe : MoveKind → List Char
  | layers ps => "layers ".toList ++ [','].intercalate (ps.map decimal)
  | whole => "whole puzzle".toList

/-- The line that `table` prints of an entry. -/
def MoveTable.entryLine (entry : BaseMove × Turn) : List Char :=
  line (padEnd 4 entry.1.render ++ ' ' :: entry.2.axis.letter :: entry.2.direction.sign ::
    ' ' :: ' ' :: entry.2.kind.describe)

/-- The line that `run` prints of the rotation with a number. -/
def Rotation.numberedLine (r : Rotation) (number : Nat) : List Char :=
  line (padStart 3 (decimal number) ++ '.' :: ' ' :: r.render)

/-- The lines that `run` prints of some rotations. -/
def numberedLines (rotations : List Rotation) : List Char :=
  rotations.zipIdx.flatMap fun (r, i) => r.numberedLine (i + 1)

namespace Invocation

/-- The moves of an algorithm, read strictly or not. -/
def readAlgorithm (n : Notation) (text : List Char) (strict : Bool) :
    Except Failure (Logged (List Move)) :=
  if strict then
    match n.algorithmStrict text with
    | .ok ms => .ok ⟨ms, []⟩
    | .error es => .error (.algorithm es)
  else .ok (n.algorithm text)

/-- Prints the moves of an algorithm. -/
def runParse (n : Notation) (text : List Char) (strict : Bool) : Outcome :=
  match readAlgorithm n text strict with
  | .ok ms => .success (line (Json.list (ms.value.map Move.toJson)).pretty) ms.records
  | .error f => .failed f []

/-- Prints the inverse of an algorithm. -/
def runInvert (n : Notation) (text : List Char) (strict : Bool) : Outcome :=
  let inverse := n.invertAlgorithm text
  if strict then
    match n.algorithmStrict text with
    | .ok _ => .success (line inverse.value) inverse.records
    | .error es => .failed (.algorithm es) []
  else .success (line inverse.value) inverse.records

/-- Prints the move table. -/
def runTable (n : Notation) : Outcome :=
  .success (n.table.entries.flatMap MoveTable.entryLine) []

/-- Executes an algorithm and prints its rotations. -/
def runRun (n : Notation) (text : List Char) (strict : Bool) : Outcome :=
  let start := Session.start n
  let begun := start.perform (.execute (.counted text strict) [] [])
  match (start.since begun).reply with
  | .refusedAll es => .failed (.algorithm es) begun.journal.records
  | .count moves =>
    let ended := begun.perform .drain
    let rotations := ended.journal.received
    let records := ended.journal.records
    if ended.journal.anyBegan then
      .success (numberedLines rotations) (records ++ [.executed moves rotations.length])
    else ⟨numberedLines rotations, some .stalled, records⟩
  | _ => .failed .stalled begun.journal.records

/-- Does what a subcommand is for. -/
def dispatch (s : Subcommand) (n : Notation) (text : List Char) (strict : Bool) : Outcome :=
  match s with
  | .parse => runParse n text strict
  | .invert => runInvert n text strict
  | .table => runTable n
  | .run => runRun n text strict

/-- The size of an invocation under some preferences. -/
def sizeUnder (i : Invocation) (p : Preferences) : Except SizeRefusal PuzzleSize :=
  match i.size with
  | some count => p.checkSize count
  | none => p.size

/-- The text of the algorithm: its arguments with single spaces between them. -/
def text (i : Invocation) : List Char :=
  unwords i.algorithm

/-- What an invocation does under some preferences. -/
def runUnder (i : Invocation) (p : Preferences) : Outcome :=
  match i.sizeUnder p with
  | .ok size => dispatch i.subcommand (.ofSize size) i.text (i.strict || p.strict)
  | .error refusal => .failed (.size refusal) []

/-- What an invocation does, given the texts of the files that exist and the environment. -/
def run (i : Invocation) (files : List Char → Option (List Char))
    (environment : List (List Char × List Char)) : Outcome :=
  let p := Library.yaml.load files i.prefs environment
  (i.runUnder p.value).after p.records

end Invocation

end Twisty
