import Railroad.CommandLine.Arguments
import Railroad.Drawing.Svg
import Railroad.Engine
import Railroad.Json.Diagram
import Railroad.Json.Node
import Railroad.Pipeline
import Railroad.Reference
import Railroad.Text.Quoted
import Railroad.Visual.Outline

/-!
# Carrying out a command

A command reads its input, which is given as bytes, and leaves an exit code and two texts: what it
prints, and a message in case it fails. Running a pattern can be without an outcome.
-/

namespace Railroad.CommandLine

open Text (Attempt)

/-- What a command can read. -/
structure Inputs where
  /-- Standard input. -/
  stdin : ByteArray
  /-- The content of a file, unless it cannot be read. -/
  file? : String → Option ByteArray

/-- What a command leaves. -/
structure Report where
  /-- The exit code. -/
  exit : Nat
  /-- The text on standard output. -/
  stdout : String
  /-- The text on standard error. -/
  stderr : String
  deriving DecidableEq, Repr

namespace Report

/-- A command that was carried out. -/
def success (stdout : String) : Report := ⟨0, stdout, ""⟩

/-- A command that failed with a message. -/
def failure (message : String) : Report := ⟨1, "", message ++ "\n"⟩

end Report

/-- The text without the end of its last line. -/
def withoutLineEnd (text : String) : String :=
  match text.toList.reverse with
  | '\n' :: '\r' :: rest => String.ofList rest.reverse
  | '\n' :: rest => String.ofList rest.reverse
  | _ => text

/-- The text to run a pattern against, or the message why it cannot be read. -/
def readSubject (inputs : Inputs) : Option String → Except String String
  | none =>
    match String.fromUTF8? inputs.stdin with
    | some text => .ok (withoutLineEnd text)
    | none => .error "stream did not contain valid UTF-8"
  | some path =>
    match (inputs.file? path).bind String.fromUTF8? with
    | some text => .ok (withoutLineEnd text)
    | none => .error s!"reading {path}"

/-- Draws the diagram of a pattern. -/
def draw (pattern : String) (scale : Nat) : Format → Report
  | .ast =>
    match analyze Regex.validate pattern with
    | .ok node => .success (node.json.render 0 ++ "\n")
    | .error e => .failure e.message
  | format =>
    match (visualize Regex.validate pattern scale : Visualization Float) with
    | .placeholder text => .success (text ++ "\n")
    | .failed message => .failure message
    | .diagram diagram =>
      match format with
      | .outline => .success diagram.outline
      | .svg => .success diagram.svg
      | _ => .success (diagram.json.render 0 ++ "\n")

/-- The lines for a match: its place and text, and the texts of its groups. -/
def matchLines (number : Nat) (report : MatchReport) : String :=
  match report.groups with
  | [] => ""
  | whole :: groups =>
    s!"Match {number} at {report.index}: {Text.quoted whole}\n" ++
      String.join ((groups.zipIdx 1).map fun (group, i) => s!"  ${i} = {Text.quoted group}\n")

/-- The lines for the outcome of running a pattern. -/
def outcomeLines (report : ProcessReport) : String :=
  (if report.found.isEmpty then "No matches.\n" else "") ++
    String.join ((report.found.zipIdx 1).map fun (found, n) => matchLines n found) ++
    s!"Replaced: {report.replaced}\n"

/-- Runs a pattern against a text. -/
def test (pattern subject template : String) (flags : Flags) (json : Bool) : Attempt Report :=
  match Bytewise.process pattern subject template flags with
  | none => none
  | some (.error e) => some (.failure e.message)
  | some (.ok report) =>
    some (.success (if json then report.json.render 0 ++ "\n" else outcomeLines report))

/-- Carries out a command. -/
def run (inputs : Inputs) : Command → Attempt Report
  | .draw pattern scale format => some (draw pattern scale format)
  | .test pattern file template everywhere ignoreCase multiLine json =>
    match readSubject inputs file with
    | .error message => some (.failure message)
    | .ok subject => test pattern subject template ⟨everywhere, ignoreCase, multiLine⟩ json
  | .reference withCatalogue => some (.success (Reference.render withCatalogue))

end Railroad.CommandLine
