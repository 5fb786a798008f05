import CheckoutLint.LinkReport
import CheckoutLint.SystemError

/-!
The two external tools, a spell checker and a link checker: how each is called, and what its output
means. Calling one is left to a launcher, which may look at a state and change it.
-/

namespace CheckoutLint

/-- A program to start, with its arguments. -/
structure Command where
  program : Text
  arguments : List Text
  deriving DecidableEq, Repr

/-- How a program ended: its exit status, and all that it wrote, standard output first. -/
structure Exit where
  status : Int
  output : Text
  deriving DecidableEq, Repr

/-- Whether the program found nothing to complain about. -/
def Exit.succeeded (exit : Exit) : Bool := exit.status == 0

/-- What comes of a command: an error if it could not be started at all. -/
abbrev Response := Except SystemError Exit

/-- What starts programs, in a state that they may look at and change. -/
abbrev Launcher (σ : Type) := Command → σ → Response × σ

/-- The external tools. -/
inductive Tool where
  | spelling
  | links
  deriving DecidableEq, Repr

namespace Tool

/-- Seconds that the link checker waits for an answer. -/
def linkTimeout : Text := "30".toList

/-- Links that are not followed: releases and downloads, the local host, the example domain. -/
def excludedLinks : Text :=
  "/release|/download|localhost|127\\.[01]\\.[01]\\.[01]|example\\.com".toList

/-- The arguments before the files. -/
def options : Tool → List Text
  | .spelling => ["-error".toList, "true".toList]
  | .links => ["-t".toList, linkTimeout, "-x".toList, excludedLinks]

/-- The command that runs the tool over files. -/
def command (tool : Tool) (program : Text) (files : List Text) : Command :=
  ⟨program, tool.options ++ files⟩

/-- What the tool's output says, with repository paths in place of temp paths. -/
def read (table : PathTable) : Tool → Text → List Text
  | .spelling, output => ((Text.lines output).filter fun line => !line.isEmpty).map table.restore
  | .links, output => LinkReport.warnings table output

/-- What comes of running the tool: nothing if it ended well, else what its output says. -/
def findings (table : PathTable) (tool : Tool) (exit : Exit) : List Text :=
  if exit.succeeded then [] else tool.read table exit.output

end Tool

end CheckoutLint
