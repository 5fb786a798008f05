import CheckoutLint.Acronym
import CheckoutLint.CopyrightTemplate
import CheckoutLint.Leftover
import CheckoutLint.Tool
import CheckoutLint.VariableTypo

/-!
The fixed set of checkers. Two of them hand files to an external tool; four scan the files
themselves. Each has an identifier for the command line, a name for reports, a choice of the files
it looks at, and one thing that it needs done to them.

Main statement:

* `Checker.map_id_all`: the identifiers of the checkers do not depend on the programs.
-/

namespace CheckoutLint

/-- What a checker can look for by itself. -/
inductive Scan where
  | leftovers
  | copyright
  | acronyms
  | variables
  deriving DecidableEq, Repr

/-- A checker: a tool with the program that runs it, or a scan. -/
inductive Checker where
  | tool (tool : Tool) (program : Text)
  | scan (scan : Scan)
  deriving DecidableEq, Repr

/-- Base names of documentation begin with `README`, `CONTRIBUTING` or `TODO`. -/
def isDocumentation (name : Text) : Bool :=
  "README".toList.isPrefixOf name || "CONTRIBUTING".toList.isPrefixOf name ||
    "TODO".toList.isPrefixOf name

/-- The license files at the root of a checkout. -/
def rootLicenses : List Text := ["LICENSE".toList, "LICENSE.md".toList, "LICENSE.txt".toList]

namespace Checker

/-- All checkers in report order, given the programs of the tools. -/
def all (program : Tool → Text) : List Checker :=
  [.tool .spelling (program .spelling), .tool .links (program .links), .scan .leftovers,
    .scan .copyright, .scan .acronyms, .scan .variables]

/-- What a checker is called on the command line. -/
def id : Checker → Text
  | .tool .spelling _ => "misspell".toList
  | .tool .links _ => "broken-links".toList
  | .scan .leftovers => "unwanted-files".toList
  | .scan .copyright => "sloppy-copyright".toList
  | .scan .acronyms => "acronyms".toList
  | .scan .variables => "var-typos".toList

/-- What a checker is called in reports. -/
def name : Checker → Text
  | .tool .spelling _ => "Misspellings".toList
  | .tool .links _ => "Broken links".toList
  | .scan .leftovers => "Unwanted files".toList
  | .scan .copyright => "Sloppy copyright".toList
  | .scan .acronyms => "Acronym case".toList
  | .scan .variables => "Variable typos".toList

/-- The identifiers of all checkers, in report order. -/
def ids : List Text := (all fun _ => []).map id

/-- The names of all checkers, in order. -/
theorem map_id_all (program : Tool → Text) : (all program).map id = ids := rfl

/-- The checker with an identifier. -/
def ofId? (program : Tool → Text) (name : Text) : Option Checker :=
  (all program).find? fun checker => checker.id == name

/-- Whether a checker looks at a file. -/
def accepts (checker : Checker) (file : Candidate) : Bool :=
  match checker with
  | .tool _ _ | .scan .acronyms | .scan .variables => isDocumentation file.baseName
  | .scan .copyright => rootLicenses.contains file.path
  | .scan .leftovers => true

/-- The needs of a file once the checker has accepted it. -/
def require (checker : Checker) (needs : Needs) : Needs :=
  match checker with
  | .tool _ _ => { needs with localCopy := true }
  | .scan .leftovers => needs
  | .scan _ => { needs with contents := true }

end Checker

/-- The warnings of a scan for one file. -/
def Scan.warnings (scan : Scan) (file : Candidate) : List Text :=
  match scan with
  | .leftovers => Leftover.warnings file.path file.baseName
  | .copyright =>
    if CopyrightTemplate.occursIn file.text then [CopyrightTemplate.warning file.path] else []
  | .acronyms => Acronym.warnings file.path file.text
  | .variables => VariableTypo.warnings file.path file.text

end CheckoutLint
