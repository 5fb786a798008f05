import CheckoutLint.SystemError
import CheckoutLint.Text.Utf8

/-!
What can stop a checker or a run. Each failure keeps its cause; the wording is made in one place.
-/

namespace CheckoutLint

/-- Why a checker or a run could not do its work. -/
inductive Failure where
  /-- An external tool could not be started. -/
  | launch (program : Text) (cause : SystemError)
  /-- A file could not be copied or read. -/
  | materialize (path : Bytes) (cause : SystemError)
  /-- The checkout could not be walked. -/
  | walk (path : Bytes) (cause : SystemError)
  /-- Some other request to the system failed. -/
  | system (cause : SystemError)
  /-- The results could not be written as JSON. -/
  | encoding (cause : SystemError)
  deriving DecidableEq, Repr

namespace Failure

/-- What lies behind the failure. -/
def cause : Failure → SystemError
  | .launch _ cause | .materialize _ cause | .walk _ cause => cause
  | .system cause | .encoding cause => cause

/-- The sentence before the cause. A path that is no text is shown with its bytes replaced. -/
def occasion : Failure → Text
  | .launch program _ => "failed to launch \x60".toList ++ program ++ "\x60: ".toList
  | .materialize path _ => "failed to materialize ".toList ++ Text.decodeLossy path ++ ": ".toList
  | .walk path _ => "failed to walk ".toList ++ Text.decodeLossy path ++ ": ".toList
  | .system _ => "IO error: ".toList
  | .encoding _ => "JSON serialization error: ".toList

/-- How a failure reads in a report. -/
def message (failure : Failure) : Text := failure.occasion ++ failure.cause.message

end Failure

end CheckoutLint
