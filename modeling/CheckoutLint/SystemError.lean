import CheckoutLint.SystemError.Message
import CheckoutLint.Text.Quoted

/-!
Causes that lie outside the program: a numbered error of the system, or one that is only described.
-/

namespace CheckoutLint

/-- Why the system refused a request. -/
inductive SystemError where
  | numbered (code : Int)
  | described (text : Text)
  | atPath (cause : SystemError) (path : Text)
  deriving DecidableEq, Repr

namespace SystemError

/-- How a cause reads in a message. -/
def message : SystemError → Text
  | .numbered code =>
    let text :=
      match systemMessage? code with
      | some known => known.toList
      | none => "Unknown error ".toList ++ Text.ofInt code
    text ++ " (os error ".toList ++ Text.ofInt code ++ ")".toList
  | .described text => text
  | .atPath cause path => cause.message ++ " at path ".toList ++ Text.quoted path

/-- No such file or directory. -/
def missing : SystemError := .numbered 2

/-- A file that can be executed but holds nothing that can be run. -/
def notExecutable : SystemError := .numbered 8

/-- Permission denied. -/
def denied : SystemError := .numbered 13

/-- A path leads through something that is not a directory. -/
def notDirectory : SystemError := .numbered 20

/-- A directory stands where a file is read. -/
def isDirectory : SystemError := .numbered 21

/-- A file name or a path is longer than the system allows. -/
def nameTooLong : SystemError := .numbered 36

/-- A path leads through too many links. -/
def tooManyLinks : SystemError := .numbered 40

end SystemError

end CheckoutLint
