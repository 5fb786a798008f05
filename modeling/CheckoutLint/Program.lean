import CheckoutLint.Checkout
import CheckoutLint.Host.Search
import CheckoutLint.Shell.Invocation
import CheckoutLint.Utility.All

/-!
Starting programs. A program named with a slash is that file; any other is searched in the
directories of the path variable. A file that can be executed is a program of the system, or a
script that names its interpreter in its first line.
-/

namespace CheckoutLint.Program

/-! ## Executable files -/

/-- What a file that holds a program of the system begins with. -/
def magic : Bytes := [0x7f, 0x45, 0x4c, 0x46]

/-- A file that holds a program of the system. -/
def image (name : Text) : Bytes := magic ++ Text.toBytes name

/-- The name of the program of the system that a file holds. -/
def nameOf? (bytes : Bytes) : Option Text :=
  if magic.isPrefixOf bytes then some (Text.ofBytes (bytes.drop 4)) else none

/-- How much of a script is looked at for its interpreter. -/
def maxFirstLine : Nat := 256

/-- The interpreter that the first line of a script names, and the one argument that may follow. -/
def interpreter? (bytes : Bytes) : Option (Text × List Text) :=
  let front := Text.ofBytes (bytes.take maxFirstLine)
  let isGap (c : Char) : Bool := c = ' ' || c = '\t'
  let isEnd (c : Char) : Bool := isGap c || c = '\x00'
  match Text.dropStart? "#!".toList front with
  | none => none
  | some text =>
    let line := text.takeWhile (· ≠ '\n')
    let isCut := line.length = text.length && bytes.length ≥ maxFirstLine &&
      !(line.dropWhile isGap).any isEnd
    let line := ((line.takeWhile (· ≠ '\x00')).reverse.dropWhile isGap).reverse.dropWhile isGap
    let name := line.takeWhile fun c => !isGap c
    let argument := (line.drop name.length).dropWhile isGap
    if name.isEmpty || isCut then none
    else some (name, if argument.isEmpty then [] else [argument])

/-! ## Running -/

/-- The names of the shell. -/
def shellNames : List Text := ["sh".toList, "dash".toList]

/-- The name of the shell with the extended language. -/
def extendedShellName : Text := "bash".toList

/-- Runs a program of the system, given what runs further programs. -/
def runNamed (further : Launch) (name : Text) (call : Call) (host : Host) : Ending × Host :=
  if shellNames.contains name then Shell.run false further call host
  else if name = extendedShellName then Shell.run true further call host
  else
    match Utility.ofName? name with
    | some utility => Utility.run (utility further) call host
    | none => (.exited 0, host)

/-- Runs the program at a path. A script is run by its interpreter, which may be a script in turn,
but not too often. -/
def runAt (further : Launch) (fuel : Nat) : Launch := fun path call host =>
  match fuel with
  | 0 => (.error .tooManyLinks, host)
  | fuel + 1 =>
    match host.find true call.cwd path with
    | .error cause => (.error cause, host)
    | .ok (_, .file bytes true) =>
      match nameOf? bytes with
      | some name =>
        let (ending, host) := runNamed further name call host
        (.ok ending, host)
      | none =>
        match interpreter? bytes with
        | none => (.error .notExecutable, host)
        | some (name, first) =>
          let call := { call with name, arguments := first ++ path :: call.arguments }
          runAt further fuel name call host
    | .ok _ => (.error .denied, host)

/-- How many scripts in a row may be interpreters of each other, the program at the end included. -/
def maxInterpreters : Nat := 6

/-- Too many processes wait for each other. -/
def tooMany : SystemError := .numbered 11

/-- Runs programs that run further ones, nested no deeper than the fuel. -/
def launch : Nat → Launch
  | 0 => fun _ _ host => (.error tooMany, host)
  | fuel + 1 => runAt (launch fuel) maxInterpreters

/-- How deep programs may be nested. -/
def maxNesting : Nat := 100

/-! ## Commands -/

/-- A command that holds a NUL, which no argument can. -/
def nulFound : SystemError := .described "nul byte found in provided data".toList

/-- Whether a command holds a NUL. -/
def holdsNul (command : Command) : Bool :=
  command.program.contains '\x00' || command.arguments.any fun argument => argument.contains '\x00'

/-- Starts a command on a disk and waits for its end. Its input is empty; a signal that ends it
counts as status one; each stream that it writes is read on its own. -/
def respond (environment : Environment) (cwd : Place) (command : Command) (disk : Disk) :
    Response × Disk :=
  if holdsNul command then (.error nulFound, disk)
  else
    let host : Host := { disk, opened := #[.nothing, .collector [] 0 none, .collector [] 0 none] }
    let call : Call :=
      { name := Text.octets command.program
        arguments := command.arguments.map Text.octets
        environment :=
          environment.map fun (name, value) => (Text.octets name, Text.octets value)
        cwd
        streams := [(0, 0), (1, 1), (2, 2)]
        process := host.lastProcess }
    match (launch maxNesting : Launch).named call host with
    | (.error cause, host) => (.error cause, host.disk)
    | (.ok ending, host) =>
      let status : Nat :=
        match ending with
        | .exited status => status
        | .signalled _ => 1
      (.ok ⟨status, Text.ofOctets (host.collected 1) ++ Text.ofOctets (host.collected 2)⟩,
        host.disk)

/-- Starts commands in a workspace; they find the copies in the scratch directory and may change
them. -/
def launcher (environment : Environment) (cwd : Place) (scratchDirectory : Text) :
    Launcher Workspace := fun command workspace =>
  let (response, disk) := respond environment cwd command (workspace.whole cwd scratchDirectory)
  (response, .ofWhole cwd scratchDirectory disk)

/-! ## The system -/

/-- A disk with the system's programs and nothing else of use. -/
def systemDisk : Disk :=
  let names := extendedShellName :: shellNames ++ Utility.all.map (·.1)
  let programs := names.map fun name => (Text.utf8 name, Node.file (image name) true)
  let link (target : String) : Node := .link (Text.utf8 target.toList)
  let directory (entries : List (String × Node)) : Node :=
    .directory (entries.map fun entry => (Text.utf8 entry.1.toList, entry.2))
  ⟨directory
    [("bin", link "usr/bin"), ("sbin", link "usr/sbin"),
      ("usr", directory
        [("bin", .directory programs), ("sbin", directory []),
          ("local", directory [("bin", directory []), ("sbin", directory [])])]),
      ("etc", directory [("passwd", .file [] false)]),
      ("dev", directory
        [("null", .pipe []), ("zero", .pipe []), ("full", .pipe []),
          ("stdin", link "/proc/self/fd/0"), ("stdout", link "/proc/self/fd/1"),
          ("stderr", link "/proc/self/fd/2"), ("fd", link "/proc/self/fd")]),
      ("root", directory []), ("home", directory []), ("tmp", directory [])]⟩

end CheckoutLint.Program
