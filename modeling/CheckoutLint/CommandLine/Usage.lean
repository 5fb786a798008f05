import CheckoutLint.CommandLine.Options

/-!
What the command line tells about itself: its help, and what is wrong with an argument.
-/

namespace CheckoutLint

/-- What is wrong with an argument. -/
def Misuse.message : Misuse → Text
  | .unknown argument => "unknown option '".toList ++ argument ++ "'".toList
  | .unexpected argument => "unexpected argument '".toList ++ argument ++ "'".toList
  | .missingValue setting => "option '--".toList ++ setting.name ++ "' needs a value".toList
  | .badValue setting value =>
    "option '--".toList ++ setting.name ++ "' cannot be '".toList ++ value ++ "'".toList
  | .repeated setting => "option '--".toList ++ setting.name ++ "' is given twice".toList
  | .needlessValue argument => "no value is expected in '".toList ++ argument ++ "'".toList

namespace CommandLine

/-- The help. -/
def help : Text :=
  ("Lint a repository checkout for documentation and hygiene issues.\n\n" ++
    "Usage: repo-lint [OPTIONS] < ARCHIVE\n\n" ++
    "Options:\n" ++
    "      --root-dir <DIR>    Repository root; discovered by default\n" ++
    "      --only <CHECKER>    Run only the named checker (repeatable)\n" ++
    "      --format <FORMAT>   text (default) or json\n" ++
    "  -h, --help              Print this help\n" ++
    "  -V, --version           Print the version\n").toList

/-- What is written if an argument cannot be used. -/
def usage (misuse : Misuse) : Text :=
  "error: ".toList ++ misuse.message ++ "\n\nFor more information, try '--help'.\n".toList

end CommandLine

end CheckoutLint
