import CheckoutLint.Text.Basic

/-!
The arguments of the command line, read from left to right. The first request for help or for the
version, or the first argument that cannot be used, ends the reading.

Main statements:

* `Options.add_only`: naming a checker never fails, and names are kept in order.
* `Options.parse_nil`: no arguments leave the options as they are.
-/

namespace CheckoutLint

/-- How a run is reported. -/
inductive Format where
  | text
  | json
  deriving DecidableEq, Repr

/-- What the arguments ask of a run. -/
structure Options where
  root : Option Text := none
  only : List Text := []
  format : Option Format := none
  deriving DecidableEq, Repr

/-- The options that take a value. -/
inductive Setting where
  | root
  | only
  | format
  deriving DecidableEq, Repr

/-- Why an argument cannot be used. -/
inductive Misuse where
  | unknown (argument : Text)
  | unexpected (argument : Text)
  | missingValue (setting : Setting)
  | badValue (setting : Setting) (value : Text)
  | repeated (setting : Setting)
  | needlessValue (argument : Text)
  deriving DecidableEq, Repr

/-- What ends the reading of arguments early. -/
inductive Stop where
  | help
  | version
  | misuse (misuse : Misuse)
  deriving DecidableEq, Repr

namespace Setting

/-- The name of an option, without the dashes. -/
def name : Setting → Text
  | .root => "root-dir".toList
  | .only => "only".toList
  | .format => "format".toList

/-- The option with a name. Names are not abbreviated. -/
def ofName? (text : Text) : Option Setting :=
  [Setting.root, .only, .format].find? fun setting => setting.name == text

end Setting

namespace Format

/-- The format with a name. -/
def ofName? (text : Text) : Option Format :=
  if text = "text".toList then some .text
  else if text = "json".toList then some .json
  else none

end Format

namespace Options

/-- The options with one more value. Only checkers may be named more than once. -/
def add (options : Options) (setting : Setting) (value : Text) : Except Misuse Options :=
  match setting with
  | .only => .ok { options with only := options.only ++ [value] }
  | .root =>
    if options.root.isSome then .error (.repeated .root)
    else if value.isEmpty then .error (.badValue .root value)
    else .ok { options with root := some value }
  | .format =>
    if options.format.isSome then .error (.repeated .format)
    else
      match Format.ofName? value with
      | some format => .ok { options with format := some format }
      | none => .error (.badValue .format value)

theorem add_only (options : Options) (value : Text) :
    options.add .only value = .ok { options with only := options.only ++ [value] } := rfl

/-! ## Arguments -/

/-- What a single argument is. -/
inductive Argument where
  | help
  | version
  /-- An option, with the value that is attached to it, if there is one. -/
  | setting (setting : Setting) (value : Option Text)
  /-- The mark after which no option is looked for. -/
  | endMark
  | misuse (misuse : Misuse)
  deriving DecidableEq, Repr

/-- An argument that begins with two dashes, by what follows them. -/
def readLong (argument body : Text) : Argument :=
  let name := body.takeWhile (· ≠ '=')
  let value :=
    match body.dropWhile (· ≠ '=') with
    | [] => none
    | _ :: value => some value
  if name = "help".toList ∨ name = "version".toList then
    match value with
    | some _ => .misuse (.needlessValue argument)
    | none => if name = "help".toList then .help else .version
  else
    match Setting.ofName? name with
    | some setting => .setting setting value
    | none => .misuse (.unknown argument)

/-- What an argument is. Of letters behind one dash the first decides. -/
def readArgument : Text → Argument
  | ['-', '-'] => .endMark
  | '-' :: '-' :: body => readLong ('-' :: '-' :: body) body
  | '-' :: 'h' :: _ => .help
  | '-' :: 'V' :: _ => .version
  | '-' :: c :: rest => .misuse (.unknown ('-' :: c :: rest))
  | argument => .misuse (.unexpected argument)

/-- Whether an argument can be the value of the option before it: a dash with something behind it
cannot. -/
def isValue : Text → Bool
  | '-' :: _ :: _ => false
  | _ => true

/-- Reads arguments onto options. -/
def parse (options : Options) : List Text → Except Stop Options
  | [] => .ok options
  | argument :: rest =>
    match readArgument argument with
    | .help => .error .help
    | .version => .error .version
    | .misuse misuse => .error (.misuse misuse)
    | .endMark =>
      match rest with
      | [] => .ok options
      | argument :: _ => .error (.misuse (.unexpected argument))
    | .setting setting (some value) =>
      match options.add setting value with
      | .error misuse => .error (.misuse misuse)
      | .ok options => parse options rest
    | .setting setting none =>
      match rest with
      | [] => .error (.misuse (.missingValue setting))
      | value :: rest =>
        if isValue value then
          match options.add setting value with
          | .error misuse => .error (.misuse misuse)
          | .ok options => parse options rest
        else .error (.misuse (.missingValue setting))

@[simp]
theorem parse_nil (options : Options) : options.parse [] = .ok options := by
  rw [parse]

end Options

end CheckoutLint
