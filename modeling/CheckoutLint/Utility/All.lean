import CheckoutLint.Utility.Columns
import CheckoutLint.Utility.Copy
import CheckoutLint.Utility.Count
import CheckoutLint.Utility.Editing
import CheckoutLint.Utility.Ends
import CheckoutLint.Utility.Expression
import CheckoutLint.Utility.Listing
import CheckoutLint.Utility.Location
import CheckoutLint.Utility.Print
import CheckoutLint.Utility.Question
import CheckoutLint.Utility.Replacing
import CheckoutLint.Utility.Search
import CheckoutLint.Utility.Sequence
import CheckoutLint.Utility.Setting
import CheckoutLint.Utility.Sorting
import CheckoutLint.Utility.Transfer

/-!
The utilities by their names.
-/

namespace CheckoutLint.Utility

/-- The utilities that run nothing else. -/
def plain : List (String × Work Unit) :=
  [("[", Question.ask true), ("basename", Location.basename), ("cat", Copy.cat),
    ("cp", Transfer.cp), ("cut", Columns.cut), ("dirname", Location.dirname),
    ("echo", Print.echo), ("expr", Expression.expr), ("false", Question.no),
    ("grep", Search.grep), ("head", Ends.head),
    ("ln", Transfer.ln), ("ls", Listing.ls), ("mkdir", Files.mkdir), ("mv", Transfer.mv),
    ("printf", Print.printf), ("pwd", Location.pwd), ("rm", Files.rm), ("sed", Editing.sed),
    ("seq", Sequence.seq),
    ("sleep", Setting.sleep), ("sort", Sorting.sort), ("tail", Ends.tail), ("tee", Copy.tee),
    ("test", Question.ask false), ("touch", Files.touch), ("tr", Replacing.tr),
    ("true", Question.yes), ("uniq", Sorting.uniq), ("wc", Count.wc), ("yes", Copy.yes)]

/-- The utilities that run other programs. -/
def running : List (String × Program) := [("env", Setting.env)]

/-- All utilities with their names. -/
def all : List (Text × Program) :=
  (plain.map fun (name, work) => (name.toList, fun _ => work)) ++
    running.map fun (name, program) => (name.toList, program)

/-- The utility of a name. -/
def ofName? (name : Text) : Option Program := (all.find? fun entry => entry.1 == name).map (·.2)

end CheckoutLint.Utility
