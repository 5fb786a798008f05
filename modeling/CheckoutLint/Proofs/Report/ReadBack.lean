import CheckoutLint.Proofs.Json.Datum
import CheckoutLint.Report.Json
import Mathlib.Data.List.Forall2

/-!
Reading a JSON report. The report holds all that the outcomes hold: whatever stands in their texts,
a reader of JSON gets the outcomes back, in their order.

* `Outcome.ofDatum?_datum`: an outcome is read back from its object.
* `Report.read?_json`: a report is read back, tells whether there was an error even if that has no
  words, and has no control in it but the line feeds of its layout.
-/

namespace CheckoutLint

/-- If every item can be read back, a list of them can. -/
theorem mapM_map_eq_some {α β : Type} (write : α → β) (read : β → Option α)
    (back : ∀ item, read (write item) = some item) (items : List α) :
    (items.map write).mapM read = some items := by
  induction items with
  | nil => rfl
  | cons item items ih =>
    rw [List.map_cons, List.mapM_cons, back, ih]
    rfl

namespace Json

/-! ## Parts of values -/

/-- The text of a string. -/
def Datum.text? : Datum → Option Text
  | .string text => some text
  | _ => none

/-- What a Boolean value is. -/
def Datum.bool? : Datum → Option Bool
  | .bool value => some value
  | _ => none

/-- The texts of a list of strings. -/
def Datum.texts? : Datum → Option (List Text)
  | .array items => items.mapM Datum.text?
  | _ => none

/-- The members of an object. -/
def Datum.members? : Datum → Option (List (Text × Datum))
  | .object members => some members
  | _ => none

/-- The value under a name. Of several members with one name the last counts. -/
def member? (members : List (Text × Datum)) (name : Text) : Option Datum :=
  members.reverse.lookup name

theorem texts?_strings (texts : List Text) :
    (Json.array (texts.map .string)).datum.texts? = some texts := by
  rw [datum, data_eq_map, List.map_map, Datum.texts?]
  exact mapM_map_eq_some (datum ∘ string) Datum.text? (fun _ => rfl) texts

end Json

namespace Outcome

open Json (Datum)

/-! ## Outcomes -/

/-- The error that an object tells of. If it has no member for one, there was none. -/
def errorOf? (members : List (Text × Datum)) : Option (Option Text) :=
  match Json.member? members "error".toList with
  | none => some none
  | some value => value.text?.map some

/-- The outcome that the members of an object tell of. -/
def ofMembers? (members : List (Text × Datum)) : Option Outcome := do
  let id ← (Json.member? members "id".toList).bind Datum.text?
  let name ← (Json.member? members "name".toList).bind Datum.text?
  let passed ← (Json.member? members "passed".toList).bind Datum.bool?
  let warnings ← (Json.member? members "warnings".toList).bind Datum.texts?
  let error ← errorOf? members
  return ⟨id, name, passed, warnings, error⟩

/-- The outcome that an object tells of. -/
def ofDatum? (object : Datum) : Option Outcome := object.members?.bind ofMembers?

/-- The object of an outcome. -/
def datum (outcome : Outcome) : Datum := .object (Json.memberData outcome.members)

/-- An outcome is read back from its datum. -/
theorem ofDatum?_datum (outcome : Outcome) : ofDatum? outcome.datum = some outcome := by
  obtain ⟨id, name, passed, warnings, error⟩ := outcome
  have texts := Json.texts?_strings warnings
  have told : errorOf? (Json.memberData (members ⟨id, name, passed, warnings, error⟩)) =
      some error := by
    cases error <;> rfl
  have found : Json.member? (Json.memberData (members ⟨id, name, passed, warnings, error⟩))
      "warnings".toList = some (Json.array (warnings.map .string)).datum := by
    cases error <;> rfl
  rw [ofDatum?, datum, Json.Datum.members?, Option.bind_some, ofMembers?, told, found,
    Option.bind_some, texts]
  cases error <;> rfl

/-- An outcome's object has a member for the error exactly if there was one. -/
theorem error_mem_members_iff (outcome : Outcome) :
    "error".toList ∈ (Json.memberData outcome.members).map Prod.fst ↔ outcome.error ≠ none := by
  obtain ⟨id, name, passed, warnings, error⟩ := outcome
  cases error <;> simp [members, Json.memberData]

end Outcome

namespace Report

open Json (Datum Spot)

/-! ## Reports -/

/-- The outcomes that a list of objects tells of. -/
def ofDatum? : Datum → Option (List Outcome)
  | .array items => items.mapM Outcome.ofDatum?
  | _ => none

/-- The outcomes that a JSON text tells of. -/
def read? (s : Text) : Option (List Outcome) := (Json.read? s).bind ofDatum?

theorem datum_jsonValue (outcomes : List Outcome) :
    (jsonValue outcomes).datum = .array (outcomes.map Outcome.datum) := by
  rw [jsonValue, Json.datum, Json.data_eq_map, List.map_map]
  rfl

/-- A report is read back as its outcomes. An object in it has a member for the error exactly if
there was one, be it without words; and the only controls are line feeds outside of strings. -/
theorem read?_json (outcomes : List Outcome) :
    read? (json outcomes) = some outcomes ∧
      (∃ objects, Json.read? (json outcomes) = some (.array (objects.map .object)) ∧
        List.Forall₂ (fun outcome members =>
          "error".toList ∈ members.map Prod.fst ↔ outcome.error ≠ none) outcomes objects) ∧
      ∀ before c behind, json outcomes = before ++ c :: behind → c < ' ' →
        c = '\n' ∧ Spot.outside.after before = .outside := by
  have whole : Json.read? (json outcomes) = some (.array (outcomes.map Outcome.datum)) := by
    rw [← datum_jsonValue]
    exact Json.read?_render (jsonValue outcomes)
  refine ⟨?outcomes, ?errors, fun before c behind split control => ?controls⟩
  case outcomes =>
    rw [read?, whole, Option.bind_some, ofDatum?]
    exact mapM_map_eq_some Outcome.datum Outcome.ofDatum? Outcome.ofDatum?_datum outcomes
  case errors =>
    refine ⟨outcomes.map fun outcome => Json.memberData outcome.members, ?_, ?_⟩
    · rw [whole, List.map_map]
      rfl
    · rw [List.forall₂_map_right_iff, List.forall₂_same]
      exact fun outcome _ => Outcome.error_mem_members_iff outcome
  case controls =>
    exact (Json.laidOut_pretty 0 (jsonValue outcomes)).tidy.controls split control

end Report

end CheckoutLint
