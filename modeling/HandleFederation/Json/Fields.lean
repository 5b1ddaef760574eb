/-
This file reads the fields of a record from a document. A record is written as an
object with one member per field, or as an array of all its fields in order. A
doubled field is always a fault; an unknown one is a fault where the record is
read strictly and is passed over where it is not.
-/

import HandleFederation.Json.Basic

namespace HandleFederation.Json

/-! ### Fields of a record -/

/-- Whether no name comes twice in a list. -/
def allDistinct : List String → Bool
  | [] => true
  | name :: others => !others.contains name && allDistinct others

/-- The values of the named fields of a record, each present or absent, or nothing when the value
is no such record. -/
def fields? (strict : Bool) (names : List String) : Json → Option (List (Option Json))
  | .object members =>
    let given := (members.map Prod.fst).filter names.contains
    if strict && given.length != members.length then none
    else if !allDistinct given then none
    else some (names.map fun name => members.lookup name)
  | .array elements =>
    if elements.length = names.length then some (elements.map some) else none
  | _ => none

/-- A field that has to be a text. -/
def requiredText? (field : Option Json) : Option String :=
  field.bind string?

/-- A field that may be absent or null and otherwise has to be a text. -/
def optionalText? : Option Json → Option (Option String)
  | none => some none
  | some .null => some none
  | some (.string value) => some (some value)
  | some _ => none

/-- A field that has to be a list of texts. -/
def requiredTexts? : Option Json → Option (List String)
  | some (.array elements) => elements.mapM string?
  | _ => none

/-- A field that has to be a whole number below a bound. -/
def requiredNat? (bound : Nat) (field : Option Json) : Option Nat :=
  field.bind (natBelow? bound)

/-! ### Names of alternatives -/

/-- The name of an alternative without content: a string, or an object whose only member has that
name and is null. -/
def alternative? : Json → Option String
  | .string name => some name
  | .object [(name, .null)] => some name
  | _ => none

end HandleFederation.Json
