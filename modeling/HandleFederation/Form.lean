/-
This file reads the pairs of a query, as a form writes them: pairs stand between
ampersands, a name and its value have an equals sign between them, a plus sign is a
space, and all else may be percent-encoded. Reading never fails; bytes that are no
text become the replacement character.
-/

import HandleFederation.Url.Percent

namespace HandleFederation.Form

open Text

/-- The text of a name or a value. -/
def decodeText (letters : List Char) : String :=
  let spaced := letters.map fun letter => if letter == '+' then ' ' else letter
  String.ofList (Utf8.decodeLenient (Percent.decode spaced))

/-- The pair that a piece of a query stands for. Without an equals sign the value is empty. -/
def decodePair (piece : List Char) : String × String :=
  let (name, value) := piece.span (· != '=')
  (decodeText name, decodeText (value.drop 1))

/-- The pairs of a query; empty pieces stand for none. -/
def decode (query : List Char) : List (String × String) :=
  ((query.splitOn '&').filter fun piece => !piece.isEmpty).map decodePair

/-- Why the one field of a form cannot be read. -/
inductive Fault where
  | missing (field : String)
  | doubled (field : String)
deriving DecidableEq, Repr

/-- The wording of a fault. -/
def Fault.message : Fault → String
  | .missing field => s!"Failed to deserialize query string: missing field `{field}`"
  | .doubled field => s!"Failed to deserialize query string: duplicate field `{field}`"

/-- The value of a field that has to be in a query once. Other fields do not matter. -/
def field (name : String) (query : List Char) : Except Fault String :=
  match (decode query).filter fun pair => pair.1 == name with
  | [] => .error (.missing name)
  | [(_, value)] => .ok value
  | _ => .error (.doubled name)

end HandleFederation.Form
