import IndexSync.Text.Utf8
import IndexSync.Value

/-!
# Violations of a configuration

What can be wrong with the data of a configuration, where it is wrong, and the report on it.
-/

namespace IndexSync.Config

/-- A step on the way to a place in the data. -/
inductive Step where
  /-- A member of a section. -/
  | field (name : String)
  /-- An item of a list. -/
  | item (index : Nat)
  deriving DecidableEq, Repr

/-- The wording of a step. -/
def Step.text : Step → String
  | .field name => name
  | .item index => toString index

/-- A requirement that goes beyond the type of a setting. -/
inductive Rule where
  /-- A budget allows at least one attempt. -/
  | attempts (given : Int)
  /-- An interval is positive. -/
  | interval (given : Int)
  /-- The directory of the indexes is a text or a path. -/
  | indexDir (typeName : String)
  /-- There is at least one manifest pattern. -/
  | patterns
  /-- The name of a user has no NUL character. -/
  | userNul
  /-- The name of a user has no unpaired surrogates: the given ones from the given index on. -/
  | userUnpaired (index : Nat) (codes : Text.CodePoints)
  deriving DecidableEq, Repr

/-- The wording of a broken requirement. -/
def Rule.message : Rule → String
  | .attempts given => "Attempt budget must be at least 1, got " ++ toString given
  | .interval given => "Interval must be positive, got " ++ toString given ++ "ms"
  | .indexDir typeName => "Expected str or Path, got <class '" ++ typeName ++ "'>"
  | .patterns => "At least one manifest pattern is required"
  | .userNul => "embedded null byte"
  | .userUnpaired index codes => Text.CodePoints.refusal index codes

/-- What is wrong with a datum. -/
inductive Problem where
  /-- A section is not a mapping. -/
  | notSection (name : String)
  /-- No integer can be made of the datum. -/
  | notInteger
  /-- A number is not integral. -/
  | fractional
  /-- A number is not finite. -/
  | notFinite
  /-- A text does not spell an integer. -/
  | integerText
  /-- An integer is too large for its form. -/
  | integerSize
  /-- No number can be made of the datum. -/
  | notNumber
  /-- A text does not spell a number. -/
  | numberText
  /-- The datum is no list. -/
  | notList
  /-- The datum is no text. -/
  | notText
  /-- A text has unpaired surrogates. -/
  | unpaired
  /-- The datum is no path. -/
  | notPath
  /-- A requirement is broken. -/
  | broken (rule : Rule)
  deriving DecidableEq, Repr

namespace Problem

/-- The short name of a problem. -/
def code : Problem → String
  | .notSection _ => "model_type"
  | .notInteger => "int_type"
  | .fractional => "int_from_float"
  | .notFinite => "finite_number"
  | .integerText => "int_parsing"
  | .integerSize => "int_parsing_size"
  | .notNumber => "float_type"
  | .numberText => "float_parsing"
  | .notList => "list_type"
  | .notText => "string_type"
  | .unpaired => "string_unicode"
  | .notPath => "path_type"
  | .broken _ => "value_error"

/-- The wording of a problem. -/
def message : Problem → String
  | .notSection name => "Input should be a valid dictionary or instance of " ++ name
  | .notInteger => "Input should be a valid integer"
  | .fractional => "Input should be a valid integer, got a number with a fractional part"
  | .notFinite => "Input should be a finite number"
  | .integerText => "Input should be a valid integer, unable to parse string as an integer"
  | .integerSize => "Unable to parse input string as an integer, exceeded maximum size"
  | .notNumber => "Input should be a valid number"
  | .numberText => "Input should be a valid number, unable to parse string as a number"
  | .notList => "Input should be a valid list"
  | .notText => "Input should be a valid string"
  | .unpaired => "Input should be a valid string, unable to parse raw data as a unicode string"
  | .notPath => "Input is not a valid path for <class 'pathlib.Path'>"
  | .broken rule => "Value error, " ++ rule.message

end Problem

/-- A problem at a place of the data. -/
structure Violation where
  /-- The way to the datum, from the outermost section. -/
  place : List Step
  /-- What is wrong with it. -/
  problem : Problem
  /-- The datum. -/
  given : Value

/-- The longest prefix of a text that fits into a number of bytes. -/
def fitFront (limit : Nat) : List Char → List Char
  | [] => []
  | c :: rest =>
    let n := (Text.Utf8.encodeChar c).length
    if n ≤ limit then c :: fitFront (limit - n) rest else []

/-- The longest suffix of a text that fits into a number of bytes. -/
def fitBack (limit : Nat) (cs : List Char) : List Char := (fitFront limit cs.reverse).reverse

/-- The text of a datum in a report; of more than fifty bytes the middle is left out. -/
def excerpt (s : String) : String :=
  if (Text.Utf8.encode s).length ≤ 50 then s
  else String.ofList (fitFront 25 s.toList ++ "...".toList ++ fitBack 24 s.toList)

/-- The lines of a report about one violation. -/
def Violation.report (v : Violation) : String :=
  Text.joinText '.' (v.place.map Step.text) ++ "\n  " ++ v.problem.message ++ " [type="
    ++ v.problem.code ++ ", input_value=" ++ excerpt v.given.literal ++ ", input_type="
    ++ v.given.typeName ++ "]\n    For further information visit "
    ++ "https://errors.pydantic.dev/2.14/v/" ++ v.problem.code

/-- The report about all violations of a configuration. -/
def report (violations : List Violation) : String :=
  toString violations.length ++ " validation error" ++ (if violations.length = 1 then "" else "s")
    ++ " for Config\n" ++ Text.joinText '\n' (violations.map Violation.report)

end IndexSync.Config
