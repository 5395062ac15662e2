/-!
# Values of a configuration file

A configuration file holds a table of named values. A number is kept as it was written, with
all its digits, so that the reader of a value decides what range it accepts. An integer whose
digits spell no number is a value too, since a file is refused for its form alone. Dates and
times are recognised but not looked into.
-/
namespace JavaLauncher.Toml

/-- A floating-point number as it was written. -/
inductive FloatLiteral where
  /-- An infinity, perhaps negative. -/
  | infinite (negative : Bool)
  /-- Not a number. -/
  | notANumber
  /-- `mantissa * 10 ^ exponent`, perhaps negated. -/
  | decimal (negative : Bool) (mantissa : Nat) (exponent : Int)
  deriving DecidableEq, Repr

/-- A value of a configuration file. -/
inductive Value where
  /-- A text. -/
  | string (text : String)
  /-- An integer of any size. -/
  | integer (number : Int)
  /-- What has the form of an integer, but whose digits spell none. -/
  | illegible
  /-- A floating-point number. -/
  | float (literal : FloatLiteral)
  /-- A truth value. -/
  | boolean (truth : Bool)
  /-- A date, a time or both. -/
  | dateTime
  /-- A list of values. -/
  | array (items : List Value)
  /-- A table of named values. -/
  | table (entries : List (String × Value))

/-- A table of named values. -/
abbrev Table := List (String × Value)

end JavaLauncher.Toml
