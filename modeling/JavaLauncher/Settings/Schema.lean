import JavaLauncher.Settings.Basic
import JavaLauncher.Toml.Value
import JavaLauncher.Number.Shortest
import JavaLauncher.Text.Quoted

/-!
# The settings in a table

A table of settings has no names but `java_home` and `jvmargs`, which stand for texts, and
`search_path`, which stands for a list of texts. The names are looked at in the order of their
characters, and the first that breaks these rules is what is wrong with the table. A value that is
not what is expected is told by what it is called. A number in its place that is out of range, or
that its digits do not spell, is called nothing, and is then what is wrong instead.
-/
namespace JavaLauncher

namespace SchemaError

/-- The text of a finite or infinite number, unless it is beyond the range of the format. -/
def floatText? : Toml.FloatLiteral → Option String
  | .infinite negative => some (if negative then "-inf" else "inf")
  | .notANumber => some "NaN"
  | .decimal negative mantissa exponent =>
    (Binary64.ofDecimal mantissa exponent).map fun value =>
      if negative then "-" ++ value.text else value.text

/-- The text of an integer with the width that it needs, unless it needs more than 128 bits. -/
def integerText? (number : Int) : Option String :=
  if -Int.pow 2 63 ≤ number ∧ number < Int.pow 2 64 then
    some ("integer \x60" ++ toString number ++ "\x60")
  else if -Int.pow 2 127 ≤ number ∧ number < Int.pow 2 127 then
    some ("integer \x60" ++ toString number ++ "\x60 as i128")
  else if 0 ≤ number ∧ number < Int.pow 2 128 then
    some ("integer \x60" ++ toString number ++ "\x60 as u128")
  else none

/-- What a diagnostic calls a value. A number that is out of range or spelled by no digits has no
name. -/
def valueName? : Toml.Value → Option String
  | .string text => some ("string " ++ Text.quoted text)
  | .integer number => integerText? number
  | .illegible => none
  | .float literal => (floatText? literal).map fun text => "floating point \x60" ++ text ++ "\x60"
  | .boolean truth => some ("boolean \x60" ++ (if truth then "true" else "false") ++ "\x60")
  | .dateTime => some "map"
  | .array _ => some "sequence"
  | .table _ => some "map"

end SchemaError

/-- What is wrong with a table of settings. -/
inductive SchemaError where
  /-- A name that no setting has. -/
  | unknownName (name : String)
  /-- A value that is not what the setting expects, and that has a name. -/
  | wrongType (found : Toml.Value) (expected : String)
      (named : (SchemaError.valueName? found).isSome)
  /-- A number that there is not, where the setting expects something else. -/
  | noSuchNumber (found : Toml.Value) (unnamed : SchemaError.valueName? found = none)

namespace SchemaError

/-- What is wrong with a value that is not what a setting expects. -/
def ofMismatch (found : Toml.Value) (expected : String) : SchemaError :=
  match told : valueName? found with
  | some _ => .wrongType found expected (told ▸ rfl)
  | none => .noSuchNumber found told

/-- The diagnostic of a schema error. A number that there is not has one of its own, which is not
told here. -/
def message? : SchemaError → Option String
  | .unknownName name =>
    some ("unknown field \x60" ++ name ++
      "\x60, expected one of \x60java_home\x60, \x60jvmargs\x60, \x60search_path\x60")
  | .wrongType found expected named =>
    some ("invalid type: " ++ (valueName? found).get named ++ ", expected " ++ expected)
  | .noSuchNumber _ _ => none

end SchemaError

namespace Settings

/-- A value as a text. -/
def textOf : Toml.Value → Except SchemaError String
  | .string text => .ok text
  | found => .error (.ofMismatch found "a string")

/-- A value as a list of texts. -/
def textsOf : Toml.Value → Except SchemaError (List String)
  | .array items => items.mapM textOf
  | found => .error (.ofMismatch found "a sequence")

/-- Settings with one more named value. -/
def withEntry (settings : Settings) (entry : String × Toml.Value) : Except SchemaError Settings :=
  if entry.1 = "java_home" then
    (textOf entry.2).map fun text => { settings with javaHome := some text }
  else if entry.1 = "jvmargs" then
    (textOf entry.2).map fun text => { settings with jvmArguments := some text }
  else if entry.1 = "search_path" then
    (textsOf entry.2).map fun texts => { settings with searchPath := some texts }
  else .error (.unknownName entry.1)

/-- The entries of a table in the order of their names. -/
def ordered (table : Toml.Table) : Toml.Table :=
  table.mergeSort fun first second => decide (first.1 ≤ second.1)

/-- The settings in a table. -/
def ofTable (table : Toml.Table) : Except SchemaError Settings :=
  (ordered table).foldlM withEntry unset

/-- A table without entries sets nothing. -/
theorem ofTable_nil : ofTable [] = .ok unset := by
  simp [ofTable, ordered]
  rfl

end Settings

end JavaLauncher
