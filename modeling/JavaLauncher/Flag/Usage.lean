import JavaLauncher.Flag.Basic

/-!
# Usage and version texts

The usage text names the program and lists the described flags of a registry, one to a line,
with the descriptions in a column of their own. The version text is one line.
-/
namespace JavaLauncher

/-- The width of the column that holds the spellings of a flag. -/
def usageColumn : Nat := 38

/-- The version of the launcher. -/
def launcherVersion : String := "0.3.0"

namespace Flag

/-- The spellings of a flag in the usage text: the short one, then the long one, which shows
the name of a value that the flag takes. -/
def usageSpellings (flag : Flag) : String :=
  let long :=
    match flag.arity, flag.valueName with
    | .takesValue, some name => flag.long ++ "=" ++ name
    | _, _ => flag.long
  match flag.short with
  | some short => short ++ ", " ++ long
  | none => long

/-- A text filled up with spaces to the width of the column. -/
def padColumn (text : String) : String :=
  text ++ String.ofList (List.replicate (usageColumn - text.toList.length) ' ')

/-- The line of a flag in the usage text, or nothing where the flag has no description. -/
def usageLine (flag : Flag) : String :=
  match flag.description with
  | some description => "  " ++ padColumn flag.usageSpellings ++ description ++ "\n"
  | none => ""

end Flag

/-- The usage text of a program with a registry of flags. -/
def usageMessage (program : String) (registry : List Flag) : String :=
  "Usage: " ++ program ++ " [OPTIONS...]\n" ++ String.join (registry.map Flag.usageLine) ++ "\n"

/-- The version text of a program. -/
def versionMessage (program : String) : String := program ++ " " ++ launcherVersion ++ "\n"

end JavaLauncher
