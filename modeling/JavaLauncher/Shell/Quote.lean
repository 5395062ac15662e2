/-!
# Quoted arguments

An argument is written between double quotes with a backslash before each double quote of its
own. Backslashes are copied as they are.
-/
namespace JavaLauncher.Shell

/-- One character of an argument as it stands between the quotes. -/
def quoteChar (c : Char) : List Char := if c = '"' then ['\\', '"'] else [c]

/-- The characters of an argument's written form. -/
def quoteChars (argument : List Char) : List Char :=
  '"' :: argument.flatMap quoteChar ++ ['"']

/-- An argument as it is written on a command line. -/
def quote (argument : String) : String := String.ofList (quoteChars argument.toList)

/-- The characters of a quoted argument. -/
@[simp] theorem toList_quote (argument : String) :
    (quote argument).toList = quoteChars argument.toList := String.toList_ofList

end JavaLauncher.Shell
