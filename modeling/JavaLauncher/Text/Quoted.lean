import JavaLauncher.Text.Unprinted

/-!
# Quoted texts in diagnostics

A diagnostic shows a text between double quotes. A quote and a backslash are escaped, four
control characters have short escapes, and any other character that would not be visible is
written as its code point in lower-case hexadecimal between braces.
-/
namespace JavaLauncher.Text

/-- One character as it stands between the quotes. -/
def quotedChar (c : Char) : List Char :=
  if c = '"' then ['\\', '"']
  else if c = '\\' then ['\\', '\\']
  else if c = '\n' then ['\\', 'n']
  else if c = '\r' then ['\\', 'r']
  else if c = '\t' then ['\\', 't']
  else if c = '\x00' then ['\\', '0']
  else if isUnprinted c then
    ['\\', 'u', '\x7b'] ++ Nat.toDigits 16 c.toNat ++ ['\x7d']
  else [c]

/-- A text as a diagnostic shows it. -/
def quoted (text : String) : String :=
  String.ofList ('"' :: text.toList.flatMap quotedChar ++ ['"'])

end JavaLauncher.Text
