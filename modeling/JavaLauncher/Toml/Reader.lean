/-!
# Readers

A reader takes a value from the front of a text and returns the text after it, or refuses the
text. This module holds the readers for what separates the parts of a configuration file: blank
characters, line ends and comments.
-/
namespace JavaLauncher.Toml

/-- Takes a value from the front of a text. -/
abbrev Reader (α : Type) := List Char → Option (α × List Char)

/-- The characters that separate parts within a line. -/
def isBlank (c : Char) : Bool := c == ' ' || c == '\t'

/-- The characters that may stand in a comment or a one-line text: all but the control
characters other than the tab. -/
def isPrintable (c : Char) : Bool := c == '\t' || ('\x20' ≤ c && c != '\x7f')

/-- A text without the blanks at its front. -/
def skipBlanks (text : List Char) : List Char := text.dropWhile isBlank

/-- The text after a line end at its front: a newline, perhaps with a carriage return before. -/
def newline? : List Char → Option (List Char)
  | '\n' :: rest => some rest
  | '\r' :: '\n' :: rest => some rest
  | _ => none

/-- The text after the comment at its front, if there is one; the line end stays. -/
def skipComment : List Char → List Char
  | '#' :: rest => rest.dropWhile isPrintable
  | text => text

/-- The text after the end of a line: blanks, a comment and a line end, or the end of the text. -/
def lineEnd? (text : List Char) : Option (List Char) :=
  match skipComment (skipBlanks text) with
  | [] => some []
  | rest => newline? rest

/-- A text without the blanks, comments and line ends at its front, which must not be broken
off in the middle. -/
def skipLines (text : List Char) : List Char :=
  go text.length text
where
  /-- Skips at most the given number of line ends. -/
  go : Nat → List Char → List Char
    | 0, text => skipComment (skipBlanks text)
    | bound + 1, text =>
      let here := skipComment (skipBlanks text)
      match newline? here with
      | some rest => go bound rest
      | none => here

/-- The value of a hexadecimal digit. -/
def hexDigit? (c : Char) : Option Nat :=
  if c.isDigit then some (c.toNat - '0'.toNat)
  else if 'a' ≤ c ∧ c ≤ 'f' then some (c.toNat - 'a'.toNat + 10)
  else if 'A' ≤ c ∧ c ≤ 'F' then some (c.toNat - 'A'.toNat + 10)
  else none

end JavaLauncher.Toml
