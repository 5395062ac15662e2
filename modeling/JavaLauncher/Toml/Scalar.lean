import JavaLauncher.Toml.Quoted
import JavaLauncher.Toml.Number
import JavaLauncher.Toml.DateTime

/-!
# Scalars

A scalar is a quoted text or a word: a truth value, a number, or a date or time. A word runs to
the end of its line, to a comment or to a character with a meaning of its own. The blanks inside
it belong to it, so that a date and its time may stand apart; the blanks after it do not. A
quote inside a word is a character like any other, but after a blank it begins a text of its own
and so ends the word.
-/
namespace JavaLauncher.Toml

/-- The characters that end a word. -/
def endsWord (c : Char) : Bool :=
  ['\n', '\r', ',', '#', '=', '[', ']', '\x7b', '\x7d'].contains c

/-- A quote of either kind. -/
def isQuote (c : Char) : Bool := c == '"' || c == '\''

/-- The word at the front of a text with the blanks after it, and the text after those; the flag
tells whether a blank stands before the text. -/
def spanWord : (afterBlank : Bool) → List Char → List Char × List Char
  | _, [] => ([], [])
  | afterBlank, c :: rest =>
    if endsWord c || (afterBlank && isQuote c) then ([], c :: rest)
    else
      let (word, after) := spanWord (isBlank c) rest
      (c :: word, after)

/-- The word at the front of a text, and the text after it and the blanks that follow it. -/
def takeWord (text : List Char) : List Char × List Char :=
  let (word, rest) := spanWord false text
  ((word.reverse.dropWhile isBlank).reverse, rest)

/-- The value of a word. -/
def wordValue? (word : List Char) : Option Value :=
  if word = ['t', 'r', 'u', 'e'] then some (.boolean true)
  else if word = ['f', 'a', 'l', 's', 'e'] then some (.boolean false)
  else if isDateTime word then some .dateTime
  else numberValue? word

/-- A scalar. -/
def scalarValue? (text : List Char) : Option (Value × List Char) :=
  match text with
  | '"' :: _ => (quotedText? text).map fun found => (.string found.1, found.2)
  | '\'' :: _ => (quotedText? text).map fun found => (.string found.1, found.2)
  | _ => (wordValue? (takeWord text).1).map fun value => (value, (takeWord text).2)

end JavaLauncher.Toml
