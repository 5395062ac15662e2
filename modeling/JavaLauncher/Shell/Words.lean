/-!
# Shell words

A text is split into words as a POSIX shell splits a command. Words are separated by spaces,
tabs and newlines; single quotes keep everything, double quotes keep everything but the escapes
of `$`, a backquote, `"`, `\` and a newline, and outside quotes a backslash escapes any
character. An escaped newline joins what stands around it, and a `#` where a word could begin
starts a comment that runs to the end of its line.

The splitter reads one character at a time. A text that ends inside quotes or right after a
backslash has no words at all.
-/
namespace JavaLauncher.Shell

/-- Where the splitter stands between two characters. -/
inductive Mode where
  /-- No word is open. -/
  | between
  /-- No word is open, up to the end of the line. -/
  | comment
  /-- A word is open, outside quotes. -/
  | plain
  /-- A word is open, after a backslash outside quotes. -/
  | escape
  /-- A word is open, inside single quotes. -/
  | single
  /-- A word is open, inside double quotes. -/
  | double
  /-- A word is open, after a backslash inside double quotes. -/
  | doubleEscape
  deriving DecidableEq, Repr

/-- What one character does to the words. -/
inductive Action where
  /-- The character lies between words. -/
  | skip
  /-- The open word, opened here if need be, goes on with some characters. -/
  | extend (characters : List Char)
  /-- The open word ends. -/
  | finish
  deriving DecidableEq, Repr

/-- The characters that separate words. -/
def isSeparator (c : Char) : Bool := c == ' ' || c == '\t' || c == '\n'

/-- The characters that a backslash escapes inside double quotes, a newline apart. -/
def isDoubleEscapable (c : Char) : Bool := c == '$' || c == '\x60' || c == '"' || c == '\\'

/-- A character of a word, outside quotes. -/
def plainStep (c : Char) : Action × Mode :=
  if c = '"' then (.extend [], .double)
  else if c = '\'' then (.extend [], .single)
  else if c = '\\' then (.extend [], .escape)
  else (.extend [c], .plain)

/-- What a character does, and where the splitter stands after it. -/
def step : Mode → Char → Action × Mode
  | .between, c =>
    if isSeparator c then (.skip, .between)
    else if c = '#' then (.skip, .comment)
    else plainStep c
  | .comment, c => (.skip, if c = '\n' then .between else .comment)
  | .plain, c => if isSeparator c then (.finish, .between) else plainStep c
  | .escape, c => (.extend (if c = '\n' then [] else [c]), .plain)
  | .single, c => if c = '\'' then (.extend [], .plain) else (.extend [c], .single)
  | .double, c =>
    if c = '"' then (.extend [], .plain)
    else if c = '\\' then (.extend [], .doubleEscape)
    else (.extend [c], .double)
  | .doubleEscape, c =>
    if c = '\n' then (.extend [], .double)
    else if isDoubleEscapable c then (.extend [c], .double)
    else (.extend ['\\', c], .double)

/-- The words of a text that ends in a given mode: none, the end of the open one, or a refusal. -/
def Mode.atEnd : Mode → Option (List (List Char))
  | .between | .comment => some []
  | .plain => some [[]]
  | .escape | .single | .double | .doubleEscape => none

/-- The words from a character on, given what the character does and the words after it. -/
def Action.apply : Action → List (List Char) → List (List Char)
  | .skip, words => words
  | .extend characters, [] => [characters]
  | .extend characters, word :: words => (characters ++ word) :: words
  | .finish, words => [] :: words

/-- The words of a text read from a mode on; the first is the rest of the open word, if there
is one. -/
def wordsFrom (mode : Mode) : List Char → Option (List (List Char))
  | [] => mode.atEnd
  | c :: rest => (wordsFrom (step mode c).2 rest).map (step mode c).1.apply

/-- The words of a text, or nothing where a quote is left open or a backslash ends the text. -/
def words? (text : String) : Option (List String) :=
  (wordsFrom .between text.toList).map (·.map String.ofList)

end JavaLauncher.Shell
