import JavaLauncher.Toml.Scalar
import JavaLauncher.Toml.Node

/-!
# Documents

A document is a list of lines: settings of the form `key = value`, headers that say which table
the settings after them belong to, comments and empty lines. A value is a scalar, an array or
an inline table; arrays and inline tables may run over several lines, hold comments and end in
a comma, and the lines of an inline table may also break around an equals sign. How deep they
nest, and how many steps a dotted key has, is limited.

The text of a document is read as a whole: either all of it follows these rules and its table
is returned, or nothing is.
-/
namespace JavaLauncher.Toml

/-- How deep arrays and inline tables may nest, and how many tables a dotted key may enter. -/
def nestingLimit : Nat := 80

/-- The characters of a key without quotes. -/
def isBareKey (c : Char) : Bool := c.isAlphanum || c == '_' || c == '-'

/-- One step of a dotted key. A key in quotes stands on one line. -/
def keyStep? (text : List Char) : Option (String × List Char) :=
  match text with
  | '"' :: '"' :: '"' :: _ => none
  | '\'' :: '\'' :: '\'' :: _ => none
  | '"' :: _ => quotedLine? text
  | '\'' :: _ => quotedLine? text
  | _ =>
    let key := text.takeWhile isBareKey
    if key = [] then none else some (String.ofList key, text.drop key.length)

/-- The steps of a dotted key, of which there are at most as many as the number tells. Blanks
may stand around each dot and after the key. -/
def keySteps? : Nat → Reader (List String)
  | 0, _ => none
  | bound + 1, text => do
    let (step, rest) ← keyStep? text
    match skipBlanks rest with
    | '.' :: rest =>
      let (steps, rest) ← keySteps? bound (skipBlanks rest)
      some (step :: steps, rest)
    | rest => some ([step], rest)

/-- A dotted key: the tables it enters and the name it sets there. -/
def key? (text : List Char) : Option ((List String × String) × List Char) := do
  let (steps, rest) ← keySteps? nestingLimit text
  let name ← steps.getLast?
  some ((steps.dropLast, name), rest)

/-- The rest of an array after its bracket or one of its commas, given a reader of its items.
The number bounds the items still to be read. -/
def items? (item : Reader Value) : Nat → Reader (List Value)
  | 0, _ => none
  | bound + 1, text =>
    match skipLines text with
    | ']' :: rest => some ([], rest)
    | text => do
      let (value, rest) ← item text
      match skipLines rest with
      | ',' :: rest =>
        let (values, rest) ← items? item bound rest
        some (value :: values, rest)
      | ']' :: rest => some ([value], rest)
      | _ => none

/-- A key, an equals sign and a value, given what may be skipped on either side of the sign and
a reader of values. -/
def setting? (skip : List Char → List Char) (value : Reader Value) :
    Reader ((List String × String) × Value) := fun text => do
  let (key, rest) ← key? text
  match skip rest with
  | '=' :: rest =>
    let (found, rest) ← value (skip rest)
    some ((key, found), rest)
  | _ => none

/-- The rest of an inline table after its brace or one of its commas, given a reader of its
values and what has been read before. The number bounds the settings still to be read. -/
def inlineSettings? (value : Reader Value) : Nat → Nodes → Reader Nodes
  | 0, _, _ => none
  | bound + 1, nodes, text =>
    match skipLines text with
    | '\x7d' :: rest => some (nodes, rest)
    | text => do
      let (((path, name), found), rest) ← setting? skipLines value text
      let nodes ← nodes.assign name found path true
      match skipLines rest with
      | ',' :: rest => inlineSettings? value bound nodes rest
      | '\x7d' :: rest => some (nodes, rest)
      | _ => none

/-- A value in which arrays and inline tables nest at most to a given depth. -/
def value? : Nat → Reader Value
  | 0, text => scalarValue? text
  | depth + 1, text =>
    match text with
    | '[' :: rest =>
      (items? (value? depth) (rest.length + 1) rest).map fun found => (.array found.1, found.2)
    | '\x7b' :: rest =>
      (inlineSettings? (value? depth) (rest.length + 1) [] rest).map fun found =>
        (.table (finishTable found.1), found.2)
    | _ => scalarValue? text

/-- What has been read of a document. -/
structure Progress where
  /-- The table of the document. -/
  root : Nodes
  /-- The header under which settings stand. -/
  header : List String

/-- One header or setting, with the end of its line. -/
def statement? (progress : Progress) (text : List Char) : Option (Progress × List Char) :=
  match text with
  | '[' :: '[' :: rest => do
    let ((path, name), rest) ← key? (skipBlanks rest)
    match rest with
    | ']' :: ']' :: rest =>
      let root ← progress.root.openElement path name
      let rest ← lineEnd? rest
      some (⟨root, path ++ [name]⟩, rest)
    | _ => none
  | '[' :: rest => do
    let ((path, name), rest) ← key? (skipBlanks rest)
    match rest with
    | ']' :: rest =>
      let root ← progress.root.openTable path name
      let rest ← lineEnd? rest
      some (⟨root, path ++ [name]⟩, rest)
    | _ => none
  | _ => do
    let (((path, name), found), rest) ← setting? skipBlanks (value? nestingLimit) text
    let root ← Nodes.enter (Nodes.assign name found path true) progress.header progress.root
    let rest ← lineEnd? rest
    some ({ progress with root }, rest)

/-- The headers and settings to the end of a text. The number bounds them. -/
def statements? : Nat → Progress → List Char → Option Nodes
  | 0, _, _ => none
  | bound + 1, progress, text =>
    match skipLines text with
    | [] => some progress.root
    | text => do
      let (progress, rest) ← statement? progress text
      statements? bound progress rest

/-- A text without a byte order mark at its front. -/
def dropByteOrderMark : List Char → List Char
  | '\ufeff' :: rest => rest
  | text => text

/-- The table of a document. -/
def parse? (text : String) : Option Table :=
  let body := dropByteOrderMark text.toList
  (statements? (body.length + 1) ⟨[], []⟩ body).map finishTable

end JavaLauncher.Toml
