import JavaLauncher.Shell.Words
import JavaLauncher.Shell.Quote
import JavaLauncher.Text.Blank

/-!
# Command lines

A command line is a program and the parts that follow it. It has two readings: one line of
text, in which arguments are quoted, and the list of arguments themselves. Each kind of part
says how it is written and which arguments it stands for, and both readings are made from the
parts, so neither is ever taken apart to find the other.

Extra arguments are the one part that is written as it is. Its arguments are the shell words of
its text, or what is between white space where the text has unbalanced quotes.
-/
namespace JavaLauncher

/-- A part of a command line. -/
inductive Part where
  /-- A text of any number of arguments, written as it is. -/
  | extra (text : String) (nonempty : text ≠ "")
  /-- A system property of the Java virtual machine. -/
  | property (name value : String)
  /-- The archive that holds the program to run. -/
  | mainArchive (path : String)
  /-- The announcement that the arguments of a script follow. -/
  | scriptMarker
  /-- An argument of the program to run. -/
  | argument (text : String)
  deriving DecidableEq, Repr

namespace Part

/-- The arguments that stand in a text of extra arguments. -/
def extraWords (text : String) : List String := (Shell.words? text).getD (Text.blankWords text)

/-- A system property as one argument. -/
def propertyText (name value : String) : String := "-D" ++ name ++ "=" ++ value

/-- The arguments that a part stands for. -/
def arguments : Part → List String
  | .extra text _ => extraWords text
  | .property name value => [propertyText name value]
  | .mainArchive path => ["-jar", path]
  | .scriptMarker => ["--script", "--"]
  | .argument text => [text]

/-- A part as it is written on a line. -/
def written : Part → String
  | .extra text _ => text
  | .property name value => "\"" ++ propertyText name value ++ "\""
  | .mainArchive path => "-jar \"" ++ path ++ "\""
  | .scriptMarker => "--script --"
  | .argument text => Shell.quote text

end Part

/-- A program with the parts that follow it. -/
structure CommandLine where
  /-- The program to run. -/
  program : String
  /-- What follows the program, in order. -/
  parts : List Part
  deriving DecidableEq, Repr

namespace CommandLine

/-- The command line of a program alone. -/
def ofProgram (program : String) : CommandLine := ⟨program, []⟩

/-- A command line with more parts at its end. -/
def add (commandLine : CommandLine) (parts : List Part) : CommandLine :=
  { commandLine with parts := commandLine.parts ++ parts }

/-- Adds extra arguments; an empty text adds nothing. -/
def addExtra (commandLine : CommandLine) (text : String) : CommandLine :=
  if nonempty : text ≠ "" then commandLine.add [.extra text nonempty] else commandLine

/-- Adds a system property. -/
def addProperty (commandLine : CommandLine) (name value : String) : CommandLine :=
  commandLine.add [.property name value]

/-- Adds the archive that holds the program to run. -/
def addMainArchive (commandLine : CommandLine) (path : String) : CommandLine :=
  commandLine.add [.mainArchive path]

/-- Adds the announcement of a script's arguments, if there is a script. -/
def addScriptMarker (commandLine : CommandLine) (isScript : Bool) : CommandLine :=
  if isScript then commandLine.add [.scriptMarker] else commandLine

/-- Adds arguments of the program to run. -/
def addArguments (commandLine : CommandLine) (arguments : List String) : CommandLine :=
  commandLine.add (arguments.map .argument)

/-- The arguments of a command line, without the program. -/
def arguments (commandLine : CommandLine) : List String :=
  commandLine.parts.flatMap Part.arguments

/-- The program as it is written on the line. -/
def writtenProgram (commandLine : CommandLine) : String := "\"" ++ commandLine.program ++ "\""

/-- The line from the end of the program on. -/
def tail (commandLine : CommandLine) : String :=
  String.join (commandLine.parts.map fun part => " " ++ part.written)

/-- The line. -/
def line (commandLine : CommandLine) : String := commandLine.writtenProgram ++ commandLine.tail

/-- The line without the program and the white space that follows it. -/
def argumentText (commandLine : CommandLine) : String :=
  Text.trimFront (String.ofList
    (commandLine.line.toList.drop commandLine.writtenProgram.toList.length))

/-- What follows the written program on the line is the tail. -/
theorem drop_line (commandLine : CommandLine) :
    commandLine.line.toList.drop commandLine.writtenProgram.toList.length =
      commandLine.tail.toList := by
  simp [line]

/-- The arguments of added parts follow those that were there. -/
theorem arguments_add (commandLine : CommandLine) (parts : List Part) :
    (commandLine.add parts).arguments =
      commandLine.arguments ++ parts.flatMap Part.arguments := by
  simp [arguments, add]

/-- What added parts write follows the line that was there, each after a space. -/
theorem line_add (commandLine : CommandLine) (parts : List Part) :
    (commandLine.add parts).line =
      commandLine.line ++ String.join (parts.map fun part => " " ++ part.written) := by
  apply String.toList_inj.1
  simp [line, tail, writtenProgram, add]

end CommandLine

end JavaLauncher
