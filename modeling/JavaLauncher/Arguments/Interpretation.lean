import JavaLauncher.Flag.Basic

/-!
# The interpretation of arguments

The arguments of a launch are read from left to right. While they are interpreted, the flags of
a registry are acted upon: a request for help or for the version is noted and forwarded, a
value for the Java virtual machine is kept, and the end of the options turns interpretation off
for good. Every other argument is forwarded, and so is a flag whose value is missing because it
is the last argument. Once relayed, arguments are forwarded as they are.
-/
namespace JavaLauncher

/-- How the next argument is treated. -/
inductive Treatment where
  /-- Flags are acted upon. -/
  | interpreted
  /-- Everything is forwarded as it is. -/
  | relayed
  deriving DecidableEq, Repr

/-- A text that the user asked the launcher to show. -/
inductive Request where
  /-- The usage text. -/
  | help
  /-- The version text. -/
  | version
  deriving DecidableEq, Repr

/-- What an argument list asks for. -/
structure Interpretation where
  /-- The last value given for the extra arguments of the Java virtual machine. -/
  jvmArguments : Option String
  /-- The arguments for the program, in order. -/
  forwarded : List String
  /-- The texts to show, in the order of their requests. -/
  requests : List Request
  /-- How an argument after the last one would be treated. -/
  treatment : Treatment
  deriving DecidableEq, Repr

namespace Interpretation

/-- Nothing is asked for. -/
def nothing (treatment : Treatment) : Interpretation := ⟨none, [], [], treatment⟩

/-- One more argument is forwarded, before the others. -/
def forward (argument : String) (later : Interpretation) : Interpretation :=
  { later with forwarded := argument :: later.forwarded }

/-- One more text is shown, before the others. -/
def ask (request : Request) (later : Interpretation) : Interpretation :=
  { later with requests := request :: later.requests }

/-- A value is given for the virtual machine, which counts unless a later one is given. -/
def jvmValue (value : String) (later : Interpretation) : Interpretation :=
  { later with jvmArguments := later.jvmArguments.or (some value) }

end Interpretation

/-- What an argument list asks for under a registry of flags. -/
def interpret (registry : List Flag) : Treatment → List String → Interpretation
  | .relayed, arguments => ⟨none, arguments, [], .relayed⟩
  | .interpreted, [] => .nothing .interpreted
  | .interpreted, argument :: rest =>
    match lookupFlag registry argument with
    | none => (interpret registry .interpreted rest).forward argument
    | some (flag, attached) =>
      match flag.effect with
      | .showHelp =>
        (interpret registry .interpreted rest).forward (flag.forwardedSpelling argument)
          |>.ask .help
      | .showVersion =>
        (interpret registry .interpreted rest).forward (flag.forwardedSpelling argument)
          |>.ask .version
      | .setJvmArguments =>
        match attached, rest with
        | some value, rest => (interpret registry .interpreted rest).jvmValue value
        | none, [] => (Interpretation.nothing .interpreted).forward argument
        | none, value :: later => (interpret registry .interpreted later).jvmValue value
      | .endOptions => interpret registry .relayed rest

/-- Relayed arguments are forwarded as they are. -/
theorem interpret_relayed (registry : List Flag) (arguments : List String) :
    interpret registry .relayed arguments = ⟨none, arguments, [], .relayed⟩ := by
  cases arguments <;> simp [interpret]

/-- An argument that no flag recognises is forwarded. -/
theorem interpret_cons_of_unknown {registry : List Flag} {argument : String}
    (unknown : lookupFlag registry argument = none) (rest : List String) :
    interpret registry .interpreted (argument :: rest) =
      (interpret registry .interpreted rest).forward argument := by
  simp [interpret, unknown]

end JavaLauncher
