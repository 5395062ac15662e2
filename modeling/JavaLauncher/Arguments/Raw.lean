import JavaLauncher.Warning

/-!
# Raw arguments

The system hands arguments over as bytes. Each becomes a text by itself: valid UTF-8 as it is,
and anything else with its invalid sequences replaced, which is warned about.
-/
namespace JavaLauncher.RawArguments

/-- The texts of raw arguments, in order. -/
def texts (arguments : List (List UInt8)) : List String := arguments.map Text.Utf8.decodeLossy

/-- The warning about the raw argument at a position, if it is not valid. -/
def warning? (argument : List UInt8 × Nat) : Option Warning :=
  match Text.Utf8.decode? argument.1 with
  | some _ => none
  | none => some (.repairedArgument argument.2 (Text.Utf8.decodeLossy argument.1))

/-- The warnings about raw arguments, in order; positions count from one. -/
def warnings (arguments : List (List UInt8)) : List Warning :=
  (arguments.zipIdx 1).filterMap warning?

/-- Every argument has a text. -/
theorem length_texts (arguments : List (List UInt8)) :
    (texts arguments).length = arguments.length := List.length_map _

end JavaLauncher.RawArguments
