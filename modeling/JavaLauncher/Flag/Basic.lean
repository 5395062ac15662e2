/-!
# Flags of the launcher

A registry is a list of flag definitions. A definition has a long spelling, perhaps a short one
and some aliases; a flag that takes a value also answers to its long spelling followed by `=`
and the value. The first definition of a registry that recognises an argument decides what the
argument means.
-/
namespace JavaLauncher

/-- Whether a flag takes a value. -/
inductive Arity where
  /-- The flag stands alone. -/
  | alone
  /-- The flag takes the next argument, or the text after `=` on its long spelling. -/
  | takesValue
  deriving DecidableEq, Repr

/-- What a flag makes the launcher do. -/
inductive Effect where
  /-- Show the usage text and forward the flag. -/
  | showHelp
  /-- Show the version of the launcher and forward the flag. -/
  | showVersion
  /-- Replace the extra arguments of the Java virtual machine. -/
  | setJvmArguments
  /-- Forward every later argument as it is. -/
  | endOptions
  deriving DecidableEq, Repr

/-- The definition of one flag. -/
structure Flag where
  /-- The long spelling. -/
  long : String
  /-- The short spelling, if there is one. -/
  short : Option String
  /-- Further spellings, which are forwarded as the short or else the long one. -/
  aliases : List String
  /-- Whether the flag takes a value. -/
  arity : Arity
  /-- What the flag does. -/
  effect : Effect
  /-- What the usage text calls the value. -/
  valueName : Option String
  /-- What the usage text says about the flag; a flag without a description is left out. -/
  description : Option String
  deriving DecidableEq, Repr

namespace Flag

/-- Every spelling of a flag. -/
def spellings (flag : Flag) : List String := flag.long :: flag.short.toList ++ flag.aliases

/-- An argument is one of the spellings. -/
def isSpelled (flag : Flag) (argument : String) : Bool := flag.spellings.contains argument

/-- The value that an argument carries after the long spelling and `=`. -/
def attachedValue? (flag : Flag) (argument : String) : Option String :=
  match flag.arity with
  | .alone => none
  | .takesValue =>
    ((flag.long ++ "=").toList.isPrefixOf? argument.toList).map String.ofList

/-- The spelling under which an argument is forwarded: an alias becomes the short spelling, or
the long one where there is no short one. -/
def forwardedSpelling (flag : Flag) (argument : String) : String :=
  if flag.aliases.contains argument then flag.short.getD flag.long else argument

/-- How a flag recognises an argument: not at all, as a spelling, or with an attached value. -/
def recognise (flag : Flag) (argument : String) : Option (Flag × Option String) :=
  if flag.isSpelled argument then some (flag, none)
  else (flag.attachedValue? argument).map fun value => (flag, some value)

/-- The flags that the launcher knows by itself. -/
def builtin : List Flag := [
  { long := "--help", short := some "-?", aliases := ["/?"], arity := .alone,
    effect := .showHelp, valueName := none,
    description := some "Show this help (also passed on to ESXX)" },
  { long := "--version", short := none, aliases := [], arity := .alone,
    effect := .showVersion, valueName := none,
    description := some "Show launcher version (also passed on to ESXX)" },
  { long := "--jvmargs", short := some "-j", aliases := [], arity := .takesValue,
    effect := .setJvmArguments, valueName := some "<JVM args>",
    description := some "Extra arguments for Java" },
  { long := "--", short := none, aliases := [], arity := .alone,
    effect := .endOptions, valueName := none, description := none }]

/-- An argument is spelled exactly when it is the long spelling, the short one or an alias. -/
theorem isSpelled_iff {flag : Flag} {argument : String} :
    flag.isSpelled argument = true ↔
      argument = flag.long ∨ flag.short = some argument ∨ argument ∈ flag.aliases := by
  simp only [isSpelled, spellings, List.contains_eq_mem, decide_eq_true_eq, List.cons_append,
    List.mem_cons, List.mem_append, Option.mem_toList]

/-- What follows the front of a list is found exactly where the list is that front and it. -/
private theorem isPrefixOf?_eq_some_iff {front text rest : List Char} :
    front.isPrefixOf? text = some rest ↔ text = front ++ rest := by
  induction front generalizing text with
  | nil => exact Option.some_inj
  | cons c front ih =>
    cases text with
    | nil => exact ⟨nofun, nofun⟩
    | cons d text =>
      change (if c == d then front.isPrefixOf? text else none) = some rest ↔ _
      simp only [beq_iff_eq, List.cons_append, List.cons.injEq]
      split
      · rename_i same
        simp [ih, same]
      · rename_i other
        simp [Ne.symm other]

/-- An attached value is what follows the long spelling and `=` of a flag that takes a value. -/
theorem attachedValue?_eq_some_iff {flag : Flag} {argument value : String} :
    flag.attachedValue? argument = some value ↔
      flag.arity = .takesValue ∧ argument = flag.long ++ "=" ++ value := by
  cases flag with
  | mk long short aliases arity effect valueName description =>
    cases arity with
    | alone => simp [attachedValue?]
    | takesValue =>
      simp only [attachedValue?, Option.map_eq_some_iff, isPrefixOf?_eq_some_iff, true_and]
      constructor
      · rintro ⟨rest, split, rfl⟩
        apply String.toList_inj.1
        simp [split]
      · rintro rfl
        exact ⟨value.toList, by simp, String.ofList_toList⟩

/-- An argument that is no alias is forwarded as it is. -/
theorem forwardedSpelling_of_not_mem {flag : Flag} {argument : String}
    (outside : argument ∉ flag.aliases) : flag.forwardedSpelling argument = argument := by
  simp [forwardedSpelling, outside]

end Flag

/-- The first flag of a registry that recognises an argument, with its attached value. -/
def lookupFlag (registry : List Flag) (argument : String) : Option (Flag × Option String) :=
  registry.findSome? (·.recognise argument)

end JavaLauncher
