import JavaLauncher.CommandLine

/-!
# Unique decoding of quoted arguments

A quoted argument alone cannot be told from the front of a longer one: a backslash before a
double quote is either the escape of that quote or the last character of an argument that the
quote closes. What follows settles it. If one reading closes an argument where another one goes
on inside it, then from there on whatever the one reading takes for the space between two
arguments the other takes for the whole of an argument, and so the two never end at the same
place (`closed_ne_opened`). A line therefore has at most one list of arguments
(`line_addArguments_inj`).
-/
namespace JavaLauncher

namespace Shell

/-- Arguments as they are written after the end of a program or of another argument. -/
def closed (arguments : List (List Char)) : List Char :=
  arguments.flatMap fun argument => ' ' :: quoteChars argument

/-- The rest of an argument that is open, with the arguments written after it. -/
def opened (argument : List Char) (later : List (List Char)) : List Char :=
  argument.flatMap quoteChar ++ '"' :: closed later

/-- The first of some arguments is opened after a space. -/
theorem closed_cons (argument : List Char) (later : List (List Char)) :
    closed (argument :: later) = ' ' :: '"' :: opened argument later := by
  simp [closed, opened, quoteChars]

/-- A double quote of an open argument is written with a backslash before it. -/
theorem opened_quote_cons (argument : List Char) (later : List (List Char)) :
    opened ('"' :: argument) later = '\\' :: '"' :: opened argument later := by
  simp [opened, quoteChar]

/-- Any other character of an open argument is written as it is. -/
theorem opened_cons_of_ne {c : Char} (other : c ≠ '"') (argument : List Char)
    (later : List (List Char)) : opened (c :: argument) later = c :: opened argument later := by
  simp [opened, quoteChar, other]

/-- A double quote right where an argument goes on is the one that closes it. -/
theorem quote_cons_eq_opened {text argument : List Char} {later : List (List Char)}
    (same : '"' :: text = opened argument later) : argument = [] ∧ text = closed later := by
  cases argument with
  | nil => exact ⟨rfl, (List.cons.inj same).2⟩
  | cons c argument =>
    exfalso
    by_cases quote : c = '"'
    · rw [quote, opened_quote_cons] at same
      exact absurd (List.cons.inj same).1 (by decide)
    · rw [opened_cons_of_ne quote] at same
      exact quote (List.cons.inj same).1.symm

/-- What can be read with no argument open cannot be read with one open. -/
theorem closed_ne_opened : ∀ (arguments : List (List Char)) (argument : List Char)
    (later : List (List Char)), closed arguments ≠ opened argument later
  | [], argument, later => by simp [closed, opened]
  | first :: arguments, argument, later => by
    intro same
    rw [closed_cons] at same
    cases argument with
    | nil => exact absurd (List.cons.inj same).1 (by decide)
    | cons c argument =>
      by_cases quote : c = '"'
      · rw [quote, opened_quote_cons] at same
        exact absurd (List.cons.inj same).1 (by decide)
      · -- The space between two arguments is all there is of the open one, so that the two
        -- readings have changed places.
        rw [opened_cons_of_ne quote] at same
        obtain ⟨_, swapped⟩ := quote_cons_eq_opened (List.cons.inj same).2
        exact closed_ne_opened later first arguments swapped.symm
termination_by arguments _ later => arguments.length + later.length
decreasing_by simp only [List.length_cons]; omega

/-- An open argument and what follows it are determined by how they are written. -/
theorem opened_inj {left right : List Char} {leftLater rightLater : List (List Char)}
    (same : opened left leftLater = opened right rightLater) :
    left = right ∧ closed leftLater = closed rightLater := by
  induction left generalizing right with
  | nil =>
    obtain ⟨rfl, later⟩ := quote_cons_eq_opened same
    exact ⟨rfl, later⟩
  | cons c left ih =>
    cases right with
    | nil =>
      obtain ⟨impossible, _⟩ := quote_cons_eq_opened same.symm
      cases impossible
    | cons d right =>
      by_cases leftQuote : c = '"' <;> by_cases rightQuote : d = '"'
      · rw [leftQuote, rightQuote, opened_quote_cons, opened_quote_cons] at same
        obtain ⟨rfl, later⟩ := ih (List.cons.inj (List.cons.inj same).2).2
        exact ⟨by rw [leftQuote, rightQuote], later⟩
      · rw [leftQuote, opened_quote_cons, opened_cons_of_ne rightQuote] at same
        obtain ⟨_, closes⟩ := quote_cons_eq_opened (List.cons.inj same).2
        exact absurd closes.symm (closed_ne_opened rightLater left leftLater)
      · rw [rightQuote, opened_quote_cons, opened_cons_of_ne leftQuote] at same
        obtain ⟨_, closes⟩ := quote_cons_eq_opened (List.cons.inj same).2.symm
        exact absurd closes.symm (closed_ne_opened leftLater right rightLater)
      · rw [opened_cons_of_ne leftQuote, opened_cons_of_ne rightQuote] at same
        obtain ⟨rfl, rest⟩ := List.cons.inj same
        obtain ⟨rfl, later⟩ := ih rest
        exact ⟨rfl, later⟩

/-- Written arguments determine the arguments. -/
theorem closed_inj {left right : List (List Char)} (same : closed left = closed right) :
    left = right := by
  induction left generalizing right with
  | nil =>
    cases right with
    | nil => rfl
    | cons argument right =>
      rw [closed_cons] at same
      cases same
  | cons argument left ih =>
    cases right with
    | nil =>
      rw [closed_cons] at same
      cases same
    | cons other right =>
      rw [closed_cons, closed_cons] at same
      obtain ⟨rfl, later⟩ := opened_inj (List.cons.inj (List.cons.inj same).2).2
      rw [ih later]

end Shell

namespace CommandLine

/-- Added arguments are written after the line that was there. -/
theorem toList_line_addArguments (commandLine : CommandLine) (arguments : List String) :
    (commandLine.addArguments arguments).line.toList =
      commandLine.line.toList ++ Shell.closed (arguments.map String.toList) := by
  rw [addArguments, line_add]
  simp [Shell.closed, Part.written, List.flatMap_map]

/-- Two lists of arguments added to one command line give the same line only if they are the
same list, whatever double quotes, backslashes and spaces their arguments hold. -/
theorem line_addArguments_inj (commandLine : CommandLine) (left right : List String) :
    (commandLine.addArguments left).line = (commandLine.addArguments right).line ↔
      left = right := by
  constructor
  · intro same
    have written := congrArg String.toList same
    rw [toList_line_addArguments, toList_line_addArguments, List.append_cancel_left_eq] at written
    exact (List.map_inj_right fun _ _ => String.toList_inj.1).1 (Shell.closed_inj written)
  · intro same
    rw [same]

end CommandLine

end JavaLauncher
