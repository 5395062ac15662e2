import JavaLauncher.Arguments.Interpretation

/-!
# Interpretation of one argument list after another

Where a list of arguments is cut in two, the parts can be interpreted one after the other, the
second one as the first one leaves off. The only exception is a cut between a flag and its
value: there the first part dangles. A list that does not dangle is read through as arguments
of their own and flags with their values (`readThrough_or_dangles`), and what is read through
can be continued by any list (`ReadThrough.interpret_append`).
-/
namespace JavaLauncher

namespace Interpretation

/-- What is asked for by some arguments and then by more of them: the later value for the
virtual machine counts, and the rest is put one after the other. -/
def followedBy (earlier later : Interpretation) : Interpretation where
  jvmArguments := later.jvmArguments.or earlier.jvmArguments
  forwarded := earlier.forwarded ++ later.forwarded
  requests := earlier.requests ++ later.requests
  treatment := later.treatment

/-- Before anything was asked for, only what follows counts. -/
@[simp] theorem nothing_followedBy (treatment : Treatment) (later : Interpretation) :
    (nothing treatment).followedBy later = later := by
  simp [followedBy, nothing]

/-- Three interpretations may be put together from either end. -/
theorem followedBy_assoc (first second third : Interpretation) :
    (first.followedBy second).followedBy third = first.followedBy (second.followedBy third) := by
  simp [followedBy, Option.or_assoc]

/-- A forwarded argument stays in front of what follows. -/
@[simp] theorem forward_followedBy (argument : String) (earlier later : Interpretation) :
    (earlier.forward argument).followedBy later = (earlier.followedBy later).forward argument := by
  simp [followedBy, forward]

/-- A request stays in front of what follows. -/
@[simp] theorem ask_followedBy (request : Request) (earlier later : Interpretation) :
    (earlier.ask request).followedBy later = (earlier.followedBy later).ask request := by
  simp [followedBy, ask]

/-- A value counts only where neither what it stands in front of nor what follows has one. -/
@[simp] theorem jvmValue_followedBy (value : String) (earlier later : Interpretation) :
    (earlier.jvmValue value).followedBy later = (earlier.followedBy later).jvmValue value := by
  simp [followedBy, jvmValue]

end Interpretation

/-- The text that an effect shows. -/
def Effect.request? : Effect → Option Request
  | .showHelp => some .help
  | .showVersion => some .version
  | .setJvmArguments | .endOptions => none

/-- An argument is a flag that takes the next argument as its value. -/
def TakesNext (registry : List Flag) (argument : String) : Prop :=
  ∃ flag, lookupFlag registry argument = some (flag, none) ∧ flag.effect = .setJvmArguments

/-- How the arguments after an argument are treated. -/
def treatmentAfter (registry : List Flag) (argument : String) : Treatment :=
  match lookupFlag registry argument with
  | some (flag, _) => if flag.effect = .endOptions then .relayed else .interpreted
  | none => .interpreted

/-- No arguments ask for nothing. -/
theorem interpret_nil (registry : List Flag) (treatment : Treatment) :
    interpret registry treatment [] = .nothing treatment := by
  cases treatment <;> rfl

/-- The argument after a flag that takes one is its value. -/
theorem interpret_takesNext {registry : List Flag} {flag : String}
    (takes : TakesNext registry flag) (value : String) (rest : List String) :
    interpret registry .interpreted (flag :: value :: rest) =
      (interpret registry .interpreted rest).jvmValue value := by
  obtain ⟨definition, found, effect⟩ := takes
  simp [interpret, found, effect]

/-- A flag that lacks its value is forwarded. -/
theorem interpret_takesNext_last {registry : List Flag} {flag : String}
    (takes : TakesNext registry flag) :
    interpret registry .interpreted [flag] =
      (Interpretation.nothing .interpreted).forward flag := by
  obtain ⟨definition, found, effect⟩ := takes
  simp [interpret, found, effect]

/-- A flag that shows a text is noted and forwarded. -/
theorem interpret_request {registry : List Flag} {argument : String} {flag : Flag}
    {attached : Option String} {request : Request}
    (found : lookupFlag registry argument = some (flag, attached))
    (shown : flag.effect.request? = some request) (rest : List String) :
    interpret registry .interpreted (argument :: rest) =
      ((interpret registry .interpreted rest).forward (flag.forwardedSpelling argument)).ask
        request := by
  cases effect : flag.effect with
  | showHelp | showVersion =>
    rw [effect] at shown
    obtain rfl := Option.some.inj shown
    simp [interpret, found, effect]
  | setJvmArguments | endOptions =>
    rw [effect] at shown
    cases shown

/-- An attached value is taken without the next argument. -/
theorem interpret_attached {registry : List Flag} {argument : String} {flag : Flag}
    {value : String} (found : lookupFlag registry argument = some (flag, some value))
    (effect : flag.effect = .setJvmArguments) (rest : List String) :
    interpret registry .interpreted (argument :: rest) =
      (interpret registry .interpreted rest).jvmValue value := by
  simp [interpret, found, effect]

/-- The end of the options is dropped, and what follows it is forwarded. -/
theorem interpret_end {registry : List Flag} {argument : String} {flag : Flag}
    {attached : Option String} (found : lookupFlag registry argument = some (flag, attached))
    (effect : flag.effect = .endOptions) (rest : List String) :
    interpret registry .interpreted (argument :: rest) = interpret registry .relayed rest := by
  simp only [interpret, found, effect]

/-- An argument that takes no other one is interpreted by itself, before the rest. -/
theorem interpret_alone {registry : List Flag} {argument : String}
    (alone : ¬TakesNext registry argument) (rest : List String) :
    interpret registry .interpreted (argument :: rest) =
      (interpret registry .interpreted [argument]).followedBy
        (interpret registry (treatmentAfter registry argument) rest) := by
  cases found : lookupFlag registry argument with
  | none =>
    rw [interpret_cons_of_unknown found, interpret_cons_of_unknown found]
    simp [interpret_nil, treatmentAfter, found]
  | some result =>
    obtain ⟨flag, attached⟩ := result
    cases effect : flag.effect with
    | showHelp | showVersion =>
      have shown := congrArg Effect.request? effect
      rw [interpret_request found shown, interpret_request found shown]
      simp [interpret_nil, treatmentAfter, found, effect]
    | setJvmArguments =>
      cases attached with
      | none => exact absurd ⟨flag, found, effect⟩ alone
      | some value =>
        rw [interpret_attached found effect, interpret_attached found effect]
        simp [interpret_nil, treatmentAfter, found, effect]
    | endOptions =>
      rw [interpret_end found effect, interpret_end found effect]
      simp [interpret_nil, treatmentAfter, found, effect]

/-- Arguments are read to their end, each one by itself or as the value of the flag before it. -/
inductive ReadThrough (registry : List Flag) : Treatment → List String → Treatment → Prop where
  /-- There is nothing to read. -/
  | nothing (treatment : Treatment) : ReadThrough registry treatment [] treatment
  /-- Nothing is acted upon any more. -/
  | relayed (arguments : List String) : ReadThrough registry .relayed arguments .relayed
  /-- An argument by itself. -/
  | alone {argument : String} {rest : List String} {stop : Treatment} :
    ¬TakesNext registry argument →
      ReadThrough registry (treatmentAfter registry argument) rest stop →
        ReadThrough registry .interpreted (argument :: rest) stop
  /-- A flag with its value. -/
  | withValue {flag value : String} {rest : List String} {stop : Treatment} :
    TakesNext registry flag → ReadThrough registry .interpreted rest stop →
      ReadThrough registry .interpreted (flag :: value :: rest) stop

/-- The last argument is reached as an argument of its own while flags are acted upon, and it
takes the next one as its value. -/
def Dangles (registry : List Flag) (start : Treatment) (arguments : List String) : Prop :=
  ∃ front flag, arguments = front ++ [flag] ∧ ReadThrough registry start front .interpreted ∧
    TakesNext registry flag

/-- What is read through can be continued by any arguments. -/
theorem ReadThrough.interpret_append {registry : List Flag} {start stop : Treatment}
    {front : List String} (reads : ReadThrough registry start front stop) (rest : List String) :
    interpret registry start (front ++ rest) =
      (interpret registry start front).followedBy (interpret registry stop rest) := by
  induction reads with
  | nothing treatment => rw [List.nil_append, interpret_nil, Interpretation.nothing_followedBy]
  | relayed arguments => simp [interpret_relayed, Interpretation.followedBy]
  | @alone argument later stop alone _ ih =>
    rw [List.cons_append, interpret_alone alone (later ++ rest), interpret_alone alone later, ih,
      Interpretation.followedBy_assoc]
  | withValue takes _ ih =>
    rw [List.cons_append, List.cons_append, interpret_takesNext takes, interpret_takesNext takes,
      ih, Interpretation.jvmValue_followedBy]

/-- Reading through ends where the interpretation says that it does. -/
theorem ReadThrough.treatment_eq {registry : List Flag} {start stop : Treatment}
    {front : List String} (reads : ReadThrough registry start front stop) :
    (interpret registry start front).treatment = stop := by
  induction reads with
  | nothing treatment => rw [interpret_nil]; rfl
  | relayed arguments => rw [interpret_relayed]
  | alone alone _ ih => rw [interpret_alone alone]; exact ih
  | withValue takes _ ih => rw [interpret_takesNext takes]; exact ih

/-- Arguments can be read through unless they dangle. -/
theorem readThrough_or_dangles (registry : List Flag) : ∀ (start : Treatment)
    (arguments : List String), (∃ stop, ReadThrough registry start arguments stop) ∨
      Dangles registry start arguments
  | .relayed, arguments => .inl ⟨_, .relayed arguments⟩
  | .interpreted, [] => .inl ⟨_, .nothing _⟩
  | .interpreted, argument :: rest => by
    by_cases takes : TakesNext registry argument
    · cases rest with
      | nil => exact .inr ⟨[], argument, rfl, .nothing _, takes⟩
      | cons value later =>
        obtain ⟨stop, reads⟩ | ⟨front, flag, split, reads, last⟩ :=
          readThrough_or_dangles registry .interpreted later
        · exact .inl ⟨stop, .withValue takes reads⟩
        · exact .inr ⟨argument :: value :: front, flag, by simp [split],
            .withValue takes reads, last⟩
    · obtain ⟨stop, reads⟩ | ⟨front, flag, split, reads, last⟩ :=
        readThrough_or_dangles registry (treatmentAfter registry argument) rest
      · exact .inl ⟨stop, .alone takes reads⟩
      · exact .inr ⟨argument :: front, flag, by simp [split], .alone takes reads, last⟩
termination_by _ arguments => arguments.length

/-- Between a flag and its value, the second part cannot be interpreted by itself: the value
goes to the flag, which is then not forwarded. -/
theorem Dangles.interpret_append {registry : List Flag} {start : Treatment}
    {earlier : List String} {flag : String} (dangles : Dangles registry start (earlier ++ [flag]))
    (value : String) (rest : List String) :
    interpret registry start (earlier ++ [flag] ++ value :: rest) =
      (interpret registry start earlier).followedBy
        ((interpret registry .interpreted rest).jvmValue value) := by
  obtain ⟨front, last, split, reads, takes⟩ := dangles
  obtain ⟨rfl, same⟩ := List.append_inj' split rfl
  obtain rfl : flag = last := by simpa using same
  rw [List.append_assoc, List.singleton_append, reads.interpret_append, interpret_takesNext takes]

/-- A list that dangles forwards its last flag only as long as nothing follows it. -/
theorem Dangles.forwarded {registry : List Flag} {start : Treatment} {earlier : List String}
    {flag : String} (dangles : Dangles registry start (earlier ++ [flag])) :
    (interpret registry start (earlier ++ [flag])).forwarded =
      (interpret registry start earlier).forwarded ++ [flag] := by
  obtain ⟨front, last, split, reads, takes⟩ := dangles
  obtain ⟨rfl, same⟩ := List.append_inj' split rfl
  obtain rfl : flag = last := by simpa using same
  rw [reads.interpret_append, interpret_takesNext_last takes]
  rfl

/-- Arguments that do not dangle are exactly those after which any others can be interpreted by
themselves, as the first ones leave off; where arguments dangle, the next one becomes the value
of their last flag, which is not forwarded, and the rest is interpreted by itself. -/
theorem interpret_append_exact (registry : List Flag) (start : Treatment) (front : List String) :
    (¬Dangles registry start front ↔ ∀ rest, interpret registry start (front ++ rest) =
      (interpret registry start front).followedBy
        (interpret registry (interpret registry start front).treatment rest)) ∧
    ∀ earlier flag value rest, front = earlier ++ [flag] → Dangles registry start front →
      interpret registry start (front ++ value :: rest) =
        { jvmArguments := (interpret registry .interpreted rest).jvmArguments.or (some value)
          forwarded := (interpret registry start earlier).forwarded ++
            (interpret registry .interpreted rest).forwarded
          requests := (interpret registry start earlier).requests ++
            (interpret registry .interpreted rest).requests
          treatment := (interpret registry .interpreted rest).treatment } := by
  constructor
  · constructor
    · intro ends rest
      obtain ⟨stop, reads⟩ := (readThrough_or_dangles registry start front).resolve_right ends
      rw [reads.interpret_append, reads.treatment_eq]
    · -- Continued by a value, a dangling list forwards one argument less than before.
      intro continues dangles
      have ⟨earlier, flag, split, _⟩ := dangles
      subst split
      have together := continues [""]
      rw [dangles.interpret_append] at together
      have lengths := congrArg (·.forwarded.length) together
      simp only [Interpretation.followedBy, Interpretation.jvmValue, Interpretation.nothing,
        interpret_nil, dangles.forwarded, List.length_append, List.length_cons,
        List.length_nil] at lengths
      omega
  · rintro earlier flag value rest rfl dangles
    rw [dangles.interpret_append]
    simp [Interpretation.followedBy, Interpretation.jvmValue]

/-- A value that is spelled as the flag itself is consumed, so that only the third flag dangles;
its value is the separator, and the flag after that is acted upon. -/
theorem interpret_append_separator :
    Dangles Flag.builtin .interpreted ["a", "-j", "-j", "-j"] ∧
      interpret Flag.builtin .interpreted (["a", "-j", "-j", "-j"] ++ ["--", "--version"]) =
        { jvmArguments := some "--", forwarded := ["a", "--version"], requests := [.version]
          treatment := .interpreted } := by
  have takes : TakesNext Flag.builtin "-j" := ⟨_, rfl, rfl⟩
  have alone : ¬TakesNext Flag.builtin "a" := by
    rintro ⟨flag, found, _⟩
    cases found
  have dangles : Dangles Flag.builtin .interpreted ["a", "-j", "-j", "-j"] :=
    ⟨["a", "-j", "-j"], "-j", rfl, .alone alone (.withValue takes (.nothing _)), takes⟩
  have joined := (interpret_append_exact Flag.builtin .interpreted ["a", "-j", "-j", "-j"]).2
    ["a", "-j", "-j"] "-j" "--" ["--version"] rfl dangles
  exact ⟨dangles, joined.trans (by decide)⟩

end JavaLauncher
