import JavaLauncher.Proofs.Arguments.Grammar

/-!
# Registries in which arguments have one meaning

A registry is unambiguous when no argument is recognised by two of its definitions. There the
first definition that recognises an argument is the only one, so a definition found once is found
again under every spelling of its own. Interpretation then settles in one pass: what it forwards
is forwarded unchanged by a second pass, which finds the same requests and no value
(`interpret_forwarded_settles`).
-/
namespace JavaLauncher

namespace Flag

/-- An argument is a spelling of a flag or carries a value attached to it. -/
def recognises (flag : Flag) (argument : String) : Bool :=
  flag.isSpelled argument || (flag.attachedValue? argument).isSome

/-- A flag that does not recognise an argument makes nothing of it. -/
theorem recognise_eq_none {flag : Flag} {argument : String} :
    flag.recognise argument = none ↔ flag.recognises argument = false := by
  cases spelled : flag.isSpelled argument <;> simp [recognise, recognises, spelled]

/-- A flag makes something of an argument only by recognising it, and then speaks for itself. -/
theorem recognise_eq_some {flag found : Flag} {argument : String} {attached : Option String}
    (made : flag.recognise argument = some (found, attached)) :
    found = flag ∧ flag.recognises argument = true := by
  have recognised : flag.recognises argument = true := by
    cases answer : flag.recognises argument with
    | true => rfl
    | false => simp [recognise_eq_none.2 answer] at made
  refine ⟨?_, recognised⟩
  unfold recognise at made
  split at made
  · cases made
    rfl
  · obtain ⟨value, _, same⟩ := Option.map_eq_some_iff.1 made
    cases same
    rfl

/-- An alias is forwarded as a spelling that is no alias, or stays as it is from then on. -/
theorem forwardedSpelling_forwardedSpelling (flag : Flag) (argument : String) :
    flag.forwardedSpelling (flag.forwardedSpelling argument) = flag.forwardedSpelling argument := by
  by_cases isAlias : argument ∈ flag.aliases
  · simp [forwardedSpelling, isAlias]
  · simp [forwardedSpelling_of_not_mem isAlias]

/-- The spelling that stands for the aliases is itself a spelling of the flag. -/
theorem isSpelled_preferred (flag : Flag) : flag.isSpelled (flag.short.getD flag.long) = true := by
  rw [isSpelled_iff]
  cases short : flag.short with
  | none => exact .inl rfl
  | some spelling => exact .inr (.inl rfl)

/-- A flag recognises the spelling under which it forwards an argument. -/
theorem exists_recognise_forwardedSpelling {flag : Flag} {argument : String}
    {attached : Option String} (made : flag.recognise argument = some (flag, attached)) :
    ∃ again, flag.recognise (flag.forwardedSpelling argument) = some (flag, again) := by
  by_cases isAlias : argument ∈ flag.aliases
  · have preferred : flag.forwardedSpelling argument = flag.short.getD flag.long := by
      simp [forwardedSpelling, isAlias]
    exact ⟨none, by simp [recognise, preferred, isSpelled_preferred]⟩
  · rw [forwardedSpelling_of_not_mem isAlias]
    exact ⟨attached, made⟩

end Flag

/-- No argument is recognised by more than one definition of a registry. -/
def Unambiguous (registry : List Flag) : Prop :=
  ∀ argument, registry.countP (·.recognises argument) ≤ 1

/-- A definition that is found belongs to the registry and recognises the argument. -/
theorem mem_of_lookupFlag {registry : List Flag} {argument : String} {flag : Flag}
    {attached : Option String} (found : lookupFlag registry argument = some (flag, attached)) :
    flag ∈ registry ∧ flag.recognise argument = some (flag, attached) := by
  obtain ⟨definition, known, made⟩ := List.exists_of_findSome?_eq_some found
  obtain ⟨rfl, _⟩ := Flag.recognise_eq_some made
  exact ⟨known, made⟩

/-- In an unambiguous registry, a definition that recognises an argument is the one found. -/
theorem Unambiguous.lookupFlag_eq {registry : List Flag} (unambiguous : Unambiguous registry)
    {flag : Flag} (known : flag ∈ registry) {argument : String}
    (recognised : flag.recognises argument = true) :
    lookupFlag registry argument = flag.recognise argument := by
  have single : registry.countP (·.recognises argument) ≤ 1 := unambiguous argument
  unfold lookupFlag
  clear unambiguous
  induction registry with
  | nil => cases known
  | cons first others ih =>
    rw [List.findSome?_cons]
    cases answer : first.recognises argument with
    | false =>
      have other : flag ≠ first := by
        rintro rfl
        rw [recognised] at answer
        cases answer
      have later : flag ∈ others := (List.mem_cons.1 known).resolve_left other
      rw [Flag.recognise_eq_none.2 answer]
      exact ih later (by simpa [List.countP_cons, answer] using single)
    | true =>
      -- The count is used up by the first definition, so the others recognise nothing.
      have none : others.countP (·.recognises argument) = 0 := by
        simp only [List.countP_cons, answer, ↓reduceIte] at single
        omega
      obtain rfl : flag = first := by
        refine (List.mem_cons.1 known).resolve_right fun later => ?_
        exact List.countP_eq_zero.1 none flag later recognised
      cases made : flag.recognise argument with
      | some found => rfl
      | none => simp [Flag.recognise_eq_none.1 made] at answer

/-- In an unambiguous registry, a definition found for an argument is found again for the spelling
under which the argument is forwarded. -/
theorem Unambiguous.lookupFlag_forwardedSpelling {registry : List Flag}
    (unambiguous : Unambiguous registry) {argument : String} {flag : Flag}
    {attached : Option String} (found : lookupFlag registry argument = some (flag, attached)) :
    ∃ again, lookupFlag registry (flag.forwardedSpelling argument) = some (flag, again) := by
  obtain ⟨known, made⟩ := mem_of_lookupFlag found
  obtain ⟨again, madeAgain⟩ := Flag.exists_recognise_forwardedSpelling made
  obtain ⟨_, recognised⟩ := Flag.recognise_eq_some madeAgain
  exact ⟨again, (unambiguous.lookupFlag_eq known recognised).trans madeAgain⟩

/-- Of the built-in flags, no two recognise one argument. -/
theorem unambiguous_builtin : Unambiguous Flag.builtin := by
  intro argument
  by_cases named : argument ∈ namedSpellings
  · have once : ∀ spelling ∈ namedSpellings,
        Flag.builtin.countP (·.recognises spelling) ≤ 1 := by decide
    exact once argument named
  · -- What is no named spelling can only have a value attached, and only one flag takes a value.
    have recognises : ∀ flag ∈ Flag.builtin,
        flag.recognises argument = (flag.attachedValue? argument).isSome := by
      intro flag known
      simp [Flag.recognises, isSpelled_builtin_of_not_mem named flag known]
    have alone : ∀ flag ∈ Flag.builtin, flag ≠ jvmFlag → flag.arity = .alone := by decide
    have others : ∀ flag ∈ Flag.builtin, flag.recognises argument = true → flag = jvmFlag := by
      intro flag known recognised
      rw [recognises flag known, Option.isSome_iff_exists] at recognised
      obtain ⟨value, attached⟩ := recognised
      have takes := (Flag.attachedValue?_eq_some_iff.1 attached).1
      refine Decidable.byContradiction fun other => ?_
      rw [alone flag known other] at takes
      cases takes
    calc
      Flag.builtin.countP (·.recognises argument) ≤ Flag.builtin.countP (· == jvmFlag) :=
        List.countP_mono_left fun flag known recognised => by
          simpa using others flag known recognised
      _ ≤ 1 := by decide

/-- Interpreting once more what was forwarded finds the same requests, no value, and forwards the
same again. -/
theorem Unambiguous.interpret_forwarded {registry : List Flag}
    (unambiguous : Unambiguous registry) : ∀ arguments : List String,
    (interpret registry .interpreted arguments).treatment = .interpreted →
      interpret registry .interpreted (interpret registry .interpreted arguments).forwarded =
        { interpret registry .interpreted arguments with jvmArguments := none }
  | [], _ => rfl
  | argument :: rest, ends => by
    cases found : lookupFlag registry argument with
    | none =>
      rw [interpret_cons_of_unknown found] at ends ⊢
      exact (interpret_cons_of_unknown found _).trans
        (congrArg _ (interpret_forwarded unambiguous rest ends))
    | some result =>
      obtain ⟨flag, attached⟩ := result
      cases effect : flag.effect with
      | showHelp | showVersion =>
        have shown := congrArg Effect.request? effect
        obtain ⟨again, foundAgain⟩ := unambiguous.lookupFlag_forwardedSpelling found
        rw [interpret_request found shown] at ends ⊢
        refine (interpret_request foundAgain shown _).trans ?_
        rw [Flag.forwardedSpelling_forwardedSpelling,
          interpret_forwarded unambiguous rest ends]
        rfl
      | setJvmArguments =>
        cases attached with
        | some value =>
          rw [interpret_attached found effect] at ends ⊢
          exact interpret_forwarded unambiguous rest ends
        | none =>
          have takes : TakesNext registry argument := ⟨flag, found, effect⟩
          cases rest with
          | nil =>
            rw [interpret_takesNext_last takes]
            exact interpret_takesNext_last takes
          | cons value later =>
            rw [interpret_takesNext takes] at ends ⊢
            exact interpret_forwarded unambiguous later ends
      | endOptions =>
        rw [interpret_end found effect, interpret_relayed] at ends
        cases ends
termination_by arguments => arguments.length

/-- Under every unambiguous registry, and the built-in one is unambiguous, arguments that are
interpreted to their end settle at once: what they forward forwards itself, asks for the same texts
in the same order and gives no value, and is interpreted to its end as well. -/
theorem interpret_forwarded_settles :
    (∀ registry : List Flag, Unambiguous registry → ∀ arguments : List String,
      (interpret registry .interpreted arguments).treatment = .interpreted →
        interpret registry .interpreted (interpret registry .interpreted arguments).forwarded =
          { jvmArguments := none
            forwarded := (interpret registry .interpreted arguments).forwarded
            requests := (interpret registry .interpreted arguments).requests
            treatment := .interpreted }) ∧
    Unambiguous Flag.builtin := by
  refine ⟨fun registry unambiguous arguments ends => ?_, unambiguous_builtin⟩
  rw [unambiguous.interpret_forwarded arguments ends]
  simp only [ends]

/-- Two flags lose their values and one comes to stand at the end without any; the flag that was a
value is gone with the one it belonged to. -/
theorem interpret_forwarded_settles_values :
    Unambiguous Flag.builtin ∧
      (interpret Flag.builtin .interpreted
        ["-j", "-j", "/?", "a", "--jvmargs=x", "--version", "--jvmargs"]).treatment =
          .interpreted ∧
      interpret Flag.builtin .interpreted ["-?", "a", "--version", "--jvmargs"] =
        { jvmArguments := none, forwarded := ["-?", "a", "--version", "--jvmargs"]
          requests := [.help, .version], treatment := .interpreted } := by
  have settles := interpret_forwarded_settles.1 Flag.builtin interpret_forwarded_settles.2
    ["-j", "-j", "/?", "a", "--jvmargs=x", "--version", "--jvmargs"] (by decide)
  exact ⟨interpret_forwarded_settles.2, by decide, settles⟩

end JavaLauncher
