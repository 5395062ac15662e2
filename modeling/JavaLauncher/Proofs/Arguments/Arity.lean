import Mathlib.Algebra.Order.BigOperators.Group.List
import Mathlib.Algebra.Order.Group.Nat
import JavaLauncher.Proofs.Arguments.Recognition

/-!
# Flags that take a value

A definition says by its arity whether the flag takes a value, and by its effect what the flag does.
Interpretation looks at the arity only for a value that is attached; whether the next argument is a
value is up to the effect (`standsAlone_iff`, `absorbsNext_iff`). Where the two say the same of a
flag, its arity decides what becomes of the argument after it, and where they do not, it never does
(`readByArity_iff`). The built-in flags say the same (`readByArity_builtin`).
-/
namespace JavaLauncher

/-- An argument takes none of the others: what follows it is interpreted as a list of its own. -/
def StandsAlone (registry : List Flag) (argument : String) : Prop :=
  ∀ rest, interpret registry .interpreted (argument :: rest) =
    (interpret registry .interpreted [argument]).followedBy
      (interpret registry (treatmentAfter registry argument) rest)

/-- The argument after an argument is neither interpreted nor forwarded: whatever it is, nothing but
the value for the virtual machine depends on it. -/
def AbsorbsNext (registry : List Flag) (argument : String) : Prop :=
  ∀ value other rest,
    { interpret registry .interpreted (argument :: value :: rest) with jvmArguments := none } =
      { interpret registry .interpreted (argument :: other :: rest) with jvmArguments := none }

/-- What becomes of the argument after a flag is what the arity of the flag says: a flag that takes
a value, and has none attached, takes it, and any other flag stands alone. -/
def ReadByArity (registry : List Flag) (argument : String) (flag : Flag)
    (attached : Option String) : Prop :=
  match flag.arity, attached with
  | .takesValue, none => AbsorbsNext registry argument
  | .takesValue, some _ | .alone, _ => StandsAlone registry argument

/-- A flag makes a value of an argument only where the value is attached. -/
theorem Flag.attachedValue?_of_recognise {flag : Flag} {argument value : String}
    (made : flag.recognise argument = some (flag, some value)) :
    flag.attachedValue? argument = some value := by
  unfold recognise at made
  split at made
  · cases made
  · simpa using made

/-- Every registry leaves some argument unknown. -/
theorem exists_unknown (registry : List Flag) :
    ∃ argument, lookupFlag registry argument = none := by
  let lengths := (registry.flatMap Flag.spellings).map String.length
  -- Too long to be a spelling, and without the character that comes before an attached value.
  let argument := String.ofList (List.replicate (lengths.sum + 1) 'x')
  refine ⟨argument, List.findSome?_eq_none_iff.2 fun flag known => ?_⟩
  rw [Flag.recognise_eq_none, Flag.recognises, Bool.or_eq_false_iff]
  constructor
  · rw [← Bool.not_eq_true]
    intro spelled
    have listed : argument ∈ flag.spellings := by simpa [Flag.isSpelled] using spelled
    have short : argument.length ≤ lengths.sum :=
      List.le_sum_of_mem (List.mem_map_of_mem (List.mem_flatMap.2 ⟨flag, known, listed⟩))
    simp [argument] at short
  · cases attached : flag.attachedValue? argument with
    | none => rfl
    | some value =>
      obtain ⟨_, split⟩ := Flag.attachedValue?_eq_some_iff.1 attached
      have inside : '=' ∈ argument.toList := by simp [split]
      simp [argument] at inside

section

variable {registry : List Flag} {argument : String}

/-- An argument stands alone exactly where no effect makes it take the next one. -/
theorem standsAlone_iff : StandsAlone registry argument ↔ ¬TakesNext registry argument := by
  constructor
  · intro alone takes
    have dropped := congrArg Interpretation.forwarded (alone [""])
    rw [interpret_takesNext takes, interpret_takesNext_last takes, interpret_nil] at dropped
    cases dropped
  · exact interpret_alone

/-- The next argument is absorbed exactly where an effect takes it. -/
theorem absorbsNext_iff {flag : Flag} {attached : Option String}
    (found : lookupFlag registry argument = some (flag, attached)) :
    AbsorbsNext registry argument ↔ TakesNext registry argument := by
  constructor
  · intro absorbs
    obtain ⟨unknown, missing⟩ := exists_unknown registry
    -- An unknown argument is forwarded and makes no request. A flag that does not take it, given
    -- twice, would either make a second request or not be forwarded a second time.
    have same := absorbs argument unknown []
    cases effect : flag.effect with
    | showHelp | showVersion =>
      have shown := congrArg Effect.request? effect
      have requests := congrArg Interpretation.requests same
      simp [interpret_request found shown, interpret_cons_of_unknown missing, interpret_nil,
        Interpretation.ask, Interpretation.forward, Interpretation.nothing] at requests
    | setJvmArguments =>
      cases attached with
      | none => exact ⟨flag, found, effect⟩
      | some value =>
        have forwarded := congrArg Interpretation.forwarded same
        simp [interpret_attached found effect, interpret_cons_of_unknown missing, interpret_nil,
          Interpretation.jvmValue, Interpretation.forward, Interpretation.nothing] at forwarded
    | endOptions =>
      have forwarded := congrArg Interpretation.forwarded same
      simp only [interpret_end found effect, interpret_relayed, List.cons.injEq, and_true]
        at forwarded
      rw [forwarded, missing] at found
      cases found
  · intro takes value other rest
    rw [interpret_takesNext takes, interpret_takesNext takes]
    rfl

/-- A flag takes the next argument where it has no value attached and its effect needs one. -/
theorem takesNext_iff {flag : Flag} {attached : Option String}
    (found : lookupFlag registry argument = some (flag, attached)) :
    TakesNext registry argument ↔ attached = none ∧ flag.effect = .setJvmArguments := by
  simp only [TakesNext, found, Option.some.injEq, Prod.mk.injEq]
  constructor
  · rintro ⟨_, ⟨rfl, rfl⟩, effect⟩
    exact ⟨rfl, effect⟩
  · rintro ⟨rfl, effect⟩
    exact ⟨flag, ⟨rfl, rfl⟩, effect⟩

/-- The arity of a flag decides what becomes of the next argument unless it says something else than
the effect of the flag. With a value attached there is nothing to decide. -/
theorem readByArity_iff {flag : Flag} {attached : Option String}
    (found : lookupFlag registry argument = some (flag, attached)) :
    ReadByArity registry argument flag attached ↔
      (attached = none → (flag.arity = .takesValue ↔ flag.effect = .setJvmArguments)) := by
  unfold ReadByArity
  cases flag.arity <;> cases attached <;>
    simp [standsAlone_iff, absorbsNext_iff found, takesNext_iff found]

/-- Arity and effect say the same of every built-in flag. -/
theorem readByArity_builtin {flag : Flag} {attached : Option String}
    (found : lookupFlag Flag.builtin argument = some (flag, attached)) :
    ReadByArity Flag.builtin argument flag attached := by
  have agree : ∀ flag ∈ Flag.builtin,
      (flag.arity = .takesValue ↔ flag.effect = .setJvmArguments) := by decide
  exact (readByArity_iff found).2 fun _ => agree flag (mem_of_lookupFlag found).1

/-- Wherever a flag is reached as an argument of its own while flags are acted upon, what comes
before it and what begins with it are interpreted one after the other, and its arity decides what
becomes of the next argument exactly where it says the same as its effect, or a value is attached.
A value for the virtual machine is the text attached to the long spelling or else the whole next
argument. -/
theorem interpret_arity_exact {registry : List Flag} {front : List String} {argument : String}
    {flag : Flag} {attached : Option String}
    (reads : ReadThrough registry .interpreted front .interpreted)
    (found : lookupFlag registry argument = some (flag, attached)) :
    (∀ rest, interpret registry .interpreted (front ++ argument :: rest) =
      (interpret registry .interpreted front).followedBy
        (interpret registry .interpreted (argument :: rest))) ∧
    (ReadByArity registry argument flag attached ↔
      (attached = none → (flag.arity = .takesValue ↔ flag.effect = .setJvmArguments))) ∧
    (flag.effect = .setJvmArguments →
      (∀ value, attached = some value →
        flag.arity = .takesValue ∧ argument = flag.long ++ "=" ++ value ∧
        ∀ rest, interpret registry .interpreted (argument :: rest) =
          (interpret registry .interpreted rest).jvmValue value) ∧
      (attached = none → ∀ value rest,
        interpret registry .interpreted (argument :: value :: rest) =
          (interpret registry .interpreted rest).jvmValue value)) := by
  refine ⟨fun rest => reads.interpret_append _, readByArity_iff found, fun effect => ⟨?_, ?_⟩⟩
  · rintro value rfl
    obtain ⟨_, made⟩ := mem_of_lookupFlag found
    have carried := Flag.attachedValue?_of_recognise made
    obtain ⟨arity, split⟩ := Flag.attachedValue?_eq_some_iff.1 carried
    exact ⟨arity, split, interpret_attached found effect⟩
  · intro bare
    exact interpret_takesNext ((takesNext_iff found).2 ⟨bare, effect⟩)

/-- A value that is spelled as the end of the options ends nothing. -/
theorem interpret_arity_exact_end :
    ReadThrough Flag.builtin .interpreted ["-j", "-j"] .interpreted ∧
      lookupFlag Flag.builtin "-j" = some (jvmFlag, none) ∧
      AbsorbsNext Flag.builtin "-j" ∧
      interpret Flag.builtin .interpreted (["-j", "-j"] ++ "-j" :: ["--", "--version"]) =
        { jvmArguments := some "--", forwarded := ["--version"], requests := [.version]
          treatment := .interpreted } := by
  have found : lookupFlag Flag.builtin "-j" = some (jvmFlag, none) := by decide
  have reads : ReadThrough Flag.builtin .interpreted ["-j", "-j"] .interpreted :=
    .withValue ((takesNext_iff found).2 ⟨rfl, rfl⟩) (.nothing _)
  obtain ⟨joined, byArity, _⟩ := interpret_arity_exact reads found
  exact ⟨reads, found, byArity.2 fun _ => by decide, (joined _).trans (by decide)⟩

/-- A flag for help that is said to take a value leaves the next argument to be forwarded, and a
flag with a value for the virtual machine that is said to stand alone takes it. -/
theorem interpret_arity_unheeded :
    let help : Flag := ⟨"--help", none, [], .takesValue, .showHelp, none, none⟩
    let jvm : Flag := ⟨"-x", none, [], .alone, .setJvmArguments, none, none⟩
    interpret [help] .interpreted ["--help", "a"] =
        ⟨none, ["--help", "a"], [.help], .interpreted⟩ ∧
      ¬ReadByArity [help] "--help" help none ∧
      interpret [jvm] .interpreted ["-x", "a"] = ⟨some "a", [], [], .interpreted⟩ ∧
      ¬ReadByArity [jvm] "-x" jvm none := by
  refine ⟨by decide, fun absorbs => ?_, by decide, fun alone => ?_⟩
  · have same : AbsorbsNext _ _ := absorbs
    exact absurd (same "a" "b" []) (by decide)
  · have apart : StandsAlone _ _ := alone
    exact absurd (apart ["a"]) (by decide)

end

end JavaLauncher
