import JavaLauncher.Proofs.Arguments.Recognition

/-!
# Registries whose order does not matter

Two flags are apart when they share no spelling and no spelling of either reads as the other with
an attached value. This is a condition on finitely many texts, but it settles every argument: two
long spellings that both stand, with `=`, at the front of one argument are prefixes of each other,
so that the longer one would itself read as the shorter one with a value. Separation of a registry
is therefore the same as unambiguity (`unambiguous_iff_separated`). Since interpretation sees a
registry through its lookups only (`interpret_congr`), the order of a separated one is irrelevant
(`interpret_reordered`).
-/
namespace JavaLauncher

namespace Flag

/-- A text reads as a flag with an attached value: it begins with the long spelling and `=`. -/
def ReadsIn (flag : Flag) (text : String) : Prop :=
  flag.arity = .takesValue ∧ (flag.long ++ "=").toList <+: text.toList

instance (flag : Flag) (text : String) : Decidable (flag.ReadsIn text) :=
  inferInstanceAs (Decidable (_ ∧ _))

/-- Two flags share no spelling, and no spelling of one reads as the other with a value. -/
def Apart (flag other : Flag) : Prop :=
  (∀ spelling ∈ flag.spellings, spelling ∉ other.spellings) ∧
    (∀ spelling ∈ flag.spellings, ¬other.ReadsIn spelling) ∧
    ∀ spelling ∈ other.spellings, ¬flag.ReadsIn spelling

instance : DecidableRel Apart := fun _ _ => inferInstanceAs (Decidable (_ ∧ _ ∧ _))

/-- A value is attached to an argument exactly where the argument reads as the flag with one. -/
theorem isSome_attachedValue?_iff {flag : Flag} {argument : String} :
    (flag.attachedValue? argument).isSome = true ↔ flag.ReadsIn argument := by
  rw [Option.isSome_iff_exists]
  constructor
  · intro attached
    obtain ⟨value, found⟩ := attached
    obtain ⟨takes, text⟩ := attachedValue?_eq_some_iff.1 found
    refine ⟨takes, value.toList, ?_⟩
    rw [text]
    exact String.toList_append.symm
  · intro reads
    obtain ⟨takes, rest, text⟩ := reads
    have whole : argument = flag.long ++ "=" ++ String.ofList rest := by
      apply String.toList_inj.1
      rw [String.toList_append, String.toList_ofList, text]
    exact ⟨String.ofList rest, attachedValue?_eq_some_iff.2 ⟨takes, whole⟩⟩

/-- A flag recognises its spellings and the texts that read as the flag with a value. -/
theorem recognises_iff {flag : Flag} {argument : String} :
    flag.recognises argument = true ↔ argument ∈ flag.spellings ∨ flag.ReadsIn argument := by
  simp only [recognises, Bool.or_eq_true, isSome_attachedValue?_iff, isSpelled,
    List.contains_eq_mem, decide_eq_true_eq]

/-- Where one argument reads as two flags with a value and the first long spelling is not the
longer one, the second long spelling is the first or reads as the first with a value. -/
theorem ReadsIn.long_eq_or_readsIn {flag other : Flag} {argument : String}
    (reads : flag.ReadsIn argument)
    (shorter : (flag.long ++ "=").toList <+: (other.long ++ "=").toList) :
    flag.long = other.long ∨ flag.ReadsIn other.long := by
  have split : (other.long ++ "=").toList = other.long.toList ++ ['='] := by simp
  rw [split, List.prefix_concat_iff] at shorter
  rcases shorter with same | inside
  · left
    apply String.toList_inj.1
    have cut : flag.long.toList ++ ['='] = other.long.toList ++ ['='] := by simpa using same
    exact List.append_cancel_right cut
  · right
    exact ⟨reads.1, inside⟩

/-- Flags that are apart never read both in one argument. -/
theorem Apart.not_readsIn {flag other : Flag} (apart : flag.Apart other) {argument : String}
    (reads : flag.ReadsIn argument) : ¬other.ReadsIn argument := by
  intro readsOther
  obtain ⟨unshared, outside, outsideOther⟩ := apart
  have long : flag.long ∈ flag.spellings := List.mem_cons_self
  have longOther : other.long ∈ other.spellings := List.mem_cons_self
  have ordered := List.prefix_or_prefix_of_prefix reads.2 readsOther.2
  rcases ordered with shorter | longer
  · rcases reads.long_eq_or_readsIn shorter with same | inside
    · exact unshared _ long (same ▸ longOther)
    · exact outsideOther _ longOther inside
  · rcases readsOther.long_eq_or_readsIn longer with same | inside
    · exact unshared _ long (same ▸ longOther)
    · exact outside _ long inside

/-- Two flags are apart exactly when no argument is recognised by both. -/
theorem apart_iff {flag other : Flag} :
    flag.Apart other ↔
      ∀ argument, flag.recognises argument = true → other.recognises argument = false := by
  constructor
  · intro apart argument recognised
    rw [← Bool.not_eq_true, recognises_iff]
    rw [recognises_iff] at recognised
    have ⟨unshared, outside, outsideOther⟩ := apart
    rintro (spelledOther | readsOther)
    · rcases recognised with spelled | reads
      · exact unshared argument spelled spelledOther
      · exact outsideOther argument spelledOther reads
    · rcases recognised with spelled | reads
      · exact outside argument spelled readsOther
      · exact apart.not_readsIn reads readsOther
  · intro exclusive
    have never {argument : String} (here : argument ∈ flag.spellings ∨ flag.ReadsIn argument)
        (there : argument ∈ other.spellings ∨ other.ReadsIn argument) : False := by
      have unrecognised := exclusive argument (recognises_iff.2 here)
      rw [recognises_iff.2 there] at unrecognised
      contradiction
    exact ⟨fun _ spelled spelledOther => never (.inl spelled) (.inl spelledOther),
      fun _ spelled readsOther => never (.inl spelled) (.inr readsOther),
      fun _ spelledOther reads => never (.inr reads) (.inl spelledOther)⟩

end Flag

/-- The definitions at any two positions of a registry are apart. -/
def Separated (registry : List Flag) : Prop := registry.Pairwise Flag.Apart

instance (registry : List Flag) : Decidable (Separated registry) :=
  inferInstanceAs (Decidable (registry.Pairwise Flag.Apart))

/-- A registry is unambiguous when its first flag is apart from the others and these are
unambiguous among themselves. -/
theorem unambiguous_cons {flag : Flag} {others : List Flag} :
    Unambiguous (flag :: others) ↔
      (∀ other ∈ others, flag.Apart other) ∧ Unambiguous others := by
  have count (argument : String) : (flag :: others).countP (·.recognises argument) =
      others.countP (·.recognises argument) + if flag.recognises argument then 1 else 0 :=
    List.countP_cons
  constructor
  · intro unambiguous
    constructor
    · intro other known
      rw [Flag.apart_iff]
      intro argument recognised
      have single := unambiguous argument
      rw [count argument, if_pos recognised] at single
      have zero : others.countP (·.recognises argument) = 0 := by omega
      exact Bool.eq_false_iff.2 (List.countP_eq_zero.1 zero other known)
    · intro argument
      have single := unambiguous argument
      rw [count argument] at single
      omega
  · intro parts argument
    obtain ⟨apart, unambiguous⟩ := parts
    have single : others.countP (·.recognises argument) ≤ 1 := unambiguous argument
    rw [count argument]
    by_cases recognised : flag.recognises argument = true
    · have zero : others.countP (·.recognises argument) = 0 := by
        rw [List.countP_eq_zero]
        intro other known
        exact Bool.eq_false_iff.1 (Flag.apart_iff.1 (apart other known) argument recognised)
      rw [if_pos recognised]
      omega
    · rw [if_neg recognised]
      omega

/-- Separation is unambiguity, told from the spellings alone. -/
theorem unambiguous_iff_separated {registry : List Flag} :
    Unambiguous registry ↔ Separated registry := by
  induction registry with
  | nil => exact iff_of_true (fun _ => Nat.zero_le 1) List.Pairwise.nil
  | cons flag others ih =>
    rw [unambiguous_cons, ih]
    exact List.pairwise_cons.symm

/-- Reordering an unambiguous registry leaves it unambiguous. -/
theorem Unambiguous.of_perm {registry reordered : List Flag} (unambiguous : Unambiguous registry)
    (same : reordered.Perm registry) : Unambiguous reordered := by
  intro argument
  rw [same.countP_eq]
  exact unambiguous argument

/-- Every order of an unambiguous registry finds the same flag for an argument. -/
theorem Unambiguous.lookupFlag_of_perm {registry reordered : List Flag}
    (unambiguous : Unambiguous registry) (same : reordered.Perm registry) (argument : String) :
    lookupFlag reordered argument = lookupFlag registry argument := by
  cases found : lookupFlag registry argument with
  | none =>
    rw [lookupFlag, List.findSome?_eq_none_iff] at found ⊢
    intro flag known
    exact found flag (same.mem_iff.1 known)
  | some result =>
    obtain ⟨flag, attached⟩ := result
    obtain ⟨known, made⟩ := mem_of_lookupFlag found
    have recognised : flag.recognises argument = true := (Flag.recognise_eq_some made).2
    have again := (unambiguous.of_perm same).lookupFlag_eq (same.mem_iff.2 known) recognised
    exact again.trans made

/-- Two registries that find the same flag for every argument make the same of all arguments. -/
theorem interpret_congr {registry other : List Flag}
    (agree : ∀ argument, lookupFlag other argument = lookupFlag registry argument)
    (treatment : Treatment) (arguments : List String) :
    interpret other treatment arguments = interpret registry treatment arguments := by
  fun_induction interpret registry treatment arguments with
  | case1 arguments => exact interpret_relayed other arguments
  | case2 => rfl
  | _ => simp_all [interpret]

/-- In a registry whose definitions are apart two by two, no argument is recognised by more than
one definition, and in whatever order the definitions stand, any arguments are interpreted alike
from either treatment. -/
theorem interpret_reordered (registry : List Flag) (separated : Separated registry) :
    (∀ argument, registry.countP (·.recognises argument) ≤ 1) ∧
      ∀ reordered : List Flag, reordered.Perm registry → ∀ treatment arguments,
        interpret reordered treatment arguments = interpret registry treatment arguments := by
  have unambiguous : Unambiguous registry := unambiguous_iff_separated.2 separated
  refine ⟨unambiguous, ?_⟩
  intro reordered same treatment arguments
  exact interpret_congr (unambiguous.lookupFlag_of_perm same) treatment arguments

/-- A flag whose long spelling is the front of a built-in one. -/
def frontFlag : Flag := { jvmFlag with long := "--jvm", short := none }

/-- What follows the front of the longer spelling is no `=`, so the two flags are apart, and each is
found in its own arguments from either end of the registry. -/
theorem interpret_reordered_front :
    Separated (frontFlag :: Flag.builtin) ∧
      (frontFlag :: Flag.builtin).reverse.Perm (frontFlag :: Flag.builtin) ∧
      (frontFlag :: Flag.builtin).countP (·.recognises "--jvmargs=-j") ≤ 1 ∧
      interpret (frontFlag :: Flag.builtin).reverse .interpreted
          ["--jvmargs=-j", "--jvm=a", "/?", "--jvm", "--"] =
        { jvmArguments := some "--", forwarded := ["-?"], requests := [.help]
          treatment := .interpreted } := by
  have separated : Separated (frontFlag :: Flag.builtin) := by decide
  have reversed := List.reverse_perm (frontFlag :: Flag.builtin)
  obtain ⟨single, alike⟩ := interpret_reordered (frontFlag :: Flag.builtin) separated
  refine ⟨separated, reversed, single "--jvmargs=-j", ?_⟩
  rw [alike _ reversed]
  decide

end JavaLauncher
