import Mathlib.Data.List.DropRight
import JavaLauncher.Proofs.Settings.Sources

/-!
# The Java home behind an interpreter

The path of the interpreter is made from the root of a home: the home without the separators at its
end, of either kind (`rootOf_iff`). Nothing else of the home is lost, and nothing but the root
counts, so that two homes have the same interpreter exactly when they have the same root, whichever
sources name them (`interpreter_exact`).
-/
namespace JavaLauncher

open Identity (isSeparator)

/-- The root of a text is the text without the separators at its end. -/
def RootOf (text root : String) : Prop :=
  ∃ separators, text = root ++ separators ∧ (∀ c ∈ separators.toList, isSeparator c = true) ∧
    ∀ c ∈ root.toList.getLast?, isSeparator c = false

/-- The characters of a text before the separators at its end. -/
theorem toList_dropTrailingSeparators (text : String) :
    (dropTrailingSeparators text).toList = text.toList.rdropWhile isSeparator :=
  String.toList_ofList

/-- Every text has one root, which is what dropping the separators at its end leaves. -/
theorem rootOf_iff {text root : String} :
    RootOf text root ↔ dropTrailingSeparators text = root := by
  constructor
  · rintro ⟨separators, rfl, separate, stops⟩
    have dropped : (root.toList ++ separators.toList).rdropWhile isSeparator =
        root.toList.rdropWhile isSeparator := by
      rw [List.rdropWhile, List.reverse_append, List.dropWhile_append_of_pos]
      · rfl
      · simpa using separate
    have kept : root.toList.rdropWhile isSeparator = root.toList := by
      rw [List.rdropWhile_eq_self_iff]
      intro present
      rw [stops _ (List.getLast_mem_getLast? present)]
      exact Bool.false_ne_true
    apply String.toList_inj.1
    rw [toList_dropTrailingSeparators, String.toList_append, dropped, kept]
  · rintro rfl
    refine ⟨String.ofList (text.toList.rtakeWhile isSeparator), ?_, ?_, ?_⟩
    · apply String.toList_inj.1
      simp [toList_dropTrailingSeparators]
    · intro c member
      rw [String.toList_ofList] at member
      exact List.mem_rtakeWhile_imp member
    · intro c last
      rw [toList_dropTrailingSeparators] at last
      obtain ⟨present, rfl⟩ := List.mem_getLast?_eq_getLast last
      simpa using List.rdropWhile_last_not isSeparator text.toList present

namespace Settings

/-- A text is the home of Java in a launch: the settings name it or, where they name none that is
not empty, the environment does. The empty text is none. -/
inductive Home (settings : Settings) (environment : Environment) : String → Prop where
  /-- The settings name it. -/
  | set {home : String} : settings.javaHome = some home → home ≠ "" →
      Home settings environment home
  /-- The settings name none, and the environment names it. -/
  | inherited {home : String} : ¬settings.NamesJava → environment "JAVA_HOME" = some home →
      home ≠ "" → Home settings environment home

/-- Settings that name no home pass it over. -/
theorem filter_javaHome_eq_none_iff {settings : Settings} :
    settings.javaHome.filter (· ≠ "") = none ↔ ¬settings.NamesJava := by
  simp [Option.filter_eq_none_iff, NamesJava]

/-- The home of Java is the one that counts. -/
theorem home_iff {settings : Settings} {environment : Environment} {home : String} :
    settings.Home environment home ↔ settings.javaHome? environment = some home := by
  simp only [javaHome?, Environment.nonempty?, Option.or_eq_some_iff, filter_javaHome_eq_none_iff,
    Option.filter_eq_some_iff, decide_eq_true_eq]
  constructor
  · rintro (⟨named, nonempty⟩ | ⟨unnamed, named, nonempty⟩)
    · exact .inl ⟨named, nonempty⟩
    · exact .inr ⟨unnamed, named, nonempty⟩
  · rintro (⟨named, nonempty⟩ | ⟨unnamed, named, nonempty⟩)
    · exact .set named nonempty
    · exact .inherited unnamed named nonempty

/-- No home counts where neither the settings nor the environment name one. -/
theorem javaHome?_eq_none_iff {settings : Settings} {environment : Environment} :
    settings.javaHome? environment = none ↔
      ¬settings.NamesJava ∧ ¬∃ home, environment "JAVA_HOME" = some home ∧ home ≠ "" := by
  rw [javaHome?, Option.or_eq_none_iff, filter_javaHome_eq_none_iff]
  simp [Environment.nonempty?, Option.filter_eq_none_iff, javaHomeVariable]

/-- The bare name of Java is no path of an interpreter in a home. -/
theorem javaIn_ne (home : String) : javaIn home ≠ "java" := by
  intro same
  have slash : '/' ∈ (javaIn home).toList := by simp [javaIn]
  rw [same] at slash
  exact absurd slash (by decide)

variable {settings : Settings} {identity : Identity} {environment : Environment}

/-- The interpreter in the home of Java. -/
theorem interpreter_of_home {home : String} (named : settings.Home environment home) :
    (settings.javaSetup identity environment).interpreter = javaIn home := by
  simp [javaSetup, home_iff.1 named]

/-- Java is run by its bare name exactly where no home counts. -/
theorem interpreter_eq_java_iff :
    (settings.javaSetup identity environment).interpreter = "java" ↔
      settings.javaHome? environment = none := by
  cases found : settings.javaHome? environment with
  | none => simp [javaSetup, found, defaultInterpreter]
  | some home => simp [interpreter_of_home (home_iff.2 found), javaIn_ne]

/-- Interpreters in two homes are the same exactly when the homes have the same root. -/
theorem javaIn_eq_iff {first second : String} :
    javaIn first = javaIn second ↔ ∃ root, RootOf first root ∧ RootOf second root := by
  simp only [javaIn, String.append_left_inj, rootOf_iff]
  constructor
  · exact fun same => ⟨_, rfl, same.symm⟩
  · rintro ⟨root, left, right⟩
    rw [left, right]

/-- No separator stands right before the place of the interpreter in a home. -/
theorem isSeparator_eq_false_of_interpreter {front : String} {c : Char}
    (path : (settings.javaSetup identity environment).interpreter =
      front ++ String.singleton c ++ "/bin/java") : isSeparator c = false := by
  cases found : settings.javaHome? environment with
  | none =>
    rw [interpreter_eq_java_iff.2 found] at path
    have slash : '/' ∈ "java".toList := by rw [path]; simp
    exact absurd slash (by decide)
  | some home =>
    rw [interpreter_of_home (home_iff.2 found), javaIn, String.append_left_inj] at path
    obtain ⟨_, _, _, stops⟩ := rootOf_iff.2 path
    exact stops c (by simp)

/-- Java is run by its bare name where neither the settings nor the environment name a home that is
not empty. Otherwise it is run at a fixed place below the root of the home, whichever of the two
names it; two launches run the same interpreter exactly when their homes have the same root, and no
separator stands right before that place. -/
theorem interpreter_exact (settings others : Settings) (identity elsewhere : Identity)
    (environment surroundings : Environment) :
    let interpreter := (settings.javaSetup identity environment).interpreter
    (interpreter = "java" ↔
      ¬settings.NamesJava ∧ ¬∃ home, environment "JAVA_HOME" = some home ∧ home ≠ "") ∧
    (∀ home, settings.Home environment home →
      (∃ root, RootOf home root ∧ interpreter = root ++ "/bin/java") ∧
      ∀ second, others.Home surroundings second →
        (interpreter = (others.javaSetup elsewhere surroundings).interpreter ↔
          ∃ root, RootOf home root ∧ RootOf second root)) ∧
    ∀ front c, interpreter = front ++ String.singleton c ++ "/bin/java" →
      isSeparator c = false := by
  intro interpreter
  refine ⟨interpreter_eq_java_iff.trans javaHome?_eq_none_iff, fun home named => ⟨?_, ?_⟩,
    fun _ _ => isSeparator_eq_false_of_interpreter⟩
  · exact ⟨dropTrailingSeparators home, rootOf_iff.2 rfl, interpreter_of_home named⟩
  · intro second secondNamed
    rw [interpreter_of_home secondNamed, ← javaIn_eq_iff, ← interpreter_of_home named]

/-- Two launches that name one home from different sources, with other separators at its end, run
the same interpreter, and a home of separators only has an empty root. -/
theorem interpreter_exact_separators :
    let settings : Settings := ⟨some "/jdk/\\/", none, none⟩
    let others : Settings := ⟨some "", none, none⟩
    let environment (home : String) : Environment := fun _ => some home
    settings.Home (environment "") "/jdk/\\/" ∧ others.Home (environment "/jdk") "/jdk" ∧
      (settings.javaSetup ⟨"./", "x"⟩ (environment "")).interpreter =
        (others.javaSetup ⟨"/", "y"⟩ (environment "/jdk")).interpreter ∧
      (others.javaSetup ⟨"/", "y"⟩ (environment "/\\")).interpreter = "/bin/java" := by
  intro settings others environment
  have first : settings.Home (environment "") "/jdk/\\/" := .set rfl (by decide)
  have unnamed : ¬others.NamesJava := by
    rintro ⟨_, named, nonempty⟩
    exact nonempty (Option.some.inj named).symm
  have inherited (home : String) (nonempty : home ≠ "") : others.Home (environment home) home :=
    .inherited unnamed rfl nonempty
  have second := inherited "/jdk" (by decide)
  obtain ⟨_, paths, _⟩ := interpreter_exact settings others ⟨"./", "x"⟩ ⟨"/", "y"⟩
    (environment "") (environment "/jdk")
  have root (home : String) (dropped : dropTrailingSeparators home = "/jdk") :
      RootOf home "/jdk" := rootOf_iff.2 dropped
  have same := ((paths _ first).2 _ second).2 ⟨"/jdk", root _ (by decide), root _ (by decide)⟩
  obtain ⟨_, separators, _⟩ := interpreter_exact others others ⟨"/", "y"⟩ ⟨"/", "y"⟩
    (environment "/\\") (environment "/\\")
  obtain ⟨⟨empty, rootOf, path⟩, _⟩ := separators _ (inherited "/\\" (by decide))
  have dropped : dropTrailingSeparators "/\\" = "" := by decide
  obtain rfl : "" = empty := dropped.symm.trans (rootOf_iff.1 rootOf)
  exact ⟨first, second, same, path⟩

end Settings

end JavaLauncher
