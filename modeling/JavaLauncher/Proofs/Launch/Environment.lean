import JavaLauncher.Proofs.Launch.Assembly
import JavaLauncher.Proofs.Settings.Sources

/-!
# What the environment has a say in

Two launches of one launcher with the same arguments, settings and files may differ only where their
environments disagree on one of two variables, and not even there if the settings have the say: the
plan and the archives on its class path are the same. No other variable counts, nor does it count
whether a variable is unset or empty. What the settings leave to a variable it decides
(`make_environment`).
-/
namespace JavaLauncher.LaunchPlan

/-- Environments that agree on the Java installation, unless the settings name one, and on the
search path, unless the settings list a library directory, give one plan, with the same archives on
its class path. If the settings name no installation, the program is that of the variable, and if
they list no library directory, the search path is that of the variable, provided that these are not
empty. -/
theorem make_environment (settings : Settings) :
    (∀ first second : Environment,
      settings.NamesJava ∨ first.Agree second "JAVA_HOME" →
      settings.ListsLibraries ∨ first.Agree second "ESXX_PATH" →
        ∀ tree identity arguments,
          make tree identity arguments settings first =
            make tree identity arguments settings second ∧
          ClassPath.archives tree (settings.javaSetup identity first).searchPath =
            ClassPath.archives tree (settings.javaSetup identity second).searchPath) ∧
    (¬settings.NamesJava → ∀ (environment : Environment) home,
      environment "JAVA_HOME" = some home → home ≠ "" → ∀ tree identity arguments,
        (make tree identity arguments settings environment).commandLine.program = javaIn home) ∧
    (¬settings.ListsLibraries → ∀ (environment : Environment) text,
      environment "ESXX_PATH" = some text → Text.fields (· == ';') text ≠ [] →
        ∀ tree identity arguments,
          "-Desxx.app.include_path=" ++ ";".intercalate (Text.fields (· == ';') text) ∈
            (make tree identity arguments settings environment).commandLine.arguments) := by
  refine ⟨?_, ?_, ?_⟩
  · intro first second home libraries tree identity arguments
    have setup : settings.javaSetup identity first = settings.javaSetup identity second :=
      Settings.javaSetup_eq_of_agree identity home libraries
    refine ⟨?_, by rw [setup]⟩
    rw [make, make, setup]
  · intro bare environment home given nonempty tree identity arguments
    rw [program_make]
    exact Settings.interpreter_of_variable identity bare given nonempty
  · intro bare environment text given present tree identity arguments
    have path := Settings.searchPath_of_variable identity bare given
    rw [if_neg present] at path
    have told := (infix_arguments_make tree identity arguments settings environment).subset
      List.mem_cons_self
    rwa [path] at told

/-- Settings that name an installation, on which the environments therefore may disagree, but list
no library directory: it does not count that the search path is empty in one environment and unset
in another, nor that a third variable differs, but a search path that is set counts. Settings with
an empty text name no installation. -/
theorem make_environment_masked :
    let settings : Settings := ⟨some "/jdk", none, some ["", ""]⟩
    let nameless : Settings := ⟨some "", none, none⟩
    let first : Environment := fun name =>
      if name = "JAVA_HOME" then some "/old/" else if name = "ESXX_PATH" then some "" else none
    let second : Environment := fun name => if name = "CLASSPATH" then some "a.jar" else none
    let third : Environment := fun name => if name = "ESXX_PATH" then some ";a;;b" else none
    let launched := make .empty ⟨"./", "x"⟩ ["a"]
    (settings.NamesJava ∧ first.Agree second "ESXX_PATH" ∧ ¬first.Agree second "JAVA_HOME" ∧
      launched settings first = launched settings second) ∧
    (¬nameless.NamesJava ∧ (launched nameless first).commandLine.program = "/old/bin/java") ∧
    ¬settings.ListsLibraries ∧
      "-Desxx.app.include_path=a;b" ∈ (launched settings third).commandLine.arguments := by
  intro settings nameless first second third launched
  have named : settings.NamesJava := ⟨"/jdk", rfl, by decide⟩
  have agree : first.Agree second "ESXX_PATH" := by
    intro value nonempty
    have empty : first "ESXX_PATH" = some "" := by decide
    have unset : second "ESXX_PATH" = none := by decide
    rw [empty, unset, Option.some_inj]
    exact iff_of_false nonempty.symm (by simp)
  have disagree : ¬first.Agree second "JAVA_HOME" := by
    intro same
    have given : second "JAVA_HOME" = some "/old/" := (same "/old/" (by decide)).1 (by decide)
    exact absurd given (by decide)
  have unnamed : ¬nameless.NamesJava := by
    rintro ⟨home, set, nonempty⟩
    obtain rfl : "" = home := Option.some.inj set
    exact nonempty rfl
  have unlisted : ¬settings.ListsLibraries := by
    rintro ⟨listed, set, entry, member, nonempty⟩
    obtain rfl : ["", ""] = listed := Option.some.inj set
    simp only [List.mem_cons, List.not_mem_nil, or_false, or_self] at member
    exact nonempty member
  obtain ⟨masks, _, lists⟩ := make_environment settings
  have plans := masks first second (.inl named) (.inr agree) .empty ⟨"./", "x"⟩ ["a"]
  have program := (make_environment nameless).2.1 unnamed first "/old/" (by decide) (by decide)
    .empty ⟨"./", "x"⟩ ["a"]
  have path := lists unlisted third ";a;;b" (by decide) (by decide) .empty ⟨"./", "x"⟩ ["a"]
  have home : javaIn "/old/" = "/old/bin/java" := by decide
  exact ⟨⟨named, agree, disagree, plans.1⟩, ⟨unnamed, program.trans home⟩, unlisted, path⟩

end JavaLauncher.LaunchPlan
