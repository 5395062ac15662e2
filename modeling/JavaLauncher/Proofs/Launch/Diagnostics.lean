import JavaLauncher.Process.Spawn
import JavaLauncher.Proofs.Identity.Location
import JavaLauncher.Proofs.Launch.Outcome
import JavaLauncher.Proofs.Launch.Assembly
import JavaLauncher.Proofs.Settings.JavaHome

/-!
# The lines of a diagnostic

A diagnostic is a sentence around a text from outside: the path of the executable, the program that
was to run, or a reason of the system. The sentence has no line break (`exists_message_eq`) and is
followed by one, so the diagnostic has a line more than the text has line breaks. The program is
made from the home of Java, of which nothing but separators is lost (`lineBreaks_javaIn`). Hence a
launcher tells its failure in one line unless the path, within the limit, or the home has a line
break, and each of these begins another line (`diagnostics_exact`).
-/
namespace JavaLauncher

/-- The number of line breaks in a text. -/
def lineBreaks (text : String) : Nat := text.toList.count '\n'

/-- A text is a number of lines: a line break is its last character, and it has that many. -/
structure HasLines (text : String) (count : Nat) : Prop where
  /-- The last line ends. -/
  last : text.toList.getLast? = some '\n'
  /-- Each line ends with a line break. -/
  breaks : lineBreaks text = count

instance (text : String) (count : Nat) : Decidable (HasLines text count) :=
  decidable_of_iff (text.toList.getLast? = some '\n' ∧ lineBreaks text = count)
    ⟨fun ⟨last, breaks⟩ => ⟨last, breaks⟩, fun lines => ⟨lines.last, lines.breaks⟩⟩

/-- A diagnostic repeats a text with its line breaks: it has a line more than these, and so is one
line exactly where the text has none. -/
structure RepeatsLines (diagnostics text : String) : Prop where
  /-- Each line break of the text begins another line. -/
  lines : HasLines diagnostics (lineBreaks text + 1)
  /-- There is one line where the text has no line break, and only there. -/
  oneLine : HasLines diagnostics 1 ↔ '\n' ∉ text.toList

namespace LaunchFailure

/-- The text from outside that the diagnostic of a failure names. Of a path over the limit it names
the length only. -/
def subject : LaunchFailure → String
  | .path (.unknown reason) => reason
  | .path (.tooLong _ _) => ""
  | .path (.notText name) | .path (.bareName name) => name
  | .spawn program _ | .noExitCode program => program

/-- A failure to run a program: it cannot be started, for which there may be any code, or it ends
without an exit code. -/
inductive OfProgram (program : String) : LaunchFailure → Prop where
  /-- The program cannot be started. -/
  | spawn (code : Int32) : OfProgram program (.spawn program code)
  /-- The program ends without an exit code. -/
  | noExitCode : OfProgram program (.noExitCode program)

end LaunchFailure

/-- The line breaks of two texts in order. -/
theorem lineBreaks_append (front back : String) :
    lineBreaks (front ++ back) = lineBreaks front + lineBreaks back := by
  simp [lineBreaks]

/-- A text has no line break exactly where the character is not in it. -/
theorem lineBreaks_eq_zero_iff {text : String} : lineBreaks text = 0 ↔ '\n' ∉ text.toList :=
  List.count_eq_zero

/-- The digits of a number hold no line break. -/
theorem lineBreaks_toString_nat (number : Nat) : lineBreaks (toString number) = 0 := by
  rw [lineBreaks_eq_zero_iff, Nat.toString_eq_repr, Nat.toList_repr]
  intro member
  exact absurd (Nat.isDigit_of_mem_toDigits (by decide) (by decide) member) (by decide)

/-- The sign and the digits of a number hold no line break. -/
theorem lineBreaks_toString_int (number : Int) : lineBreaks (toString number) = 0 := by
  cases number with
  | ofNat size => exact lineBreaks_toString_nat size
  | negSucc size =>
    have sign : lineBreaks "-" = 0 := by decide
    change lineBreaks ("-" ++ toString (size + 1)) = 0
    rw [lineBreaks_append, sign, lineBreaks_toString_nat]

namespace LaunchFailure

/-- A diagnostic is its subject between two texts without line breaks. -/
theorem exists_message_eq (failure : LaunchFailure) :
    ∃ front back, failure.message = front ++ failure.subject ++ back ∧
      lineBreaks front = 0 ∧ lineBreaks back = 0 := by
  cases failure with
  | path cause =>
    cases cause with
    | unknown reason =>
      exact ⟨"Unable to determine launcher path: ", "", String.append_empty.symm,
        by decide, by decide⟩
    | tooLong length limit =>
      -- The path has no place in the sentence, so the sentence is all that comes before it.
      refine ⟨(PathError.tooLong length limit).message, "",
        (String.append_empty.trans String.append_empty).symm, ?_, by decide⟩
      have front : lineBreaks "Launcher path is " = 0 := by decide
      have middle : lineBreaks " bytes long, limit is " = 0 := by decide
      change lineBreaks
        ("Launcher path is " ++ toString length ++ " bytes long, limit is " ++ toString limit) = 0
      simp only [lineBreaks_append, front, middle, lineBreaks_toString_nat]
    | notText name => exact ⟨"Launcher path ", " is not valid Unicode", rfl, by decide, by decide⟩
    | bareName name =>
      exact ⟨"Expected at least one (back-) slash in module name ", ".", rfl,
        by decide, by decide⟩
  | spawn program code =>
    refine ⟨"Failed to launch ", ": error code " ++ toString code.toInt ++ ".", ?_, by decide, ?_⟩
    · change "Failed to launch " ++ program ++ ": error code " ++ toString code.toInt ++ "." =
        "Failed to launch " ++ program ++ (": error code " ++ toString code.toInt ++ ".")
      simp only [String.append_assoc]
    · have front : lineBreaks ": error code " = 0 := by decide
      have back : lineBreaks "." = 0 := by decide
      simp only [lineBreaks_append, front, back, lineBreaks_toString_int]
  | noExitCode program =>
    exact ⟨"Child process ", " terminated without an exit code", rfl, by decide, by decide⟩

/-- A diagnostic has the line breaks of its subject. -/
theorem lineBreaks_message (failure : LaunchFailure) :
    lineBreaks failure.message = lineBreaks failure.subject := by
  obtain ⟨front, back, message, before, after⟩ := failure.exists_message_eq
  rw [message, lineBreaks_append, lineBreaks_append, before, after, Nat.zero_add, Nat.add_zero]

end LaunchFailure

/-- A text and a line break repeat the line breaks of a text that has as many. -/
theorem repeatsLines_append {message text : String} (same : lineBreaks message = lineBreaks text) :
    RepeatsLines (message ++ "\n") text := by
  have last : (message ++ "\n").toList.getLast? = some '\n' := by simp
  have breaks : lineBreaks (message ++ "\n") = lineBreaks text + 1 := by
    have ending : lineBreaks "\n" = 1 := by decide
    rw [lineBreaks_append, same, ending]
  refine ⟨⟨last, breaks⟩, ?_⟩
  rw [← lineBreaks_eq_zero_iff]
  constructor
  · intro one
    have total : lineBreaks text + 1 = 1 := breaks.symm.trans one.breaks
    omega
  · intro none
    exact ⟨last, by rw [breaks, none]⟩

/-- A diagnostic repeats its subject with its line breaks. -/
theorem repeatsLines_diagnostic (failure : LaunchFailure) :
    RepeatsLines (failure.message ++ "\n") failure.subject :=
  repeatsLines_append failure.lineBreaks_message

/-- The interpreter in a home has the line breaks of the home: separators are no line breaks. -/
theorem lineBreaks_javaIn (home : String) : lineBreaks (javaIn home) = lineBreaks home := by
  obtain ⟨separators, whole, separate, _⟩ := rootOf_iff.2 (rfl : dropTrailingSeparators home = _)
  have place : lineBreaks "/bin/java" = 0 := by decide
  have plain : lineBreaks separators = 0 := by
    rw [lineBreaks_eq_zero_iff]
    intro member
    exact absurd (separate '\n' member) (by decide)
  calc
    lineBreaks (javaIn home) = lineBreaks (dropTrailingSeparators home) := by
      rw [javaIn, lineBreaks_append, place, Nat.add_zero]
    _ = lineBreaks (dropTrailingSeparators home ++ separators) := by
      rw [lineBreaks_append, plain, Nat.add_zero]
    _ = lineBreaks home := by rw [← whole]

/-- The diagnostic of a path that gives no identity repeats the path, unless that is over the
limit. -/
theorem repeatsLines_of_located {path : String} {cause : PathError}
    (located : Located path (.error cause)) :
    (1024 ≤ path.utf8ByteSize → HasLines ((LaunchFailure.path cause).message ++ "\n") 1) ∧
      (path.utf8ByteSize < 1024 →
        RepeatsLines ((LaunchFailure.path cause).message ++ "\n") path) := by
  cases located with
  | tooLong long =>
    refine ⟨fun _ => (repeatsLines_diagnostic _).lines, fun short => ?_⟩
    exact absurd long (Nat.not_le.2 short)
  | bareName short =>
    refine ⟨fun long => absurd long (Nat.not_le.2 short), fun _ => ?_⟩
    exact repeatsLines_diagnostic _

section

variable {settings : Settings} {identity : Identity} {environment : Environment}
  {failure : LaunchFailure}

/-- A failure to run a program names the program. -/
theorem LaunchFailure.OfProgram.subject_eq {program : String} (about : failure.OfProgram program) :
    failure.subject = program := by
  cases about with
  | spawn code => rfl
  | noExitCode => rfl

/-- The diagnostic of a failure to run the interpreter repeats the home of Java. -/
theorem repeatsLines_of_home
    (about : failure.OfProgram (settings.javaSetup identity environment).interpreter)
    {home : String} (counts : settings.Home environment home) :
    RepeatsLines (failure.message ++ "\n") home := by
  apply repeatsLines_append
  rw [failure.lineBreaks_message, about.subject_eq, Settings.interpreter_of_home counts,
    lineBreaks_javaIn]

/-- Where no home counts, the diagnostic of a failure to run the interpreter is one line. -/
theorem hasLines_of_homeless
    (about : failure.OfProgram (settings.javaSetup identity environment).interpreter)
    (homeless : ∀ home, ¬settings.Home environment home) :
    HasLines (failure.message ++ "\n") 1 := by
  have none : settings.javaHome? environment = none :=
    Option.eq_none_iff_forall_ne_some.2 fun home found => homeless home (Settings.home_iff.2 found)
  have java : failure.subject = "java" :=
    about.subject_eq.trans (Settings.interpreter_eq_java_iff.2 none)
  have plain : lineBreaks "java" = 0 := by decide
  have lines := (repeatsLines_diagnostic failure).lines
  rwa [java, plain] at lines

end

/-- Starting a program in a file tree fails in no other way than that the program cannot be
started. -/
theorem FileTree.ofProgram_of_start {tree : FileTree} {commandLine : CommandLine}
    {failure : LaunchFailure} (failed : (FileTree.start commandLine tree).1 = .error failure) :
    failure.OfProgram commandLine.program := by
  simp only [FileTree.start] at failed
  split at failed
  · split at failed
    · cases failed
      exact .spawn _
    · split at failed
      · cases failed
      · cases failed
        exact .spawn _
  · cases failed
    exact .spawn _

section

variable {Console World : Type}

/-- The diagnostics of a program that is run before anything was told. -/
def diagnosticsOf (program : StateM (Stage Console World) Int32) (console : Console)
    (world : World) : String :=
  (Id.run (program.run (.opening console world))).2.diagnostics

/-- A launch whose command line fails tells the failure after what was told before. -/
theorem diagnostics_run_of_error {plan : LaunchPlan} {start : Starter World}
    {stage : Stage Console World} {failure : LaunchFailure}
    (failed : (start plan.commandLine stage.world).1 = .error failure) (output : Output Console) :
    (Id.run ((plan.run output start).run stage)).2.diagnostics =
      stage.diagnostics ++ failure.message ++ "\n" := by
  obtain ⟨warnings, run⟩ := run_launchPlan plan output start stage
  have ends := run_runCommand start plan.commandLine
    { stage with
      console :=
        if plan.output = "" then stage.console else (output.print plan.output stage.console).2
      warnings }
  rw [run]
  exact (ends.failed failure failed).2

/-- Giving up tells the failure. -/
theorem diagnosticsOf_giveUp (failure : LaunchFailure) (console : Console) (world : World) :
    diagnosticsOf (giveUp failure) console world = failure.message ++ "\n" := by
  rw [diagnosticsOf, run_giveUp, Stage.opening, String.empty_append]

/-- A launch whose command line fails tells the failure. -/
theorem diagnosticsOf_run {plan : LaunchPlan} {start : Starter World} {world : World}
    {failure : LaunchFailure} (failed : (start plan.commandLine world).1 = .error failure)
    (output : Output Console) (console : Console) :
    diagnosticsOf (plan.run output start) console world = failure.message ++ "\n" := by
  rw [diagnosticsOf, diagnostics_run_of_error failed, Stage.opening, String.empty_append]

/-- A launcher whose path gives no identity tells why. -/
theorem diagnosticsOf_runLauncher_of_error {path : String} {cause : PathError}
    (rejected : Identity.ofPath path = .error cause) (tree : FileTree) (arguments : List String)
    (environment : Environment) (output : Output Console) (start : Starter World)
    (console : Console) (world : World) :
    diagnosticsOf (runLauncher tree path arguments environment output start) console world =
      (LaunchFailure.path cause).message ++ "\n" := by
  rw [diagnosticsOf, run_runLauncher_of_error rejected, Stage.opening, String.empty_append]
  rfl

/-- A launcher whose command line fails tells the failure, whatever files it ignored. -/
theorem diagnosticsOf_runLauncher_of_ok {path : String} {identity : Identity}
    (accepted : Identity.ofPath path = .ok identity) {tree : FileTree} {arguments : List String}
    {settings : Settings} (loaded : settings = (Settings.load tree identity).1)
    {environment : Environment} {start : Starter World} {world : World} {failure : LaunchFailure}
    (failed : (start (LaunchPlan.make tree identity arguments settings environment).commandLine
      world).1 = .error failure) (output : Output Console) (console : Console) :
    diagnosticsOf (runLauncher tree path arguments environment output start) console world =
      failure.message ++ "\n" := by
  rw [loaded] at failed
  rw [diagnosticsOf, run_runLauncher_of_ok accepted, diagnostics_run_of_error failed,
    Stage.opening, String.empty_append]

/-- Every failure of a launcher is told in lines that repeat the text from outside that it names,
and so in one line exactly where this text has no line break. A path over the limit is not repeated,
and any other path that gives no identity is. Whatever the settings, the environment, the arguments
and the files, a launch whose command line fails repeats the home of Java, and nothing where no home
counts. -/
theorem diagnostics_exact (output : Output Console) (start : Starter World) (console : Console)
    (world : World) :
    (∀ failure, RepeatsLines (diagnosticsOf (giveUp failure) console world) failure.subject) ∧
    ∀ (path : String) (arguments : List String) (environment : Environment) (tree : FileTree),
      let launcher := runLauncher tree path arguments environment output start
      match Identity.ofPath path with
      | .error _ =>
        (1024 ≤ path.utf8ByteSize → HasLines (diagnosticsOf launcher console world) 1) ∧
        (path.utf8ByteSize < 1024 → RepeatsLines (diagnosticsOf launcher console world) path)
      | .ok identity => ∀ (settings : Settings) (failure : LaunchFailure),
        let plan := LaunchPlan.make tree identity arguments settings environment
        let diagnostics := diagnosticsOf (plan.run output start) console world
        (start plan.commandLine world).1 = .error failure →
          failure.OfProgram plan.commandLine.program →
            (∀ home, settings.Home environment home → RepeatsLines diagnostics home) ∧
            ((∀ home, ¬settings.Home environment home) → HasLines diagnostics 1) ∧
            (settings = (Settings.load tree identity).1 →
              diagnosticsOf launcher console world = diagnostics) := by
  refine ⟨fun failure => ?_, fun path arguments environment tree => ?_⟩
  · rw [diagnosticsOf_giveUp]
    exact repeatsLines_diagnostic failure
  intro launcher
  cases known : Identity.ofPath path with
  | error cause =>
    have told : diagnosticsOf launcher console world = _ :=
      diagnosticsOf_runLauncher_of_error known tree arguments environment output start console world
    rw [told]
    exact repeatsLines_of_located (Identity.ofPath_eq_iff.1 known)
  | ok identity =>
    intro settings failure plan diagnostics failed about
    have told : diagnostics = failure.message ++ "\n" := diagnosticsOf_run failed output console
    rw [LaunchPlan.program_make] at about
    rw [told]
    exact ⟨fun _ => repeatsLines_of_home about, hasLines_of_homeless about,
      fun loaded => diagnosticsOf_runLauncher_of_ok known loaded failed output console⟩

end

/-- An environment that names nothing but a home of Java. -/
def Environment.ofHome (home : String) : Environment := fun name =>
  if name = "JAVA_HOME" then some home else none

/-- A line break in the name of the executable or in an argument is not told of. Each of those in
the home is, also where separators follow it. -/
theorem diagnostics_exact_home :
    let environment := Environment.ofHome "/a\n\nb\n/"
    let plan := LaunchPlan.make .empty ⟨"./", "x\ny"⟩ ["\n"] .unset environment
    let pipe : Pipe := ⟨[], none⟩
    Identity.ofPath "./x\ny" = .ok ⟨"./", "x\ny"⟩ ∧
      Settings.unset.Home environment "/a\n\nb\n/" ∧
      (FileTree.start plan.commandLine .empty).1 = .error (.spawn "/a\n\nb\n/bin/java" 2) ∧
      HasLines (diagnosticsOf (plan.run Pipe.output FileTree.start) pipe .empty) 4 ∧
      HasLines (diagnosticsOf (runLauncher .empty "./x\ny" ["\n"] environment Pipe.output
        FileTree.start) pipe .empty) 4 ∧
      HasLines (diagnosticsOf (runLauncher .empty "x\ny" ["\n"] environment Pipe.output
        FileTree.start) pipe .empty) 2 := by
  intro environment plan pipe
  have accepted : Identity.ofPath "./x\ny" = .ok ⟨"./", "x\ny"⟩ := by decide
  have rejected : Identity.ofPath "x\ny" = .error (.bareName "x\ny") := by decide
  have home : Settings.unset.Home environment "/a\n\nb\n/" := Settings.home_iff.2 (by decide)
  have failed : (FileTree.start plan.commandLine .empty).1 =
      .error (.spawn "/a\n\nb\n/bin/java" 2) := by decide +kernel
  have loaded : Settings.unset = (Settings.load .empty ⟨"./", "x\ny"⟩).1 := by decide
  obtain ⟨_, tells⟩ := diagnostics_exact Pipe.output FileTree.start pipe .empty
  have launched := tells "./x\ny" ["\n"] environment .empty
  have refused := tells "x\ny" ["\n"] environment .empty
  simp only [accepted] at launched
  simp only [rejected] at refused
  obtain ⟨repeats, _, same⟩ := launched .unset _ failed (FileTree.ofProgram_of_start failed)
  have lines := (repeats _ home).lines
  exact ⟨accepted, home, failed, lines, by rw [same loaded]; exact lines,
    (refused.2 (by decide)).lines⟩

/-- A line break in the home of Java, or in a path without a separator, makes a second line. -/
theorem two_lines_of_broken_home :
    let told (path : String) :=
      diagnosticsOf (runLauncher .empty path [] (.ofHome "a\nb") Pipe.output FileTree.start)
        ⟨[], none⟩ .empty
    told "./esxx" = "Failed to launch a\nb/bin/java: error code 2.\n" ∧
      ¬HasLines (told "./esxx") 1 ∧
      told "a\nb" = "Expected at least one (back-) slash in module name a\nb.\n" ∧
      ¬HasLines (told "a\nb") 1 := by
  decide +kernel

end JavaLauncher
