import JavaLauncher.Launch.Run

/-!
# The launcher as a program

The program reads what a launch looks at, the configuration files and the library directories,
into a file tree, runs the launch on that tree, and prints the command line that it comes to
where that would be started. Everything that is decided is decided by `launch`.
-/
namespace JavaLauncher.Program

/-- The starter that keeps the command line and reports success. -/
def keep : Starter (Option CommandLine) := fun commandLine _ => (.ok 0, some commandLine)

/-- The tree with the file at a path, if there is one. -/
def readInto (tree : FileTree) (path : String) : IO FileTree := do
  try
    let bytes ← IO.FS.readBinFile path
    return tree.put (tree.locate path) (.file bytes.toList false)
  catch _ => return tree

/-- The tree with the regular files in the directory at a path, as far as they are found there. -/
def listInto (tree : FileTree) (path : RawText) : IO FileTree := do
  try
    let directory ← IO.FS.realPath path.shown
    let mut listed := tree.put (tree.locate path) .directory
    for entry in ← directory.readDir do
      if let .ok found ← entry.path.metadata.toBaseIO then
        if found.type == .file then
          listed := listed.put (tree.locate (ClassPath.below path entry.fileName)) (.file [] false)
    return listed
  catch _ => return tree

/-- The tree of what a launch looks at. -/
def snapshot (identity : Identity) (environment : Environment) : IO FileTree := do
  let here ← IO.currentDir
  let start := FileTree.startingIn (FileTree.empty.locate here.toString)
  let configured ← identity.settingsFiles.foldlM readInto start
  let settings := (Settings.load configured identity).1
  let setup := settings.javaSetup identity environment
  (setup.searchPath.map ClassPath.libraryOf).foldlM listInto configured

/-- Prints the command line of a launch with some arguments, and what the launch shows and
warns about. -/
def start (arguments : List String) : IO UInt32 := do
  let path := (← IO.appPath).toString
  let home ← IO.getEnv javaHomeVariable
  let search ← IO.getEnv searchPathVariable
  let environment : Environment := fun name =>
    if name = javaHomeVariable then home else if name = searchPathVariable then search else none
  let tree ←
    match Identity.ofPath path with
    | .ok identity => snapshot identity environment
    | .error _ => pure FileTree.empty
  let (report, commandLine) :=
    launch tree path arguments environment keep none none
  for warning in report.warnings do
    IO.eprintln warning.message
  IO.print (Text.Utf8.decodeLossy report.output)
  IO.eprint report.diagnostics
  match commandLine with
  | some found => IO.println found.line
  | none => pure ()
  return report.code.toUInt32

end JavaLauncher.Program

/-- Shows the launch with the arguments of the program. -/
def main (arguments : List String) : IO UInt32 := JavaLauncher.Program.start arguments
