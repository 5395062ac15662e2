import JavaLauncher.Settings.Schema
import JavaLauncher.Toml.Document
import JavaLauncher.Text.Utf8
import JavaLauncher.FileTree.Access
import JavaLauncher.Identity

/-!
# Loading settings

A launcher consults up to two configuration files of its installation: the one named like
itself and then the one that all launchers share, whose settings are laid over the others. A
file that does not exist sets nothing. A file that cannot be read or does not hold settings
sets nothing either, and a warning says so. Where reading one of them comes to no end, loading does
not either.
-/
namespace JavaLauncher

/-- Why the bytes of a file are no text. -/
inductive ReadFailure where
  /-- The system does not give the bytes. -/
  | system (cause : SystemError)
  /-- The bytes are not valid UTF-8. -/
  | notText
  deriving DecidableEq, Repr

/-- The diagnostic of a read failure. -/
def ReadFailure.message : ReadFailure → String
  | .system cause => cause.message
  | .notText => "stream did not contain valid UTF-8"

/-- Why a text holds no settings. -/
inductive ParseFailure where
  /-- The text is no document. -/
  | form
  /-- The table of the document is no table of settings. -/
  | schema (cause : SchemaError)

/-- The diagnostic of a parse failure; mistakes in the form of the text have none. -/
def ParseFailure.message? : ParseFailure → Option String
  | .form => none
  | .schema cause => cause.message?

/-- Why a configuration file is ignored. -/
inductive Rejection where
  /-- The file cannot be read. -/
  | unreadable (path : String) (cause : ReadFailure)
  /-- The file does not hold settings. -/
  | malformed (path : String) (cause : ParseFailure)

/-- The diagnostic of a rejection. For a malformed file it ends where the cause would be told. -/
def Rejection.message : Rejection → String
  | .unreadable path cause => "Failed to read config file '" ++ path ++ "': " ++ cause.message
  | .malformed path _ => "Failed to parse config file '" ++ path ++ "': "

/-- The base name of the launcher whose configuration file all launchers share. -/
def sharedName : String := "esxx"

/-- The configuration file of the installation with a given name. -/
def Identity.settingsFile (identity : Identity) (name : String) : String :=
  identity.installedPath ("etc/" ++ name ++ ".toml")

/-- The configuration files of a launcher; the settings of a later one win. -/
def Identity.settingsFiles (identity : Identity) : List String :=
  if identity.baseName = sharedName then [identity.settingsFile sharedName]
  else [identity.settingsFile identity.baseName, identity.settingsFile sharedName]

namespace Settings

/-- The settings in a text. -/
def ofText (text : String) : Except ParseFailure Settings :=
  match Toml.parse? text with
  | none => .error .form
  | some table => (ofTable table).mapError .schema

/-- The settings in the bytes that reading a path gave. -/
def ofBytes (path : String) (bytes : Except SystemError (List UInt8)) :
    Except Rejection Settings :=
  match bytes with
  | .error cause => .error (.unreadable path (.system cause))
  | .ok bytes =>
    match Text.Utf8.decode? bytes with
    | none => .error (.unreadable path .notText)
    | some text => (ofText text).mapError (.malformed path)

/-- The settings in the file at a path; nothing where no such file exists. -/
def loadFile (tree : FileTree) (path : String) : Except Rejection (Option Settings) :=
  if tree.pathExists path then (ofBytes path (tree.read path)).map some else .ok none

/-- Settings with those of one more file laid over them, and the reasons to ignore a file. -/
def withFile (loaded : Settings × List Rejection)
    (file : Except Rejection (Option Settings)) : Settings × List Rejection :=
  match file with
  | .ok none => loaded
  | .ok (some found) => (loaded.1.overlaid found, loaded.2)
  | .error reason => (loaded.1, loaded.2 ++ [reason])

/-- The settings in a list of files, the later ones laid over the earlier, and the reasons to
ignore some of them. -/
def combine (files : List (Except Rejection (Option Settings))) : Settings × List Rejection :=
  files.foldl withFile (unset, [])

/-- The settings of a launcher, and the reasons to ignore some of its files. -/
def load (tree : FileTree) (identity : Identity) : Settings × List Rejection :=
  combine (identity.settingsFiles.map (loadFile tree))

/-- What the file at a path of a file system comes to, unless reading it never ends. -/
def loadFile? (system : FileSystem) (path : String) :
    Option (Except Rejection (Option Settings)) :=
  if system.readEnds path then some (loadFile system.tree path) else none

/-- The settings of a launcher in a file system and the reasons to ignore some of its files, unless
loading never ends. -/
def load? (system : FileSystem) (identity : Identity) : Option (Settings × List Rejection) :=
  (identity.settingsFiles.mapM (loadFile? system)).map combine

end Settings

end JavaLauncher
