/-!
# Settings

The settings of a launcher are optional one by one. Settings laid over others win wherever they
are present, an empty text or list included.
-/
namespace JavaLauncher

/-- What configuration files say about a launch. -/
structure Settings where
  /-- The directory of the Java installation. -/
  javaHome : Option String
  /-- The extra arguments of the Java virtual machine. -/
  jvmArguments : Option String
  /-- The directories that hold libraries. -/
  searchPath : Option (List String)
  deriving DecidableEq, Repr

namespace Settings

/-- Nothing is set. -/
def unset : Settings := ⟨none, none, none⟩

/-- Settings with others laid over them, one by one. -/
def overlaid (base top : Settings) : Settings :=
  ⟨top.javaHome.or base.javaHome, top.jvmArguments.or base.jvmArguments,
    top.searchPath.or base.searchPath⟩

/-- Laying over nothing changes nothing. -/
theorem unset_overlaid (top : Settings) : unset.overlaid top = top := by
  simp [overlaid, unset]

/-- Laying nothing over changes nothing. -/
theorem overlaid_unset (base : Settings) : base.overlaid unset = base := by
  simp [overlaid, unset]

/-- Laying over is associative. -/
theorem overlaid_assoc (first second third : Settings) :
    (first.overlaid second).overlaid third = first.overlaid (second.overlaid third) := by
  simp [overlaid, Option.or_assoc]

end Settings

end JavaLauncher
