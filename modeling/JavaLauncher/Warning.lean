import JavaLauncher.Settings.Load

/-!
# Warnings

A warning tells of something that the launcher put up with: a configuration file it ignored, an
argument it had to repair, or a text it could not show.
-/
namespace JavaLauncher

/-- Something that the launcher put up with. -/
inductive Warning where
  /-- A configuration file is ignored. -/
  | ignoredConfig (reason : Rejection)
  /-- The argument at a position, counted from one, is not valid text; it is forwarded as
  shown. -/
  | repairedArgument (position : Nat) (forwarded : String)
  /-- The output does not take the usage and version texts, for a reason. -/
  | outputRefused (reason : String)

/-- The text of a warning. -/
def Warning.message : Warning → String
  | .ignoredConfig reason => "Ignoring launcher config: " ++ reason.message
  | .repairedArgument position forwarded =>
    "Argument " ++ toString position ++ " is not valid Unicode, forwarding " ++
      Text.quoted forwarded
  | .outputRefused reason => "Failed to write usage/version text: " ++ reason

end JavaLauncher
