import JavaLauncher.Main
import JavaLauncher.Process.Spawn
import JavaLauncher.Proofs.Arguments.Arity
import JavaLauncher.Proofs.Arguments.Collection
import JavaLauncher.Proofs.Arguments.Grammar
import JavaLauncher.Proofs.Arguments.Separation
import JavaLauncher.Proofs.CommandLine.ArgumentText
import JavaLauncher.Proofs.CommandLine.Decoding
import JavaLauncher.Proofs.CommandLine.ExtraWords
import JavaLauncher.Proofs.Identity.Selection
import JavaLauncher.Proofs.Launch.Diagnostics
import JavaLauncher.Proofs.Launch.Environment
import JavaLauncher.Proofs.Launch.ExtraArguments
import JavaLauncher.Proofs.Launch.ListProperties
import JavaLauncher.Proofs.Launch.Outcome
import JavaLauncher.Proofs.Launch.Relaying
import JavaLauncher.Proofs.Settings.Isolation
import JavaLauncher.Proofs.Settings.JavaHome
import JavaLauncher.Proofs.Settings.Precedence
import JavaLauncher.Proofs.Settings.Schema
import JavaLauncher.Settings.Load
