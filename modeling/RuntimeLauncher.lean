import RuntimeLauncher.CommandLine.Quoting
import RuntimeLauncher.Main
import RuntimeLauncher.Program
import RuntimeLauncher.Proofs.CommandLine.RoundTrip
import RuntimeLauncher.Proofs.Environment.Entries
import RuntimeLauncher.Proofs.LaunchData.Grammar
import RuntimeLauncher.Proofs.LaunchData.Storage
import RuntimeLauncher.Proofs.Runfiles.Propagation
import RuntimeLauncher.Proofs.Environment.Child
import RuntimeLauncher.Proofs.FileSystem.Writing
import RuntimeLauncher.Proofs.FileSystem.Replacement
import RuntimeLauncher.Proofs.LaunchData.Appending
import RuntimeLauncher.Proofs.Toml.Keys
import RuntimeLauncher.Proofs.Tool.Embedding
import RuntimeLauncher.Proofs.Tool.Refusal
import RuntimeLauncher.Proofs.Launch.CommandLine
import RuntimeLauncher.Proofs.Launch.Refusal
import RuntimeLauncher.Proofs.Launch.Running
import RuntimeLauncher.Proofs.LaunchData.Lists
import RuntimeLauncher.Proofs.Settings.Names
import RuntimeLauncher.Proofs.Settings.Loading
import RuntimeLauncher.Proofs.Launch.Logging
import RuntimeLauncher.Proofs.Toml.Documents
import RuntimeLauncher.Proofs.Tool.Dumping
import RuntimeLauncher.Proofs.Path.Components
import RuntimeLauncher.Proofs.Runfiles.Manifests
import RuntimeLauncher.Proofs.Runfiles.Ancestors
import RuntimeLauncher.Proofs.Runfiles.Locations
import RuntimeLauncher.Proofs.LaunchData.Normalising
import RuntimeLauncher.Proofs.Runfiles.Selection
import RuntimeLauncher.Proofs.Environment.Declarations
import RuntimeLauncher.Proofs.Launch.LauncherPath
import RuntimeLauncher.Proofs.Launch.Resolution
import RuntimeLauncher.Proofs.Path.Extensions
import RuntimeLauncher.Proofs.Launch.Sentinel
import RuntimeLauncher.Proofs.Launch.Artifact
import RuntimeLauncher.Proofs.Text.Order
import RuntimeLauncher.Proofs.LaunchData.KeyOrder
import RuntimeLauncher.Proofs.Tool.Reproduction
import RuntimeLauncher.Proofs.Path.Aliases
import RuntimeLauncher.Proofs.Launch.ExitCodes
import RuntimeLauncher.Proofs.Settings.Filters
