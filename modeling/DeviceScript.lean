import DeviceScript.Main
import DeviceScript.Proofs.Command.ExitCode
import DeviceScript.Proofs.Emission.Agreement
import DeviceScript.Proofs.Emission.Anchor
import DeviceScript.Proofs.Emission.Chain
import DeviceScript.Proofs.Emission.Effects
import DeviceScript.Proofs.Emission.Indentation
import DeviceScript.Proofs.Emission.Outline
import DeviceScript.Proofs.Emission.Places
import DeviceScript.Proofs.Emission.StringLiteral
import DeviceScript.Proofs.Translation.Assembly
import DeviceScript.Proofs.Translation.FileOutcome
import DeviceScript.Proofs.Translation.Log
import DeviceScript.Proofs.Translation.Naming
import DeviceScript.Proofs.Translation.Nesting
import DeviceScript.Proofs.Translation.Refusal
import DeviceScript.Proofs.Translation.Session
import DeviceScript.Proofs.Console.Markup
import DeviceScript.Proofs.Files.Keeping
import DeviceScript.Proofs.Command.Printing
import DeviceScript.Proofs.Emission.LoopHeader
import DeviceScript.Proofs.Emission.TypedArrays
import DeviceScript.Proofs.Emission.EmptyBodies
import DeviceScript.Proofs.Emission.Digits
import DeviceScript.Proofs.Settings.Merging
import DeviceScript.Proofs.Settings.Search
import DeviceScript.Proofs.Settings.Typed
import DeviceScript.Proofs.Settings.Nearest
import DeviceScript.Proofs.Settings.Explicit
import DeviceScript.Proofs.Settings.Faults
import DeviceScript.Proofs.Emission.Visits
import DeviceScript.Proofs.Emission.Matches
import DeviceScript.Proofs.Emission.Wording
import DeviceScript.Proofs.Translation.Matches
import DeviceScript.Proofs.Console.Verbatim
import DeviceScript.Proofs.Translation.Overlay
import DeviceScript.Proofs.Command.Paths
