import MethodSignature.Color.Formatter
import MethodSignature.Main
import MethodSignature.Proofs.Signature.Brackets
import MethodSignature.Proofs.Split.Runs
import MethodSignature.Proofs.Signature.Arguments
import MethodSignature.Proofs.Signature.Grammar
import MethodSignature.Proofs.Signature.RoundTrip
import MethodSignature.Proofs.Signature.Verdict
import MethodSignature.Proofs.Json.Delimited
import MethodSignature.Proofs.Output.JsonStream
import MethodSignature.Proofs.Output.Sink
import MethodSignature.Proofs.Config.Search
import MethodSignature.Proofs.Storage.Agreement
import MethodSignature.Proofs.Program.Override
import MethodSignature.Proofs.Text.Ascii
import MethodSignature.Proofs.Command.Inputs
import MethodSignature.Proofs.Color.Strip
import MethodSignature.Proofs.Output.Presentation
import MethodSignature.Proofs.Storage.Written
import MethodSignature.Proofs.Storage.Joined
import MethodSignature.Proofs.Command.Init
import MethodSignature.Proofs.Output.Tally
import MethodSignature.Proofs.Command.Parse
import MethodSignature.Proofs.Split.Tokens
import MethodSignature.Proofs.Config.Locality
import MethodSignature.Proofs.Config.Delimiters
import MethodSignature.Proofs.Signature.Spacing
import MethodSignature.Proofs.Signature.Chronicle
import MethodSignature.Proofs.Output.Legible
import MethodSignature.Proofs.Color.Workshop
import MethodSignature.Proofs.Storage.Segments
import MethodSignature.Proofs.Storage.Ancestors
import MethodSignature.Proofs.Signature.Slices
