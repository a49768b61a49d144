import Beacon.Command.Help
import Beacon.Datum.Reader
import Beacon.Http.Recording

/-!
# The Command

The command at work. Its settings come from the environment, its options from
the command line, and the responses of the node from a recording, which is one
line of JSON on standard input. Local time is that of a zone without an offset,
and the log shows no time of day.

All that is done here is to hand these over and to write out what comes back.
-/

namespace Beacon

/-- Writes lines for the user beside the output. -/
def tell (lines : List Text) : IO Unit := do
  for line in lines do
    IO.eprintln line.legible

/-- The node of the recording on standard input. Without one there is nothing
    anywhere. -/
def recordedNode : IO Http.Transport := do
  let line ← (← IO.getStdin).getLine
  match Datum.parse line with
  | .ok recording => pure (Http.Recording.read recording).transport
  | .error _ => pure (Http.Recording.transport [])

/-- Carries out options and gives the status. -/
def carryOut (options : Command.Options) : IO UInt32 := do
  let result := Command.run options ⟨0⟩ (← recordedNode)
  IO.print result.output
  tell (result.errors options "-")
  match result.status with
  | .ok status => pure status.toUInt32
  | .error breakdown =>
    tell [Text.ofString breakdown.kind.name ++ ": " ++ breakdown.message]
    pure 1

/-- The command with these words after its name. -/
def start (words : List String) : IO UInt32 := do
  let url ← IO.getEnv Settings.urlVariable
  let timeout ← IO.getEnv Settings.timeoutVariable
  match Settings.read (url.map Text.ofString) (timeout.map Text.ofString) with
  | .error fault =>
    tell [fault.message]
    pure 1
  | .ok settings => match Command.Options.read settings (words.map Text.ofString) with
    | .ok options => carryOut options
    | .error .help =>
      IO.println (Command.help settings)
      pure 0
    | .error (.refused refusal) =>
      tell [↑Command.usage, refusal.line]
      pure 2

end Beacon

def main (words : List String) : IO UInt32 :=
  Beacon.start words
