import Calendrics.CommandLine.Report

/-! The program: answers its arguments and exits. -/

/-- Writes the answer to the arguments, the messages apart from the output. -/
def main (arguments : List String) : IO UInt32 := do
  let log ← IO.getEnv "RUST_LOG"
  let response := Calendrics.CommandLine.respond arguments log
  for line in response.messages do
    IO.eprintln line
  IO.print response.output
  return UInt32.ofNat response.exit
