import StreamConformance.CommandLine

/-!
# The program

Reads the settings and the arguments, and writes the response.
-/

open StreamConformance in
/-- Runs the command line. -/
def main (arguments : List String) : IO UInt32 := do
  let timeout ← IO.getEnv Config.timeoutSetting
  let capacity ← IO.getEnv Config.capacitySetting
  let settings : Settings := fun name =>
    (if name == Config.timeoutSetting then timeout
      else if name == Config.capacitySetting then capacity
      else none).map fun value => value.toUTF8.toList
  let response := CommandLine.respond settings arguments
  (← IO.getStdout).putStr response.stdout
  (← IO.getStderr).putStr response.stderr
  return response.exitCode.toUInt32
