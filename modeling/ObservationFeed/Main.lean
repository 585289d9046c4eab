import ObservationFeed.Engine.Report

/-!
# The demonstration as a program

Reads the settings from the working directory, runs the demonstration and shows
what it reports.
-/

namespace ObservationFeed.Engine

/-- Looks for a file. -/
def readFile (name : String) : IO FileContent := do
  try
    return .bytes (← IO.FS.readBinFile name).toList
  catch
    | .noFileOrDirectory .. => return .missing
    | _ => return .unreadable

def randomNumber (bytes : USize) : IO Nat := do
  return (← IO.getRandomBytes bytes).foldl (fun n b => n * 256 + b.toNat) 0

end ObservationFeed.Engine

open ObservationFeed ObservationFeed.Engine in
def main : IO UInt32 := do
  let file ← readFile Report.configFile
  let client : ClientId := ⟨BitVec.ofNat 128 (← randomNumber 16)⟩
  let noise : Noise := ⟨UInt64.ofNat (← randomNumber 8)⟩
  let report := Report.ofFile file client noise
  for line in report.lines do
    IO.println line
  for line in report.errorLines do
    IO.eprintln line
  return if report.failure.isSome then 1 else 0
