import Spreadsheet.CommandLine.Perform

/-! The program: reads its files and reports on its arguments. -/

namespace Spreadsheet.CommandLine

/-- The content of a file, if it can be read. -/
def contentOf? (file : String) : IO (Option String) := do
  try return some (← IO.FS.readFile file)
  catch _ => return none

def readFiles (args : List String) : IO (List (String × String)) := do
  match parse args with
  | .error _ => return []
  | .ok i => i.files.filterMapM fun file => do return (← contentOf? file).map (file, ·)

end Spreadsheet.CommandLine

def main (args : List String) : IO UInt32 := do
  let files ← Spreadsheet.CommandLine.readFiles args
  let report := Spreadsheet.CommandLine.perform (fun file => files.lookup file) args
  IO.print report.output
  if let some message := report.error then IO.eprintln message
  return UInt32.ofNat report.exitStatus
