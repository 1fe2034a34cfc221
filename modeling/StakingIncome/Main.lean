import StakingIncome.Export

/-!
The command line: an export with the settings of the process, on the files of the system. Only a
failure is told.
-/

namespace StakingIncome.CommandLine

def readBytes (path : String) : IO (Except Fault ByteArray) := do
  try
    return .ok (← IO.FS.readBinFile path)
  catch _ =>
    return .error .file

def writeText (path text : String) : IO (Except Fault Unit) := do
  try
    IO.FS.writeBinFile path text.toUTF8
    return .ok ()
  catch _ =>
    return .error .file

instance : Surroundings IO where
  read := readBytes
  write := writeText
  tell _ := return ()

/-- What the process sets of the variables that settings are read from. -/
def environment : IO Environment := do
  let names := Variable.all.map Variable.name
  let values ← names.mapM fun name => do return (name, ← IO.getEnv name)
  return fun name => (values.lookup name).join

end StakingIncome.CommandLine

open StakingIncome

def main : IO UInt32 := do
  match ← (Export.performFrom (← CommandLine.environment)).run with
  | .ok _ => return 0
  | .error fault =>
    IO.eprintln ("Export failed: " ++ fault.message)
    return 1
