import ShaderRecovery.Asset.Dump

open ShaderRecovery

/-- Lists a decompressed sub-program container given on the command line. -/
def main (args : List String) : IO UInt32 := do
  match Dump.parseArgs args with
  | .error msg =>
    IO.eprintln ("error: " ++ msg)
    return 1
  | .ok .help =>
    IO.print Dump.usage
    return 0
  | .ok (.list r) =>
    let bytes ← try
        pure (some (← IO.FS.readBinFile r.path))
      catch e =>
        IO.eprintln ("error: read " ++ r.path ++ ": " ++ toString e)
        pure none
    match bytes with
    | none => return 1
    | some bs =>
      let (lines, err) := Dump.listing r bs.toList
      for l in lines do
        IO.println l
      match err with
      | some msg =>
        IO.eprintln ("error: " ++ msg)
        return 1
      | none => return 0
