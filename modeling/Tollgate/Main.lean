import Tollgate.CommandLine

namespace Tollgate.CommandLine

def usage : String :=
  "Usage: contract-runtime [--config FILE] run MODULE --entry NAME [--arg TYPE:VALUE]...\n" ++
    "         [--returns TYPE]... [--fee N] [--memory BYTES] [--timeout-ms N]\n" ++
    "         [--block-height N] [--caller NAME]"

def versionText : String := "contract-runtime 0.1.0"

def readFile (path : String) : IO (Option (List UInt8)) := do
  try
    return some (← IO.FS.readBinFile path).toList
  catch _ =>
    return none

def readFiles (paths : List String) : IO (List (String × List UInt8)) := do
  let read ← paths.mapM fun path => do
    return (← readFile path).map fun bytes => (path, bytes)
  return read.filterMap id

-- The configuration is read first, since it names further files.
def gather (words : List String) : IO (List (String × List UInt8)) := do
  match parse words with
  | .run r => do
    let first ← readFiles r.config.toList
    match readConfig (first.lookup ·) r.config with
    | .ok config => return first ++ (← readFiles (neededPaths config r))
    | .error _ => return first
  | _ => return []

def hexText (digits n : Nat) : String := Text.hexWidth digits n

def randomId : IO String := do
  let a ← IO.rand 0 0xFFFFFFFF
  let b ← IO.rand 0 0xFFFF
  let c ← IO.rand 0 0x0FFF
  let d ← IO.rand 0x8000 0xBFFF
  let e ← IO.rand 0 0xFFFFFF
  let f ← IO.rand 0 0xFFFFFF
  return String.intercalate "-"
    [hexText 8 a, hexText 4 b, "4" ++ hexText 3 c, hexText 4 d, hexText 6 e ++ hexText 6 f]

end Tollgate.CommandLine

open Tollgate Tollgate.CommandLine in
def main (words : List String) : IO UInt32 := do
  match parse words with
  | .help => IO.println usage
  | .version => IO.println versionText
  | _ => pure ()
  let files ← gather words
  let exit := run (files.lookup ·) words (← randomId) (← IO.monoNanosNow)
  match exit.output with
  | some d => IO.println (d.toJsonLines 0)
  | none => pure ()
  if !exit.complaint.isEmpty then IO.eprintln exit.complaint
  return UInt32.ofNat exit.code
