import Attestor.CommandLine.Session
import Std.Time.DateTime.Timestamp

namespace Attestor.System

def read (path : String) : IO Entry := do
  try
    return .file (← IO.FS.readBinFile path).toList
  catch _ => return .other

def look (path : String) : IO (Option Entry) := do
  try
    let place ← IO.FS.realPath path
    if !(← place.pathExists) then return none
    if ← place.isDir then return some .other
    return some (← read path)
  catch _ => return none

def write (path : String) (content : List UInt8) : IO Bool := do
  try
    IO.FS.writeBinFile path ⟨content.toArray⟩
    return true
  catch _ => return false

def files : FileAccess IO where
  look := look
  write := write

def betweenZeros (bytes : List UInt8) : List (List UInt8) :=
  bytes.splitBy (fun _ next => next != 0) |>.map fun part => part.filter (· != 0)

def assignment? (text : String) : Option (String × String) :=
  match Text.cut '=' text.toList with
  | (name, some value) => some (String.ofList name, String.ofList value)
  | _ => none

def environment : IO Settings.Environment := do
  try
    let bytes ← IO.FS.readBinFile "/proc/self/environ"
    return (betweenZeros bytes.toList).filterMap fun bytes => (Text.decode? bytes).bind assignment?
  catch _ => return []

def now : IO Nat := do
  return (← Std.Time.Timestamp.now).toSecondsSinceUnixEpoch.val.toNat

end Attestor.System

namespace Attestor.CommandLine

def usage : String :=
  "Usage: attestor [OPTIONS] <COMMAND>\n\n" ++
  "Commands:\n" ++
  "  check   Make checks on an image and attest the passing ones\n" ++
  "  verify  Verify what has been attested for an image\n" ++
  "  help    Print this message\n\n" ++
  "Options:\n" ++
  "  -c, --config <PATH>  File with the settings\n" ++
  "  -h, --help           Print this message\n" ++
  "  -V, --version        Print the version"

end Attestor.CommandLine

open Attestor CommandLine

def main (words : List String) : IO UInt32 := do
  let outcome ← Session.run Settings.Formats.plain System.files (← System.environment) (← System.now) words
  match outcome with
  | .report report => IO.println report.toJson.pretty
  | .failure cause => IO.eprintln ("Error: " ++ cause.message)
  | .help => IO.println usage
  | .version => IO.println "attestor 0.1.0"
  | .wrong => IO.eprintln usage
  return outcome.exitCode.toUInt32
