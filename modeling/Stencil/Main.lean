import Stencil.Command.Run

/-! The command line. -/

open Stencil

def readFailure : IO.Error → String
  | .noFileOrDirectory .. => "No such file or directory (os error 2)"
  | .permissionDenied .. => "Permission denied (os error 13)"
  | error => toString error

def readBytes (read : IO ByteArray) : IO (Except String (List UInt8)) := do
  try
    return .ok (← read).toList
  catch error =>
    return .error (readFailure error)

def main (arguments : List String) : IO UInt32 := do
  match Command.ofArguments? arguments with
  | none =>
    IO.eprint Command.usageText
    return 2
  | some command =>
    let file ← match command.templateFile? with
      | some name => readBytes (IO.FS.readBinFile name)
      | none => pure (.ok [])
    let stdin ← IO.getStdin
    let input ← match command with
      | .render _ none _ _ =>
        if ← stdin.isTty then pure none
        else
          let bytes ← stdin.readBinToEnd
          pure (some bytes.toList)
      | _ => pure none
    let outcome := command.run file input
    let stdout ← IO.getStdout
    stdout.write ⟨outcome.output.toArray⟩
    stdout.flush
    IO.eprint outcome.complaint
    return UInt32.ofNat outcome.exitCode
