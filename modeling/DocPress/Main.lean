import DocPress.Preview

/-!
# The command

Prints the preview of a Markdown file, or of standard input, for a position. The
arguments are the name of the file, or a hyphen, and the position.
-/

open DocPress

/-- Read what the arguments name, print its preview, and report failure by the
exit code. -/
def main (arguments : List String) : IO UInt32 := do
  let input ← match Preview.fileName? arguments with
    | some name => do pure (Preview.Input.file (← IO.FS.readFile name).toList)
    | none => do pure (Preview.Input.standard (← (← IO.getStdin).readToEnd).toList)
  let setting ← IO.getEnv "GDOCS_SMART_TYPOGRAPHY"
  match Preview.output arguments input setting with
  | .ok text =>
      IO.print (String.ofList text)
      return 0
  | .error failure =>
      IO.eprintln failure.fault.message
      return 1
