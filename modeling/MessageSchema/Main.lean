import MessageSchema.Inspect

/-! The command line: reads arguments, environment and file, and writes what the inspection says. -/
namespace MessageSchema.CommandLine

/-- The bytes of a file. -/
def readContent (path : String) : IO (Except ReadFault ByteArray) := do
  try
    return .ok (← IO.FS.readBinFile path)
  catch
    | .noFileOrDirectory .. => return .error .noSuchFile
    | cause => return .error (.system (toString cause))

/-- How the program is called. -/
def helpText : String :=
  "Usage: proto-field-model inspect --schema <SCHEMA> [--message <MESSAGE>] " ++
    "[--format <table|json>] [--strict] [--quiet]"

/-- A warning as one line. -/
def warningLine (event : Event) : String :=
  match event with
  | .unresolved field scope reference =>
    "WARN " ++ event.message ++ " field=" ++ field ++ " scope=" ++ scope ++ " reference=" ++ reference
  | .resolved .. | .loaded .. => event.message

end MessageSchema.CommandLine

open MessageSchema CommandLine

def main (arguments : List String) : IO UInt32 := do
  let environment ← IO.getEnv "PROTO_FIELD_MODEL_SCHEMA"
  match Request.ofArguments environment arguments with
  | .help =>
    IO.println helpText
    return 0
  | .version =>
    IO.println "proto-field-model 0.1.0"
    return 0
  | .refused =>
    IO.eprintln helpText
    return 2
  | .inspect invocation =>
    let outcome := invocation.run (← readContent invocation.schema)
    for warning in outcome.warnings do
      IO.eprintln (warningLine warning)
    IO.print outcome.stdout
    IO.eprint outcome.stderr
    return outcome.exit
