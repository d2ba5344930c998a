import MessageSchema.Inspect.Arguments
import MessageSchema.Inspect.Report
import MessageSchema.Schema.Load

/-! Inspection of a schema: load it, report on its fields, and count what is left unresolved. -/
namespace MessageSchema

structure Outcome where
  exit : UInt32
  stdout : String
  /-- What is written to standard error besides the warnings. -/
  stderr : String
  warnings : List Event
deriving Repr

def Error.report (error : Error) : String :=
  let cause := match error.cause? with
    | some cause => "  caused by: " ++ cause ++ "\n"
    | none => ""
  "error: " ++ error.message ++ "\n" ++ cause

namespace Schema

/-- The messages that a filter selects: all of them, or the one it names. -/
def select (schema : Schema) (filter : Option String) : Except Error (List Message) :=
  match filter with
  | none => .ok schema.messages
  | some name =>
    match schema.message? name with
    | some message => .ok [message]
    | none => .error (.schema (.messageNotFound name (schema.messages.map Message.fullName)))

def summary (schema : Schema) (rows : Nat) : String :=
  Numeral.writeInteger schema.messages.length ++ " messages, " ++
    Numeral.writeInteger schema.enums.length ++ " enums, " ++ Numeral.writeInteger rows ++
    " fields (" ++ Numeral.writeInteger schema.unresolvedCount ++ " unresolved)\n"

end Schema

namespace Invocation

def report (invocation : Invocation) (rows : List Row) : String :=
  match invocation.format with
  | .table => Row.table rows
  | .json => Row.json rows

/-- The events that are shown: warnings, unless all is to be quiet. -/
def shown (invocation : Invocation) (events : List Event) : List Event :=
  if invocation.quiet then [] else events.filter Event.isWarning

/-- An inspection that ends before there is a report. -/
def failed (warnings : List Event) (error : Error) : Outcome :=
  ⟨1, "", error.report, warnings⟩

/-- Inspects a loaded schema. A strict inspection fails behind its report. -/
def inspect (invocation : Invocation) (warnings : List Event) (schema : Schema) : Outcome :=
  match schema.select invocation.message with
  | .error error => failed warnings error
  | .ok messages =>
    let rows := messages.flatMap Row.ofMessage
    let summary := if invocation.quiet then "" else schema.summary rows.length
    let unresolved := schema.unresolvedCount
    if invocation.strict ∧ 0 < unresolved then
      let error := Error.schema (.unresolvedReferences unresolved)
      ⟨1, invocation.report rows, summary ++ error.report, warnings⟩
    else ⟨0, invocation.report rows, summary, warnings⟩

/-- Loads and inspects a schema, given the bytes of its file or why there are none. -/
def run (invocation : Invocation) (content : Except ReadFault ByteArray) : Outcome :=
  let loading := Schema.ofFile invocation.schema content
  let warnings := invocation.shown loading.events
  match loading.result with
  | .error error => failed warnings error
  | .ok schema => invocation.inspect warnings schema

end Invocation

end MessageSchema
