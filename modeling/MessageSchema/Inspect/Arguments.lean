/-! The arguments of the command line. They are read from left to right; the first one that asks for
help or the version, or that cannot be accepted, decides. -/
namespace MessageSchema

inductive Format where
  | table | json
deriving DecidableEq, Repr

structure Invocation where
  schema : String
  message : Option String
  format : Format
  strict : Bool
  quiet : Bool
deriving DecidableEq, Repr

inductive Request where
  | inspect (invocation : Invocation)
  | help
  | version
  /-- The arguments cannot be accepted. -/
  | refused
deriving DecidableEq, Repr

inductive Argument where
  /-- A name behind two dashes, and the text behind an equals sign. -/
  | long (name : String) (value : Option String)
  /-- Letters behind one dash. -/
  | short (letters : List Char)
  /-- Two dashes alone, behind which nothing is an option. -/
  | endOfOptions
  | plain (text : String)
deriving DecidableEq, Repr

/-- The shape of an argument. A dash alone is plain. -/
def Argument.ofText (text : String) : Argument :=
  match text.toList with
  | ['-', '-'] => .endOfOptions
  | '-' :: '-' :: option =>
    let name := option.takeWhile (· ≠ '=')
    match option.dropWhile (· ≠ '=') with
    | [] => .long (String.ofList name) none
    | _ :: value => .long (String.ofList name) (some (String.ofList value))
  | '-' :: letter :: letters => .short (letter :: letters)
  | _ => .plain text

inductive Setting where
  | schema | message | format
deriving DecidableEq, Repr

def Setting.ofName? : String → Option Setting
  | "schema" => some schema
  | "message" => some message
  | "format" => some format
  | _ => none

def Format.ofName? : String → Option Format
  | "table" => some table
  | "json" => some json
  | _ => none

structure Given where
  schema : Option String
  message : Option String
  format : Option Format
  strict : Bool
  quiet : Bool
deriving DecidableEq, Repr

namespace Given

def empty : Given :=
  ⟨none, none, none, false, false⟩

/-- Takes the value of an option. No option is given twice, and a path is not empty. -/
def set (given : Given) (setting : Setting) (value : String) : Except Request Given :=
  match setting with
  | .schema =>
    if given.schema.isSome ∨ value = "" then .error .refused
    else .ok { given with schema := some value }
  | .message =>
    if given.message.isSome then .error .refused else .ok { given with message := some value }
  | .format =>
    match Format.ofName? value with
    | some format =>
      if given.format.isSome then .error .refused else .ok { given with format := some format }
    | none => .error .refused

def setStrict (given : Given) : Except Request Given :=
  if given.strict then .error .refused else .ok { given with strict := true }

def setQuiet (given : Given) : Except Request Given :=
  if given.quiet then .error .refused else .ok { given with quiet := true }

def switch (given : Given) (name : String) : Except Request Given :=
  match name with
  | "strict" => given.setStrict
  | "quiet" => given.setQuiet
  | "help" => .error .help
  | _ => .error .refused

def switchAll (given : Given) : List Char → Except Request Given
  | [] => .ok given
  | 'q' :: letters => do (← given.setQuiet).switchAll letters
  | 'h' :: _ => .error .help
  | _ => .error .refused

/-- Whether a text may stand as a value of its own behind an option. -/
def isValue (text : String) : Bool :=
  match Argument.ofText text with
  | .plain _ => true
  | .long .. | .short _ | .endOfOptions => false

def takeAll (given : Given) : List String → Except Request Given
  | [] => .ok given
  | argument :: rest =>
    match Argument.ofText argument with
    | .long name (some value) =>
      match Setting.ofName? name with
      | some setting => do (← given.set setting value).takeAll rest
      | none => .error .refused
    | .long name none =>
      match Setting.ofName? name with
      | some setting =>
        match rest with
        | [] => .error .refused
        | value :: rest =>
          if isValue value then do (← given.set setting value).takeAll rest else .error .refused
      | none => do (← given.switch name).takeAll rest
    | .short letters => do (← given.switchAll letters).takeAll rest
    | .endOfOptions => if rest = [] then .ok given else .error .refused
    | .plain _ => .error .refused

/-- The invocation, once a schema is known: from the options or else from the environment. -/
def complete (given : Given) (environment : Option String) : Request :=
  match given.schema.or environment with
  | none => .refused
  | some schema =>
    if schema = "" then .refused
    else
      .inspect ⟨schema, given.message, given.format.getD .table, given.strict, given.quiet⟩

end Given

namespace Request

def helpOn : List String → Request
  | [] | ["inspect"] | ["help"] => .help
  | _ => .refused

/-- The request of a command line, given the schema path from the environment. -/
def ofArguments (environment : Option String) : List String → Request
  | [] => .refused
  | argument :: rest =>
    match Argument.ofText argument with
    | .plain "inspect" =>
      match Given.empty.takeAll rest with
      | .ok given => given.complete environment
      | .error request => request
    | .plain "help" => helpOn rest
    | .long "help" none | .short ('h' :: _) => .help
    | .long "version" none | .short ('V' :: _) => .version
    | _ => .refused

end Request

end MessageSchema
