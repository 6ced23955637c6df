import KeyClient.Files.Tree
import KeyClient.Value.Basic

/-!
# Failures

Everything that ends an invocation before its time.  An `AppError` is an error of the application
with a code and, often, a context; a `UsageError` says what is wrong with the arguments or that
help was asked for; a `SystemError` comes from the file system.  Each of them has a message.
-/

namespace KeyClient

/-! ## Errors of the application -/

/-- How a request fails. -/
inductive RequestFault where
  | invalidRequest
  | communication
  | unreadableResponse
  | unexpectedResponse
deriving DecidableEq, Repr

namespace RequestFault

/-- All faults. -/
def all : List RequestFault :=
  [invalidRequest, communication, unreadableResponse, unexpectedResponse]

/-- The name of the fault. -/
def name : RequestFault → String
  | invalidRequest => "InvalidRequest"
  | communication => "CommunicationError"
  | unreadableResponse => "InvalidResponsePayload"
  | unexpectedResponse => "UnexpectedResponse"

end RequestFault

/-- An error of the application; a context that is no object stands for none. -/
inductive AppError where
  | general (message code : String) (context : Value)
  | config (message : String) (context : Value)
  | validation (message : String) (context : Value)
  | override (command reason : String)
  | request (fault : RequestFault) (message : String) (status context : Value)
deriving Repr, Inhabited

namespace AppError

/-- The name of the kind of error. -/
def name : AppError → String
  | general .. => "AppError"
  | config .. => "ConfigError"
  | validation .. => "ValidationError"
  | override .. => "OverrideError"
  | request .. => "ClientError"

/-- The code by which programs recognise the kind of error. -/
def code : AppError → String
  | general _ code _ => code
  | config .. => "CONFIG_ERROR"
  | validation .. => "VALIDATION_ERROR"
  | override .. => "OVERRIDE_ERROR"
  | request .. => "CLIENT_ERROR"

/-- The message for the user. -/
def message : AppError → String
  | general message .. | config message _ | validation message _ | request _ message .. => message
  | override command reason => s!"Override for \"{command}\" failed: {reason}"

/-- What the error is about. -/
def context : AppError → Value
  | general _ _ context | config _ context | validation _ context | request _ _ _ context => context
  | override command reason =>
    .object [("command", .string command), ("reason", .string reason)]

/-- The members that only failed requests have. -/
def details : AppError → List (String × Value)
  | request fault _ status _ =>
    ("kind", .string fault.name) ::
      (match status with
      | .undefined => []
      | status => [("status", status)])
  | _ => []

/-- The error as an object. -/
def toValue (error : AppError) : Value :=
  .object <|
    [("name", .string error.name), ("code", .string error.code),
      ("message", .string error.message)] ++
    (if error.context.isTruthy then [("context", error.context)] else []) ++ error.details

/-- The name of the error with its message, if it has one. -/
def headline (error : AppError) : String :=
  if error.message = "" then error.name else s!"{error.name}: {error.message}"

end AppError

/-! ## Errors in the arguments -/

/-- Why a command line is not carried out. -/
inductive UsageError where
  | unknownOption (flag : String) (similar : List String)
  | unknownCommand (name : String) (similar : List String)
  | missingArgument (flags : String)
  | invalidArgument (flags argument reason : String)
  | excessArguments (command : Option String) (count : Nat)
  | missingOption (flags : String)
  | version (text : String)
  | helpRequested
  | helpShown (failed : Bool)
deriving DecidableEq, Repr

namespace UsageError

/-- The question whether something similar was meant. -/
def suggestion : List String → String
  | [] => ""
  | [word] => s!"\n(Did you mean {word}?)"
  | words => "\n(Did you mean one of " ++ ", ".intercalate words ++ "?)"

/-- What is written about the error. -/
def message : UsageError → String
  | unknownOption flag similar => s!"error: unknown option '{flag}'{suggestion similar}"
  | unknownCommand name similar => s!"error: unknown command '{name}'{suggestion similar}"
  | missingArgument flags => s!"error: option '{flags}' argument missing"
  | invalidArgument flags argument reason =>
    s!"error: option '{flags}' argument '{argument}' is invalid. {reason}"
  | excessArguments command count =>
    let place := (command.map fun name => s!" for '{name}'").getD ""
    s!"error: too many arguments{place}. Expected 0 arguments but got {count}."
  | missingOption flags => s!"error: required option '{flags}' not specified"
  | version text => text
  | helpRequested | helpShown _ => "(outputHelp)"

/-- The exit status: 0 for what was asked for. -/
def exitCode : UsageError → Nat
  | version _ | helpRequested | helpShown false => 0
  | _ => 1

end UsageError

/-! ## All failures -/

/-- A failed operation on a file. -/
structure SystemError where
  errno : Files.Errno
  operation : String
  path : String
deriving DecidableEq, Repr

/-- The error in words. -/
def SystemError.message (error : SystemError) : String :=
  s!"{error.errno.name}: {error.errno.description}, {error.operation} '{error.path}'"

/-- Whatever ends an invocation before its time. -/
inductive Failure where
  | app (error : AppError)
  | usage (error : UsageError)
  | system (error : SystemError)
  | other (name message : String)
deriving Repr, Inhabited

/-- The failure to turn a value into a text. -/
def Failure.unconvertible : Failure :=
  .other "TypeError" "Cannot convert object to primitive value"

/-- The message of a failure. -/
def Failure.message : Failure → String
  | app error => error.message
  | usage error => error.message
  | system error => error.message
  | other _ message => message

end KeyClient
