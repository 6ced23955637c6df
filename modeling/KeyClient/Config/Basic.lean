import KeyClient.Config.Issue
import KeyClient.Url.Basic

/-!
# Configurations

A configuration says where requests are sent, how long to wait for an answer and what is logged.
`Config.check` finds out whether a value is one: a field that is missing has its default, and
every other field that is not as it must be is an issue.  `Config.toValue` is the value that a
configuration is written as.  Values are checked as the schemas of zod 3.25.76 are documented to
check them.
-/

namespace KeyClient

namespace Config

/-- The server of a configuration that names none. -/
def defaultBaseUrl : String := "http://localhost:8080"

/-- The time limit of a configuration that has none, in milliseconds. -/
def defaultTimeout : Nat := 30000

/-- The shortest time limit. -/
def leastTimeout : Nat := 1

/-- The longest time limit. -/
def greatestTimeout : Nat := 600000

/-- The version of the format. -/
def version : Nat := 1

/-- Whether the text is an absolute address. -/
def isAddress (text : String) : Bool := (Url.parse? text.toList).isSome

/-- Whether the time limit is in range. -/
def isTimeout (n : Nat) : Bool := leastTimeout ≤ n && n ≤ greatestTimeout

end Config

/-- Where and how requests are sent. -/
structure ClientConfig where
  baseUrl : String
  timeoutMs : Nat
  isAddress : Config.isAddress baseUrl = true
  isTimeout : Config.isTimeout timeoutMs = true
deriving DecidableEq, Repr

/-- A complete configuration. -/
structure Config where
  client : ClientConfig
  logLevel : LogLevel
deriving DecidableEq, Repr

namespace ClientConfig

/-- The settings of a configuration that says nothing. -/
def default : ClientConfig where
  baseUrl := Config.defaultBaseUrl
  timeoutMs := Config.defaultTimeout
  isAddress := by decide +kernel
  isTimeout := by decide

/-- The settings as an object. -/
def toValue (client : ClientConfig) : Value :=
  .object [("baseUrl", .string client.baseUrl), ("timeoutMs", .ofNat client.timeoutMs)]

end ClientConfig

namespace Config

/-- The configuration that says nothing. -/
def default : Config := ⟨.default, .info⟩

/-- The configuration as an object. -/
def toValue (config : Config) : Value :=
  .object [("version", .ofNat version), ("client", config.client.toValue),
    ("logLevel", .string config.logLevel.name)]

/-! ## Checking values -/

/-- What the check of a value finds: what it stands for, or what is wrong with it. -/
abbrev Checked (α : Type) := Except (List Issue) α

/-- A value with one issue. -/
def refuse {α : Type} (fault : Fault) : Checked α := .error [⟨[], fault⟩]

/-- The check of a field of an object. -/
def checkField {α : Type} (object : Value) (field : String) (check : Value → Checked α) :
    Checked α :=
  (check (object.field field)).mapError (·.map (·.within field))

/-- Two checks, of which both report their issues. -/
def both {α β : Type} : Checked α → Checked β → Checked (α × β)
  | .ok a, .ok b => .ok (a, b)
  | .ok _, .error issues => .error issues
  | .error issues, .ok _ => .error issues
  | .error issues, .error others => .error (issues ++ others)

/-- The check of a server. -/
def checkBaseUrl : Value → Checked { text : String // isAddress text = true }
  | .undefined => .ok ⟨defaultBaseUrl, ClientConfig.default.isAddress⟩
  | .string text => if h : isAddress text = true then .ok ⟨text, h⟩ else refuse .invalidAddress
  | value => refuse (.wrongType .string value)

/-- What is wrong with a number as a time limit. -/
def timeoutFaults (n : Number) : List Fault :=
  (if n.isWhole then [] else [.notWhole]) ++
    (if n.le (.integer leastTimeout) && n != .integer leastTimeout then [.tooSmall leastTimeout]
      else []) ++
    (if n.le (.integer greatestTimeout) then [] else [.tooBig greatestTimeout])

/-- The check of a time limit. -/
def checkTimeout : Value → Checked { n : Nat // isTimeout n = true }
  | .undefined => .ok ⟨defaultTimeout, ClientConfig.default.isTimeout⟩
  | .number .nan => refuse (.wrongType .number (.number .nan))
  | .number (.integer i) =>
    if h : isTimeout i.toNat = true then .ok ⟨i.toNat, h⟩
    else .error ((timeoutFaults (.integer i)).map fun fault => ⟨[], fault⟩)
  | .number n => .error ((timeoutFaults n).map fun fault => ⟨[], fault⟩)
  | value => refuse (.wrongType .number value)

/-- The check of the settings of a client. -/
def checkClient (value : Value) : Checked ClientConfig :=
  match value with
  | .object _ =>
    (both (checkField value "baseUrl" checkBaseUrl)
      (checkField value "timeoutMs" checkTimeout)).map fun (baseUrl, timeout) =>
        ⟨baseUrl.1, timeout.1, baseUrl.2, timeout.2⟩
  | _ => refuse (.wrongType .object value)

/-- The check of a level. -/
def checkLevelName : Value → Checked LogLevel
  | .string name =>
    match LogLevel.ofName? name with
    | some level => .ok level
    | none => refuse (.unknownLevel name)
  | value => refuse (.wrongType .level value)

/-- The check of a level that may be missing. -/
def checkLevel : Value → Checked LogLevel
  | .undefined => .ok .info
  | value => checkLevelName value

/-- The check of a version. -/
def checkVersion : Value → Checked Unit
  | .undefined | .number (.integer 1) => .ok ()
  | value => refuse (.wrongVersion value)

/-- The check of a complete configuration. -/
def check (value : Value) : Checked Config :=
  match value with
  | .object _ =>
    (both (checkField value "version" checkVersion)
      (both (checkField value "client" checkClient)
        (checkField value "logLevel" checkLevel))).map fun (_, client, level) => ⟨client, level⟩
  | _ => refuse (.wrongType .object value)

end Config

end KeyClient
