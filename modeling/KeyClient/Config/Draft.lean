import KeyClient.Config.Basic

/-!
# Drafts of configurations

A draft has the fields of a configuration with whatever values they were given.  One draft is
laid over another by `Draft.merge`: where it has a value, this value counts.
-/

namespace KeyClient.Config

/-- The fields of a configuration before they are checked. -/
structure Draft where
  version : Value
  logLevel : Value
  baseUrl : Value
  timeoutMs : Value
deriving Repr

namespace Draft

/-- The draft that says nothing. -/
def empty : Draft := ⟨.undefined, .undefined, .undefined, .undefined⟩

/-- The draft that a value stands for. -/
def ofValue (value : Value) : Draft where
  version := value.field "version"
  logLevel := value.field "logLevel"
  baseUrl := (value.field "client").field "baseUrl"
  timeoutMs := (value.field "client").field "timeoutMs"

/-- The draft of a configuration. -/
def ofConfig (config : Config) : Draft where
  version := .ofNat Config.version
  logLevel := .string config.logLevel.name
  baseUrl := .string config.client.baseUrl
  timeoutMs := .ofNat config.client.timeoutMs

/-- The draft as an object. -/
def toValue (draft : Draft) : Value :=
  .object [("version", draft.version), ("logLevel", draft.logLevel),
    ("client", .object [("baseUrl", draft.baseUrl), ("timeoutMs", draft.timeoutMs)])]

/-- The draft with another one over it; the version stays. -/
def merge (draft patch : Draft) : Draft where
  version := draft.version
  logLevel := patch.logLevel.orElse draft.logLevel
  baseUrl := patch.baseUrl.orElse draft.baseUrl
  timeoutMs := patch.timeoutMs.orElse draft.timeoutMs

/-- The draft of the default configuration with another one over it. -/
def overDefault (patch : Draft) : Draft := (ofConfig Config.default).merge patch

/-- The configuration that a draft stands for. -/
def check (draft : Draft) : Checked Config := Config.check draft.toValue

end Draft

end KeyClient.Config
