import LineHighlight.Error
import LineHighlight.Files.Path
import LineHighlight.Json.Typed
import LineHighlight.Text.Blank

/-!
The configuration: its fields with their defaults, its typed form, and the checks that an
accepted configuration passes.
-/

namespace LineHighlight

/-- What the loader does after an attempt that failed. -/
inductive LoadFailure where
  /-- Try again on the next request for the engine. -/
  | retry
  /-- Keep the first failure and try no more. -/
  | failFast
deriving DecidableEq, Repr, Inhabited

namespace LoadFailure

/-- The policies with their names in documents. -/
def names : List (String × LoadFailure) :=
  [("retry", .retry), ("fail_fast", .failFast)]

/-- The name of a policy in documents. -/
def name : LoadFailure → String
  | .retry => "retry"
  | .failFast => "fail_fast"

/-- The name of a policy in a log. -/
def logName : LoadFailure → String
  | .retry => "Retry"
  | .failFast => "FailFast"

end LoadFailure

/-- The settings of the service. -/
structure ServerSettings where
  logLevel : String := "info"
  /-- The time one request may take, in milliseconds. -/
  requestTimeout : Nat := 5000
deriving DecidableEq, Repr, Inhabited

/-- The settings of the engine. -/
structure EngineSettings where
  /-- The directory that holds the payload. -/
  resourceDir : String := "resources"
  resourceName : String := "highlight.min"
  resourceExtension : String := "js"
  /-- The global object that the payload leaves behind. -/
  entryPoint : String := "hljs"
  loadFailure : LoadFailure := .retry
  /-- The memory that a script may take, in bytes; any amount when absent. -/
  memoryLimit : Option Nat := none
deriving DecidableEq, Repr, Inhabited

/-- The configuration of a service. -/
structure Config where
  server : ServerSettings := {}
  engine : EngineSettings := {}
deriving DecidableEq, Repr, Inhabited

namespace EngineSettings

/-- The path of the payload. -/
def resourcePath (s : EngineSettings) : String :=
  Files.join s.resourceDir (Files.fileName s.resourceName s.resourceExtension)

/-- A text that must not be blank. -/
def requireText (field value : String) : Except Error Unit :=
  if Text.isBlankText value then .error (.config (field ++ " cannot be empty")) else .ok ()

/-- The checks of the engine's settings, in this order. -/
def validate (s : EngineSettings) : Except Error Unit := do
  requireText "engine.resource_name" s.resourceName
  requireText "engine.resource_extension" s.resourceExtension
  requireText "engine.entry_point" s.entryPoint
  if s.memoryLimit = some 0 then
    .error (.config "engine.memory_limit_bytes must be > 0 when set")
  else .ok ()

/-- The typed form. -/
def toJson (s : EngineSettings) : Json :=
  .object [("resource_dir", .string s.resourceDir), ("resource_name", .string s.resourceName),
    ("resource_extension", .string s.resourceExtension), ("entry_point", .string s.entryPoint),
    ("load_failure", .string s.loadFailure.name),
    ("memory_limit_bytes", match s.memoryLimit with | some n => .nat n | none => .null)]

/-- A path in a typed document. -/
def path : Json.Decoder String :=
  Json.textAs "path string"

/-- A number of bytes in a typed document. -/
def byteCount : Json.Decoder Nat :=
  Json.unsigned "usize" (Nat.pow 2 64)

/-- The settings of a typed document; absent fields have their defaults. -/
def ofJson : Json.Decoder EngineSettings :=
  Json.record "EngineSettings"
    [("resource_dir", Json.checks path), ("resource_name", Json.checks Json.text),
      ("resource_extension", Json.checks Json.text), ("entry_point", Json.checks Json.text),
      ("load_failure", Json.checks (Json.enum LoadFailure.names)),
      ("memory_limit_bytes", Json.checks (Json.optional byteCount))]
    fun src => do
      let start : EngineSettings := {}
      let dir ← src.get "resource_dir" 0 path start.resourceDir
      let name ← src.get "resource_name" 1 Json.text start.resourceName
      let extension ← src.get "resource_extension" 2 Json.text start.resourceExtension
      let entry ← src.get "entry_point" 3 Json.text start.entryPoint
      let policy ← src.get "load_failure" 4 (Json.enum LoadFailure.names) start.loadFailure
      let limit ← src.get "memory_limit_bytes" 5 (Json.optional byteCount) (some start.memoryLimit)
      .ok ⟨dir, name, extension, entry, policy, limit⟩

end EngineSettings

namespace ServerSettings

/-- The typed form. -/
def toJson (s : ServerSettings) : Json :=
  .object [("log_level", .string s.logLevel), ("request_timeout_ms", .nat s.requestTimeout)]

/-- A number of milliseconds in a typed document. -/
def milliseconds : Json.Decoder Nat :=
  Json.unsigned "u64" (Nat.pow 2 64)

/-- The settings of a typed document; absent fields have their defaults. -/
def ofJson : Json.Decoder ServerSettings :=
  Json.record "ServerSettings"
    [("log_level", Json.checks Json.text), ("request_timeout_ms", Json.checks milliseconds)]
    fun src => do
      let start : ServerSettings := {}
      let level ← src.get "log_level" 0 Json.text start.logLevel
      let timeout ← src.get "request_timeout_ms" 1 milliseconds start.requestTimeout
      .ok ⟨level, timeout⟩

end ServerSettings

namespace Config

/-- The checks of a configuration: the service first, then the engine. -/
def validate (c : Config) : Except Error Unit := do
  if c.server.requestTimeout = 0 then
    .error (.config "server.request_timeout_ms must be > 0")
  c.engine.validate

/-- The configuration of a typed document; absent parts have their defaults. -/
def ofJson : Json.Decoder Config :=
  Json.record "ServerConfig"
    [("server", Json.checks ServerSettings.ofJson), ("engine", Json.checks EngineSettings.ofJson)]
    fun src => do
      let start : Config := {}
      let server ← src.get "server" 0 ServerSettings.ofJson start.server
      let engine ← src.get "engine" 1 EngineSettings.ofJson start.engine
      .ok ⟨server, engine⟩

end Config

end LineHighlight
