import LineHighlight.Config
import LineHighlight.Files.Tree
import LineHighlight.Yaml.Document
import LineHighlight.Yaml.Typed

/-!
The configuration in a YAML document.

The document's entries are decoded first, with the defaults for what is absent, and the result
is checked then.
-/

namespace LineHighlight

/-- The service's settings in a document. -/
def ServerSettings.ofYaml : Yaml.Decoder ServerSettings :=
  let milliseconds := Yaml.unsigned "u64" (Nat.pow 2 64)
  Yaml.record "ServerSettings"
    [("log_level", Yaml.checks Yaml.text), ("request_timeout_ms", Yaml.checks milliseconds)]
    fun spot fields => do
      let start : ServerSettings := {}
      let level ← Yaml.field spot fields "log_level" Yaml.text start.logLevel
      let timeout ← Yaml.field spot fields "request_timeout_ms" milliseconds start.requestTimeout
      .ok ⟨level, timeout⟩

/-- The engine's settings in a document. -/
def EngineSettings.ofYaml : Yaml.Decoder EngineSettings :=
  let path := Yaml.textAs "path string"
  let policy := Yaml.enum LoadFailure.names
  let limit := Yaml.optional (Yaml.unsigned "usize" (Nat.pow 2 64))
  Yaml.record "EngineSettings"
    [("resource_dir", Yaml.checks path), ("resource_name", Yaml.checks Yaml.text),
      ("resource_extension", Yaml.checks Yaml.text), ("entry_point", Yaml.checks Yaml.text),
      ("load_failure", Yaml.checks policy), ("memory_limit_bytes", Yaml.checks limit)]
    fun spot fields => do
      let start : EngineSettings := {}
      let dir ← Yaml.field spot fields "resource_dir" path start.resourceDir
      let name ← Yaml.field spot fields "resource_name" Yaml.text start.resourceName
      let extension ← Yaml.field spot fields "resource_extension" Yaml.text start.resourceExtension
      let entry ← Yaml.field spot fields "entry_point" Yaml.text start.entryPoint
      let onFailure ← Yaml.field spot fields "load_failure" policy start.loadFailure
      let memory ← Yaml.field spot fields "memory_limit_bytes" limit start.memoryLimit
      .ok ⟨dir, name, extension, entry, onFailure, memory⟩

namespace Config

/-- The configuration in a document's tree. -/
def ofYaml : Yaml.Decoder Config :=
  Yaml.record "ServerConfig"
    [("server", Yaml.checks ServerSettings.ofYaml), ("engine", Yaml.checks EngineSettings.ofYaml)]
    fun spot fields => do
      let start : Config := {}
      let server ← Yaml.field spot fields "server" ServerSettings.ofYaml start.server
      let engine ← Yaml.field spot fields "engine" EngineSettings.ofYaml start.engine
      .ok ⟨server, engine⟩

/-- The configuration in a document, before it is checked. -/
def decode (d : Yaml.Document) : Except Yaml.Misfit Config :=
  match d.root with
  | none => .ok {}
  | some root => ofYaml ⟨root, []⟩ root

/-- The configuration in a document. -/
def ofDocument (d : Yaml.Document) : Except Error Config :=
  match decode d with
  | .error m => .error (.config m.message)
  | .ok c => c.validate.map fun _ => c

/-- The reason why a text that is no document is refused. -/
def notADocument : String :=
  "not a single well-formed YAML document"

/-- The configuration in a text. -/
def parse (text : String) : Except Error Config :=
  match Yaml.Document.read? text with
  | none => .error (.config notADocument)
  | some d => ofDocument d

/-- The configuration in a file. -/
def ofFile (files : Files.Tree) (home : Files.Place) (path : String) : Except Error Config :=
  match files.readText home path with
  | .error f => .error (.io f.message)
  | .ok text => parse text

end Config

end LineHighlight
