import LineHighlight.Engine.Interpreter
import LineHighlight.Service.Budget
import LineHighlight.Service.Tools

/-!
The service: its two tools, and how it is made from a configuration.
-/

namespace LineHighlight

/-- A service in the world. -/
abbrev WorldService := Service World Nat EngineRef

/-- The state of a service in the world. -/
abbrev WorldState := ServiceState World EngineRef

namespace Service

variable {W C E : Type}

/-- The answer of the tool that highlights: the result as indented JSON text. -/
def highlightTool (s : Service W C E) (params : HighlightParams) :
    Act (ServiceState W E) String := do
  Act.write (.span "highlight" "")
  let count := (Text.lines params.text).length
  Act.log .debug (s!"Highlighting {params.text.utf8ByteSize} bytes, {count} line(s), " ++
    s!"mode={params.mode.logText}")
  let result ← s.highlightText params.text params.mode
  Act.log .info s!"Highlight finished: relevance={result.relevance}, illegal={result.illegal}"
  return result.toJson.pretty

/-- The answer of the tool that lists the languages. -/
def listLanguagesTool : Act (ServiceState W E) String := do
  Act.write (.span "list_languages" "")
  Act.log .debug s!"Listing {LanguageList.all.count} languages"
  return LanguageList.all.toJson.pretty

/-- The loader that a configuration asks for: payloads from the files of its directory, and
calls limited to the time of a request. -/
def loaderOf (c : Config) : Loader World Nat EngineRef where
  runtime := Interpreter.runtime
    { memory := c.engine.memoryLimit, callTime := some c.server.requestTimeout }
  bundle := World.directory ⟨c.engine.resourceDir⟩
  settings := c.engine

/-- The service that a configuration asks for. -/
def ofConfig (c : Config) : WorldService where
  segments := { loader := loaderOf c, clock := World.clock }
  budget := c.server.requestTimeout

/-- What is logged of a service that is made from a configuration. -/
def configEntry (c : Config) : LogEntry :=
  .event .info ("Engine payload: " ++ c.engine.resourcePath ++ " (entry point '" ++
    c.engine.entryPoint ++ "', load failure policy " ++ c.engine.loadFailure.logName ++ ")")

end Service

end LineHighlight
