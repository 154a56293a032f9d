/-!
Failures of the highlighter, by cause.

The five causes of `isInitialization` come up before an engine is there to be called, the
others in a call, in a request or in reading a configuration.
-/

namespace LineHighlight

/-- A failure with its cause. -/
inductive Error where
  /-- No context to run a script in. -/
  | contextCreationFailed (reason : String)
  /-- The bundle does not hold the engine's payload. -/
  | resourceNotFound (name extension : String)
  /-- The payload ran and left no object under the name of the entry point. -/
  | entryPointNotFound (name : String)
  /-- The engine's answer lacks what an answer must have. -/
  | malformedEngineResponse (reason : String)
  /-- The engine itself failed. -/
  | engine (reason : String)
  /-- Loading failed before and is not tried again. -/
  | engineUnavailable (reason : String)
  | unknownLanguage (name : String)
  | io (reason : String)
  | config (reason : String)
  | serialization (reason : String)
deriving DecidableEq, Repr, Inhabited

namespace Error

/-- The wording of a failure. -/
def message : Error → String
  | .contextCreationFailed reason => "Context creation failed: " ++ reason
  | .resourceNotFound name extension => "Resource not found: " ++ name ++ "." ++ extension
  | .entryPointNotFound name => "Entry point not found: " ++ name
  | .malformedEngineResponse reason => "Malformed engine response: " ++ reason
  | .engine reason => "Engine error: " ++ reason
  | .engineUnavailable reason => "Engine unavailable: " ++ reason
  | .unknownLanguage name => "Unknown language: " ++ name
  | .io reason => "IO error: " ++ reason
  | .config reason => "Configuration error: " ++ reason
  | .serialization reason => "Serialization error: " ++ reason

/-- Whether the failure comes from setting up the engine and not from calling it. -/
def isInitialization : Error → Bool
  | .contextCreationFailed _ | .resourceNotFound _ _ | .entryPointNotFound _
  | .engineUnavailable _ | .io _ => true
  | _ => false

end Error

end LineHighlight
