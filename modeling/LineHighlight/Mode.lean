import LineHighlight.Language
import LineHighlight.Text.Quoted

/-!
How a request picks the grammar, and the engine call that follows from it.

A language string of a request that names a known language stands for that language; any other
is handed to the engine as it was written.
-/

namespace LineHighlight

/-- How the grammar is picked. -/
inductive Mode where
  /-- The engine detects the language. -/
  | automatic
  | grammar (name : String)
  /-- The same, past syntax that the grammar considers illegal. -/
  | grammarLenient (name : String)
  | language (l : Language)
  | languageLenient (l : Language)
deriving DecidableEq, Repr, Inhabited

/-- The one call of the engine that a mode asks for. -/
inductive EngineCall where
  | auto
  | grammar (name : String) (ignoreIllegals : Bool)
deriving DecidableEq, Repr

namespace Mode

/-- The call for a mode. -/
def engineCall : Mode → EngineCall
  | .automatic => .auto
  | .grammar name => .grammar name false
  | .grammarLenient name => .grammar name true
  | .language l => .grammar l.grammar false
  | .languageLenient l => .grammar l.grammar true

/-- The mode of a request. Without a language the flag has no effect. -/
def ofRequest (language : Option String) (ignoreIllegals : Bool) : Mode :=
  match language with
  | none => .automatic
  | some s =>
    match Language.parse? s, ignoreIllegals with
    | some l, false => .language l
    | some l, true => .languageLenient l
    | none, false => .grammar s
    | none, true => .grammarLenient s

end Mode

namespace Mode

/-- The name of a mode in a log, without what it holds. -/
def logName : Mode → String
  | .automatic => "Automatic"
  | .grammar _ => "LanguageAlias"
  | .grammarLenient _ => "LanguageAliasIgnoreIllegal"
  | .language _ => "Language"
  | .languageLenient _ => "LanguageIgnoreIllegal"

/-- A mode in a log: its name, and a grammar in quotes or the name of a language. -/
def logText (mode : Mode) : String :=
  match mode with
  | .automatic => mode.logName
  | .grammar name | .grammarLenient name => mode.logName ++ "(" ++ Text.quoted name ++ ")"
  | .language l | .languageLenient l => mode.logName ++ "(" ++ l.logName ++ ")"

end Mode

end LineHighlight
