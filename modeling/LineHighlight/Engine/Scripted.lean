import LineHighlight.Engine.Runtime
import LineHighlight.Text.Blank

/-!
A runtime that runs no scripts.

It keeps what it was asked to evaluate and answers calls by a function that may keep a state of its
own: what it does may depend on every call that it was asked before, also on those in which it
panicked. A context exposes an entry point iff some text evaluated in it mentions the name, and
evaluating a text that mentions `throw` fails.
-/

namespace LineHighlight

/-- A call as the engine sees it. -/
inductive RecordedCall where
  | auto (text : String)
  | grammar (text : String) (options : Json)
deriving Repr, Inhabited

namespace RecordedCall

/-- The call of a mode on a text. -/
def ofCall (text : String) : EngineCall → RecordedCall
  | .auto => .auto text
  | .grammar name ignoreIllegals => .grammar text (grammarOptions name ignoreIllegals)

/-- The text of the call. -/
def text : RecordedCall → String
  | .auto text => text
  | .grammar text _ => text

/-- The grammar asked for, if any. -/
def grammar? : RecordedCall → Option String
  | .auto _ => none
  | .grammar _ options =>
    match options.field? "language" with
    | some (.string s) => some s
    | _ => none

/-- Whether the flag was passed; nothing for a call without a grammar. -/
def ignoreIllegals? : RecordedCall → Option Bool
  | .auto _ => none
  | .grammar _ options =>
    match options.field? "ignoreIllegals" with
    | some (.boolean b) => some b
    | _ => some false

end RecordedCall

/-- How a call is answered: after a time, in one of the ways in which calls end. -/
structure Response where
  delay : Nat := 0
  outcome : Outcome (Except Error Json)

/-- How calls are answered, given the calls asked before, oldest first. -/
abbrev Responder := List RecordedCall → RecordedCall → Response

/-- Answers by a function that changes a state of its own at every call. -/
def Responder.stateful {X : Type} (start : X) (answer : X → RecordedCall → Response × X) :
    Responder :=
  fun asked call => (answer (asked.foldl (fun x before => (answer x before).2) start) call).1

/-- A context: the texts evaluated in it. -/
abbrev ScriptedContext := List String

/-- What the runtime keeps. -/
structure ScriptedState where
  /-- How many of the next contexts fail. -/
  failing : Nat := 0
  /-- How many contexts were made. -/
  created : Nat := 0
  /-- Whether calls are recorded. -/
  recording : Bool := true
  evaluated : List String := []
  /-- The calls that were asked. -/
  asked : List RecordedCall := []
  /-- Those of them that came to an answer and were recorded. -/
  calls : List RecordedCall := []
  contexts : List ScriptedContext := []

namespace Scripted

/-- Makes a context unless one is due to fail. -/
def createContext : Act ScriptedState (Except Error Nat) := fun s =>
  match s.failing with
  | n + 1 =>
    ⟨.error (.contextCreationFailed "scripted context failure"), { s with failing := n }, []⟩
  | 0 =>
    ⟨.ok s.contexts.length,
      { s with created := s.created + 1, contexts := s.contexts ++ [[]] }, []⟩

/-- Keeps a text in a context. -/
def evaluate (context : Nat) (source : String) : Act ScriptedState (Except Error Unit) := fun s =>
  let outcome :=
    if Text.contains source "throw" then
      .error (.engine "Uncaught exception during evaluation")
    else .ok ()
  ⟨outcome,
    { s with
      evaluated := s.evaluated ++ [source]
      contexts := s.contexts.modify context (· ++ [source]) }, []⟩

/-- The engine of a context in which the entry point was mentioned. -/
def intoEngine (context : Nat) (entryPoint : String) :
    Act ScriptedState (Except Error EngineRef) :=
  fun s =>
    let sources := (s.contexts[context]?).getD []
    if sources.any fun source => Text.contains source entryPoint then
      ⟨.ok ⟨context, entryPoint⟩, s, []⟩
    else ⟨.error (.entryPointNotFound entryPoint), s, []⟩

/-- Records a call, if calls are recorded. -/
def record (call : RecordedCall) : Act ScriptedState Unit :=
  Act.modify fun s => { s with calls := if s.recording then s.calls ++ [call] else s.calls }

/-- Starts a call: gives how long it will run. -/
def start (respond : Responder) (call : RecordedCall) : Act ScriptedState (Option Nat) := do
  let s ← Act.get
  return some (respond s.asked call).delay

/-- Answers a call. A call that panics is not recorded. -/
def finish (respond : Responder) (call : RecordedCall) :
    Act ScriptedState (Outcome (Except Error Json)) := do
  let s ← Act.get
  Act.modify fun s => { s with asked := s.asked ++ [call] }
  match (respond s.asked call).outcome with
  | .panicked reason => return .panicked reason
  | .returned answer =>
    record call
    return .returned answer

/-- The runtime that answers calls by a function. -/
def runtime (respond : Responder) : Runtime ScriptedState Nat EngineRef where
  name := "scripted"
  createContext := createContext
  evaluate := evaluate
  intoEngine := intoEngine
  start _ call text := start respond (.ofCall text call)
  finish _ call text := finish respond (.ofCall text call)

/-- The answer that echoes the text: it counts characters, knows the common languages only,
and takes a text that mentions `illegal` for illegal. -/
def echo (call : RecordedCall) : Response where
  outcome := .returned <|
    match call.grammar? with
    | none => .ok (answer "plaintext")
    | some grammar =>
      match Language.parse? grammar with
      | some _ => .ok (answer grammar)
      | none => .error (.engine ("Unknown language: \"" ++ grammar ++ "\""))
where
  answer (language : String) : Json :=
    .object [("value", .string ("<span>" ++ call.text ++ "</span>")),
      ("illegal", .boolean (Text.contains call.text "illegal")),
      ("relevance", .nat call.text.length), ("language", .string language)]

end Scripted

end LineHighlight
