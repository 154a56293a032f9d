import LineHighlight.Highlighter.Segment

/-!
A text through the engine, line by line.

Every line is run in turn with the mode of the request. A line that comes out well is written
marked up and adds to the relevance, any other is kept as it was. Once the deadline is reached
the lines that are left are not run at all.
-/

namespace LineHighlight

/-- What has been made of the lines so far. -/
structure Progress where
  value : String := ""
  relevance : Nat := 0
  illegal : Bool := false
  /-- How many lines there were. -/
  segments : Nat := 0
  /-- How many of them were kept as they were. -/
  failures : Nat := 0
  /-- How many of those were not run. -/
  skipped : Nat := 0
deriving DecidableEq, Repr

namespace Progress

/-- The largest relevance of a request. -/
def maxRelevance : Nat := 4294967295

/-- Adds a line that the engine marked up. -/
def add (p : Progress) (r : EngineResult) : Progress where
  value := p.value ++ r.value ++ HighlightResult.successTerminator
  relevance := min maxRelevance (p.relevance + r.relevance)
  illegal := p.illegal || r.illegal
  segments := p.segments + 1
  failures := p.failures
  skipped := p.skipped

/-- Adds a line that is kept as it was. -/
def keep (p : Progress) (line : String) : Progress where
  value := p.value ++ line ++ HighlightResult.failureTerminator
  relevance := p.relevance
  illegal := p.illegal
  segments := p.segments + 1
  failures := p.failures + 1
  skipped := p.skipped

/-- Adds a line that is not run. -/
def skip (p : Progress) (line : String) : Progress :=
  { p.keep line with skipped := p.skipped + 1 }

/-- Adds a line by its outcome. -/
def record (p : Progress) (line : String) : Except Error EngineResult → Progress
  | .ok r => p.add r
  | .error _ => p.keep line

/-- The result when no line is left. -/
def result (p : Progress) : HighlightResult where
  value := p.value
  illegal := p.illegal
  language := HighlightResult.mixedLanguage
  relevance := p.relevance

end Progress

/-- What can happen to a list of lines, or to a request. -/
inductive RequestRun (E α : Type) where
  | finished (a : α)
  | panicked (reason : String)
  /-- The call for a line has been started and will end at the time given, if ever. -/
  | waiting (before : Progress) (line : String) (rest : List String) (handle : EngineHandle E)
      (wake : Option Nat)

/-- How far a request has come. -/
def RequestRun.hold {E α : Type} : RequestRun E α → Hold
  | .finished _ => .ended
  | .panicked _ => .panicked
  | .waiting _ _ _ _ _ => .pending

namespace Segments

variable {W C E : Type}

/-- Whether the deadline is reached. Without a deadline the clock is not read. -/
def isLate (s : Segments W C E) (deadline : Option Nat) : Act (System W E) Bool :=
  match deadline with
  | none => return false
  | some t => do
    let now ← System.inWorld s.clock.read
    return t ≤ now

/-- Runs lines in turn. -/
def runLines (s : Segments W C E) (limit deadline : Option Nat) (mode : Mode) :
    List String → Progress → Act (System W E) (RequestRun E Progress)
  | [], p => return .finished p
  | line :: rest, p => do
    if ← s.isLate deadline then
      runLines s limit deadline mode rest (p.skip line)
    else
      match ← s.run limit mode line with
      | .done outcome => runLines s limit deadline mode rest (p.record line outcome)
      | .panicked reason => return .panicked reason
      | .waiting handle wake => return .waiting p line rest handle wake

/-- Logs what became of a request. -/
def logSummary (p : Progress) : Act (System W E) Unit := do
  if 0 < p.skipped then
    Act.log .warn s!"Deadline passed, {p.skipped} segment(s) left unhighlighted"
  Act.log .debug (s!"Highlighted {p.segments} segment(s), {p.failures} fell back, " ++
    s!"relevance={p.relevance}, illegal={p.illegal}")

/-- Ends a request whose lines have been run. -/
def conclude (r : RequestRun E Progress) :
    Act (System W E) (RequestRun E HighlightResult) := do
  match r with
  | .finished p =>
    logSummary p
    return .finished p.result
  | .panicked reason => return .panicked reason
  | .waiting p line rest handle wake => return .waiting p line rest handle wake

/-- What the log shows of a request. -/
def spanFields (text : String) (mode : Mode) : String :=
  s!"bytes={text.utf8ByteSize} mode={mode.logText}"

/-- Runs a request up to a limit, with a deadline for the start of its lines. -/
def request (s : Segments W C E) (limit deadline : Option Nat) (text : String) (mode : Mode) :
    Act (System W E) (RequestRun E HighlightResult) := do
  Act.write (.span "highlight" (spanFields text mode))
  let r ← s.runLines limit deadline mode (Text.lines text) {}
  conclude r

/-- Highlights a text. -/
def highlight (s : Segments W C E) (text : String) (mode : Mode) :
    Act (System W E) (RequestRun E HighlightResult) :=
  s.request none none text mode

/-- Highlights a text and keeps the lines that are not started by the deadline. -/
def highlightUntil (s : Segments W C E) (text : String) (mode : Mode) (deadline : Nat) :
    Act (System W E) (RequestRun E HighlightResult) :=
  s.request none (some deadline) text mode

/-- Ends the call that a request waits for and runs the rest of its lines. The engine's lock has
been held since the call was started. -/
def resume (s : Segments W C E) (deadline : Option Nat) (mode : Mode) (before : Progress)
    (line : String) (rest : List String) (handle : EngineHandle E) :
    Act (System W E) (RequestRun E HighlightResult) := do
  System.modifyLoader fun l => { l with engineLock := l.engineLock.release }
  match ← System.withEngine LineRun.hold (s.finish mode line handle) with
  | .done outcome =>
    let r ← s.runLines none deadline mode rest (before.record line outcome)
    conclude r
  | .panicked reason => return .panicked reason
  | .waiting handle wake => return .waiting before line rest handle wake

end Segments

end LineHighlight
