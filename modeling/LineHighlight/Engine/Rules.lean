import LineHighlight.Engine.Scripted

/-!
Answers by rules.

The first rule whose conditions hold of a call answers it. A call that no rule is for gets its
text in brackets.
-/

namespace LineHighlight

/-- A rule: conditions on a call, each of which may be missing, and the answer. -/
structure ResponseRule where
  text : Option String := none
  contains : Option String := none
  grammar : Option String := none
  ignoreIllegals : Option Bool := none
  response : Response

namespace ResponseRule

/-- A condition on a part of a call that may itself be missing. -/
def agrees {α : Type} [DecidableEq α] (wanted actual : Option α) : Bool :=
  wanted.isNone || wanted = actual

/-- Whether a rule is for a call. -/
def holds (r : ResponseRule) (call : RecordedCall) : Bool :=
  agrees r.text (some call.text) && (r.contains.all fun part => Text.contains call.text part) &&
    agrees r.grammar call.grammar? && agrees r.ignoreIllegals call.ignoreIllegals?

/-- The answer to a call that no rule is for. -/
def unmatched (call : RecordedCall) : Response where
  outcome := .returned (.ok (.object [("value", .string ("[" ++ call.text ++ "]")),
    ("language", .string (call.grammar?.getD "auto")),
    ("relevance", .nat call.text.utf8ByteSize), ("illegal", .boolean false)]))

/-- The answer of a list of rules. -/
def respond (rules : List ResponseRule) (call : RecordedCall) : Response :=
  match rules.find? fun r => r.holds call with
  | some r => r.response
  | none => unmatched call

end ResponseRule

end LineHighlight
