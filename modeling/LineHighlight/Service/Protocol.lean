import LineHighlight.Service.Message
import LineHighlight.Service.Server

/-!
The conversation with a client, one JSON message a line.

A client introduces itself, gets an answer, and confirms it. From then on it may ask for the
tools and call them. A client that starts in any other way is not talked to, and a message that
is not understood ends the conversation.
-/

namespace LineHighlight

/-- How far a conversation has come. -/
inductive Conversation where
  /-- Nothing has been said. -/
  | fresh
  /-- The introduction was answered. -/
  | introduced
  | serving
  /-- Ended by the service, before it served, over a message that was not the one expected. -/
  | refused (expected : String)
  | closed
deriving DecidableEq, Repr, Inhabited

namespace Protocol

/-- The newest version of the protocol that is spoken. -/
def version : String := "2025-03-26"

/-- What the service tells of itself. -/
def instructions : String :=
  "hljs-mcp - Syntax highlighting through highlight.js. " ++
    "Use highlight to mark up source text (automatic language detection " ++
    "unless a language is given) and list_languages to see known grammar aliases."

/-- The smaller one of the two versions. -/
def agreedVersion (wanted : String) : String :=
  if wanted < version then wanted else version

/-- The answer to an introduction. -/
def introduction (agreed : String) : Json :=
  .object [("protocolVersion", .string agreed),
    ("capabilities", .object [("tools", .object [])]),
    ("serverInfo", .object [("name", .string "rmcp"), ("version", .string "0.9.1")]),
    ("instructions", .string instructions)]

/-- A message with a result. -/
def reply (id result : Json) : Json :=
  .object [("jsonrpc", .string "2.0"), ("id", id), ("result", result)]

/-- A message with a fault. -/
def refuse (id : Json) (code : Int) (message : String) : Json :=
  .object [("jsonrpc", .string "2.0"), ("id", id),
    ("error", .object [("code", .int code), ("message", .string message)])]

/-- The code of wrong parameters. -/
def invalidParams : Int := -32602

/-- The code of an unknown method. -/
def methodNotFound : Int := -32601

/-- A text as the content of a tool's answer. -/
def textContent (text : String) : Json :=
  .object [("content", .array [.object [("type", .string "text"), ("text", .string text)]]),
    ("isError", .boolean false)]

/-- A tool as it is listed. -/
def toolEntry (name description : String) (params : RecordSchema) : Json :=
  .object [("name", .string name), ("description", .string description),
    ("inputSchema", params.document .nullable [])]

/-- The tools, by name. -/
def toolList : Json :=
  .object [("tools", .array [
    toolEntry "highlight"
      ("Syntax-highlight source text with highlight.js. Returns HTML-classed markup, " ++
        "the relevance score and whether illegal syntax was found. " ++
        "Omit language for automatic detection") HighlightParams.schema,
    toolEntry "list_languages"
      "List the grammar aliases that can be passed as language to highlight"
      ListLanguagesParams.schema])]

/-- The wording of parameters that cannot be decoded. -/
def undecodable (fault : DecodeFault) : String :=
  "failed to deserialize parameters: " ++ fault.message Json.wording

/-- Calls a tool. -/
def callTool {W C E : Type} (s : Service W C E) (id : Json) (name : String) (arguments : Json) :
    Act (ServiceState W E) Json := do
  match name with
  | "highlight" =>
    match HighlightParams.ofJson arguments with
    | .error fault => return refuse id invalidParams (undecodable fault)
    | .ok p => return reply id (textContent (← s.highlightTool p))
  | "list_languages" =>
    match ListLanguagesParams.ofJson arguments with
    | .error fault => return refuse id invalidParams (undecodable fault)
    | .ok _ => return reply id (textContent (← Service.listLanguagesTool))
  | _ => return refuse id invalidParams "tool not found"

/-- Answers a request of a client that is served. A client that introduces itself once more
gets the newest version, whatever its own. -/
def answer {W C E : Type} (s : Service W C E) (id : Json) (r : ClientRequest) :
    Act (ServiceState W E) Json := do
  match r with
  | .ping => return reply id (.object [])
  | .introduce _ => return reply id (introduction version)
  | .listTools => return reply id toolList
  | .listPrompts => return reply id (.object [("prompts", .array [])])
  | .listResources => return reply id (.object [("resources", .array [])])
  | .listTemplates => return reply id (.object [("resourceTemplates", .array [])])
  | .complete => return reply id (.object [("completion", .object [("values", .array [])])])
  | .callTool name arguments => callTool s id name (.object arguments)
  | .unoffered method => return refuse id methodNotFound method

/-- Takes a message: how far the conversation has come then, and what is said. -/
def take {W C E : Type} (s : Service W C E) (state : Conversation) (message : ClientMessage) :
    Act (ServiceState W E) (Conversation × List Json) := do
  match state, message with
  | .fresh, .request id (.introduce wanted) =>
    return (.introduced, [reply id (introduction (agreedVersion wanted))])
  | .fresh, _ => return (.refused "expect initialized request", [])
  | .introduced, .confirm => return (.serving, [])
  | .introduced, _ => return (.refused "expect initialized notification", [])
  | .serving, .request id r =>
    let reply ← answer s id r
    return (.serving, [reply])
  | .serving, _ => return (.serving, [])
  | .refused expected, _ => return (.refused expected, [])
  | .closed, _ => return (.closed, [])

/-- The end of a conversation when the client stops talking: nothing is wrong if it was served. -/
def hangUp : Conversation → Except String Unit
  | .fresh => .error "connection closed: initialized request"
  | .introduced => .error "connection closed: initialize notification"
  | .refused expected => .error expected
  | .serving | .closed => .ok ()

/-- Ends a conversation over a line that is not understood, as if the client had gone. -/
def giveUp (state : Conversation) : Conversation :=
  match hangUp state with
  | .ok () => .closed
  | .error reason => .refused reason

/-- Takes a line. A line that is not understood ends the conversation, unless it is a
notification of some other protocol. -/
def takeLine {W C E : Type} (s : Service W C E) (state : Conversation) (line : String) :
    Act (ServiceState W E) (Conversation × List Json) :=
  match Json.read line with
  | .error _ => return (giveUp state, [])
  | .ok v =>
    match ClientMessage.ofJson? v with
    | some message => take s state message
    | none => return (if ClientMessage.isForeign v then state else giveUp state, [])

/-- Whether the service still listens. -/
def isOpen : Conversation → Bool
  | .refused _ | .closed => false
  | _ => true

end Protocol

end LineHighlight
