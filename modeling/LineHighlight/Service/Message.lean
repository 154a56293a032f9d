import LineHighlight.Json.Value

/-!
The messages of a client.

A message is a request, which has an identifier and wants an answer, or a notification, or it
answers a request that was never made. What is none of these is not understood. A method takes
parameters of its own form, so a request is understood only if they have that form; members
that are not part of it are passed over.
-/

namespace LineHighlight

/-- What a client asks for. -/
inductive ClientRequest where
  | ping
  /-- Introduces the client, which speaks a version of the protocol. -/
  | introduce (version : String)
  | listTools
  | listPrompts
  | listResources
  | listTemplates
  | complete
  | callTool (name : String) (arguments : List (String × Json))
  /-- Asks for something that the service does not offer. -/
  | unoffered (method : String)
deriving Inhabited

/-- A message that is understood. -/
inductive ClientMessage where
  | request (id : Json) (r : ClientRequest)
  /-- Confirms the introduction. -/
  | confirm
  /-- Says something that needs no answer. -/
  | aside
deriving Inhabited

namespace ClientMessage

/-! ## Forms of members -/

/-- Whether a value is a string. -/
def isString : Json → Bool
  | .string _ => true
  | _ => false

/-- Whether a value is a boolean. -/
def isBoolean : Json → Bool
  | .boolean _ => true
  | _ => false

/-- Whether a value is a number. -/
def isNumber : Json → Bool
  | .number _ => true
  | _ => false

/-- Whether a value is an object whose members satisfy a condition. -/
def isObjectOf (p : Json → Bool) : Json → Bool
  | .object fields => fields.all fun f => p f.2
  | _ => false

/-- Whether a value is an object. -/
def isObject : Json → Bool :=
  isObjectOf fun _ => true

/-- Whether a value is an array whose elements satisfy a condition. -/
def isArrayOf (p : Json → Bool) : Json → Bool
  | .array items => items.all p
  | _ => false

/-- Whether a value has a member that satisfies a condition. -/
def needs (name : String) (p : Json → Bool) (v : Json) : Bool :=
  (v.field? name).any p

/-- Whether a value has a member that satisfies a condition, or none, or a null one. -/
def allows (name : String) (p : Json → Bool) (v : Json) : Bool :=
  match v.field? name with
  | none | some .null => true
  | some w => p w

/-- Whether a value identifies a request: a string or an integer of 64 bits. -/
def isIdentifier : Json → Bool
  | .string _ => true
  | .number (.integer n) => n < Nat.pow 2 63
  | _ => false

/-- Whether a value tells of an implementation by name and version. -/
def isImplementation (v : Json) : Bool :=
  needs "name" isString v && needs "version" isString v && allows "title" isString v &&
    allows "websiteUrl" isString v &&
    allows "icons" (isArrayOf fun icon => needs "src" isString icon &&
      allows "mimeType" isString icon) v

/-- Whether a value tells what a client is able to do. -/
def isCapabilities (v : Json) : Bool :=
  isObject v && allows "experimental" (isObjectOf isObject) v &&
    allows "roots" (fun roots => isObject roots && allows "listChanged" isBoolean roots) v &&
    allows "sampling" isObject v &&
    allows "elicitation" (fun e => isObject e && allows "schemaValidation" isBoolean e) v

/-! ## Requests and notifications -/

/-- The text of a member that is a string. -/
def stringOf (name : String) (v : Json) : Option String :=
  match v.field? name with
  | some (.string s) => some s
  | _ => none

/-- The levels of a log. -/
def levels : List String :=
  ["debug", "info", "notice", "warning", "error", "critical", "alert", "emergency"]

/-- What a request to introduce the client asks for. -/
def introduction? (params : Json) : Option ClientRequest :=
  if needs "capabilities" isCapabilities params && needs "clientInfo" isImplementation params then
    (stringOf "protocolVersion" params).map .introduce
  else none

/-- What a request to call a tool asks for. -/
def toolCall? (params : Json) : Option ClientRequest :=
  match stringOf "name" params, params.field? "arguments" with
  | some name, none | some name, some .null => some (.callTool name [])
  | some name, some (.object fields) => some (.callTool name fields)
  | _, _ => none

/-- Whether the parameters of a completion have their form. -/
def isCompletion (params : Json) : Bool :=
  needs "ref" (fun r =>
    (stringOf "type" r == some "ref/prompt" && needs "name" isString r) ||
      (stringOf "type" r == some "ref/resource" && needs "uri" isString r)) params &&
    needs "argument" (fun a => needs "name" isString a && needs "value" isString a) params &&
    allows "context" (fun c => isObject c && allows "arguments" (isObjectOf isString) c) params

/-- What a method with parameters that must be there asks for. -/
def withParams? (method : String) (params : Json) : Option ClientRequest :=
  let unoffered (fits : Bool) : Option ClientRequest :=
    if fits then some (.unoffered method) else none
  match method with
  | "initialize" => introduction? params
  | "tools/call" => toolCall? params
  | "completion/complete" => if isCompletion params then some .complete else none
  | "logging/setLevel" => unoffered ((stringOf "level" params).any levels.contains)
  | "prompts/get" => unoffered (needs "name" isString params && allows "arguments" isObject params)
  | "resources/read" | "resources/subscribe" | "resources/unsubscribe" =>
    unoffered (needs "uri" isString params)
  | _ => none

/-- The list that a method asks for. Its parameters may be missing. -/
def list? : String → Option ClientRequest
  | "tools/list" => some .listTools
  | "prompts/list" => some .listPrompts
  | "resources/list" => some .listResources
  | "resources/templates/list" => some .listTemplates
  | _ => none

/-- Whether parameters are an object, with an object as their own notes if there are any. -/
def areParams (params : Json) : Bool :=
  isObject params && allows "_meta" isObject params

/-- What a method with parameters asks for. -/
def request? (method : String) (params : Option Json) : Option ClientRequest :=
  if method = "ping" then some .ping
  else
    match list? method, params with
    | some list, none | some list, some .null => some list
    | some list, some v => if areParams v then some list else none
    | none, some v => if areParams v then withParams? method v else none
    | none, none => none

/-- What a notification says. -/
def notification? (method : String) (params : Option Json) : Option ClientMessage :=
  let withParams (fits : Json → Bool) : Option ClientMessage :=
    if params.any fun v => areParams v && fits v then some .aside else none
  match method with
  | "notifications/initialized" => some .confirm
  | "notifications/roots/list_changed" => some .aside
  | "notifications/cancelled" =>
    withParams fun v => needs "requestId" isIdentifier v && allows "reason" isString v
  | "notifications/progress" =>
    withParams fun v => needs "progressToken" isIdentifier v && needs "progress" isNumber v &&
      allows "total" isNumber v && allows "message" isString v
  | _ => none

/-- Whether a message answers a request. -/
def isAnswer (v : Json) : Bool :=
  needs "id" isIdentifier v && (needs "result" isObject v ||
    needs "error" (fun e => needs "code" isNumber e && needs "message" isString e) v)

/-- The message of a JSON value, if it is understood. An identifier that a notification has is
passed over. -/
def ofJson? (v : Json) : Option ClientMessage :=
  if stringOf "jsonrpc" v != some "2.0" then none
  else
    let params := v.field? "params"
    let method := stringOf "method" v
    let request : Option ClientMessage := match v.field? "id" with
      | some id =>
        if isIdentifier id then (method.bind fun m => request? m params).map (.request id) else none
      | none => none
    request.or
      (if isAnswer v then some .aside else method.bind fun m => notification? m params)

/-- The notifications of the protocol. -/
def notifications : List String :=
  ["notifications/cancelled", "notifications/initialized", "notifications/message",
    "notifications/progress", "notifications/prompts/list_changed",
    "notifications/resources/list_changed", "notifications/resources/updated",
    "notifications/roots/list_changed", "notifications/tools/list_changed"]

/-- Whether a value is a notification of some other protocol. -/
def isForeign (v : Json) : Bool :=
  (v.field? "id").isNone && (stringOf "method" v).any fun m => !notifications.contains m

end ClientMessage

end LineHighlight
