import TucServer.Json.Printer
import TucServer.Json.Reader
import TucServer.Server.Basic

/-!
# Sessions

A session is a server behind JSON-RPC. It lets the client introduce itself once, hands other
messages on only between the introduction and the shutdown, and refuses those whose parameters have
the wrong shape. A call with an id is a request and is always answered; a call without one is
never answered. What is neither a call nor a response, or names another version of the protocol, is
refused without a look at what it asks for.
-/

namespace TucServer

/-- How far a session has come. -/
inductive Phase where
  | fresh
  | running
  | shutDown
  | exited
  deriving DecidableEq, Repr

/-- A server and how far its session has come. -/
structure Session where
  server : Server
  phase : Phase

/-- A call: the name of a method, the id if an answer is expected, and the parameters if there are
any. -/
structure Call where
  method : String
  id : Option Json
  params : Option Json

/-- Why a call is refused. -/
inductive Refusal where
  | unreadable
  | methodNotFound
  | notInitialized
  | invalidRequest
  | invalidParams
  deriving DecidableEq, Repr

/-- The number of a refusal. -/
def Refusal.code : Refusal → Int
  | .unreadable => -32700
  | .methodNotFound => -32601
  | .notInitialized => -32002
  | .invalidRequest => -32600
  | .invalidParams => -32602

/-- The wording of a refusal. -/
def Refusal.message : Refusal → String
  | .unreadable => "Parse error"
  | .methodNotFound => "Method not found"
  | .notInitialized => "Server not initialized"
  | .invalidRequest => "Invalid request"
  | .invalidParams => "Invalid params"

/-- The answer to a call with an id. -/
structure Response where
  id : Json
  outcome : Except Refusal Reply

/-- What follows on a call: the session is over, or perhaps a response, and lines for the log. -/
inductive Outcome where
  | exited
  | answered (response : Option Response) (log : List String)

namespace Call

/-- Whether the value can be an id: null, a text, or an integer of 64 bits with sign. -/
def isId : Json → Bool
  | .null | .string _ => true
  | .integer value => -9223372036854775808 ≤ value && value < 9223372036854775808
  | _ => false

/-- The call that the members of an object spell. The version of the protocol that they name is
for `Incoming.ofJson?` to check. -/
def ofJson? (json : Json) : Option Call :=
  match json.member? "method", json.member? "id" with
  | some (.string method), id =>
    if id.all isId then some ⟨method, id, json.member? "params"⟩ else none
  | _, _ => none

/-- The answer to the call, if one is expected. -/
def respond (call : Call) (outcome : Except Refusal Reply) : Option Response :=
  call.id.map fun id => ⟨id, outcome⟩

/-- The message of a call, none if its parameters have the wrong shape. Shutting down takes no
parameters, and the other methods always have some. -/
def message? (call : Call) (method : Method) : Option Message :=
  match method, call.params with
  | .shutDown, none => some .shutDown
  | .shutDown, some _ => none
  | .ready, some (.object _) => some .ready
  | .ready, some (.array []) => some .ready
  | .ready, _ => none
  | _, none => none
  | method, some params => Message.ofParams? params method

end Call

/-- What the client can send: a call, or the response to a request. -/
inductive Incoming where
  | call (call : Call)
  | response

namespace Incoming

/-- The version of the protocol. -/
def version : String := "2.0"

/-- Why a request was not answered with a result. -/
def errorShape : Shape :=
  .record [("code", .integer (-9223372036854775808) 9223372036854775807), ("message", .text),
    ("data", .optional .any)] 0

/-- Whether an object has the id of a request, and a result or an error. -/
def isResponse (json : Json) : Bool :=
  (json.member? "id").any Call.isId &&
    ((json.member? "result").isSome || (json.member? "error").any errorShape.accepts)

/-- What a value of the client is, none if it does not name the version of the protocol, or is
neither a call nor a response. -/
def ofJson? (json : Json) : Option Incoming :=
  if json.member? "jsonrpc" >>= Json.string? = some version then
    if isResponse json then some .response else (Call.ofJson? json).map .call
  else none

end Incoming

namespace Session

/-- The session before the first call. -/
def new (debug : Bool) : Session := ⟨Server.new debug, .fresh⟩

/-- Why a method may not be called now. -/
def refusal? : Phase → Method → Option Refusal
  | .fresh, .setUp => none
  | _, .setUp => some .invalidRequest
  | .fresh, _ => some .notInitialized
  | .running, _ => none
  | _, _ => some .invalidRequest

/-- The phase after a call of the method is let through, before it is handled. -/
def phaseOn (phase : Phase) : Method → Phase
  | .shutDown => .shutDown
  | _ => phase

/-- The phase after a call of the method has been handled. -/
def phaseAfter (phase : Phase) : Method → Phase
  | .setUp => .running
  | _ => phase

/-- Hands a call that is let through to the server, if it is a call of the right kind with
parameters of the right shape. -/
def handle (session : Session) (call : Call) (method : Method) : Outcome × Session :=
  if method.isRequest != call.id.isSome then
    (.answered (call.respond (.error .invalidRequest)) [], session)
  else
    match call.message? method with
    | none => (.answered (call.respond (.error .invalidParams)) [], session)
    | some message =>
      let turn := session.server.handle message
      (.answered (call.respond (.ok turn.reply)) turn.log,
        ⟨turn.server, phaseAfter session.phase method⟩)

/-- What follows on a call, and the session after it. -/
def receive (session : Session) (call : Call) : Outcome × Session :=
  if session.phase = .exited then (.exited, session)
  else if call.method = "exit" then (.answered none [], { session with phase := .exited })
  else
    match Method.ofName? call.method with
    | none =>
      if call.method.startsWith "$/" then (.answered none [], session)
      else (.answered (call.respond (.error .methodNotFound)) [], session)
    | some method =>
      match refusal? session.phase method with
      | some refusal => (.answered (call.respond (.error refusal)) [], session)
      | none => { session with phase := phaseOn session.phase method }.handle call method

end Session

/-- The response as it is sent to the client. -/
def Response.toJson (response : Response) : Json :=
  let outcome :=
    match response.outcome with
    | .ok reply => ("result", reply.toJson)
    | .error refusal =>
      ("error", .object [("code", .integer refusal.code), ("message", .string refusal.message)])
  .object [("jsonrpc", .string Incoming.version), outcome, ("id", response.id)]

/-- A line of the log as it stands on a stream. -/
def notificationFrame (line : String) : Json :=
  match logNotification line with
  | .object members => .object (("jsonrpc", .string Incoming.version) :: members)
  | other => other

namespace Session

/-- How deeply a message may be nested. -/
def maxDepth : Nat := 127

/-- What follows on a message, and the session after it. Nothing follows on a response, since the
server makes no requests. Where there is no id to be trusted, the refusal names none. -/
def receiveJson (session : Session) (message : Json) : Outcome × Session :=
  if maxDepth < message.depth then
    (.answered (some ⟨.null, .error .unreadable⟩) [], session)
  else
    match Incoming.ofJson? message with
    | none => (.answered (some ⟨.null, .error .invalidRequest⟩) [], session)
    | some .response => (.answered none [], session)
    | some (.call call) => session.receive call

/-- What is sent on the text of a message, in this order, and the session after it. Nothing is sent
any more once the session is over. -/
def receiveText (session : Session) (text : String) : Option (List String) × Session :=
  match Json.parse? text with
  | none => (some [(Response.mk .null (.error .unreadable)).toJson.print], session)
  | some message =>
    match session.receiveJson message with
    | (.exited, next) => (none, next)
    | (.answered response log, next) =>
      let notifications := log.map fun line => (notificationFrame line).print
      (some (notifications ++ (response.map fun response => response.toJson.print).toList), next)

end Session

end TucServer
