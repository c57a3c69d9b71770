import TucServer.Completion.Provider
import TucServer.Document
import TucServer.Server.ClientCapabilities
import TucServer.Uri.Basic

/-!
# Messages from the client

A message is a method with parameters of the right shape. Much of what the client has to say in them
is only checked for its shape.
-/

namespace TucServer

/-- The methods that the server answers. -/
inductive Method where
  | setUp
  | ready
  | shutDown
  | didOpen
  | didChange
  | didClose
  | completion
  deriving DecidableEq, Repr

namespace Method

/-- The method of this name. -/
def ofName? : String → Option Method
  | "initialize" => some .setUp
  | "initialized" => some .ready
  | "shutdown" => some .shutDown
  | "textDocument/didOpen" => some .didOpen
  | "textDocument/didChange" => some .didChange
  | "textDocument/didClose" => some .didClose
  | "textDocument/completion" => some .completion
  | _ => none

/-- Whether the client waits for an answer. -/
def isRequest : Method → Bool
  | .setUp | .shutDown | .completion => true
  | .ready | .didOpen | .didChange | .didClose => false

end Method

/-- What the client tells or asks the server. -/
inductive Message where
  /-- The client introduces itself, and says whether it can fill in fields. -/
  | setUp (snippets : Bool)
  /-- The client has received the answer to its introduction. -/
  | ready
  | shutDown
  | didOpen (uri : Uri) (document : Document)
  /-- New texts of a document, of which the last one stays, and their version. -/
  | didChange (uri : Uri) (texts : List String) (version : Int)
  | didClose (uri : Uri)
  | completion (uri : Uri) (position : Position)
  deriving DecidableEq, Repr

namespace Message

/-- A URI as the client writes it. -/
def uriShape : Shape := .string fun text => (Uri.parse? text).isSome

/-- A line and a character. -/
def positionShape : Shape := .record [("line", .unsigned32), ("character", .unsigned32)] 0

/-- The two ends of a range. -/
def rangeShape : Shape := .record [("start", positionShape), ("end", positionShape)] 0

/-- The name of a document. -/
def nameShape : Shape := .record [("uri", uriShape)] 0

/-- A folder that the client has open. -/
def folderShape : Shape := .record [("uri", uriShape), ("name", .text)] 0

/-- The introduction of the client. -/
def setUpShape : Shape :=
  .record [
    ("processId", .optional .unsigned32),
    ("rootPath", .optional .text),
    ("rootUri", .optional uriShape),
    ("initializationOptions", .optional .any),
    ("capabilities", ClientCapabilities.shape),
    ("trace", .optional (.word ["off", "messages", "verbose"])),
    ("workspaceFolders", .optional (.list folderShape)),
    ("clientInfo", .optional (.record [("name", .text), ("version", .optional .text)] 0)),
    ("locale", .optional .text)] 0

/-- The document that the client opens. -/
def didOpenShape : Shape :=
  .record [("textDocument", .record [
    ("uri", uriShape),
    ("languageId", .text),
    ("version", .signed32),
    ("text", .text)] 0)] 0

/-- One change of a document. It may name a range, but its text is the whole document. -/
def changeShape : Shape :=
  .record [
    ("range", .optional rangeShape),
    ("rangeLength", .optional .unsigned32),
    ("text", .text)] 0

/-- The changes of a document. -/
def didChangeShape : Shape :=
  .record [
    ("textDocument", .record [("uri", uriShape), ("version", .signed32)] 0),
    ("contentChanges", .list changeShape)] 0

/-- The document that the client closes. -/
def didCloseShape : Shape := .record [("textDocument", nameShape)] 0

/-- What names an answer that the client wants in advance or in parts. -/
def tokenShape : Shape := .optional (.either .signed32 .text)

/-- The place at which the client asks for completion, and what made it ask. -/
def completionShape : Shape :=
  .object [
    ("textDocument", nameShape),
    ("position", positionShape),
    ("workDoneToken", tokenShape),
    ("partialResultToken", tokenShape),
    ("context", .optional
      (.record [("triggerKind", .signed32), ("triggerCharacter", .optional .text)] 0))]

/-- The parameters, if they have the shape. -/
def check? (shape : Shape) (params : Json) : Option Json :=
  if shape.accepts params then some params else none

/-- The value that the names lead to, read by `read`. -/
def read? {α : Type} (shape : Shape) (names : List String) (read : Json → Option α)
    (params : Json) : Option α :=
  shape.at? names params >>= read

/-- The URI of the document that the parameters name. -/
def uri? (shape : Shape) (params : Json) : Option Uri :=
  read? shape ["textDocument", "uri"] Json.string? params >>= Uri.parse?

/-- The introduction of the client. A client that says nothing of fields cannot fill them in. -/
def setUp? (params : Json) : Option Message := do
  let params ← check? setUpShape params
  let snippets := read? setUpShape
    ["capabilities", "textDocument", "completion", "completionItem", "snippetSupport"]
    Json.bool? params
  return .setUp (snippets.getD false)

/-- The document that the client opens. -/
def didOpen? (params : Json) : Option Message := do
  let params ← check? didOpenShape params
  let uri ← uri? didOpenShape params
  let language ← read? didOpenShape ["textDocument", "languageId"] Json.string? params
  let version ← read? didOpenShape ["textDocument", "version"] Json.signed32? params
  let text ← read? didOpenShape ["textDocument", "text"] Json.string? params
  return .didOpen uri ⟨text, language, version⟩

/-- The changes of a document. -/
def didChange? (params : Json) : Option Message := do
  let params ← check? didChangeShape params
  let uri ← uri? didChangeShape params
  let version ← read? didChangeShape ["textDocument", "version"] Json.signed32? params
  let changes ← read? didChangeShape ["contentChanges"] Json.array? params
  return .didChange uri (← changes.mapM (read? changeShape ["text"] Json.string?)) version

/-- The document that the client closes. -/
def didClose? (params : Json) : Option Message := do
  let params ← check? didCloseShape params
  return .didClose (← uri? didCloseShape params)

/-- The place at which the client asks for completion. -/
def completion? (params : Json) : Option Message := do
  let params ← check? completionShape params
  let uri ← uri? completionShape params
  let line ← read? completionShape ["position", "line"] Json.unsigned32? params
  let character ← read? completionShape ["position", "character"] Json.unsigned32? params
  return .completion uri ⟨line, character⟩

/-- The message of a method with these parameters, none if they have the wrong shape. Two methods
have no parameters, and whatever is given is ignored. -/
def ofParams? (params : Json) : Method → Option Message
  | .setUp => setUp? params
  | .ready => some .ready
  | .shutDown => some .shutDown
  | .didOpen => didOpen? params
  | .didChange => didChange? params
  | .didClose => didClose? params
  | .completion => completion? params

end Message

end TucServer
