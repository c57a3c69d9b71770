import TucServer.Completion.Item
import TucServer.Registry.Host
import TucServer.Server.Documents
import TucServer.Server.Message

/-!
# The server

The server keeps the open documents and serves completion through its registry. Every introduction
of a client registers the keyword provider once more, and shutting down takes all registrations
back. Each message is answered in one turn, which also gives the lines for the log of the client.
-/

namespace TucServer

/-- The state of the server: whether it also logs for debugging, the open documents, the registered
providers, the handles of the registrations, and whether the client can fill in fields. -/
structure Server where
  debug : Bool
  documents : Documents
  registry : Store
  context : Context Nat
  snippets : Bool

/-- What the server answers. -/
inductive Reply where
  /-- Nothing, or the acknowledgement of a request. -/
  | nothing
  /-- What the server can do. -/
  | capabilities
  /-- Completion items, if the language of the document is served. -/
  | items (items : Option (List Item))
  deriving DecidableEq, Repr

/-- The server after a message, what it answers, and the lines it logs in the meantime. -/
structure Turn where
  server : Server
  reply : Reply
  log : List String

namespace Server

/-- The name of the program. -/
def name : String := "tuc-lsp"

/-- The version of the program. -/
def version : String := "0.1.0"

/-- The server before the first message. -/
def new (debug : Bool) : Server :=
  ⟨debug, Documents.empty, Store.empty, Context.empty, false⟩

/-- How lines for debugging begin. -/
def debugMark : String := "[DEBUG] "

/-- A line that is logged only for debugging. -/
def debugLine (server : Server) (line : String) : List String :=
  if server.debug then [debugMark ++ line] else []

/-- A truth value as it is logged. -/
def boolText (value : Bool) : String :=
  if value then "true" else "false"

/-- A position as it is logged. -/
def positionText (position : Position) : String :=
  "Position \x7b line: " ++ toString position.line ++ ", character: " ++
    toString position.character ++ " \x7d"

/-- The line on the catalog. -/
def catalogLine (snippets : Bool) : String :=
  "Completion catalog v" ++ toString Catalog.version ++ " (" ++ toString Catalog.entries.length ++
    " entries), snippet support: " ++ boolText snippets

/-- Registers the keyword provider for a client that has introduced itself. -/
def setUp (server : Server) (snippets : Bool) : Turn :=
  let (context, registry) := activate Host.store server.context server.registry
  ⟨{ server with registry, context, snippets }, .capabilities,
    server.debugLine "Initializing tuc LSP server" ++ server.debugLine (catalogLine snippets)⟩

/-- Takes all registrations back. -/
def shutDown (server : Server) : Turn :=
  let (context, registry) :=
    server.context.deactivate (fun id store => store.unregister id) server.registry
  ⟨{ server with registry, context }, .nothing, server.debugLine "Shutting down server"⟩

/-- Replaces the text of an open document. Nothing happens if the document is not open. -/
def didChange (server : Server) (uri : Uri) (texts : List String) (version : Int) : Turn :=
  match server.documents.get? uri with
  | none => ⟨server, .nothing, []⟩
  | some document =>
    let document := document.sync texts version
    ⟨{ server with documents := server.documents.insert uri document }, .nothing,
      server.debugLine ("Document changed: " ++ uri.text ++ " (version " ++
        toString document.version ++ ")")⟩

/-- The completion items for a position in a document, if the document is open. -/
def items (server : Server) (uri : Uri) (position : Position) : Option (List Item) :=
  server.documents.get? uri >>= fun document =>
    server.registry.itemsFor document position server.snippets

/-- The turn of the server on a message. -/
def handle (server : Server) : Message → Turn
  | .setUp snippets => server.setUp snippets
  | .ready =>
    ⟨server, .nothing,
      server.debugLine "Server initialized successfully" ++ ["tuc LSP server initialized"]⟩
  | .shutDown => server.shutDown
  | .didOpen uri document =>
    ⟨{ server with documents := server.documents.insert uri document }, .nothing,
      server.debugLine ("Document opened: " ++ uri.text ++ " (" ++ document.language ++ ")")⟩
  | .didChange uri texts version => server.didChange uri texts version
  | .didClose uri =>
    ⟨{ server with documents := server.documents.erase uri }, .nothing,
      server.debugLine ("Document closed: " ++ uri.text)⟩
  | .completion uri position =>
    ⟨server, .items (server.items uri position),
      server.debugLine ("Completion request at " ++ positionText position)⟩

/-- The server after a run of messages. -/
def run (server : Server) (messages : List Message) : Server :=
  messages.foldl (fun server message => (server.handle message).server) server

/-- What the server offers to clients: documents are synchronised as a whole, and completion is
served without characters that trigger it. -/
def capabilities : Json :=
  .object [("textDocumentSync", .integer 1), ("completionProvider", .object [])]

end Server

/-- The answer as it is sent to the client. -/
def Reply.toJson : Reply → Json
  | .nothing => .null
  | .capabilities =>
    .object [("capabilities", Server.capabilities),
      ("serverInfo", .object [("name", .string Server.name), ("version", .string Server.version)])]
  | .items none => .null
  | .items (some list) => .array (list.map Item.toJson)

/-- A line of the log as it is sent to the client: a notification without an answer. -/
def logNotification (line : String) : Json :=
  .object [("method", .string "window/logMessage"),
    ("params", .object [("type", .integer 3), ("message", .string line)])]

end TucServer
