import TucServer.Json.Shape

/-!
# What clients say of themselves

The shape in which a client tells what it can do when it introduces itself. The server only asks
whether fields in completions can be filled in, but all the rest has to be well-formed, too.
-/

namespace TucServer.ClientCapabilities

/-- A record of truth values, each of which may be missing. -/
def flags (names : List String) : Shape :=
  .record (names.map fun name => (name, .optional .bool)) 0

/-- Whether the client lets a feature be registered later. -/
def registration : Shape := flags ["dynamicRegistration"]

/-- Whether the client can be asked to renew what it shows. -/
def refreshing : Shape := flags ["refreshSupport"]

/-- A list of texts. -/
def texts : Shape := .list .text

/-- A list of numbers that stand for kinds of things. Unknown kinds are accepted. -/
def kinds : Shape := .list .signed32

/-- The kinds that the client knows, if it tells. -/
def knownKinds : Shape := .record [("valueSet", .optional kinds)] 0

/-- The tags that the client knows. Some clients only tell whether they know any. -/
def tags : Shape := .optional (.either .bool (.record [("valueSet", kinds)] 0))

/-- The properties that the client can ask for later. -/
def resolving : Shape := .record [("properties", texts)] 0

/-- The formats of a text that the client can show. -/
def formats : Shape := .optional (.list (.word ["plaintext", "markdown"]))

/-- How the client edits several documents at once. -/
def workspaceEdit : Shape :=
  .record [
    ("documentChanges", .optional .bool),
    ("resourceOperations", .optional (.list (.word ["create", "rename", "delete"]))),
    ("failureHandling",
      .optional (.word ["abort", "transactional", "textOnlyTransactional", "undo"])),
    ("normalizesLineEndings", .optional .bool),
    ("changeAnnotationSupport", .optional (flags ["groupsOnLabel"]))] 0

/-- How the client looks for symbols in all documents. -/
def workspaceSymbol : Shape :=
  .record [
    ("dynamicRegistration", .optional .bool),
    ("symbolKind", .optional knownKinds),
    ("tagSupport", tags),
    ("resolveSupport", .optional resolving)] 0

/-- The operations on files that the client tells of. -/
def fileOperations : Shape :=
  flags ["dynamicRegistration", "didCreate", "willCreate", "didRename", "willRename", "didDelete",
    "willDelete"]

/-- What the client can do with all documents together. -/
def workspace : Shape :=
  .record [
    ("applyEdit", .optional .bool),
    ("workspaceEdit", .optional workspaceEdit),
    ("didChangeConfiguration", .optional registration),
    ("didChangeWatchedFiles",
      .optional (flags ["dynamicRegistration", "relativePatternSupport"])),
    ("symbol", .optional workspaceSymbol),
    ("executeCommand", .optional registration),
    ("workspaceFolders", .optional .bool),
    ("configuration", .optional .bool),
    ("semanticTokens", .optional refreshing),
    ("codeLens", .optional refreshing),
    ("fileOperations", .optional fileOperations),
    ("inlineValue", .optional refreshing),
    ("inlayHint", .optional refreshing),
    ("diagnostic", .optional refreshing)] 0

/-- What the client can do with a completion item. -/
def completionItem : Shape :=
  .record [
    ("snippetSupport", .optional .bool),
    ("commitCharactersSupport", .optional .bool),
    ("documentationFormat", formats),
    ("deprecatedSupport", .optional .bool),
    ("preselectSupport", .optional .bool),
    ("tagSupport", tags),
    ("insertReplaceSupport", .optional .bool),
    ("resolveSupport", .optional resolving),
    ("insertTextModeSupport", .optional (.record [("valueSet", kinds)] 0)),
    ("labelDetailsSupport", .optional .bool)] 0

/-- What the client can do with completions. -/
def completion : Shape :=
  .record [
    ("dynamicRegistration", .optional .bool),
    ("completionItem", .optional completionItem),
    ("completionItemKind", .optional knownKinds),
    ("contextSupport", .optional .bool),
    ("insertTextMode", .optional .signed32),
    ("completionList", .optional (.record [("itemDefaults", .optional texts)] 0))] 0

/-- What the client can show of a symbol that the cursor is on. -/
def hover : Shape :=
  .record [("dynamicRegistration", .optional .bool), ("contentFormat", formats)] 0

/-- What the client can show of the signature of a call. -/
def signatureHelp : Shape :=
  .record [
    ("dynamicRegistration", .optional .bool),
    ("signatureInformation", .optional (.record [
      ("documentationFormat", formats),
      ("parameterInformation", .optional (flags ["labelOffsetSupport"])),
      ("activeParameterSupport", .optional .bool)] 0)),
    ("contextSupport", .optional .bool)] 0

/-- What the client can show of the symbols of a document. -/
def documentSymbol : Shape :=
  .record [
    ("dynamicRegistration", .optional .bool),
    ("symbolKind", .optional knownKinds),
    ("hierarchicalDocumentSymbolSupport", .optional .bool),
    ("tagSupport", tags)] 1

/-- Whether the client can be led to a place together with where the link stands. -/
def leading : Shape := flags ["dynamicRegistration", "linkSupport"]

/-- What the client can do with code actions. -/
def codeAction : Shape :=
  .record [
    ("dynamicRegistration", .optional .bool),
    ("codeActionLiteralSupport",
      .optional (.record [("codeActionKind", .record [("valueSet", texts)] 0)] 0)),
    ("isPreferredSupport", .optional .bool),
    ("disabledSupport", .optional .bool),
    ("dataSupport", .optional .bool),
    ("resolveSupport", .optional resolving),
    ("honorsChangeAnnotations", .optional .bool)] 0

/-- What the client can do where a symbol gets another name. -/
def rename : Shape :=
  .record [
    ("dynamicRegistration", .optional .bool),
    ("prepareSupport", .optional .bool),
    ("prepareSupportDefaultBehavior", .optional .signed32),
    ("honorsChangeAnnotations", .optional .bool)] 0

/-- What the client can show of diagnostics that it is sent. -/
def publishDiagnostics : Shape :=
  .record [
    ("relatedInformation", .optional .bool),
    ("tagSupport", tags),
    ("versionSupport", .optional .bool),
    ("codeDescriptionSupport", .optional .bool),
    ("dataSupport", .optional .bool)] 0

/-- How the client folds ranges of a document. -/
def foldingRange : Shape :=
  .record [
    ("dynamicRegistration", .optional .bool),
    ("rangeLimit", .optional .unsigned32),
    ("lineFoldingOnly", .optional .bool),
    ("foldingRangeKind", .optional
      (.record [("valueSet", .optional (.list (.word ["comment", "imports", "region"])))] 0)),
    ("foldingRange", .optional (flags ["collapsedText"]))] 0

/-- What the client can do with semantic tokens. -/
def semanticTokens : Shape :=
  .record [
    ("dynamicRegistration", .optional .bool),
    ("requests", .record [
      ("range", .optional .bool),
      ("full", .optional (.either .bool (.object [("delta", .optional .bool)])))] 0),
    ("tokenTypes", texts),
    ("tokenModifiers", texts),
    ("formats", texts),
    ("overlappingTokenSupport", .optional .bool),
    ("multilineTokenSupport", .optional .bool),
    ("serverCancelSupport", .optional .bool),
    ("augmentsSyntaxTokens", .optional .bool)] 0

/-- What the client can do with hints in the text. -/
def inlayHint : Shape :=
  .record [("dynamicRegistration", .optional .bool), ("resolveSupport", .optional resolving)] 0

/-- What the client can do with a single document. -/
def textDocument : Shape :=
  .record [
    ("synchronization", .optional
      (flags ["dynamicRegistration", "willSave", "willSaveWaitUntil", "didSave"])),
    ("completion", .optional completion),
    ("hover", .optional hover),
    ("signatureHelp", .optional signatureHelp),
    ("references", .optional registration),
    ("documentHighlight", .optional registration),
    ("documentSymbol", .optional documentSymbol),
    ("formatting", .optional registration),
    ("rangeFormatting", .optional registration),
    ("onTypeFormatting", .optional registration),
    ("declaration", .optional leading),
    ("definition", .optional leading),
    ("typeDefinition", .optional leading),
    ("implementation", .optional leading),
    ("codeAction", .optional codeAction),
    ("codeLens", .optional registration),
    ("documentLink", .optional (flags ["dynamicRegistration", "tooltipSupport"])),
    ("colorProvider", .optional registration),
    ("rename", .optional rename),
    ("publishDiagnostics", .optional publishDiagnostics),
    ("foldingRange", .optional foldingRange),
    ("selectionRange", .optional registration),
    ("linkedEditingRange", .optional registration),
    ("callHierarchy", .optional registration),
    ("semanticTokens", .optional semanticTokens),
    ("moniker", .optional registration),
    ("typeHierarchy", .optional registration),
    ("inlineValue", .optional registration),
    ("inlayHint", .optional inlayHint),
    ("diagnostic", .optional (flags ["dynamicRegistration", "relatedDocumentSupport"]))] 0

/-- What the client can show beside documents. -/
def window : Shape :=
  .record [
    ("workDoneProgress", .optional .bool),
    ("showMessage", .optional (.record [
      ("messageActionItem", .optional (flags ["additionalPropertiesSupport"]))] 0)),
    ("showDocument", .optional (.record [("support", .bool)] 0))] 0

/-- What the client can do in general. -/
def general : Shape :=
  .record [
    ("regularExpressions", .optional
      (.record [("engine", .text), ("version", .optional .text)] 0)),
    ("markdown", .optional (.record [
      ("parser", .text),
      ("version", .optional .text),
      ("allowedTags", .optional texts)] 0)),
    ("staleRequestSupport", .optional
      (.record [("cancel", .bool), ("retryOnContentModified", texts)] 0)),
    ("positionEncodings", .optional texts)] 0

/-- What the client can do. -/
def shape : Shape :=
  .record [
    ("workspace", .optional workspace),
    ("textDocument", .optional textDocument),
    ("window", .optional window),
    ("general", .optional general),
    ("experimental", .optional .any)] 0

end TucServer.ClientCapabilities
