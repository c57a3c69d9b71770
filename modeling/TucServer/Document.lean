/-!
# Documents

A document has a text, the language that the client announced when it opened the document, and the
version of the text.
-/

namespace TucServer

/-- An open document. -/
structure Document where
  text : String
  language : String
  version : Int
  deriving DecidableEq, Repr

namespace Document

/-- The document with another text and its version. The language stays. -/
def update (document : Document) (text : String) (version : Int) : Document :=
  { document with text, version }

/-- The document after full synchronisation: each text replaces the one before it, and all of them
have the same version. Without texts nothing changes. -/
def sync (document : Document) (texts : List String) (version : Int) : Document :=
  texts.foldl (·.update · version) document

end Document

end TucServer
