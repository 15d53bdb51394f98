import TypedMarkup.Text.Quoted

/-!
# Faults

Why an operation of the library fails. Odd markup is no fault: these report a wrong use of the
tree, of the registry or of the files, or a parser that cannot do its work. `Fault.message` words
each of them.
-/

namespace TypedMarkup

/-- The causes of failure. -/
inductive Fault where
  /-- No definition in the registry is for this class. -/
  | unregistered (className : String)
  /-- A constructor gave something other than a semantic container or void element. -/
  | notSemantic (constructor produced : String)
  /-- An element class was constructed that declares no tag. -/
  | noTag (className : String)
  /-- A node to remove is not listed by its parent. -/
  | childNotFound
  /-- A node was to go before one that is not a child. -/
  | referenceNotFound
  /-- A node was to go before itself; the field describes it. -/
  | notInList (node : String)
  /-- The value asked does not have that operation or field. -/
  | noSuchMember
  /-- A list of attribute values holds something that is not text. -/
  | notText
  /-- A value of this kind cannot name the features of a parser. -/
  | noLength (kind : String)
  /-- No attribute is stored under exactly this name. -/
  | noSuchKey (name : String)
  /-- There is no such file, or no directory to put it into. -/
  | fileNotFound (path : String)
  /-- A directory stands where a file was expected. -/
  | isDirectory (path : String)
  /-- A file stands where a directory was expected. -/
  | notDirectory (path : String)
  /-- A directory was to be made where a file stands. -/
  | fileExists (path : String)
  /-- A table to be written comes again within itself. -/
  | circular
  /-- No parser goes by this name. -/
  | noParser (features : String)
  /-- The parser reports a failure of its own. -/
  | parserFailed (reason : String)
  /-- The markup has a declaration that the parser refuses. -/
  | markupRejected (reason : String)
  deriving Repr, DecidableEq

/-- The wording of a fault. -/
def Fault.message : Fault → String
  | unregistered c => s!"Element class {c} is not registered, register it first"
  | notSemantic c p =>
    s!"Constructor {c} produced {p}, " ++
      "expected a SemanticContainerElement or SemanticVoidElement subclass"
  | noTag c => s!"{c} does not declare a tag"
  | childNotFound => "Child not found in child nodes"
  | referenceNotFound => "Reference child not found in child nodes"
  | notInList node => s!"{node} is not in list"
  | noSuchMember => "No such operation or field"
  | notText => "A list of attribute values holds something that is not text"
  | noLength kind => "object of type '" ++ kind ++ "' has no len()"
  | noSuchKey name => Text.quote name
  | fileNotFound path => "[Errno 2] No such file or directory: " ++ Text.quote path
  | isDirectory path => "[Errno 21] Is a directory: " ++ Text.quote path
  | notDirectory path => "[Errno 20] Not a directory: " ++ Text.quote path
  | fileExists path => "[Errno 17] File exists: " ++ Text.quote path
  | circular => "Circular reference detected"
  | noParser features =>
    s!"Couldn't find a tree builder with the features you requested: {features}. " ++
      "Do you need to install a parser library?"
  | parserFailed reason => reason
  | markupRejected reason =>
    "The markup you provided was rejected by the parser. Trying a different parser or a " ++
      s!"different encoding may help.\n\nOriginal error(s) from parser:\n {reason}"

end TypedMarkup
