import SyntaxServer.Text.Quoted
import SyntaxServer.Text.Edit
import SyntaxServer.Uri.Basic

/-! # Errors

Why a request or a notification fails, with the words, the name and the number that a client is told.
-/
namespace SyntaxServer

inductive Error where
  | invalidParams (detail : String)
  | serverNotInitialized
  | invalidRequest (detail : String)
  | missingRootPath
  | unknownDocument (uri : Uri)
  | parseFailure (uri : Uri) (reason : String)
  | outOfOrderEdit (uri : Uri) (current received : Int)
  | invalidEdit (detail : String)
  | methodNotFound (method : String)
  | internal (detail : String)
deriving DecidableEq, Repr

namespace Error

def ofEditFault (fault : EditFault) : Error := invalidEdit fault.message

def message : Error → String
  | invalidParams detail => "invalid params: " ++ detail
  | serverNotInitialized => "server not initialized"
  | invalidRequest detail => "invalid request: " ++ detail
  | missingRootPath => "no root path"
  | unknownDocument uri => s!"unknown document: {uri}"
  | parseFailure uri reason => s!"failed to parse {uri}: {reason}"
  | outOfOrderEdit uri current received =>
    s!"out-of-order edit for {uri}: version {received} is not newer than {current}"
  | invalidEdit detail => "invalid edit: " ++ detail
  | methodNotFound method => "method not found: " ++ Text.quoteString method
  | internal detail => "internal error: " ++ detail

def kind : Error → String
  | invalidParams _ => "InvalidParams"
  | serverNotInitialized => "ServerNotInitialized"
  | invalidRequest _ => "InvalidRequest"
  | missingRootPath => "MissingRootPath"
  | unknownDocument _ => "UnknownDocument"
  | parseFailure _ _ => "ParseFailure"
  | outOfOrderEdit _ _ _ => "OutOfOrderEdit"
  | invalidEdit _ => "InvalidEdit"
  | methodNotFound _ => "MethodNotFound"
  | internal _ => "Internal"

def code : Error → Int
  | invalidParams _ => -32602
  | serverNotInitialized => -32002
  | invalidRequest _ => -32600
  | missingRootPath => -32602
  | unknownDocument _ => -32602
  | parseFailure _ _ => -32803
  | outOfOrderEdit _ _ _ => -32602
  | invalidEdit _ => -32602
  | methodNotFound _ => -32601
  | internal _ => -32603

end Error

end SyntaxServer
