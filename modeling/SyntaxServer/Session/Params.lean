import SyntaxServer.Error
import SyntaxServer.Json.Codec
import SyntaxServer.Json.Decode

/-! # Params of the methods

What the methods of the protocol are given.
-/
namespace SyntaxServer

open Json

namespace Position

def ofJson : Decoder Position := fun v => do
  let r ← asRecord ["line", "character"] v
  return ⟨← r.required "line" asNat32, ← r.required "character" asNat32⟩

end Position

namespace Span

def ofJson : Decoder Span := fun v => do
  let r ← asRecord ["start", "end"] v
  return ⟨← r.required "start" Position.ofJson, ← r.required "end" Position.ofJson⟩

end Span

namespace Change

/-- A change; the length of the replaced text, which older clients send, is read and not used. -/
def ofJson : Decoder Change := fun v => do
  let r ← asRecord ["range", "rangeLength", "text"] v
  let span ← r.optional "range" Span.ofJson
  let _ ← r.optional "rangeLength" asNat32
  return ⟨span, ← r.required "text" asText⟩

end Change

structure InitializeParams where
  rootPath : Option String
  rootUri : Option Uri
  options : Option Json
  folders : List Uri

structure OpenParams where
  uri : Uri
  languageId : Text
  version : Int
  text : Text

structure ChangeParams where
  uri : Uri
  version : Int
  changes : List Change

structure CloseParams where
  uri : Uri

structure HoverParams where
  uri : Uri
  position : Position

structure FoldParams where
  uri : Uri

/-- A document named by its URI. -/
def documentUri : Decoder Uri := fun v => do
  let r ← asRecord ["uri"] v
  r.required "uri" asUri

namespace InitializeParams

def folderUri : Decoder Uri := fun v => do
  let r ← asRecord ["uri", "name"] v
  let uri ← r.required "uri" asUri
  let _ ← r.required "name" asString
  return uri

def checkClient : Decoder Unit := fun v => do
  let r ← asRecord ["name", "version"] v
  let _ ← r.required "name" asString
  let _ ← r.optional "version" asString
  return ()

/-- What describes the capabilities of a client is looked at by the codec only. -/
def checkCapabilities [Codec] : Decoder Unit := fun v => if Codec.admits v then some () else none

def ofJson [Codec] : Decoder InitializeParams := fun v => do
  let r ← asRecord ["processId", "rootPath", "rootUri", "initializationOptions", "capabilities",
    "trace", "workspaceFolders", "clientInfo", "locale"] v
  let _ ← r.optional "processId" asNat32
  let rootPath ← r.optional "rootPath" asString
  let rootUri ← r.optional "rootUri" asUri
  let options ← r.optional "initializationOptions" asAny
  let _ ← r.required "capabilities" checkCapabilities
  let _ ← r.optional "trace" (asOneOf ["off", "messages", "verbose"])
  let folders ← r.optional "workspaceFolders" (asListOf folderUri)
  let _ ← r.optional "clientInfo" checkClient
  let _ ← r.optional "locale" asString
  return ⟨rootPath, rootUri, options, folders.getD []⟩

end InitializeParams

namespace OpenParams

def ofJson : Decoder OpenParams := fun v => do
  let r ← asRecord ["textDocument"] v
  let d ← r.required "textDocument" (asRecord ["uri", "languageId", "version", "text"])
  return {
    uri := ← d.required "uri" asUri
    languageId := ← d.required "languageId" asText
    version := ← d.required "version" asInt32
    text := ← d.required "text" asText }

end OpenParams

namespace ChangeParams

def ofJson : Decoder ChangeParams := fun v => do
  let r ← asRecord ["textDocument", "contentChanges"] v
  let d ← r.required "textDocument" (asRecord ["uri", "version"])
  return {
    uri := ← d.required "uri" asUri
    version := ← d.required "version" asInt32
    changes := ← r.required "contentChanges" (asListOf Change.ofJson) }

end ChangeParams

namespace CloseParams

def ofJson : Decoder CloseParams := fun v => do
  let r ← asRecord ["textDocument"] v
  return ⟨← r.required "textDocument" documentUri⟩

end CloseParams

namespace HoverParams

def ofJson : Decoder HoverParams := fun v => do
  let r ← asObjectRecord v
  let uri ← r.required "textDocument" documentUri
  let position ← r.required "position" Position.ofJson
  let _ ← r.optional "workDoneToken" asToken
  return ⟨uri, position⟩

end HoverParams

namespace FoldParams

def ofJson : Decoder FoldParams := fun v => do
  let r ← asObjectRecord v
  let uri ← r.required "textDocument" documentUri
  let _ ← r.optional "workDoneToken" asToken
  let _ ← r.optional "partialResultToken" asToken
  return ⟨uri⟩

end FoldParams

/-- The params of a method, or that they are not what the method is given. -/
def decodeParams [Codec] {α : Type} (method : String) (decode : Decoder α) (params : Json) : Except Error α :=
  match decode params with
  | some p => .ok p
  | none => .error (.invalidParams (method ++ ": " ++ Codec.refusal method params))

end SyntaxServer
