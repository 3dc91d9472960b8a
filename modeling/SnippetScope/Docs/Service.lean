/-
  SnippetScope.Docs.Service

  A text model behind a web address: the request for a prompt, and what the
  answer to it means.
-/
import SnippetScope.Docs.Documenter
import SnippetScope.Json
import SnippetScope.Json.Record
import SnippetScope.Settings
import SnippetScope.Web.Target

namespace SnippetScope.Docs

/-! ## Set up -/

/-- A text model that can be asked. -/
structure Service where
  model : String
  /-- What stands before the name of the model in the path. -/
  basePath : List Char
  key : String
  deriving DecidableEq, Repr

/-- The service for settings, a path on its host and a key; neither the key
    nor the name of the model may be blank. -/
def Service.ofSettings (settings : ModelSettings) (basePath : List Char) (key : String) :
    Except ModelError Service :=
  if Text.allBlank key.toList then .error (.notConfigured (settings.keyVariable ++ " is not set"))
  else if Text.allBlank settings.model.toList then .error (.notConfigured "no model name")
  else .ok { model := settings.model, basePath, key }

/-! ## Requests -/

/-- A request to a service. -/
structure Request where
  target : List Char
  body : Json

/-- The method of every request. -/
def Request.method : String := "POST"

/-- What the program calls itself. -/
def Request.agent : String := "codelens/0.1.0"

/-- The form of the body of every request. -/
def Request.contentType : String := "application/json"

/-- What follows the host in the address of the model. -/
def Service.path (service : Service) : List Char :=
  (service.basePath.reverse.dropWhile (· = '/')).reverse
    ++ "/models/".toList ++ service.model.toList ++ ":generateContent".toList

/-- The body that carries a prompt. -/
def promptBody (prompt : String) : Json :=
  .object [("contents", .array [
    .object [("parts", .array [.object [("text", .string prompt)]])]])]

/-- The request for a prompt, if the address has the form of one. -/
def Service.request? (service : Service) (prompt : String) : Option Request :=
  (Web.target? service.path "key".toList service.key.toList).map fun target =>
    { target, body := promptBody prompt }

/-! ## Answers -/

/-- What comes back after a request has been sent. -/
inductive Answer where
  /-- No connection could be made. -/
  | refused
  /-- Nothing came in time. -/
  | silent
  | complete (status : Nat) (body : List Json.Symbol)

open Json (Written)
open Json.Written (fields? list? nullable text? withDefault)

/-- The text of a part of a candidate. -/
def partText? (part : Written) : Option String := do
  match ← fields? ["text"] part with
  | [text] => withDefault "" text? text
  | _ => none

/-- The texts of the parts of a candidate's content. -/
def contentTexts? (content : Written) : Option (List String) := do
  match ← fields? ["parts"] content with
  | [parts] => withDefault [] (list? partText?) parts
  | _ => none

/-- The texts of a candidate, if it has a content. -/
def candidateTexts? (candidate : Written) : Option (Option (List String)) := do
  match ← fields? ["content"] candidate with
  | [content] => withDefault none (nullable contentTexts?) content
  | _ => none

/-- The texts of all candidates of an answer. -/
def answerTexts? (body : Written) : Option (List (Option (List String))) := do
  match ← fields? ["candidates"] body with
  | [candidates] => withDefault [] (list? candidateTexts?) candidates
  | _ => none

/-- The text of the first candidate, if there is something to see in it. -/
def firstText? : List (Option (List String)) → Option String
  | some texts :: _ =>
    let text := String.join texts
    if Text.allBlank text.toList then none else some text
  | _ => none

/-- What an answer means.  Only the status 200 tells of success, and the whole
    body must have the expected form. -/
def Answer.reply : Answer → Reply
  | refused => .failed .network
  | silent => .failed .timeout
  | complete status body =>
    if status ≠ 200 then .failed (.status status)
    else match (Json.read? body).bind answerTexts? with
      | none => .failed .network
      | some candidates =>
        match firstText? candidates with
        | none => .failed .emptyReply
        | some text => .text text

/-- Asks a service for the text to a prompt; `send` carries a request and
    brings the answer. -/
def Service.ask (service : Service) (send : Request → Answer) (prompt : String) : Reply :=
  match service.request? prompt with
  | some request => (send request).reply
  | none => .failed .network

/-- The capability that settings and the value of the key's variable give. -/
def Capability.ofSettings (settings : ModelSettings) (basePath : List Char) (key : Option String)
    (send : Request → Answer) : Capability :=
  if !settings.enabled then .unavailable "generation disabled in configuration"
  else match Service.ofSettings settings basePath (key.getD "") with
    | .error e => .unavailable e.message
    | .ok service => .available { name := service.model, reply := service.ask send }

end SnippetScope.Docs
