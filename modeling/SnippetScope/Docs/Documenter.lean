/-
  SnippetScope.Docs.Documenter

  Producing the texts for a snippet with a text model, if one is available,
  and with the templates wherever the model gives nothing usable.
-/
import SnippetScope.Docs.Prompt
import SnippetScope.Text.Quoted

namespace SnippetScope.Docs

/-- Why a model gave no text. -/
inductive ModelError where
  /-- The connection failed, or the reply could not be read. -/
  | network
  /-- No reply came in time. -/
  | timeout
  /-- The reply had a status other than success. -/
  | status (code : Nat)
  /-- The reply held no text. -/
  | emptyReply
  /-- The model cannot be asked as it is set up. -/
  | notConfigured (reason : String)
  deriving DecidableEq, Repr

/-- The text of an error.  What exactly was wrong with a connection is not
    part of it. -/
def ModelError.message : ModelError → String
  | network => "network error"
  | timeout => "request timed out"
  | status code => s!"backend returned HTTP {code}"
  | emptyReply => "backend returned no text"
  | notConfigured reason => "generation backend not configured: " ++ reason

/-- What comes back from a model within the time for one request. -/
inductive Reply where
  | text (value : String)
  | failed (error : ModelError)
  | noAnswer
  deriving DecidableEq, Repr

/-- A text model: its name and its reply to a prompt. -/
structure Model where
  name : String
  reply : String → Reply

/-- Whether there is a model to ask. -/
inductive Capability where
  | available (model : Model)
  | unavailable (reason : String)

/-- The capability as shown in logs. -/
def Capability.describe : Capability → String
  | available model => "Available(" ++ Text.quoted model.name ++ ")"
  | unavailable reason => "Unavailable \x7b reason: " ++ Text.quoted reason ++ " \x7d"

/-- Where a text comes from. -/
inductive Origin where
  | model
  | fallback
  deriving DecidableEq, Repr

/-- The name of an origin in reports. -/
def Origin.name : Origin → String
  | model => "model"
  | fallback => "fallback"

/-- A text and where it comes from. -/
structure Generated where
  text : String
  origin : Origin
  deriving DecidableEq, Repr

/-- The three texts for a snippet. -/
structure Documents where
  documentation : Generated
  refactoring : Generated
  improvements : Generated
  deriving DecidableEq, Repr

/-- The text of a product among the three. -/
def Documents.get (documents : Documents) : Product → Generated
  | .documentation => documents.documentation
  | .refactoring => documents.refactoring
  | .improvements => documents.improvements

/-- A reply counts if it is a text with something to see. -/
def Reply.usable? : Reply → Option String
  | text value => if Text.allBlank value.toList then none else some value
  | failed _ => none
  | noAnswer => none

/-- The products for which a model is asked. -/
def Capability.asked : Capability → List Product
  | available _ => Product.all
  | unavailable _ => []

/-- One product: the model's text if usable, the template otherwise. -/
def Capability.produce (capability : Capability) (subject : Subject) (product : Product) :
    Generated :=
  match capability with
  | available model =>
    match (model.reply (product.prompt subject.outline)).usable? with
    | some text => ⟨text, .model⟩
    | none => ⟨product.template subject, .fallback⟩
  | unavailable _ => ⟨product.template subject, .fallback⟩

/-- The three products, each on its own. -/
def Capability.document (capability : Capability) (subject : Subject) : Documents where
  documentation := capability.produce subject .documentation
  refactoring := capability.produce subject .refactoring
  improvements := capability.produce subject .improvements

end SnippetScope.Docs
