import NotificationBroker.Domain.Errors
import NotificationBroker.Python.Text

/-!
# Email templates

`EmailTemplateRenderer.render`: the subject is normalized and cut off, and empty parts are
refused. What a template renders is a parameter, as are the exceptions it raises while doing
so.
-/

namespace NotificationBroker

open Python

/-- `text.split()`. -/
def splitWhitespace (text : List Char) : List (List Char) :=
  (text.splitOnP isSpace).filter fun word => word ≠ []

/-- The render context. -/
structure EmailContext where
  deliveryId : String
  notificationId : String
  message : String
  severity : String
  sourceService : String
  userId : String
  displayName : String
  email : String

structure RenderedEmail where
  subject : String
  plainBody : String
  htmlBody : String
deriving DecidableEq

/-- How rendering a template goes wrong: with an `OSError` or a `TemplateError`, or with
another exception. -/
inductive TemplateFailure
  | osOrTemplateError
  | other (e : PyError)

/-- The exceptions of `render`. -/
inductive EmailRenderError
  | emailTemplateError (message : String)
  | other (e : PyError)

/-- The rendered text of each template, by its name. -/
structure EmailTemplateRenderer where
  template : String → EmailContext → Except TemplateFailure String

namespace EmailTemplateRenderer

variable (renderer : EmailTemplateRenderer)

/-- `self._environment.get_template(name).render(context)`, inside the `try` block. -/
def renderTemplate (name : String) (context : EmailContext) : Except EmailRenderError String :=
  match renderer.template name context with
  | .ok text => .ok text
  | .error .osOrTemplateError => .error (.emailTemplateError "email template rendering failed")
  | .error (.other e) => .error (.other e)

/-- `" ".join(subject.split())[:200]`. -/
def normalizedSubject (subject : String) : String :=
  String.ofList (([' '].intercalate (splitWhitespace subject.toList)).take 200)

/-- `render`. -/
def render (context : EmailContext) : Except EmailRenderError RenderedEmail := do
  let subject ← renderer.renderTemplate "subject.j2" context
  let plainBody ← renderer.renderTemplate "plain.txt.j2" context
  let htmlBody ← renderer.renderTemplate "html.html.j2" context
  let subject := normalizedSubject subject
  if subject = "" then throw (.emailTemplateError "email template rendered an empty subject")
  if strip plainBody.toList = [] ∨ strip htmlBody.toList = [] then
    throw (.emailTemplateError "email template rendered an empty body")
  return ⟨subject, plainBody, htmlBody⟩

end EmailTemplateRenderer

end NotificationBroker
