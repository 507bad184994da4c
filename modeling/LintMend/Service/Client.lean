/-
LintMend.Service.Client — the client of the text-generation service.

Requests are made once. A connection that fails, and a status that is no success, mean that the
service is unavailable; a body that is no JSON object means that its reply is malformed.

  `ServiceClient`                        — settings, and the address that they lead to
  `generate`, `version`, `models`, `hasModel` — the requests
  `waitUntilReady`                       — polling for the version
  `ServiceClient.service`                — the client as a service for fixing
-/
import LintMend.Address.Target
import LintMend.Configuration.Settings
import LintMend.Fixing.World
import LintMend.Json.Encoded
import LintMend.Json.Printer
import LintMend.Log.Preview
import LintMend.Service.Link
import LintMend.Service.Readiness

namespace LintMend

/-- A client of the service. -/
structure ServiceClient where
  settings : ServiceSettings
  base : BaseAddress

namespace ServiceClient

/-- The client for settings, unless requests cannot be sent to their address. -/
def ofSettings (s : ServiceSettings) : Except Failure ServiceClient :=
  (BaseAddress.read s.address).map fun base => ⟨s, base⟩

/-- The path for generating text. -/
def generatePath : Text := "/api/generate"

/-- The path for the version. -/
def versionPath : Text := "/api/version"

/-- The path for the installed models. -/
def modelsPath : Text := "/api/tags"

/-- The body of a request for text. -/
def generateBody (model prompt : Text) (temperature : Float) : Json :=
  .object [("model", .string model), ("prompt", .string prompt), ("stream", .bool false),
    ("options", .object [("temperature", .float temperature)])]

/-- Why a body cannot be sent. -/
def unsendable? (body : Option Json) : Option Failure :=
  match body with
  | none => none
  | some j =>
    match Utf8.encode j.compact with
    | .ok _ => none
    | .error e => some (.unencodable e)

/-- A failed connection. -/
def linkFailure (c : ServiceClient) (l : Link) (path : Text) (limit : Float)
    (fault : LinkFault) (message : Text) : Link × Failure :=
  if fault.isTimeout then
    (l.emit (.requestFailed path "timeout"),
      .serviceUnavailable
        ("Ollama request to " ++ path ++ " timed out after " ++ floatText limit ++ "s"))
  else
    (l.emit (.requestFailed path message),
      .serviceUnavailable ("Cannot reach Ollama at " ++ c.settings.address ++ ": " ++ message))

/-- A status that is no success. -/
def statusFailure (l : Link) (path : Text) (status : Int) (bytes : Bytes) : Link × Failure :=
  let body := Text.preview (some Text.previewLimit) (Utf8.decodeLossy bytes)
  (l.emit (.requestRefused path status body),
    .serviceUnavailable
      ("Ollama returned HTTP " ++ Text.ofInt status ++ " for " ++ path ++ ": " ++ body))

/-- The object in the body of a response. -/
def readObject (l : Link) (path : Text) (bytes : Bytes) :
    Link × Except Failure (List (Text × Json)) :=
  match Json.readBytes bytes with
  | .error reason =>
    (l.emit (.bodyUnreadable path (Text.preview (some Text.previewLimit) (Utf8.decodeLossy bytes))),
      .error (.malformedReply ("Invalid JSON from Ollama " ++ path ++ ": " ++ reason) none))
  | .ok (.object fields) => (l, .ok fields)
  | .ok other =>
    (l, .error (.malformedReply
      ("Expected a JSON object from Ollama " ++ path ++ ", got " ++ other.kindName) none))

/-- One request, answered by an object. -/
def request (c : ServiceClient) (l : Link) (method path : Text) (limit : Float)
    (body : Option Json) : Link × Except Failure (List (Text × Json)) :=
  match unsendable? body with
  | some failure => (l, .error failure)
  | none =>
    match l.send ⟨method, c.base.below path, body⟩ with
    | (l, .failed (.link fault message)) =>
      let (l, failure) := c.linkFailure l path limit fault message
      (l, .error failure)
    | (l, .failed failure) => (l, .error failure)
    | (l, .response status bytes) =>
      if 200 ≤ status ∧ status ≤ 299 then readObject l path bytes
      else
        let (l, failure) := statusFailure l path status bytes
        (l, .error failure)

/-- Ask for text. -/
def generate (c : ServiceClient) (l : Link) (prompt : Text) :
    Link × Except Failure (List (Text × Json)) :=
  let s := c.settings
  let body := generateBody s.model prompt s.temperature
  let l := l.emit (.requestStarted s.model prompt.length)
  match c.request l "POST" generatePath s.timeout (some body) with
  | (l, .error failure) => (l, .error failure)
  | (l, .ok fields) => (l.emit (.requestCompleted s.model), .ok fields)

/-- Ask for the version of the service. -/
def version (c : ServiceClient) (l : Link) : Link × Except Failure Text :=
  match c.request l "GET" versionPath c.settings.healthTimeout none with
  | (l, .error failure) => (l, .error failure)
  | (l, .ok fields) =>
    match Json.lookup "version" fields with
    | some (.string (d :: rest)) => (l, .ok (d :: rest))
    | _ => (l, .error (.malformedReply "Ollama version reply has no 'version' field" none))

/-- The names of models in a reply. What is no object with a name is overlooked; a number or a
switch cannot be gone through. -/
def modelNames (models : Json) : Except Failure (List Json) :=
  match models with
  | .array items => .ok (items.filterMap (·.field? "name"))
  | other =>
    if other.isEmptyLike then .ok []
    else
      match other with
      | .int _ | .float _ | .bool _ =>
        .error (.badType ("'" ++ other.kindName ++ "' object is not iterable"))
      | _ => .ok []

/-- Ask for the names of the installed models. -/
def models (c : ServiceClient) (l : Link) : Link × Except Failure (List Json) :=
  match c.request l "GET" modelsPath c.settings.healthTimeout none with
  | (l, .error failure) => (l, .error failure)
  | (l, .ok fields) => (l, modelNames ((Json.lookup "models" fields).getD .null))

/-- Whether a name is among some; a list or an object before it cannot be compared. -/
def findName (wanted : List Text) : List Json → Except Failure Bool
  | [] => .ok false
  | .string t :: rest => if wanted.contains t then .ok true else findName wanted rest
  | name@(.array _) :: _ => .error (.badType ("unhashable type: '" ++ name.kindName ++ "'"))
  | name@(.object _) :: _ => .error (.badType ("unhashable type: '" ++ name.kindName ++ "'"))
  | _ :: rest => findName wanted rest

/-- The names under which a model may be installed: a name without a tag also has the latest. -/
def installedNames (model : Text) : List Text :=
  if model.has ':' then [model] else [model, model ++ ":latest"]

/-- Ask whether a model is installed, the configured one unless another is named. -/
def hasModel (c : ServiceClient) (l : Link) (name : Option Text) : Link × Except Failure Bool :=
  let model := match name with
    | some (d :: rest) => d :: rest
    | _ => c.settings.model
  match c.models l with
  | (l, .error failure) => (l, .error failure)
  | (l, .ok names) => (l, findName (installedNames model) names)

/-- One probe of whether the service is ready. -/
def probe (c : ServiceClient) (l : Link) : Link × Except Failure Text :=
  match c.version l with
  | (l, .error failure) => (l, .error failure)
  | (l, .ok v) => (l.emit (.serviceReady c.settings.address v), .ok v)

/-- Ask for the version until the service answers. -/
def waitUntilReady (c : ServiceClient) (l : Link) (attempts : Int) : Link × Except Failure Text :=
  let poll : Poll Link Text := ⟨c.probe, fun l e seconds => (l.emit e).rest seconds⟩
  poll.run { attempts } Failure.meansNotReady l

/-- The client as a service for fixing. The events of a request are left to the run. -/
def service (c : ServiceClient) : Service Link where
  model := c.settings.model
  answer l prompt :=
    let (next, result) := c.generate { l with log := [] } prompt
    { result := result.map .object, next := { next with log := l.log }, events := next.log }

end ServiceClient

end LintMend
