/-
  NumberRegistry.Api.Routes — what the service does with a request.

  A path belongs to a route only if it is spelled exactly so. A route has its methods;
  any other method gets 405 and the list of them, and HEAD is GET without the body.
-/
import NumberRegistry.Api.Document
import NumberRegistry.Api.Error

namespace NumberRegistry.Api

open Http

inductive Route where
  | numbers
  | health
  | ready
  | metrics
  | document
  /-- The documentation pages: the way to them, and the files they are made of. -/
  | docs
  | docsFile (name : String)
  deriving DecidableEq, Repr

def documentPath : String := "/api-docs/openapi.json"

def docsRoot : String := "/swagger-ui/"

def Route.ofPath? (path : String) : Option Route :=
  if path = "/numbers" then some .numbers
  else if path = "/health" then some .health
  else if path = "/ready" then some .ready
  else if path = "/metrics" then some .metrics
  else if path = documentPath then some .document
  else if path = "/swagger-ui" then some .docs
  else if docsRoot.toList.isPrefixOf path.toList then
    some (.docsFile (String.ofList (path.toList.drop docsRoot.length)))
  else none

def Route.methods : Route → List String
  | .numbers => ["POST"]
  | _ => ["GET", "HEAD"]

def Route.allow (r : Route) : String := ",".intercalate r.methods

/-- What a request sets off. -/
inductive Action where
  | answer (response : Response)
  | add (query : Option String)
  | ping
  | exposition
  deriving DecidableEq, Repr

/-- The file that starts the documentation pages on the served document. -/
def docsScript : String := "\n".intercalate [
  "window.onload = function() \x7b",
  "  //<editor-fold desc=\"Changeable Configuration Block\">",
  "",
  "  // the following lines will be replaced by docker/configurator, when it runs in a " ++
    "docker-container",
  "  window.ui = SwaggerUIBundle(\x7b",
  "      \"dom_id\": \"#swagger-ui\",",
  "  \"url\": \"" ++ documentPath ++ "\",",
  "  \"deepLinking\": true,",
  "  \"layout\": \"StandaloneLayout\",",
  "    presets: [",
  "      SwaggerUIBundle.presets.apis,",
  "      SwaggerUIStandalonePreset",
  "    ],",
  "    plugins: [",
  "      SwaggerUIBundle.plugins.DownloadUrl",
  "    ],",
  "    ",
  "  \x7d);",
  "",
  "  //</editor-fold>",
  "\x7d;",
  ""]

def docsPage (name : String) : Response :=
  if name = "swagger-initializer.js" then .withBody 200 "text/javascript" docsScript
  else .bare 404

def Route.action (query : Option String) : Route → Action
  | .numbers => .add query
  | .health => .answer (jsonResponse 200 healthBody)
  | .ready => .ping
  | .metrics => .exposition
  | .document => .answer (jsonResponse 200 Document.value)
  | .docs => .answer { Response.bare 303 with location := some docsRoot }
  | .docsFile name => .answer (docsPage name)

def actionOf (r : Request) : Action :=
  match Route.ofPath? r.target.path with
  | none => .answer (.bare 404)
  | some route =>
    if r.method ∈ route.methods then route.action r.target.query
    else .answer { Response.bare 405 with allow := some route.allow }

/-- The `allow` header that stands on every answer to a method a route does not have. -/
def allowOf (r : Request) : Option String :=
  match actionOf r with
  | .answer response => response.allow
  | _ => none

def forMethod (r : Request) (response : Response) : Response :=
  if r.method = "HEAD" then response.withoutBody else response

end NumberRegistry.Api
