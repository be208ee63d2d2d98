import HeaterHost.Web.Body
import HeaterHost.Web.Form
import HeaterHost.Web.MediaType

/-!
Requests of the web interface, and what they ask for.
-/

namespace HeaterHost.Web

structure Request where
  method : String := "GET"
  target : String
  contentType : Option String := none
  body : String := ""

inductive Call where
  | execute (line : String)
  | query (names : List String)
  | list
deriving Repr, DecidableEq

inductive Refusal where
  | notFound
  | wrongMethod
  | badRequest
  | wrongMediaType
  | unsuitable
deriving Repr, DecidableEq

def Refusal.status : Refusal → Nat
  | .notFound => 404
  | .wrongMethod => 405
  | .badRequest => 400
  | .wrongMediaType => 415
  | .unsuitable => 422

namespace Request

/-- The path and the query of the target. A fragment belongs to neither. -/
def parts (r : Request) : List Char × List Char :=
  let target := r.target.toList.takeWhile (· != '#')
  (Text.cutAt '?' target).getD (target, [])

def isHead (r : Request) : Bool :=
  r.method == "HEAD"

def isGet (r : Request) : Bool :=
  r.method == "GET" || r.isHead

def commandLine (r : Request) : Except Refusal String :=
  if (r.contentType.bind MediaType.parse?).any MediaType.isJson then
    match Body.read r.body with
    | .ok line => .ok line
    | .error .malformed => .error .badRequest
    | .error .unsuitable => .error .unsuitable
  else .error .wrongMediaType

def objectNames (query : List Char) : Except Refusal (List String) :=
  match (Form.pairs query).filter fun (name, _) => name == "objects" with
  | [] => .ok []
  | [(_, names)] =>
      .ok (((names.toList.splitOn ',').map fun name => String.ofList (Text.trimmed name)).filter
        fun name => !name.isEmpty)
  | _ => .error .badRequest

def call (r : Request) : Except Refusal Call := do
  let (path, query) := r.parts
  match String.ofList path with
  | "/api/v1/gcode" =>
      if r.method == "POST" then return .execute (← r.commandLine) else throw .wrongMethod
  | "/api/v1/objects/query" =>
      if r.isGet then return .query (← objectNames query) else throw .wrongMethod
  | "/api/v1/objects/list" => if r.isGet then return .list else throw .wrongMethod
  | _ => throw .notFound

end Request

end HeaterHost.Web
