import HeaterHost.Host.Schedule
import HeaterHost.Web.Request

/-!
Answering the requests of the web interface. A request that asks for something is answered with
JSON, whatever comes of it; a refused one only with its status.
-/

namespace HeaterHost.Web

structure Response where
  status : Nat
  body : Option Value := none

def Response.ofField (name : String) (value : Value) : Response :=
  { status := 200, body := some (.record [(name, value)]) }

def Response.ofError (status : Nat) (message : String) : Response :=
  { status, body := some (.record [("error", .text message)]) }

def Response.unattended : Response :=
  .ofError 500 "Internal error"

variable {ω : Type} [Transport ω]

def Call.answer (s : Schedule ω) : Call → Schedule ω × Response
  | .execute line =>
      match s.execute line with
      | (s, .ok text) => (s, .ofField "result" (.text text))
      | (s, .error error) => (s, .ofError 409 error.message)
  | .query names => (s, .ofField "status" (s.host.query names (Instant.seconds s.now)))
  | .list => (s, .ofField "objects" (.texts s.host.objects.names))

/-- Answers a request, of which the body may not be wanted. While the host is not attended, calls
have no effect. -/
def Request.serve (r : Request) (isAttended : Bool) (s : Schedule ω) : Schedule ω × Response :=
  let (s, response) : Schedule ω × Response := match r.call with
    | .error refusal => (s, { status := refusal.status })
    | .ok call => if isAttended then call.answer s else (s, .unattended)
  (s, if r.isHead then { response with body := none } else response)

end HeaterHost.Web
