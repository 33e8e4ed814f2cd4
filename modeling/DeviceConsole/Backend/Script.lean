import DeviceConsole.Backend.Exchange
import DeviceConsole.Json.Decode

/-! Backends that follow a script: a list of routes, of which the first that fits a request
answers it. -/
namespace DeviceConsole

structure Route where
  method : String
  path : String
  /-- The counter a query has to be for. -/
  counter : Option Int := none
  reply : Outcome
  /-- The route is gone once it has been used. -/
  once : Bool := false
deriving Repr

namespace Route

def fits (r : Route) (q : Request) : Bool :=
  r.method = q.method.text && r.path = q.url.path &&
    match r.counter, q.body.bind (Json.field? "counter_id") with
    | none, _ => true
    | some n, some (.int i) => n = i
    | some _, _ => false

end Route

namespace Script

def noRoute : Outcome := .answer 404 "no route"

/-- The reply of the first route that fits, and the routes that stay. -/
def serve (q : Request) : List Route → Outcome × List Route
  | [] => (noRoute, [])
  | r :: rs =>
      if r.fits q then (r.reply, if r.once then rs else r :: rs)
      else
        let (o, rest) := serve q rs
        (o, r :: rest)

end Script

/-- A backend is a script, or nothing that listens. -/
inductive Backend where
  | down
  | scripted (routes : List Route)
deriving Repr

def Backend.serve (q : Request) : Backend → Outcome × Backend
  | down => (.refused, down)
  | scripted routes =>
      let (o, routes) := Script.serve q routes
      (o, scripted routes)

end DeviceConsole
