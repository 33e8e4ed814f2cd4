import DeviceConsole.Json.Basic
import DeviceConsole.Url.Basic

/-! Conversations with a backend: a program that sends requests and goes on with what comes back.
What a backend does with a request is left to the one who runs the program. -/
namespace DeviceConsole

inductive Method where
  | get | post | put | delete
deriving DecidableEq, Repr

def Method.text : Method → String
  | get => "GET"
  | post => "POST"
  | put => "PUT"
  | delete => "DELETE"

structure Request where
  method : Method
  url : Url
  body : Option Json := none
deriving Repr

/-- What comes back: an answer with its status, or a connection that is refused, closed without an
answer, or silent for too long. An answer is the last one, which is left once all redirects have
been followed; to do that is up to whoever sends the request. -/
inductive Outcome where
  | answer (status : Nat) (body : String)
  | refused
  | dropped
  | timedOut
deriving DecidableEq, Repr, Inhabited

/-- A program over requests. Two requests sent together are both answered before it goes on, in
whichever order. -/
inductive Exchange (α : Type) where
  | done (value : α)
  | ask (request : Request) (next : Outcome → Exchange α)
  | askBoth (first second : Request) (next : Outcome → Outcome → Exchange α)

namespace Exchange

def bind {α β : Type} (x : Exchange α) (f : α → Exchange β) : Exchange β :=
  match x with
  | done value => f value
  | ask request next => ask request fun o => (next o).bind f
  | askBoth first second next => askBoth first second fun o p => (next o p).bind f

instance : Monad Exchange where
  pure := done
  bind := bind

def send (request : Request) : Exchange Outcome := ask request done

/-- The value a program ends with, the backend's last state, and the requests in order. -/
structure Run (σ α : Type) where
  value : α
  state : σ
  requests : List Request

/-- Runs a program against a backend that answers each request and may change its state. -/
def run {σ α : Type} (serve : Request → σ → Outcome × σ) : Exchange α → σ → Run σ α
  | done value, s => { value, state := s, requests := [] }
  | ask request next, s =>
      let (o, s) := serve request s
      let r := run serve (next o) s
      { r with requests := request :: r.requests }
  | askBoth first second next, s =>
      let (o, s) := serve first s
      let (p, s) := serve second s
      let r := run serve (next o p) s
      { r with requests := first :: second :: r.requests }

end Exchange

abbrev Call (ε α : Type) := ExceptT ε Exchange α

/-- Goes on only where no failure came before. -/
def Call.ofExcept {ε α : Type} (x : Except ε α) : Call ε α := ExceptT.mk (.done x)

end DeviceConsole
