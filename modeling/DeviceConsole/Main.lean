import DeviceConsole.Command.Respond
import DeviceConsole.Http
import Std.Async.DNS
import Std.Async.TCP
import Std.Async.Timer

/-! The program: words, environment and settings file go in, texts and an exit code come out. -/
namespace DeviceConsole.Program
open Std.Async

/-! ### Talking to a backend -/

partial def receive (socket : TCP.Socket.Client) (received : ByteArray) : Async ByteArray := do
  match ← socket.recv? 65536 with
  | some bytes => receive socket (received ++ bytes)
  | none => return received

def socketAddress (port : UInt16) : Std.Net.IPAddr → Std.Net.SocketAddress
  | .v4 addr => .v4 { addr, port }
  | .v6 addr => .v6 { addr, port }

def connected? (q : Request) : Async (Option TCP.Socket.Client) := do
  try
    let host := q.url.host.getD ""
    let port := q.url.port.getD 80
    match (← DNS.getAddrInfo host (toString port))[0]? with
    | none => return none
    | some found =>
        let socket ← TCP.Socket.Client.mk
        socket.connect (socketAddress (UInt16.ofNat port) found)
        return some socket
  catch _ => return none

/-- Only plain connections are made: a server behind TLS counts as refusing them. -/
def converse (q : Request) : Async Outcome := do
  if q.url.scheme ≠ "http" then return .refused
  match ← connected? q with
  | none => return .refused
  | some socket =>
      try
        socket.send (Http.requestText q).toUTF8
        let received ← receive socket .empty
        return (String.fromUTF8? received >>= Http.answer?).getD .dropped
      catch _ => return .dropped

def limited (seconds : UInt64) (x : Async Outcome) : Async Outcome :=
  Async.race x do
    sleep (.ofNat (1000 * seconds.toNat))
    return .timedOut

/-- Requests that go out together are sent one after the other. -/
def carryOut {α : Type} (send : Request → Async Outcome) : Exchange α → Async α
  | .done value => return value
  | .ask q next => do carryOut send (next (← send q))
  | .askBoth p q next => do
      let o ← send p
      carryOut send (next o (← send q))

/-! ### Files and environment -/

def textOf (path : String) : IO (Except String String) := do
  try
    return .ok (← IO.FS.readFile path)
  catch e => return .error (toString e)

/-- Name and value of each variable of this process. -/
def processEnvironment : IO (List (String × String)) := do
  match ← textOf "/proc/self/environ" with
  | .error _ => return []
  | .ok text =>
      return (text.splitOn "\x00").filterMap fun entry =>
        match entry.splitOn "=" with
        | name :: value@(_ :: _) => some (name, "=".intercalate value)
        | _ => none

def settingsFolder (environment : List (String × String)) : String :=
  let home := (environment.lookup "HOME").getD "." ++ "/.config"
  let base := match environment.lookup "XDG_CONFIG_HOME" with
    | some path => if path.startsWith "/" then path else home
    | none => home
  base ++ "/nmsops"

def surroundings (words : List String) (folder : String) (environment : List (String × String)) :
    IO Surroundings := do
  let settingsPath := folder ++ "/config.toml"
  let settingsFile := (← textOf settingsPath).toOption
  let now ← Std.Time.Timestamp.now
  let w : Surroundings :=
    { environment, settingsPath, settingsFile, files := fun path => .error path
      now := Int64.ofInt now.toSecondsSinceUnixEpoch.val }
  match CommandLine.certificatePath? w words with
  | none => return w
  | some path =>
      let certificate ← textOf path
      return { w with files := fun _ => certificate }

/-! ### Ending -/

def complain (r : Report) : IO Unit := do
  match r.failure with
  | none => return
  | some e =>
      IO.eprintln ("Error: " ++ e.message)
      match e.help with
      | some help => IO.eprintln ("  help: " ++ help)
      | none => return

/-- Puts a new text into the settings file. What the system has against it is the failure then. -/
def writeSettings (folder : String) (r : Report) : IO Report := do
  match r.settingsFile with
  | none => return r
  | some text =>
      try
        IO.FS.createDirAll folder
        IO.FS.writeFile (folder ++ "/config.toml") text
        return r
      catch e => return .failed (.ofSettings (.file (toString e)))

def finish (folder : String) (r : Report) : IO UInt32 := do
  let r ← writeSettings folder r
  IO.print r.shown
  IO.eprint r.notes
  complain r
  return r.exitCode.toUInt32

def run (words : List String) : IO UInt32 := do
  let environment ← processEnvironment
  let folder := settingsFolder environment
  let w ← surroundings words folder environment
  let send (q : Request) : Async Outcome := limited (CommandLine.timeout w words) (converse q)
  match ← (carryOut send (CommandLine.respond w words)).block with
  | some r => finish folder r
  | none =>
      IO.eprintln CommandLine.summary
      return 2

end DeviceConsole.Program

def main (words : List String) : IO UInt32 := DeviceConsole.Program.run words
