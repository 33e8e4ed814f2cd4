import DeviceConsole.Backend.Exchange
import DeviceConsole.Client.Error
import DeviceConsole.Json.Reader
import DeviceConsole.Text.Blank
import DeviceConsole.Wire.Credential
import DeviceConsole.Wire.Device
import DeviceConsole.Wire.Discovery
import DeviceConsole.Wire.Query

/-! The client of the backend: its endpoints, and how an answer becomes a value or an error. -/
namespace DeviceConsole

/-- The base ends in `/api/`. -/
structure Client where
  base : Url
deriving DecidableEq, Repr

namespace Client

/-- The path without trailing slashes, then `/api/` once. -/
def apiPath (path : String) : String :=
  let trimmed := Text.dropEndWhile (· = '/') path.toList
  let api := "/api".toList
  if api.isSuffixOf trimmed then String.ofList trimmed ++ "/"
  else String.ofList trimmed ++ "/api/"

def normalizeBase (u : Url) : Url := u.setPath (apiPath u.path)

def ofServer (server : String) : Except RequestError Client :=
  match Url.parse server with
  | .ok u => .ok ⟨normalizeBase u⟩
  | .error e => .error (.invalidUrl e)

/-- Credentials of the base go out as a header, not in the address. -/
def request (c : Client) (method : Method) (endpoint : String) (body : Option Json := none) :
    Except RequestError Request :=
  match c.base.join endpoint with
  | .ok u => .ok { method, url := { u with userinfo := "" }, body }
  | .error e => .error (.invalidUrl e)

/-! ### Answers -/

/-- At most the first 200 characters. -/
def preview (body : String) : String := String.ofList (body.toList.take 200)

def undecodable {α : Type} (reason body : String) : Except RequestError α :=
  .error (.undecodable (reason ++ " (body preview: " ++ Text.quote (preview body) ++ ")") body)

/-- A blank body reads as `null`. -/
def readBody {α : Type} (want : Json.Want) (decode : Json → Option α) (body : String) :
    Except RequestError α :=
  match Json.read want (if (Text.trim body).isEmpty then "null" else body) with
  | .error reason => undecodable reason body
  | .ok j =>
      match decode j with
      | some a => .ok a
      | none => undecodable "data of another shape" body

/-- The message an error body carries: its `error`, or else its `message`. -/
def errorMessage? (body : String) : Option String := do
  let want : Json.Want := .record [("error", .all), ("message", .all)]
  let j ← (Json.read want body).toOption
  match ← j.record? ["error", "message"] with
  | [error, message] =>
      let error ← Json.withDefault? (Json.toOption? Json.toText?) none error
      let message ← Json.withDefault? (Json.toOption? Json.toText?) none message
      error.or message
  | _ => none

/-- An error body that says nothing is replaced by its beginning, an empty one by the status. -/
def statusError (code : Nat) (body : String) : RequestError :=
  .status code
    ((errorMessage? body).getD (if body.isEmpty then Status.line code else preview body))

/-- The value an outcome stands for; `read` takes the body of a success. -/
def interpret {α : Type} (read : String → Except RequestError α) (q : Request) :
    Outcome → Except RequestError α
  | .answer code body => if Status.isSuccess code then read body else .error (statusError code body)
  | .refused => .error (.connection { ConnectionFault.sending q.url with refused := true } q.url)
  | .dropped => .error (.connection (.sending q.url) q.url)
  | .timedOut => .error (.connection { ConnectionFault.sending q.url with timedOut := true } q.url)

def call {α : Type} (c : Client) (read : String → Except RequestError α) (method : Method)
    (endpoint : String) (body : Option Json := none) : Call RequestError α := do
  let q ← Call.ofExcept (c.request method endpoint body)
  ExceptT.mk ((interpret read q) <$> Exchange.send q)

/-- The body of a success is not looked at. -/
def ignoreBody (_ : String) : Except RequestError Unit := .ok ()

/-- The rows under one field of an object; a missing object, field or list has none. -/
def readRows {α : Type} (name : String) (fields : List String) (decode : Json → Option α) :
    String → Except RequestError (List α) :=
  let row : Json.Want := .record (fields.map fun f => (f, .all))
  readBody (.record [(name, .items row)]) fun j => do
    let list ← Json.toOption? (fun j => do
      match ← j.record? [name] with
      | [rows] =>
          Json.withDefault? (Json.toOption? (Json.toList? decode)) none rows
      | _ => none) j
    some ((list.join).getD [])

/-! ### Endpoints -/

def listDevices (c : Client) : Call RequestError (List DeviceRow) :=
  c.call (readRows "devices" DeviceRow.fields DeviceRow.ofJson?) .get "devices"

/-- Flips the provisioning state of every listed device. -/
def updateProvisioning (c : Client) (body : ProvisionBody) : Call RequestError Unit :=
  c.call ignoreBody .put "devices/update-provisioning" (some body.toJson)

def listCredentials (c : Client) : Call RequestError (List CredentialProfile) :=
  c.call (readRows "profiles" CredentialProfile.fields CredentialProfile.ofJson?) .get
    "credential-profiles"

def createCredential (c : Client) (draft : CredentialDraft) : Call RequestError Unit :=
  c.call ignoreBody .post "credential-profiles" (some draft.toJson)

def updateCredential (c : Client) (id : Int64) (draft : CredentialDraft) :
    Call RequestError Unit :=
  c.call ignoreBody .put s!"credential-profiles/{id}" (some draft.toJson)

def deleteCredential (c : Client) (id : Int64) : Call RequestError Unit :=
  c.call ignoreBody .delete s!"credential-profiles/{id}"

def listDiscovery (c : Client) : Call RequestError (List DiscoveryRow) :=
  c.call (readRows "profiles" DiscoveryRow.fields DiscoveryRow.ofJson?) .get "discovery-profiles"

def createDiscovery (c : Client) (body : DiscoveryBody) : Call RequestError Unit :=
  c.call ignoreBody .post "discovery-profiles" (some body.toJson)

def updateDiscovery (c : Client) (id : Int64) (body : DiscoveryBody) : Call RequestError Unit :=
  c.call ignoreBody .put s!"discovery-profiles/{id}" (some body.toJson)

def deleteDiscovery (c : Client) (id : Int64) : Call RequestError Unit :=
  c.call ignoreBody .delete s!"discovery-profiles/{id}"

def runDiscovery (c : Client) (id : Int64) : Call RequestError Unit :=
  c.call ignoreBody .get s!"discovery-profiles/{id}/run-discovery"

/-- The body of a counter query's answer, as a value. -/
def readQuery : String → Except RequestError Json :=
  readBody .all fun j => some j.canonical

def queryRequest (c : Client) (body : QueryBody) : Except RequestError Request :=
  c.request .post "query" (some body.toJson)

def query (c : Client) (body : QueryBody) : Call RequestError Json :=
  c.call readQuery .post "query" (some body.toJson)

end Client
end DeviceConsole
