import DeviceConsole.Console
import DeviceConsole.Proofs.Backend.Run
import DeviceConsole.Proofs.Url.Endpoint

/-! Bringing devices to a state, as a conversation: one listing, then at most one flip. What is
flipped depends on the listing alone. -/
namespace DeviceConsole

namespace Console

def listRequest (c : Console) : Request :=
  { method := .get, url := c.client.endpoint "devices" }

def flipRequest (c : Console) (addresses : List Address) : Request :=
  { method := .put, url := c.client.endpoint "devices/update-provisioning"
    body := some (ProvisionBody.ofAddresses addresses).toJson }

/-- The devices an outcome of the listing stands for. -/
def listed (c : Console) (o : Outcome) : Except ConsoleError (List Device) :=
  ((Client.interpret (Client.readRows "devices" DeviceRow.fields DeviceRow.ofJson?) c.listRequest
    o).mapError RequestError.toConsoleError).map devicesOf

/-- Whether an outcome of a flip is a success. -/
def flipped (c : Console) (addresses : List Address) (o : Outcome) : Except ConsoleError Unit :=
  (Client.interpret Client.ignoreBody (c.flipRequest addresses) o).mapError
    RequestError.toConsoleError

/-- What is left to do once the devices are known. -/
def settleListed (c : Console) (addresses : List Address) (provisioned : Bool)
    (devices : List Device) : Exchange (Except ConsoleError Nat) :=
  match selectChanging devices provisioned .empty addresses with
  | .error e => .done (.error e)
  | .ok s =>
      if s.isEmpty then .done (.ok 0)
      else
        .ask (c.flipRequest s.selected.elems) fun o =>
          .done ((c.flipped s.selected.elems o).map fun _ => s.selected.elems.length)

/-- How a call goes on once its listing is answered. -/
def heard (c : Console) (addresses : List Address) (provisioned : Bool) (o : Outcome) :
    Exchange (Except ConsoleError Nat) :=
  match c.listed o with
  | .error e => .done (.error e)
  | .ok devices => c.settleListed addresses provisioned devices

/-- A single request whose failure is told to the operator. -/
theorem lift_run {α : Type} {x : Call RequestError α} {q : Request}
    {answer : Outcome → Except RequestError α} (hx : x.run = .ask q fun o => .done (answer o)) :
    (lift x).run = .ask q fun o => .done ((answer o).mapError RequestError.toConsoleError) := by
  change Except.mapError RequestError.toConsoleError <$> x.run = _
  rw [hx]
  rfl

/-- A call that sends nothing. -/
theorem lift_run_done {α : Type} {x : Call RequestError α} {v : Except RequestError α}
    (hx : x.run = .done v) : (lift x).run = .done (v.mapError RequestError.toConsoleError) := by
  change Except.mapError RequestError.toConsoleError <$> x.run = _
  rw [hx]
  rfl

theorem listDevices_run {c : Console} (h : c.client.base.isOpaque = false) :
    c.listDevices.run = .ask c.listRequest fun o => .done (c.listed o) := by
  have hlift : (lift c.client.listDevices).run = _ := lift_run (Client.call_run h _ _ _ _)
  rw [listDevices, ExceptT.run_map, hlift]
  rfl

theorem flip_run {c : Console} (h : c.client.base.isOpaque = false) (addresses : List Address) :
    (lift (c.client.updateProvisioning (.ofAddresses addresses))).run =
      .ask (c.flipRequest addresses) fun o => .done (c.flipped addresses o) :=
  lift_run (Client.call_run h _ _ _ _)

/-- The selection goes out in one flip, and only a success empties it. -/
theorem submitProvisioning_run {c : Console} (h : c.client.base.isOpaque = false) {s : Selection}
    (hs : s.isEmpty = false) :
    c.submitProvisioning s = .ask (c.flipRequest s.selected.elems) fun o =>
      .done (match c.flipped s.selected.elems o with
        | .ok () => (.ok s.selected.elems.length, .empty)
        | .error e => (.error e, s)) := by
  have hreq : s.request = .ok s.selected.elems := by rw [Selection.request, hs]; rfl
  rw [submitProvisioning, hreq]
  dsimp only
  rw [flip_run h, Exchange.ask_bind]
  congr
  funext o
  rw [Exchange.done_bind]
  cases c.flipped s.selected.elems o <;> rfl

theorem setProvisioned_run {c : Console} (h : c.client.base.isOpaque = false)
    (addresses : List Address) (provisioned : Bool) :
    (c.setProvisioned addresses provisioned).run =
      .ask c.listRequest (c.heard addresses provisioned) := by
  rw [setProvisioned, ExceptT.run_bind, listDevices_run h, Exchange.ask_bind]
  congr
  funext o
  rw [Exchange.done_bind, heard]
  cases c.listed o with
  | error e => rfl
  | ok devices =>
    dsimp only
    unfold settleListed
    rw [ExceptT.run_bind]
    change (Exchange.done (selectChanging devices provisioned .empty addresses) >>= _) = _
    rw [Exchange.done_bind]
    cases selectChanging devices provisioned .empty addresses with
    | error e => rfl
    | ok s =>
      dsimp only
      split
      · rfl
      · rename_i hs
        rw [ExceptT.run_mk, submitProvisioning_run h (by simpa using hs), Exchange.map_ask]
        congr
        funext o
        rw [Exchange.map_done]
        cases c.flipped s.selected.elems o <;> rfl

end Console
end DeviceConsole
