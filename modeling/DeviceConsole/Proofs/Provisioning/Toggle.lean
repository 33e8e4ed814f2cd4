import DeviceConsole.Proofs.Client.Refusal
import DeviceConsole.Proofs.Console.Devices
import DeviceConsole.Proofs.Provisioning.Submit
import DeviceConsole.Proofs.Target.Arguments

/-! Toggling devices from the command line. A flip that is sent twice undoes itself, so what goes
out is a set: every address that is named, or every address that is listed, once. -/
namespace DeviceConsole

open CommandError (ofConsole)

/-! ### What is selected -/

namespace Selection

/-- Addresses that are not ticked yet are all ticked by toggling each of them once. -/
theorem mem_foldl_toggle {as : List Address} (hd : as.Nodup) {s : Selection}
    (hs : ∀ a ∈ as, s.contains a = false) (x : Address) :
    x ∈ (as.foldl toggle s).selected ↔ x ∈ as ∨ x ∈ s.selected := by
  induction as generalizing s with
  | nil => simp
  | cons a as ih =>
    obtain ⟨hnew, hd⟩ := List.nodup_cons.mp hd
    have htoggle (y : Address) := mem_toggle_of_not_contains (x := y) (hs a List.mem_cons_self)
    have hrest : ∀ b ∈ as, (s.toggle a).contains b = false := by
      intro b hb
      have hs' := hs b (List.mem_cons_of_mem a hb)
      refine Bool.eq_false_iff.mpr fun h => ?_
      rcases (htoggle b).mp (mem_iff.mp h) with rfl | h
      · exact hnew hb
      · rw [mem_iff.mpr h] at hs'
        cases hs'
    rw [List.foldl_cons, ih hd hrest, htoggle, List.mem_cons]
    tauto

theorem foldl_toggle_empty (set : AddressSet) : set.elems.foldl toggle .empty = ⟨set⟩ := by
  have hset : (set.elems.foldl toggle .empty).selected = set := AddressSet.ext_mem fun a => by
    rw [mem_foldl_toggle set.nodup fun _ _ => rfl]
    exact or_iff_left List.not_mem_nil
  exact congrArg Selection.mk hset

/-- The checkbox above an unticked table ticks all of it. -/
theorem toggleAll_empty (devices : List Address) :
    empty.toggleAll devices = ⟨.ofList devices⟩ := by
  have hsize : empty.size = 0 := rfl
  have hall : ¬ empty.isAll devices.length = true := by
    simp only [isAll, hsize, Bool.and_eq_true, decide_eq_true_eq]
    omega
  rw [toggleAll, if_neg hall, selectAll]

end Selection

/-! ### What is sent -/

namespace Console

variable {c : Console} {rows : List DeviceRow} {o : Outcome}

/-- The request flips the addresses with a property, each once and in ascending order. -/
structure Flips (c : Console) (q : Request) (P : Address → Prop) : Prop where
  asksFor : c.client.AsksFor q .put "devices/update-provisioning"
  sends : ∃ sent : List Address,
    q.body = some (.obj [("provision_update_ips", .arr (sent.map fun a => .int a.toNat))]) ∧
      sent.Pairwise (· < ·) ∧ ∀ a, a ∈ sent ↔ P a

theorem flips_flipRequest (c : Console) {set : AddressSet} {P : Address → Prop}
    (h : ∀ a, a ∈ set ↔ P a) : c.Flips (c.flipRequest set.elems) P where
  asksFor := c.flipRequest_asksFor _
  sends := ⟨set.elems, c.flipRequest_body _, set.ascending, h⟩

/-- The rows an outcome of the listing stands for. -/
def deviceRows (c : Console) (o : Outcome) : Except ConsoleError (List DeviceRow) :=
  Client.rowsOf c.listRequest "devices" DeviceRow.fields DeviceRow.ofJson? o

/-- The address is spelled in one of the rows. -/
def Listed (rows : List DeviceRow) (a : Address) : Prop := ∃ row ∈ rows, row.ip.Spells a

theorem listed_eq (c : Console) (o : Outcome) : c.listed o = (c.deviceRows o).map devicesOf := rfl

theorem mem_addresses_devicesOf {a : Address} :
    a ∈ (devicesOf rows).map (·.address) ↔ Listed rows a := by
  simp only [devicesOf, Device.sort, List.mem_map, List.mem_mergeSort, List.mem_filterMap, Listed,
    DeviceRow.toDevice_toOption_iff]
  constructor
  · rintro ⟨d, ⟨row, hrow, hd⟩, rfl⟩
    exact ⟨row, hrow, hd.spelled⟩
  · rintro ⟨row, hrow, ha⟩
    exact ⟨⟨a, row.credentialId, row.provisioned⟩, ⟨row, hrow, ha, rfl, rfl⟩, rfl⟩

end Console

namespace BackendCommand

variable {c : Console} {g : GlobalOptions}

/-- An empty selection is an error before anything is asked or sent. -/
theorem flip_nothing {s : Selection} (h : s.isEmpty = true) :
    (flip c g s).run = .done (.error (ofConsole .nothingSelected)) := by
  have hreq : s.request = .error .nothingSelected := if_pos h
  rw [flip, hreq]
  rfl

/-- What the operator is told once a flip has been answered. -/
def flipReport (c : Console) (g : GlobalOptions) (sent : List Address) (o : Outcome) :
    Except CommandError Report :=
  ((c.flipped sent o).mapError ofConsole).map fun _ => g.note (provisioningNote sent.length)

/-- Any other selection goes out in one flip where the operator agrees. -/
theorem flip_sends (hbase : c.client.base.isOpaque = false) (hyes : g.yes = true) {s : Selection}
    (hs : s.isEmpty = false) :
    (flip c g s).run = .ask (c.flipRequest s.selected.elems) fun o =>
      .done (flipReport c g s.selected.elems o) := by
  have hreq : s.request = .ok s.selected.elems := by rw [Selection.request, hs]; rfl
  have hconfirm : g.confirm = .ok () := if_pos hyes
  have hsubmit : (ExceptT.mk ((·.1) <$> c.submitProvisioning s)).run =
      .ask (c.flipRequest s.selected.elems) fun o =>
        .done ((c.flipped s.selected.elems o).map fun _ => s.selected.elems.length) := by
    rw [ExceptT.run_mk, Console.submitProvisioning_run hbase hs, Exchange.map_ask]
    congr
    funext o
    rw [Exchange.map_done]
    cases c.flipped s.selected.elems o <;> rfl
  rw [flip, hreq, hconfirm]
  change (ask (ExceptT.mk ((·.1) <$> c.submitProvisioning s)) >>= _).run = _
  rw [ExceptT.run_bind, ask_run hsubmit, Exchange.ask_bind]
  congr
  funext o
  rw [Exchange.done_bind, flipReport]
  cases c.flipped s.selected.elems o <;> rfl

/-! ### Commands -/

variable {args : List String} {now : Int64}

theorem toggleDevices_run_error {e : CommandError} (h : addressesOf args = .error e) :
    ((toggleDevices args).run c g now).run = .done (.error e) := by
  simp only [BackendCommand.run, h]
  rfl

theorem toggleDevices_run_ok {set : AddressSet} (h : addressesOf args = .ok set.elems) :
    ((toggleDevices args).run c g now).run = (flip c g ⟨set⟩).run := by
  rw [← Selection.foldl_toggle_empty]
  simp only [BackendCommand.run, h]
  rfl

theorem toggleAllDevices_run (hbase : c.client.base.isOpaque = false) :
    (toggleAllDevices.run c g now).run = .ask c.listRequest fun o =>
      match c.listed o with
      | .error e => .done (.error (ofConsole e))
      | .ok devices => (flip c g ⟨.ofList (devices.map (·.address))⟩).run := by
  simp only [BackendCommand.run]
  rw [ExceptT.run_bind, ask_run (Console.listDevices_run hbase), Exchange.ask_bind]
  congr
  funext o
  rw [Exchange.done_bind]
  cases c.listed o with
  | error e => rfl
  | ok devices => exact congrArg (fun s => (flip c g s).run) (Selection.toggleAll_empty _)

/-- A set of addresses goes out in one flip, and nothing goes out for an empty one. -/
theorem flip_set {σ : Type} (hbase : c.client.base.isOpaque = false) (hyes : g.yes = true)
    (set : AddressSet) (serve : Request → σ → Outcome × σ) (t : σ) :
    let r := (flip c g ⟨set⟩).run.run serve t
    ((∀ a, a ∉ set) → r = ⟨.error (ofConsole .nothingSelected), t, []⟩) ∧
      ((∃ a, a ∈ set) → r.requests = [c.flipRequest set.elems] ∧
        r.state = (serve (c.flipRequest set.elems) t).2) := by
  intro r
  constructor
  · intro hnone
    have hempty : (Selection.mk set).isEmpty = true :=
      Selection.isEmpty_iff.mpr (List.eq_nil_iff_forall_not_mem.mpr hnone)
    simp only [r, flip_nothing hempty, Exchange.run_done]
  · rintro ⟨a, ha⟩
    have hempty : (Selection.mk set).isEmpty = false :=
      Bool.eq_false_iff.mpr fun h => List.ne_nil_of_mem ha (Selection.isEmpty_iff.mp h)
    simp only [r, flip_sends hbase hyes hempty, Exchange.run_ask, Exchange.run_done]
    trivial

section Listing

variable {σ : Type} {serve : Request → σ → Outcome × σ} {t : σ} {rows : List DeviceRow}

/-- A listing that fails is the end of it. -/
theorem toggleAllDevices_unlisted (hbase : c.client.base.isOpaque = false) {e : ConsoleError}
    (he : c.deviceRows (serve c.listRequest t).1 = .error e) :
    (toggleAllDevices.run c g now).run.run serve t =
      ⟨.error (ofConsole e), (serve c.listRequest t).2, [c.listRequest]⟩ := by
  have hlisted : c.listed (serve c.listRequest t).1 = .error e := by
    rw [Console.listed_eq, he]
    rfl
  simp only [toggleAllDevices_run hbase, Exchange.run_ask]
  rw [hlisted, Exchange.run_done]

/-- Behind a listing all that can be read in it is flipped. -/
theorem toggleAllDevices_listed (hbase : c.client.base.isOpaque = false)
    (hrows : c.deviceRows (serve c.listRequest t).1 = .ok rows) :
    (toggleAllDevices.run c g now).run.run serve t =
      let set := AddressSet.ofList ((Console.devicesOf rows).map (·.address))
      let r := (flip c g ⟨set⟩).run.run serve (serve c.listRequest t).2
      ⟨r.value, r.state, c.listRequest :: r.requests⟩ := by
  have hlisted : c.listed (serve c.listRequest t).1 = .ok (Console.devicesOf rows) := by
    rw [Console.listed_eq, hrows]
    rfl
  simp only [toggleAllDevices_run hbase, Exchange.run_ask]
  rw [hlisted]

end Listing

open Arguments

theorem addressesOf_eq {others : List String} (h : parts others = parts args ∨
    malformed others = [] ∧ malformed args = [] ∧ ∀ a, Named others a ↔ Named args a) :
    addressesOf others = addressesOf args := by
  rcases h with hparts | ⟨hothers, hargs, hnamed⟩
  · exact addressesOf_congr (by rw [malformed, malformed, hparts])
      fun _ a => by rw [Named, Named, hparts]
  · exact addressesOf_congr (hothers.trans hargs.symm) fun _ => hnamed

/-- Toggling devices by name, with the question answered beforehand: malformed parts fail the
command with all of them in order, and so do arguments that name no address, both before anything
is sent. Otherwise one flip of the set of named addresses goes out, and arguments of the same parts,
or of parts that name the same addresses, come to the same. Toggling all of them flips the set of
the listed addresses that can be read, behind the listing, or fails without a flip. -/
theorem toggle_run {σ : Type} (hbase : c.client.base.isOpaque = false) (hyes : g.yes = true)
    (now : Int64) (args : List String) (serve : Request → σ → Outcome × σ) (t : σ) :
    let run (command : BackendCommand) := (command.run c g now).run.run serve t
    let listing := serve c.listRequest t
    ((malformed args ≠ [] → run (.toggleDevices args) =
        ⟨.error (.invalidValue "targets"
          ("Invalid IP address format: " ++ ", ".intercalate (malformed args))), t, []⟩) ∧
      (malformed args = [] → (∀ a, ¬ Named args a) → run (.toggleDevices args) =
        ⟨.error (.invalidValue "devices" "at least one device address is required"), t, []⟩) ∧
      (malformed args = [] → (∃ a, Named args a) → ∃ q, c.Flips q (Named args) ∧
        (run (.toggleDevices args)).requests = [q] ∧
        (run (.toggleDevices args)).state = (serve q t).2) ∧
      ∀ others, parts others = parts args ∨ malformed others = [] ∧ malformed args = [] ∧
        (∀ a, Named others a ↔ Named args a) →
          run (.toggleDevices others) = run (.toggleDevices args)) ∧
    (∀ e, c.deviceRows listing.1 = .error e →
      run .toggleAllDevices = ⟨.error (ofConsole e), listing.2, [c.listRequest]⟩) ∧
    ∀ rows, c.deviceRows listing.1 = .ok rows →
      ((∀ a, ¬ Console.Listed rows a) → run .toggleAllDevices =
        ⟨.error (ofConsole .nothingSelected), listing.2, [c.listRequest]⟩) ∧
      ((∃ a, Console.Listed rows a) → ∃ q, c.Flips q (Console.Listed rows) ∧
        (run .toggleAllDevices).requests = [c.listRequest, q] ∧
        (run .toggleAllDevices).state = (serve q listing.2).2) := by
  intro run listing
  refine ⟨⟨fun hm => ?_, fun hm hnone => ?_, fun hm hsome => ?_, fun others hsame => ?_⟩, ?_, ?_⟩
  · simp only [run, toggleDevices_run_error (addressesOf_malformed hm), Exchange.run_done]
  · simp only [run, toggleDevices_run_error (addressesOf_none hm hnone), Exchange.run_done]
  · obtain ⟨set, hset, hmem⟩ := addressesOf_named hm hsome
    obtain ⟨-, hflip⟩ := flip_set hbase hyes set serve t
    simp only [run, toggleDevices_run_ok hset]
    exact ⟨_, c.flips_flipRequest hmem, hflip (hsome.imp fun a => (hmem a).mpr)⟩
  · simp only [run, BackendCommand.run, addressesOf_eq hsame]
  · exact fun e he => toggleAllDevices_unlisted hbase he
  · intro rows hrows
    have hmem (a : Address) : a ∈ AddressSet.ofList ((Console.devicesOf rows).map (·.address)) ↔
        Console.Listed rows a := AddressSet.mem_ofList.trans Console.mem_addresses_devicesOf
    obtain ⟨hnothing, hflip⟩ := flip_set hbase hyes _ serve listing.2
    simp only [run, toggleAllDevices_listed hbase hrows]
    constructor
    · intro hnone
      rw [hnothing fun a => mt (hmem a).mp (hnone a)]
    · intro hsome
      obtain ⟨hrequests, hstate⟩ := hflip (hsome.imp fun a => (hmem a).mpr)
      exact ⟨_, c.flips_flipRequest hmem, congrArg _ hrequests, hstate⟩

/-- Two devices, one of them named twice and the other with zeros in front; and a listing with a
row twice and one that cannot be read. -/
theorem toggle_run_padded :
    let args := ["10.0.0.2, 010.0.00.1", " ", "10.0.0.2"]
    let others := ["10.0.0.2", " 010.0.00.1, ,10.0.0.2"]
    let rows : List DeviceRow :=
      [⟨.packed 7, none, true⟩, ⟨.text "x", none, true⟩, ⟨.packed 7, none, true⟩]
    let body := (deviceList rows).compact
    let serve : Request → Unit → Outcome × Unit := fun _ u => (.answer 200 body, u)
    let run (command : BackendCommand) :=
      (command.run Console.ofBackend { yes := true } 0).run.run serve ()
    (∃ q, Console.ofBackend.Flips q (Named args) ∧ (run (.toggleDevices args)).requests = [q]) ∧
      run (.toggleDevices others) = run (.toggleDevices args) ∧
      ∃ q, Console.ofBackend.Flips q (Console.Listed rows) ∧
        (run .toggleAllDevices).requests = [Console.ofBackend.listRequest, q] := by
  intro args others rows body serve run
  have hbase : Console.ofBackend.client.base.isOpaque = false := rfl
  have hyes : ({ yes := true } : GlobalOptions).yes = true := rfl
  have hrows : Console.ofBackend.deviceRows (.answer 200 body) = .ok rows := by
    rw [Console.deviceRows, Client.rowsOf, Client.interpret_answer (by decide),
      Client.readRows_deviceList]
    rfl
  obtain ⟨⟨-, -, hnamed, hsame⟩, -, hall⟩ := toggle_run hbase hyes 0 args serve ()
  obtain ⟨q, hflips, hsent, -⟩ := hnamed (by decide)
    ⟨⟨0x0A000002⟩, "10.0.0.2".toList, by decide, Address.spelledBy_iff.mpr (by decide)⟩
  obtain ⟨q', hflips', hsent', -⟩ := (hall rows hrows).2
    ⟨⟨7⟩, _, List.mem_cons_self, .packed⟩
  exact ⟨⟨q, hflips, hsent⟩, hsame others (.inl (by decide)), q', hflips', hsent'⟩

end BackendCommand
end DeviceConsole
