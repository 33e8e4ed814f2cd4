import DeviceConsole.Command.Respond
import DeviceConsole.Proofs.Credential.Alike
import DeviceConsole.Proofs.Provisioning.Serve
import DeviceConsole.Proofs.Text.Quoted

/-! Passwords in a listing of credential profiles, as a statement on two runs. Bodies that are the
same but for what stands under `password` show the same profiles; where they cannot be decoded, the
error shows the beginning of each body as it is. -/
namespace DeviceConsole

/-! ### Conversations -/

namespace Console

def credentialsRequest (c : Console) : Request :=
  { method := .get, url := c.client.endpoint "credential-profiles" }

theorem asksFor_credentialsRequest (c : Console) :
    Listing.asksFor c.credentialsRequest .get "credential-profiles" = true := by
  have h : ('/' :: "credential-profiles".toList) <:+ c.credentialsRequest.url.path.toList :=
    Client.Resource.credentials.suffix_endpoint c.client
  simpa [Listing.asksFor, credentialsRequest] using h

/-- The profiles an outcome stands for. -/
def credentialsListed (c : Console) (o : Outcome) : Except ConsoleError (List CredentialProfile) :=
  Client.rowsOf c.credentialsRequest "profiles" CredentialProfile.fields CredentialProfile.ofJson? o

theorem listCredentials_run {c : Console} (h : c.client.base.isOpaque = false) :
    c.listCredentials.run = .ask c.credentialsRequest fun o => .done (c.credentialsListed o) :=
  lift_run (Client.call_run h _ _ _ _)

theorem listCredentials_opaque {c : Console} (h : c.client.base.isOpaque = true) :
    c.listCredentials.run =
      .done (.error (RequestError.toConsoleError (.invalidUrl .relativeToOpaque))) :=
  lift_run_done (Client.call_run_opaque h _ _ _ _)

theorem credential_congr (j k : Json)
    (h : Json.record? CredentialProfile.fields j = Json.record? CredentialProfile.fields k) :
    CredentialProfile.ofJson? j = CredentialProfile.ofJson? k := by
  rw [CredentialProfile.ofJson?, CredentialProfile.ofJson?, h]

end Console

/-! ### Two runs -/

/-- A backend whose credential profiles are listed in a body of this value. -/
structure ListsCredentials {σ : Type} (serve : Request → σ → Outcome × σ) (body : String)
    (v : Json) : Prop where
  answers : ∀ q s, Listing.asksFor q .get "credential-profiles" = true →
    ∃ code, (serve q s).1 = .answer code body ∧ 200 ≤ code ∧ code < 300
  isJson : Json.read .all body = .ok v

namespace Report

@[simp] theorem shown_failed (e : CommandError) : (failed e).shown = "" := rfl

@[simp] theorem notes_failed (e : CommandError) : (failed e).notes = "" := rfl

@[simp] theorem failure_failed (e : CommandError) : (failed e).failure = some e := rfl

theorem failed_inj {e f : CommandError} : failed e = failed f ↔ e = f :=
  ⟨fun h => Option.some.inj (congrArg failure h), congrArg failed⟩

end Report

namespace Invocation

variable {w : Surroundings} {g : GlobalOptions} {c : Console} {body body₁ body₂ : String}
  {v v₁ v₂ : Json} {σ σ₁ σ₂ : Type} {serve : Request → σ → Outcome × σ}
  {serve₁ : Request → σ₁ → Outcome × σ₁} {serve₂ : Request → σ₂ → Outcome × σ₂}

/-- The listing, as it is asked for on the command line. -/
def listCredentials (g : GlobalOptions) : Invocation :=
  { options := g, command := .backend .listCredentials }

/-- The report of what the console gives. -/
def credentialsReport (g : GlobalOptions) (r : Except ConsoleError (List CredentialProfile)) :
    Report :=
  .ofExcept ((r.mapError .ofConsole).map fun ps => g.display (View.credentials ps))

theorem run_of_console (h : BackendCommand.console w g = .ok c) :
    (listCredentials g).run w = credentialsReport g <$> c.listCredentials.run := by
  have hmap : BackendCommand.listCredentials.run c g w.now =
      (fun ps => g.display (View.credentials ps)) <$> BackendCommand.ask c.listCredentials :=
    bind_pure_comp _ _
  change BackendCommand.listCredentials.report w g = _
  rw [BackendCommand.report, h]
  dsimp only
  rw [hmap, ExceptT.run_map]
  change _ <$> _ <$> Except.mapError CommandError.ofConsole <$> c.listCredentials.run = _
  simp only [Functor.map_map]
  rfl

/-- The command sends one request, and the report is made of what comes back. -/
def Asks (w : Surroundings) (g : GlobalOptions) (c : Console) : Prop :=
  (listCredentials g).run w = .ask c.credentialsRequest fun o =>
    .done (credentialsReport g (c.credentialsListed o))

theorem asks_of_console (h : BackendCommand.console w g = .ok c)
    (hbase : c.client.base.isOpaque = false) : Asks w g c := by
  rw [Asks, run_of_console h, Console.listCredentials_run hbase]
  rfl

/-- The command fails on its own or asks once. -/
theorem failed_or_asks (w : Surroundings) (g : GlobalOptions) :
    (∃ e, (listCredentials g).run w = .done (.failed e)) ∨ ∃ c, Asks w g c := by
  cases hconsole : BackendCommand.console w g with
  | error e =>
    refine .inl ⟨e, ?_⟩
    change BackendCommand.listCredentials.report w g = _
    rw [BackendCommand.report, hconsole]
  | ok c =>
    cases hbase : c.client.base.isOpaque with
    | true =>
      refine .inl ⟨.ofConsole (RequestError.toConsoleError (.invalidUrl .relativeToOpaque)), ?_⟩
      rw [run_of_console hconsole, Console.listCredentials_opaque hbase]
      rfl
    | false => exact .inr ⟨c, asks_of_console hconsole hbase⟩

/-- What is left behind of the profiles, or of a body that cannot be decoded. -/
def listingReport (g : GlobalOptions) (body : String) : Option (List CredentialProfile) → Report
  | some ps => g.display (View.credentials ps)
  | none => .failed (.ofConsole (Client.unreadable body))

theorem Asks.run (hasks : Asks w g c) (h : ListsCredentials serve body v) (s : σ) :
    let r := ((listCredentials g).run w).run serve s
    r.requests = [c.credentialsRequest] ∧
      r.value =
        listingReport g body (Client.listed? "profiles" CredentialProfile.ofJson? v) := by
  obtain ⟨code, hanswer, hcode⟩ := h.answers _ s c.asksFor_credentialsRequest
  dsimp only
  rw [hasks, Exchange.run_ask, hanswer, Exchange.run_done, Console.credentialsListed,
    Client.rowsOf_answer hcode h.isJson Console.credential_congr]
  refine ⟨rfl, ?_⟩
  cases Client.listed? "profiles" CredentialProfile.ofJson? v <;> rfl

theorem ofConsole_unreadable (body : String) :
    CommandError.ofConsole (Client.unreadable body) = .refused "internal" ("Internal error: " ++
      ("Deserialization error: data of another shape (body preview: " ++
        Text.quote (Client.preview body) ++ ")")) := rfl

/-- The error of a body that cannot be decoded tells the beginning of the body. -/
theorem ofConsole_unreadable_inj :
    CommandError.ofConsole (Client.unreadable body₁) = .ofConsole (Client.unreadable body₂) ↔
      Client.preview body₁ = Client.preview body₂ := by
  constructor
  · intro h
    rw [ofConsole_unreadable, ofConsole_unreadable] at h
    obtain ⟨-, hmessage⟩ := CommandError.refused.inj h
    exact Text.quote_injective (by simpa [String.append_assoc] using hmessage)
  · intro h
    rw [Client.unreadable, Client.unreadable, h]

theorem exitCode_unreadable (body : String) :
    (Report.failed (.ofConsole (Client.unreadable body))).exitCode = 1 := rfl

/-- Two backends list credential profiles in bodies that are the same but for the passwords. The
command asks both for the same, and shows the same where the profiles can be decoded. Where they
cannot be, nothing is shown and the command ends with 1; but its error has the beginning of the
body in it, and the beginnings have to be the same, passwords and all, for the errors to be. -/
theorem listCredentials_passwords (w : Surroundings) (g : GlobalOptions)
    (h₁ : ListsCredentials serve₁ body₁ v₁) (h₂ : ListsCredentials serve₂ body₂ v₂)
    (halike : Json.Alike v₁ v₂) (s₁ : σ₁) (s₂ : σ₂) :
    let r₁ := ((listCredentials g).run w).run serve₁ s₁
    let r₂ := ((listCredentials g).run w).run serve₂ s₂
    let Decodable := ∃ ps, Client.ListsRows "profiles" IsCredential v₁ ps
    r₁.requests = r₂.requests ∧ r₁.value.shown = r₂.value.shown ∧
      r₁.value.notes = r₂.value.notes ∧ r₁.value.exitCode = r₂.value.exitCode ∧
      (r₁.requests ≠ [] → ¬ Decodable →
        r₁.value = .failed (.ofConsole (Client.unreadable body₁)) ∧
        r₂.value = .failed (.ofConsole (Client.unreadable body₂))) ∧
      (r₁.value = r₂.value ↔
        r₁.requests = [] ∨ Decodable ∨ Client.preview body₁ = Client.preview body₂) := by
  intro r₁ r₂ Decodable
  obtain ⟨e, hrun⟩ | ⟨c, hasks⟩ := failed_or_asks w g
  · have hr₁ : r₁ = ⟨.failed e, s₁, []⟩ := by simp only [r₁, hrun, Exchange.run_done]
    have hr₂ : r₂ = ⟨.failed e, s₂, []⟩ := by simp only [r₂, hrun, Exchange.run_done]
    simp [hr₁, hr₂]
  obtain ⟨hrequests₁, hvalue₁⟩ : r₁.requests = _ ∧ r₁.value = _ := hasks.run h₁ s₁
  obtain ⟨hrequests₂, hvalue₂⟩ : r₂.requests = _ ∧ r₂.value = _ := hasks.run h₂ s₂
  have hdecodable : Decodable ↔ ∃ ps,
      Client.listed? "profiles" CredentialProfile.ofJson? v₁ = some ps :=
    exists_congr fun ps =>
      (Client.listed?_eq_some_iff fun _ _ => CredentialProfile.ofJson?_eq_some_iff).symm
  rw [hrequests₁, hrequests₂, hvalue₁, hvalue₂, hdecodable, ← listed?_alike halike]
  cases Client.listed? "profiles" CredentialProfile.ofJson? v₁ with
  | some ps => simp [listingReport]
  | none =>
    simp only [listingReport, Report.shown_failed, Report.notes_failed, exitCode_unreadable,
      Report.failed_inj, ofConsole_unreadable_inj]
    simp

/-! ### One profile -/

/-- Nothing is stored and nothing is set. -/
def bare : Surroundings where
  environment := []
  settingsPath := "config.toml"
  settingsFile := none
  files := .error
  now := 0

/-- A list of one profile. -/
def profileList (port : Int) (password : String) : Json :=
  .obj [("profiles", .arr [.obj [("id", .int 1), ("hostname", .str "h"),
    ("password", .str password), ("port", .int port)]])]

theorem profileList_alike (port : Int) (password password' : String) :
    Json.Alike (profileList port password) (profileList port password') :=
  .obj (.shown (.arr (.cons (.obj (.shown (.same _) (.shown (.same _) (.secret
    (.shown (.same _) .nil)))) (.refl _)) .nil)) .nil) (.refl _)

/-- A backend of that one list. -/
def backendOf (v : Json) (_ : Request) (u : Unit) : Outcome × Unit := (.answer 200 v.compact, u)

theorem backendOf_lists {port : Int} (hlow : 0 ≤ port) (hhigh : port ≤ Json.significandLimit)
    (password : String) :
    ListsCredentials (backendOf (profileList port password)) (profileList port password).compact
      (profileList port password) where
  answers _ _ _ := ⟨200, rfl, by decide, by decide⟩
  isJson := by
    have hprofile : Json.FitsFields 124 .all [("id", .int 1), ("hostname", .str "h"),
        ("password", .str password), ("port", .int port)] :=
      ⟨⟨by decide, by decide⟩, rfl, rfl, ⟨le_trans (by decide) hlow, hhigh⟩, trivial⟩
    exact Json.read_compact
      ⟨rfl, by decide, ⟨rfl, by decide, ⟨rfl, by decide, hprofile⟩, trivial⟩, trivial⟩

/-- The listing of that backend, the server given on the command line. -/
def listed (port : Int) (password : String) : Exchange.Run Unit Report :=
  ((listCredentials { server := some "http://backend" }).run bare).run
    (backendOf (profileList port password)) ()

theorem asks_server : ∃ c, Asks bare { server := some "http://backend" } c := by
  have hbase : (BackendCommand.console bare { server := some "http://backend" }).toOption.map
      (fun c => c.client.base.isOpaque) = some false := by decide +kernel
  obtain ⟨c, hc, hopaque⟩ := Option.map_eq_some_iff.mp hbase
  exact ⟨c, asks_of_console (toOption_eq_some_iff.mp hc) hopaque⟩

/-- Two passwords of a profile, which is shown with a good port and not with a bad one. -/
theorem listCredentials_passwords_port :
    (listed 22 "hunter2").value = (listed 22 "swordfish").value ∧
      (listed 65536 "hunter2").value.shown = (listed 65536 "swordfish").value.shown ∧
      (listed 65536 "hunter2").value.exitCode = (listed 65536 "swordfish").value.exitCode := by
  have hgood := listCredentials_passwords bare { server := some "http://backend" }
    (backendOf_lists (by decide) (by decide) "hunter2")
    (backendOf_lists (by decide) (by decide) "swordfish") (profileList_alike 22 _ _) () ()
  have hbad := listCredentials_passwords bare { server := some "http://backend" }
    (backendOf_lists (by decide) (by decide) "hunter2")
    (backendOf_lists (by decide) (by decide) "swordfish") (profileList_alike 65536 _ _) () ()
  obtain ⟨-, -, -, -, -, hsame⟩ := hgood
  obtain ⟨-, hshown, -, hexit, -⟩ := hbad
  have hlisted : Client.ListsRows "profiles" IsCredential (profileList 22 "hunter2")
      [⟨1, "h", 22⟩] :=
    (Client.listed?_eq_some_iff fun _ _ => CredentialProfile.ofJson?_eq_some_iff).mp rfl
  exact ⟨hsame.mpr (.inr (.inl ⟨_, hlisted⟩)), hshown, hexit⟩

/-- With a bad port the error shows the password. -/
theorem listCredentials_bad_port :
    Json.Alike (profileList 65536 "hunter2") (profileList 65536 "swordfish") ∧
      (∀ password, Json.read .all (profileList 65536 password).compact =
        .ok (profileList 65536 password)) ∧
      (listed 65536 "hunter2").value.failure ≠ (listed 65536 "swordfish").value.failure := by
  have hlists (password : String) :
      ListsCredentials (backendOf (profileList 65536 password)) _ (profileList 65536 password) :=
    backendOf_lists (by decide) (by decide) password
  refine ⟨profileList_alike 65536 _ _, fun password => (hlists password).isJson, ?_⟩
  obtain ⟨c, hasks⟩ := asks_server
  have hvalue (password : String) : (listed 65536 password).value =
      .failed (.ofConsole (Client.unreadable (profileList 65536 password).compact)) :=
    (hasks.run (hlists password) ()).2
  rw [hvalue, hvalue, Report.failure_failed, Report.failure_failed, Option.some_inj.ne,
    ofConsole_unreadable_inj.ne]
  refine fun h => absurd (String.ofList_injective h) ?_
  decide +kernel

end Invocation
end DeviceConsole
