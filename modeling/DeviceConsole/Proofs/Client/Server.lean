import DeviceConsole.Proofs.Client.Base
import DeviceConsole.Proofs.Client.Resource
import DeviceConsole.Proofs.Settings.Connection

/-! From a server to the requests of its client. Every resource stands right behind the path of the
base, and so no request of a console fails for its address. -/
namespace DeviceConsole

namespace Client

open Url (IsPath IsCanonical)

variable {α : Type} {c : Client} {u : Url}

/-! ### Addresses of resources -/

/-- The address of a resource, without the credentials and the query of the base. -/
def resourceUrl (c : Client) (r : Resource) : Url :=
  { c.base with
    userinfo := ""
    path := c.base.path ++ r.path
    query := none
    fragment := none }

/-- Behind a slash nothing of the base is lost. -/
theorem endpoint_eq {reference : String} {p : List Char} (hbase : c.base.path.toList = p ++ ['/'])
    (h : IsPath (p ++ '/' :: reference.toList)) :
    c.endpoint reference =
      { c.base with
        userinfo := "", path := c.base.path ++ reference, query := none, fragment := none } := by
  obtain ⟨rest, hrest⟩ := h.exists_cons (by simp)
  have hjoined : (p ++ ['/']).drop 1 ++ reference.toList = rest := by
    cases p with
    | nil => simpa using hrest
    | cons d p => simpa using (List.cons.inj hrest).2
  have hpath : String.ofList ('/' :: rest) = c.base.path ++ reference := by
    rw [← String.toList_inj]
    simp [← hrest, hbase]
  rw [hrest] at h
  rw [endpoint, hbase, Url.directory_slash, hjoined, h.absolutePath, hpath]

/-! ### Operations -/

/-- The operations of a client, each with the resource it is about. -/
inductive Operation (c : Client) : {α : Type} → Call RequestError α → Resource → Prop
  | listDevices : Operation c c.listDevices .devices
  | updateProvisioning (body : ProvisionBody) :
      Operation c (c.updateProvisioning body) .provisioning
  | listCredentials : Operation c c.listCredentials .credentials
  | createCredential (draft : CredentialDraft) :
      Operation c (c.createCredential draft) .credentials
  | updateCredential (id : Int64) (draft : CredentialDraft) :
      Operation c (c.updateCredential id draft) (.credential id)
  | deleteCredential (id : Int64) : Operation c (c.deleteCredential id) (.credential id)
  | listDiscovery : Operation c c.listDiscovery .discoveries
  | createDiscovery (body : DiscoveryBody) : Operation c (c.createDiscovery body) .discoveries
  | updateDiscovery (id : Int64) (body : DiscoveryBody) :
      Operation c (c.updateDiscovery id body) (.discovery id)
  | deleteDiscovery (id : Int64) : Operation c (c.deleteDiscovery id) (.discovery id)
  | runDiscovery (id : Int64) : Operation c (c.runDiscovery id) (.discoveryRun id)
  | query (body : QueryBody) : Operation c (c.query body) .query

/-- A way to read answers that never puts the blame on the address. -/
def SparesAddress (read : String → Except RequestError α) : Prop :=
  ∀ body e, read body ≠ .error (.invalidUrl e)

theorem sparesAddress_ignoreBody : SparesAddress ignoreBody := by
  intro body e h
  cases h

theorem sparesAddress_readBody (want : Json.Want) (decode : Json → Option α) :
    SparesAddress (readBody want decode) := by
  intro body e h
  unfold readBody undecodable at h
  repeat' split at h
  all_goals cases h

theorem interpret_ne_invalidUrl {read : String → Except RequestError α} (h : SparesAddress read)
    (q : Request) (o : Outcome) (e : UrlError) : interpret read q o ≠ .error (.invalidUrl e) := by
  intro hinterpret
  cases o with
  | answer code body =>
    rw [interpret] at hinterpret
    split at hinterpret
    · exact h body e hinterpret
    · cases hinterpret
  | refused | dropped | timedOut => cases hinterpret

theorem Operation.exists_call {x : Call RequestError α} {r : Resource} (h : Operation c x r) :
    ∃ read method body, x = c.call read method r.path body ∧ SparesAddress read := by
  cases h with
  | listDevices | listCredentials | listDiscovery | query _ =>
    exact ⟨_, _, _, rfl, sparesAddress_readBody _ _⟩
  | updateProvisioning _ | createCredential _ | updateCredential _ _ | deleteCredential _
  | createDiscovery _ | updateDiscovery _ _ | deleteDiscovery _ | runDiscovery _ =>
    exact ⟨_, _, _, rfl, sparesAddress_ignoreBody⟩

/-- One request to this address, and no failure that is about the address. -/
def Sends (x : Call RequestError α) (url : Url) : Prop :=
  ∃ (q : Request) (answer : Outcome → Except RequestError α),
    x.run = .ask q (fun o => .done (answer o)) ∧ q.url = url ∧
      ∀ o e, answer o ≠ .error (.invalidUrl e)

/-! ### From server to requests -/

/-- What becomes of a server that is read as a web address. -/
structure Normalizes (c : Client) (server : String) (u : Url) : Prop where
  kept : c.base = { u with path := c.base.path }
  path : ∃ p, Stem u.path.toList p ∧ c.base.path.toList = p ++ "/api/".toList
  again : ofServer c.base.text = .ok c
  slashed : ∀ server', Url.Slashed server server' → ofServer server' = .ok c
  respelled : ∀ path, Respelled u.path.toList path.toList →
    ofServer { u with path := path }.text = .ok c ∧
      ∀ server', Url.parse server' = .ok { u with path := path } → ofServer server' = .ok c
  asks : ∀ {α : Type} {x : Call RequestError α} {r : Resource}, Operation c x r →
    Sends x (c.resourceUrl r)
  queries : ∀ body, ∃ q, c.queryRequest body = .ok q ∧ q.url = c.resourceUrl .query

theorem endpoint_resource (h : IsCanonical u) (r : Resource) :
    (⟨normalizeBase u⟩ : Client).endpoint r.path = (⟨normalizeBase u⟩ : Client).resourceUrl r := by
  obtain ⟨p, hp⟩ := exists_stem u.path.toList
  have hbase : (normalizeBase u).path.toList = (p ++ apiChars) ++ ['/'] := by
    rw [normalizeBase_eq h, apiPath_of_stem hp, List.append_assoc]
  have hpath := (normalizeBase_isCanonical h).path
  rw [hbase] at hpath
  exact endpoint_eq hbase (hpath.of_append.append r.isPath)

theorem normalizes_normalizeBase {server : String} (hserver : Url.parse server = .ok u)
    (hweb : u.scheme = "http" ∨ u.scheme = "https") :
    (⟨normalizeBase u⟩ : Client).Normalizes server u := by
  have hu : IsCanonical u := Url.parse_isCanonical hserver hweb
  obtain ⟨p, hp⟩ := exists_stem u.path.toList
  have hbase := normalizeBase_eq hu
  have hcanonical : IsCanonical (normalizeBase u) := normalizeBase_isCanonical hu
  have hsame {path : String} (hr : Respelled u.path.toList path.toList) :
      IsCanonical { u with path := path } ∧ normalizeBase { u with path := path } =
        normalizeBase u := by
    have hpath := hu.withPath (hr.isPath hu.path) fun hnil =>
      hr.ne_nil (by simpa using hu.rooted) (by simp [hnil])
    exact ⟨hpath, normalizeBase_withPath hu hpath hp (hp.respelled hr)⟩
  constructor
  case kept =>
    rw [hbase]
  case path => exact ⟨p, hp, by rw [hbase]; exact apiPath_of_stem hp⟩
  case again => rw [ofServer_text hcanonical, normalizeBase_normalizeBase hu]
  case slashed =>
    intro server' hslashed
    obtain ⟨n, hn⟩ := Url.parse_slashed hserver hweb hslashed
    have hr : Respelled u.path.toList
        (String.ofList (u.path.toList ++ List.replicate n '/')).toList := by
      rw [String.toList_ofList]
      exact .slashes _ n
    rw [ofServer_of_parse hn, (hsame hr).2]
  case respelled =>
    intro path hr
    obtain ⟨hpath, hequal⟩ := hsame hr
    refine ⟨?_, fun server' hserver' => ?_⟩
    · rw [ofServer_text hpath, hequal]
    · rw [ofServer_of_parse hserver', hequal]
  case asks =>
    intro α x r hx
    obtain ⟨read, method, body, rfl, hread⟩ := hx.exists_call
    exact ⟨_, _, call_run hcanonical.isOpaque read method r.path body, endpoint_resource hu r,
      interpret_ne_invalidUrl hread _⟩
  case queries =>
    intro body
    exact ⟨_, request_eq hcanonical.isOpaque _ _ _, endpoint_resource hu .query⟩

/-- Every web address makes a client whose base is the address with the path that ends in `/api/`,
however the end of the path is spelled; and every profile that connects without a certificate file
makes a console, none of whose requests fails for its address. -/
theorem ofServer_normalizes :
    (∀ server u, Url.parse server = .ok u → (u.scheme = "http" ∨ u.scheme = "https") →
      ∃ c, ofServer server = .ok c ∧ c.Normalizes server u) ∧
    ∀ (p : Profile) (d : Defaults) (config : ConsoleConfig) (files : Console.Files),
      p.caCert = none → p.toConsoleConfig d = .ok config →
        ∃ c, ofServer p.server = .ok c ∧ c.Normalizes p.server config.server ∧
          Console.ofConfig files config = .ok { client := c, config } := by
  refine ⟨fun server u hserver hweb =>
    ⟨_, ofServer_of_parse hserver, normalizes_normalizeBase hserver hweb⟩, ?_⟩
  intro p d config files hcert hconfig
  obtain ⟨u, hserver, hweb, rfl⟩ := Profile.toConsoleConfig_eq_ok_iff.mp hconfig
  refine ⟨⟨normalizeBase u⟩, ofServer_of_parse hserver, normalizes_normalizeBase hserver hweb, ?_⟩
  have htls : Console.checkTls files (p.reaching d u).tls = .ok () := by
    simp only [Profile.reaching, Profile.tls, hcert]
    split <;> rfl
  have hclient := ofServer_text (Url.parse_isCanonical hserver hweb)
  unfold Console.ofConfig
  simp only [htls, bind, Except.bind]
  rw [show (p.reaching d u).server = u from rfl, hclient]

/-- A server below a path, with credentials and a query. -/
def labServer : String := "http://ops:pw@10.0.0.2:8080/nms/?x=1"

theorem ofServer_normalizes_lab :
    ∃ u c, Url.parse labServer = .ok u ∧ ofServer labServer = .ok c ∧ c.Normalizes labServer u ∧
      c.base.text = "http://ops:pw@10.0.0.2:8080/nms/api/?x=1" ∧
      ofServer "http://ops:pw@10.0.0.2:8080/nms///?x=1" = .ok c ∧
      ofServer "http://ops:pw@10.0.0.2:8080/nms/api/?x=1" = .ok c ∧
      (∃ url : Url, Sends (c.deleteDiscovery (-5)) url ∧
        url.text = "http://10.0.0.2:8080/nms/api/discovery-profiles/-5") ∧
      ∃ config, ({ server := labServer } : Profile).toConsoleConfig {} = .ok config ∧
        Console.ofConfig (fun _ => .error "no such file") config = .ok { client := c, config } := by
  let u : Url :=
    { scheme := "http", userinfo := "ops:pw", host := some "10.0.0.2", port := some 8080
      path := "/nms/", query := some "x=1" }
  have hserver : Url.parse labServer = .ok u := by decide +kernel
  have hbase : ofServer labServer = .ok ⟨{ u with path := "/nms/api/" }⟩ := by decide +kernel
  have hconfig : ({ server := labServer } : Profile).toConsoleConfig {} =
      .ok { server := u, timeout := 30 } := by decide +kernel
  obtain ⟨c, hc, h⟩ := ofServer_normalizes.1 labServer u hserver (.inl rfl)
  obtain ⟨c', hc', -, hconsole⟩ := ofServer_normalizes.2 { server := labServer } {} _
    (fun _ => .error "no such file") rfl hconfig
  obtain rfl := Except.ok.inj (hbase.symm.trans hc)
  obtain rfl := Except.ok.inj (hbase.symm.trans hc')
  have hslashed : Url.Slashed labServer "http://ops:pw@10.0.0.2:8080/nms///?x=1" :=
    ⟨"http://ops:pw@10.0.0.2:8080/nms/".toList, "?x=1".toList, 2, by decide +kernel,
      by decide +kernel, by simp, by simp⟩
  have hrespelled : Respelled "/nms/".toList "/nms/api/".toList := by
    have happended : Respelled ("/nms".toList ++ List.replicate 1 '/')
        ("/nms".toList ++ apiChars ++ List.replicate 1 '/') := .api (by decide) (by decide) 1 1
    simpa [apiChars] using happended
  refine ⟨u, _, hserver, hbase, h, by decide +kernel, h.slashed _ hslashed,
    (h.respelled "/nms/api/" hrespelled).2 _ (by decide +kernel), ?_, _, hconfig, hconsole⟩
  exact ⟨_, h.asks (.deleteDiscovery (-5)), by decide +kernel⟩

/-- Only slashes at the end are cut off: `/api` put behind a path that ends in a slash leaves that
slash where it is. -/
theorem ofServer_slash_api :
    ∃ u c c', Url.parse "http://h/" = .ok u ∧
      ¬ apiChars <:+ Text.dropEndWhile (· = '/') u.path.toList ∧
      ofServer "http://h/" = .ok c ∧ c.base.text = "http://h/api/" ∧
      Url.parse "http://h//api" = .ok { u with path := u.path ++ "/api" } ∧
      ofServer "http://h//api" = .ok c' ∧ c'.base.text = "http://h//api/" := by
  let u : Url := { scheme := "http", host := some "h", path := "/" }
  exact ⟨u, ⟨{ u with path := "/api/" }⟩, ⟨{ u with path := "//api/" }⟩, by decide +kernel,
    by decide +kernel, by decide +kernel, by decide +kernel, by decide +kernel, by decide +kernel,
    by decide +kernel⟩

end Client
end DeviceConsole
