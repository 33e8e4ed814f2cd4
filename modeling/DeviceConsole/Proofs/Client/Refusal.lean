import DeviceConsole.Command.Backend
import DeviceConsole.Proofs.Json.Field
import DeviceConsole.Proofs.Provisioning.Serve

/-! What an answer with an error status says, and what becomes of it on the way to the operator:
the request's error keeps the status and the message, and the exit code tells a missing resource
from any other refusal. -/
namespace DeviceConsole

namespace Client

/-! ### What an error body says -/

/-- An error body is an object or an array of its two fields; all else in it is left alone. -/
def errorWant : Json.Want := .record [("error", .all), ("message", .all)]

/-- The two fields of an error body, each of which may be left out or `null`. -/
inductive IsErrorBody : Json → Option String → Option String → Prop
  | record {fields : List (String × Json)} {e m : Option Json} {error message : Option String}
      (atError : Json.HasAtMost fields "error" e) (atMessage : Json.HasAtMost fields "message" m)
      (isError : Json.Optional .str e error) (isMessage : Json.Optional .str m message) :
      IsErrorBody (.obj fields) error message
  | pair {items : List Json} {error message : Option String} (short : items.length ≤ 2)
      (isError : Json.Optional .str items[0]? error)
      (isMessage : Json.Optional .str items[1]? message) :
      IsErrorBody (.arr items) error message

/-- The text is that of an error body with these two fields. -/
def Carries (body : String) (error message : Option String) : Prop :=
  ∃ j, Json.read errorWant body = .ok j ∧ IsErrorBody j error message

/-- The body has neither an error nor a message. -/
def IsMute (body : String) : Prop :=
  ∀ error message, Carries body error message → error = none ∧ message = none

/-- The longest beginning of a text that is short enough to be shown. -/
structure IsOpening (text opening : String) : Prop where
  isBeginning : opening.toList <+: text.toList
  short : opening.length ≤ 200
  longest : ∀ t : String, t.toList <+: text.toList → t.length ≤ 200 → t.toList <+: opening.toList
  whole : text.length ≤ 200 → opening = text

/-- What an answer tells: the error of its body, or else the message, and of a body with neither
its opening, or the status where there is nothing to show. -/
inductive Tells (code : Nat) (body : String) : String → Prop
  | error {m : String} {message : Option String} (h : Carries body (some m) message) :
      Tells code body m
  | message {m : String} (h : Carries body none (some m)) : Tells code body m
  | status (mute : IsMute body) (empty : body = "") : Tells code body (Status.line code)
  | opening {m : String} (mute : IsMute body) (written : body ≠ "") (h : IsOpening body m) :
      Tells code body m

/-! ### The reader of an error body -/

/-- The two fields of an error body. -/
def carried? (body : String) : Option (Option String × Option String) := do
  let j ← (Json.read errorWant body).toOption
  match ← j.record? ["error", "message"] with
  | [e, m] =>
      let error ← Json.withDefault? (Json.toOption? Json.toText?) none e
      let message ← Json.withDefault? (Json.toOption? Json.toText?) none m
      return (error, message)
  | _ => none

/-- The message told of an answer. -/
def told (code : Nat) (body : String) : String :=
  (errorMessage? body).getD (if body.isEmpty then Status.line code else preview body)

theorem statusError_eq (code : Nat) (body : String) :
    statusError code body = .status code (told code body) := rfl

variable {body : String} {error message : Option String} {m : String}

theorem errorMessage?_eq (body : String) :
    errorMessage? body = (carried? body).bind fun c => c.1.or c.2 := by
  unfold errorMessage? carried? errorWant
  simp only [bind, Option.bind_assoc]
  refine Option.bind_congr fun j _ => Option.bind_congr fun values _ => ?_
  rcases values with _ | ⟨e, _ | ⟨m, _ | _⟩⟩
  · rfl
  · rfl
  · simp only [Option.bind_assoc]
    rfl
  · rfl

theorem isErrorBody_iff {j : Json} :
    IsErrorBody j error message ↔ ∃ e m, j.record? ["error", "message"] = some [e, m] ∧
      Json.Optional .str e error ∧ Json.Optional .str m message := by
  constructor
  · rintro (⟨he, hm, herror, hmessage⟩ | ⟨hshort, herror, hmessage⟩)
    · exact ⟨_, _, Json.record?_obj_iff.mpr (.cons he (.cons hm .nil)), herror, hmessage⟩
    · refine ⟨_, _, ?_, herror, hmessage⟩
      simp [Json.record?, hshort]
  · rintro ⟨e, m, h, herror, hmessage⟩
    cases j with
    | obj fields =>
      obtain he | ⟨he, hm | ⟨hm, -⟩⟩ := Json.record?_obj_iff.mp h
      exact .record he hm herror hmessage
    | arr items =>
      simp only [Json.record?] at h
      split_ifs at h with hshort
      cases h
      exact .pair hshort herror hmessage
    | _ => cases h

theorem carried?_eq_some_iff :
    carried? body = some (error, message) ↔ Carries body error message := by
  have hnote (j : Option Json) (t : Option String) :
      Json.Optional .str j t ↔ Json.withDefault? (Json.toOption? Json.toText?) none j = some t :=
    (Json.optional_iff (fun _ _ => Json.toText?_eq_some_iff) rfl).symm
  simp only [Carries, isErrorBody_iff, hnote]
  constructor
  · intro h
    simp only [carried?, Option.bind_eq_bind, Option.bind_eq_some_iff] at h
    obtain ⟨j, hj, values, hvalues, h⟩ := h
    split at h
    · rename_i e m
      simp only [Option.bind_eq_some_iff, Option.pure_def, Option.some.injEq, Prod.mk.injEq] at h
      obtain ⟨_, herror, _, hmessage, rfl, rfl⟩ := h
      exact ⟨j, toOption_eq_some_iff.mp hj, e, m, hvalues, herror, hmessage⟩
    · cases h
  · rintro ⟨j, hj, e, m, hvalues, herror, hmessage⟩
    simp [carried?, toOption_eq_some_iff.mpr hj, hvalues, herror, hmessage]

theorem Carries.unique {error' message' : Option String} (h : Carries body error message)
    (h' : Carries body error' message') : error = error' ∧ message = message' := by
  rw [← carried?_eq_some_iff] at h h'
  simpa using h.symm.trans h'

/-! ### The message told -/

theorem isOpening_preview (body : String) : IsOpening body (preview body) where
  isBeginning := by
    rw [preview, String.toList_ofList]
    exact List.take_prefix 200 _
  short := by
    rw [preview, String.length_ofList]
    exact List.length_take_le 200 _
  longest t ht hlen := by
    rw [preview, String.toList_ofList, List.prefix_take_iff]
    exact ⟨ht, by rwa [String.length_toList]⟩
  whole h := by
    rw [preview, List.take_of_length_le (by rwa [String.length_toList]), String.ofList_toList]

theorem IsOpening.unique {m' : String} (h : IsOpening body m) (h' : IsOpening body m') :
    m = m' := by
  have hle := h'.longest m h.isBeginning h.short
  have hge := h.longest m' h'.isBeginning h'.short
  exact String.toList_inj.mp (hle.eq_of_length_le hge.length_le)

theorem errorMessage?_of_isMute (h : IsMute body) : errorMessage? body = none := by
  rw [errorMessage?_eq]
  cases hc : carried? body with
  | none => rfl
  | some c =>
    obtain ⟨herror, hmessage⟩ := h c.1 c.2 (carried?_eq_some_iff.mp hc)
    simp [herror, hmessage]

theorem tells_of_isMute {code : Nat} (h : IsMute body) :
    Tells code body (if body.isEmpty then Status.line code else preview body) := by
  split
  · rename_i hempty
    exact .status h (String.isEmpty_iff.mp hempty)
  · rename_i hwritten
    exact .opening h (fun he => hwritten (String.isEmpty_iff.mpr he)) (isOpening_preview body)

theorem tells_iff {code : Nat} : Tells code body m ↔ m = told code body := by
  constructor
  · rintro (h | h | ⟨hmute, rfl⟩ | ⟨hmute, hwritten, h⟩)
    · simp [told, errorMessage?_eq, carried?_eq_some_iff.mpr h]
    · simp [told, errorMessage?_eq, carried?_eq_some_iff.mpr h]
    · simp [told, errorMessage?_of_isMute hmute]
    · simp [told, errorMessage?_of_isMute hmute, hwritten, h.unique (isOpening_preview body)]
  · rintro rfl
    rw [told, errorMessage?_eq]
    cases hc : carried? body with
    | none =>
      have hmute : IsMute body := fun _ _ h => by simp [carried?_eq_some_iff.mpr h] at hc
      exact tells_of_isMute hmute
    | some c =>
      obtain ⟨error, message⟩ := c
      have hcarries := carried?_eq_some_iff.mp hc
      match error, message with
      | some e, _ => exact .error hcarries
      | none, some m => exact .message hcarries
      | none, none => exact tells_of_isMute fun _ _ h => hcarries.unique h |>.imp Eq.symm Eq.symm

/-! ### On the way to the operator -/

theorem interpret_refused {α : Type} (read : String → Except RequestError α) (q : Request)
    {code : Nat} (h : 400 ≤ code) (body : String) :
    interpret read q (.answer code body) = .error (.status code (told code body)) := by
  have hfails : Status.isSuccess code = false := by
    simp only [Status.isSuccess, Bool.and_eq_false_iff, decide_eq_false_iff_not]
    omega
  rw [interpret, hfails, ← statusError_eq]
  rfl

/-- The exit code of a command that the backend refuses. -/
def refusalCode (code : Nat) : UInt8 := if code = 404 then 4 else 1

/-- A refusal as the console tells it. -/
def refusal (code : Nat) (m : String) : ConsoleError :=
  if code = 404 then .notFound m else .refused m (some (UInt16.ofNat code))

theorem exitCode_refusal (code : Nat) (m : String) :
    (CommandError.ofConsole (refusal code m)).exitCode = refusalCode code := by
  unfold refusal refusalCode
  split <;> rfl

theorem refusalCode_not_mem (code : Nat) : refusalCode code ∉ [2, 7, 8] := by
  unfold refusalCode
  split <;> decide

end Client

namespace BackendCommand

/-- A call of the console as a command makes it. -/
theorem ask_run {α : Type} {x : Call ConsoleError α} {q : Request}
    {answer : Outcome → Except ConsoleError α} (hx : x.run = .ask q fun o => .done (answer o)) :
    (ask x).run = .ask q fun o => .done ((answer o).mapError .ofConsole) := by
  change Except.mapError CommandError.ofConsole <$> x.run = _
  rw [hx]
  rfl

end BackendCommand

namespace Client

/-- A backend answers a request with an error status. One message is told of it, the request's
error, the console's and the command's all carry it, and only 404 is a missing resource. -/
theorem call_refused {α σ : Type} {c : Client} (hc : c.base.isOpaque = false)
    (read : String → Except RequestError α) (method : Method) (reference : String)
    (payload : Option Json) (serve : Request → σ → Outcome × σ) (state : σ) {code : Nat}
    {body : String} (hlo : 400 ≤ code) (hhi : code ≤ 599)
    (hanswer : (serve { method, url := c.endpoint reference, body := payload } state).1 =
      .answer code body) :
    let call := c.call read method reference payload
    ∃ (m : String) (status : UInt16) (e : CommandError),
      (∀ m', Tells code body m' ↔ m' = m) ∧ status.toNat = code ∧
      (call.run.run serve state).value = .error (.status code m) ∧
      ((RequestError.status code m).isNotFound = true ↔ code = 404) ∧
      ((RequestError.status code m).isTransient = true ↔ 500 ≤ code) ∧
      ((Console.lift call).run.run serve state).value =
        .error (if code = 404 then .notFound m else .refused m (some status)) ∧
      ((BackendCommand.ask (Console.lift call)).run.run serve state).value = .error e ∧
      e.exitCode = (if code = 404 then 4 else 1) ∧ e.exitCode ∉ [2, 7, 8] := by
  intro call
  let q : Request := { method, url := c.endpoint reference, body := payload }
  have hcall : call.run = _ := call_run hc read method reference payload
  have hlift := Console.lift_run hcall
  have hask := BackendCommand.ask_run hlift
  refine ⟨told code body, UInt16.ofNat code, .ofConsole (refusal code (told code body)),
    fun _ => tells_iff, ?_, ?_, ?_, ?_, ?_, ?_, exitCode_refusal _ _, ?_⟩
  · exact UInt16.toNat_ofNat_of_lt (Nat.lt_of_le_of_lt hhi (by decide))
  · rw [hcall, Exchange.run_ask, hanswer, Exchange.run_done]
    exact interpret_refused read q hlo body
  · exact decide_eq_true_iff
  · exact decide_eq_true_iff
  · rw [hlift, Exchange.run_ask, hanswer, Exchange.run_done, interpret_refused read q hlo body]
    rfl
  · rw [hask, Exchange.run_ask, hanswer, Exchange.run_done, interpret_refused read q hlo body]
    rfl
  · rw [exitCode_refusal]
    exact refusalCode_not_mem code

/-- A missing profile, told in the array form without an error; and a fault without a body. -/
theorem call_refused_pair :
    let c := Console.ofBackend.client
    let delete := c.call ignoreBody .delete "credential-profiles/7"
    let serve : Outcome → Request → Unit → Outcome × Unit := fun o _ u => (o, u)
    (∃ e : CommandError,
      (delete.run.run (serve (.answer 404 "[null, \"gone\"]")) ()).value =
        .error (.status 404 "gone") ∧
      ((BackendCommand.ask (Console.lift delete)).run.run
        (serve (.answer 404 "[null, \"gone\"]")) ()).value = .error e ∧ e.exitCode = 4) ∧
    ∃ e : CommandError,
      (delete.run.run (serve (.answer 503 "")) ()).value =
        .error (.status 503 "503 Service Unavailable") ∧
      ((BackendCommand.ask (Console.lift delete)).run.run (serve (.answer 503 "")) ()).value =
        .error e ∧ e.exitCode = 1 := by
  intro c delete serve
  have hgone : Tells 404 "[null, \"gone\"]" "gone" := tells_iff.mpr (by decide +kernel)
  have hfault : Tells 503 "" "503 Service Unavailable" := tells_iff.mpr (by decide +kernel)
  obtain ⟨m, _, e, htold, -, hvalue, -, -, -, hask, hexit, -⟩ :=
    call_refused (c := c) rfl ignoreBody .delete "credential-profiles/7" none
      (serve (.answer 404 "[null, \"gone\"]")) () (by decide) (by decide) rfl
  obtain ⟨m', _, e', htold', -, hvalue', -, -, -, hask', hexit', -⟩ :=
    call_refused (c := c) rfl ignoreBody .delete "credential-profiles/7" none
      (serve (.answer 503 "")) () (by decide) (by decide) rfl
  obtain rfl := (htold _).mp hgone
  obtain rfl := (htold' _).mp hfault
  exact ⟨⟨e, hvalue, hask, hexit⟩, e', hvalue', hask', hexit'⟩

end Client
end DeviceConsole
