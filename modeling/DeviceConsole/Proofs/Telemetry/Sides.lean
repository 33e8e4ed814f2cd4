import DeviceConsole.Command.Backend
import DeviceConsole.Proofs.Backend.Course
import DeviceConsole.Proofs.Client.Outcome
import DeviceConsole.Proofs.Json.Canonical
import DeviceConsole.Proofs.Provisioning.Serve
import DeviceConsole.Proofs.Telemetry.Series
import DeviceConsole.Proofs.Telemetry.Window

/-! The two counters of a device. They are asked for together, and each side of what comes back is
made of the outcome of its own query. -/
namespace DeviceConsole

/-! ### One side -/

/-- The series the body of a success stands for. -/
inductive SeriesOf (device : Address) (body : String) : Series → Prop
  | blank (nothing : Text.trim body = "") : SeriesOf device body {}
  | noJson {fault : String} (reason : String) (something : Text.trim body ≠ "")
      (unread : Json.read .all body = .error fault) :
      SeriesOf device body { diagnostic := some (.malformedTelemetry reason) }
  | malformed {raw value : Json} (reason : String) (something : Text.trim body ≠ "")
      (read : Json.read .all body = .ok raw) (means : raw.ReadsAs value)
      (refused : ¬ ∃ arrived, Arrives value device arrived) :
      SeriesOf device body { diagnostic := some (.malformedTelemetry reason) }
  | points {raw value : Json} {arrived samples : List Sample} (something : Text.trim body ≠ "")
      (read : Json.read .all body = .ok raw) (means : raw.ReadsAs value)
      (arrives : Arrives value device arrived) (sorted : IsStableSort arrived samples) :
      SeriesOf device body { samples }

/-- What an outcome shows: a success the series of its body, anything else a failure. -/
structure Shows (device : Address) (o : Outcome) (side : Except ConsoleError Series) : Prop where
  success : ∀ code body, o = .answer code body → 200 ≤ code → code < 300 →
    ∃ series, side = .ok series ∧ SeriesOf device body series
  failure : ¬ o.Succeeds → ∃ e, side = .error e

namespace Console

/-- What one side is made of: the device and the outcome of the query. -/
def side (c : Console) (device : Address) (o : Outcome) : Except ConsoleError Series :=
  seriesOf device
    (Client.interpret Client.readQuery { method := .post, url := c.client.endpoint "query" } o)

theorem seriesOf_readQuery (device : Address) (body : String) :
    ∃ series, seriesOf device (Client.readQuery body) = .ok series ∧
      SeriesOf device body series := by
  unfold Client.readQuery Client.readBody
  by_cases hblank : Text.trim body = ""
  · have hnull : Json.read .all "null" = .ok .null := by cbv
    refine ⟨{}, ?_, .blank hblank⟩
    rw [hblank, if_pos (by rfl), hnull]
    exact congrArg _ (normalize_null device)
  · have hbody : (if (Text.trim body).isEmpty then "null" else body) = body :=
      if_neg (by simpa using hblank)
    rw [hbody]
    cases hread : Json.read .all body with
    | error fault => exact ⟨_, rfl, .noJson _ hblank hread⟩
    | ok raw =>
      refine ⟨normalize raw.canonical device, rfl, ?_⟩
      rcases normalize_cases raw.canonical device with ⟨arrived, harrived, hn⟩ | ⟨hrefused, _, hn⟩
      · exact hn ▸ .points hblank hread raw.readsAs_canonical harrived (.mergeSort arrived)
      · exact hn ▸ .malformed _ hblank hread raw.readsAs_canonical hrefused

theorem side_shows (c : Console) (device : Address) (o : Outcome) :
    Shows device o (c.side device o) where
  success := by
    rintro code body rfl hle hlt
    rw [side, Client.interpret_answer ⟨hle, hlt⟩]
    exact seriesOf_readQuery device body
  failure h := by
    rcases Client.interpret_of_not_succeeds Client.readQuery
      { method := .post, url := c.client.endpoint "query" } h with
      ⟨code, message, he⟩ | ⟨fault, he⟩
    · exact ⟨_, by rw [side, he]; rfl⟩
    · exact ⟨_, by rw [side, he]; rfl⟩

/-! ### Both sides -/

/-- The query for one counter of a device. -/
def counterQuery (device : Address) (window : TimeWindow) (duration : Int64)
    (aggregation : Aggregation) (counter : UInt16) : TelemetryQuery :=
  { window, devices := [device], aggregation, interval := intervalFor duration, counter }

def counterRequest (c : Console) (query : TelemetryQuery) : Request :=
  { method := .post, url := c.client.endpoint "query"
    body := some (QueryBody.ofQuery query).toJson }

variable {c : Console} {device : Address} {duration now : Int64} {aggregation : Aggregation}

theorem counterRequest_asksFor (c : Console) (query : TelemetryQuery) :
    c.client.AsksFor (c.counterRequest query) .post "query" :=
  c.client.asksFor_resource .post .query _

/-- Two queries are built whenever the window is valid, whatever the counters are. -/
theorem telemetryQueries_eq :
    c.telemetryQueries device duration aggregation now =
      (TimeWindow.endingAt now duration).map fun w =>
        (counterQuery device w duration aggregation c.config.diskCounter,
          counterQuery device w duration aggregation c.config.cpuCounter) := by
  have hbuild : ((((QueryPlan.ofDevice device).withDuration duration).withAggregation
      aggregation).withCounters [c.config.diskCounter, c.config.cpuCounter]).build now =
      (TimeWindow.endingAt now duration).map fun w =>
        [counterQuery device w duration aggregation c.config.diskCounter,
          counterQuery device w duration aggregation c.config.cpuCounter] := rfl
  rw [telemetryQueries, hbuild]
  cases TimeWindow.endingAt now duration <;> rfl

theorem fetchBoth_eq (h : c.client.base.isOpaque = false) (disk cpu : TelemetryQuery) :
    c.fetchBoth device disk cpu =
      .askBoth (c.counterRequest disk) (c.counterRequest cpu) fun o p =>
        .done (c.side device o, c.side device p) := by
  have hrequest (query : TelemetryQuery) :
      c.client.queryRequest (.ofQuery query) = .ok (c.counterRequest query) :=
    Client.request_eq h _ _ _
  have hside (query : TelemetryQuery) (o : Outcome) :
      seriesOf device (Client.interpret Client.readQuery (c.counterRequest query) o) =
        c.side device o := congrArg _ (Client.interpret_congr rfl)
  simp only [fetchBoth, hrequest, hside]

/-- Below a base that no address can be joined to both sides fail, and nothing is sent. -/
theorem fetchBoth_opaque (h : c.client.base.isOpaque = true) (device : Address)
    (disk cpu : TelemetryQuery) :
    ∃ e, c.fetchBoth device disk cpu = .done (.error e, .error e) := by
  have hrequest (query : TelemetryQuery) :
      c.client.queryRequest (.ofQuery query) = .error (.invalidUrl .relativeToOpaque) := by
    simp [Client.queryRequest, Client.request, Url.join, h]
  exact ⟨_, by simp only [fetchBoth, hrequest]; rfl⟩

theorem deviceTelemetryAt_run_invalid (h : TimeWindow.Invalid now duration) :
    (c.deviceTelemetryAt device duration aggregation now).run =
      .done (.error (.invalidWindow (TimeWindow.saturatingSub now duration) now)) := by
  rcases TimeWindow.endingAt_cases now duration with ⟨-, hw⟩ | ⟨hvalid, -⟩
  · rw [deviceTelemetryAt, telemetryQueries_eq, hw]
    rfl
  · exact absurd h hvalid

theorem deviceTelemetryAt_run {w : TimeWindow} (hw : TimeWindow.endingAt now duration = .ok w) :
    (c.deviceTelemetryAt device duration aggregation now).run =
      (fun sides => .ok
        { device, window := w, aggregation, interval := intervalFor duration
          disk := sides.1, cpu := sides.2 }) <$>
        c.fetchBoth device (counterQuery device w duration aggregation c.config.diskCounter)
          (counterQuery device w duration aggregation c.config.cpuCounter) := by
  rw [deviceTelemetryAt, telemetryQueries_eq, hw, ExceptT.run_bind]
  change (Exchange.done (Except.ok _) >>= _) = _
  rw [Exchange.done_bind]
  dsimp only
  rw [ExceptT.run_bind, ExceptT.run_lift, bind_map_left, map_eq_pure_bind]
  rfl

/-! ### The command -/

/-- The report of a call. The sides fail a command only together, and then with the error of the
disk. -/
structure Reports (c : Console) (g : GlobalOptions) (v : Except ConsoleError DeviceTelemetry)
    (rep : Report) : Prop where
  invalid : ∀ e, v = .error e → rep = .failed (.ofConsole e)
  shown : ∀ t, v = .ok t →
    rep = { g.display (View.telemetry c.config t) with failure := rep.failure } ∧
      ∀ e, rep.failure = some e ↔
        ∃ d p, t.disk = .error d ∧ t.cpu = .error p ∧ e = CommandError.ofConsole d

theorem telemetryFailure?_eq_some_iff {t : DeviceTelemetry} {e : CommandError} :
    BackendCommand.telemetryFailure? t = some e ↔
      ∃ d p, t.disk = .error d ∧ t.cpu = .error p ∧ e = .ofConsole d := by
  unfold BackendCommand.telemetryFailure?
  cases t.disk with
  | ok series => simp
  | error d =>
    cases t.cpu with
    | ok series => simp
    | error p => simp [eq_comm]

/-- What the outcome of a call makes of a command. -/
def telemetryReport (c : Console) (g : GlobalOptions) :
    Except ConsoleError DeviceTelemetry → Report
  | .error e => .failed (.ofConsole e)
  | .ok t =>
      { g.display (View.telemetry c.config t) with
        failure := BackendCommand.telemetryFailure? t }

theorem reports_iff {g : GlobalOptions} {v : Except ConsoleError DeviceTelemetry} {rep : Report} :
    Reports c g v rep ↔ rep = c.telemetryReport g v := by
  constructor
  · intro h
    cases v with
    | error e => exact h.invalid e rfl
    | ok t =>
      obtain ⟨hrep, hfailure⟩ := h.shown t rfl
      have hsame : rep.failure = BackendCommand.telemetryFailure? t := by
        ext e
        rw [hfailure, telemetryFailure?_eq_some_iff]
      rw [hrep, hsame]
      rfl
  · rintro rfl
    constructor
    · rintro e rfl
      rfl
    · rintro t rfl
      exact ⟨rfl, fun _ => telemetryFailure?_eq_some_iff⟩

theorem showTelemetry_run {text : String} (h : Address.parse text = .ok device)
    (g : GlobalOptions) (preset : DurationPreset) :
    Report.ofExcept <$>
        (BackendCommand.run c g now (.showTelemetry text preset aggregation)).run =
      c.telemetryReport g <$>
        (c.deviceTelemetryAt device preset.seconds aggregation now).run := by
  rw [BackendCommand.run, h, ExceptT.run_bind]
  change Report.ofExcept <$> (Exchange.done (Except.ok device) >>= _) = _
  rw [Exchange.done_bind]
  change Report.ofExcept <$> (Except.mapError _ <$> ExceptT.run _ >>= _) = _
  rw [bind_map_left, map_bind, map_eq_pure_bind]
  congr
  funext v
  cases v <;> rfl

/-! ### Both queries of a device -/

/-- A call ends. Only a window that is none is an error, and then nothing is sent. Otherwise the two
queries go out together, and whichever comes first, each side is made of the outcome of its own
query in the one way there is; below a base that no address can be joined to nothing goes out and
both fail. -/
theorem deviceTelemetryAt_sides {σ : Type} (c : Console) (g : GlobalOptions) (device : Address)
    (duration : Int64) (aggregation : Aggregation) (now : Int64)
    (serve : Request → σ → Outcome × σ) (s : σ) :
    let Ends := Exchange.Course serve (c.deviceTelemetryAt device duration aggregation now).run s
    (∃ v s' sent, Ends v s' sent) ∧
    (TimeWindow.Invalid now duration → ∀ v s' sent, Ends v s' sent ↔
      v = .error (.invalidWindow (TimeWindow.saturatingSub now duration) now) ∧ s' = s ∧
        sent = []) ∧
    (¬ TimeWindow.Invalid now duration → ∃ w : TimeWindow, w.stop = now ∧
      w.start.toInt = max (now.toInt - duration.toInt) Int64.minValue.toInt ∧
      (c.client.base.isOpaque = false →
        let q := c.counterRequest
          (counterQuery device w duration aggregation c.config.diskCounter)
        let r := c.counterRequest (counterQuery device w duration aggregation c.config.cpuCounter)
        c.client.AsksFor q .post "query" ∧ c.client.AsksFor r .post "query" ∧
        ∀ v s' sent, Ends v s' sent ↔ ∃ o p, Exchange.Joint serve q r s o p s' sent ∧
          v = .ok
            { device, window := w, aggregation, interval := intervalFor duration
              disk := c.side device o, cpu := c.side device p }) ∧
      (c.client.base.isOpaque = true → ∃ e, ∀ v s' sent, Ends v s' sent ↔
        v = .ok
          { device, window := w, aggregation, interval := intervalFor duration
            disk := .error e, cpu := .error e } ∧ s' = s ∧ sent = [])) ∧
    (∀ o, Shows device o (c.side device o)) ∧
    ∀ text preset, Address.parse text = .ok device →
      (TimeWindow.Invalid now preset.seconds ↔ now = Int64.minValue) ∧
      ∀ rep s' sent,
        Exchange.Course serve (Report.ofExcept <$>
          (BackendCommand.run c g now (.showTelemetry text preset aggregation)).run) s rep s' sent ↔
        ∃ v, Exchange.Course serve
          (c.deviceTelemetryAt device preset.seconds aggregation now).run s v s' sent ∧
          Reports c g v rep := by
  intro Ends
  refine ⟨⟨_, _, _, Exchange.course_run serve _ s⟩, fun h v s' sent => ?_, fun h => ?_,
    c.side_shows device,
    fun text preset h => ⟨TimeWindow.invalid_preset_iff preset, fun rep s' sent => ?_⟩⟩
  · simp only [Ends, deviceTelemetryAt_run_invalid h]
    exact Exchange.course_done_iff
  · obtain ⟨hinvalid, -⟩ | ⟨-, w, hw, hstop, hstart⟩ := TimeWindow.endingAt_cases now duration
    · exact absurd hinvalid h
    refine ⟨w, hstop, hstart, fun hbase => ?_, fun hbase => ?_⟩
    · refine ⟨c.counterRequest_asksFor _, c.counterRequest_asksFor _, fun v s' sent => ?_⟩
      simp only [Ends, deviceTelemetryAt_run hw, fetchBoth_eq hbase]
      exact Exchange.course_askBoth_iff
    · obtain ⟨e, he⟩ := fetchBoth_opaque hbase device
        (counterQuery device w duration aggregation c.config.diskCounter)
        (counterQuery device w duration aggregation c.config.cpuCounter)
      refine ⟨e, fun v s' sent => ?_⟩
      simp only [Ends, deviceTelemetryAt_run hw, he]
      exact Exchange.course_done_iff
  · rw [showTelemetry_run h]
    simp only [Exchange.course_map_iff, reports_iff]

/-- A body that is JSON shows its points, or a diagnostic where it has none. -/
theorem seriesOf_json {device : Address} {body : String} {raw value : Json} {series : Series}
    (h : SeriesOf device body series) (something : Text.trim body ≠ "")
    (read : Json.read .all body = .ok raw) (means : raw.ReadsAs value) :
    (∃ arrived, Arrives value device arrived ∧ IsStableSort arrived series.samples ∧
      series.diagnostic = none) ∨
    ((¬ ∃ arrived, Arrives value device arrived) ∧
      ∃ reason, series = { diagnostic := some (.malformedTelemetry reason) }) := by
  rw [Json.readsAs_iff] at means
  cases h with
  | blank nothing => exact absurd nothing something
  | noJson _ _ unread => cases read.symm.trans unread
  | malformed reason _ read' means' refused =>
    obtain rfl := Except.ok.inj (read.symm.trans read')
    rw [Json.readsAs_iff, ← means] at means'
    exact .inr ⟨means' ▸ refused, reason, rfl⟩
  | points _ read' means' arrives sorted =>
    obtain rfl := Except.ok.inj (read.symm.trans read')
    rw [Json.readsAs_iff, ← means] at means'
    exact .inl ⟨_, means' ▸ arrives, sorted, rfl⟩

theorem read_number : Json.read .all "[5]" = .ok (.arr [.int 5]) := by
  have htext : (Json.arr [.int 5]).compact = "[5]" := by decide +kernel
  rw [← htext]
  exact Json.read_compact ⟨rfl, by decide, ⟨by decide, by decide⟩, trivial⟩

/-- A number is no point. -/
theorem not_arrives_number (device : Address) :
    ¬ ∃ arrived, Arrives (Json.arr [.int 5]).canonical device arrived := by
  rintro ⟨arrived, harrived⟩
  obtain ⟨_, hbody, -⟩ := arrives_iff.mpr harrived
  cases hbody

/-- Two fields of one name, the first of them no map. -/
def twoData : Json :=
  .obj [("data", .int 5), ("data", .obj [("10.0.0.5", .arr [.arr [.int 5, .int 2]])])]

def twoDataText : String := "\x7b\"data\":5,\"data\":\x7b\"10.0.0.5\":[[5,2]]\x7d\x7d"

theorem read_twoData : Json.read .all twoDataText = .ok twoData := by
  have htext : twoData.compact = twoDataText := by decide +kernel
  have hpoint : Json.FitsItems 124 .all 0 [.arr [.int 5, .int 2]] :=
    ⟨⟨rfl, by decide, ⟨by decide, by decide⟩, ⟨by decide, by decide⟩, trivial⟩, trivial⟩
  rw [← htext]
  exact Json.read_compact ⟨rfl, by decide, ⟨by decide, by decide⟩,
    ⟨rfl, by decide, ⟨rfl, by decide, hpoint⟩, trivial⟩, trivial⟩

/-- The second field is what counts. -/
theorem arrives_twoData {arrived : List Sample} :
    Arrives twoData.canonical ⟨167772165⟩ arrived ↔
      arrived = [⟨5000, ⟨0x4000000000000000⟩⟩] := by
  let points : TelemetryBody := .keyed [("10.0.0.5", [⟨.seconds 5, ⟨0x4000000000000000⟩⟩])]
  have htwo : Binary64.ofInt 2 = ⟨0x4000000000000000⟩ := by decide +kernel
  have hbody : TelemetryBody.ofJson twoData.canonical = .ok points := by
    simp only [points, ← htwo]
    rfl
  have hsamples : (points.pointsFor ⟨167772165⟩).mapM RawPoint.toSample =
      .ok [⟨5000, ⟨0x4000000000000000⟩⟩] := rfl
  rw [← arrives_iff]
  constructor
  · rintro ⟨body, hbody', harrived⟩
    obtain rfl := Except.ok.inj (hbody.symm.trans hbody')
    exact Except.ok.inj (harrived.symm.trans hsamples)
  · rintro rfl
    exact ⟨points, hbody, hsamples⟩

/-- One counter for both sides, and a backend that answers the first request and refuses the next:
whichever query comes first has a series, an empty one, and the command does not fail. A point that
is a number is none, so its body shows a diagnostic; of two fields `data` the last one counts. -/
theorem deviceTelemetryAt_sides_one_counter :
    let c : Console := { ofBackend with
      config := { ofBackend.config with cpuCounter := ofBackend.config.diskCounter } }
    let serve : Request → Nat → Outcome × Nat := fun _ n =>
      (if n = 0 then .answer 200 " " else .refused, n + 1)
    let OneSided (t : DeviceTelemetry) : Prop :=
      (t.disk = .ok {} ∧ ∃ e, t.cpu = .error e) ∨ (t.cpu = .ok {} ∧ ∃ e, t.disk = .error e)
    (∀ v n sent,
      Exchange.Course serve (c.deviceTelemetryAt ⟨167772165⟩ 3600 .avg 5000).run 0 v n sent →
      ∃ t, v = .ok t ∧ OneSided t ∧ sent.length = 2) ∧
    (∀ rep n sent,
      Exchange.Course serve (Report.ofExcept <$> (BackendCommand.run c {} 5000
        (.showTelemetry "10.0.0.5" .lastHour .avg)).run) 0 rep n sent → rep.failure = none) ∧
    (∃ reason, c.side ⟨167772165⟩ (.answer 200 "[5]") =
      .ok { diagnostic := some (.malformedTelemetry reason) }) ∧
    c.side ⟨167772165⟩ (.answer 200 twoDataText) =
      .ok { samples := [⟨5000, ⟨0x4000000000000000⟩⟩] } := by
  intro c serve OneSided
  obtain ⟨-, -, hvalid, hshows, hshow⟩ :=
    deviceTelemetryAt_sides c {} ⟨167772165⟩ 3600 .avg 5000 serve 0
  obtain ⟨w, -, -, hbase, -⟩ := hvalid (by decide)
  obtain ⟨-, -, hends⟩ := hbase rfl
  have hsuccess (body : String) : ∃ series, c.side ⟨167772165⟩ (.answer 200 body) = .ok series ∧
      SeriesOf ⟨167772165⟩ body series :=
    (hshows _).success 200 body rfl (by decide) (by decide)
  have hanswered : c.side ⟨167772165⟩ (.answer 200 " ") = .ok {} := by
    obtain ⟨series, hside, hseries⟩ := hsuccess " "
    have hblank : Text.trim " " = "" := by decide
    rw [hside]
    cases hseries with
    | blank => rfl
    | noJson _ something => exact absurd hblank something
    | malformed _ something => exact absurd hblank something
    | points something => exact absurd hblank something
  have hrefused : ∃ e, c.side ⟨167772165⟩ .refused = .error e :=
    (hshows .refused).failure fun ⟨_, _, h, _⟩ => by cases h
  have hcall (v n sent) (h : Exchange.Course serve
      (c.deviceTelemetryAt ⟨167772165⟩ 3600 .avg 5000).run 0 v n sent) :
      ∃ t, v = .ok t ∧ OneSided t ∧ sent.length = 2 := by
    obtain ⟨o, p, hjoint, rfl⟩ := (hends v n sent).mp h
    cases hjoint with
    | inTurn first second =>
      cases first
      cases second
      exact ⟨_, rfl, .inl ⟨hanswered, hrefused⟩, rfl⟩
    | crossed first second =>
      cases first
      cases second
      exact ⟨_, rfl, .inr ⟨hanswered, hrefused⟩, rfl⟩
  refine ⟨hcall, fun rep n sent h => Option.eq_none_iff_forall_ne_some.mpr fun e he => ?_, ?_, ?_⟩
  · obtain ⟨v, hv, hreports⟩ := ((hshow "10.0.0.5" .lastHour (by decide)).2 rep n sent).mp h
    obtain ⟨t, rfl, hsides, -⟩ := hcall v n sent hv
    obtain ⟨d, p, hdisk, hcpu, -⟩ := ((hreports.shown t rfl).2 e).mp he
    rcases hsides with ⟨hok, -⟩ | ⟨hok, -⟩
    · rw [hdisk] at hok
      cases hok
    · rw [hcpu] at hok
      cases hok
  · obtain ⟨series, hside, hseries⟩ := hsuccess "[5]"
    rcases seriesOf_json hseries (by decide) read_number (Json.readsAs_canonical _) with
      ⟨arrived, harrived, -⟩ | ⟨-, reason, rfl⟩
    · exact absurd ⟨arrived, harrived⟩ (not_arrives_number _)
    · exact ⟨reason, hside⟩
  · obtain ⟨⟨samples, diagnostic⟩, hside, hseries⟩ := hsuccess twoDataText
    rcases seriesOf_json hseries (by decide) read_twoData twoData.readsAs_canonical with
      ⟨arrived, harrived, hsorted, hnone⟩ | ⟨hmalformed, -⟩
    · obtain rfl := arrives_twoData.mp harrived
      obtain rfl : samples = _ := List.perm_singleton.mp hsorted.perm
      obtain rfl : diagnostic = none := hnone
      exact hside
    · exact absurd ⟨_, arrives_twoData.mpr rfl⟩ hmalformed

end Console
end DeviceConsole
