import DeviceConsole.Proofs.Address
import DeviceConsole.Proofs.Telemetry.Body

/-! Keys of a keyed body. The dotted and the decimal forms of different devices are all different,
so that an entry is charted for one device at most, and what is charted for a device depends on the
entries under its own two keys and on nothing else. -/
namespace DeviceConsole

namespace Address

variable {a b : Address}

theorem packedText_toList (a : Address) : a.packedText.toList = Nat.toDigits 10 a.toNat := by
  simp [packedText]

theorem packedText_injective (h : a.packedText = b.packedText) : a = b := by
  have hdigits : Nat.toDigits 10 a.toNat = Nat.toDigits 10 b.toNat := by
    rw [← packedText_toList, h, packedText_toList]
  have hvalue := congrArg (Nat.ofDigitChars 10 · 0) hdigits
  simp only [Nat.ofDigitChars_ten_toDigits] at hvalue
  exact toNat_inj.mp hvalue

theorem point_mem_text (a : Address) : '.' ∈ a.text.toList := by
  simp [text_toList, octets, List.intercalate_cons_cons]

/-- Only the dotted form has points. -/
theorem text_ne_packedText (a b : Address) : a.text ≠ b.packedText := fun h =>
  point_not_mem_toDigits b.toNat (packedText_toList b ▸ h ▸ point_mem_text a)

end Address

namespace TelemetryBody

variable {a b d : Address} {groups groups' : List (String × List RawPoint)}

/-! ### Where points come from -/

/-- The entry that is charted for a device: the one under its dotted key or, where no entry has that
key, the one under its decimal key. -/
inductive ChartedFrom (groups : List (String × List RawPoint)) (d : Address) :
    String × List RawPoint → Prop
  | dotted {points : List RawPoint} (entry : groups.lookup d.text = some points) :
      ChartedFrom groups d (d.text, points)
  | decimal {points : List RawPoint} (missing : groups.lookup d.text = none)
      (entry : groups.lookup d.packedText = some points) :
      ChartedFrom groups d (d.packedText, points)

theorem ChartedFrom.device_unique {e : String × List RawPoint} (ha : ChartedFrom groups a e)
    (hb : ChartedFrom groups b e) : a = b := by
  obtain ⟨key, points⟩ := e
  generalize he : (key, points) = e at hb
  cases ha with
  | dotted =>
    cases hb with
    | dotted => exact Address.text_injective (Prod.mk.inj he).1
    | decimal => exact absurd (Prod.mk.inj he).1 (Address.text_ne_packedText a b)
  | decimal =>
    cases hb with
    | dotted => exact absurd (Prod.mk.inj he).1.symm (Address.text_ne_packedText b a)
    | decimal => exact Address.packedText_injective (Prod.mk.inj he).1

/-- The points of a device are those of the entry it is charted from, and there are none without
one. -/
theorem pointsFor_cases (groups : List (String × List RawPoint)) (d : Address) :
    (∃ e, ChartedFrom groups d e ∧ pointsFor d (.keyed groups) = e.2) ∨
      (∀ e, ¬ ChartedFrom groups d e) ∧ pointsFor d (.keyed groups) = [] := by
  rw [pointsFor]
  cases hdotted : groups.lookup d.text with
  | some points => exact .inl ⟨_, .dotted hdotted, rfl⟩
  | none =>
    cases hdecimal : groups.lookup d.packedText with
    | some points => exact .inl ⟨_, .decimal hdotted hdecimal, rfl⟩
    | none =>
      refine .inr ⟨fun e he => ?_, rfl⟩
      cases he with
      | dotted h => cases hdotted.symm.trans h
      | decimal _ h => cases hdecimal.symm.trans h

/-! ### What the other entries hold -/

/-- The same entries, or none, under the two keys of a device. -/
structure SameEntries {α : Type} (d : Address) (xs ys : List (String × α)) : Prop where
  dotted : xs.lookup d.text = ys.lookup d.text
  decimal : xs.lookup d.packedText = ys.lookup d.packedText

theorem samplesFor_congr (h : SameEntries d groups groups') :
    samplesFor d (.keyed groups) = samplesFor d (.keyed groups') := by
  rw [samplesFor, samplesFor, pointsFor, pointsFor, h.dotted, h.decimal]

/-- A response with these entries in its `data`, and the body it is read as. -/
structure IsKeyed (raw : Json) (data : List (String × Json)) (body : TelemetryBody) : Prop where
  entries : ∃ fields, raw = .obj fields ∧ fields.lookup "data" = some (.obj data)
  read : ofJson raw = .ok body

theorem IsKeyed.exists_groups {raw : Json} {data : List (String × Json)} {body : TelemetryBody}
    (h : IsKeyed raw data body) :
    ∃ read, TelemetryBody.groups data = .ok read ∧ body = .keyed read := by
  obtain ⟨⟨fields, rfl, hdata⟩, hread⟩ := h
  simp only [ofJson, find?_data, hdata, Option.map_some, ofData] at hread
  cases hgroups : TelemetryBody.groups data with
  | error e =>
    rw [hgroups] at hread
    cases hread
  | ok read =>
    rw [hgroups] at hread
    cases hread
    exact ⟨read, rfl, rfl⟩

/-- An entry of the body is what is read of the entry under the same key. -/
theorem lookup_groups {data : List (String × Json)} {read : List (String × List RawPoint)}
    (h : TelemetryBody.groups data = .ok read) (key : String) :
    read.lookup key = (data.lookup key).bind fun j => (points j).toOption := by
  induction data generalizing read with
  | nil =>
    cases h
    rfl
  | cons entry data ih =>
    obtain ⟨name, j⟩ := entry
    rw [TelemetryBody.groups] at h
    cases hpoints : points j with
    | error e =>
      rw [hpoints] at h
      cases h
    | ok ps =>
      cases hrest : TelemetryBody.groups data with
      | error e =>
        rw [hpoints, hrest] at h
        cases h
      | ok rest =>
        rw [hpoints, hrest] at h
        cases h
        rw [lookup_cons_eq_ite, lookup_cons_eq_ite]
        split
        · rw [Option.bind_some, hpoints]
          rfl
        · exact ih hrest

theorem IsKeyed.samplesFor_congr {raw raw' : Json} {data data' : List (String × Json)}
    {body body' : TelemetryBody} (h : IsKeyed raw data body) (h' : IsKeyed raw' data' body')
    (hsame : SameEntries d data data') : body.samplesFor d = body'.samplesFor d := by
  obtain ⟨read, hread, rfl⟩ := h.exists_groups
  obtain ⟨read', hread', rfl⟩ := h'.exists_groups
  refine TelemetryBody.samplesFor_congr ⟨?_, ?_⟩
  · rw [lookup_groups hread, lookup_groups hread', hsame.dotted]
  · rw [lookup_groups hread, lookup_groups hread', hsame.decimal]

/-- No key of a device is a key of another, so that no entry is charted for two devices; and of two
responses that agree on the entries under the keys of a device, the device gets the same samples or
the same refusal, whatever stands under other keys. -/
theorem samplesFor_apart :
    (∀ a b : Address, a ≠ b → a.text ≠ b.text ∧ a.text ≠ b.packedText ∧
      a.packedText ≠ b.text ∧ a.packedText ≠ b.packedText) ∧
    (∀ groups e a b, ChartedFrom groups a e → ChartedFrom groups b e → a = b) ∧
    (∀ groups d, (∃ e, ChartedFrom groups d e ∧ pointsFor d (.keyed groups) = e.2) ∨
      (∀ e, ¬ ChartedFrom groups d e) ∧ pointsFor d (.keyed groups) = []) ∧
    (∀ d groups groups', SameEntries d groups groups' →
      samplesFor d (.keyed groups) = samplesFor d (.keyed groups')) ∧
    ∀ d raw raw' data data' body body', IsKeyed raw data body → IsKeyed raw' data' body' →
      SameEntries d data data' → body.samplesFor d = body'.samplesFor d := by
  refine ⟨fun a b hne => ⟨fun h => hne (Address.text_injective h), Address.text_ne_packedText a b,
    (Address.text_ne_packedText b a).symm, fun h => hne (Address.packedText_injective h)⟩,
    fun _ _ _ _ => ChartedFrom.device_unique, pointsFor_cases, fun _ _ _ => samplesFor_congr,
    fun _ _ _ _ _ _ _ => IsKeyed.samplesFor_congr⟩

/-- One device by its dotted key, beside another by its decimal key whose time cannot be read. -/
theorem samplesFor_apart_unreadable :
    let near : Address := .ofOctets 10 0 0 1
    let far : Address := .ofOctets 10 0 0 2
    let point : Json := .arr [.arr [.int 5, .int 1]]
    let data := [(far.packedText, .arr [.arr [.str "soon", .int 2]]), (near.text, point)]
    let alone := [(near.text, point)]
    ∃ body body', IsKeyed (.obj [("data", .obj data)]) data body ∧
      IsKeyed (.obj [("data", .obj alone)]) alone body' ∧ SameEntries near data alone ∧
      body.samplesFor near = .ok [⟨5000, .ofInt 1⟩] ∧ body.samplesFor near = body'.samplesFor near ∧
      body.samplesFor far = .error "timestamp \"soon\" is not an integer" ∧
      near.text ≠ far.packedText := by
  intro near far point data alone
  obtain ⟨hkeys, -, -, -, hsamples⟩ := samplesFor_apart
  obtain ⟨-, hdotted, -, hdecimal⟩ := hkeys near far (by decide)
  let own : String × List RawPoint := (near.text, [⟨.seconds 5, .ofInt 1⟩])
  let other : String × List RawPoint := (far.packedText, [⟨.text "soon", .ofInt 2⟩])
  have hdata : IsKeyed (.obj [("data", .obj data)]) data (.keyed [other, own]) :=
    ⟨⟨_, rfl, rfl⟩, rfl⟩
  have halone : IsKeyed (.obj [("data", .obj alone)]) alone (.keyed [own]) :=
    ⟨⟨_, rfl, rfl⟩, rfl⟩
  have hsame : SameEntries near data alone :=
    ⟨(lookup_cons_eq_ite ..).trans (if_neg hdotted),
      (lookup_cons_eq_ite ..).trans (if_neg hdecimal)⟩
  have hnear : samplesFor near (.keyed [other, own]) = .ok [⟨5000, .ofInt 1⟩] := by
    have hpoints : pointsFor near (.keyed [other, own]) = own.2 := by decide +kernel
    have harrived : own.2.mapM RawPoint.toSample = .ok [⟨5000, .ofInt 1⟩] := rfl
    rw [samplesFor, hpoints, harrived]
    exact congrArg Except.ok (List.mergeSort_singleton _)
  have hfar : samplesFor far (.keyed [other, own]) =
      .error "timestamp \"soon\" is not an integer" := by
    have hpoints : pointsFor far (.keyed [other, own]) = other.2 := by decide +kernel
    have hrefused : other.2.mapM RawPoint.toSample =
      .error "timestamp \"soon\" is not an integer" := by decide +kernel
    rw [samplesFor, hpoints, hrefused]
    rfl
  exact ⟨_, _, hdata, halone, hsame, hnear, hsamples near _ _ _ _ _ _ hdata halone hsame, hfar,
    hdotted⟩

end TelemetryBody
end DeviceConsole
