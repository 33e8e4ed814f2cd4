import DeviceConsole.Url.Punycode
import Mathlib.Data.List.Sort
import Mathlib.Data.List.TakeWhile
import Mathlib.Tactic.Ring

/-! Punycode reads back what it wrote. The encoder visits the text once for each code point, and
the decoder inserts that code point wherever the encoder met it: both are followed through one
invariant, which holds at every place of every visit. -/
namespace DeviceConsole.Url.Punycode

/-! ### Distances -/

theorem threshold_bounds (k bias : Nat) : 1 ≤ threshold k bias ∧ threshold k bias ≤ 26 := by
  unfold threshold
  omega

theorem digitValue?_digit {d : Nat} (h : d < 36) : digitValue? (digit d) = some d := by
  revert d
  decide

theorem digit_ne_hyphen {d : Nat} (h : d < 36) : digit d ≠ '-' := by
  revert d
  decide

/-- The digits after the first tell what is left of a distance. -/
theorem rest_lt {q k bias : Nat} (h : threshold k bias ≤ q) :
    (q - threshold k bias) / (36 - threshold k bias) < q := by
  have := threshold_bounds k bias
  have := Nat.div_le_self (q - threshold k bias) (36 - threshold k bias)
  omega

theorem encodeDistance_digit (fuel q k bias : Nat) :
    ∀ c ∈ encodeDistance fuel q k bias, ∃ d < 36, c = digit d := by
  induction fuel generalizing q k with
  | zero => simp [encodeDistance]
  | succ fuel ih =>
    obtain ⟨hpos, hle⟩ := threshold_bounds k bias
    simp only [encodeDistance]
    split
    · intro c hc
      exact ⟨q, by omega, List.mem_singleton.mp hc⟩
    · intro c hc
      rcases List.mem_cons.mp hc with rfl | hc
      · have := Nat.mod_lt (q - threshold k bias) (show 0 < 36 - threshold k bias by omega)
        exact ⟨_, by omega, rfl⟩
      · exact ih _ _ c hc

/-- A distance reads back, whatever follows it. -/
theorem decodeDistance_encodeDistance {fuel q : Nat} (k bias i w : Nat) (rest : List Char)
    (h : q < fuel) :
    decodeDistance (encodeDistance fuel q k bias ++ rest) i w k bias = some (i + q * w, rest) := by
  induction fuel generalizing q k i w with
  | zero => omega
  | succ fuel ih =>
    obtain ⟨hpos, hle⟩ := threshold_bounds k bias
    simp only [encodeDistance]
    split
    · rename_i hlt
      simp [decodeDistance, digitValue?_digit (show q < 36 by omega), hlt]
    · rename_i hge
      have hmod := Nat.mod_lt (q - threshold k bias) (show 0 < 36 - threshold k bias by omega)
      have hdigit := digitValue?_digit
        (show threshold k bias + (q - threshold k bias) % (36 - threshold k bias) < 36 by omega)
      have hnot : ¬ threshold k bias + (q - threshold k bias) % (36 - threshold k bias) <
          threshold k bias := by omega
      have hless := rest_lt (Nat.le_of_not_lt hge)
      have hdivmod := Nat.mod_add_div' (q - threshold k bias) (36 - threshold k bias)
      simp only [List.cons_append, decodeDistance, hdigit, Option.bind_eq_bind, Option.bind_some,
        if_neg hnot]
      rw [ih _ _ _ (by omega)]
      -- The first digit and the rest at their weight make up the distance.
      have hq : threshold k bias + (q - threshold k bias) % (36 - threshold k bias) +
          (q - threshold k bias) / (36 - threshold k bias) * (36 - threshold k bias) = q := by
        omega
      generalize (q - threshold k bias) / (36 - threshold k bias) = high at *
      generalize (q - threshold k bias) % (36 - threshold k bias) = low at *
      congr 2
      calc i + (threshold k bias + low) * w + high * (w * (36 - threshold k bias))
          = i + (threshold k bias + low + high * (36 - threshold k bias)) * w := by ring
        _ = i + q * w := by rw [hq]

theorem encodeDistance_ne_nil (fuel q k bias : Nat) :
    encodeDistance (fuel + 1) q k bias ≠ [] := by
  simp only [encodeDistance]
  split <;> simp

/-! ### Encoder and decoder -/

/-- Where a decoder stands. -/
structure Decoding where
  output : List Char
  point : Nat
  place : Nat
  bias : Nat

/-- From one state the digits lead to the other, whatever follows them. -/
def Leads (d : Decoding) (digits : List Char) (d' : Decoding) : Prop :=
  ∃ steps ≤ digits.length, ∀ fuel rest,
    decodeAll (fuel + steps) (digits ++ rest) d.output d.point d.place d.bias =
      decodeAll fuel rest d'.output d'.point d'.place d'.bias

theorem Leads.refl (d : Decoding) : Leads d [] d := ⟨0, by simp, fun _ _ => rfl⟩

theorem Leads.trans {d₁ d₂ d₃ : Decoding} {cs ds : List Char} (h₁ : Leads d₁ cs d₂)
    (h₂ : Leads d₂ ds d₃) : Leads d₁ (cs ++ ds) d₃ := by
  obtain ⟨n, hn, h₁⟩ := h₁
  obtain ⟨m, hm, h₂⟩ := h₂
  refine ⟨m + n, by simp only [List.length_append]; omega, fun fuel rest => ?_⟩
  rw [List.append_assoc, ← Nat.add_assoc, h₁, h₂]

/-- One distance inserts one character: at `p` the one of code point `m`, if the distance spans
just as many insertions. -/
theorem leads_encodeDistance {d : Decoding} {delta p : Nat} {c : Char}
    (hp : p ≤ d.output.length)
    (h : d.point * (d.output.length + 1) + d.place + delta =
      c.toNat * (d.output.length + 1) + p) :
    Leads d (encodeDistance (delta + 1) delta 36 d.bias)
      { output := d.output.take p ++ [c] ++ d.output.drop p
        point := c.toNat
        place := p + 1
        bias := adapt delta (d.output.length + 1) (d.place = 0) } := by
  have hlen := List.length_pos_of_ne_nil (encodeDistance_ne_nil delta delta 36 d.bias)
  refine ⟨1, hlen, fun fuel rest => ?_⟩
  obtain ⟨digit, digits, hd⟩ := List.exists_cons_of_ne_nil
    (encodeDistance_ne_nil delta delta 36 d.bias)
  have hread := decodeDistance_encodeDistance 36 d.bias d.place 1 rest (Nat.lt_succ_self delta)
  rw [hd, List.cons_append, Nat.mul_one] at hread
  have hsize : 0 < d.output.length + 1 := by omega
  have hpoint : d.point + (d.place + delta) / (d.output.length + 1) = c.toNat := by
    rw [← Nat.mul_add_div hsize, Nat.mul_comm, ← Nat.add_assoc, h, Nat.mul_comm,
      Nat.mul_add_div hsize, Nat.div_eq_of_lt (by omega), Nat.add_zero]
  have hplace : (d.place + delta) % (d.output.length + 1) = p := by
    have hmod := congrArg (· % (d.output.length + 1)) h
    simp only [Nat.add_assoc, Nat.mul_add_mod_self_right] at hmod
    rw [hmod, Nat.mod_eq_of_lt (by omega)]
  have hvalid : ¬ 0x110000 ≤ c.toNat := by
    have hscalar := c.valid
    simp only [UInt32.isValidChar, Nat.isValidChar] at hscalar
    change c.toNat < 0xd800 ∨ 0xdfff < c.toNat ∧ c.toNat < 0x110000 at hscalar
    omega
  rw [hd, List.cons_append, decodeAll.eq_3 _ _ _ _ _ _ (by simp)]
  simp only [Option.bind_eq_bind, hread, Option.bind_some, hpoint, hplace, if_neg hvalid,
    Char.ofNat_toNat, Nat.add_sub_cancel_left]

/-- The digits by which the output grows take the decoder from one state to another. -/
def Told (before after : List Char) (d d' : Decoding) : Prop :=
  ∃ digits, after = before ++ digits ∧ (∀ c ∈ digits, ∃ n < 36, c = digit n) ∧ Leads d digits d'

theorem Told.refl (output : List Char) (d : Decoding) : Told output output d d :=
  ⟨[], by simp, by simp, .refl d⟩

theorem Told.trans {output₁ output₂ output₃ : List Char} {d₁ d₂ d₃ : Decoding}
    (h₁ : Told output₁ output₂ d₁ d₂) (h₂ : Told output₂ output₃ d₂ d₃) :
    Told output₁ output₃ d₁ d₃ := by
  obtain ⟨cs, rfl, hdigits, hleads⟩ := h₁
  obtain ⟨ds, rfl, hdigits', hleads'⟩ := h₂
  refine ⟨cs ++ ds, List.append_assoc _ _ _, fun c hc => ?_, hleads.trans hleads'⟩
  exact (List.mem_append.mp hc).elim (hdigits c) (hdigits' c)

/-- While the text is visited for the code point `m`, and its part `front` has been, the decoder
has every smaller character and those of code point `m` in `front`; what the distance spans is the
insertions up to here. -/
structure InStep (basic m : Nat) (front back : List Char) (e : Encoding) (d : Decoding) : Prop where
  output : d.output = front.filter (·.toNat ≤ m) ++ back.filter (·.toNat < m)
  handled : e.handled = d.output.length
  basic_le : basic ≤ e.handled
  bias : d.bias = e.bias
  first : d.place = 0 ↔ e.handled = basic
  distance : d.point * (d.output.length + 1) + d.place + e.delta =
    m * (d.output.length + 1) + (front.filter (·.toNat ≤ m)).length

variable {basic m n : Nat} {front back text : List Char} {e : Encoding} {d : Decoding} {c : Char}

theorem InStep.visit (h : InStep basic m front (c :: back) e d) :
    ∃ d', Told e.output (e.visit basic m c).output d d' ∧
      InStep basic m (front ++ [c]) back (e.visit basic m c) d' := by
  have hout := h.output
  rcases Nat.lt_trichotomy c.toNat m with hlt | heq | hgt
  · -- A smaller character is there already: one more place to pass.
    have hle : c.toNat ≤ m := hlt.le
    have hvisit : e.visit basic m c = { e with delta := e.delta + 1 } := if_pos hlt
    have hdistance := h.distance
    rw [hvisit]
    refine ⟨d, .refl _ d, ?_, h.handled, h.basic_le, h.bias, h.first, ?_⟩
    · simpa [hlt, hle] using hout
    · simp only [List.filter_append, List.length_append, List.filter_singleton, hle,
        decide_true, cond_true, List.length_singleton]
      omega
  · have hvisit : e.visit basic m c =
        { delta := 0
          bias := adapt e.delta (e.handled + 1) (e.handled = basic)
          handled := e.handled + 1
          output := e.output ++ encodeDistance (e.delta + 1) e.delta 36 e.bias } := by
      rw [Encoding.visit, if_neg (by omega), if_pos heq]
    have hprefix : (front.filter (·.toNat ≤ m)).length ≤ d.output.length := by
      rw [hout, List.length_append]
      omega
    have hleads := leads_encodeDistance (c := c) hprefix (by rw [heq]; exact h.distance)
    rw [h.bias] at hleads
    have hinserted : d.output.take (front.filter (·.toNat ≤ m)).length ++ [c] ++
        d.output.drop (front.filter (·.toNat ≤ m)).length =
          (front ++ [c]).filter (·.toNat ≤ m) ++ back.filter (·.toNat < m) := by
      simp [hout, heq]
    have hlength : (d.output.take (front.filter (·.toNat ≤ m)).length ++ [c] ++
        d.output.drop (front.filter (·.toNat ≤ m)).length).length = d.output.length + 1 := by
      simp only [List.length_append, List.length_take, List.length_drop, List.length_singleton]
      omega
    have hbasic := h.basic_le
    have hfirst : decide (d.place = 0) = decide (e.handled = basic) := by simp [h.first]
    rw [hvisit]
    refine ⟨_, ⟨_, rfl, encodeDistance_digit _ _ _ _, hleads⟩, hinserted, ?_, ?_, ?_, ?_, ?_⟩
    · rw [hlength, h.handled]
    · simp only
      omega
    · simp only [h.handled, hfirst]
    · simp only
      omega
    · simp only [hlength, heq, List.filter_append, List.length_append, List.filter_singleton,
        le_refl, decide_true, cond_true, List.length_singleton]
      omega
  · have hvisit : e.visit basic m c = e := by
      rw [Encoding.visit, if_neg (by omega), if_neg (by omega)]
    have hnot : ¬ c.toNat ≤ m := by omega
    have hnot' : ¬ c.toNat < m := by omega
    rw [hvisit]
    refine ⟨d, .refl _ d, ?_, h.handled, h.basic_le, h.bias, h.first, ?_⟩
    · simpa [hnot, hnot'] using hout
    · simpa [hnot] using h.distance

theorem InStep.visitAll (h : InStep basic m front back e d) :
    ∃ d', Told e.output (back.foldl (Encoding.visit basic m) e).output d d' ∧
      InStep basic m (front ++ back) [] (back.foldl (Encoding.visit basic m) e) d' := by
  induction back generalizing front e d with
  | nil => exact ⟨d, .refl _ d, by simpa using h⟩
  | cons c back ih =>
    obtain ⟨d₁, htold₁, h₁⟩ := h.visit
    obtain ⟨d₂, htold₂, h₂⟩ := ih h₁
    exact ⟨d₂, htold₁.trans htold₂, by simpa using h₂⟩

/-- Between two visits the code point may move on to the next one in the text. -/
theorem InStep.advance (h : InStep basic n [] text e d) (hnm : n ≤ m)
    (hgap : ∀ c ∈ text, n ≤ c.toNat → m ≤ c.toNat) :
    InStep basic m [] text { e with delta := e.delta + (m - n) * (e.handled + 1) } d where
  output := by
    rw [h.output]
    simp only [List.filter_nil, List.nil_append]
    apply List.filter_congr
    intro c hc
    have := hgap c hc
    simp only [decide_eq_decide]
    omega
  handled := h.handled
  basic_le := h.basic_le
  bias := h.bias
  first := h.first
  distance := by
    have hdistance := h.distance
    obtain ⟨k, rfl⟩ := Nat.exists_eq_add_of_le hnm
    simp only [List.filter_nil, List.length_nil, Nat.add_zero, h.handled,
      Nat.add_sub_cancel_left, Nat.add_mul] at *
    omega

/-- After a visit the code point above is next. -/
theorem InStep.next (h : InStep basic m text [] e d) :
    InStep basic (m + 1) [] text { e with delta := e.delta + 1 } d where
  output := by
    rw [h.output]
    simp only [List.filter_nil, List.append_nil, List.nil_append]
    exact List.filter_congr fun c _ => decide_eq_decide.mpr Nat.lt_succ_iff.symm
  handled := h.handled
  basic_le := h.basic_le
  bias := h.bias
  first := h.first
  distance := by
    have hdistance := h.distance
    have houtput := congrArg List.length h.output
    simp only [List.filter_nil, List.length_nil, List.append_nil, Nat.add_zero, Nat.add_mul] at *
    omega

/-- The decoder ends up with the text if every code point of it from `n` on gets its visit. -/
theorem InStep.insertAll {ms : List Nat} (h : InStep basic n [] text e d)
    (hn : ∀ m ∈ ms, n ≤ m) (hms : ms.Pairwise (· < ·))
    (hall : ∀ c ∈ text, n ≤ c.toNat → c.toNat ∈ ms) :
    ∃ d', Told e.output (insertAll basic text n e ms).output d d' ∧ d'.output = text := by
  induction ms generalizing n e d with
  | nil =>
    refine ⟨d, .refl _ d, ?_⟩
    rw [h.output, List.filter_nil, List.nil_append, List.filter_eq_self]
    intro c hc
    by_contra hnot
    simpa using hall c hc (by simpa using hnot)
  | cons m ms ih =>
    have hnm := hn m (by simp)
    obtain ⟨hm, hms⟩ := List.pairwise_cons.mp hms
    have hgap (c : Char) (hc : c ∈ text) (hnc : n ≤ c.toNat) : m ≤ c.toNat := by
      rcases List.mem_cons.mp (hall c hc hnc) with heq | hmem
      · exact heq.ge
      · exact (hm _ hmem).le
    have hlater (c : Char) (hc : c ∈ text) (hmc : m + 1 ≤ c.toNat) : c.toNat ∈ ms := by
      rcases List.mem_cons.mp (hall c hc (by omega)) with heq | hmem
      · omega
      · exact hmem
    obtain ⟨d₁, htold, h₁⟩ := (h.advance hnm hgap).visitAll
    obtain ⟨d₂, htold', houtput⟩ := ih h₁.next hm hms hlater
    exact ⟨d₂, htold.trans htold', houtput⟩

theorem pairwise_lt_eraseDups {ns : List Nat} (h : ns.Pairwise (· ≤ ·)) :
    ns.eraseDups.Pairwise (· < ·) := by
  induction hlen : ns.length using Nat.strongRecOn generalizing ns with
  | ind k ih =>
    cases ns with
    | nil => simp
    | cons n ns =>
      obtain ⟨hn, hns⟩ := List.pairwise_cons.mp h
      have hshorter := List.length_filter_le (fun m => !m == n) ns
      rw [List.eraseDups_cons, List.pairwise_cons]
      refine ⟨fun m hm => ?_, ih _ (by simp at hlen; omega) (hns.filter _) rfl⟩
      obtain ⟨hm, hne⟩ := List.mem_filter.mp (List.mem_eraseDups.mp hm)
      have := hn m hm
      have : m ≠ n := by simpa using hne
      omega

/-! ### Whole labels -/

/-- The characters before the inserted ones, with the hyphen that sets them apart. -/
def opening (text : List Char) : List Char :=
  let basic := text.filter fun c => c.toNat < 0x80
  if basic.isEmpty then [] else basic ++ ['-']

theorem encode_told (text : List Char) :
    ∃ d, Told (opening text) (encode text)
      { output := text.filter fun c => c.toNat < 0x80, point := 0x80, place := 0, bias := 72 } d ∧
      d.output = text := by
  refine InStep.insertAll (n := 0x80) (e := ⟨0, 72, _, opening text⟩)
    ⟨by simp, rfl, le_refl _, rfl, by simp, by simp⟩ (fun m hm => ?_) ?_ fun c hc h => ?_
  · have := List.mem_filter.mp (List.mem_mergeSort.mp (List.mem_eraseDups.mp hm))
    simpa using this.2
  · apply pairwise_lt_eraseDups
    exact List.pairwise_mergeSort' (· ≤ ·) _
  · rw [List.mem_eraseDups, List.mem_mergeSort, List.mem_filter]
    exact ⟨List.mem_map_of_mem hc, by simpa using h⟩

/-- The decoder finds the digits behind the last hyphen. -/
theorem decode?_opening (text : List Char) {digits : List Char} (h : '-' ∉ digits) :
    decode? (opening text ++ digits) =
      decodeAll (digits.length + 1) digits (text.filter fun c => c.toNat < 0x80) 0x80 0 72 := by
  have hdigits : ∀ c ∈ digits.reverse, decide (c ≠ '-') = true := by
    intro c hc
    have hne : c ≠ '-' := fun he => h (he ▸ List.mem_reverse.mp hc)
    simpa using hne
  unfold opening
  generalize (text.filter fun c => decide (c.toNat < 0x80)) = basic
  simp only
  split
  · rename_i hbasic
    have htail : digits.reverse.takeWhile (fun c => decide (c ≠ '-')) = digits.reverse :=
      List.takeWhile_eq_self_iff.mpr hdigits
    rw [List.isEmpty_iff.mp hbasic, List.nil_append, decode?, htail]
    simp
  · have htail : (basic ++ ['-'] ++ digits).reverse.takeWhile (fun c => decide (c ≠ '-')) =
        digits.reverse := by
      rw [List.reverse_append, List.takeWhile_append_of_pos hdigits]
      simp
    have hlonger : digits.length ≠ (basic ++ ['-'] ++ digits).length := by
      simp only [List.length_append, List.length_singleton]
      omega
    have htake : (basic ++ ['-'] ++ digits).take
        ((basic ++ ['-'] ++ digits).length - digits.length - 1) = basic := by
      rw [List.append_assoc, List.take_left']
      simp only [List.length_append, List.length_singleton]
      omega
    rw [decode?, htail, List.reverse_reverse]
    simp only [if_neg hlonger, htake]

theorem decode?_encode (text : List Char) : decode? (encode text) = some text := by
  obtain ⟨d, ⟨digits, hencode, hdigits, steps, hsteps, hleads⟩, houtput⟩ := encode_told text
  have hhyphen : '-' ∉ digits := by
    intro hmem
    obtain ⟨n, hn, he⟩ := hdigits _ hmem
    exact digit_ne_hyphen hn he.symm
  have hrun := hleads (digits.length - steps + 1) []
  rw [show digits.length - steps + 1 + steps = digits.length + 1 by omega, List.append_nil] at hrun
  rw [hencode, decode?_opening text hhyphen, hrun, decodeAll, houtput]

/-- An encoded text has the characters the text has in ASCII, and hyphens and digits besides. -/
theorem mem_encode {text : List Char} {c : Char} (h : c ∈ encode text) :
    (c ∈ text ∧ c.toNat < 0x80) ∨ c = '-' ∨ ∃ n < 36, c = digit n := by
  obtain ⟨d, ⟨digits, hencode, hdigits, -⟩, -⟩ := encode_told text
  rw [hencode] at h
  rcases List.mem_append.mp h with h | h
  · unfold opening at h
    simp only at h
    split at h
    · simp at h
    · rcases List.mem_append.mp h with h | h
      · exact .inl (by simpa using List.mem_filter.mp h)
      · exact .inr (.inl (by simpa using h))
  · exact .inr (.inr (hdigits c h))

end DeviceConsole.Url.Punycode
