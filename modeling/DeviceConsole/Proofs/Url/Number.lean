import DeviceConsole.Proofs.Address
import DeviceConsole.Proofs.Json.Field
import DeviceConsole.Url.Host
import Mathlib.Algebra.Group.Nat.Defs
import Mathlib.Data.List.Induction
import Mathlib.Tactic.SplitIfs

/-! Hosts that are numbers. Four decimal octets read as the address they are the dotted form of, and
eight pieces in hexadecimal, the longest run of zeros left out, read as those pieces. -/
namespace DeviceConsole.Url

theorem exists_of_mapM {α β : Type} {f : α → Option β} {as : List α} {bs : List β}
    (h : as.mapM f = some bs) : ∀ b ∈ bs, ∃ a ∈ as, f a = some b := by
  induction mapM_some_iff.mp h with
  | nil => simp
  | cons hab hrest ih =>
    refine List.forall_mem_cons.mpr ⟨⟨_, by simp, hab⟩, fun b hb => ?_⟩
    obtain ⟨a, ha, hread⟩ := ih (mapM_some_iff.mpr hrest) b hb
    exact ⟨a, List.mem_cons_of_mem _ ha, hread⟩

theorem forall_of_mapM {α β : Type} {f : α → Option β} {P : β → Prop}
    (hf : ∀ a b, f a = some b → P b) {as : List α} {bs : List β} (h : as.mapM f = some bs) :
    ∀ b ∈ bs, P b := by
  intro b hb
  obtain ⟨a, -, hread⟩ := exists_of_mapM h b hb
  exact hf a b hread

/-! ### Dotted addresses -/

theorem ipv4Number?_toDigits {n : Nat} (h : n < 256) :
    ipv4Number? (Nat.toDigits 10 n) = some n := by
  revert n
  decide +kernel

theorem dottedParts_text (a : Address) :
    dottedParts a.text.toList = a.octets.map (Nat.toDigits 10) := by
  have hlast : (a.octets.map (Nat.toDigits 10)).getLast? ≠ some [] := by
    simp [Address.octets, Nat.toDigits_ne_nil]
  simp only [dottedParts, Address.splitOn_text, if_neg hlast]

theorem endsInNumber_text (a : Address) : endsInNumber a.text.toList = true := by
  have hdigits := Decimal.isDigits_toDigits (a.toNat % 256)
  simp only [Decimal.isDigits, Bool.and_eq_true] at hdigits
  simp [endsInNumber, dottedParts_text, Address.octets, hdigits.1, hdigits.2]

theorem ipv4?_text (a : Address) : ipv4? a.text.toList = some a.toNat := by
  have hlt : a.toNat < 4294967296 := a.packed.toNat_lt
  have hnumbers : (a.octets.map (Nat.toDigits 10)).mapM ipv4Number? = some a.octets := by
    simp only [Address.octets, List.map_cons, List.map_nil, List.mapM_cons, List.mapM_nil]
    rw [ipv4Number?_toDigits (by omega), ipv4Number?_toDigits (by omega),
      ipv4Number?_toDigits (by omega), ipv4Number?_toDigits (by omega)]
    rfl
  rw [ipv4?, dottedParts_text]
  simp only [hnumbers, Option.bind_eq_bind, Option.bind_some]
  simp [Address.octets, twoTo]
  omega

theorem twoTo_octet (k : Nat) : twoTo (8 * (k + 1)) = 256 * twoTo (8 * k) :=
  (Nat.pow_add 2 (8 * k) 8).trans (Nat.mul_comm _ _)

/-- Octets from place `i` on add less than the weight of that place. -/
theorem weighted_add_le {front : List Nat} (hoctet : ∀ k ∈ front, k ≤ 255) (i last : Nat)
    (hi : i + front.length ≤ 4) :
    (front.zipIdx i).foldl (fun sum n => sum + n.1 * twoTo (8 * (3 - n.2))) last +
      twoTo (8 * (4 - (i + front.length))) ≤ last + twoTo (8 * (4 - i)) := by
  induction front generalizing i last with
  | nil => simp
  | cons a front ih =>
    obtain ⟨ha, hfront⟩ := List.forall_mem_cons.mp hoctet
    rw [List.length_cons] at hi
    have htail := ih hfront (i + 1) (last + a * twoTo (8 * (3 - i))) (by omega)
    have hplace : twoTo (8 * (4 - i)) = 256 * twoTo (8 * (3 - i)) := by
      rw [← twoTo_octet, show 3 - i + 1 = 4 - i by omega]
    have hweight := Nat.mul_le_mul_right (twoTo (8 * (3 - i))) ha
    rw [show i + 1 + front.length = i + (a :: front).length by rw [List.length_cons]; omega,
      show 4 - (i + 1) = 3 - i by omega] at htail
    rw [List.zipIdx_cons, List.foldl_cons]
    simp only
    omega

/-- What is read as an IPv4 address is one. -/
theorem ipv4?_lt {cs : List Char} {n : Nat} (h : ipv4? cs = some n) : n < 4294967296 := by
  unfold ipv4? at h
  simp only [Option.bind_eq_bind] at h
  split at h
  · simp at h
  · rename_i hparts
    obtain ⟨numbers, hnumbers, h⟩ := Option.bind_eq_some_iff.mp h
    obtain ⟨last, hlast, h⟩ := Option.bind_eq_some_iff.mp h
    have hlength := (mapM_some_iff.mp hnumbers).length_eq
    obtain ⟨front, rfl⟩ := List.getLast?_eq_some_iff.mp hlast
    simp only [List.dropLast_concat, Bool.or_eq_true, decide_eq_true_eq] at h
    split at h
    · simp at h
    · rename_i hranges
      obtain ⟨hfront, hlt⟩ := not_or.mp hranges
      simp only [List.length_append, List.length_singleton] at hlength
      have hsum := weighted_add_le (by simpa using hfront) 0 last (by omega)
      rw [Nat.zero_add] at hsum
      rw [← Option.some.inj h]
      have hweight : twoTo (8 * (4 - 0)) = 4294967296 := rfl
      omega

theorem ipv4Text_eq {n : Nat} (h : n < 4294967296) : ipv4Text n = (Address.ofNat n).text := by
  have htoNat : (Address.ofNat n).toNat = n := UInt32.toNat_ofNat_of_lt' h
  rw [ipv4Text, Address.text, Address.octets, htoNat]

/-! ### Hexadecimal pieces -/

theorem hexValue?_digitChar {d : Nat} (h : d < 16) : hexValue? d.digitChar = some d := by
  revert d
  decide

/-- The value of hexadecimal digits. -/
def hexValue (vs : List Nat) : Nat := vs.foldl (fun n v => 16 * n + v) 0

theorem hexValue_concat (vs : List Nat) (v : Nat) : hexValue (vs ++ [v]) = 16 * hexValue vs + v := by
  simp [hexValue]

theorem hexValue?_toDigits (n : Nat) :
    ∃ vs, (Nat.toDigits 16 n).mapM hexValue? = some vs ∧ hexValue vs = n := by
  induction n using Nat.strongRecOn with
  | ind n ih =>
    rcases Nat.lt_or_ge n 16 with hlt | hge
    · refine ⟨[n], ?_, by simp [hexValue]⟩
      rw [Nat.toDigits_of_lt_base hlt]
      simp [hexValue?_digitChar hlt]
    · obtain ⟨vs, hvs, hvalue⟩ := ih (n / 16) (by omega)
      refine ⟨vs ++ [n % 16], ?_, ?_⟩
      · rw [Nat.toDigits_of_base_le (by decide) hge, List.mapM_append, hvs]
        simp [hexValue?_digitChar (Nat.mod_lt n (by decide))]
      · rw [hexValue_concat, hvalue]
        omega

theorem hexValue?_bounds {c : Char} {n : Nat} (h : hexValue? c = some n) :
    48 ≤ c.toNat ∧ n < 16 := by
  unfold hexValue? at h
  simp only [Bool.and_eq_true, decide_eq_true_eq, Char.le_def, UInt32.le_iff_toNat_le] at h
  change (if c.isDigit = true then some (c.toNat - 48) else
    if 97 ≤ c.toNat ∧ c.toNat ≤ 102 then some (c.toNat - 87) else
    if 65 ≤ c.toNat ∧ c.toNat ≤ 70 then some (c.toNat - 55) else none) = some n at h
  split_ifs at h with hdigit hlower hupper
  · have := Decimal.digit_toNat hdigit
    cases h
    omega
  · cases h
    omega
  · cases h
    omega

theorem hexValue_lt {vs : List Nat} (h : ∀ v ∈ vs, v < 16) : hexValue vs < 16 ^ vs.length := by
  induction vs using List.reverseRecOn with
  | nil => simp [hexValue]
  | append_singleton vs v ih =>
    have hvs := ih fun w hw => h w (by simp [hw])
    have hv := h v (by simp)
    rw [hexValue_concat, List.length_append, List.length_singleton, Nat.pow_succ]
    omega

theorem ipv6Piece?_toDigits {p : Nat} (h : p < 65536) :
    ipv6Piece? (Nat.toDigits 16 p) = some p := by
  obtain ⟨vs, hvs, hvalue⟩ := hexValue?_toDigits p
  have hlength : (Nat.toDigits 16 p).length ≤ 4 :=
    (Nat.length_toDigits_le_iff (by decide) (by decide)).mpr h
  have hshort : ¬ 4 < (Nat.toDigits 16 p).length := by omega
  rw [ipv6Piece?, hvs, if_neg (by simp [Nat.toDigits_ne_nil, hshort])]
  exact congrArg some hvalue

theorem ipv6Piece?_lt {cs : List Char} {p : Nat} (h : ipv6Piece? cs = some p) : p < 65536 := by
  unfold ipv6Piece? at h
  split at h
  · cases h
  · rename_i hshape
    obtain ⟨vs, hvs, rfl⟩ := Option.map_eq_some_iff.mp h
    have hlength := (mapM_some_iff.mp hvs).length_eq
    have hdigit : ∀ v ∈ vs, v < 16 := forall_of_mapM (fun _ _ hv => (hexValue?_bounds hv).2) hvs
    have hshort : vs.length ≤ 4 := by
      simp only [Bool.or_eq_true, decide_eq_true_eq, not_or] at hshape
      omega
    calc hexValue vs < 16 ^ vs.length := hexValue_lt hdigit
      _ ≤ 16 ^ 4 := Nat.pow_le_pow_right (by decide) hshort

theorem hexValue?_of_mem_toDigits {n : Nat} {c : Char} (h : c ∈ Nat.toDigits 16 n) :
    hexValue? c ≠ none := by
  obtain ⟨vs, hvs, -⟩ := hexValue?_toDigits n
  intro hnone
  rw [mapM_none_iff.mpr ⟨c, h, hnone⟩] at hvs
  cases hvs

theorem not_mem_toDigits {n : Nat} {c : Char} (h : hexValue? c = none) : c ∉ Nat.toDigits 16 n :=
  fun hc => hexValue?_of_mem_toDigits hc h

/-- Pieces with colons between them. -/
def hexText (ps : List Nat) : List Char := [':'].intercalate (ps.map (Nat.toDigits 16))

theorem hexText_cons_cons (p q : Nat) (ps : List Nat) :
    hexText (p :: q :: ps) = Nat.toDigits 16 p ++ ':' :: hexText (q :: ps) := by
  simp [hexText]

theorem hexText_singleton (p : Nat) : hexText [p] = Nat.toDigits 16 p := by
  simp [hexText]

/-- A text of pieces starts with a digit. -/
theorem hexText_cons_head (p : Nat) (ps : List Nat) :
    ∃ c cs, hexText (p :: ps) = c :: cs ∧ c ≠ ':' := by
  obtain ⟨c, cs, hp⟩ := List.exists_cons_of_ne_nil (Nat.toDigits_ne_nil (n := p) (b := 16))
  have hc : c ≠ ':' := by
    rintro rfl
    exact not_mem_toDigits (n := p) (c := ':') (by decide) (by simp [hp])
  cases ps with
  | nil => exact ⟨c, cs, by rw [hexText_singleton, hp], hc⟩
  | cons q ps => exact ⟨c, cs ++ ':' :: hexText (q :: ps), by simp [hexText_cons_cons, hp], hc⟩

theorem mem_hexText {ps : List Nat} {c : Char} (h : c ∈ hexText ps) :
    hexValue? c ≠ none ∨ c = ':' := by
  induction ps with
  | nil => simp [hexText] at h
  | cons p ps ih =>
    cases ps with
    | nil => exact .inl (hexValue?_of_mem_toDigits (hexText_singleton p ▸ h))
    | cons q ps =>
      rw [hexText_cons_cons, List.mem_append, List.mem_cons] at h
      rcases h with h | h | h
      · exact .inl (hexValue?_of_mem_toDigits h)
      · exact .inr h
      · exact ih h

theorem splitOn_hexText {ps : List Nat} (h : ps ≠ []) :
    (hexText ps).splitOn ':' = ps.map (Nat.toDigits 16) := by
  apply List.splitOn_intercalate
  · intro digits hdigits
    obtain ⟨p, -, rfl⟩ := List.mem_map.mp hdigits
    exact not_mem_toDigits (by decide)
  · simpa using h

theorem ipv6Pieces?_hexText {ps : List Nat} (h : ∀ p ∈ ps, p < 65536) (last : Bool) :
    ipv6Pieces? (hexText ps) last = some ps := by
  cases hps : ps with
  | nil => rfl
  | cons p rest =>
    rw [← hps]
    have hne : ps ≠ [] := by simp [hps]
    obtain ⟨c, cs, htext, -⟩ := hexText_cons_head p rest
    have hfull : (hexText ps).isEmpty = false := by simp [hps, htext]
    obtain ⟨tail, htail⟩ : ∃ tail, ps.getLast? = some tail :=
      ⟨_, List.getLast?_eq_some_getLast hne⟩
    have hread : (ps.map (Nat.toDigits 16)).mapM ipv6Piece? = some ps := by
      rw [mapM_some_iff, List.forall₂_map_left_iff, List.forall₂_same]
      exact fun q hq => ipv6Piece?_toDigits (h q hq)
    have hpoint : (Nat.toDigits 16 tail).contains '.' = false := by
      simpa using not_mem_toDigits (n := tail) (c := '.') (by decide)
    rw [ipv6Pieces?, hfull]
    simp only [Bool.false_eq_true, ↓reduceIte, splitOn_hexText hne, List.getLast?_map, htail,
      Option.map_some, hpoint, Bool.and_false, hread]

theorem splitDouble_append {cs : List Char} (h : ':' ∉ cs) (rest : List Char) :
    splitDouble (cs ++ rest) = (splitDouble rest).map fun r => (cs ++ r.1, r.2) := by
  induction cs with
  | nil => simp
  | cons c cs ih =>
    have hc : c ≠ ':' := fun he => h (by simp [he])
    rw [List.cons_append, splitDouble.eq_2 _ _ fun _ he => absurd he hc,
      ih fun hmem => h (by simp [hmem]), Option.map_map]
    rfl

/-- Single colons between the pieces are passed over. -/
theorem splitDouble_hexText (ps : List Nat) (rest : List Char) :
    splitDouble (hexText ps ++ rest) =
      (splitDouble rest).map fun r => (hexText ps ++ r.1, r.2) := by
  have hcolon (p : Nat) : ':' ∉ Nat.toDigits 16 p := not_mem_toDigits (by decide)
  induction ps with
  | nil => simp [hexText]
  | cons p ps ih =>
    cases ps with
    | nil => rw [hexText_singleton, splitDouble_append (hcolon p)]
    | cons q ps =>
      obtain ⟨c, cs, htext, hc⟩ := hexText_cons_head q ps
      have hsingle : splitDouble (':' :: (hexText (q :: ps) ++ rest)) =
          (splitDouble (hexText (q :: ps) ++ rest)).map fun r => (':' :: r.1, r.2) := by
        rw [htext, List.cons_append,
          splitDouble.eq_2 _ _ fun _ _ he => absurd (List.cons.inj he).1 hc]
      rw [hexText_cons_cons, List.append_assoc, List.cons_append, splitDouble_append (hcolon p),
        hsingle, ih]
      simp [Option.map_map, Function.comp_def]

/-! ### The longest run of zeros -/

/-- Two or more zeros from one place on, and no more there. -/
def IsRun (ps : List Nat) (r : Nat × Nat) : Prop :=
  1 < r.2 ∧ ((ps.drop r.1).takeWhile (· = 0)).length = r.2

/-- What is chosen among runs is a run. -/
theorem isRun_of_foldl {ps : List Nat} {runs : List (Nat × Nat)} {best : Option (Nat × Nat)}
    (hruns : ∀ r ∈ runs, ((ps.drop r.1).takeWhile (· = 0)).length = r.2)
    (hbest : ∀ r, best = some r → IsRun ps r) {r : Nat × Nat}
    (h : runs.foldl (fun best r =>
      if 1 < r.2 && (best.map (·.2)).getD 0 < r.2 then some r else best) best = some r) :
    IsRun ps r := by
  induction runs generalizing best with
  | nil => exact hbest r h
  | cons q runs ih =>
    rw [List.foldl_cons] at h
    refine ih (fun r hr => hruns r (by simp [hr])) (fun r' hr' => ?_) h
    split at hr'
    · rename_i hlonger
      cases hr'
      simp only [Bool.and_eq_true, decide_eq_true_eq] at hlonger
      exact ⟨hlonger.1, hruns q (by simp)⟩
    · exact hbest r' hr'

theorem zeroRun_isRun {ps : List Nat} {r : Nat × Nat} (h : zeroRun ps = some r) : IsRun ps r := by
  refine isRun_of_foldl (fun r hr => ?_) (fun r hr => by cases hr) h
  obtain ⟨i, -, rfl⟩ := List.mem_map.mp hr
  rfl

/-- The pieces before a run, the zeros of the run, and the pieces after it. -/
theorem IsRun.split {ps : List Nat} {start count : Nat} (h : IsRun ps (start, count)) :
    ps.take start ++ List.replicate count 0 ++ ps.drop (start + count) = ps := by
  have hcount := h.2
  have hzeros : (ps.drop start).takeWhile (· = 0) = List.replicate count 0 := by
    rw [List.eq_replicate_iff]
    exact ⟨hcount, fun p hp => by simpa using List.mem_takeWhile_imp hp⟩
  have hafter : ps.drop (start + count) = (ps.drop start).dropWhile (· = 0) := by
    have happend := List.takeWhile_append_dropWhile (p := (· = 0)) (l := ps.drop start)
    rw [← List.drop_drop, ← happend, List.drop_left' hcount, happend]
  rw [hafter, ← hzeros, List.append_assoc, List.takeWhile_append_dropWhile, List.take_append_drop]

/-! ### Addresses of eight pieces -/

/-- Eight pieces of 16 bits. -/
def IsPieces (ps : List Nat) : Prop := ps.length = 8 ∧ ∀ p ∈ ps, p < 65536

/-- The text between the brackets. -/
def piecesText (ps : List Nat) : List Char :=
  match zeroRun ps with
  | none => hexText ps
  | some (start, count) => hexText (ps.take start) ++ ':' :: ':' :: hexText (ps.drop (start + count))

theorem ipv6Text_toList (ps : List Nat) :
    (ipv6Text ps).toList = '[' :: (piecesText ps ++ [']']) := by
  have hhex (qs : List Nat) :
      (":".intercalate (qs.map fun p => String.ofList (Nat.toDigits 16 p))).toList = hexText qs := by
    simp [hexText, Function.comp_def]
  unfold ipv6Text piecesText
  cases zeroRun ps with
  | none => simp only [String.toList_append, hhex]; rfl
  | some r => simp only [String.toList_append, hhex]; simp

theorem mem_piecesText {ps : List Nat} {c : Char} (h : c ∈ piecesText ps) :
    hexValue? c ≠ none ∨ c = ':' := by
  unfold piecesText at h
  split at h
  · exact mem_hexText h
  · rw [List.mem_append, List.mem_cons, List.mem_cons] at h
    rcases h with h | h | h | h
    · exact mem_hexText h
    · exact .inr h
    · exact .inr h
    · exact mem_hexText h

theorem ipv6?_piecesText {ps : List Nat} (h : IsPieces ps) : ipv6? (piecesText ps) = some ps := by
  obtain ⟨hlength, hsmall⟩ := h
  unfold piecesText
  cases hrun : zeroRun ps with
  | none =>
    have hsplit : splitDouble (hexText ps) = none := by
      simpa [splitDouble] using splitDouble_hexText ps []
    simp [ipv6?, hsplit, ipv6Pieces?_hexText hsmall, hlength]
  | some r =>
    obtain ⟨start, count⟩ := r
    have hisRun := zeroRun_isRun hrun
    have hjoined := hisRun.split
    have hcount : 1 < count := hisRun.1
    have hfront : ∀ p ∈ ps.take start, p < 65536 := fun p hp => hsmall p (List.mem_of_mem_take hp)
    have hback : ∀ p ∈ ps.drop (start + count), p < 65536 := fun p hp =>
      hsmall p (List.mem_of_mem_drop hp)
    have hsum := congrArg List.length hjoined
    simp only [List.length_append, List.length_replicate, hlength] at hsum
    have hsplit : splitDouble
        (hexText (ps.take start) ++ ':' :: ':' :: hexText (ps.drop (start + count))) =
          some (hexText (ps.take start), hexText (ps.drop (start + count))) := by
      rw [splitDouble_hexText]
      simp [splitDouble]
    have hless : (ps.take start).length + (ps.drop (start + count)).length < 8 := by omega
    have hzeros : 8 - (ps.take start).length - (ps.drop (start + count)).length = count := by omega
    simp only [ipv6?, hsplit, ipv6Pieces?_hexText hfront, ipv6Pieces?_hexText hback,
      Option.bind_eq_bind, Option.bind_some, if_pos hless, hzeros, hjoined]

theorem ipv6Tail?_lt {cs : List Char} {ps : List Nat} (h : ipv6Tail? cs = some ps) :
    ∀ p ∈ ps, p < 65536 := by
  unfold ipv6Tail? at h
  simp only [Option.bind_eq_bind] at h
  obtain ⟨octets, hoctets, h⟩ := Option.bind_eq_some_iff.mp h
  have hsmall : ∀ n ∈ octets, n ≤ 255 := by
    refine forall_of_mapM (fun ds n hn => ?_) hoctets
    split_ifs at hn with _ hle
    cases hn
    exact hle
  split at h
  · rename_i a b c d
    cases h
    have ha := hsmall a (by simp)
    have hb := hsmall b (by simp)
    have hc := hsmall c (by simp)
    have hd := hsmall d (by simp)
    intro p hp
    simp only [List.mem_cons, List.not_mem_nil, or_false] at hp
    omega
  · cases h

theorem ipv6Pieces?_lt {cs : List Char} {last : Bool} {ps : List Nat}
    (h : ipv6Pieces? cs last = some ps) : ∀ p ∈ ps, p < 65536 := by
  unfold ipv6Pieces? at h
  simp only [Option.bind_eq_bind] at h
  split at h
  · cases h
    simp
  · split at h
    · cases h
      simp
    · split at h
      · obtain ⟨front, hfront, h⟩ := Option.bind_eq_some_iff.mp h
        obtain ⟨back, hback, h⟩ := Option.bind_eq_some_iff.mp h
        cases h
        intro p hp
        rcases List.mem_append.mp hp with hp | hp
        · exact forall_of_mapM (fun _ _ => ipv6Piece?_lt) hfront p hp
        · exact ipv6Tail?_lt hback p hp
      · exact forall_of_mapM (fun _ _ => ipv6Piece?_lt) h

/-- What is read as an IPv6 address is one. -/
theorem ipv6?_isPieces {cs : List Char} {ps : List Nat} (h : ipv6? cs = some ps) : IsPieces ps := by
  unfold ipv6? at h
  simp only [Option.bind_eq_bind] at h
  split at h
  · obtain ⟨pieces, hpieces, h⟩ := Option.bind_eq_some_iff.mp h
    split_ifs at h with hlength
    cases h
    exact ⟨hlength, ipv6Pieces?_lt hpieces⟩
  · obtain ⟨front, hfront, h⟩ := Option.bind_eq_some_iff.mp h
    obtain ⟨back, hback, h⟩ := Option.bind_eq_some_iff.mp h
    split_ifs at h with hless
    cases h
    refine ⟨?_, fun p hp => ?_⟩
    · simp only [List.length_append, List.length_replicate]
      omega
    · rcases List.mem_append.mp hp with hp | hp
      · rcases List.mem_append.mp hp with hp | hp
        · exact ipv6Pieces?_lt hfront p hp
        · rw [List.eq_of_mem_replicate hp]
          decide
      · exact ipv6Pieces?_lt hback p hp

end DeviceConsole.Url
