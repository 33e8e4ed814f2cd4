import DeviceConsole.Proofs.Text.LowerCase
import DeviceConsole.Proofs.Text.Parts
import DeviceConsole.Proofs.Url.Number
import DeviceConsole.Proofs.Url.Percent
import DeviceConsole.Proofs.Url.Punycode

/-! Hosts. Whatever a host is read from, the text it is written in is read as the same host: letters
in lower case stay, an encoded label decodes to more than ASCII, and numbers are in their one form. -/
namespace DeviceConsole.Url

/-! ### Domain names -/

/-- A character that a domain name is written with. -/
structure IsHostChar (c : Char) : Prop where
  ascii : c.toNat < 0x80
  allowed : inDomainDeny c = false
  lower : Text.lowerChar c = c

theorem domainChar_of_isHostChar {c : Char} (h : IsHostChar c) : domainChar c = [c] := by
  have hascii := h.ascii
  unfold domainChar
  simp only
  split
  · rename_i hvanishing
    simp only [Bool.or_eq_true, Bool.and_eq_true, decide_eq_true_eq] at hvanishing
    omega
  · split
    · rename_i hpoint
      simp only [Bool.or_eq_true, decide_eq_true_eq] at hpoint
      omega
    · split
      · rename_i hwide
        simp only [Bool.and_eq_true, decide_eq_true_eq] at hwide
        omega
      · rw [h.lower]

theorem lower_of_mem_domainChar {c d : Char} (hd : d ∈ domainChar c) (h : d.toNat < 0x80) :
    Text.lowerChar d = d := by
  unfold domainChar at hd
  simp only at hd
  split at hd
  · simp at hd
  · split at hd
    · rw [List.mem_singleton.mp hd]
      decide
    · split at hd
      · rw [List.mem_singleton] at hd
        rw [hd] at h ⊢
        exact Text.lowerChar_lowerChar h
      · rw [List.mem_singleton] at hd
        rw [hd] at h ⊢
        exact Text.lowerChar_lowerChar h

theorem isHostChar_digit {c : Char} (h : c.isDigit = true) : IsHostChar c := by
  obtain ⟨hlow, hhigh⟩ := Decimal.digit_toNat h
  have hne (d : Char) (hd : d.isDigit = false) : c ≠ d := Decimal.ne_of_isDigit h hd
  refine ⟨by omega, ?_, ?_⟩
  · simp [inDomainDeny, hne]
    omega
  · exact Text.lowerChar_of_not_isUpper (by omega) fun hupper => by
      have := hupper.1
      omega

theorem isHostChar_punycode : ∀ n < 36, IsHostChar (Punycode.digit n) := by
  have h : ∀ n < 36, (Punycode.digit n).toNat < 0x80 ∧ inDomainDeny (Punycode.digit n) = false ∧
      Text.lowerChar (Punycode.digit n) = Punycode.digit n := by decide
  exact fun n hn => ⟨(h n hn).1, (h n hn).2.1, (h n hn).2.2⟩

theorem isHostChar_hyphen : IsHostChar '-' where
  ascii := by decide
  allowed := by decide
  lower := by decide

theorem isHostChar_point : IsHostChar '.' where
  ascii := by decide
  allowed := by decide
  lower := by decide

/-- What stands between two points of a name in ASCII. -/
structure IsLabel (label : List Char) : Prop where
  chars : ∀ c ∈ label, IsHostChar c ∧ c ≠ '.'
  kept : labelAscii? label = some label

theorem labelAscii?_of_ascii {label l : List Char} (hascii : isAscii label = true)
    (h : labelAscii? label = some l) : l = label := by
  unfold labelAscii? at h
  rw [if_pos hascii] at h
  repeat' split at h
  all_goals cases h
  all_goals rfl

/-- An encoded label passes the check that what it stands for is more than ASCII. -/
theorem labelAscii?_encode {label l : List Char}
    (hl : l = 'x' :: 'n' :: '-' :: '-' :: Punycode.encode label) (h : isAscii label = false)
    (hascii : isAscii l = true) : labelAscii? l = some l := by
  subst hl
  unfold labelAscii?
  rw [if_pos hascii]
  simp only [Punycode.decode?_encode, h, Bool.false_eq_true, ↓reduceIte]

/-- The label is made of characters in their one spelling. -/
theorem isLabel_of_labelAscii? {label l : List Char}
    (hchars : ∀ c ∈ label, c.toNat < 0x80 → IsHostChar c) (hpoint : '.' ∉ label)
    (h : labelAscii? label = some l) : IsLabel l := by
  cases hascii : isAscii label with
  | true =>
    obtain rfl := labelAscii?_of_ascii hascii h
    refine ⟨fun c hc => ⟨hchars c hc ?_, fun he => hpoint (he ▸ hc)⟩, h⟩
    simpa using List.all_eq_true.mp hascii c hc
  | false =>
    have hl : l = 'x' :: 'n' :: '-' :: '-' :: Punycode.encode label := by
      unfold labelAscii? at h
      rw [if_neg (by simp [hascii])] at h
      split at h
      · cases h
      · exact (Option.some.inj h).symm
    have hall : ∀ c ∈ l, IsHostChar c ∧ c ≠ '.' := by
      intro c hc
      simp only [hl, List.mem_cons] at hc
      rcases hc with rfl | rfl | rfl | rfl | hc
      · exact ⟨⟨by decide, by decide, by decide⟩, by decide⟩
      · exact ⟨⟨by decide, by decide, by decide⟩, by decide⟩
      · exact ⟨isHostChar_hyphen, by decide⟩
      · exact ⟨isHostChar_hyphen, by decide⟩
      · rcases Punycode.mem_encode hc with ⟨hmem, hlt⟩ | rfl | ⟨n, hn, rfl⟩
        · exact ⟨hchars c hmem hlt, fun he => hpoint (he ▸ hmem)⟩
        · exact ⟨isHostChar_hyphen, by decide⟩
        · have hne : ∀ n < 36, Punycode.digit n ≠ '.' := by decide
          exact ⟨isHostChar_punycode n hn, hne n hn⟩
    have hlascii : isAscii l = true :=
      List.all_eq_true.mpr fun c hc => by simpa using (hall c hc).1.ascii
    exact ⟨hall, labelAscii?_encode hl hascii hlascii⟩

theorem domainAscii?_eq_self {cs : List Char} (hchars : ∀ c ∈ cs, IsHostChar c)
    (hlabels : (cs.splitOn '.').mapM labelAscii? = some (cs.splitOn '.')) :
    domainAscii? cs = some cs := by
  have hpercent : '%' ∉ cs := fun hmem => absurd (hchars _ hmem).allowed (by decide)
  have hmapped : cs.flatMap domainChar = cs := by
    rw [List.flatMap_congr fun c hc => domainChar_of_isHostChar (hchars c hc)]
    exact List.flatMap_singleton' cs
  have hallowed : cs.any inDomainDeny = false := by
    rw [List.any_eq_false]
    exact fun c hc => by simp [(hchars c hc).allowed]
  simp only [domainAscii?, decode?_of_not_mem hpercent, Option.bind_eq_bind, Option.bind_some,
    hmapped, hallowed, Bool.false_eq_true, ↓reduceIte, hlabels, List.intercalate_splitOn]

/-- A name in ASCII is read as itself. -/
structure IsDomain (cs : List Char) : Prop where
  chars : ∀ c ∈ cs, IsHostChar c
  reads : domainAscii? cs = some cs

theorem isDomain_of_domainAscii? {cs domain : List Char} (h : domainAscii? cs = some domain) :
    IsDomain domain := by
  unfold domainAscii? at h
  simp only [Option.bind_eq_bind] at h
  obtain ⟨decoded, -, h⟩ := Option.bind_eq_some_iff.mp h
  split at h
  · simp at h
  · rename_i hdeny
    obtain ⟨labels, hlabels, h⟩ := Option.bind_eq_some_iff.mp h
    cases h
    have hkept : ∀ c ∈ decoded.flatMap domainChar, c.toNat < 0x80 → IsHostChar c := by
      intro c hc hascii
      obtain ⟨d, -, hd⟩ := List.mem_flatMap.mp hc
      have hallowed := List.any_eq_false.mp (Bool.not_eq_true _ ▸ hdeny) c hc
      exact ⟨hascii, by simpa using hallowed, lower_of_mem_domainChar hd hascii⟩
    have hlabel : ∀ l ∈ labels, IsLabel l := by
      intro l hl
      obtain ⟨part, hpart, hread⟩ := exists_of_mapM hlabels l hl
      refine isLabel_of_labelAscii? (fun c hc => hkept c (Text.mem_splitOnP hpart hc).1) ?_ hread
      intro hpoint
      exact absurd (Text.mem_splitOnP hpart hpoint).2 (by decide)
    have hne : labels ≠ [] := by
      rintro rfl
      exact List.splitOn_ne_nil _ _ (List.forall₂_nil_right_iff.mp (mapM_some_iff.mp hlabels))
    have hsplit : (['.'].intercalate labels).splitOn '.' = labels :=
      List.splitOn_intercalate '.' (fun l hl hmem => ((hlabel l hl).chars _ hmem).2 rfl) hne
    have hchars : ∀ c ∈ ['.'].intercalate labels, IsHostChar c := by
      intro c hc
      rcases Text.mem_intercalate hc with rfl | ⟨l, hl, hc⟩
      · exact isHostChar_point
      · exact ((hlabel l hl).chars c hc).1
    refine ⟨hchars, domainAscii?_eq_self hchars ?_⟩
    rw [hsplit, mapM_some_iff, List.forall₂_same]
    exact fun l hl => (hlabel l hl).kept

/-! ### Hosts -/

/-- The text of a host of the web. -/
inductive IsWebHost : String → Prop
  | domain {cs : List Char} (h : IsDomain cs) (hne : cs ≠ []) (hnumber : endsInNumber cs = false) :
      IsWebHost (String.ofList cs)
  | dotted (a : Address) : IsWebHost a.text
  | pieces {ps : List Nat} (h : IsPieces ps) : IsWebHost (ipv6Text ps)

theorem webHost_isWebHost {cs : List Char} {host : String} (h : webHost cs = .ok host) :
    IsWebHost host := by
  unfold webHost at h
  split at h
  · cases h
  · split at h
    · cases h
    · split at h
      · rename_i ps hps
        cases h
        exact .pieces (ipv6?_isPieces hps)
      · cases h
  · split at h
    · cases h
    · cases h
    · rename_i domain hdomain hread
      split at h
      · split at h
        · rename_i n hn
          cases h
          rw [ipv4Text_eq (ipv4?_lt hn)]
          exact .dotted _
        · cases h
      · rename_i hnumber
        cases h
        exact .domain (isDomain_of_domainAscii? hread) hdomain (by simpa using hnumber)

/-- A name is read as a name unless it is a number. -/
theorem webHost_of_isDomain {cs : List Char} (h : IsDomain cs) (hne : cs ≠ []) :
    webHost cs =
      if endsInNumber cs then
        (ipv4? cs).elim (.error .invalidIpv4) fun n => .ok (ipv4Text n)
      else .ok (String.ofList cs) := by
  obtain ⟨c, rest, rfl⟩ := List.exists_cons_of_ne_nil hne
  have hc : c ≠ '[' := by
    rintro rfl
    exact absurd (h.chars '[' (by simp)).allowed (by decide)
  unfold webHost
  split
  · rename_i heq
    cases heq
  · rename_i heq
    exact absurd (List.cons.inj heq).1 hc
  · simp only [h.reads]
    cases ipv4? (c :: rest) <;> rfl

theorem isDomain_text (a : Address) : IsDomain a.text.toList := by
  have hchars : ∀ c ∈ a.text.toList, IsHostChar c := by
    intro c hc
    rcases Address.mem_text hc with hdigit | rfl
    · exact isHostChar_digit hdigit
    · exact isHostChar_point
  refine ⟨hchars, domainAscii?_eq_self hchars ?_⟩
  rw [mapM_some_iff, List.forall₂_same]
  intro label hlabel
  rw [Address.splitOn_text] at hlabel
  obtain ⟨n, -, rfl⟩ := List.mem_map.mp hlabel
  have hdigit : ∀ c ∈ Nat.toDigits 10 n, c.isDigit = true := fun c hc =>
    Nat.isDigit_of_mem_toDigits (by decide) (by decide) hc
  have hascii : isAscii (Nat.toDigits 10 n) = true :=
    List.all_eq_true.mpr fun c hc => by simpa using (isHostChar_digit (hdigit c hc)).ascii
  unfold labelAscii?
  rw [if_pos hascii]
  split
  · rename_i rest heq
    exact absurd (hdigit 'x' (by simp [heq])) (by decide)
  · rfl

theorem IsWebHost.webHost {host : String} (h : IsWebHost host) :
    Url.webHost host.toList = .ok host := by
  cases h with
  | domain h hne hnumber =>
    rw [String.toList_ofList, webHost_of_isDomain h hne, hnumber]
    rfl
  | dotted a =>
    have hne : a.text.toList ≠ [] := by
      intro hnil
      have := endsInNumber_text a
      rw [hnil] at this
      exact absurd this (by decide)
    rw [webHost_of_isDomain (isDomain_text a) hne, endsInNumber_text, ipv4?_text]
    simp only [↓reduceIte, Option.elim_some]
    have hlt : a.toNat < 4294967296 := a.packed.toNat_lt
    rw [ipv4Text_eq hlt, Address.ofNat_toNat]
  | pieces h =>
    rw [ipv6Text_toList]
    simp [Url.webHost, ipv6?_piecesText h]

end DeviceConsole.Url
