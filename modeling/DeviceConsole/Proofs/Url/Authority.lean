import DeviceConsole.Proofs.Url.Host
import DeviceConsole.Proofs.Url.Path

/-! Authorities of a web address: user name and password, host and port. Each part is written in a
form that is read as that part, and none of them holds a character that would end it early. -/
namespace DeviceConsole.Url

/-! ### Hosts in an authority -/

/-- Characters that are cut off at the ends of a text, or that end an authority or a part of it. -/
def isBoundary (c : Char) : Bool := c.toNat ≤ 0x20 || "/\\?#@".toList.contains c

theorem isBoundary_of_isHostChar {c : Char} (h : IsHostChar c) : isBoundary c = false := by
  have hallowed := h.allowed
  simp only [inDomainDeny, Bool.or_eq_false_iff, decide_eq_false_iff_not] at hallowed
  obtain ⟨⟨hblank, -⟩, hdeny⟩ := hallowed
  have hne (d : Char) (hd : d ∈ "%#/:<>?@[\\]^|".toList) : c ≠ d := by
    rintro rfl
    simp only [List.contains_eq_mem, decide_eq_false_iff_not] at hdeny
    exact hdeny hd
  simp [isBoundary, hblank, hne '/' (by decide), hne '\\' (by decide), hne '?' (by decide),
    hne '#' (by decide), hne '@' (by decide)]

theorem isBoundary_of_hexValue? {c : Char} (h : hexValue? c ≠ none) : isBoundary c = false := by
  have hne (d : Char) (hd : hexValue? d = none) : c ≠ d := by
    rintro rfl
    exact h hd
  obtain ⟨n, hn⟩ := Option.ne_none_iff_exists'.mp h
  have hblank : ¬ c.toNat ≤ 0x20 := by
    have := (hexValue?_bounds hn).1
    omega
  simp [isBoundary, hblank, hne '/' (by decide), hne '\\' (by decide), hne '?' (by decide),
    hne '#' (by decide), hne '@' (by decide)]

theorem splitPort_append {cs : List Char} (h : ∀ c ∈ cs, c ≠ ':' ∧ c ≠ '[') (rest : List Char) :
    splitPort false (cs ++ rest) =
      (cs ++ (splitPort false rest).1, (splitPort false rest).2) := by
  induction cs with
  | nil => rfl
  | cons c cs ih =>
    obtain ⟨hcolon, hopen⟩ := h c (by simp)
    have htail := ih fun d hd => h d (by simp [hd])
    have hstay : (if c = ']' then false else false) = false := by split <;> rfl
    simp only [List.cons_append, splitPort, hcolon, decide_false, Bool.false_and,
      Bool.false_eq_true, ↓reduceIte, hopen, hstay, htail]

/-- Inside brackets colons do not count. -/
theorem splitPort_bracketed {cs : List Char} (h : ']' ∉ cs) (rest : List Char) :
    splitPort true (cs ++ ']' :: rest) =
      (cs ++ ']' :: (splitPort false rest).1, (splitPort false rest).2) := by
  induction cs with
  | nil => simp [splitPort]
  | cons c cs ih =>
    have hclose : c ≠ ']' := fun he => h (by simp [he])
    have htail := ih fun hd => h (by simp [hd])
    have hstay : (if c = '[' then true else true) = true := by split <;> rfl
    simp only [List.cons_append, splitPort, Bool.not_true, Bool.and_false, Bool.false_eq_true,
      ↓reduceIte, hclose, hstay, htail]

namespace IsWebHost

variable {host : String}

theorem not_isBoundary (h : IsWebHost host) {c : Char} (hc : c ∈ host.toList) :
    isBoundary c = false := by
  cases h with
  | domain h _ _ => exact isBoundary_of_isHostChar (h.chars c (by simpa using hc))
  | dotted a => exact isBoundary_of_isHostChar ((isDomain_text a).chars c hc)
  | pieces h =>
    rw [ipv6Text_toList, List.mem_cons, List.mem_append, List.mem_singleton] at hc
    rcases hc with rfl | hc | rfl
    · decide
    · rcases mem_piecesText hc with hc | rfl
      · exact isBoundary_of_hexValue? hc
      · decide
    · decide

theorem ne_nil (h : IsWebHost host) : host.toList ≠ [] := by
  intro hnil
  have hread := h.webHost
  rw [hnil] at hread
  cases hread

/-- A host ends where its port begins. -/
theorem splitPort (h : IsWebHost host) (rest : List Char) :
    Url.splitPort false (host.toList ++ rest) =
      (host.toList ++ (Url.splitPort false rest).1, (Url.splitPort false rest).2) := by
  have hname {cs : List Char} (h : ∀ c ∈ cs, IsHostChar c) : ∀ c ∈ cs, c ≠ ':' ∧ c ≠ '[' :=
    fun c hc => ⟨fun he => absurd (he ▸ (h c hc).allowed) (by decide),
      fun he => absurd (he ▸ (h c hc).allowed) (by decide)⟩
  cases h with
  | domain h _ _ =>
    rw [String.toList_ofList]
    exact splitPort_append (hname h.chars) rest
  | dotted a => exact splitPort_append (hname (isDomain_text a).chars) rest
  | pieces h =>
    rename_i ps
    have hclose : ']' ∉ piecesText ps := by
      intro hmem
      rcases mem_piecesText hmem with hhex | he
      · exact hhex (by decide)
      · exact absurd he (by decide)
    rw [ipv6Text_toList, List.cons_append, List.append_assoc, List.singleton_append]
    have hopen : Url.splitPort false ('[' :: (piecesText ps ++ ']' :: rest)) =
        ('[' :: (Url.splitPort true (piecesText ps ++ ']' :: rest)).1,
          (Url.splitPort true (piecesText ps ++ ']' :: rest)).2) := rfl
    rw [hopen, splitPort_bracketed hclose]
    simp

end IsWebHost

/-! ### User name and password -/

theorem encode_eq_nil_iff {inSet : Char → Bool} {cs : List Char} : encode inSet cs = [] ↔ cs = [] := by
  refine ⟨fun h => ?_, fun h => by rw [h]; rfl⟩
  cases cs with
  | nil => rfl
  | cons c cs =>
    have hc : encodeChar inSet c = [] := (List.append_eq_nil_iff.mp h).1
    unfold encodeChar at hc
    split at hc
    · rw [utf8Bytes_eq] at hc
      obtain ⟨byte, bytes, hbytes⟩ := List.exists_cons_of_ne_nil (String.utf8EncodeChar_ne_nil (c := c))
      simp [hbytes, encodeByte] at hc
    · cases hc

theorem userinfoText_userinfoText (cs : List Char) :
    userinfoText (userinfoText cs).toList = userinfoText cs := by
  have hname (name : List Char) : ∀ c ∈ encode inUserinfo name, decide (c ≠ ':') = true := by
    intro c hc
    have hset := not_inSet_of_mem_encode isEncoded_inUserinfo hc
    have hne : c ≠ ':' := by
      rintro rfl
      exact absurd hset (by decide)
    simpa using hne
  unfold userinfoText
  simp only [String.toList_ofList]
  generalize cs.takeWhile (fun c => decide (c ≠ ':')) = name
  generalize (cs.dropWhile fun c => decide (c ≠ ':')).drop 1 = password
  cases password with
  | nil =>
    have htake := List.takeWhile_eq_self_iff.mpr (hname name)
    have hdrop := List.dropWhile_eq_nil_iff.mpr (hname name)
    simp only [List.isEmpty_nil, ↓reduceIte, List.append_nil]
    rw [htake, hdrop, encode_encode isEncoded_inUserinfo]
    simp
  | cons c password =>
    have hfull : (encode inUserinfo (c :: password)).isEmpty = false := by
      rw [List.isEmpty_eq_false_iff]
      exact fun h => by cases encode_eq_nil_iff.mp h
    obtain ⟨htake, hdrop⟩ := Text.cut_append (':' :: encode inUserinfo (c :: password))
      (hname name) (by simp)
    simp only [List.isEmpty_cons, Bool.false_eq_true, ↓reduceIte]
    rw [htake, hdrop, List.drop_one, List.tail_cons, hfull, encode_encode isEncoded_inUserinfo,
      encode_encode isEncoded_inUserinfo]
    simp

/-- What is not encoded in a fragment is neither blank nor a control. -/
theorem visible_of_inFragment {c : Char} (h : inFragment c = false) : 0x20 < c.toNat := by
  simp only [inFragment, inControls, Bool.or_eq_false_iff, decide_eq_false_iff_not] at h
  obtain ⟨⟨⟨⟨⟨⟨hlow, -⟩, hspace⟩, -⟩, -⟩, -⟩, -⟩ := h
  have hne : c.toNat ≠ 0x20 := fun he => hspace (Char.toNat_inj.mp he)
  omega

theorem visible_of_inSpecialQuery {c : Char} (h : inSpecialQuery c = false) :
    0x20 < c.toNat ∧ c ≠ '#' := by
  simp only [inSpecialQuery, inQuery, inControls, Bool.or_eq_false_iff,
    decide_eq_false_iff_not] at h
  obtain ⟨⟨⟨⟨⟨⟨⟨hlow, -⟩, hspace⟩, -⟩, hhash⟩, -⟩, -⟩, -⟩ := h
  have hne : c.toNat ≠ 0x20 := fun he => hspace (Char.toNat_inj.mp he)
  exact ⟨by omega, hhash⟩

theorem visible_of_inPath {c : Char} (h : inPath c = false) :
    0x20 < c.toNat ∧ c ≠ '?' ∧ c ≠ '#' := by
  simp only [inPath, Bool.or_eq_false_iff, decide_eq_false_iff_not] at h
  obtain ⟨⟨⟨⟨hfragment, hhash⟩, hquestion⟩, -⟩, -⟩ := h
  exact ⟨visible_of_inFragment hfragment, hquestion, hhash⟩

theorem isBoundary_of_inUserinfo {c : Char} (h : inUserinfo c = false) : isBoundary c = false := by
  simp only [inUserinfo, Bool.or_eq_false_iff, decide_eq_false_iff_not] at h
  obtain ⟨⟨⟨⟨⟨⟨⟨⟨⟨⟨hpath, hslash⟩, -⟩, -⟩, -⟩, hat⟩, -⟩, hback⟩, -⟩, -⟩, -⟩ := h
  obtain ⟨hvisible, hquestion, hhash⟩ := visible_of_inPath hpath
  simp [isBoundary, hslash, hat, hback, hquestion, hhash]
  omega

theorem isBoundary_of_mem_userinfoText {cs : List Char} {c : Char}
    (h : c ∈ (userinfoText cs).toList) : isBoundary c = false := by
  have hset (name : List Char) (hc : c ∈ encode inUserinfo name) : isBoundary c = false :=
    isBoundary_of_inUserinfo (not_inSet_of_mem_encode isEncoded_inUserinfo hc)
  rw [userinfoText, String.toList_ofList, List.mem_append] at h
  rcases h with h | h
  · exact hset _ h
  · split at h
    · cases h
    · rcases List.mem_cons.mp h with rfl | h
      · decide
      · exact hset _ h

/-! ### Authorities -/

/-- The port behind the host, if there is one. -/
def portAfter (scheme : String) : Option (List Char) → Except UrlError (Option Nat)
  | some digits => readPort scheme (digits.takeWhile (· ≠ '\\'))
  | none => .ok none

theorem webHost_ne_nil {cs : List Char} {host : String} (h : webHost cs = .ok host) : cs ≠ [] := by
  rintro rfl
  cases h

/-- Up to the first slash an authority is read, and behind it the path. -/
theorem readAuthority_eq_ok_iff {scheme : String} (hweb : isSpecial scheme = true)
    {authority rest : List Char} (hauthority : ∀ c ∈ authority, isSlash true c = false)
    (hrest : ∀ c, rest.head? = some c → isSlash true c = true) {v : Url} :
    readAuthority scheme (authority ++ rest) = .ok v ↔
      ∃ host port, webHost (splitPort false (splitUserinfo authority).2).1 = .ok host ∧
        portAfter scheme (splitPort false (splitUserinfo authority).2).2 = .ok port ∧
        v = { scheme, host := some host, port
              userinfo := ((splitUserinfo authority).1.map userinfoText).getD ""
              path := pathAfterAuthority true rest } := by
  obtain ⟨htake, hdrop⟩ := Text.cut_append (p := fun c => !isSlash true c) rest
    (by simpa using hauthority) (by simpa using hrest)
  unfold readAuthority
  simp only [hweb, htake, hdrop, Bool.true_or, Bool.and_true, bind, Except.bind, pure, Except.pure,
    throw, throwThe, MonadExceptOf.throw, ↓reduceIte]
  generalize splitUserinfo authority = pair
  obtain ⟨userinfo, hostport⟩ := pair
  simp only
  cases hread : webHost (splitPort false hostport).1 with
  | error e =>
    simp only [reduceCtorEq, false_and, exists_const, iff_false]
    split_ifs <;> simp
  | ok host =>
    have hne := webHost_ne_nil hread
    have hfull : hostport.isEmpty = false := by
      rw [List.isEmpty_eq_false_iff]
      rintro rfl
      exact hne rfl
    have hhost : host.isEmpty = false := by
      rw [Bool.eq_false_iff, ne_eq, String.isEmpty_iff]
      rintro rfl
      exact (webHost_isWebHost hread).ne_nil rfl
    have hempty : (splitPort false hostport).1.isEmpty = false := by simpa using hne
    simp only [hfull, hempty, hhost, Bool.and_false, Bool.false_and, Bool.false_eq_true, ↓reduceIte]
    cases (splitPort false hostport).2 with
    | none => simp [portAfter, eq_comm]
    | some digits =>
      simp only [portAfter]
      cases readPort scheme (digits.takeWhile fun c => decide (c ≠ '\\')) with
      | error e => simp
      | ok port => simp [eq_comm]

theorem readAuthority_scheme {scheme : String} {cs : List Char} {u : Url}
    (h : readAuthority scheme cs = .ok u) : u.scheme = scheme := by
  unfold readAuthority at h
  simp only [bind, Except.bind, pure, Except.pure, throw, throwThe, MonadExceptOf.throw] at h
  split_ifs at h
  all_goals (repeat' split at h)
  all_goals cases h
  all_goals rfl

/-- Authority and path are told apart by the first slash. -/
theorem exists_authority (cs : List Char) :
    ∃ authority rest, cs = authority ++ rest ∧ (∀ c ∈ authority, isSlash true c = false) ∧
      ∀ c, rest.head? = some c → isSlash true c = true := by
  refine ⟨cs.takeWhile fun c => !isSlash true c, cs.dropWhile fun c => !isSlash true c,
    List.takeWhile_append_dropWhile.symm, fun c hc => ?_, fun c hc => ?_⟩
  · simpa using List.mem_takeWhile_imp hc
  · have hhead := List.head?_dropWhile_not (fun c => !isSlash true c) cs
    rw [hc] at hhead
    simpa using hhead

theorem readAuthority_slashes {scheme : String} {cs : List Char} {v : Url} (n : Nat)
    (hweb : isSpecial scheme = true)
    (h : readAuthority scheme (cs.dropWhile (isSlash true)) = .ok v) :
    ∃ m, readAuthority scheme ((cs ++ List.replicate n '/').dropWhile (isSlash true)) =
      .ok { v with path := String.ofList (v.path.toList ++ List.replicate m '/') } := by
  obtain ⟨authority, path, hcut, hauthority, hpath⟩ := exists_authority (cs.dropWhile (isSlash true))
  rw [hcut, readAuthority_eq_ok_iff hweb hauthority hpath] at h
  obtain ⟨host, port, hhost, hport, rfl⟩ := h
  have hpath' : ∀ c, (path ++ List.replicate n '/').head? = some c → isSlash true c = true := by
    intro c hc
    cases path with
    | nil =>
      have hmem := List.mem_of_mem_head? hc
      rw [List.eq_of_mem_replicate hmem]
      rfl
    | cons d path => exact hpath c hc
  have hdrop : (cs ++ List.replicate n '/').dropWhile (isSlash true) =
      authority ++ (path ++ List.replicate n '/') := by
    have hne : cs.dropWhile (isSlash true) ≠ [] := by
      intro hnil
      rw [hnil] at hcut
      obtain ⟨rfl, -⟩ := List.append_eq_nil_iff.mp hcut.symm
      cases hhost
    rw [List.dropWhile_append, if_neg (by simpa using hne), hcut, List.append_assoc]
  obtain ⟨m, hm⟩ := pathAfterAuthority_append_slashes hpath n
  refine ⟨m, ?_⟩
  rw [hdrop, readAuthority_eq_ok_iff hweb hauthority hpath']
  exact ⟨host, port, hhost, hport, by rw [← hm, String.ofList_toList]⟩

/-! ### Ports -/

theorem readPort_bounds {scheme : String} {cs : List Char} {n : Nat}
    (h : readPort scheme cs = .ok (some n)) : n ≤ 65535 ∧ defaultPort? scheme ≠ some n := by
  unfold readPort at h
  simp only at h
  split at h
  · cases h
  · split at h
    · cases h
    · rename_i hle
      split at h
      · cases h
      · rename_i hother
        cases h
        simp only [Bool.or_eq_true, decide_eq_true_eq, not_or] at hother
        exact ⟨by omega, hother.2⟩

theorem portAfter_bounds {scheme : String} {digits : Option (List Char)} {n : Nat}
    (h : portAfter scheme digits = .ok (some n)) : n ≤ 65535 ∧ defaultPort? scheme ≠ some n := by
  cases digits with
  | none => cases h
  | some digits => exact readPort_bounds h

theorem portAfter_toDigits {scheme : String} {n : Nat} (hn : n ≤ 65535)
    (hother : defaultPort? scheme ≠ some n) :
    portAfter scheme (some (Nat.toDigits 10 n)) = .ok (some n) := by
  have hdigit : ∀ c ∈ Nat.toDigits 10 n, c.isDigit = true := fun c hc =>
    Nat.isDigit_of_mem_toDigits (by decide) (by decide) hc
  have hplain : ∀ c ∈ Nat.toDigits 10 n, decide (c ≠ '\\') = true := fun c hc =>
    decide_eq_true (Decimal.ne_of_isDigit (hdigit c hc) (by decide))
  have hall : (Nat.toDigits 10 n).all Char.isDigit = true := List.all_eq_true.mpr hdigit
  have hfull : (Nat.toDigits 10 n).isEmpty = false := by simp [Nat.toDigits_ne_nil]
  rw [portAfter, List.takeWhile_eq_self_iff.mpr hplain, readPort]
  simp only [hall, hfull, Nat.ofDigitChars_ten_toDigits, Bool.not_true, Bool.false_eq_true,
    ↓reduceIte, if_neg (Nat.not_lt.mpr hn), decide_eq_false hother, Bool.or_false]

/-! ### Authorities as they are written -/

/-- A part of the text behind its mark, if it is there. -/
def marked (mark : Char) (part : Option String) : List Char :=
  match part with
  | some s => mark :: s.toList
  | none => []

theorem head?_marked {mark c : Char} {part : Option String} (h : (marked mark part).head? = some c) :
    c = mark := by
  cases part with
  | none => cases h
  | some s => exact (Option.some.inj h).symm

/-- User name and password with the sign that ends them. -/
def userinfoPart (userinfo : String) : List Char :=
  if userinfo.isEmpty then [] else userinfo.toList ++ ['@']

theorem splitUserinfo_none {cs : List Char} (h : '@' ∉ cs) : splitUserinfo cs = (none, cs) := by
  rw [splitUserinfo, if_neg (by simpa using h)]

theorem splitUserinfo_append {userinfo cs : List Char} (h : '@' ∉ cs) :
    splitUserinfo (userinfo ++ '@' :: cs) = (some userinfo, cs) := by
  have hplain : ∀ c ∈ cs.reverse, decide (c ≠ '@') = true := fun c hc =>
    decide_eq_true (ne_of_mem_of_not_mem (List.mem_reverse.mp hc) h)
  have hrest : (userinfo ++ '@' :: cs).reverse.takeWhile (fun c => decide (c ≠ '@')) =
      cs.reverse := by
    rw [List.reverse_append, List.reverse_cons, List.append_assoc]
    exact (Text.cut_append _ hplain (by simp)).1
  have hlength : (userinfo ++ '@' :: cs).length - cs.length - 1 = userinfo.length := by
    simp only [List.length_append, List.length_cons]
    omega
  rw [splitUserinfo, if_pos (by simp)]
  simp only [hrest, List.reverse_reverse, hlength, List.take_left]

theorem splitUserinfo_written {userinfo : String} {cs : List Char}
    (huserinfo : userinfoText userinfo.toList = userinfo) (h : '@' ∉ cs) :
    ((splitUserinfo (userinfoPart userinfo ++ cs)).1.map userinfoText).getD "" = userinfo ∧
      (splitUserinfo (userinfoPart userinfo ++ cs)).2 = cs := by
  unfold userinfoPart
  split
  · rename_i hempty
    rw [List.nil_append, splitUserinfo_none h]
    exact ⟨(String.isEmpty_iff.mp hempty).symm, rfl⟩
  · rw [List.append_assoc, List.singleton_append, splitUserinfo_append h]
    exact ⟨huserinfo, rfl⟩

theorem splitPort_written (scheme : String) {host : String} {port : Option Nat} (hhost : IsWebHost host)
    (hport : ∀ n, port = some n → n ≤ 65535 ∧ defaultPort? scheme ≠ some n) :
    (splitPort false (host.toList ++ marked ':' (port.map toString))).1 = host.toList ∧
      portAfter scheme (splitPort false (host.toList ++ marked ':' (port.map toString))).2 =
        .ok port := by
  rw [hhost.splitPort]
  cases port with
  | none => simp [marked, splitPort, portAfter]
  | some n =>
    obtain ⟨hn, hother⟩ := hport n rfl
    have hmarked : marked ':' ((some n).map toString) = ':' :: Nat.toDigits 10 n := by
      simp [marked]
    have hsplit : splitPort false (':' :: Nat.toDigits 10 n) = ([], some (Nat.toDigits 10 n)) := rfl
    rw [hmarked, hsplit, List.append_nil]
    exact ⟨rfl, portAfter_toDigits hn hother⟩

theorem isBoundary_port {port : Option Nat} {c : Char} (h : c ∈ marked ':' (port.map toString)) :
    isBoundary c = false := by
  cases port with
  | none => cases h
  | some n =>
    have hc : c = ':' ∨ c ∈ Nat.toDigits 10 n := by simpa [marked] using h
    rcases hc with rfl | hc
    · decide
    · have hdigit := Nat.isDigit_of_mem_toDigits (by decide) (by decide) hc
      exact isBoundary_of_isHostChar (isHostChar_digit hdigit)

theorem isBoundary_host {host : String} {port : Option Nat} (hhost : IsWebHost host) {c : Char}
    (h : c ∈ host.toList ++ marked ':' (port.map toString)) : isBoundary c = false :=
  (List.mem_append.mp h).elim hhost.not_isBoundary isBoundary_port

theorem isBoundary_userinfoPart {userinfo : String}
    (huserinfo : userinfoText userinfo.toList = userinfo) {c : Char}
    (h : c ∈ userinfoPart userinfo) : isBoundary c = false ∨ c = '@' := by
  unfold userinfoPart at h
  split at h
  · cases h
  · refine (List.mem_append.mp h).imp (fun hc => ?_) List.mem_singleton.mp
    rw [← huserinfo] at hc
    exact isBoundary_of_mem_userinfoText hc

theorem isSlash_of_isBoundary {c : Char} (h : isBoundary c = false) : isSlash true c = false := by
  cases hslash : isSlash true c with
  | false => rfl
  | true =>
    simp only [isSlash, Bool.true_and, Bool.or_eq_true, decide_eq_true_eq] at hslash
    rcases hslash with rfl | rfl <;> exact absurd h (by decide)

/-- User name and password, host and port as they are written. -/
def authorityPart (userinfo host : String) (port : Option Nat) : List Char :=
  userinfoPart userinfo ++ (host.toList ++ marked ':' (port.map toString))

theorem isBoundary_authorityPart {userinfo host : String} {port : Option Nat}
    (huserinfo : userinfoText userinfo.toList = userinfo) (hhost : IsWebHost host) {c : Char}
    (h : c ∈ authorityPart userinfo host port) : isBoundary c = false ∨ c = '@' :=
  (List.mem_append.mp h).elim (isBoundary_userinfoPart huserinfo)
    fun hc => .inl (isBoundary_host hhost hc)

theorem isSlash_authorityPart {userinfo host : String} {port : Option Nat}
    (huserinfo : userinfoText userinfo.toList = userinfo) (hhost : IsWebHost host) {c : Char}
    (h : c ∈ authorityPart userinfo host port) : isSlash true c = false := by
  rcases isBoundary_authorityPart huserinfo hhost h with hc | rfl
  · exact isSlash_of_isBoundary hc
  · rfl

/-- Slashes in front of an authority are not taken for a part of it. -/
theorem dropWhile_authorityPart {userinfo host : String} {port : Option Nat}
    (huserinfo : userinfoText userinfo.toList = userinfo) (hhost : IsWebHost host)
    (path : List Char) :
    ('/' :: '/' :: (authorityPart userinfo host port ++ path)).dropWhile (isSlash true) =
      authorityPart userinfo host port ++ path := by
  have hne : authorityPart userinfo host port ≠ [] := by
    simp [authorityPart, hhost.ne_nil]
  obtain ⟨c, cs, hauthority⟩ := List.exists_cons_of_ne_nil hne
  have hc : isSlash true c = false :=
    isSlash_authorityPart huserinfo hhost (hauthority ▸ List.mem_cons_self)
  rw [hauthority]
  simp [isSlash] at hc ⊢
  simp [hc]

/-- The parts of an authority are found in it again. -/
theorem readAuthority_written {scheme userinfo host : String} {port : Option Nat} {path : List Char}
    (hweb : isSpecial scheme = true) (huserinfo : userinfoText userinfo.toList = userinfo)
    (hhost : IsWebHost host)
    (hport : ∀ n, port = some n → n ≤ 65535 ∧ defaultPort? scheme ≠ some n)
    (hpath : IsPath path) (hne : path ≠ []) :
    readAuthority scheme (authorityPart userinfo host port ++ path) =
      .ok { scheme, userinfo, host := some host, port, path := String.ofList path } := by
  have hat : '@' ∉ host.toList ++ marked ':' (port.map toString) := fun h =>
    absurd (isBoundary_host hhost h) (by decide)
  have hslash : ∀ c, path.head? = some c → isSlash true c = true := by
    obtain ⟨rest, rfl⟩ := hpath.exists_cons hne
    simp [isSlash]
  obtain ⟨hread, hrest⟩ := splitUserinfo_written huserinfo hat
  obtain ⟨hname, hdigits⟩ := splitPort_written scheme hhost hport
  rw [readAuthority_eq_ok_iff hweb (fun c => isSlash_authorityPart huserinfo hhost) hslash,
    authorityPart, hread, hrest, hname]
  exact ⟨host, port, hhost.webHost, hdigits, by rw [hpath.pathAfterAuthority hne]⟩

end DeviceConsole.Url
