import DeviceConsole.Proofs.Url.Authority

/-! The text of a URL. A web address that was read is written in a form that is read as the same
address, and slashes added to the text of its path are slashes at the end of the path. -/
namespace DeviceConsole.Url

/-! ### Addresses that are written as they are read -/

/-- A web address in the form it is written in. -/
structure IsCanonical (u : Url) : Prop where
  web : u.scheme = "http" ∨ u.scheme = "https"
  userinfo : userinfoText u.userinfo.toList = u.userinfo
  host : ∃ host, u.host = some host ∧ IsWebHost host
  port : ∀ n, u.port = some n → n ≤ 65535 ∧ defaultPort? u.scheme ≠ some n
  path : IsPath u.path.toList
  rooted : u.path ≠ ""
  query : ∀ q, u.query = some q → ∀ c ∈ q.toList, inSpecialQuery c = false
  fragment : ∀ f, u.fragment = some f → ∀ c ∈ f.toList, inFragment c = false

namespace IsCanonical

variable {u : Url}

theorem isSpecial (h : IsCanonical u) : Url.isSpecial u.scheme = true := by
  rcases h.web with hs | hs <;> rw [hs] <;> rfl

theorem isFile (h : IsCanonical u) : Url.isFile u.scheme = false := by
  rcases h.web with hs | hs <;> rw [hs] <;> rfl

theorem hasAuthority (h : IsCanonical u) : u.hasAuthority = true := by
  obtain ⟨host, hhost, -⟩ := h.host
  simp [Url.hasAuthority, hhost]

theorem isOpaque (h : IsCanonical u) : u.isOpaque = false := by
  simp [Url.isOpaque, h.hasAuthority]

/-- The path may change to any other. -/
theorem withPath (h : IsCanonical u) {path : String} (hpath : IsPath path.toList)
    (hrooted : path ≠ "") : IsCanonical { u with path := path } :=
  { h with path := hpath, rooted := hrooted }

end IsCanonical

/-! ### What is read is canonical -/

theorem isSpecial_web {scheme : String} (h : scheme = "http" ∨ scheme = "https") :
    isSpecial scheme = true ∧ isFile scheme = false := by
  rcases h with rfl | rfl <;> exact ⟨rfl, rfl⟩

/-- Behind the scheme of a web address come authority and path, query and fragment. -/
theorem parse_web {s scheme : String} {rest : List Char}
    (hscheme : splitScheme (cleaned s) = some (scheme, rest))
    (hweb : scheme = "http" ∨ scheme = "https") :
    parse s = (readAuthority scheme ((splitTail rest).1.dropWhile (isSlash true))).map
      (withTail true (splitTail rest).2.1 (splitTail rest).2.2) := by
  obtain ⟨hspecial, hfile⟩ := isSpecial_web hweb
  unfold parse
  simp only [hscheme, hfile, hspecial, Bool.false_eq_true, ↓reduceIte, bind, Except.bind, pure,
    Except.pure]
  cases readAuthority scheme ((splitTail rest).1.dropWhile (isSlash true)) <;> rfl

theorem readFile_scheme {scheme : String} {cs : List Char} {u : Url}
    (h : readFile scheme cs = .ok u) : u.scheme = scheme := by
  unfold readFile at h
  simp only [bind, Except.bind, pure, Except.pure] at h
  repeat' split at h
  all_goals cases h
  all_goals rfl

theorem parse_scheme {s : String} {u : Url} (h : parse s = .ok u) :
    ∃ rest, splitScheme (cleaned s) = some (u.scheme, rest) := by
  unfold parse at h
  simp only [bind, Except.bind, pure, Except.pure, throw, throwThe, MonadExceptOf.throw] at h
  split at h
  · cases h
  · rename_i scheme rest hscheme
    refine ⟨rest, ?_⟩
    suffices hu : u.scheme = scheme by rw [hu, hscheme]
    repeat' split at h
    all_goals cases h
    · rename_i v hv
      exact (readFile_scheme hv : v.scheme = scheme)
    · rename_i v hv
      exact (readAuthority_scheme hv : v.scheme = scheme)
    · rename_i v hv
      exact (readAuthority_scheme hv : v.scheme = scheme)
    · rfl
    · rfl

/-- The parts of a web address that was read. -/
theorem parse_eq_ok {s : String} {u : Url} (h : parse s = .ok u)
    (hweb : u.scheme = "http" ∨ u.scheme = "https") :
    ∃ rest, splitScheme (cleaned s) = some (u.scheme, rest) ∧
      ∃ v, readAuthority u.scheme ((splitTail rest).1.dropWhile (isSlash true)) = .ok v ∧
        u = withTail true (splitTail rest).2.1 (splitTail rest).2.2 v := by
  obtain ⟨rest, hscheme⟩ := parse_scheme h
  refine ⟨rest, hscheme, ?_⟩
  rw [parse_web hscheme hweb] at h
  cases hv : readAuthority u.scheme ((splitTail rest).1.dropWhile (isSlash true)) with
  | error e =>
    rw [hv] at h
    cases h
  | ok v =>
    rw [hv] at h
    exact ⟨v, rfl, (Except.ok.inj h).symm⟩

theorem parse_isCanonical {s : String} {u : Url} (h : parse s = .ok u)
    (hweb : u.scheme = "http" ∨ u.scheme = "https") : IsCanonical u := by
  obtain ⟨rest, -, v, hv, hu⟩ := parse_eq_ok h hweb
  obtain ⟨authority, path, hcut, hauthority, hpath⟩ :=
    exists_authority ((splitTail rest).1.dropWhile (isSlash true))
  rw [hcut, readAuthority_eq_ok_iff (isSpecial_web hweb).1 hauthority hpath] at hv
  obtain ⟨host, port, hhost, hport, rfl⟩ := hv
  rw [hu]
  refine ⟨hweb, ?_, ⟨host, rfl, webHost_isWebHost hhost⟩, fun n hn => ?_,
    isPath_pathAfterAuthority path, pathAfterAuthority_ne_empty path, fun q hq c hc => ?_,
    fun f hf c hc => ?_⟩
  · cases (splitUserinfo authority).1 with
    | none => rfl
    | some userinfo => exact userinfoText_userinfoText userinfo
  · obtain rfl : port = some n := hn
    exact portAfter_bounds hport
  · obtain ⟨query, -, rfl⟩ := Option.map_eq_some_iff.mp hq
    rw [String.toList_ofList] at hc
    exact not_inSet_of_mem_encode isEncoded_inSpecialQuery hc
  · obtain ⟨fragment, -, rfl⟩ := Option.map_eq_some_iff.mp hf
    rw [String.toList_ofList] at hc
    exact not_inSet_of_mem_encode isEncoded_inFragment hc

/-! ### What is canonical is read as it is written -/

theorem splitTail_marked {body : List Char} (query fragment : Option String)
    (hbody : ∀ c ∈ body, c ≠ '?' ∧ c ≠ '#') (hquery : ∀ q, query = some q → '#' ∉ q.toList) :
    splitTail (body ++ marked '?' query ++ marked '#' fragment) =
      (body, query.map String.toList, fragment.map String.toList) := by
  have hfront : ∀ c ∈ body ++ marked '?' query, decide (c ≠ '#') = true := by
    intro c hc
    rcases List.mem_append.mp hc with hc | hc
    · exact decide_eq_true (hbody c hc).2
    · cases query with
      | none => cases hc
      | some q =>
        rcases List.mem_cons.mp hc with rfl | hc
        · rfl
        · exact decide_eq_true (ne_of_mem_of_not_mem hc (hquery q rfl))
  obtain ⟨htake, hdrop⟩ := Text.cut_append (marked '#' fragment) hfront fun c hc => by
    simp [head?_marked hc]
  obtain ⟨htake', hdrop'⟩ := Text.cut_append (p := fun c => decide (c ≠ '?')) (marked '?' query)
    (fun c hc => decide_eq_true (hbody c hc).1) fun c hc => by
      simp [head?_marked hc]
  unfold splitTail
  simp only [htake, hdrop, htake', hdrop']
  cases query <;> cases fragment <;> rfl

/-- A text without blanks and controls is clean. -/
theorem cleaned_of_visible {s : String} (h : ∀ c ∈ s.toList, 0x20 < c.toNat) :
    cleaned s = s.toList := by
  have hkept (cs : List Char) (hcs : ∀ c ∈ cs, 0x20 < c.toNat) :
      cs.dropWhile (fun c => decide (c.toNat ≤ 0x20)) = cs := by
    cases cs with
    | nil => rfl
    | cons c cs =>
      have hc := hcs c (by simp)
      exact List.dropWhile_cons_of_neg (by simpa using hc)
  have hne (c d : Char) (hc : c ∈ s.toList) (hd : d.toNat ≤ 0x20) : c ≠ d := by
    rintro rfl
    have := h c hc
    omega
  have hreverse := hkept s.toList.reverse fun c hc => h c (List.mem_reverse.mp hc)
  unfold cleaned
  simp only [Text.dropEndWhile]
  rw [hkept s.toList h, hreverse, List.reverse_reverse, List.filter_eq_self]
  intro c hc
  simp [hne c '\t' hc (by decide), hne c '\n' hc (by decide), hne c '\r' hc (by decide)]

theorem splitScheme_web {scheme : String} (h : scheme = "http" ∨ scheme = "https")
    (rest : List Char) : splitScheme (scheme.toList ++ ':' :: rest) = some (scheme, rest) := by
  rcases h with rfl | rfl <;> simp [splitScheme]

theorem visible_of_isBoundary {c : Char} (h : isBoundary c = false) :
    0x20 < c.toNat ∧ c ≠ '?' ∧ c ≠ '#' := by
  refine ⟨?_, ?_, ?_⟩
  · simp only [isBoundary, Bool.or_eq_false_iff, decide_eq_false_iff_not] at h
    omega
  · rintro rfl
    exact absurd h (by decide)
  · rintro rfl
    exact absurd h (by decide)

/-- A part behind its mark has no other characters than both. -/
theorem mem_marked {mark c : Char} {part : Option String} (h : c ∈ marked mark part) :
    c = mark ∨ ∃ s, part = some s ∧ c ∈ s.toList := by
  cases part with
  | none => cases h
  | some s => exact (List.mem_cons.mp h).imp id fun hc => ⟨s, rfl, hc⟩

namespace IsCanonical

variable {u : Url} {host : String}

/-- Authority and path behind two slashes. -/
def body (u : Url) (host : String) : List Char :=
  '/' :: '/' :: (authorityPart u.userinfo host u.port ++ u.path.toList)

theorem text_toList (h : IsCanonical u) (hhost : u.host = some host) :
    u.text.toList =
      u.scheme.toList ++ ':' :: (body u host ++ marked '?' u.query ++ marked '#' u.fragment) := by
  obtain ⟨scheme, userinfo, _, port, path, query, fragment⟩ := u
  obtain rfl : _ = some host := hhost
  have huserinfo : (if userinfo.isEmpty then "" else userinfo ++ "@").toList =
      userinfoPart userinfo := by
    unfold userinfoPart
    split <;> simp
  simp only [text, h.hasAuthority, authorityText, String.toList_append, huserinfo, ↓reduceIte]
  cases port <;> cases query <;> cases fragment <;>
    simp [marked, toString, body, authorityPart]

/-- Before query and fragment there is no mark of either. -/
theorem visible_body (h : IsCanonical u) (hhost : IsWebHost host) {c : Char} (hc : c ∈ body u host) :
    0x20 < c.toNat ∧ c ≠ '?' ∧ c ≠ '#' := by
  rcases List.mem_cons.mp hc with rfl | hc
  · decide
  rcases List.mem_cons.mp hc with rfl | hc
  · decide
  rcases List.mem_append.mp hc with hc | hc
  · rcases isBoundary_authorityPart h.userinfo hhost hc with hc | rfl
    · exact visible_of_isBoundary hc
    · decide
  · exact visible_of_inPath (h.path.inPath hc)

theorem visible_text (h : IsCanonical u) : ∀ c ∈ u.text.toList, 0x20 < c.toNat := by
  obtain ⟨host, hhost, hweb⟩ := h.host
  have hscheme : ∀ c ∈ u.scheme.toList, 0x20 < c.toNat := by
    rcases h.web with hs | hs <;> simp [hs]
  intro c hc
  rw [h.text_toList hhost] at hc
  rcases List.mem_append.mp hc with hc | hc
  · exact hscheme c hc
  rcases List.mem_cons.mp hc with rfl | hc
  · decide
  rcases List.mem_append.mp hc with hc | hc
  · rcases List.mem_append.mp hc with hc | hc
    · exact (h.visible_body hweb hc).1
    · rcases mem_marked hc with rfl | ⟨q, hq, hc⟩
      · decide
      · exact (visible_of_inSpecialQuery (h.query q hq c hc)).1
  · rcases mem_marked hc with rfl | ⟨f, hf, hc⟩
    · decide
    · exact visible_of_inFragment (h.fragment f hf c hc)

theorem withTail_eq (h : IsCanonical u) (v : Url) :
    withTail true (u.query.map String.toList) (u.fragment.map String.toList) v =
      { v with query := u.query, fragment := u.fragment } := by
  have hquery : (u.query.map String.toList).map (fun q => String.ofList (encode inSpecialQuery q)) =
      u.query := by
    cases hq : u.query with
    | none => rfl
    | some q => simp [encode_eq_self (h.query q hq)]
  have hfragment : (u.fragment.map String.toList).map (fun f => String.ofList (encode inFragment f)) =
      u.fragment := by
    cases hf : u.fragment with
    | none => rfl
    | some f => simp [encode_eq_self (h.fragment f hf)]
  simp only [withTail, ↓reduceIte, hquery, hfragment]

/-- The text of a web address is read as that address. -/
theorem parse_text (h : IsCanonical u) : parse u.text = .ok u := by
  obtain ⟨host, hhost, hweb⟩ := h.host
  have hpath : u.path.toList ≠ [] := by simpa using h.rooted
  have hscheme := splitScheme_web h.web
    (body u host ++ marked '?' u.query ++ marked '#' u.fragment)
  rw [← h.text_toList hhost, ← cleaned_of_visible h.visible_text] at hscheme
  have htail := splitTail_marked u.query u.fragment
    (fun c hc => (h.visible_body hweb hc).2) fun q hq hmem =>
      (visible_of_inSpecialQuery (h.query q hq '#' hmem)).2 rfl
  rw [parse_web hscheme h.web, htail, body, dropWhile_authorityPart h.userinfo hweb,
    readAuthority_written h.isSpecial h.userinfo hweb h.port h.path hpath]
  simp only [Except.map, h.withTail_eq, String.ofList_toList, ← hhost]

end IsCanonical

/-! ### Slashes added to a text -/

/-- A text with slashes added before its query and fragment. -/
inductive Slashed (s s' : String) : Prop
  | intro (front tail : List Char) (n : Nat) (hs : cleaned s = front ++ tail)
      (hs' : cleaned s' = front ++ List.replicate n '/' ++ tail)
      (hfront : ∀ c ∈ front, c ≠ '?' ∧ c ≠ '#')
      (htail : ∀ c, tail.head? = some c → c = '?' ∨ c = '#')

def isSchemeChar (c : Char) : Bool := c.isAlphanum || c = '+' || c = '-' || c = '.'

theorem splitScheme_cons (c : Char) (cs : List Char) :
    splitScheme (c :: cs) =
      if c.isAlpha then
        match (c :: cs).dropWhile isSchemeChar with
        | ':' :: rest =>
          some (String.ofList (((c :: cs).takeWhile isSchemeChar).map Char.toLower), rest)
        | _ => none
      else none := rfl

theorem splitScheme_eq_some {cs rest : List Char} {scheme : String}
    (h : splitScheme cs = some (scheme, rest)) :
    ∃ name, cs = name ++ ':' :: rest ∧ (∀ c ∈ name, isSchemeChar c = true) ∧
      ∀ rest', splitScheme (name ++ ':' :: rest') = some (scheme, rest') := by
  cases cs with
  | nil => cases h
  | cons c cs =>
    rw [splitScheme_cons] at h
    split at h
    · rename_i halpha
      split at h
      · rename_i rest₀ hdrop
        cases h
        have hname : ∀ d ∈ (c :: cs).takeWhile isSchemeChar, isSchemeChar d = true := fun d hd =>
          List.mem_takeWhile_imp hd
        have hcut := List.takeWhile_append_dropWhile (p := isSchemeChar) (l := c :: cs)
        refine ⟨(c :: cs).takeWhile isSchemeChar, by rw [← hdrop, hcut], hname, fun rest' => ?_⟩
        obtain ⟨htake', hdrop'⟩ := Text.cut_append (':' :: rest') hname fun d hd => by
          cases hd
          rfl
        have hc : isSchemeChar c = true := by simp [isSchemeChar, Char.isAlphanum, halpha]
        have htake : (c :: cs).takeWhile isSchemeChar = c :: cs.takeWhile isSchemeChar := by
          simp [hc]
        rw [htake, List.cons_append] at htake' hdrop' ⊢
        rw [splitScheme_cons, if_pos halpha, hdrop', htake']
        rfl
      · cases h
    · cases h

/-- Query and fragment do not depend on what stands before them. -/
theorem splitTail_append {body tail : List Char} (hbody : ∀ c ∈ body, c ≠ '?' ∧ c ≠ '#')
    (htail : ∀ c, tail.head? = some c → c = '?' ∨ c = '#') :
    splitTail (body ++ tail) = (body, (splitTail tail).2) := by
  have hhash : ∀ c ∈ body, decide (c ≠ '#') = true := fun c hc => decide_eq_true (hbody c hc).2
  have hquestion : ∀ c ∈ body, decide (c ≠ '?') = true := fun c hc => decide_eq_true (hbody c hc).1
  have hempty : (tail.takeWhile fun c => decide (c ≠ '#')).takeWhile (fun c => decide (c ≠ '?')) =
      [] := by
    cases tail with
    | nil => rfl
    | cons c tail => rcases htail c rfl with rfl | rfl <;> simp
  simp only [splitTail, List.takeWhile_append_of_pos hhash, List.dropWhile_append_of_pos hhash,
    List.takeWhile_append_of_pos hquestion, List.dropWhile_append_of_pos hquestion, hempty,
    List.append_nil]

/-- The scheme of a text stands before its query and fragment. -/
theorem exists_body {front tail rest : List Char} {scheme : String}
    (htail : ∀ c, tail.head? = some c → c = '?' ∨ c = '#')
    (h : splitScheme (front ++ tail) = some (scheme, rest)) :
    ∃ body name, front = name ++ ':' :: body ∧ rest = body ++ tail ∧
      ∀ rest', splitScheme (name ++ ':' :: rest') = some (scheme, rest') := by
  obtain ⟨name, hcut, hname, hread⟩ := splitScheme_eq_some h
  rcases List.append_eq_append_iff.mp hcut with ⟨more, hmore, htail'⟩ | ⟨body, hfront, hbody⟩
  · -- A name that reaches into the tail would hold a question mark or a hash.
    cases more with
    | nil =>
      have hcolon := htail ':' (by rw [htail']; rfl)
      simp at hcolon
    | cons c more =>
      have hc : isSchemeChar c = true := hname c (by simp [hmore])
      rcases htail c (by rw [htail']; rfl) with rfl | rfl <;> exact absurd hc (by decide)
  · cases body with
    | nil =>
      have hcolon := htail ':' (by rw [← List.nil_append tail, ← hbody]; rfl)
      simp at hcolon
    | cons c body =>
      obtain ⟨rfl, hrest⟩ := List.cons.inj hbody
      exact ⟨body, name, hfront, hrest, hread⟩

/-- Slashes added to a web address end up at the end of its path. -/
theorem parse_slashed {s s' : String} {u : Url} (h : parse s = .ok u)
    (hweb : u.scheme = "http" ∨ u.scheme = "https") (hslashed : Slashed s s') :
    ∃ n, parse s' = .ok { u with path := String.ofList (u.path.toList ++ List.replicate n '/') } := by
  obtain ⟨front, tail, n, hs, hs', hfront, htail⟩ := hslashed
  obtain ⟨rest, hscheme, v, hv, hu⟩ := parse_eq_ok h hweb
  rw [hs] at hscheme
  obtain ⟨body, name, rfl, rfl, hread⟩ := exists_body htail hscheme
  have hbody : ∀ c ∈ body, c ≠ '?' ∧ c ≠ '#' := fun c hc => hfront c (by simp [hc])
  have hslashes : ∀ c ∈ body ++ List.replicate n '/', c ≠ '?' ∧ c ≠ '#' := by
    intro c hc
    rcases List.mem_append.mp hc with hc | hc
    · exact hbody c hc
    · rw [List.eq_of_mem_replicate hc]
      decide
  rw [splitTail_append hbody htail] at hv hu
  obtain ⟨m, hm⟩ := readAuthority_slashes n (isSpecial_web hweb).1 hv
  have hscheme' := hread (body ++ List.replicate n '/' ++ tail)
  have htext : name ++ ':' :: (body ++ List.replicate n '/' ++ tail) = cleaned s' := by
    rw [hs']
    simp
  rw [htext] at hscheme'
  refine ⟨m, ?_⟩
  rw [parse_web hscheme' hweb, splitTail_append hslashes htail, hm, hu]
  rfl

end DeviceConsole.Url
