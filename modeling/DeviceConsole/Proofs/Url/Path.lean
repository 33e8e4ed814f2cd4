import DeviceConsole.Proofs.Text.Parts
import DeviceConsole.Proofs.Url.Endpoint
import DeviceConsole.Proofs.Url.Percent
import Mathlib.Data.List.TakeWhile

/-! Paths of the web. A path is made of segments that are written as they are read, a slash before
each; such a path is read as itself, and so is what is left when slashes are cut off its end or
further segments are added to it. -/
namespace DeviceConsole.Url

/-! ### Segments -/

/-- The two spellings of a point, once or twice. -/
def dotForms : List (List Char) :=
  [".", "%2e", "..", "%2e.", ".%2e", "%2e%2e"].map String.toList

theorem mem_dotForms {s : List Char} (h : isDot s = true ∨ isDoubleDot s = true) :
    s.map Char.toLower ∈ dotForms := by
  rcases h with h | h
  · simp only [isDot, Bool.or_eq_true, decide_eq_true_eq] at h
    rcases h with rfl | h
    · decide
    · rw [h]
      decide
  · simp only [isDoubleDot, List.contains_eq_mem, decide_eq_true_eq] at h
    have hmem := List.mem_map_of_mem (f := String.toList) h
    rw [String.toList_ofList] at hmem
    exact List.mem_of_mem_drop (i := 2) hmem

/-- Behind a percent sign a point has its own two digits. -/
theorem dotForms_percent {form : List Char} (hform : form ∈ dotForms) {x y : Char}
    (h : ['%', x, y] <:+: form) : x = '2' ∧ y = 'e' := by
  simp only [dotForms, List.map_cons, List.map_nil, List.mem_cons, List.not_mem_nil,
    or_false] at hform
  rcases hform with rfl | rfl | rfl | rfl | rfl | rfl <;>
    simp [List.infix_cons_iff, List.cons_prefix_cons] at h <;> tauto

theorem encodeByte_eq {b : Nat} (hb : b < 256) (hpoint : b ≠ 0x2E) :
    ∃ x y, encodeByte b = ['%', x, y] ∧ (x.toLower ≠ '2' ∨ y.toLower ≠ 'e') := by
  have hdigits : ∀ n < 16, (n.digitChar.toUpper.toLower = '2' → n = 2) ∧
      (n.digitChar.toUpper.toLower = 'e' → n = 14) := by decide
  refine ⟨_, _, rfl, ?_⟩
  by_contra hboth
  obtain ⟨hhigh, hlow⟩ := not_or.mp hboth
  have := (hdigits (b / 16) (by omega)).1 (not_not.mp hhigh)
  have := (hdigits (b % 16) (by omega)).2 (not_not.mp hlow)
  omega

/-- The first byte of an encoded character is not that of a point. -/
theorem utf8Bytes_of_inPath {c : Char} (h : inPath c = true) :
    ∃ b bs, utf8Bytes c = b :: bs ∧ b < 256 ∧ b ≠ 0x2E := by
  have hne : utf8Bytes c ≠ [] := by
    rw [utf8Bytes_eq]
    exact fun hnil => String.utf8EncodeChar_ne_nil (List.map_eq_nil_iff.mp hnil)
  obtain ⟨b, bs, hbytes⟩ := List.exists_cons_of_ne_nil hne
  refine ⟨b, bs, hbytes, utf8Bytes_lt b (hbytes ▸ List.mem_cons_self), ?_⟩
  rintro rfl
  by_cases hascii : c.toNat < 0x80
  · rw [utf8Bytes_of_ascii hascii] at hbytes
    have hc : c = '.' := Char.toNat_inj.mp (List.cons.inj hbytes).1
    rw [hc] at h
    exact absurd h (by decide)
  · have := le_utf8Bytes_of_not_ascii (Nat.not_lt.mp hascii) 0x2E (by simp [hbytes])
    omega

/-- Encoding makes no dot segment. -/
theorem isPlain_encode {s : List Char} (hdot : isDot s = false) (hdouble : isDoubleDot s = false) :
    IsPlain (encode inPath s) := by
  by_cases hall : ∀ c ∈ s, inPath c = false
  · rw [encode_eq_self hall]
    exact ⟨hdot, hdouble, encode_eq_self hall⟩
  · have hform : (encode inPath s).map Char.toLower ∉ dotForms := by
      intro hform
      push Not at hall
      obtain ⟨c, hc, hset⟩ := hall
      obtain ⟨front, back, rfl⟩ := List.append_of_mem hc
      have hset : inPath c = true := by simpa using hset
      obtain ⟨b, bs, hbytes, hb, hpoint⟩ := utf8Bytes_of_inPath hset
      obtain ⟨x, y, hxy, hne⟩ := encodeByte_eq hb hpoint
      have hescape : ['%', x, y] <:+: encode inPath (front ++ c :: back) := by
        refine ⟨encode inPath front, bs.flatMap encodeByte ++ encode inPath back, ?_⟩
        simp [encode, encodeChar, hset, hbytes, hxy]
      have hmapped := dotForms_percent hform (hescape.map Char.toLower)
      exact hne.elim (fun h => h hmapped.1) (fun h => h hmapped.2)
    refine ⟨?_, ?_, encode_encode isEncoded_inPath s⟩
    · exact Bool.eq_false_iff.mpr fun h => hform (mem_dotForms (.inl h))
    · exact Bool.eq_false_iff.mpr fun h => hform (mem_dotForms (.inr h))

theorem isUnsplit_encode {s : List Char} (h : IsUnsplit s) : IsUnsplit (encode inPath s) := by
  have hnot (c : Char) (hc : c ∉ s) (hd : c ∉ encodingChars) : c ∉ encode inPath s :=
    fun hmem => (mem_encode hmem).elim (fun h => hc h.1) hd
  exact ⟨hnot '/' h.1 (by decide), hnot '\\' h.2 (by decide)⟩

/-- A segment of a path as it is written. -/
structure IsSegment (s : List Char) : Prop where
  plain : IsPlain s
  unsplit : IsUnsplit s

instance (s : List Char) : Decidable (IsSegment s) :=
  decidable_of_iff (IsPlain s ∧ IsUnsplit s) ⟨fun h => ⟨h.1, h.2⟩, fun h => ⟨h.plain, h.unsplit⟩⟩

theorem isSegment_nil : IsSegment [] := by decide

theorem isSegment_int64 (n : Int64) : IsSegment (toString n).toList :=
  ⟨isPlain_int64 n, isUnsplit_int64 n⟩

theorem isSegment_popSegment {done : List (List Char)} (h : ∀ s ∈ done, IsSegment s) :
    ∀ s ∈ popSegment done, IsSegment s := by
  cases done with
  | nil => simp [popSegment]
  | cons s rest =>
    rw [popSegment]
    split
    · exact h
    · exact fun t ht => h t (List.mem_cons_of_mem _ ht)

/-- Whatever the segments were, without dots they are as they are written. -/
theorem isSegment_resolveDots {done segments : List (List Char)} (hdone : ∀ s ∈ done, IsSegment s)
    (h : ∀ s ∈ segments, IsUnsplit s) : ∀ s ∈ resolveDots done segments, IsSegment s := by
  have hencoded (s : List Char) (hs : IsUnsplit s) (hdouble : ¬ isDoubleDot s = true)
      (hdot : ¬ isDot s = true) : IsSegment (encode inPath s) :=
    ⟨isPlain_encode (by simpa using hdot) (by simpa using hdouble), isUnsplit_encode hs⟩
  have hreverse {last : List Char} {front : List (List Char)} (hlast : IsSegment last)
      (hfront : ∀ s ∈ front, IsSegment s) : ∀ s ∈ (last :: front).reverse, IsSegment s := by
    simpa only [List.mem_reverse, List.forall_mem_cons] using ⟨hlast, hfront⟩
  fun_induction resolveDots done segments with
  | case1 done => simpa using hdone
  | case2 done s hdouble => exact hreverse isSegment_nil (isSegment_popSegment hdone)
  | case3 done s hdouble hdot => exact hreverse isSegment_nil hdone
  | case4 done s hdouble hdot => exact hreverse (hencoded s (h s (by simp)) hdouble hdot) hdone
  | case5 done s rest hne hdouble ih =>
    exact ih (isSegment_popSegment hdone) fun t ht => h t (List.mem_cons_of_mem _ ht)
  | case6 done s rest hne hdouble hdot ih =>
    exact ih hdone fun t ht => h t (List.mem_cons_of_mem _ ht)
  | case7 done s rest hne hdouble hdot ih =>
    refine ih (List.forall_mem_cons.mpr ⟨hencoded s (h s (by simp)) hdouble hdot, hdone⟩) ?_
    exact fun t ht => h t (List.mem_cons_of_mem _ ht)

/-! ### Paths -/

/-- Segments, a slash before each. -/
def pathOf (segments : List (List Char)) : List Char := segments.flatMap ('/' :: ·)

theorem pathOf_eq {segments : List (List Char)} (h : segments ≠ []) :
    pathOf segments = '/' :: ['/'].intercalate segments := by
  induction segments with
  | nil => exact absurd rfl h
  | cons s rest ih =>
    cases rest with
    | nil => simp [pathOf]
    | cons t ts =>
      have htail := ih (by simp)
      rw [List.intercalate_cons_cons]
      simp only [pathOf, List.flatMap_cons] at htail ⊢
      rw [htail]
      simp

/-- A path that is read as it is written. -/
def IsPath (path : List Char) : Prop :=
  ∃ segments, pathOf segments = path ∧ ∀ s ∈ segments, IsSegment s

theorem isPath_nil : IsPath [] := ⟨[], rfl, by simp⟩

theorem IsPath.append {p q : List Char} (hp : IsPath p) (hq : IsPath q) : IsPath (p ++ q) := by
  obtain ⟨ss, rfl, hss⟩ := hp
  obtain ⟨ts, rfl, hts⟩ := hq
  refine ⟨ss ++ ts, List.flatMap_append, fun s hs => ?_⟩
  exact (List.mem_append.mp hs).elim (hss s) (hts s)

theorem IsSegment.isPath {s : List Char} (h : IsSegment s) : IsPath ('/' :: s) :=
  ⟨[s], by simp [pathOf], by simpa using h⟩

theorem isPath_slashes (n : Nat) : IsPath (List.replicate n '/') := by
  induction n with
  | zero => exact isPath_nil
  | succ n ih => exact isSegment_nil.isPath.append ih

/-- A path may be cut off before any of its slashes. -/
theorem IsPath.of_append {p rest : List Char} (h : IsPath (p ++ '/' :: rest)) : IsPath p := by
  obtain ⟨segments, hpath, hsegments⟩ := h
  induction segments generalizing p with
  | nil => simp [pathOf] at hpath
  | cons s segments ih =>
    obtain ⟨hs, hsegments⟩ := List.forall_mem_cons.mp hsegments
    have hjoined : '/' :: (s ++ pathOf segments) = p ++ '/' :: rest := by simpa [pathOf] using hpath
    cases p with
    | nil => exact isPath_nil
    | cons c p =>
      obtain ⟨rfl, htail⟩ := List.cons.inj hjoined
      rcases List.append_eq_append_iff.mp htail with ⟨more, rfl, hmore⟩ | ⟨more, hmore, hrest⟩
      · exact hs.isPath.append (ih hmore hsegments)
      · cases more with
        | nil =>
          rw [List.append_nil] at hmore
          exact hmore ▸ hs.isPath
        | cons d more =>
          obtain ⟨rfl, -⟩ := List.cons.inj hrest
          exact absurd (by simp [hmore]) hs.unsplit.1

theorem IsPath.of_append_slashes {p : List Char} {n : Nat}
    (h : IsPath (p ++ List.replicate n '/')) : IsPath p := by
  cases n with
  | zero => simpa using h
  | succ n => exact h.of_append

/-- Slashes are all that is cut off. -/
theorem exists_slashes (p : List Char) :
    ∃ n, p = Text.dropEndWhile (· = '/') p ++ List.replicate n '/' := by
  have hcut := List.takeWhile_append_dropWhile (p := fun c => decide (c = '/')) (l := p.reverse)
  have hslashes : (p.reverse.takeWhile fun c => decide (c = '/')) =
      List.replicate (p.reverse.takeWhile fun c => decide (c = '/')).length '/' :=
    List.eq_replicate_iff.mpr ⟨rfl, fun c hc => by simpa using List.mem_takeWhile_imp hc⟩
  refine ⟨(p.reverse.takeWhile fun c => decide (c = '/')).length, ?_⟩
  rw [← List.reverse_replicate, ← hslashes, Text.dropEndWhile, ← List.reverse_append, hcut,
    List.reverse_reverse]

theorem isPath_absolutePath (cs : List Char) : IsPath (absolutePath true cs).toList := by
  have hunsplit : ∀ s ∈ cs.splitOnP (isSlash true), IsUnsplit s := by
    intro s hs
    refine ⟨fun hmem => ?_, fun hmem => ?_⟩
    · exact absurd (Text.mem_splitOnP hs hmem).2 (by decide)
    · exact absurd (Text.mem_splitOnP hs hmem).2 (by decide)
  have hsegments : ∀ s ∈ resolveDots [] (cs.splitOnP (isSlash true)), IsSegment s :=
    isSegment_resolveDots (by simp) hunsplit
  rw [absolutePath, String.toList_ofList]
  rcases eq_or_ne (resolveDots [] (cs.splitOnP (isSlash true))) [] with hnil | hne
  · rw [hnil]
    exact isSegment_nil.isPath
  · exact ⟨_, pathOf_eq hne, hsegments⟩

/-- What stands behind a slash in a path may be asked for. -/
theorem IsPath.isReference {special : Bool} {reference : String}
    (h : IsPath ('/' :: reference.toList)) : ∃ segments, IsReference special reference segments := by
  obtain ⟨segments, hpath, hsegments⟩ := h
  have hne : segments ≠ [] := by
    rintro rfl
    simp [pathOf] at hpath
  rw [pathOf_eq hne] at hpath
  exact ⟨segments, .of_segments hne (List.cons.inj hpath).2 fun s hs =>
    ⟨(hsegments s hs).unsplit, (hsegments s hs).plain⟩⟩

/-- A path is read as itself. -/
theorem IsPath.absolutePath {special : Bool} {cs : List Char} (h : IsPath ('/' :: cs)) :
    Url.absolutePath special cs = String.ofList ('/' :: cs) := by
  obtain ⟨segments, hpath, hsegments⟩ := h
  have hne : segments ≠ [] := by
    rintro rfl
    simp [pathOf] at hpath
  rw [pathOf_eq hne] at hpath
  obtain rfl := (List.cons.inj hpath).2
  rw [Url.absolutePath, splitOnP_intercalate_slash hne fun s hs => (hsegments s hs).unsplit,
    resolveDots_plain segments [] hne fun s hs => (hsegments s hs).plain]
  rfl

/-- Whatever follows the authority, the path starts at a slash. -/
theorem pathAfterAuthority_eq (cs : List Char) :
    ∃ rest, pathAfterAuthority true cs = absolutePath true rest := by
  unfold pathAfterAuthority
  split
  · exact ⟨[], rfl⟩
  · rename_i c rest
    split
    · exact ⟨rest, rfl⟩
    · exact ⟨c :: rest, rfl⟩

theorem isPath_pathAfterAuthority (cs : List Char) : IsPath (pathAfterAuthority true cs).toList := by
  obtain ⟨rest, hrest⟩ := pathAfterAuthority_eq cs
  rw [hrest]
  exact isPath_absolutePath rest

theorem pathAfterAuthority_ne_empty (cs : List Char) : pathAfterAuthority true cs ≠ "" := by
  obtain ⟨rest, hrest⟩ := pathAfterAuthority_eq cs
  rw [hrest, absolutePath]
  exact fun h => by simpa using congrArg String.toList h

theorem IsPath.exists_cons {p : List Char} (h : IsPath p) (hne : p ≠ []) : ∃ cs, p = '/' :: cs := by
  obtain ⟨segments, rfl, -⟩ := h
  cases segments with
  | nil => exact absurd rfl hne
  | cons s rest => exact ⟨s ++ pathOf rest, by simp [pathOf]⟩

theorem IsPath.pathAfterAuthority {special : Bool} {p : List Char} (h : IsPath p) (hne : p ≠ []) :
    Url.pathAfterAuthority special p = String.ofList p := by
  obtain ⟨cs, rfl⟩ := h.exists_cons hne
  rw [Url.pathAfterAuthority, if_pos (by simp [isSlash]), h.absolutePath]

/-- A path has no character that ends it. -/
theorem IsPath.inPath {p : List Char} (h : IsPath p) {c : Char} (hc : c ∈ p) :
    Url.inPath c = false := by
  obtain ⟨segments, rfl, hsegments⟩ := h
  obtain ⟨s, hs, hc⟩ := List.mem_flatMap.mp hc
  rcases List.mem_cons.mp hc with rfl | hc
  · decide
  · rw [← (hsegments s hs).plain.2.2] at hc
    exact not_inSet_of_mem_encode isEncoded_inPath hc

/-! ### Slashes at the end -/

theorem directory_slash (p : List Char) : directory (p ++ ['/']) = p ++ ['/'] := by
  simp [directory, Text.dropEndWhile]

/-- An empty segment at the end is added, unless a dot segment there left one already. -/
theorem resolveDots_concat_nil (done segments : List (List Char)) (hne : segments ≠ []) :
    resolveDots done (segments ++ [[]]) = resolveDots done segments ∨
      resolveDots done (segments ++ [[]]) = resolveDots done segments ++ [[]] := by
  have hempty (done : List (List Char)) : resolveDots done [[]] = ([] :: done).reverse := by
    have hdouble : isDoubleDot [] = false := by decide
    have hdot : isDot [] = false := by decide
    have hencode : encode inPath [] = [] := rfl
    rw [resolveDots, hdouble, hdot, hencode]
    rfl
  induction segments generalizing done with
  | nil => exact absurd rfl hne
  | cons s rest ih =>
    cases rest with
    | nil =>
      rw [List.singleton_append, resolveDots.eq_3 _ _ _ (by simp), resolveDots.eq_2 done s]
      split_ifs
      · exact .inl (hempty _)
      · exact .inl (hempty _)
      · refine .inr ?_
        rw [hempty, List.reverse_cons]
    | cons t ts =>
      rw [List.cons_append, resolveDots.eq_3 _ _ _ (by simp), resolveDots.eq_3 _ _ _ (by simp)]
      split_ifs
      · exact ih _ (by simp)
      · exact ih _ (by simp)
      · exact ih _ (by simp)

theorem absolutePath_append_slash (cs : List Char) :
    ∃ n, (absolutePath true (cs ++ ['/'])).toList =
      (absolutePath true cs).toList ++ List.replicate n '/' := by
  have hsplit : (cs ++ ['/']).splitOnP (isSlash true) = cs.splitOnP (isSlash true) ++ [[]] := by
    rw [List.splitOnP_append_cons cs [] (by simp [isSlash]), List.splitOnP_nil]
  have hne := List.splitOnP_ne_nil (isSlash true) cs
  simp only [absolutePath, String.toList_ofList, hsplit]
  rcases resolveDots_concat_nil [] _ hne with hsame | hmore
  · exact ⟨0, by rw [hsame, List.replicate_zero, List.append_nil]⟩
  · rw [hmore]
    generalize resolveDots [] (cs.splitOnP (isSlash true)) = segments
    rcases eq_or_ne segments [] with rfl | hfull
    · exact ⟨0, rfl⟩
    · exact ⟨1, by rw [intercalate_slash_append _ _ hfull (by simp)]; simp⟩

theorem absolutePath_append_slashes (cs : List Char) (n : Nat) :
    ∃ m, (absolutePath true (cs ++ List.replicate n '/')).toList =
      (absolutePath true cs).toList ++ List.replicate m '/' := by
  induction n with
  | zero => exact ⟨0, by simp⟩
  | succ n ih =>
    obtain ⟨m, hm⟩ := ih
    obtain ⟨k, hk⟩ := absolutePath_append_slash (cs ++ List.replicate n '/')
    refine ⟨m + k, ?_⟩
    rw [List.replicate_succ', ← List.append_assoc, hk, hm, List.append_assoc,
      List.replicate_append_replicate]

/-- Slashes behind what is read as a path end up at the end of the path. -/
theorem pathAfterAuthority_append_slashes {cs : List Char}
    (hcs : ∀ c, cs.head? = some c → isSlash true c = true) (n : Nat) :
    ∃ m, (pathAfterAuthority true (cs ++ List.replicate n '/')).toList =
      (pathAfterAuthority true cs).toList ++ List.replicate m '/' := by
  cases cs with
  | nil =>
    cases n with
    | zero => exact ⟨0, by simp⟩
    | succ n =>
      refine ⟨n, ?_⟩
      rw [List.nil_append, (isPath_slashes (n + 1)).pathAfterAuthority (by simp),
        String.toList_ofList]
      rfl
  | cons c rest =>
    have hc := hcs c rfl
    simp only [pathAfterAuthority, List.cons_append, hc, ↓reduceIte]
    exact absolutePath_append_slashes rest n

end DeviceConsole.Url
