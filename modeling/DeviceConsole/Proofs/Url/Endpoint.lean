import DeviceConsole.Client
import DeviceConsole.Proofs.Decimal
import Mathlib.Data.List.Basic
import Mathlib.Tactic.SplitIfs

/-! Requests of a client: below a base with a hierarchical path every request can be built, and its
path ends in the endpoint. -/
namespace DeviceConsole

namespace Url

/-- A segment that is written as it stands and is no step up or on the spot. -/
def IsPlain (s : List Char) : Prop :=
  isDot s = false ∧ isDoubleDot s = false ∧ encode inPath s = s

theorem resolveDots_plain (segments done : List (List Char)) (hne : segments ≠ [])
    (h : ∀ s ∈ segments, IsPlain s) : resolveDots done segments = done.reverse ++ segments := by
  induction segments generalizing done with
  | nil => exact absurd rfl hne
  | cons s rest ih =>
    obtain ⟨hd, hdd, he⟩ := h s (by simp)
    cases rest with
    | nil => simp [resolveDots, hd, hdd, he]
    | cons t ts =>
      rw [resolveDots.eq_3 _ _ _ (by simp), hd, hdd, he]
      simp only [Bool.false_eq_true, ↓reduceIte]
      rw [ih (s :: done) (by simp) fun x hx => h x (by simp [hx])]
      simp

/-- Plain segments at the end of a path survive whatever stands before them. -/
theorem resolveDots_append_plain (front segments done : List (List Char)) (hne : segments ≠ [])
    (h : ∀ s ∈ segments, IsPlain s) :
    ∃ kept, resolveDots done (front ++ segments) = kept ++ segments := by
  induction front generalizing done with
  | nil => exact ⟨done.reverse, resolveDots_plain segments done hne h⟩
  | cons s front ih =>
    have hrest : front ++ segments ≠ [] := by simp [hne]
    obtain ⟨t, ts, ht⟩ := List.exists_cons_of_ne_nil hrest
    rw [List.cons_append, ht, resolveDots.eq_3 _ _ _ (by simp), ← ht]
    split_ifs
    · exact ih _
    · exact ih _
    · exact ih _

theorem intercalate_slash_append (front segments : List (List Char)) (hf : front ≠ [])
    (hs : segments ≠ []) :
    ['/'].intercalate (front ++ segments) =
      ['/'].intercalate front ++ '/' :: ['/'].intercalate segments := by
  induction front with
  | nil => exact absurd rfl hf
  | cons s front ih =>
    cases front with
    | nil => simp [List.intercalate_cons_of_ne_nil hs]
    | cons t ts =>
      rw [List.cons_append, List.intercalate_cons_of_ne_nil (by simp), ih (by simp),
        List.intercalate_cons_cons]
      simp only [List.append_assoc, List.cons_append, List.nil_append]

/-- What follows the last slash of a path has been cut off. -/
theorem directory_eq (path : List Char) :
    directory path = [] ∨ ∃ front, directory path = front ++ ['/'] := by
  have hhead := List.head?_dropWhile_not (fun c => decide (c ≠ '/')) path.reverse
  unfold directory Text.dropEndWhile
  cases hd : path.reverse.dropWhile fun c => decide (c ≠ '/') with
  | nil => exact .inl rfl
  | cons c cs =>
    rw [hd] at hhead
    have hc : c = '/' := by simpa using hhead
    exact .inr ⟨cs.reverse, by simp [hc]⟩

/-- A reference made of plain segments. -/
structure IsReference (special : Bool) (reference : String) (segments : List (List Char)) :
    Prop where
  split : reference.toList.splitOnP (isSlash special) = segments
  joined : ['/'].intercalate segments = reference.toList
  plain : ∀ s ∈ segments, IsPlain s

/-- Neither slash nor backslash, which splits the paths of the web too. -/
def IsUnsplit (s : List Char) : Prop := '/' ∉ s ∧ '\\' ∉ s

instance (s : List Char) : Decidable (IsUnsplit s) :=
  inferInstanceAs (Decidable ('/' ∉ s ∧ '\\' ∉ s))

theorem splitOnP_unsplit {special : Bool} {s : List Char} (h : IsUnsplit s) :
    s.splitOnP (isSlash special) = [s] := by
  apply List.splitOnP_eq_singleton
  intro c hc
  have hslash : c ≠ '/' := fun he => h.1 (he ▸ hc)
  have hback : c ≠ '\\' := fun he => h.2 (he ▸ hc)
  simp [isSlash, hslash, hback]

/-- Segments are found again in the text they make. -/
theorem splitOnP_intercalate_slash {special : Bool} {segments : List (List Char)}
    (hne : segments ≠ []) (h : ∀ s ∈ segments, IsUnsplit s) :
    (['/'].intercalate segments).splitOnP (isSlash special) = segments := by
  induction segments with
  | nil => exact absurd rfl hne
  | cons s rest ih =>
    have hs : s.splitOnP (isSlash special) = [s] := splitOnP_unsplit (h s (by simp))
    cases rest with
    | nil => simpa using hs
    | cons t ts =>
      have hslash : isSlash special '/' = true := by simp [isSlash]
      rw [List.intercalate_cons_cons, List.append_assoc, List.singleton_append,
        List.splitOnP_append_cons _ _ hslash, hs, ih (by simp) fun x hx => h x (by simp [hx])]
      rfl

theorem IsReference.of_segments {special : Bool} {reference : String}
    {segments : List (List Char)} (hne : segments ≠ [])
    (hjoin : ['/'].intercalate segments = reference.toList)
    (h : ∀ s ∈ segments, IsUnsplit s ∧ IsPlain s) : IsReference special reference segments where
  split := by
    rw [← hjoin]
    exact splitOnP_intercalate_slash hne fun s hs => (h s hs).1
  joined := hjoin
  plain s hs := (h s hs).2

theorem absolutePath_reference {special : Bool} {reference : String}
    {segments : List (List Char)} (h : IsReference special reference segments)
    (path : List Char) :
    ('/' :: reference.toList) <:+
      (absolutePath special ((directory path).drop 1 ++ reference.toList)).toList := by
  have hne : segments ≠ [] := h.split ▸ List.splitOnP_ne_nil _ _
  have hslash : isSlash special '/' = true := by simp [isSlash]
  -- Behind the directory, which is empty or ends in a slash, the reference splits on its own.
  obtain ⟨front, hfront⟩ : ∃ front,
      ((directory path).drop 1 ++ reference.toList).splitOnP (isSlash special) =
        front ++ segments := by
    rcases directory_eq path with hd | ⟨cs, hd⟩
    · exact ⟨[], by simp [hd, h.split]⟩
    · cases cs with
      | nil => exact ⟨[], by simp [hd, h.split]⟩
      | cons c cs =>
        refine ⟨cs.splitOnP (isSlash special), ?_⟩
        have := List.splitOnP_append_cons cs reference.toList hslash
        rw [h.split] at this
        simpa [hd] using this
  obtain ⟨kept, hkept⟩ := resolveDots_append_plain front segments [] hne h.plain
  rw [absolutePath, hfront, hkept, String.toList_ofList]
  cases kept with
  | nil => simp [h.joined]
  | cons k ks =>
    rw [intercalate_slash_append _ _ (by simp) hne, h.joined]
    exact ⟨'/' :: ['/'].intercalate (k :: ks), by simp⟩

instance (s : List Char) : Decidable (IsPlain s) :=
  inferInstanceAs (Decidable (isDot s = false ∧ isDoubleDot s = false ∧ encode inPath s = s))

/-! ### Numbers in a path -/

theorem inPath_of_isDigit {c : Char} (h : c.isDigit = true) : inPath c = false := by
  obtain ⟨h1, h2⟩ := Decimal.digit_toNat h
  have hne (d : Char) (hd : d.isDigit = false) : c ≠ d := Decimal.ne_of_isDigit h hd
  simp [inPath, inFragment, inControls, hne]
  omega

theorem toLower_of_isDigit {c : Char} (h : c.isDigit = true) : c.toLower = c := by
  obtain ⟨h1, h2⟩ := Decimal.digit_toNat h
  have hupper : ¬ (c.val ≥ 'A'.val ∧ c.val ≤ 'Z'.val) := by
    simp only [ge_iff_le, UInt32.le_iff_toNat_le]
    change ¬ (65 ≤ c.toNat ∧ c.toNat ≤ 90)
    omega
  exact dif_neg hupper

theorem not_mem_int64 {n : Int64} {c : Char} (hd : c.isDigit = false) (hm : c ≠ '-') :
    c ∉ (toString n).toList := by
  intro hc
  rcases Decimal.mem_int64_toList hc with hc | hc
  · rw [hd] at hc
    cases hc
  · exact hm hc

theorem isUnsplit_int64 (n : Int64) : IsUnsplit (toString n).toList :=
  ⟨not_mem_int64 (by decide) (by decide), not_mem_int64 (by decide) (by decide)⟩

/-- Without point and percent sign a segment of lower-case characters is no dot segment. -/
theorem isDot_eq_false {s : List Char} (hlower : s.map Char.toLower = s) (hpoint : '.' ∉ s)
    (hpercent : '%' ∉ s) : isDot s = false ∧ isDoubleDot s = false := by
  have hne (t : List Char) (h : '.' ∈ t ∨ '%' ∈ t) : s ≠ t := by
    rintro rfl
    exact h.elim hpoint hpercent
  have hof (t : String) (h : '.' ∈ t.toList ∨ '%' ∈ t.toList) : String.ofList s ≠ t := by
    rintro rfl
    rw [String.toList_ofList] at h
    exact h.elim hpoint hpercent
  constructor
  · simp [isDot, hlower, hne]
  · simp [isDoubleDot, hlower, hof]

/-- Digits, possibly behind a minus sign, make a plain segment. -/
theorem isPlain_int64 (n : Int64) : IsPlain (toString n).toList := by
  have hchar (c : Char) (hc : c ∈ (toString n).toList) :
      c.toLower = c ∧ encodeChar inPath c = [c] := by
    rcases Decimal.mem_int64_toList hc with hd | rfl
    · exact ⟨toLower_of_isDigit hd, if_neg (by simp [inPath_of_isDigit hd])⟩
    · exact ⟨rfl, rfl⟩
  have hlower : (toString n).toList.map Char.toLower = (toString n).toList :=
    (List.map_congr_left fun c hc => (hchar c hc).1).trans (List.map_id _)
  obtain ⟨hdot, hdouble⟩ := isDot_eq_false hlower (not_mem_int64 (by decide) (by decide))
    (not_mem_int64 (by decide) (by decide))
  refine ⟨hdot, hdouble, ?_⟩
  rw [encode, List.flatMap_congr fun c hc => (hchar c hc).2]
  exact List.flatMap_singleton' _

end Url

namespace Client

def endpoint (c : Client) (reference : String) : Url :=
  { c.base with
    userinfo := ""
    path := Url.absolutePath (Url.isSpecial c.base.scheme)
      ((Url.directory c.base.path.toList).drop 1 ++ reference.toList)
    query := none
    fragment := none }

theorem request_eq {c : Client} (h : c.base.isOpaque = false) (method : Method)
    (reference : String) (body : Option Json) :
    c.request method reference body = .ok { method, url := c.endpoint reference, body } := by
  simp [request, Url.join, h, endpoint]

theorem endpoint_path (c : Client) {reference : String} {segments : List (List Char)}
    (h : Url.IsReference (Url.isSpecial c.base.scheme) reference segments) :
    ('/' :: reference.toList) <:+ (c.endpoint reference).path.toList :=
  Url.absolutePath_reference h c.base.path.toList

/-- A request of the client to one of its endpoints. -/
structure AsksFor (c : Client) (q : Request) (method : Method) (reference : String) :
    Prop where
  method_eq : q.method = method
  url_eq : q.url = c.endpoint reference
  path_suffix : ('/' :: reference.toList) <:+ q.url.path.toList

theorem call_run {α : Type} {c : Client} (h : c.base.isOpaque = false)
    (read : String → Except RequestError α) (method : Method) (reference : String)
    (body : Option Json) :
    (c.call read method reference body).run =
      .ask { method, url := c.endpoint reference, body } fun o =>
        .done (interpret read { method, url := c.endpoint reference, body } o) := by
  rw [call, request_eq h]
  rfl

/-- Below an opaque base nothing can be sent. -/
theorem call_run_opaque {α : Type} {c : Client} (h : c.base.isOpaque = true)
    (read : String → Except RequestError α) (method : Method) (reference : String)
    (body : Option Json) :
    (c.call read method reference body).run = .done (.error (.invalidUrl .relativeToOpaque)) := by
  have hrequest : c.request method reference body = .error (.invalidUrl .relativeToOpaque) := by
    simp [request, Url.join, h]
  rw [call, hrequest]
  rfl

end Client
end DeviceConsole
