import DeviceConsole.Client
import DeviceConsole.Proofs.Url.Text

/-! The base of a client. Of a server only the path changes: slashes at its end and one `/api` at
the end make no difference, and `/api/` ends the path of the base, which is its own base. -/
namespace DeviceConsole

open Url (IsPath IsCanonical)

namespace Client

/-! ### The path of a base -/

def apiChars : List Char := ['/', 'a', 'p', 'i']

/-- A path without the slashes at its end, and without one `/api` if it then ends in one. -/
inductive Stem : List Char → List Char → Prop
  | api (p : List Char) (n : Nat) : Stem (p ++ apiChars ++ List.replicate n '/') p
  | plain {p : List Char} (hslash : p.getLast? ≠ some '/') (hapi : ¬ apiChars <:+ p) (n : Nat) :
      Stem (p ++ List.replicate n '/') p

theorem dropEndWhile_slashes {p : List Char} (h : p.getLast? ≠ some '/') (n : Nat) :
    Text.dropEndWhile (· = '/') (p ++ List.replicate n '/') = p := by
  rw [Text.dropEndWhile_append_of_pos p fun c hc => by simpa using List.eq_of_mem_replicate hc]
  rcases List.eq_nil_or_concat p with rfl | ⟨front, c, rfl⟩
  · rfl
  · have hc : c ≠ '/' := by simpa using h
    simp [Text.dropEndWhile, hc]

theorem dropEndWhile_getLast? (p : List Char) :
    (Text.dropEndWhile (· = '/') p).getLast? ≠ some '/' := by
  intro hlast
  have hslash := Text.getLast?_dropEndWhile hlast
  simp at hslash

theorem exists_stem (path : List Char) : ∃ p, Stem path p := by
  obtain ⟨n, hn⟩ := Url.exists_slashes path
  have hlast := dropEndWhile_getLast? path
  generalize Text.dropEndWhile (· = '/') path = trimmed at hn hlast
  by_cases hapi : apiChars <:+ trimmed
  · obtain ⟨p, rfl⟩ := hapi
    exact ⟨p, hn ▸ .api p n⟩
  · exact ⟨trimmed, hn ▸ .plain hlast hapi n⟩

theorem apiPath_eq {path : String} {trimmed : List Char}
    (h : Text.dropEndWhile (· = '/') path.toList = trimmed) :
    (apiPath path).toList = if apiChars <:+ trimmed then trimmed ++ ['/']
      else trimmed ++ (apiChars ++ ['/']) := by
  unfold apiPath
  rw [h]
  change (if apiChars.isSuffixOf trimmed = true then String.ofList trimmed ++ "/"
    else String.ofList trimmed ++ "/api/").toList = _
  simp only [List.isSuffixOf_iff_suffix]
  split <;> simp [apiChars]

theorem apiPath_of_stem {path : String} {p : List Char} (h : Stem path.toList p) :
    (apiPath path).toList = p ++ (apiChars ++ ['/']) := by
  generalize hpath : path.toList = cs at h
  cases h with
  | api _ n =>
    have htrimmed := dropEndWhile_slashes (p := p ++ apiChars) (by simp [apiChars]) n
    rw [apiPath_eq (hpath ▸ htrimmed), if_pos (List.suffix_append p apiChars), List.append_assoc]
  | plain hslash hapi n =>
    rw [apiPath_eq (hpath ▸ dropEndWhile_slashes hslash n), if_neg hapi]

/-- Slashes at the end of a path make no difference. -/
theorem Stem.append_slashes {path p : List Char} (h : Stem path p) (n : Nat) :
    Stem (path ++ List.replicate n '/') p := by
  cases h with
  | api _ m =>
    rw [List.append_assoc, List.replicate_append_replicate]
    exact .api p (m + n)
  | plain hslash hapi m =>
    rw [List.append_assoc, List.replicate_append_replicate]
    exact .plain hslash hapi (m + n)

theorem Stem.isPath {path p : List Char} (h : Stem path p) (hpath : IsPath path) : IsPath p := by
  cases h with
  | api _ n =>
    rw [List.append_assoc] at hpath
    exact hpath.of_append
  | plain hslash hapi n => exact hpath.of_append_slashes

theorem Stem.unique {path p q : List Char} (h : Stem path p) (h' : Stem path q) : p = q := by
  rw [← String.toList_ofList (l := path)] at h h'
  exact List.append_cancel_right ((apiPath_of_stem h).symm.trans (apiPath_of_stem h'))

/-- A path with slashes added at its end, or with `/api` put behind what it is without them. -/
inductive Respelled : List Char → List Char → Prop
  | slashes (path : List Char) (n : Nat) : Respelled path (path ++ List.replicate n '/')
  | api {p : List Char} (hslash : p.getLast? ≠ some '/') (hapi : ¬ apiChars <:+ p) (n m : Nat) :
      Respelled (p ++ List.replicate n '/') (p ++ apiChars ++ List.replicate m '/')

theorem Stem.respelled {path path' p : List Char} (h : Stem path p) (hr : Respelled path path') :
    Stem path' p := by
  cases hr with
  | slashes _ n => exact h.append_slashes n
  | api hslash hapi n m =>
    rw [h.unique (.plain hslash hapi n)]
    exact .api _ m

theorem isPath_api : IsPath (apiChars ++ ['/']) :=
  (Url.IsSegment.isPath (s := "api".toList) (by decide)).append Url.isSegment_nil.isPath

theorem Respelled.isPath {path path' : List Char} (h : Respelled path path') (hpath : IsPath path) :
    IsPath path' := by
  cases h with
  | slashes _ n => exact hpath.append (Url.isPath_slashes n)
  | api _ _ n m =>
    exact (hpath.of_append_slashes.append isPath_api.of_append).append (Url.isPath_slashes m)

theorem Respelled.ne_nil {path path' : List Char} (h : Respelled path path') (hpath : path ≠ []) :
    path' ≠ [] := by
  cases h with
  | slashes _ n => simp [hpath]
  | api _ _ n m => simp [apiChars]

/-! ### The base of a web address -/

variable {u : Url} {server : String}

theorem isPath_apiPath {path : String} (h : IsPath path.toList) :
    IsPath (apiPath path).toList := by
  obtain ⟨p, hp⟩ := exists_stem path.toList
  rw [apiPath_of_stem hp]
  exact (hp.isPath h).append isPath_api

theorem apiPath_ne_empty (path : String) : (apiPath path).toList ≠ [] := by
  obtain ⟨p, hp⟩ := exists_stem path.toList
  simp [apiPath_of_stem hp]

theorem normalizeBase_eq (h : IsCanonical u) : normalizeBase u = { u with path := apiPath u.path } := by
  rw [normalizeBase, Url.setPath, h.isOpaque,
    (isPath_apiPath h.path).pathAfterAuthority (apiPath_ne_empty u.path)]
  simp only [String.ofList_toList, Bool.false_eq_true, ↓reduceIte]

theorem normalizeBase_isCanonical (h : IsCanonical u) : IsCanonical (normalizeBase u) := by
  rw [normalizeBase_eq h]
  exact h.withPath (isPath_apiPath h.path) fun hnil => apiPath_ne_empty u.path (by simp [hnil])

/-- Addresses that differ in the path alone have one base if their paths have one stem. -/
theorem normalizeBase_withPath {path : String} {p : List Char} (h : IsCanonical u)
    (h' : IsCanonical { u with path := path }) (hp : Stem u.path.toList p)
    (hp' : Stem path.toList p) : normalizeBase { u with path := path } = normalizeBase u := by
  have hpath : apiPath path = apiPath u.path :=
    String.toList_inj.mp ((apiPath_of_stem hp').trans (apiPath_of_stem hp).symm)
  rw [normalizeBase_eq h', normalizeBase_eq h, hpath]

/-- A base is its own base. -/
theorem normalizeBase_normalizeBase (h : IsCanonical u) :
    normalizeBase (normalizeBase u) = normalizeBase u := by
  have hcanonical := normalizeBase_isCanonical h
  rw [normalizeBase_eq h] at hcanonical ⊢
  obtain ⟨p, hp⟩ := exists_stem u.path.toList
  have hstem : Stem (apiPath u.path).toList p := by
    rw [apiPath_of_stem hp, ← List.append_assoc]
    exact .api p 1
  rw [normalizeBase_withPath h hcanonical hp hstem, normalizeBase_eq h]

theorem ofServer_of_parse (h : Url.parse server = .ok u) :
    ofServer server = .ok ⟨normalizeBase u⟩ := by
  rw [ofServer, h]

theorem ofServer_text (h : IsCanonical u) : ofServer u.text = .ok ⟨normalizeBase u⟩ :=
  ofServer_of_parse h.parse_text

end Client
end DeviceConsole
