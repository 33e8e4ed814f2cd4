import DeviceConsole.Proofs.Address
import DeviceConsole.Proofs.Target.Tokens

/-! What a target text denotes: in list mode the addresses it names, in block mode one block. The
text of targets denotes these targets. -/
namespace DeviceConsole

namespace Cidr

theorem text_toList (b : Cidr) :
    b.text.toList = b.address.text.toList ++ '/' :: Nat.toDigits 10 b.bits := by
  simp [text, toString]

/-- The text of a block is made of digits, points and a slash. -/
theorem mem_text {b : Cidr} {c : Char} (h : c ∈ b.text.toList) :
    c.isDigit = true ∨ c = '.' ∨ c = '/' := by
  rw [text_toList, List.mem_append, List.mem_cons] at h
  rcases h with h | rfl | h
  · exact (Address.mem_text h).imp_right .inl
  · exact .inr (.inr rfl)
  · exact .inl (Nat.isDigit_of_mem_toDigits (by decide) (by decide) h)

theorem isBlank_of_mem_text {b : Cidr} {c : Char} (h : c ∈ b.text.toList) :
    Text.isBlank c = false := by
  rcases mem_text h with hd | rfl | rfl
  · exact Text.isBlank_of_isDigit hd
  · decide
  · decide

/-- The text of a block stands for that block, with its host bits. -/
theorem parse_text (b : Cidr) : parse b.text = .ok b := by
  have hslash : ∀ c ∈ b.address.text.toList, decide (c ≠ '/') = true := by
    intro c hc
    rcases Address.mem_text hc with hd | rfl
    · exact decide_eq_true (Decimal.ne_of_isDigit hd (by decide))
    · decide
  have haddress : Address.ofChars? b.address.text.toList = some b.address :=
    Address.ofText?_text b.address
  rw [parse, text_toList, ofChars?, List.takeWhile_append_of_pos hslash,
    List.dropWhile_append_of_pos hslash]
  simp [haddress, b.bits_le]

theorem size_pos (b : Cidr) : 0 < b.size := Nat.pow_pos (by decide)

end Cidr

namespace AddressSet

theorem ofList_elems (s : AddressSet) : ofList s.elems = s := ext_mem fun _ => mem_ofList

end AddressSet

namespace Targets

def mode : Targets → TargetMode
  | addresses _ => .list
  | block _ => .cidr

/-- Only an address list can be empty. -/
theorem size_eq_zero_iff {t : Targets} : t.size = 0 ↔ t = .addresses .empty := by
  cases t with
  | addresses set =>
    obtain ⟨elems, h⟩ := set
    simp [size, AddressSet.size, AddressSet.empty]
  | block b => simpa [size] using Nat.ne_of_gt b.size_pos

end Targets

namespace TargetSpec

/-- One of the parts between commas, trimmed, is a text of the address. -/
def Names (text : String) (a : Address) : Prop :=
  ∃ part ∈ text.toList.splitOn ',', Address.ofChars? (Text.trimChars part) = some a

theorem names_iff {text : String} {a : Address} :
    Names text a ↔ ∃ t ∈ tokens text, Address.ofText? t = some a := by
  constructor
  · rintro ⟨part, hpart, ha⟩
    have hne : Text.trimChars part ≠ [] := by
      intro h
      rw [h] at ha
      cases ha
    refine ⟨_, mem_tokens.mpr ⟨part, hpart, hne, rfl⟩, ?_⟩
    rwa [Address.ofText?, String.toList_ofList]
  · rintro ⟨t, ht, ha⟩
    obtain ⟨part, hpart, -, rfl⟩ := mem_tokens.mp ht
    rw [Address.ofText?, String.toList_ofList] at ha
    exact ⟨part, hpart, ha⟩

/-! ### Reading -/

theorem resolve_list_eq_ok {ts : List String} {targets : Targets}
    (h : (list ts).resolve = .ok targets) :
    targets = .addresses (.ofList (ts.filterMap Address.ofText?)) := by
  unfold resolve at h
  dsimp only at h
  split at h
  · cases h
    rfl
  · cases h

/-- A list that resolves is the set of the addresses its text names. -/
theorem resolve_list_names {text : String} {targets : Targets}
    (h : (ofInput .list text).resolve = .ok targets) :
    ∃ set, targets = .addresses set ∧ ∀ a, a ∈ set ↔ Names text a := by
  refine ⟨_, resolve_list_eq_ok h, fun a => ?_⟩
  rw [AddressSet.mem_ofList, List.mem_filterMap, names_iff]

theorem resolve_cidr_eq_ok {text : String} {targets : Targets}
    (h : (ofInput .cidr text).resolve = .ok targets) :
    ∃ b, targets = .block b ∧ Cidr.parse (Text.trim text) = .ok b := by
  have hmap : (Cidr.parse (Text.trim text)).map Targets.block = .ok targets := h
  cases hb : Cidr.parse (Text.trim text) with
  | error e => rw [hb] at hmap; cases hmap
  | ok b =>
    rw [hb] at hmap
    cases hmap
    exact ⟨b, rfl, rfl⟩

/-- What resolves is empty exactly where it is a list that names no address. -/
theorem resolve_empty_iff {mode : TargetMode} {text : String} {targets : Targets}
    (h : (ofInput mode text).resolve = .ok targets) :
    targets = .addresses .empty ↔ mode = .list ∧ ∀ a, ¬ Names text a := by
  cases mode with
  | cidr =>
    obtain ⟨b, rfl, -⟩ := resolve_cidr_eq_ok h
    simp
  | list =>
    obtain ⟨set, rfl, hnames⟩ := resolve_list_names h
    constructor
    · rintro ⟨⟩
      exact ⟨rfl, fun a ha => List.not_mem_nil ((hnames a).mpr ha)⟩
    · rintro ⟨-, hn⟩
      have hempty : set = .empty := AddressSet.ext_mem fun a =>
        iff_of_false (fun ha => hn a ((hnames a).mp ha)) List.not_mem_nil
      rw [hempty]

/-! ### Writing -/

theorem isToken_text (a : Address) : IsToken a.text where
  ne_empty := by
    intro h
    have := Address.ofText?_text a
    rw [h] at this
    cases this
  comma_not_mem := by
    intro h
    rcases Address.mem_text h with hd | hd
    · exact absurd hd (by decide)
    · exact absurd hd (by decide)
  trim_eq := a.trim_text

theorem resolve_list_texts (as : List Address) :
    (list (as.map Address.text)).resolve = .ok (.addresses (.ofList as)) := by
  have hinvalid : (as.map Address.text).filter (fun t => (Address.ofText? t).isNone) = [] := by
    simp [Address.ofText?_text]
  have hvalid : (as.map Address.text).filterMap Address.ofText? = as := by
    have hsome : Address.ofText? ∘ Address.text = some := by
      funext a
      rw [Function.comp_apply, Address.ofText?_text]
    rw [List.filterMap_map, hsome, List.filterMap_some]
  simp [resolve, hinvalid, hvalid]

/-- The text of targets denotes these targets: the same addresses, or the same block with its host
bits. -/
theorem resolve_text (t : Targets) : (ofInput t.mode t.text).resolve = .ok t := by
  cases t with
  | addresses set =>
    have htokens : tokens set.text = set.elems.map Address.text :=
      tokens_join fun t ht => by
        obtain ⟨a, -, rfl⟩ := List.mem_map.mp ht
        exact isToken_text a
    change (list (tokens set.text)).resolve = _
    rw [htokens, resolve_list_texts, AddressSet.ofList_elems]
  | block b =>
    change (Cidr.parse (Text.trim b.text)).map Targets.block = _
    rw [Text.trim_of_not_blank fun _ => Cidr.isBlank_of_mem_text, b.parse_text]
    rfl

end TargetSpec
end DeviceConsole
