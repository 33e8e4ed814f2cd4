import DeviceConsole.Command.Backend
import DeviceConsole.Proofs.Address.Quad
import DeviceConsole.Proofs.Target.Text

/-! Device arguments. What they name and what is malformed in them is told part by part, so it does
not matter how the parts are grouped into arguments. -/
namespace DeviceConsole

/-! ### Parts -/

/-- Neither white space nor a text of an address. -/
def IsMalformed (part : List Char) : Prop :=
  (∃ c ∈ part, Text.isBlank c = false) ∧ ∀ a : Address, ¬ a.SpelledBy part

theorem isMalformed_iff {part : List Char} :
    IsMalformed part ↔
      Text.trimChars part ≠ [] ∧ Address.ofChars? (Text.trimChars part) = none := by
  simp only [IsMalformed, Address.spelledBy_iff, Option.eq_none_iff_forall_ne_some, ne_eq,
    Text.trimChars_eq_nil_iff, not_forall, Bool.not_eq_true, exists_prop]

instance (part : List Char) : Decidable (IsMalformed part) :=
  decidable_of_iff _ isMalformed_iff.symm

namespace Arguments

/-- What stands between commas, over all arguments. -/
def parts (args : List String) : List (List Char) := args.flatMap fun arg => arg.toList.splitOn ','

def Named (args : List String) (a : Address) : Prop := ∃ part ∈ parts args, a.SpelledBy part

/-- The malformed parts in their order, without white space around. -/
def malformed (args : List String) : List String :=
  ((parts args).filter (IsMalformed ·)).map fun part => String.ofList (Text.trimChars part)

theorem named_iff {args : List String} {a : Address} :
    Named args a ↔ ∃ arg ∈ args, TargetSpec.Names arg a := by
  simp only [Named, parts, TargetSpec.Names, Address.spelledBy_iff, List.mem_flatMap]
  constructor
  · rintro ⟨part, ⟨arg, harg, hpart⟩, ha⟩
    exact ⟨arg, harg, part, hpart, ha⟩
  · rintro ⟨arg, harg, part, hpart, ha⟩
    exact ⟨part, ⟨arg, harg, hpart⟩, ha⟩

theorem names_join {args : List String} {a : Address} :
    TargetSpec.Names (",".intercalate args) a ↔ Named args a := by
  rw [named_iff, TargetSpec.names_iff, TargetSpec.tokens_intercalate]
  simp only [TargetSpec.names_iff, List.mem_flatMap]
  constructor
  · rintro ⟨t, ⟨arg, harg, ht⟩, ha⟩
    exact ⟨arg, harg, t, ht, ha⟩
  · rintro ⟨arg, harg, t, ht, ha⟩
    exact ⟨t, ⟨arg, harg, ht⟩, ha⟩

theorem filter_tokens (text : String) :
    (TargetSpec.tokens text).filter (fun t => (Address.ofText? t).isNone) =
      ((text.toList.splitOn ',').filter (IsMalformed ·)).map fun part =>
        String.ofList (Text.trimChars part) := by
  unfold TargetSpec.tokens
  induction text.toList.splitOn ',' with
  | nil => rfl
  | cons part rest ih =>
    rw [List.map_cons, List.filterMap_cons, List.filter_cons]
    by_cases hblank : Text.trimChars part = []
    · have hpart : ¬ IsMalformed part := fun h => (isMalformed_iff.mp h).1 hblank
      simpa only [hblank, hpart, List.isEmpty_nil, ↓reduceIte, decide_false,
        Bool.false_eq_true] using ih
    · have hempty : (Text.trimChars part).isEmpty = false := List.isEmpty_eq_false_iff.mpr hblank
      have hpart : (Address.ofText? (String.ofList (Text.trimChars part))).isNone =
          decide (IsMalformed part) := by
        rw [Bool.eq_iff_iff, decide_eq_true_iff, isMalformed_iff, Address.ofText?,
          String.toList_ofList, Option.isNone_iff_eq_none]
        exact (and_iff_right hblank).symm
      simp only [hempty, Bool.false_eq_true, ↓reduceIte, List.filter_cons, hpart, ih]
      split <;> rfl

theorem filter_tokens_join (args : List String) :
    (TargetSpec.tokens (",".intercalate args)).filter (fun t => (Address.ofText? t).isNone) =
      malformed args := by
  rw [TargetSpec.tokens_intercalate, List.filter_flatMap, malformed, parts, List.filter_flatMap,
    List.map_flatMap]
  simp only [filter_tokens]

end Arguments

namespace BackendCommand

open Arguments

variable {args : List String}

/-- Every malformed part is reported, in order. -/
theorem addressesOf_malformed (h : malformed args ≠ []) :
    addressesOf args = .error (.invalidValue "targets"
      ("Invalid IP address format: " ++ ", ".intercalate (malformed args))) := by
  have hresolve : (TargetSpec.ofInput .list (",".intercalate args)).resolve =
      .error (.invalidAddresses (malformed args)) := by
    simp only [TargetSpec.ofInput, TargetSpec.resolve, filter_tokens_join,
      List.isEmpty_eq_false_iff.mpr h, Bool.false_eq_true, ↓reduceIte]
  rw [addressesOf, hresolve]
  rfl

theorem resolve_join (h : malformed args = []) :
    ∃ set, (TargetSpec.ofInput .list (",".intercalate args)).resolve = .ok (.addresses set) ∧
      ∀ a, a ∈ set ↔ Named args a := by
  have hok : (TargetSpec.ofInput .list (",".intercalate args)).resolve = .ok (.addresses (.ofList
      ((TargetSpec.tokens (",".intercalate args)).filterMap Address.ofText?))) := by
    simp only [TargetSpec.ofInput, TargetSpec.resolve, filter_tokens_join, h, List.isEmpty_nil,
      ↓reduceIte]
  obtain ⟨set, hset, hnames⟩ := TargetSpec.resolve_list_names hok
  cases hset
  exact ⟨_, hok, fun a => (hnames a).trans names_join⟩

theorem addressesOf_none (h : malformed args = []) (hnone : ∀ a, ¬ Named args a) :
    addressesOf args =
      .error (.invalidValue "devices" "at least one device address is required") := by
  obtain ⟨set, hresolve, hset⟩ := resolve_join h
  obtain rfl : set = .empty := AddressSet.ext_mem fun a =>
    iff_of_false (fun ha => hnone a ((hset a).mp ha)) List.not_mem_nil
  rw [addressesOf, hresolve]
  rfl

/-- Well-formed arguments stand for the set of the addresses they name. -/
theorem addressesOf_named (h : malformed args = []) (hsome : ∃ a, Named args a) :
    ∃ set : AddressSet, addressesOf args = .ok set.elems ∧ ∀ a, a ∈ set ↔ Named args a := by
  obtain ⟨set, hresolve, hset⟩ := resolve_join h
  obtain ⟨a, ha⟩ := hsome
  have hempty : set.isEmpty = false :=
    List.isEmpty_eq_false_iff.mpr (List.ne_nil_of_mem ((hset a).mpr ha))
  refine ⟨set, ?_, hset⟩
  rw [addressesOf, hresolve]
  simp [hempty]

/-- Arguments with the same malformed parts stand for the same, where these are none if they name
the same addresses. -/
theorem addressesOf_congr {others : List String} (hm : malformed others = malformed args)
    (hn : malformed args = [] → ∀ a, Named others a ↔ Named args a) :
    addressesOf others = addressesOf args := by
  by_cases h : malformed args = []
  · have hothers := hm.trans h
    by_cases hsome : ∃ a, Named args a
    · have hsome' : ∃ a, Named others a := hsome.imp fun a => (hn h a).mpr
      obtain ⟨set, hset, hmem⟩ := addressesOf_named h hsome
      obtain ⟨set', hset', hmem'⟩ := addressesOf_named hothers hsome'
      obtain rfl : set' = set :=
        AddressSet.ext_mem fun a => (hmem' a).trans ((hn h a).trans (hmem a).symm)
      rw [hset, hset']
    · have hnone : ∀ a, ¬ Named args a := not_exists.mp hsome
      rw [addressesOf_none h hnone, addressesOf_none hothers fun a => mt (hn h a).mp (hnone a)]
  · rw [addressesOf_malformed h, addressesOf_malformed (hm ▸ h), hm]

end BackendCommand
end DeviceConsole
