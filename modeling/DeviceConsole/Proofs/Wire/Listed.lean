import DeviceConsole.Proofs.Target.Text
import DeviceConsole.Proofs.Wire.Spelling

/-! Addresses that are typed and addresses that are listed. A list typed with commas and a row that
lists the same texts come to the same addresses or to the same error, and entries that are packed
add nothing but their own address. -/
namespace DeviceConsole

/-- The second entries are the first with these packed addresses put in, each anywhere. -/
inductive WireAddress.Packs : List UInt32 → List WireAddress → List WireAddress → Prop
  | nil : Packs [] [] []
  | keep (w : WireAddress) {ns : List UInt32} {ws vs : List WireAddress} (h : Packs ns ws vs) :
      Packs ns (w :: ws) (w :: vs)
  | add (n : UInt32) {ns : List UInt32} {ws vs : List WireAddress} (h : Packs ns ws vs) :
      Packs (n :: ns) ws (.packed n :: vs)

namespace DiscoveryRow

open WireAddress (Packs)
open TargetSpec (IsToken)

/-- The profile of a row whose entries stand for these addresses. -/
def withTargets (r : DiscoveryRow) (set : AddressSet) : DiscoveryProfile :=
  { id := r.id, targets := .addresses set, credentialIds := r.credentialIds, isCidr := r.isCidr }

/-- The texts of the entries that cannot be read, in their order. -/
def unreadable (ws : List WireAddress) : List String := ws.filterMap invalidToken?

/-- The addresses of the others, in their order. -/
def readable (ws : List WireAddress) : List Address := ws.filterMap fun w => w.resolve.toOption

theorem toProfile_eq (r : DiscoveryRow) : r.toProfile =
    if (unreadable r.ips).isEmpty then .ok (r.withTargets (.ofList (readable r.ips)))
    else .error (.invalidAddresses (unreadable r.ips)) := rfl

/-! ### Packed entries -/

variable {ns : List UInt32} {ws vs : List WireAddress}

theorem unreadable_packs (h : Packs ns ws vs) : unreadable vs = unreadable ws := by
  induction h with
  | nil => rfl
  | keep w _ ih =>
    simp only [unreadable, List.filterMap_cons] at ih ⊢
    rw [ih]
  | add n _ ih => exact ih

theorem mem_readable_packs (h : Packs ns ws vs) {a : Address} :
    a ∈ readable vs ↔ a ∈ readable ws ∨ a.packed ∈ ns := by
  induction h with
  | nil => simp [readable]
  | keep w _ ih =>
    simp only [readable, List.filterMap_cons] at ih ⊢
    cases w.resolve.toOption with
    | none => exact ih
    | some b => simp only [List.mem_cons, ih, or_assoc]
  | @add n ns ws vs _ ih =>
    have hcons : readable (.packed n :: vs) = ⟨n⟩ :: readable vs := rfl
    have hn : a = ⟨n⟩ ↔ a.packed = n := by
      cases a
      simp
    rw [hcons, List.mem_cons, ih, List.mem_cons, hn, or_left_comm]

/-- With packed entries put in anywhere a row fails where it failed before, and for the same texts;
else their addresses are added to its targets. -/
theorem toProfile_packs {r : DiscoveryRow} (h : Packs ns r.ips vs) :
    (∀ e, { r with ips := vs }.toProfile = .error e ↔ r.toProfile = .error e) ∧
      ∀ set, r.toProfile = .ok (r.withTargets set) → ∃ larger,
        { r with ips := vs }.toProfile = .ok (r.withTargets larger) ∧
          ∀ a, a ∈ larger ↔ a ∈ set ∨ a.packed ∈ ns := by
  have hbad : unreadable vs = unreadable r.ips := unreadable_packs h
  rw [toProfile_eq, toProfile_eq, hbad]
  split
  · refine ⟨by simp, fun set hset => ⟨_, rfl, fun a => ?_⟩⟩
    obtain rfl : .ofList (readable r.ips) = set := by simpa [withTargets] using hset
    rw [AddressSet.mem_ofList, AddressSet.mem_ofList, mem_readable_packs h]
  · exact ⟨fun e => .rfl, fun set hset => by cases hset⟩

/-! ### Texts -/

variable {ts : List String}

theorem resolve_token {t : String} (h : IsToken t) :
    (WireAddress.text t).resolve = Address.parse t := by
  rw [WireAddress.resolve, h.trim_eq]

theorem unreadable_texts (h : ∀ t ∈ ts, IsToken t) :
    unreadable (ts.map .text) = ts.filter fun t => (Address.ofText? t).isNone := by
  rw [unreadable, List.filterMap_map, ← List.filterMap_eq_filter]
  refine List.filterMap_congr fun t ht => ?_
  have hresolve := resolve_token (h t ht)
  rw [Address.parse] at hresolve
  cases ha : Address.ofText? t <;> rw [ha] at hresolve <;>
    simp [invalidToken?, hresolve, Option.guard, ha]

theorem readable_texts (h : ∀ t ∈ ts, IsToken t) :
    readable (ts.map .text) = ts.filterMap Address.ofText? := by
  rw [readable, List.filterMap_map]
  refine List.filterMap_congr fun t ht => ?_
  rw [Function.comp_apply, resolve_token (h t ht), Address.parse]
  cases Address.ofText? t <;> rfl

/-- A list typed with these tokens and a row that lists them resolve by the same two lists: the
tokens that are no address, and the addresses of the others. -/
theorem resolve_typed (h : ∀ t ∈ ts, IsToken t) :
    (TargetSpec.ofInput .list (",".intercalate ts)).resolve =
      if (unreadable (ts.map .text)).isEmpty then
        .ok (.addresses (.ofList (readable (ts.map .text))))
      else .error (.invalidAddresses (unreadable (ts.map .text))) := by
  rw [unreadable_texts h, readable_texts h, TargetSpec.ofInput, TargetSpec.tokens_join_comma h]
  rfl

/-- A row that lists tokens as texts and the list that is typed with them either both come to the
same addresses, or both fail for the same tokens in the same order. In any row, packed entries put
in anywhere change no error and no success into one: they only add their own addresses. -/
theorem toProfile_typed (r : DiscoveryRow) :
    (∀ ts, (∀ t ∈ ts, IsToken t) → r.ips = ts.map .text →
      let typed := (TargetSpec.ofInput .list (",".intercalate ts)).resolve
      (∃ set, typed = .ok (.addresses set) ∧ r.toProfile = .ok (r.withTargets set)) ∨
        ∃ bad, bad ≠ [] ∧ typed = .error (.invalidAddresses bad) ∧
          r.toProfile = .error (.invalidAddresses bad)) ∧
    ∀ ns ips, Packs ns r.ips ips →
      let packed := { r with ips := ips }.toProfile
      (∀ e, packed = .error e ↔ r.toProfile = .error e) ∧
        ∀ set, r.toProfile = .ok (r.withTargets set) → ∃ larger,
          packed = .ok (r.withTargets larger) ∧ ∀ a, a ∈ larger ↔ a ∈ set ∨ a.packed ∈ ns := by
  refine ⟨fun ts h hr => ?_, fun ns ips => toProfile_packs⟩
  dsimp only
  rw [resolve_typed h, toProfile_eq, hr]
  split
  · exact .inl ⟨_, rfl, rfl⟩
  · rename_i hbad
    exact .inr ⟨_, by simpa using hbad, rfl, rfl⟩

/-- Tokens of which two are no address, one of them twice, and the same between packed entries; and
an address typed twice, with another one packed. -/
theorem toProfile_typed_packed :
    let bad : DiscoveryRow :=
      { id := 4, ips := [.text "10.0.0.300", .text "010.0.0.1", .text "x y", .text "10.0.0.300"]
        credentialIds := [7], isCidr := false }
    let more : DiscoveryRow := { bad with ips := .packed 9 :: bad.ips ++ [.packed 8] }
    let good : DiscoveryRow := { bad with ips := [.text "10.0.0.2", .text "10.0.0.002"] }
    let both : DiscoveryRow :=
      { bad with ips := [.text "10.0.0.2", .packed 0x0A000001, .text "10.0.0.002"] }
    let e : ConsoleError := .invalidAddresses ["10.0.0.300", "x y", "10.0.0.300"]
    let two : AddressSet := .ofList [⟨0x0A000002⟩]
    (TargetSpec.ofInput .list "10.0.0.300,010.0.0.1,x y,10.0.0.300").resolve = .error e ∧
      bad.toProfile = .error e ∧ more.toProfile = .error e ∧
      (TargetSpec.ofInput .list "10.0.0.2,10.0.0.002").resolve = .ok (.addresses two) ∧
      good.toProfile = .ok (good.withTargets two) ∧
      ∃ larger, both.toProfile = .ok (good.withTargets larger) ∧
        ∀ a, a ∈ larger ↔ a ∈ two ∨ a.packed = 0x0A000001 := by
  intro bad more good both e two
  have htokens : ∀ t ∈ ["10.0.0.300", "010.0.0.1", "x y", "10.0.0.300"], IsToken t := by
    decide +kernel
  have haddresses : ∀ t ∈ ["10.0.0.2", "10.0.0.002"], IsToken t := by decide +kernel
  have htyped : (TargetSpec.ofInput .list "10.0.0.300,010.0.0.1,x y,10.0.0.300").resolve =
      .error e := by
    decide +kernel
  have hok : (TargetSpec.ofInput .list "10.0.0.2,10.0.0.002").resolve = .ok (.addresses two) := by
    decide +kernel
  obtain ⟨hbad, hmore⟩ := toProfile_typed bad
  obtain ⟨hgood, hboth⟩ := toProfile_typed good
  have hfails : bad.toProfile = .error e := by
    rcases hbad _ htokens rfl with ⟨set, hset, -⟩ | ⟨ts, -, hts, hprofile⟩
    · cases htyped.symm.trans hset
    · rwa [Except.error.inj (hts.symm.trans htyped)] at hprofile
  have hsucceeds : good.toProfile = .ok (good.withTargets two) := by
    rcases hgood _ haddresses rfl with ⟨set, hset, hprofile⟩ | ⟨ts, -, hts, -⟩
    · rwa [Targets.addresses.inj (Except.ok.inj (hset.symm.trans hok))] at hprofile
    · cases hok.symm.trans hts
  have hpacks : Packs [9, 8] bad.ips more.ips :=
    .add _ (.keep _ (.keep _ (.keep _ (.keep _ (.add _ .nil)))))
  obtain ⟨larger, hlarger, hmem⟩ :=
    (hboth [0x0A000001] both.ips (.keep _ (.add _ (.keep _ .nil)))).2 two hsucceeds
  refine ⟨htyped, hfails, ((hmore _ _ hpacks).1 e).mpr hfails, hok, hsucceeds, larger, hlarger,
    fun a => (hmem a).trans (or_congr_right List.mem_singleton)⟩

end DiscoveryRow
end DeviceConsole
