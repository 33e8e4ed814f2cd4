import Mathlib.Data.List.Nodup

/-! Merge sort by a key: the result is ascending in the key, and the items of one key come in the
order they had. -/
namespace DeviceConsole

variable {α κ : Type} [LE κ] [DecidableEq κ]

/-- Ascending in the key, items of one key in the order they had. -/
structure StablySorted (key : α → κ) (given sorted : List α) : Prop where
  perm : sorted.Perm given
  ascending : sorted.Pairwise fun a b => key a ≤ key b
  stable : ∀ k, sorted.filter (fun a => key a = k) = given.filter fun a => key a = k

theorem StablySorted.mergeSort (key : α → κ) {le : α → α → Bool}
    (hle : ∀ a b, le a b = true ↔ key a ≤ key b) (htrans : ∀ a b c : κ, a ≤ b → b ≤ c → a ≤ c)
    (htotal : ∀ a b : κ, a ≤ b ∨ b ≤ a) (given : List α) :
    StablySorted key given (given.mergeSort le) := by
  have htrans' : ∀ a b c, le a b = true → le b c = true → le a c = true := fun a b c hab hbc =>
    (hle a c).mpr (htrans _ _ _ ((hle a b).mp hab) ((hle b c).mp hbc))
  have htotal' : ∀ a b, (le a b || le b a) = true := fun a b => by
    rw [Bool.or_eq_true, hle, hle]
    exact htotal _ _
  have hperm := List.mergeSort_perm given le
  refine ⟨hperm, ?_, fun k => ?_⟩
  · exact (List.pairwise_mergeSort htrans' htotal' given).imp (hle _ _).mp
  -- The items of one key are in order already, so sorting keeps them as a sublist.
  · have hequal : (given.filter fun a => key a = k).Pairwise fun a b => le a b = true := by
      refine List.pairwise_of_forall_mem_list fun a ha b hb => ?_
      have hkey : key a = key b := (of_decide_eq_true (List.mem_filter.mp ha).2).trans
        (of_decide_eq_true (List.mem_filter.mp hb).2).symm
      rw [hle, hkey]
      exact or_self_iff.mp (htotal _ _)
    have hsub := (List.sublist_mergeSort htrans' htotal' hequal List.filter_sublist).filter
      fun a => decide (key a = k)
    rw [List.filter_filter] at hsub
    simp only [Bool.and_self] at hsub
    exact (hsub.eq_of_length (hperm.filter _).length_eq.symm).symm

/-- Where no key is repeated the order of what is given does not matter. -/
theorem StablySorted.eq_of_perm {key : α → κ} {given given' sorted sorted' : List α}
    (hantisymm : ∀ a b : κ, a ≤ b → b ≤ a → a = b) (h : StablySorted key given sorted)
    (h' : StablySorted key given' sorted') (hperm : given.Perm given')
    (hdistinct : (given.map key).Nodup) : sorted = sorted' := by
  have hsorted : sorted.Perm sorted' := h.perm.trans (hperm.trans h'.perm.symm)
  have hkeys : (sorted.map key).Nodup := ((h.perm.map key).nodup_iff).mpr hdistinct
  refine hsorted.eq_of_pairwise (fun a b ha hb hab hba => ?_) h.ascending h'.ascending
  have hb' : b ∈ sorted := hsorted.mem_iff.mpr hb
  exact List.inj_on_of_nodup_map hkeys ha hb' (hantisymm _ _ hab hba)

end DeviceConsole
