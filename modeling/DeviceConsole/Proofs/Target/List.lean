import DeviceConsole.Proofs.Target.Arguments
import Mathlib.Data.Set.Card
import Mathlib.Logic.Relation

/-! Lists of addresses. A list resolves where each of its parts is blank or an address, to the set
of the addresses its parts denote, and otherwise reports each part that is neither. What it resolves
to survives every change of the text that leaves the addresses alone. -/
namespace DeviceConsole.TargetSpec

/-! ### Parts -/

/-- What stands between commas. -/
def parts (text : String) : List (List Char) := text.toList.splitOn ','

/-- A part as it is read. -/
def trimmed (part : List Char) : String := String.ofList (Text.trimChars part)

def Denotes (part : List Char) (a : Address) : Prop := Address.parse (trimmed part) = .ok a

/-- Blank, or an address. -/
def IsReadable (part : List Char) : Prop := trimmed part ≠ "" → ∃ a, Denotes part a

/-- The parts that are neither blank nor an address, as they are read and in their order. -/
def rejected (text : String) : List String :=
  ((parts text).map trimmed).filter fun t => t ≠ "" && !(Address.parse t).isOk

theorem trimmed_eq_empty_iff {part : List Char} : trimmed part = "" ↔ Text.trimChars part = [] := by
  rw [trimmed, String.ofList_eq_empty_iff]

theorem denotes_iff {part : List Char} {a : Address} :
    Denotes part a ↔ Address.ofChars? (Text.trimChars part) = some a := by
  rw [Denotes, Address.parse_eq_ok_iff, trimmed, String.toList_ofList, Address.ofChars?_eq_some_iff]

theorem names_iff_denotes {text : String} {a : Address} :
    Names text a ↔ ∃ part ∈ parts text, Denotes part a := by
  simp only [Names, denotes_iff, parts]

theorem isMalformed_iff_not_isReadable {part : List Char} :
    IsMalformed part ↔ ¬ IsReadable part := by
  rw [isMalformed_iff, IsReadable, Classical.not_imp, ne_eq, ne_eq, trimmed_eq_empty_iff,
    Option.eq_none_iff_forall_ne_some, not_exists]
  simp only [denotes_iff, ne_eq]

theorem isOk_parse_iff {t : String} : (Address.parse t).isOk ↔ ∃ a, Address.parse t = .ok a := by
  cases Address.parse t <;> simp [Except.isOk, Except.toBool]

theorem rejected_eq (text : String) :
    rejected text = (tokens text).filter fun t => (Address.ofText? t).isNone := by
  rw [Arguments.filter_tokens, rejected, List.filter_map]
  refine congrArg (List.map _) (List.filter_congr fun part _ => ?_)
  rw [Bool.eq_iff_iff, decide_eq_true_iff, isMalformed_iff_not_isReadable, IsReadable,
    Classical.not_imp]
  simp only [Function.comp_apply, Bool.and_eq_true, decide_eq_true_eq, Bool.not_eq_true',
    Denotes, ← isOk_parse_iff, Bool.not_eq_true]

theorem rejected_eq_nil_iff {text : String} :
    rejected text = [] ↔ ∀ part ∈ parts text, IsReadable part := by
  simp only [rejected_eq, Arguments.filter_tokens, List.map_eq_nil_iff, List.filter_eq_nil_iff,
    decide_eq_true_eq, isMalformed_iff_not_isReadable, not_not, parts]

/-! ### Resolving -/

theorem resolve_of_rejected {text : String} (h : rejected text ≠ []) :
    (ofInput .list text).resolve = .error (.invalidAddresses (rejected text)) := by
  simp only [ofInput, resolve, ← rejected_eq, List.isEmpty_eq_false_iff.mpr h, Bool.false_eq_true,
    ↓reduceIte]

/-- A list resolves where every part can be read, to the set of what the parts denote. -/
theorem resolve_eq_ok_iff {text : String} {targets : Targets} :
    (ofInput .list text).resolve = .ok targets ↔
      (∀ part ∈ parts text, IsReadable part) ∧
        ∃ set, targets = .addresses set ∧ ∀ a, a ∈ set ↔ ∃ part ∈ parts text, Denotes part a := by
  constructor
  · intro h
    constructor
    · by_contra hnot
      rw [resolve_of_rejected (mt rejected_eq_nil_iff.mp hnot)] at h
      cases h
    · obtain ⟨set, hset, hnames⟩ := resolve_list_names h
      exact ⟨set, hset, fun a => (hnames a).trans names_iff_denotes⟩
  · rintro ⟨hreadable, set, rfl, hmem⟩
    have hok : (ofInput .list text).resolve =
        .ok (.addresses (.ofList ((tokens text).filterMap Address.ofText?))) := by
      simp only [ofInput, resolve, ← rejected_eq, rejected_eq_nil_iff.mpr hreadable,
        List.isEmpty_nil, ↓reduceIte]
    obtain ⟨_, ⟨⟩, hnames⟩ := resolve_list_names hok
    rw [hok, AddressSet.ext_mem fun a =>
      ((hnames a).trans names_iff_denotes).trans (hmem a).symm]

theorem resolve_eq_error_iff {text : String} {e : ConsoleError} :
    (ofInput .list text).resolve = .error e ↔
      (¬ ∀ part ∈ parts text, IsReadable part) ∧ e = .invalidAddresses (rejected text) := by
  rw [← rejected_eq_nil_iff]
  constructor
  · intro h
    by_cases hnil : rejected text = []
    · simp [ofInput, resolve, ← rejected_eq, hnil] at h
    · rw [resolve_of_rejected hnil] at h
      exact ⟨hnil, (Except.error.inj h).symm⟩
  · rintro ⟨hne, rfl⟩
    exact resolve_of_rejected hne

/-! ### Changes of the text -/

/-- A change of the parts that leaves the addresses alone. A change of one part is one of the first;
as parts may change their places, it is one of any. -/
inductive Edit : List (List Char) → List (List Char) → Prop
  | permuted {ps qs : List (List Char)} (h : ps.Perm qs) : Edit ps qs
  | repeated {p : List Char} {ps : List (List Char)} (h : p ∈ ps) : Edit ps (p :: ps)
  | blank {p : List Char} {ps : List (List Char)} (h : ∀ c ∈ p, Text.isBlank c = true) :
      Edit ps (p :: ps)
  | padded {before p after : List Char} {ps : List (List Char)}
      (hbefore : ∀ c ∈ before, Text.isBlank c = true)
      (hafter : ∀ c ∈ after, Text.isBlank c = true) :
      Edit (p :: ps) ((before ++ p ++ after) :: ps)
  /-- Any number of zeros in front of each of the four groups. -/
  | zeros {before p after w x y z : List Char} {ps : List (List Char)}
      (hbefore : ∀ c ∈ before, Text.isBlank c = true) (hp : Address.IsQuad p w x y z)
      (hafter : ∀ c ∈ after, Text.isBlank c = true) (i j k l : Nat) :
      Edit ((before ++ p ++ after) :: ps)
        ((before ++ ['.'].intercalate [List.replicate i '0' ++ w, List.replicate j '0' ++ x,
          List.replicate k '0' ++ y, List.replicate l '0' ++ z] ++ after) :: ps)

/-- Two lists of parts come to the same. -/
structure Alike (ps qs : List (List Char)) : Prop where
  readable : (∀ p ∈ ps, IsReadable p) ↔ ∀ q ∈ qs, IsReadable q
  denoted : ∀ a, (∃ p ∈ ps, Denotes p a) ↔ ∃ q ∈ qs, Denotes q a

theorem denotes_congr {p q : List Char} (h : Text.trimChars p = Text.trimChars q) {a : Address} :
    Denotes p a ↔ Denotes q a := by
  rw [denotes_iff, denotes_iff, h]

theorem isReadable_congr {p q : List Char} (h : Text.trimChars p = Text.trimChars q) :
    IsReadable p ↔ IsReadable q := by
  simp only [IsReadable, ne_eq, trimmed_eq_empty_iff, h, denotes_congr h]

theorem isReadable_of_denotes {p : List Char} {a : Address} (h : Denotes p a) : IsReadable p :=
  fun _ => ⟨a, h⟩

theorem not_denotes_of_blank {p : List Char} (h : ∀ c ∈ p, Text.isBlank c = true) (a : Address) :
    ¬ Denotes p a := by
  rw [denotes_iff, Text.trimChars_eq_nil_iff.mpr h]
  rintro ⟨⟩

theorem isReadable_of_blank {p : List Char} (h : ∀ c ∈ p, Text.isBlank c = true) : IsReadable p :=
  fun hne => absurd (trimmed_eq_empty_iff.mpr (Text.trimChars_eq_nil_iff.mpr h)) hne

/-- White space around four groups does not change the address they make. -/
theorem denotes_of_isQuad {before p after w x y z : List Char} {a : Address}
    (hbefore : ∀ c ∈ before, Text.isBlank c = true) (hp : Address.IsQuad p w x y z)
    (hafter : ∀ c ∈ after, Text.isBlank c = true) (ha : a.toNat = Address.quadValue w x y z) :
    Denotes (before ++ p ++ after) a := by
  rw [denotes_iff, Text.trimChars_padded hbefore (hp.dotted ha).not_blank hafter]
  exact (hp.dotted ha).ofChars?

namespace Alike

variable {ps qs rs : List (List Char)} {p q : List Char}

theorem refl (ps : List (List Char)) : Alike ps ps := ⟨.rfl, fun _ => .rfl⟩

theorem trans (h : Alike ps qs) (h' : Alike qs rs) : Alike ps rs :=
  ⟨h.readable.trans h'.readable, fun a => (h.denoted a).trans (h'.denoted a)⟩

/-- The same parts, whatever their order and number. -/
theorem of_mem_iff (h : ∀ p, p ∈ ps ↔ p ∈ qs) : Alike ps qs := by
  constructor <;> simp only [h, implies_true]

/-- In place of a part, one that is read alike. -/
theorem cons (hreadable : IsReadable p ↔ IsReadable q) (hdenoted : ∀ a, Denotes p a ↔ Denotes q a)
    (ps : List (List Char)) : Alike (p :: ps) (q :: ps) := by
  constructor
  · rw [List.forall_mem_cons, List.forall_mem_cons, hreadable]
  · intro a
    simp only [List.mem_cons, exists_eq_or_imp, hdenoted]

end Alike

theorem Edit.alike {ps qs : List (List Char)} (h : Edit ps qs) : Alike ps qs := by
  cases h with
  | permuted h => exact .of_mem_iff fun p => h.mem_iff
  | repeated h =>
    refine .of_mem_iff fun q => ?_
    rw [List.mem_cons, iff_or_self]
    rintro rfl
    exact h
  | blank h =>
    constructor
    · rw [List.forall_mem_cons, iff_and_self]
      exact fun _ => isReadable_of_blank h
    · intro a
      simp only [List.mem_cons, exists_eq_or_imp, not_denotes_of_blank h, false_or]
  | @padded before p after _ hbefore hafter =>
    have htrim : Text.trimChars p = Text.trimChars (before ++ p ++ after) :=
      (Text.trimChars_append_blank hbefore hafter).symm
    exact .cons (isReadable_congr htrim) (fun a => denotes_congr htrim) _
  | zeros hbefore hp hafter i j k l =>
    obtain ⟨b, hb⟩ := hp.exists_address
    have hold := denotes_of_isQuad hbefore hp hafter hb
    have hnew := denotes_of_isQuad hbefore (hp.zeros i j k l) hafter
      (hb.trans (Address.quadValue_zeros i j k l).symm)
    refine .cons (iff_of_true (isReadable_of_denotes hold) (isReadable_of_denotes hnew))
      (fun a => ?_) _
    rw [Denotes] at hold hnew
    rw [Denotes, Denotes, hold, hnew]

theorem alike_of_edits {ps qs : List (List Char)} (h : Relation.ReflTransGen Edit ps qs) :
    Alike ps qs := by
  induction h with
  | refl => exact .refl _
  | tail _ hstep ih => exact ih.trans hstep.alike

/-- A set is as large as its members are many. -/
theorem size_eq_ncard {set : AddressSet} {P : Address → Prop} (h : ∀ a, a ∈ set ↔ P a) :
    set.size = {a | P a}.ncard := by
  have hset : {a | P a} = (set.elems.toFinset : Set Address) := by
    ext a
    rw [Set.mem_ofPred_eq, ← h, Finset.mem_coe, List.mem_toFinset]
    rfl
  rw [hset, Set.ncard_coe_finset, List.toFinset_card_of_nodup set.nodup, AddressSet.size]

/-- A list resolves exactly where each of its parts is blank or an address, and the result is the
ascending set of the addresses its parts denote; otherwise the error has the parts that are neither,
in their order and with their repetitions. Texts whose parts differ by changes that leave the
addresses alone have the same results. -/
theorem resolve_list_parts (text : String) :
    ((∃ targets, (ofInput .list text).resolve = .ok targets) ↔
      ∀ part ∈ parts text, trimmed part ≠ "" → ∃ a, Address.parse (trimmed part) = .ok a) ∧
    (∀ targets, (ofInput .list text).resolve = .ok targets → ∃ set, targets = .addresses set ∧
      (∀ a, a ∈ set ↔ ∃ part ∈ parts text, Address.parse (trimmed part) = .ok a) ∧
      (set.elems.map Address.toNat).Pairwise (· < ·) ∧
      set.size = {a | ∃ part ∈ parts text, Address.parse (trimmed part) = .ok a}.ncard) ∧
    (∀ e, (ofInput .list text).resolve = .error e ↔
      (¬ ∃ targets, (ofInput .list text).resolve = .ok targets) ∧
        e = .invalidAddresses (rejected text)) ∧
    ∀ other, Relation.ReflTransGen Edit (parts text) (parts other) → ∀ targets,
      (ofInput .list text).resolve = .ok targets ↔ (ofInput .list other).resolve = .ok targets := by
  have hsucceeds : (∃ targets, (ofInput .list text).resolve = .ok targets) ↔
      ∀ part ∈ parts text, IsReadable part := by
    constructor
    · rintro ⟨targets, h⟩
      exact (resolve_eq_ok_iff.mp h).1
    · intro h
      by_contra hnone
      cases hresolve : (ofInput .list text).resolve with
      | ok targets => exact hnone ⟨targets, hresolve⟩
      | error e => exact (resolve_eq_error_iff.mp hresolve).1 h
  refine ⟨hsucceeds, fun targets h => ?_, fun e => ?_, fun other hedits targets => ?_⟩
  · obtain ⟨-, set, hset, hmem⟩ := resolve_eq_ok_iff.mp h
    refine ⟨set, hset, hmem, ?_, size_eq_ncard hmem⟩
    exact List.pairwise_map.mpr (set.ascending.imp Address.lt_iff.mp)
  · rw [resolve_eq_error_iff, hsucceeds]
  · have halike := alike_of_edits hedits
    simp only [resolve_eq_ok_iff, halike.readable, halike.denoted]

/-- A part once more with a space in front, a blank one, another order, and zeros; and a list with
three bad parts, two of them alike. -/
theorem resolve_list_parts_zeros :
    (∃ set, (ofInput .list "10.0.0.2, 10.0.0.1").resolve = .ok (.addresses set) ∧
      (ofInput .list " 010.0.0.001,, 10.0.0.2,10.0.0.2").resolve = .ok (.addresses set) ∧
      set.text = "10.0.0.1, 10.0.0.2" ∧ set.size = 2) ∧
    (ofInput .list "10.0.0.1, x ,10.0.0.300,,x").resolve =
      .error (.invalidAddresses ["x", "10.0.0.300", "x"]) := by
  let one := ['1', '0', '.', '0', '.', '0', '.', '1']
  let two := ['1', '0', '.', '0', '.', '0', '.', '2']
  have hquad : Address.IsQuad one ['1', '0'] ['0'] ['0'] ['1'] :=
    { joined := by decide +kernel
      first := ⟨by decide, List.all_eq_true.mp rfl, by decide⟩
      second := ⟨by decide, List.all_eq_true.mp rfl, by decide⟩
      third := ⟨by decide, List.all_eq_true.mp rfl, by decide⟩
      fourth := ⟨by decide, List.all_eq_true.mp rfl, by decide⟩ }
  have hstart : parts "10.0.0.2, 10.0.0.1" = [two, ' ' :: one] := by decide +kernel
  have hend : parts " 010.0.0.001,, 10.0.0.2,10.0.0.2" =
      [[' ', '0', '1', '0', '.', '0', '.', '0', '.', '0', '0', '1'], [], ' ' :: two, two] := by
    decide +kernel
  have hrepeated : Edit [two, ' ' :: one] [two, two, ' ' :: one] := .repeated List.mem_cons_self
  have hpadded : Edit [two, two, ' ' :: one] [' ' :: two, two, ' ' :: one] :=
    @Edit.padded [' '] two [] _ (List.all_eq_true.mp rfl) (List.forall_mem_nil _)
  have hblank : Edit [' ' :: two, two, ' ' :: one] [[], ' ' :: two, two, ' ' :: one] :=
    .blank (List.forall_mem_nil _)
  have hpermuted : Edit [[], ' ' :: two, two, ' ' :: one] [' ' :: one, [], ' ' :: two, two] :=
    .permuted (@List.perm_append_comm _ [[], ' ' :: two, two] [' ' :: one])
  have hzeros : Edit [' ' :: one, [], ' ' :: two, two]
      [[' ', '0', '1', '0', '.', '0', '.', '0', '.', '0', '0', '1'], [], ' ' :: two, two] :=
    @Edit.zeros [' '] one [] _ _ _ _ _ (List.all_eq_true.mp rfl) hquad (List.forall_mem_nil _)
      1 0 0 2
  obtain ⟨-, -, -, hsame⟩ := resolve_list_parts "10.0.0.2, 10.0.0.1"
  obtain ⟨hsucceeds, -, herror, -⟩ := resolve_list_parts "10.0.0.1, x ,10.0.0.300,,x"
  have hread : (ofInput .list "10.0.0.2, 10.0.0.1").resolve =
      .ok (.addresses ⟨[⟨167772161⟩, ⟨167772162⟩], by decide⟩) := by
    decide +kernel
  have hedits : Relation.ReflTransGen Edit (parts "10.0.0.2, 10.0.0.1")
      (parts " 010.0.0.001,, 10.0.0.2,10.0.0.2") := by
    rw [hstart, hend]
    exact ((((Relation.ReflTransGen.single hrepeated).tail hpadded).tail hblank).tail
      hpermuted).tail hzeros
  have hnone : ¬ ∃ targets, (ofInput .list "10.0.0.1, x ,10.0.0.300,,x").resolve = .ok targets := by
    rw [hsucceeds]
    intro h
    obtain ⟨a, ha⟩ := h [' ', 'x', ' '] (by decide +kernel) (by decide +kernel)
    have hx : Address.parse (trimmed [' ', 'x', ' ']) = .error (.invalidAddresses ["x"]) := by
      decide +kernel
    cases hx.symm.trans ha
  have hrejected : rejected "10.0.0.1, x ,10.0.0.300,,x" = ["x", "10.0.0.300", "x"] := by
    decide +kernel
  refine ⟨⟨_, hread, (hsame _ hedits _).mp hread, by decide +kernel, rfl⟩, ?_⟩
  exact (herror _).mpr ⟨hnone, congrArg _ hrejected.symm⟩

end DeviceConsole.TargetSpec
