/-! Finite maps from texts, kept in ascending order of their keys. -/
namespace DeviceConsole

structure Dictionary (α : Type) where
  entries : List (String × α)
  ascending : entries.Pairwise (·.1 < ·.1)
deriving DecidableEq

namespace Dictionary

variable {α β : Type}

def empty : Dictionary α := ⟨[], .nil⟩

instance : Inhabited (Dictionary α) := ⟨empty⟩

def keys (d : Dictionary α) : List String := d.entries.map (·.1)

def get? (d : Dictionary α) (key : String) : Option α := d.entries.lookup key

def isEmpty (d : Dictionary α) : Bool := d.entries.isEmpty

/-- Inserts before the first greater key; an equal key gets the new value. -/
def insertInto (key : String) (value : α) : List (String × α) → List (String × α)
  | [] => [(key, value)]
  | e :: es =>
      if key < e.1 then (key, value) :: e :: es
      else if key = e.1 then (key, value) :: es
      else e :: insertInto key value es

theorem mem_insertInto {key : String} {value : α} {x : String × α} {l : List (String × α)}
    (h : x ∈ insertInto key value l) : x = (key, value) ∨ x ∈ l := by
  induction l with
  | nil => simpa [insertInto] using h
  | cons e es ih =>
    unfold insertInto at h
    split at h
    · simpa using h
    · split at h
      · exact (List.mem_cons.mp h).imp_right fun h => List.mem_cons_of_mem _ h
      · rcases List.mem_cons.mp h with rfl | h
        · exact .inr List.mem_cons_self
        · exact (ih h).imp_right fun h => List.mem_cons_of_mem _ h

theorem insertInto_ascending {key : String} {value : α} {l : List (String × α)}
    (h : l.Pairwise (·.1 < ·.1)) : (insertInto key value l).Pairwise (·.1 < ·.1) := by
  induction l with
  | nil => simp [insertInto]
  | cons e es ih =>
    obtain ⟨he, hes⟩ := List.pairwise_cons.mp h
    unfold insertInto
    split
    · rename_i hlt
      refine List.pairwise_cons.mpr ⟨fun x hx => ?_, h⟩
      rcases List.mem_cons.mp hx with rfl | hx
      · exact hlt
      · exact String.lt_trans hlt (he x hx)
    · split
      · rename_i heq
        exact List.pairwise_cons.mpr ⟨fun x hx => heq ▸ he x hx, hes⟩
      · rename_i hlt hne
        refine List.pairwise_cons.mpr ⟨fun x hx => ?_, ih hes⟩
        rcases mem_insertInto hx with rfl | hx
        · rcases String.le_total e.1 key with hle | hle
          · exact Std.lt_of_le_of_ne hle (Ne.symm hne)
          · exact absurd (Std.lt_of_le_of_ne hle hne) hlt
        · exact he x hx

def insert (d : Dictionary α) (key : String) (value : α) : Dictionary α :=
  ⟨insertInto key value d.entries, insertInto_ascending d.ascending⟩

/-- Of a repeated key the last value stays. -/
def ofList (entries : List (String × α)) : Dictionary α :=
  entries.foldl (fun d e => d.insert e.1 e.2) empty

end Dictionary
end DeviceConsole
