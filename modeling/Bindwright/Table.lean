namespace Bindwright

/-- Values by key. Writing to a key that is there keeps its place; a new key comes last. -/
structure Table (κ α : Type) where
  entries : List (κ × α)
  deriving Repr, DecidableEq

namespace Table

variable {κ α : Type} [DecidableEq κ]

def empty : Table κ α := ⟨[]⟩

instance : Inhabited (Table κ α) := ⟨empty⟩

def keys (t : Table κ α) : List κ := t.entries.map (·.1)

def values (t : Table κ α) : List α := t.entries.map (·.2)

def find? (t : Table κ α) (k : κ) : Option α :=
  (t.entries.find? (·.1 = k)).map (·.2)

def contains (t : Table κ α) (k : κ) : Bool := t.entries.any (·.1 = k)

def alter (t : Table κ α) (k : κ) (f : Option α → α) : Table κ α :=
  if t.contains k then
    ⟨t.entries.map fun e => if e.1 = k then (e.1, f (some e.2)) else e⟩
  else ⟨t.entries ++ [(k, f none)]⟩

def insert (t : Table κ α) (k : κ) (a : α) : Table κ α := t.alter k fun _ => a

def erase (t : Table κ α) (k : κ) : Table κ α := ⟨t.entries.filter (·.1 ≠ k)⟩

theorem find?_isSome (t : Table κ α) (k : κ) : (t.find? k).isSome = t.contains k := by
  rw [Bool.eq_iff_iff]
  simp [find?, contains]

theorem contains_eq_true_iff {t : Table κ α} {k : κ} : t.contains k = true ↔ k ∈ t.keys := by
  simp [contains, keys]

theorem insert_of_not_contains {t : Table κ α} {k : κ} (h : t.contains k = false) (a : α) :
    t.insert k a = ⟨t.entries ++ [(k, a)]⟩ := by
  simp [insert, alter, h]

theorem keys_erase (t : Table κ α) (k : κ) : (t.erase k).keys = t.keys.filter (· ≠ k) := by
  simp [erase, keys, List.filter_map, Function.comp_def]

end Table
end Bindwright
