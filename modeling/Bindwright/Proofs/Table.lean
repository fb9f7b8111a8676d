import Bindwright.Table
import Mathlib.Data.List.Nodup

namespace Bindwright.Table

variable {κ α : Type} [DecidableEq κ] {t : Table κ α} {k : κ}

theorem find?_eq_none_iff : t.find? k = none ↔ k ∉ t.keys := by
  rw [← contains_eq_true_iff, ← find?_isSome]
  cases t.find? k <;> simp

theorem find?_cons (e : κ × α) (es : List (κ × α)) (k : κ) :
    (⟨e :: es⟩ : Table κ α).find? k = if e.1 = k then some e.2 else (⟨es⟩ : Table κ α).find? k := by
  by_cases here : e.1 = k <;> simp [find?, here]

theorem find?_append (es fs : List (κ × α)) (k : κ) :
    (⟨es ++ fs⟩ : Table κ α).find? k =
      ((⟨es⟩ : Table κ α).find? k).or ((⟨fs⟩ : Table κ α).find? k) := by
  simp [find?, List.find?_append, Option.map_or]

theorem find?_modify (es : List (κ × α)) (k j : κ) (f : α → α) :
    (⟨es.map fun e => if e.1 = k then (e.1, f e.2) else e⟩ : Table κ α).find? j =
      if j = k then ((⟨es⟩ : Table κ α).find? j).map f else (⟨es⟩ : Table κ α).find? j := by
  induction es with
  | nil => simp [find?]
  | cons e es ih =>
    rw [List.map_cons, find?_cons, find?_cons, ih]
    by_cases other : e.1 = k
    · by_cases same : j = k
      · simp [other, same]
      · simp [other, same, Ne.symm same]
    · by_cases here : e.1 = j
      · simp [here, here ▸ other]
      · simp [other, here]

theorem find?_alter (t : Table κ α) (k : κ) (f : Option α → α) (j : κ) :
    (t.alter k f).find? j = if j = k then some (f (t.find? k)) else t.find? j := by
  unfold alter
  by_cases old : t.contains k = true
  · have found : (t.find? k).isSome = true := by rw [find?_isSome, old]
    obtain ⟨b, found⟩ := Option.isSome_iff_exists.1 found
    simp only [old, ↓reduceIte]
    rw [find?_modify t.entries k j fun a => f (some a)]
    by_cases same : j = k
    · subst same
      simp [found]
    · simp [same]
  · have missing : t.find? k = none := by
      rw [← Option.isNone_iff_eq_none, ← Option.not_isSome, find?_isSome, Bool.eq_false_iff.2 old]
      rfl
    rw [if_neg old, find?_append, missing]
    by_cases same : j = k
    · subst same
      rw [missing]
      simp [find?]
    · simp [same, Ne.symm same, find?]

theorem find?_insert (t : Table κ α) (k : κ) (a : α) (j : κ) :
    (t.insert k a).find? j = if j = k then some a else t.find? j :=
  find?_alter t k (fun _ => a) j

theorem find?_erase (t : Table κ α) (k j : κ) :
    (t.erase k).find? j = if j = k then none else t.find? j := by
  by_cases same : j = k
  · subst same
    rw [if_pos rfl, find?_eq_none_iff, keys_erase]
    simp
  · rw [if_neg same]
    unfold find? erase
    rw [List.find?_filter]
    congr 2
    funext e
    by_cases here : e.1 = j <;> simp [here, same]

theorem keys_alter (t : Table κ α) (k : κ) (f : Option α → α) :
    (t.alter k f).keys = if k ∈ t.keys then t.keys else t.keys ++ [k] := by
  unfold alter
  by_cases old : t.contains k = true
  · rw [if_pos old, if_pos (contains_eq_true_iff.1 old)]
    simp only [keys, List.map_map]
    apply List.map_congr_left
    intro e _
    by_cases same : e.1 = k <;> simp [same]
  · rw [if_neg old, if_neg (fun member => old (contains_eq_true_iff.2 member))]
    simp [keys]

theorem nodup_keys_alter (distinct : t.keys.Nodup) (k : κ) (f : Option α → α) :
    (t.alter k f).keys.Nodup := by
  rw [keys_alter]
  split
  · exact distinct
  · rename_i new
    exact distinct.append (List.nodup_singleton k) (by simpa using new)

theorem nodup_keys_insert (distinct : t.keys.Nodup) (k : κ) (a : α) :
    (t.insert k a).keys.Nodup :=
  nodup_keys_alter distinct k fun _ => a

theorem nodup_keys_erase (distinct : t.keys.Nodup) (k : κ) : (t.erase k).keys.Nodup := by
  rw [keys_erase]
  exact distinct.filter _

theorem mem_entries_iff (distinct : t.keys.Nodup) {a : α} :
    (k, a) ∈ t.entries ↔ t.find? k = some a := by
  obtain ⟨es⟩ := t
  induction es with
  | nil => simp [find?]
  | cons e es ih =>
    obtain ⟨new, rest⟩ := List.nodup_cons.1 distinct
    rw [find?_cons, List.mem_cons, ih rest]
    by_cases here : e.1 = k
    · subst here
      have missing : (⟨es⟩ : Table κ α).find? e.1 = none := find?_eq_none_iff.2 new
      rw [missing, if_pos rfl]
      simp [Prod.ext_iff, eq_comm]
    · have other : (k, a) ≠ e := fun same => here (congrArg Prod.fst same).symm
      simp [here, other]

theorem entries_insert_erase (t : Table κ α) (k : κ) (a : α) :
    ((t.erase k).insert k a).entries = t.entries.filter (·.1 ≠ k) ++ [(k, a)] := by
  have gone : (t.erase k).contains k = false := by
    rw [← find?_isSome, find?_erase, if_pos rfl]
    rfl
  rw [insert_of_not_contains gone]
  rfl

theorem erase_insert_of_fresh (fresh : t.find? k = none) (a : α) : (t.insert k a).erase k = t := by
  have missing : k ∉ t.keys := find?_eq_none_iff.1 fresh
  have others : ∀ e ∈ t.entries, e.1 ≠ k := fun e member same =>
    missing (List.mem_map.2 ⟨e, member, same⟩)
  rw [insert_of_not_contains (Bool.eq_false_iff.2 (mt contains_eq_true_iff.1 missing)), erase,
    List.filter_append, List.filter_eq_self.2 fun e member => decide_eq_true (others e member)]
  simp

theorem insert_insert_of_fresh (fresh : t.find? k = none) (a b : α) :
    (t.insert k a).insert k b = t.insert k b := by
  have missing : k ∉ t.keys := find?_eq_none_iff.1 fresh
  have others : t.entries.map (fun e => if e.1 = k then (e.1, b) else e) = t.entries :=
    (List.map_congr_left fun e member =>
      if_neg fun same => missing (List.mem_map.2 ⟨e, member, same⟩)).trans (List.map_id _)
  have absent := Bool.eq_false_iff.2 (mt contains_eq_true_iff.1 missing)
  have present : (⟨t.entries ++ [(k, a)]⟩ : Table κ α).contains k = true := by simp [contains]
  rw [insert_of_not_contains absent, insert_of_not_contains absent, insert, alter, if_pos present,
    List.map_append, others]
  simp

theorem filter_key_eq (distinct : t.keys.Nodup) {a : α} (found : t.find? k = some a) :
    t.entries.filter (·.1 = k) = [(k, a)] := by
  obtain ⟨before, after, split⟩ :=
    List.append_of_mem ((mem_entries_iff distinct).2 found)
  have elsewhere : ∀ e ∈ before ++ after, e.1 ≠ k := by
    rw [keys, split, List.map_append, List.map_cons, List.nodup_middle, List.nodup_cons,
      ← List.map_append] at distinct
    exact fun e member same => distinct.1 (List.mem_map.2 ⟨e, member, same⟩)
  simp only [List.forall_mem_append] at elsewhere
  have none_of {es : List (κ × α)} (others : ∀ e ∈ es, e.1 ≠ k) : es.filter (·.1 = k) = [] :=
    List.filter_eq_nil_iff.2 fun e member => by simpa using others e member
  rw [split, List.filter_append, none_of elsewhere.1, List.filter_cons_of_pos (by simp),
    none_of elsewhere.2, List.nil_append]

theorem insert_erase_eq_self_iff (distinct : t.keys.Nodup) {a : α} (found : t.find? k = some a) :
    (t.erase k).insert k a = t ↔ t.keys.getLast? = some k := by
  constructor
  · intro same
    rw [← same, keys, entries_insert_erase, List.map_append, List.map_singleton,
      List.getLast?_concat]
  · intro last
    obtain ⟨e, lastEntry, rfl⟩ : ∃ e, t.entries.getLast? = some e ∧ e.1 = k := by
      rwa [keys, List.getLast?_map, Option.map_eq_some_iff] at last
    obtain ⟨before, split⟩ := List.getLast?_eq_some_iff.1 lastEntry
    have value : e = (e.1, a) := by
      have member := filter_key_eq distinct found ▸
        List.mem_filter.2 ⟨List.mem_of_getLast? lastEntry, decide_eq_true rfl⟩
      exact List.mem_singleton.1 member
    have others : ∀ e' ∈ before, e'.1 ≠ e.1 := by
      rw [keys, split, List.map_append, List.nodup_append] at distinct
      exact fun e' member => distinct.2.2 _ (List.mem_map_of_mem member) _ (List.mem_singleton.2 rfl)
    have entries : ((t.erase e.1).insert e.1 a).entries = t.entries := by
      rw [entries_insert_erase, split, List.filter_append,
        List.filter_eq_self.2 fun e' member => decide_eq_true (others e' member),
        List.filter_cons_of_neg (by simp), List.filter_nil, List.append_nil, ← value]
    exact congrArg Table.mk entries

end Bindwright.Table
