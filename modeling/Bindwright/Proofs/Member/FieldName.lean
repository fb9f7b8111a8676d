import Bindwright.Member.Shape
import Bindwright.Proofs.Table

namespace Bindwright

def plainFieldName (member : String) : String :=
  if member = nextMember then "next" else Naming.snakeCase member

def respelledNames : Table String String :=
  ⟨Naming.pathKeywords.map (fun word => (word, word ++ "_")) ++
    (Naming.keywords.map (fun word => (word, "r#" ++ word)) ++
      viewMethods.map fun word => (word, word ++ "_field"))⟩

def FieldsClash (member other : String) : Prop :=
  plainFieldName member = plainFieldName other ∨
    (plainFieldName member, plainFieldName other) ∈ respelledNames.entries ∨
    (plainFieldName other, plainFieldName member) ∈ respelledNames.entries

theorem nodup_keys_respelledNames : respelledNames.keys.Nodup := by decide

theorem nodup_values_respelledNames : respelledNames.values.Nodup := by decide

theorem respelled_not_mem_keys : ∀ e ∈ respelledNames.entries, e.2 ∉ respelledNames.keys := by
  decide

theorem find?_respelled (words : List String) (respell : String → String) (name : String) :
    (⟨words.map fun word => (word, respell word)⟩ : Table String String).find? name =
      if name ∈ words then some (respell name) else none := by
  induction words with
  | nil => rfl
  | cons word words ih =>
    rw [List.map_cons, Table.find?_cons, ih]
    by_cases here : word = name
    · simp [here]
    · simp [here, Ne.symm here]

theorem find?_respelledNames (name : String) :
    respelledNames.find? name =
      if name ∈ Naming.pathKeywords then some (name ++ "_")
      else if name ∈ Naming.keywords then some ("r#" ++ name)
      else if name ∈ viewMethods then some (name ++ "_field") else none := by
  unfold respelledNames
  rw [Table.find?_append, Table.find?_append, find?_respelled, find?_respelled, find?_respelled]
  split
  · rfl
  · split <;> rfl

theorem escape_eq (name : String) :
    Naming.escape name =
      if name ∈ Naming.pathKeywords then name ++ "_"
      else if name ∈ Naming.keywords then "r#" ++ name else name := by
  simp only [Naming.escape, List.contains_iff_mem]

theorem escaped_not_mem_viewMethods :
    (∀ word ∈ Naming.pathKeywords, word ++ "_" ∉ viewMethods) ∧
      ∀ word ∈ Naming.keywords, "r#" ++ word ∉ viewMethods := by
  decide

theorem memberFieldName_eq (member : String) :
    memberFieldName member =
      (respelledNames.find? (plainFieldName member)).getD (plainFieldName member) := by
  unfold memberFieldName plainFieldName
  split
  · decide
  · simp only [Naming.fieldName, escape_eq, find?_respelledNames, List.contains_iff_mem]
    obtain ⟨paths, words⟩ := escaped_not_mem_viewMethods
    generalize Naming.snakeCase member = name
    by_cases path : name ∈ Naming.pathKeywords
    · simp only [path, if_true, if_neg (paths name path), Option.getD_some]
    · by_cases word : name ∈ Naming.keywords
      · simp only [path, word, if_true, if_false, if_neg (words name word), Option.getD_some]
      · simp only [path, word, if_false]
        split <;> rfl

theorem memberFieldName_not_mem_viewMethods (member : String) :
    memberFieldName member ∉ viewMethods := by
  have method (word : String) (member : word ∈ viewMethods) : word ∈ respelledNames.keys := by
    simp [respelledNames, Table.keys, member]
  rw [memberFieldName_eq]
  cases found : respelledNames.find? (plainFieldName member) with
  | none => exact fun inside => Table.find?_eq_none_iff.1 found (method _ inside)
  | some name =>
    have entry := (Table.mem_entries_iff nodup_keys_respelledNames).2 found
    exact fun inside => respelled_not_mem_keys _ entry (method _ inside)

theorem memberFieldName_eq_iff (member other : String) :
    memberFieldName member = memberFieldName other ↔ FieldsClash member other := by
  have entry {name respelled : String} : (name, respelled) ∈ respelledNames.entries ↔
      respelledNames.find? name = some respelled :=
    Table.mem_entries_iff nodup_keys_respelledNames
  have own {name respelled : String} (found : respelledNames.find? name = some respelled) :
      respelledNames.find? respelled = none :=
    Table.find?_eq_none_iff.2 (respelled_not_mem_keys _ (entry.2 found))
  rw [memberFieldName_eq, memberFieldName_eq, FieldsClash, entry, entry]
  generalize plainFieldName member = a
  generalize plainFieldName other = b
  cases first : respelledNames.find? a with
  | none =>
    cases second : respelledNames.find? b with
    | none => simp
    | some d =>
      have differ : a ≠ b := by
        rintro rfl
        cases first.symm.trans second
      simp [differ, eq_comm]
  | some c =>
    cases second : respelledNames.find? b with
    | none =>
      have differ : a ≠ b := by
        rintro rfl
        cases second.symm.trans first
      simp [differ]
    | some d =>
      -- Neither name is what the other is respelled to, so only equal names have equal fields.
      have unlike : c ≠ b := by
        rintro rfl
        cases (own first).symm.trans second
      have unlike' : d ≠ a := by
        rintro rfl
        cases (own second).symm.trans first
      simp only [Option.getD_some, Option.some.injEq, unlike, unlike', or_false]
      constructor
      · rintro rfl
        have same := List.inj_on_of_nodup_map (f := Prod.snd) nodup_values_respelledNames
          (entry.2 first) (entry.2 second) rfl
        exact congrArg Prod.fst same
      · rintro rfl
        exact Option.some.inj (first.symm.trans second)

end Bindwright
