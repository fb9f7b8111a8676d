import Bindwright.Emit.ImportTable

namespace Bindwright.ImportTable

variable {t : ImportTable} {names paths : List String}

def importedNames (t : ImportTable) : List String := t.imported.map ItemPath.simpleName

def Claims (t : ImportTable) (name : String) : Prop := (t.owners.lookup name).isSome

theorem isSome_lookup_concat (owners : List (String × String)) (name path other : String) :
    ((owners ++ [(name, path)]).lookup other).isSome ↔
      (owners.lookup other).isSome ∨ other = name := by
  rw [List.lookup_append, Option.isSome_or, Bool.or_eq_true]
  cases same : other == name with
  | true => simp [beq_iff_eq.1 same]
  | false => simp [List.lookup_cons, same, beq_eq_false_iff_ne.1 same]

theorem claims_reserve_iff (name other : String) :
    (t.reserve name).Claims other ↔ t.Claims other ∨ other = name := by
  unfold reserve Claims
  cases owner : t.owners.lookup name with
  | some path =>
    refine ⟨.inl, fun claims => ?_⟩
    rcases claims with old | rfl
    · exact old
    · rw [owner]
      rfl
  | none => exact isSome_lookup_concat ..

@[simp] theorem imported_reserve (name : String) : (t.reserve name).imported = t.imported := by
  unfold reserve
  cases t.owners.lookup name <;> rfl

theorem require_cases (t : ImportTable) (path : String) :
    (t.require path = t ∧ (isImportable path = true →
      path ∈ t.imported ∨ t.Claims (ItemPath.simpleName path))) ∨
    isImportable path = true ∧ (t.require path).imported = t.imported ++ [path] ∧
      ∀ name, (t.require path).Claims name ↔ t.Claims name ∨ name = ItemPath.simpleName path := by
  unfold require Claims
  split
  · rename_i passed
    refine .inl ⟨rfl, fun importable => .inl ?_⟩
    rwa [importable, Bool.not_true, Bool.false_or, List.contains_iff_mem] at passed
  · rename_i fresh
    have importable : isImportable path = true := by
      simp only [Bool.or_eq_true, Bool.not_eq_true', not_or, Bool.not_eq_false] at fresh
      exact fresh.1
    dsimp only
    cases owner : t.owners.lookup (ItemPath.simpleName path) with
    | none => exact .inr ⟨importable, rfl, fun name => isSome_lookup_concat ..⟩
    | some first =>
      dsimp only
      split
      · refine .inr ⟨importable, rfl, fun name => ⟨.inl, fun claims => ?_⟩⟩
        rcases claims with old | rfl
        · exact old
        · exact Option.isSome_of_eq_some owner
      · exact .inl ⟨rfl, fun _ => .inr rfl⟩

/-- The table is made by reserving the names and requiring the paths. -/
structure Covers (t : ImportTable) (names paths : List String) : Prop where
  required : ∀ path ∈ t.imported, path ∈ paths ∧ isImportable path = true
  claimed : ∀ name, t.Claims name ↔ name ∈ names ∨ name ∈ t.importedNames
  taken : ∀ path ∈ paths, isImportable path = true → t.Claims (ItemPath.simpleName path)

namespace Covers

theorem empty : Covers .empty [] [] where
  required _ member := absurd member List.not_mem_nil
  claimed name := by simp [ImportTable.empty, Claims, importedNames]
  taken _ member := absurd member List.not_mem_nil

theorem reserve (covers : t.Covers names paths) (name : String) :
    (t.reserve name).Covers (names ++ [name]) paths where
  required := by simpa using covers.required
  claimed other := by
    rw [claims_reserve_iff, covers.claimed, importedNames, importedNames, imported_reserve,
      List.mem_append, List.mem_singleton]
    exact or_right_comm
  taken path member importable :=
    (claims_reserve_iff name _).2 (.inl (covers.taken path member importable))

theorem require (covers : t.Covers names paths) (path : String) :
    (t.require path).Covers names (paths ++ [path]) := by
  rcases require_cases t path with ⟨same, passed⟩ | ⟨importable, imported, claims⟩
  · rw [same]
    refine ⟨fun path' member => ?_, covers.claimed, fun path' member importable => ?_⟩
    · exact (covers.required path' member).imp_left (List.mem_append_left _)
    · rcases List.mem_append.1 member with before | last
      · exact covers.taken path' before importable
      · rw [List.mem_singleton.1 last] at importable ⊢
        rcases passed importable with already | taken
        · exact (covers.claimed _).2 (.inr (List.mem_map_of_mem already))
        · exact taken
  · refine ⟨fun path' member => ?_, fun name => ?_, fun path' member importable' => ?_⟩
    · rw [imported] at member
      rcases List.mem_append.1 member with before | last
      · exact (covers.required path' before).imp_left (List.mem_append_left _)
      · rw [List.mem_singleton.1 last]
        exact ⟨List.mem_append_right _ List.mem_cons_self, importable⟩
    · rw [claims, covers.claimed, importedNames, importedNames, imported, List.map_append,
        List.mem_append, List.map_singleton, List.mem_singleton, or_assoc]
    · rw [claims]
      rcases List.mem_append.1 member with before | last
      · exact .inl (covers.taken path' before importable')
      · exact .inr (congrArg _ (List.mem_singleton.1 last))

theorem reserveAll (covers : t.Covers names paths) (more : List String) :
    (more.foldl ImportTable.reserve t).Covers (names ++ more) paths := by
  induction more generalizing t names with
  | nil => simpa using covers
  | cons name more ih => simpa using ih (covers.reserve name)

theorem requireAll (covers : t.Covers names paths) (more : List String) :
    (t.requireAll more).Covers names (paths ++ more) := by
  unfold ImportTable.requireAll
  induction more generalizing t paths with
  | nil => simpa using covers
  | cons path more ih => simpa using ih (covers.require path)

theorem mem_iff (covers : t.Covers names paths) (name : String) :
    name ∈ names ∨ name ∈ t.importedNames ↔
      name ∈ names ∨ ∃ path ∈ paths, isImportable path = true ∧ ItemPath.simpleName path = name := by
  constructor
  · rintro (reserved | imported)
    · exact .inl reserved
    · obtain ⟨path, member, same⟩ := List.mem_map.1 imported
      obtain ⟨listed, importable⟩ := covers.required path member
      exact .inr ⟨path, listed, importable, same⟩
  · rintro (reserved | ⟨path, listed, importable, rfl⟩)
    · exact .inl reserved
    · exact (covers.claimed _).1 (covers.taken path listed importable)

end Covers
end Bindwright.ImportTable
