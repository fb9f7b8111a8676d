import Bindwright.Proofs.Registry.Fates

namespace Bindwright

def HeaderGroup.Clashless (g : HeaderGroup) : Prop :=
  firstClash? (g.group.variantName (g.group.typeName g.native) ·.name) [] g.constants = none

namespace Registry

def ReadsFlags (r : Registry) (flags : String) : Prop :=
  (∃ q members valueType, r.get? flags = some (.pending q) ∧
    q.product = .constants .flags members valueType) ∨
  ∃ path, r.existingPath? flags = some path

variable (asked : Request → Prop)

def Rests (r : Registry) : Mapping → Prop
  | .pending q => asked q
  | .flagBits _ flags => r.ReadsFlags flags
  | _ => True

def Founded (r : Registry) : Prop := ∀ name m, r.get? name = some m → Rests asked r m

variable {asked} {r s : Registry}

theorem ReadsFlags.mono {flags : String} (reads : r.ReadsFlags flags) (grows : Grows r s) :
    s.ReadsFlags flags := by
  have keeps : Keeps ∅ r s := grows.keeps
  rcases reads with ⟨q, members, valueType, pending, product⟩ | ⟨path, existing⟩
  · exact .inl ⟨q, members, valueType, keeps.pending _ _ id pending, product⟩
  · exact .inr ⟨path, keeps.path _ _ existing⟩

theorem Rests.mono {m : Mapping} (rests : Rests asked r m) (grows : Grows r s) :
    Rests asked s m := by
  cases m with
  | flagBits native flags => exact ReadsFlags.mono rests grows
  | _ => exact rests

theorem Founded.same (founded : Founded asked r) (lookup : ∀ name, s.get? name = r.get? name)
    (grows : Grows r s) : Founded asked s := fun name m found =>
  (founded name m ((lookup name).symm.trans found)).mono grows

theorem Founded.rename {native : String} {m : Mapping} (founded : Founded asked r)
    (renames : Renames r s native m) (grows : Grows r s) (rests : Rests asked s m) :
    Founded asked s := by
  intro name m' found
  by_cases same : name = native
  · rw [same, renames.get?_native, Option.some.injEq] at found
    exact found ▸ rests
  · rw [renames.get?_other same] at found
    exact (founded name m' found).mono grows

theorem Founded.addFunctionPointer (founded : Founded asked r) (native path : String) :
    Founded asked (r.addFunctionPointer native path).1 := by
  have grows : Grows r _ := .single (addFunctionPointer_growth r native path)
  cases here : r.get? native with
  | none =>
    simp only [Registry.addFunctionPointer, here] at grows ⊢
    exact founded.rename (renames_put r native _) grows trivial
  | some old =>
    cases old with
    | existing name p =>
      simp only [Registry.addFunctionPointer, here] at grows ⊢
      exact founded.rename (renames_put r native _) grows trivial
    | _ =>
      simp only [Registry.addFunctionPointer, here]
      exact founded

theorem Founded.addRequest (founded : Founded asked r) {q : Request} (ask : asked q) :
    Founded asked (r.addRequest q).1 := by
  have grows : Grows r _ := .single (addRequest_growth r q)
  rcases addRequest_cases r q with ⟨old, path, -, -, skipped⟩ | ⟨old, -, -, rejected⟩ |
    ⟨-, redirected⟩ | ⟨claimer, -, -, rejected⟩ | ⟨-, -, -, queued⟩
  · rw [skipped] at grows ⊢
    exact founded.same (fun _ => rfl) grows
  · rw [rejected]
    exact founded
  · rw [redirected] at grows ⊢
    exact founded.rename (renames_put (r.note _) q.native _) grows trivial
  · rw [rejected]
    exact founded
  · rw [queued] at grows ⊢
    exact founded.rename (renames_queue r q) grows ask

theorem Founded.addFlagBits {flags : String} (founded : Founded asked r)
    (reads : r.ReadsFlags flags) (owner : String) :
    Founded asked (r.addFlagBits owner flags).1 := by
  have grows : Grows r _ := .single (addFlagBits_growth r owner flags)
  cases here : r.get? owner with
  | none =>
    simp only [Registry.addFlagBits, here] at grows ⊢
    exact founded.rename (renames_put r owner _) grows (reads.mono grows)
  | some old =>
    simp only [Registry.addFlagBits, here]
    split <;> exact founded

section Header

variable {sourceModule module : String}

theorem Founded.addGroup (founded : Founded asked r) {group : Naming.ConstantGroup}
    {native : String} {constants : List HeaderConstant}
    (ask : firstClash? (group.variantName (group.typeName native) ·.name) [] constants = none →
      asked (groupRequest native sourceModule module group constants)) :
    Founded asked (r.addGroup sourceModule module group native constants).1 := by
  unfold Registry.addGroup
  split
  · exact founded
  · rename_i clashless
    have warned : Founded asked ((sharedValues [] constants).foldl addDiagnostic r) :=
      founded.same (fun _ => by rw [foldl_addDiagnostic]; rfl) (.single (growth_addDiagnostics r _))
    exact warned.addRequest (ask clashless)

theorem readsFlags_of_addGroup {native : String} {constants : List HeaderConstant}
    (accepted : r.addGroup sourceModule module .flags native constants = (s, none)) :
    s.ReadsFlags native := by
  obtain ⟨fate, meets⟩ := addGroup_meets r sourceModule module .flags native constants
  rw [accepted] at meets
  cases fate with
  | queued =>
    exact .inl ⟨_, _, _, (meets.pending native _).2 (.inr ⟨rfl, rfl, rfl⟩), rfl⟩
  | skipped path => exact .inr ⟨path, meets.path path rfl⟩
  | redirected => exact .inr ⟨_, meets.path _ rfl⟩
  | rejected detail => cases meets.failure

theorem Founded.registerGroup (founded : Founded asked r) (g : HeaderGroup)
    (ask : g.Clashless → asked (groupRequestOf sourceModule module g)) :
    Founded asked (registerGroup sourceModule module r g).1 := by
  obtain ⟨group, native, owner, constants⟩ := g
  have founded' := founded.addGroup ask
  cases group with
  | values => exact founded'
  | flags =>
    simp only [Registry.registerGroup, addFlagGroup]
    split
    · rename_i s accepted
      simp only [accepted] at founded'
      exact founded'.addFlagBits (readsFlags_of_addGroup accepted) owner
    · exact founded'

theorem Founded.registerGroups (founded : Founded asked r) {gs : List HeaderGroup}
    (ask : ∀ g ∈ gs, g.Clashless → asked (groupRequestOf sourceModule module g)) :
    Founded asked (registerGroups sourceModule module r gs).1 := by
  induction gs generalizing r with
  | nil => exact founded
  | cons g gs ih =>
    obtain ⟨first, rest⟩ := List.forall_mem_cons.1 ask
    exact ih (founded.registerGroup g first) rest

theorem Founded.addHeader (founded : Founded asked r) {b : Bindings}
    (ask : ∀ g ∈ headerGroups b.constants, g.Clashless →
      asked (groupRequestOf b.headerModule module g)) :
    Founded asked (r.addHeader b module).1 := by
  rw [addHeader_eq]
  exact founded.registerGroups ask

end Header
end Registry
end Bindwright
