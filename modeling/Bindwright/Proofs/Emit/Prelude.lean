import Bindwright.Proofs.Emit.Fields
import Bindwright.Proofs.Emit.Imports
import Bindwright.Proofs.Emit.Reliance
import Bindwright.Proofs.Run.Entries

namespace Bindwright

open Traversal

theorem ConstantsFile.covers_imports (f : ConstantsFile) :
    f.imports.Covers f.exports f.requirements :=
  ((ImportTable.Covers.empty.reserve f.name).requireAll _).requireAll _

theorem StructureFile.covers_imports (f : StructureFile) :
    f.imports.Covers f.exports f.requirements :=
  (ImportTable.Covers.empty.reserveAll f.exports).requireAll f.requirements

namespace GeneratedFile

def Brings (f : GeneratedFile) (name : String) : Prop :=
  name ∈ f.exports ∨ name ∈ f.imports.importedNames

/-- The file relies on a name of the prelude and gives it another meaning. -/
def Shadows (f : GeneratedFile) (name : String) : Prop :=
  name ∈ preludeNames ∧ f.Relies name ∧ f.Brings name

variable {f : GeneratedFile} {name : String}

theorem mem_exports_iff (prelude : name ∈ preludeNames) : name ∈ f.exports ↔ name = f.name := by
  have unlike (tail : List Char) {derived : String} (ends : tail <:+ derived.toList)
      (differ : ∀ other ∈ preludeNames, ¬tail <:+ other.toList) : name ≠ derived := by
    rintro rfl
    exact differ name prelude ends
  cases f with
  | constants f => exact List.mem_singleton
  | wrapper f =>
    have view : name ≠ f.viewName := by
      refine unlike "Native".toList ?_ (by decide +kernel)
      exact String.toList_append .. ▸ List.suffix_append _ _
    have trait : name ≠ nextTraitName f.name := by
      refine unlike "Next".toList ?_ (by decide +kernel)
      exact String.toList_append .. ▸ List.suffix_append _ _
    have slice : name ≠ nextSliceName f.name := by
      refine unlike "_NEXT".toList ?_ (by decide +kernel)
      exact String.toList_append .. ▸ List.suffix_append _ _
    simp only [exports, StructureFile.exports, GeneratedFile.name]
    split <;> simp [view, trait, slice]

theorem result_mem_ownPrelude (f : GeneratedFile) : "Result" ∈ f.ownPrelude := by
  cases f <;> simp [ownPrelude]

theorem covers_imports (f : GeneratedFile) : f.imports.Covers f.exports f.requirements := by
  cases f with
  | constants f => exact f.covers_imports
  | wrapper f => exact f.covers_imports

theorem brings_iff (prelude : name ∈ preludeNames) :
    f.Brings name ↔ f.name = name ∨
      ∃ path ∈ f.requirements, ImportTable.isImportable path = true ∧
        ItemPath.simpleName path = name := by
  rw [Brings, f.covers_imports.mem_iff, mem_exports_iff prelude, eq_comm]

end GeneratedFile

namespace Rendering

variable {b : Bindings} {r : Registry} {date : String} {q : Request}

def fileOf (b : Bindings) (r : Registry) (date : String) (q : Request) :
    Except Failure GeneratedFile :=
  match ConstantsFile.ofRequest? q date with
  | some f => .ok (.constants f)
  | none => (structureFile b r date q).map .wrapper

theorem exists_fileOf {rendered : Rendered} (ok : render b r date q = .ok rendered) :
    ∃ f, fileOf b r date q = .ok f ∧ f.name = q.destination.name ∧
      rendered = ⟨f.text, f.exports⟩ := by
  cases product : q.product with
  | wrapper =>
    obtain ⟨f, file, rfl⟩ := render_wrapper_ok product ok
    obtain ⟨-, name, -⟩ := structureFile_ok file
    refine ⟨.wrapper f, ?_, name, rfl⟩
    simp only [fileOf, ConstantsFile.ofRequest?, product, file, Except.map]
  | constants group members valueType =>
    simp only [render, ConstantsFile.ofRequest?, product] at ok
    refine ⟨.constants ⟨q.native, q.destination.name, group, members, valueType, date⟩, ?_, rfl,
      (Except.ok.inj ok).symm⟩
    simp only [fileOf, ConstantsFile.ofRequest?, product]

end Rendering

theorem Plan.Asks.name_of_flags {b : Bindings} {p : Plan} {q : Request} (asks : p.Asks b q)
    {members : List HeaderConstant} {valueType : String}
    (flags : q.product = .constants .flags members valueType) :
    q.destination.name = Naming.flagName q.native := by
  rcases asks with wrapped | ⟨module, -, g, -, rfl⟩
  · obtain ⟨d, -, structures⟩ := List.mem_flatMap.1 wrapped
    obtain ⟨t, -, rfl⟩ := List.mem_map.1 structures
    cases flags
  · have group : g.group = .flags := (Product.constants.inj flags).1
    exact congrArg (·.typeName g.native) group

theorem Naming.flagName_not_mem_preludeNames (native : String) :
    Naming.flagName native ∉ preludeNames := by
  have unlike : ∀ other ∈ preludeNames, ¬"Flag".toList <:+ other.toList := by decide +kernel
  have ends : "Flag".toList <:+ (flagName native).toList := by
    simp only [flagName, String.toList_ofList, List.suffix_append]
  exact fun prelude => unlike _ prelude ends

namespace Population

open Rendering

/-- A rendered file shadows a name of the prelude that it relies on exactly if this is the name of
its type, or the last name of a path that it needs and can import. Every file relies on `Result`,
and no type of flags is called like a name of the prelude. -/
theorem shadows_iff (b : Bindings) (p : Plan) (date : String) {q : Request}
    (pending : q ∈ (populate b p).1.requests) {rendered : Rendered}
    (ok : render b (populate b p).1 date q = .ok rendered) :
    ∃ f, fileOf b (populate b p).1 date q = .ok f ∧ rendered = ⟨f.text, f.exports⟩ ∧
      (∀ name, f.Shadows name ↔ name ∈ preludeNames ∧ f.Relies name ∧
        (q.destination.name = name ∨ ∃ path ∈ f.requirements,
          ImportTable.isImportable path = true ∧ ItemPath.simpleName path = name)) ∧
      f.Relies "Result" ∧
      (∀ name ∈ f.ownPrelude, name ∈ preludeNames ∧ Mentions name rendered.text) ∧
      (∀ name ∈ preludeNames, f.Relies name → Mentions name rendered.text) ∧
      ∀ members valueType, q.product = .constants .flags members valueType →
        q.destination.name ∉ preludeNames := by
  obtain ⟨f, file, name, rfl⟩ := exists_fileOf ok
  refine ⟨f, file, rfl, fun other => ?_, .inl f.result_mem_ownPrelude,
    fun _ => GeneratedFile.mem_ownPrelude, fun _ => GeneratedFile.mentions_of_relies,
    fun members valueType flags => ?_⟩
  · rw [GeneratedFile.Shadows, ← name]
    exact and_congr_right fun prelude => and_congr_right fun _ => GeneratedFile.brings_iff prelude
  · rw [(asks_of_mem_requests pending).name_of_flags flags]
    exact Naming.flagName_not_mem_preludeNames q.native

def resultLayer : Bindings := Registry.headerOf [Registry.ownedConstant "VkResult" "VK_SUCCESS"]

def resultRequest : Request :=
  Registry.groupRequest "VkResult" "bindings" "crate::vk" .values resultLayer.constants

def resultFile : ConstantsFile :=
  ⟨"VkResult", Naming.structureName "VkResult", .values, resultLayer.constants, "VkResult", ""⟩

theorem mem_requests_resultLayer : resultRequest ∈ (populate resultLayer wrapAll).1.requests := by
  decide +kernel

theorem render_resultRequest (r : Registry) :
    render resultLayer r "" resultRequest = .ok ⟨resultFile.text, resultFile.exports⟩ := by
  have file : ConstantsFile.ofRequest? resultRequest "" = some resultFile := by
    simp only [ConstantsFile.ofRequest?, resultRequest, Registry.groupRequest, resultFile]
    rfl
  simp only [render, file]

theorem shadows_iff_result :
    let r := (populate resultLayer wrapAll).1
    resultRequest ∈ r.requests ∧ ∃ rendered, render resultLayer r "" resultRequest = .ok rendered ∧
      ∃ f, fileOf resultLayer r "" resultRequest = .ok f ∧ f.Shadows "Result" := by
  intro r
  obtain ⟨f, file, -, shadows, relies, -⟩ := shadows_iff resultLayer wrapAll ""
    mem_requests_resultLayer (render_resultRequest r)
  refine ⟨mem_requests_resultLayer, _, render_resultRequest r, f, file, ?_⟩
  exact (shadows "Result").2 ⟨by decide, relies, .inl (by decide +kernel)⟩

/-- The type of the values is called like the type that its own code returns. -/
theorem result_is_shadowed :
    let r := (populate resultLayer wrapAll).1
    ∃ q ∈ r.requests, ∃ rendered, render resultLayer r "" q = .ok rendered ∧
      rendered.exports = ["Result"] ∧ Contains "pub enum Result \x7b\n" rendered.text ∧
      Contains ") -> Result<Self, " rendered.text := by
  intro r
  refine ⟨resultRequest, mem_requests_resultLayer, _, render_resultRequest r, by decide +kernel, ?_,
    resultFile.contains_result⟩
  have declared : Contains "pub enum Result \x7b\n" resultFile.declaration := by decide +kernel
  unfold ConstantsFile.text
  iterate 6 apply Contains.append_right
  exact declared.append_left _

end Population
end Bindwright
