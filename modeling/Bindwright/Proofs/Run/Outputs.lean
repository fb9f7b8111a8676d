import Bindwright.Proofs.Files.Path
import Bindwright.Proofs.Naming.Casing
import Bindwright.Proofs.Run.Destinations
import Bindwright.Run.Generation

namespace Bindwright

open Files

def moduleNames (module : String) : List String :=
  (ItemPath.segments module).dropWhile (· = "crate")

def PlainModule (module : String) : Prop := ∀ name ∈ moduleNames module, PlainName name

instance : DecidablePred PlainModule := fun _ => inferInstanceAs (Decidable (∀ _ ∈ _, _))

def SamePath (path path' : String) : Prop := components path = components path'

namespace Generation

variable {out module module' file file' : String}

theorem components_moduleDirectory (plain : PlainModule module) :
    components (moduleDirectory module) = (moduleNames module).map .normal :=
  components_foldl_join plain ""

theorem components_file (plain : PlainModule module) (plainFile : PlainName file) :
    components (join (join out (moduleDirectory module)) file) =
      components out ++ (moduleNames module).map .normal ++ [.normal file] := by
  have directory : OnlyNames (moduleDirectory module) := by
    rw [OnlyNames, components_moduleDirectory plain]
    intro c member
    obtain ⟨name, -, rfl⟩ := List.mem_map.1 member
    exact ⟨name, rfl⟩
  rw [components_join plainFile.onlyNames, components_join directory,
    components_moduleDirectory plain, components_of_plain plainFile]

theorem samePath_iff (plain : PlainModule module) (plain' : PlainModule module')
    (plainFile : PlainName file) (plainFile' : PlainName file') :
    SamePath (join (join out (moduleDirectory module)) file)
      (join (join out (moduleDirectory module')) file') ↔
      moduleNames module = moduleNames module' ∧ file = file' := by
  rw [SamePath, components_file plain plainFile, components_file plain' plainFile',
    List.append_singleton_inj, List.append_cancel_left_eq,
    List.map_inj_right fun _ _ => Component.normal.inj, Component.normal.injEq]

theorem plainName_source {stem : String} (slash : '/' ∉ stem.toList) :
    PlainName (stem ++ ".rs") := by
  have longer {text : String} (short : text.toList.length < 3) : stem ++ ".rs" ≠ text := by
    rintro rfl
    rw [String.toList_append, List.length_append] at short
    exact absurd (Nat.le_add_left 3 stem.toList.length) (Nat.not_le.2 short)
  refine ⟨longer (by decide), longer (by decide), longer (by decide), ?_⟩
  rw [String.toList_append, List.mem_append, not_or]
  exact ⟨slash, by decide⟩

theorem plainName_index : PlainName "mod.rs" := by decide

theorem source_eq_index_iff {stem : String} : stem ++ ".rs" = "mod.rs" ↔ stem = "mod" := by
  have index : "mod.rs" = "mod" ++ ".rs" := by decide
  rw [index, String.append_left_inj]

structure Separate (out : String) (modules : List String) (requests : List Request) : Prop where
  sources : ∀ q ∈ requests, ∀ q' ∈ requests, q ≠ q' →
    ¬SamePath (outputPath out q.destination) (outputPath out q'.destination)
  beside : ∀ q ∈ requests, ∀ module ∈ modules,
    ¬SamePath (outputPath out q.destination) (indexPath out module)
  indexes : ∀ module ∈ modules, ∀ module' ∈ modules, module ≠ module' →
    ¬SamePath (indexPath out module) (indexPath out module')

/-- The modules have different directories, the types of one module different names in snake case,
and none of these is that of an index. -/
structure ToldApart (modules : List String) (requests : List Request) : Prop where
  directories : ∀ module ∈ modules, ∀ module' ∈ modules, module ≠ module' →
    moduleNames module ≠ moduleNames module'
  stems : ∀ q ∈ requests, ∀ q' ∈ requests, q ≠ q' →
    q.destination.module = q'.destination.module →
      Naming.snakeCase q.destination.name ≠ Naming.snakeCase q'.destination.name
  noIndex : ∀ q ∈ requests, Naming.snakeCase q.destination.name ≠ "mod"

section Lists

variable {modules : List String} {requests : List Request} {q q' : Request}
  (plain : ∀ module ∈ modules, PlainModule module)
  (inside : ∀ q ∈ requests, q.destination.module ∈ modules)
  (slashless : ∀ q ∈ requests, '/' ∉ (Naming.snakeCase q.destination.name).toList)

include plain inside slashless

theorem samePath_sources_iff (member : q ∈ requests) (member' : q' ∈ requests) :
    SamePath (outputPath out q.destination) (outputPath out q'.destination) ↔
      moduleNames q.destination.module = moduleNames q'.destination.module ∧
        Naming.snakeCase q.destination.name = Naming.snakeCase q'.destination.name := by
  rw [outputPath, outputPath, samePath_iff (plain _ (inside q member)) (plain _ (inside q' member'))
    (plainName_source (slashless q member)) (plainName_source (slashless q' member')),
    String.append_left_inj]

theorem samePath_index_iff (member : q ∈ requests) (listed : module ∈ modules) :
    SamePath (outputPath out q.destination) (indexPath out module) ↔
      moduleNames q.destination.module = moduleNames module ∧
        Naming.snakeCase q.destination.name = "mod" := by
  rw [outputPath, indexPath, samePath_iff (plain _ (inside q member)) (plain _ listed)
    (plainName_source (slashless q member)) plainName_index, source_eq_index_iff]

omit inside slashless in
theorem samePath_indexes_iff (listed : module ∈ modules) (listed' : module' ∈ modules) :
    SamePath (indexPath out module) (indexPath out module') ↔
      moduleNames module = moduleNames module' := by
  rw [indexPath, indexPath, samePath_iff (plain _ listed) (plain _ listed') plainName_index
    plainName_index, and_iff_left rfl]

theorem ToldApart.separate (apart : ToldApart modules requests) :
    Separate out modules requests where
  sources q member q' member' differ same := by
    obtain ⟨directory, stem⟩ :=
      (samePath_sources_iff plain inside slashless member member').1 same
    by_cases module : q.destination.module = q'.destination.module
    · exact apart.stems q member q' member' differ module stem
    · exact apart.directories _ (inside q member) _ (inside q' member') module directory
  beside q member module listed same :=
    apart.noIndex q member ((samePath_index_iff plain inside slashless member listed).1 same).2
  indexes module listed module' listed' differ same :=
    apart.directories module listed module' listed' differ
      ((samePath_indexes_iff plain listed listed').1 same)

theorem Separate.toldApart (separate : Separate out modules requests) :
    ToldApart modules requests where
  directories module listed module' listed' differ same :=
    separate.indexes module listed module' listed' differ
      ((samePath_indexes_iff plain listed listed').2 same)
  stems q member q' member' differ module stem :=
    separate.sources q member q' member' differ
      ((samePath_sources_iff plain inside slashless member member').2
        ⟨congrArg moduleNames module, stem⟩)
  noIndex q member stem :=
    separate.beside q member _ (inside q member)
      ((samePath_index_iff plain inside slashless member (inside q member)).2 ⟨rfl, stem⟩)

end Lists

/-- The files that are generated for a plan have different paths exactly if their names tell them
apart. -/
theorem separate_iff (b : Bindings) (p : Plan) (out : String)
    (plain : ∀ module ∈ p.destinations, PlainModule module)
    (slashless : ∀ q ∈ (Population.populate b p).1.requests,
      '/' ∉ (Naming.snakeCase q.destination.name).toList) :
    Separate out p.destinations (Population.populate b p).1.requests ↔
      ToldApart p.destinations (Population.populate b p).1.requests := by
  have inside : ∀ q ∈ (Population.populate b p).1.requests,
      q.destination.module ∈ p.destinations := fun _ => Population.module_mem_destinations
  exact ⟨Separate.toldApart plain inside slashless, ToldApart.separate plain inside slashless⟩

/-- Types whose names are in camel case are kept apart, unless one is called `Mod`. -/
theorem separate_of_camelCase (b : Bindings) (p : Plan) (out : String)
    (plain : ∀ module ∈ p.destinations, PlainModule module)
    (directories : ∀ module ∈ p.destinations, ∀ module' ∈ p.destinations, module ≠ module' →
      moduleNames module ≠ moduleNames module')
    (camel : ∀ q ∈ (Population.populate b p).1.requests, Naming.IsCamelCase q.destination.name)
    (noIndex : ∀ q ∈ (Population.populate b p).1.requests, q.destination.name ≠ "Mod") :
    Separate out p.destinations (Population.populate b p).1.requests := by
  have inside : ∀ q ∈ (Population.populate b p).1.requests,
      q.destination.module ∈ p.destinations := fun _ => Population.module_mem_destinations
  refine ToldApart.separate plain inside
    (fun q pending => Naming.slash_not_mem_snakeCase (camel q pending)) ⟨directories, ?_, ?_⟩
  · intro q pending q' pending' differ module stem
    have name := congrArg Naming.upperCamelCase stem
    rw [Naming.upperCamelCase_snakeCase (camel q pending),
      Naming.upperCamelCase_snakeCase (camel q' pending')] at name
    exact differ (Population.eq_of_mem_requests pending pending' module name)
  · intro q pending stem
    have name := congrArg Naming.upperCamelCase stem
    have index : Naming.upperCamelCase "mod" = "Mod" := by decide
    rw [Naming.upperCamelCase_snakeCase (camel q pending), index] at name
    exact noIndex q pending name

end Generation

namespace Population

def emptyStructure (name : String) : NativeType :=
  { name, path := "bindings::" ++ name
    documentation := "\x7b@snippet : struct " ++ name ++ " \x7b \x7d; \x7d"
    documentationLine := 1, accessors := [], hasLayout := true, location := .unknown }

def emptyStructures (names : List String) : Bindings :=
  { NativeType.noBindings with types := names.map fun name => ("bindings", emptyStructure name) }

end Population

namespace Generation

open Population in
theorem separate_iff_extents :
    let requests := (populate (emptyStructures ["VkExtent2D", "VkExtent3D"]) wrapAll).1.requests
    requests.map (outputPath "out" ·.destination) =
        ["out/vk/extent2d.rs", "out/vk/extent3d.rs"] ∧
      Separate "out" wrapAll.destinations requests := by
  refine ⟨by decide, (separate_iff _ _ _ (by decide) (by decide)).2 ?_⟩
  exact ⟨by decide, by decide, by decide⟩

open Population in
/-- Different types can have one name in snake case. -/
theorem separate_types_share_path :
    let b := emptyStructures ["VkHDRMetadata", "VkHdrMetadata"]
    let requests := (populate b wrapAll).1.requests
    requests.Nodup ∧ requests.map (outputPath "out" ·.destination) =
      ["out/vk/hdr_metadata.rs", "out/vk/hdr_metadata.rs"] := by
  decide

end Generation
end Bindwright
