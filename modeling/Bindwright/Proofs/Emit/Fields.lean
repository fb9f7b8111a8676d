import Bindwright.Proofs.Member.Classification
import Bindwright.Proofs.Member.FieldName
import Bindwright.Run.Rendering

namespace Bindwright

open Traversal

/-- The line of a member's field, with the type of the member's shape. -/
def StructureFile.IsField (f : StructureFile) (m : Member) (line : String) : Prop :=
  ∃ c ∈ f.members, c.member = m ∧ line =
    "    pub " ++ memberFieldName m.name ++ ": " ++ c.shape.valueType (f.site c) ++ ",\n"

def IsAccessor (m : Member) (method : String) : Prop :=
  ∃ start rest, "fn ".toList <:+ start.toList ∧
    method = start ++ memberFieldName m.name ++ "(&self) -> " ++ rest

/-- Between `opening` and `closing` the text has one piece for each member. -/
def Lists (text opening closing : String) (piece : Member → String → Prop)
    (members : List Member) : Prop :=
  ∃ before pieces after, List.Forall₂ piece members pieces ∧
    text = before ++ opening ++ String.join pieces ++ closing ++ after

def Classifies (m : Member) (c : ClassifiedMember) : Prop :=
  c.member = m ∧ c.field = memberFieldName m.name

namespace NativeType

variable {t : NativeType} {r : Registry} {b : Bindings}

theorem classifies_of_classifyMember {bound : Table String MemberBinding} {m : Member}
    {c : ClassifiedMember} (ok : t.classifyMember bound r b m = .ok c) : Classifies m c := by
  obtain ⟨member, field, -⟩ := classifyMember_ok ok
  exact ⟨member, field⟩

end NativeType

namespace Rendering

variable {b : Bindings} {r : Registry} {date : String} {q : Request}

theorem classifies_of_classifiedMembers {t : NativeType} {cs : List ClassifiedMember}
    (ok : classifiedMembers b r t = .ok cs) :
    ∃ members, t.declaredMembers = .ok members ∧ List.Forall₂ Classifies members cs := by
  obtain ⟨members, declared, ok⟩ := bind_eq_ok_iff.1 ok
  obtain ⟨bound, -, ok⟩ := bind_eq_ok_iff.1 ok
  obtain ⟨matched, -, ok⟩ := bind_eq_ok_iff.1 ok
  exact ⟨members, declared, (mapM_eq_ok_iff.1 ok).imp fun _ _ => t.classifies_of_classifyMember⟩

theorem structureFile_ok {f : StructureFile} (ok : structureFile b r date q = .ok f) :
    nativeType b q = .ok f.native ∧ f.name = q.destination.name ∧
      ∃ members, f.native.declaredMembers = .ok members ∧
        List.Forall₂ Classifies members f.members := by
  obtain ⟨t, native, ok⟩ := bind_eq_ok_iff.1 ok
  obtain ⟨cs, classified, ok⟩ := bind_eq_ok_iff.1 ok
  cases ok
  exact ⟨native, rfl, classifies_of_classifiedMembers classified⟩

theorem classifyMember_of_mem_members {f : StructureFile} (ok : structureFile b r date q = .ok f)
    {c : ClassifiedMember} (member : c ∈ f.members) :
    ∃ members bound, f.native.declaredMembers = .ok members ∧ c.member ∈ members ∧
      f.native.classifyMember bound r b c.member = .ok c := by
  obtain ⟨t, -, ok⟩ := bind_eq_ok_iff.1 ok
  obtain ⟨cs, classified, ok⟩ := bind_eq_ok_iff.1 ok
  cases ok
  obtain ⟨members, declared, classified⟩ := bind_eq_ok_iff.1 classified
  obtain ⟨bound, -, classified⟩ := bind_eq_ok_iff.1 classified
  obtain ⟨matched, -, classified⟩ := bind_eq_ok_iff.1 classified
  obtain ⟨m, inside, accepted⟩ := exists_of_mem_mapM classified member
  have own : c.member = m := (NativeType.classifyMember_ok accepted).1
  rw [← own] at inside accepted
  exact ⟨members, bound, declared, inside, accepted⟩

theorem render_wrapper_ok {rendered : Rendered} (wrapper : q.product = .wrapper)
    (ok : render b r date q = .ok rendered) :
    ∃ f, structureFile b r date q = .ok f ∧ rendered = ⟨f.text, f.exports⟩ := by
  simp only [render, ConstantsFile.ofRequest?, wrapper] at ok
  obtain ⟨f, file, ok⟩ := bind_eq_ok_iff.1 ok
  exact ⟨f, file, (Except.ok.inj ok).symm⟩

end Rendering

namespace IsAccessor

variable {m : Member} {method : String}

theorem intro {start field : String} (ends : "fn ".toList <:+ start.toList)
    (same : field = memberFieldName m.name) :
    IsAccessor m (start ++ field ++ "(&self) -> ") :=
  ⟨start, "", ends, by rw [same, String.append_empty]⟩

theorem append (accessor : IsAccessor m method) (more : String) :
    IsAccessor m (method ++ more) := by
  obtain ⟨start, rest, ends, rfl⟩ := accessor
  exact ⟨start, rest ++ more, ends, by simp only [String.append_assoc]⟩

end IsAccessor

namespace Lists

variable {text opening closing : String} {piece : Member → String → Prop} {members : List Member}

theorem intro (before a b c closing : String) {pieces : List String}
    (each : List.Forall₂ piece members pieces) :
    Lists (before ++ a ++ b ++ c ++ String.join pieces ++ closing) (a ++ b ++ c) closing piece
      members :=
  ⟨before, pieces, "", each, by rw [String.append_empty]; simp only [String.append_assoc]⟩

theorem append_right (lists : Lists text opening closing piece members) (more : String) :
    Lists (text ++ more) opening closing piece members := by
  obtain ⟨before, pieces, after, each, rfl⟩ := lists
  exact ⟨before, pieces, after ++ more, each, by simp only [String.append_assoc]⟩

theorem append_left (lists : Lists text opening closing piece members) (more : String) :
    Lists (more ++ text) opening closing piece members := by
  obtain ⟨before, pieces, after, each, rfl⟩ := lists
  exact ⟨more ++ before, pieces, after, each, by simp only [String.append_assoc]⟩

end Lists

namespace StructureFile

variable {f : StructureFile} {members : List Member}

theorem isAccessor_viewMethod {m : Member} {c : ClassifiedMember} (classifies : Classifies m c) :
    IsAccessor m (f.viewMethod c) := by
  unfold viewMethod
  dsimp only
  split
  · have ends : "fn ".toList <:+ "    pub unsafe fn ".toList := by decide
    iterate 6 apply IsAccessor.append
    refine .intro ?_ classifies.2
    rw [String.toList_append]
    exact ends.trans (List.suffix_append _ _)
  · have ends : "fn ".toList <:+ "\n    pub fn ".toList := by decide
    iterate 6 apply IsAccessor.append
    exact .intro ends classifies.2

theorem lists_fields (classifies : List.Forall₂ Classifies members f.members) :
    Lists f.text ("pub struct " ++ f.name ++ " \x7b\n") "\x7d\n" f.IsField members := by
  have inside : List.Forall₂ (fun m c => c ∈ f.members ∧ Classifies m c) members f.members :=
    ((List.forall₂_and_left _ _).2 ⟨fun _ member => member, classifies.flip⟩).flip
  have struct : Lists f.valueStruct ("pub struct " ++ f.name ++ " \x7b\n") "\x7d\n" f.IsField
      members := by
    refine .intro _ _ _ _ _ ?_
    rw [fields, List.map_map, List.forall₂_map_right_iff]
    exact inside.imp fun m c same => ⟨c, same.1, same.2.1, by rw [Function.comp_apply, same.2.2]⟩
  -- Everything after the struct is put aside, then what stands before it.
  unfold text
  iterate 8 apply Lists.append_right
  exact struct.append_left _

theorem lists_accessors (classifies : List.Forall₂ Classifies members f.members) :
    Lists f.text (f.name ++ "::of(self.raw)\n" ++ "    \x7d\n") "\x7d\n" IsAccessor members := by
  have each : List.Forall₂ IsAccessor members (f.members.map f.viewMethod) := by
    rw [List.forall₂_map_right_iff]
    exact classifies.imp fun m c same => isAccessor_viewMethod same
  have view : Lists f.view (f.name ++ "::of(self.raw)\n" ++ "    \x7d\n") "\x7d\n"
      IsAccessor members := .intro _ _ _ _ _ each
  unfold text
  exact (view.append_left _).append_right _

end StructureFile

theorem nodup_fields_iff (members : List Member) :
    (members.map fun m => memberFieldName m.name).Nodup ↔
      members.Pairwise fun m other => ¬FieldsClash m.name other.name := by
  simp only [List.Nodup, List.pairwise_map, ne_eq, memberFieldName_eq_iff]

namespace Rendering

variable {b : Bindings} {r : Registry} {date : String} {q : Request}

/-- A structure that is rendered has one field and one accessor for each declared member, in the
order of the members. None of them bears the name of one of the view's own methods, and they differ
exactly if no two members clash. -/
theorem render_wrapper_fields {rendered : Rendered} (wrapper : q.product = .wrapper)
    (ok : render b r date q = .ok rendered) :
    ∃ f members, structureFile b r date q = .ok f ∧ nativeType b q = .ok f.native ∧
      f.native.declaredMembers = .ok members ∧
      Lists rendered.text ("pub struct " ++ q.destination.name ++ " \x7b\n") "\x7d\n" f.IsField
        members ∧
      Lists rendered.text (q.destination.name ++ "::of(self.raw)\n" ++ "    \x7d\n") "\x7d\n"
        IsAccessor members ∧
      (∀ m ∈ members, memberFieldName m.name ∉ viewMethods) ∧
      ((members.map fun m => memberFieldName m.name).Nodup ↔
        members.Pairwise fun m other => ¬FieldsClash m.name other.name) := by
  obtain ⟨f, file, rfl⟩ := render_wrapper_ok wrapper ok
  obtain ⟨native, name, members, declared, classifies⟩ := structureFile_ok file
  rw [← name]
  exact ⟨f, members, file, native, declared, f.lists_fields classifies, f.lists_accessors classifies,
    fun m _ => memberFieldName_not_mem_viewMethods m.name, nodup_fields_iff members⟩

def pairOf (first second : String) : NativeType :=
  { name := "VkSample", path := "crate::sys::VkSample"
    documentation := "\x7b@snippet : struct VkSample \x7b uint32_t " ++ first ++ "; uint32_t " ++
      second ++ "; \x7d; \x7d"
    documentationLine := 1
    accessors := [first, second].flatMap fun member =>
      [⟨member ++ "_get", [Support.segment], some "u32", .unknown⟩,
        ⟨member ++ "_set", [Support.segment, "u32"], none, .unknown⟩]
    hasLayout := true, location := .unknown }

def pairBindings (first second : String) : Bindings :=
  { types := [("crate::sys", pairOf first second)]
    functionPointers := [], constants := [], layouts := [], headerModule := "crate::sys::vulkan_h"
    separator := '_' }

def pairRequest : Request :=
  ⟨"VkSample", "crate::sys", ⟨"crate::vk", "Sample"⟩, .wrapper, .unknown⟩

theorem render_wrapper_fields_respelled :
    ∃ (rendered : Rendered) (f : StructureFile) (members : List Member),
      render (pairBindings "new" "type") (.withMaterialized []) "" pairRequest = .ok rendered ∧
      Lists rendered.text "pub struct Sample \x7b\n" "\x7d\n" f.IsField members ∧
      Lists rendered.text "Sample::of(self.raw)\n    \x7d\n" "\x7d\n" IsAccessor members ∧
      members.map (fun m => memberFieldName m.name) = ["new_field", "r#type"] := by
  obtain ⟨rendered, ok⟩ := exists_of_isOk (x := render (pairBindings "new" "type")
    (.withMaterialized []) "" pairRequest) (by decide +kernel)
  obtain ⟨f, members, -, native, declared, fields, accessors, -⟩ := render_wrapper_fields rfl ok
  have named : (pairOf "new" "type").declaredMembers.map
      (·.map fun m => memberFieldName m.name) = .ok ["new_field", "r#type"] := by decide +kernel
  rw [← Except.ok.inj native] at declared
  rw [declared] at named
  exact ⟨rendered, f, members, ok, fields, accessors, Except.ok.inj named⟩

/-- Names that differ can have the same name in snake case. -/
theorem render_repeats_field :
    (render (pairBindings "maxWidth" "max_width") (.withMaterialized []) "" pairRequest).isOk ∧
      (pairOf "maxWidth" "max_width").declaredMembers.map (·.map (·.name)) =
        .ok ["maxWidth", "max_width"] ∧
      memberFieldName "maxWidth" = "max_width" ∧ memberFieldName "max_width" = "max_width" := by
  decide +kernel

end Rendering
end Bindwright
