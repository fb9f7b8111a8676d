import Bindwright.Emit.MemberCode
import Bindwright.Proofs.Member.Classification

namespace Bindwright

open Traversal

@[simp] theorem Code.calls_cast (c : Code) (source target : String) :
    (c.cast source target).calls = c.calls := by
  unfold Code.cast
  split
  · rfl
  · simp

namespace MemberSite

variable (site : MemberSite)

def accessor (kind : AccessorKind) : String := accessorName site.member site.separator kind.word

@[simp] theorem calls_get (raw : String) : (site.get raw).calls = [site.accessor .get] := rfl

@[simp] theorem calls_slice (raw : String) : (site.slice raw).calls = [site.accessor .slice] := rfl

@[simp] theorem calls_set (destination : String) (value : Code) :
    (site.set destination value).calls =
      setterName site.member site.separator :: value.calls := by
  simp [set, Code.calls]

end MemberSite

namespace MemberShape

variable (s : MemberShape) (site : MemberSite)

theorem calls_read (raw : String) :
    (s.read site raw).calls = if s = .nextChain then [] else [site.accessor s.accessorKind] := by
  cases s with
  | nextChain => rfl
  | _ => simp [read, accessorKind]

theorem calls_write (destination allocator : String) :
    (s.write site destination allocator).calls =
      match s.accessorKind with
      | .slice => [site.accessor .slice]
      | .get =>
        setterName site.member site.separator ::
          if s = .nextChain then [site.accessor .get] else [] := by
  cases s <;> simp [write, accessorKind, Code.calls]

theorem calls_chainWalk {raw : String} {walk : Code} (walks : s.chainWalk? site raw = some walk) :
    s = .nextChain ∧ walk.calls = [site.accessor .get] := by
  cases s with
  | nextChain =>
    cases walks
    exact ⟨rfl, by simp⟩
  | _ => cases walks

end MemberShape

namespace NativeType

variable {t : NativeType} {r : Registry} {b : Bindings}

/-- Whatever else the code of a classified member is made of, its calls are those of the accessor
that the member is bound to, which takes one segment, and of the setter beside a getter. -/
theorem classified_calls_are_bound {bound : Table String MemberBinding} {members : List Member}
    {cs : List ClassifiedMember} (resolved : t.bindings b.separator = .ok bound)
    (classified : t.classify bound r b members = .ok cs) :
    ∀ c ∈ cs, ∀ site : MemberSite, site.member = c.member.name → site.separator = b.separator →
      (∃ a ∈ t.accessors, a.name = c.binding.accessor ∧ a.takesSegment = true) ∧
      c.binding.accessor = accessorName c.member.name b.separator c.shape.accessorKind.word ∧
      (c.shape.accessorKind = .get →
        ∃ a ∈ t.accessors, a.name = accessorName c.member.name b.separator "set") ∧
      (∀ raw, (c.shape.read site raw).calls =
        if c.shape = .nextChain then [] else [c.binding.accessor]) ∧
      (∀ raw walk, c.shape.chainWalk? site raw = some walk →
        c.shape.accessorKind = .get ∧ walk.calls = [c.binding.accessor]) ∧
      ∀ destination allocator, (c.shape.write site destination allocator).calls =
        match c.shape.accessorKind with
        | .slice => [c.binding.accessor]
        | .get =>
          accessorName c.member.name b.separator "set" ::
            if c.shape = .nextChain then [c.binding.accessor] else [] := by
  intro c member site own separator
  obtain ⟨m, -, accepted⟩ := exists_of_mem_mapM classified member
  obtain ⟨rfl, -, found, -, kind, setter⟩ := classifyMember_ok accepted
  obtain ⟨a, present, reads⟩ := find?_bindings resolved found
  -- The name that the code is made with is the one that was cut into member and kind.
  have accessor : site.accessor c.shape.accessorKind = c.binding.accessor := by
    rw [MemberSite.accessor, own, separator, reads.recorded, reads.named, kind]
  refine ⟨⟨a, present, reads.recorded.symm, reads.takesSegment⟩, ?_, setter, fun raw => ?_, ?_, ?_⟩
  · rw [reads.recorded, reads.named, kind]
  · rw [MemberShape.calls_read, accessor]
  · intro raw walk walks
    obtain ⟨chain, calls⟩ := MemberShape.calls_chainWalk _ _ walks
    have getter : c.shape.accessorKind = .get := by rw [chain]; rfl
    rw [getter] at accessor
    exact ⟨getter, calls.trans (congrArg ([·]) accessor)⟩
  · intro destination allocator
    rw [MemberShape.calls_write, own, separator]
    cases style : c.shape.accessorKind with
    | slice => simp only [← accessor, style]
    | get => simp only [← accessor, style, setterName]

def separated : NativeType :=
  { name := "VkSample", path := "crate::sys::VkSample", documentation := "", documentationLine := 1
    accessors :=
      [⟨"max_get_get", ["lawu_runtime::Segment"], some "u32", .unknown⟩,
       ⟨"max_get_set", ["lawu_runtime::Segment", "u32"], none, .unknown⟩,
       ⟨"a_label_slice", ["lawu_runtime::Segment"], some "lawu_runtime::Segment", .unknown⟩]
    hasLayout := true, location := .unknown }

def separatedLayer : Bindings :=
  { types := [], functionPointers := [], constants := [], layouts := []
    headerModule := "crate::sys::vulkan_h", separator := '_' }

def separatedMembers : List Member :=
  [⟨"max_get", "uint32_t", .value, .start⟩, ⟨"a_label", "char", .array .value, .start⟩]

theorem classified_calls_are_bound_separated :
    ∃ bound cs, separated.bindings '_' = .ok bound ∧
      separated.classify bound (.withMaterialized []) separatedLayer separatedMembers = .ok cs ∧
      cs.map (·.binding.accessor) = ["max_get_get", "a_label_slice"] ∧
      ∀ c ∈ cs, ∀ site : MemberSite, site.member = c.member.name → site.separator = '_' →
        ∀ destination allocator, (c.shape.write site destination allocator).calls =
          match c.shape.accessorKind with
          | .slice => [c.binding.accessor]
          | .get =>
            accessorName c.member.name '_' "set" ::
              if c.shape = .nextChain then [c.binding.accessor] else [] := by
  obtain ⟨bound, resolved⟩ := exists_of_isOk (x := separated.bindings '_') (by decide)
  have accessors : (separated.bindings '_').bind (fun bound =>
      (separated.classify bound (.withMaterialized []) separatedLayer separatedMembers).map
        (·.map (·.binding.accessor))) = .ok ["max_get_get", "a_label_slice"] := by
    decide
  simp only [resolved, Except.bind] at accessors
  cases classified : separated.classify bound (.withMaterialized []) separatedLayer
      separatedMembers with
  | error failure => rw [classified] at accessors; cases accessors
  | ok cs =>
    rw [classified] at accessors
    refine ⟨bound, cs, resolved, classified, Except.ok.inj accessors, ?_⟩
    intro c member site own separator
    obtain ⟨-, -, -, -, -, writes⟩ := classified_calls_are_bound (b := separatedLayer) resolved
      classified c member site own separator
    exact writes

end NativeType
end Bindwright
