import Bindwright.Proofs.Emit.Fields
import Bindwright.Proofs.Run.Outcome
import Bindwright.Proofs.Run.Outputs

namespace Bindwright

open Traversal

namespace MemberShape

def target? : MemberShape → Option String
  | mappedValue target | mappedArray target | flagSet target | enumValue target _ | flagBit target =>
    some target
  | _ => none

def holdsConstants : MemberShape → Bool
  | flagSet _ | enumValue .. => true
  | _ => false

theorem target_mem_requirements {s : MemberShape} {path : String} (refers : s.target? = some path)
    (rawType : String) : path ∈ s.requirements rawType := by
  cases s with
  | mappedValue | mappedArray | flagSet | enumValue | flagBit =>
    cases refers
    simp [requirements]
  | _ => cases refers

end MemberShape

namespace NativeType

variable {t : NativeType} {m : Member} {r : Registry} {b : Bindings} {s : MemberShape}

theorem holdsConstants_arrayShape (ok : t.arrayShape m r b = .ok s) : s.holdsConstants = false := by
  unfold arrayShape at ok
  split_ifs at ok
  · cases ok; rfl
  · cases ok; rfl
  · cases ok; rfl
  · split at ok
    · cases ok; rfl
    · split at ok
      · cases ok; rfl
      · split at ok
        · cases ok
        · cases ok
          split <;> rfl

theorem exists_request_of_mappedShape {mapping : Mapping} {path : String}
    (ok : t.mappedShape m r mapping = .ok s) (constants : s.holdsConstants = true)
    (refers : s.target? = some path) :
    ∃ q, mapping = .pending q ∧ q.product ≠ .wrapper ∧ q.destination.path = path := by
  cases mapping with
  | pending q =>
    cases ok
    cases product : q.product with
    | wrapper =>
      rw [product] at constants
      cases constants
    | constants group members valueType =>
      rw [product] at refers
      refine ⟨q, rfl, by rw [product]; exact nofun, ?_⟩
      cases group <;> exact Option.some.inj refers
  | flagBits native flags =>
    simp only [mappedShape] at ok
    split at ok
    · cases ok; cases constants
    · split at ok
      · cases ok; cases constants
      · cases ok
    · cases ok
  | _ => cases ok; cases constants

theorem exists_request_of_shapeOf {rawType path : String} (ok : t.shapeOf m rawType r b = .ok s)
    (constants : s.holdsConstants = true) (refers : s.target? = some path) :
    ∃ q, r.get? m.typeName = some (.pending q) ∧ q.product ≠ .wrapper ∧
      q.destination.path = path := by
  unfold shapeOf at ok
  split at ok
  · split at ok
    · rename_i mapping found
      rw [found]
      obtain ⟨q, rfl, rest⟩ := exists_request_of_mappedShape ok constants refers
      exact ⟨q, rfl, rest⟩
    · cases ok; cases constants
  · split at ok <;> cases ok <;> cases constants
  · cases ok; cases constants
  · rw [holdsConstants_arrayShape ok] at constants
    cases constants
  · cases ok

end NativeType

namespace Rendering

variable {b : Bindings} {r : Registry} {date : String} {q : Request} {f : StructureFile}

theorem shapeOf_of_mem_members (ok : structureFile b r date q = .ok f) {c : ClassifiedMember}
    (member : c ∈ f.members) :
    f.native.shapeOf c.member c.binding.rawType r b = .ok c.shape := by
  obtain ⟨members, bound, -, -, accepted⟩ := classifyMember_of_mem_members ok member
  obtain ⟨-, -, -, shaped, -⟩ := NativeType.classifyMember_ok accepted
  exact shaped

theorem render_eq_of_constants (constants : q.product ≠ .wrapper) :
    ∃ rendered, render b r date q = .ok rendered := by
  cases product : q.product with
  | wrapper => exact absurd product constants
  | constants group members valueType =>
    simp only [render, ConstantsFile.ofRequest?, product]
    exact ⟨_, rfl⟩

theorem render_eq_of_wrapper (wrapper : q.product = .wrapper) :
    render b r date q = (structureFile b r date q).map fun f => ⟨f.text, f.exports⟩ := by
  simp only [render, ConstantsFile.ofRequest?, wrapper]
  rfl

end Rendering

namespace Generation

open Population Rendering

def Emitted (out : String) (artifacts : List Artifact) (q : Request) : Prop :=
  ∃ a ∈ artifacts, a.native = q.native ∧ a.module = q.destination.module ∧
    a.path = outputPath out q.destination

section Artifacts

variable {b : Bindings} {r : Registry} {out date : String} {q : Request} {rendered : Rendered}
  {failure : Failure}

theorem emitted_of_render_ok (pending : q ∈ r.requests) (ok : render b r date q = .ok rendered) :
    Emitted out ((inOrder r.requests).filterMap (artifact? b r out date)) q := by
  let a : Artifact :=
    ⟨q.native, q.destination.module, rendered.exports, outputPath out q.destination⟩
  have recorded : artifact? b r out date q = some a := by rw [artifact?, ok]
  exact ⟨a, List.mem_filterMap.2 ⟨q, mem_inOrder_iff.2 pending, recorded⟩, by simp [a]⟩

theorem native_ne_of_render_error (consistent : r.Consistent) (pending : q ∈ r.requests)
    (failed : render b r date q = .error failure) :
    ∀ a ∈ (inOrder r.requests).filterMap (artifact? b r out date), a.native ≠ q.native := by
  intro a emitted same
  obtain ⟨q', listed, recorded⟩ := List.mem_filterMap.1 emitted
  have pending' := consistent.mem_requests_iff.1 (mem_inOrder_iff.1 listed)
  unfold artifact? at recorded
  split at recorded
  · rename_i rendering
    cases recorded
    have own := consistent.mem_requests_iff.1 pending
    rw [← same, pending'] at own
    cases own
    rw [rendering] at failed
    cases failed
  · cases recorded

theorem reported_of_render_error (pending : q ∈ r.requests)
    (failed : render b r date q = .error failure) :
    .ofFailure failure ∈ (inOrder r.requests).filterMap (report? b r date) :=
  List.mem_filterMap.2 ⟨q, mem_inOrder_iff.2 pending, by rw [report?, failed]⟩

end Artifacts

/-- A run whose files can all be written emits every request that is rendered. What the code of a
structure refers to is then emitted as well, unless it is another structure: that may have failed,
which is reported and does not hold up the first. -/
theorem references_emitted_or_reported (layer b : Bindings) (plan : Plan) (out date : String)
    (start : Progress)
    (writes : ∀ path, (run b (populate layer plan).1 out date start).2 ≠ .error (unwritten path)) :
    let r := (populate layer plan).1
    let artifacts := (inOrder r.requests).filterMap (artifact? b r out date)
    ∃ p indexes, run b r out date start = (p, .ok indexes) ∧
      p.written = start.written ++ artifacts ∧
      ∀ q ∈ r.requests, q.product = .wrapper → ∀ f, structureFile b r date q = .ok f →
        Emitted out artifacts q ∧
        ∀ c ∈ f.members, ∀ q' ∈ r.requests, c.shape.target? = some q'.destination.path →
          q'.destination.path ∈ f.requirements ∧
          (Emitted out artifacts q' ∨
            q'.product = .wrapper ∧ c.shape.holdsConstants = false ∧
              (∀ a ∈ artifacts, a.native ≠ q'.native) ∧
              ∃ failure, structureFile b r date q' = .error failure ∧
                .ofFailure failure ∈ p.diagnostics) := by
  intro r artifacts
  obtain ⟨p, ran, written, reported⟩ := run_eq_ok writes
  refine ⟨p, _, ran, written, fun q pending wrapper f file => ⟨?_, ?_⟩⟩
  · have rendering : render b r date q = .ok ⟨f.text, f.exports⟩ := by
      rw [render_eq_of_wrapper wrapper, file]
      rfl
    exact emitted_of_render_ok pending rendering
  intro c member q' pending' refers
  have consistent : r.Consistent := consistent_populate layer plan
  constructor
  · refine List.mem_append_right _ (List.mem_flatMap.2 ⟨c, member, ?_⟩)
    exact MemberShape.target_mem_requirements refers _
  · cases rendering : render b r date q' with
    | ok rendered => exact .inl (emitted_of_render_ok pending' rendering)
    | error failure =>
      have wrapper' : q'.product = .wrapper := by
        by_contra constants
        obtain ⟨rendered, ok⟩ : ∃ rendered, render b r date q' = .ok rendered :=
          render_eq_of_constants constants
        rw [ok] at rendering
        cases rendering
      refine .inr ⟨wrapper', ?_, native_ne_of_render_error consistent pending' rendering,
        failure, ?_, ?_⟩
      · -- A destination has one request, so a member that holds constants refers to no structure.
        by_contra constants
        rw [Bool.not_eq_false] at constants
        obtain ⟨q'', found, unlike, path⟩ :=
          NativeType.exists_request_of_shapeOf (shapeOf_of_mem_members file member) constants refers
        have own : q''.native = c.member.typeName := consistent.own _ _ found
        have same : q'' = q' := List.inj_on_of_nodup_map consistent.nodup_destinations
          (consistent.mem_requests_iff.2 (own ▸ found)) pending' path
        exact unlike (same ▸ wrapper')
      · rw [render_eq_of_wrapper wrapper'] at rendering
        cases file' : structureFile b r date q' with
        | error failure' =>
          rw [file'] at rendering
          cases rendering
          rfl
        | ok f' =>
          rw [file'] at rendering
          cases rendering
      · rw [reported]
        exact List.mem_append_right _ (reported_of_render_error pending' rendering)

def undeclaredMember : Bindings :=
  { NativeType.noBindings with
    types :=
      [("bindings", { emptyStructure "VkBroken" with documentation := "" }),
       ("bindings",
        { emptyStructure "VkHolder" with
          documentation := "\x7b@snippet : struct VkHolder \x7b VkBroken broken; \x7d; \x7d"
          accessors := [⟨"broken$slice", [Support.segment], some Support.segment, .unknown⟩] })] }

def untouched : Progress := ⟨.empty, [], []⟩

theorem isOk_run_undeclaredMember :
    (run undeclaredMember (populate undeclaredMember wrapAll).1 "out" "" untouched).2.isOk := by
  decide +kernel

theorem references_emitted_or_reported_undeclared :
    let r := (populate undeclaredMember wrapAll).1
    (∀ path, (run undeclaredMember r "out" "" untouched).2 ≠ .error (unwritten path)) ∧
      ∃ q ∈ r.requests, q.native = "VkHolder" ∧ ∃ q' ∈ r.requests, q'.native = "VkBroken" ∧
        ∃ f, structureFile undeclaredMember r "" q = .ok f ∧
          ∃ c ∈ f.members, c.shape.target? = some q'.destination.path ∧
            ∃ p indexes, run undeclaredMember r "out" "" untouched = (p, .ok indexes) ∧
              Emitted "out" p.written q ∧
              (Emitted "out" p.written q' ∨
                ∃ failure, structureFile undeclaredMember r "" q' = .error failure ∧
                  .ofFailure failure ∈ p.diagnostics) := by
  intro r
  have writes : ∀ path, (run undeclaredMember r "out" "" untouched).2 ≠ .error (unwritten path) := by
    intro path failed
    have done := isOk_run_undeclaredMember
    rw [failed] at done
    cases done
  let q : Request := structureRequest ⟨"bindings", "crate::vk"⟩ (emptyStructure "VkHolder")
  let q' : Request := structureRequest ⟨"bindings", "crate::vk"⟩ (emptyStructure "VkBroken")
  have pending : r.requests = [q', q] := by decide +kernel
  have member : q ∈ r.requests := by simp [pending]
  have member' : q' ∈ r.requests := by simp [pending]
  have shapes : (structureFile undeclaredMember r "" q).map (·.members.map (·.shape.target?)) =
      .ok [some q'.destination.path] := by decide +kernel
  cases file : structureFile undeclaredMember r "" q with
  | error failure => rw [file] at shapes; cases shapes
  | ok f =>
    rw [file] at shapes
    have targets : f.members.map (·.shape.target?) = [some q'.destination.path] :=
      Except.ok.inj shapes
    obtain ⟨c, inside, refers⟩ : ∃ c ∈ f.members, c.shape.target? = some q'.destination.path := by
      rw [← List.mem_map, targets, List.mem_singleton]
    obtain ⟨p, indexes, ran, written, references⟩ := references_emitted_or_reported
      undeclaredMember undeclaredMember wrapAll "out" "" untouched writes
    obtain ⟨emitted, referred⟩ := references q member rfl f file
    refine ⟨writes, q, member, rfl, q', member', rfl, f, file, c, inside, refers, p, indexes, ran, ?_⟩
    rw [written]
    refine ⟨emitted, ?_⟩
    rcases (referred c inside q' member' refers).2 with emitted' | ⟨-, -, -, reported⟩
    · exact .inl emitted'
    · exact .inr reported

/-- What refers to a type is written although the type's own file is not. -/
theorem run_leaves_dangling_reference :
    let r := (populate undeclaredMember wrapAll).1
    let outcome := run undeclaredMember r "out" "" untouched
    outcome.2.isOk ∧
      r.requests.map (fun q => (q.native, q.destination.path)) =
        [("VkBroken", "crate::vk::Broken"), ("VkHolder", "crate::vk::Holder")] ∧
      r.requests.map (fun q => (structureFile undeclaredMember r "" q).toOption.map fun f =>
        f.members.map (·.shape)) = [none, some [.mappedValue "crate::vk::Broken"]] ∧
      outcome.1.written.map (·.native) = ["VkHolder"] :=
  ⟨isOk_run_undeclaredMember, by decide +kernel⟩

end Generation
end Bindwright
