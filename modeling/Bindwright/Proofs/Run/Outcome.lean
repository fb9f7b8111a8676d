import Bindwright.Proofs.Traversal
import Bindwright.Run.Generation

namespace Bindwright

open Traversal

def Recoverable {α : Type} (x : Except Failure α) : Prop := ∀ f, x = .error f → f.isFatal = false

namespace Recoverable

variable {α β : Type}

theorem ok (a : α) : Recoverable (.ok a) := nofun

theorem error {f : Failure} (mild : f.isFatal = false) :
    Recoverable (.error f : Except Failure α) := by
  intro f' same
  cases same
  exact mild

theorem bind {x : Except Failure α} {next : α → Except Failure β} (first : Recoverable x)
    (rest : ∀ a, Recoverable (next a)) : Recoverable (x >>= next) := by
  cases x with
  | error f => exact error (first f rfl)
  | ok a => exact rest a

theorem foldlM {step : β → α → Except Failure β} (each : ∀ b a, Recoverable (step b a))
    (as : List α) (start : β) : Recoverable (as.foldlM step start) := by
  induction as generalizing start with
  | nil => exact ok start
  | cons a as ih =>
    rw [List.foldlM_cons]
    exact (each start a).bind ih

theorem mapM {f : α → Except Failure β} (each : ∀ a, Recoverable (f a)) (as : List α) :
    Recoverable (as.mapM f) := by
  induction as with
  | nil =>
    rw [List.mapM_nil]
    exact ok []
  | cons a as ih =>
    rw [List.mapM_cons]
    exact (each a).bind fun b => ih.bind fun bs => ok (b :: bs)

end Recoverable

namespace NativeType

variable (t : NativeType) (r : Registry) (b : Bindings) (m : Member)

theorem recoverable_declaredMembers : Recoverable t.declaredMembers := by
  unfold declaredMembers
  split
  · exact .error rfl
  · split
    · exact .ok _
    · exact .error rfl

theorem recoverable_bindings (separator : Char) : Recoverable (t.bindings separator) := by
  refine .foldlM (fun bound a => ?_) _ _
  unfold bindAccessor
  split
  · exact .ok _
  · split
    · exact .error rfl
    · exact .ok _

theorem recoverable_matchMembers (members : List Member) (bound : Table String MemberBinding) :
    Recoverable (t.matchMembers members bound) := by
  unfold matchMembers
  split
  · exact .error rfl
  · split
    · exact .error rfl
    · exact .ok _

theorem recoverable_mappedShape (mapping : Mapping) : Recoverable (t.mappedShape m r mapping) := by
  cases mapping with
  | flagBits native flags =>
    simp only [mappedShape]
    split
    · exact .ok _
    · split
      · exact .ok _
      · exact .error rfl
    · exact .error rfl
  | _ => exact .ok _

theorem recoverable_arrayShape : Recoverable (t.arrayShape m r b) := by
  unfold arrayShape
  split_ifs
  · exact .ok _
  · exact .ok _
  · exact .ok _
  · split
    · exact .ok _
    · split
      · exact .ok _
      · split
        · exact .error rfl
        · exact .ok _

theorem recoverable_shapeOf (rawType : String) : Recoverable (t.shapeOf m rawType r b) := by
  unfold shapeOf
  split
  · split
    · exact t.recoverable_mappedShape r m _
    · exact .ok _
  · split
    · exact .ok _
    · exact .ok _
  · exact .ok _
  · exact t.recoverable_arrayShape r b m
  · exact .error rfl

theorem recoverable_checkAccessors (separator : Char) (binding : MemberBinding)
    (expected : AccessorKind) : Recoverable (t.checkAccessors separator m binding expected) := by
  unfold checkAccessors
  split
  · exact .error rfl
  · split
    · exact .error rfl
    · exact .ok _

theorem recoverable_classifyMember (bound : Table String MemberBinding) :
    Recoverable (t.classifyMember bound r b m) := by
  unfold classifyMember
  split
  · exact .error rfl
  · refine (t.recoverable_shapeOf r b m _).bind fun shape => ?_
    exact (t.recoverable_checkAccessors m _ _ _).bind fun _ => .ok _

end NativeType

namespace Rendering

variable (b : Bindings) (r : Registry) (date : String) (q : Request)

theorem recoverable_nativeType : Recoverable (nativeType b q) := by
  unfold nativeType
  split
  · exact .ok _
  · exact .error rfl

theorem recoverable_classifiedMembers (t : NativeType) : Recoverable (classifiedMembers b r t) :=
  t.recoverable_declaredMembers.bind fun members =>
    (t.recoverable_bindings b.separator).bind fun bound =>
      (t.recoverable_matchMembers members bound).bind fun _ =>
        .mapM (t.recoverable_classifyMember r b · bound) members

theorem recoverable_structureFile : Recoverable (structureFile b r date q) :=
  (recoverable_nativeType b q).bind fun t =>
    (recoverable_classifiedMembers b r t).bind fun _ => .ok _

theorem recoverable_render : Recoverable (render b r date q) := by
  unfold render
  split
  · exact .ok _
  · exact (recoverable_structureFile b r date q).bind fun _ => .ok _

end Rendering

namespace Generation

def artifact? (b : Bindings) (r : Registry) (out date : String) (q : Request) : Option Artifact :=
  match Rendering.render b r date q with
  | .ok rendered =>
    some ⟨q.native, q.destination.module, rendered.exports, outputPath out q.destination⟩
  | .error _ => none

def report? (b : Bindings) (r : Registry) (date : String) (q : Request) : Option Diagnostic :=
  match Rendering.render b r date q with
  | .ok _ => none
  | .error f => some (.ofFailure f)

def unwritten (path : String) : Failure := .inputOutput ("cannot write " ++ path)

variable (b : Bindings) (r : Registry) (out date : String)

theorem step_cases (p : Progress) (q : Request) :
    step b r out date p q = (p, some (unwritten (outputPath out q.destination))) ∨
      ∃ p', step b r out date p q = (p', none) ∧
        p'.written = p.written ++ (artifact? b r out date q).toList ∧
        p'.diagnostics = p.diagnostics ++ (report? b r date q).toList := by
  unfold step artifact? report?
  cases rendering : Rendering.render b r date q with
  | error f =>
    have mild := Rendering.recoverable_render b r date q f rendering
    exact .inr ⟨{ p with diagnostics := p.diagnostics ++ [.ofFailure f] }, by simp [mild]⟩
  | ok rendered =>
    cases write : p.tree.write? (outputPath out q.destination) rendered.text with
    | none => exact .inl (by simp only [write, unwritten])
    | some tree =>
      simp only [write]
      exact .inr ⟨_, rfl, rfl, by simp⟩

theorem steps_cases (qs : List Request) (p : Progress) :
    (∃ p' path, steps b r out date p qs = (p', some (unwritten path))) ∨
      ∃ p', steps b r out date p qs = (p', none) ∧
        p'.written = p.written ++ qs.filterMap (artifact? b r out date) ∧
        p'.diagnostics = p.diagnostics ++ qs.filterMap (report? b r date) := by
  induction qs generalizing p with
  | nil => exact .inr ⟨p, rfl, by simp, by simp⟩
  | cons q qs ih =>
    rcases step_cases b r out date p q with failed | ⟨next, stepped, written, reported⟩
    · exact .inl ⟨p, outputPath out q.destination, by simp only [steps, failed]⟩
    · simp only [steps, stepped, List.filterMap_eq_flatMap_toList, List.flatMap_cons] at ih ⊢
      rcases ih next with failed | ⟨p', rest, written', reported'⟩
      · exact .inl failed
      · refine .inr ⟨p', rest, ?_, ?_⟩
        · rw [written', written, List.append_assoc]
        · rw [reported', reported, List.append_assoc]

-- The path of an index is not to be computed where the list is unfolded.
attribute [local irreducible] FileTree.write? in
theorem writeIndexes_cons (artifacts : List Artifact) (tree : FileTree) (module : String)
    (rest : List String) :
    writeIndexes out artifacts tree (module :: rest) =
      match tree.write? (indexPath out module) (Index.text module artifacts) with
      | none => (tree, .error (unwritten (indexPath out module)))
      | some next =>
        ((writeIndexes out artifacts next rest).1,
          (writeIndexes out artifacts next rest).2.map (indexPath out module :: ·)) := rfl

theorem writeIndexes_cases (artifacts : List Artifact) (names : List String) (tree : FileTree) :
    (∃ tree' path, writeIndexes out artifacts tree names = (tree', .error (unwritten path))) ∨
      ∃ tree', writeIndexes out artifacts tree names = (tree', .ok (names.map (indexPath out))) := by
  induction names generalizing tree with
  | nil => exact .inr ⟨tree, rfl⟩
  | cons module names ih =>
    rw [writeIndexes_cons]
    cases write : tree.write? (indexPath out module) (Index.text module artifacts) with
    | none => exact .inl ⟨tree, indexPath out module, rfl⟩
    | some next =>
      dsimp only
      rcases ih next with ⟨tree', path, failed⟩ | ⟨tree', rest⟩
      · exact .inl ⟨tree', path, by rw [failed]; rfl⟩
      · exact .inr ⟨tree', by rw [rest]; rfl⟩

variable {b r out date} in
theorem run_eq_ok {start : Progress}
    (writes : ∀ path, (run b r out date start).2 ≠ .error (unwritten path)) :
    ∃ p, run b r out date start = (p, .ok ((modules p.written).map (indexPath out))) ∧
      p.written = start.written ++ (inOrder r.requests).filterMap (artifact? b r out date) ∧
      p.diagnostics = start.diagnostics ++ (inOrder r.requests).filterMap (report? b r date) := by
  unfold run at writes ⊢
  rcases steps_cases b r out date (inOrder r.requests) start with
    ⟨p, path, failed⟩ | ⟨p, done, written, reported⟩
  · exact absurd (by rw [failed]) (writes path)
  · simp only [done] at writes ⊢
    rcases writeIndexes_cases out p.written (modules p.written) p.tree with
      ⟨tree, path, failed⟩ | ⟨tree, indexed⟩
    · exact absurd (by rw [failed]) (writes path)
    · exact ⟨{ p with tree }, by rw [indexed], written, reported⟩

theorem mem_inOrder_iff {q : Request} {qs : List Request} : q ∈ inOrder qs ↔ q ∈ qs := by
  simp only [inOrder, List.mem_append, List.mem_filter, decide_eq_true_eq, ← and_or_left]
  exact and_iff_left (ne_or_eq q.product .wrapper)

end Generation
end Bindwright
