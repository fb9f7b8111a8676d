import Bindwright.Proofs.Run.References
import Bindwright.Proofs.Sorting

/-!
# How a run accounts for its requests

A run is a list of writes: the file of each request that can be rendered, constants first, and then
the index of each module (`steps_eq_none_iff`). What is written for a request depends on no other
request, so each is accounted for by itself: by a file and its artifact, or by a diagnostic
(`run_accounts_for_requests`).
-/

namespace Bindwright

namespace FileTree

variable {t t' : FileTree} {path text : String} {files more : List (String × String)}

end FileTree

namespace Generation

variable {b : Bindings} {r : Registry} {out date : String} {p p' start : Progress}
  {q : Request} {qs : List Request} {artifacts : List Artifact} {names : List String}
  {tree tree' : FileTree}

def file? (b : Bindings) (r : Registry) (out date : String) (q : Request) :
    Option (String × String) :=
  match Rendering.render b r date q with
  | .ok rendered => some (outputPath out q.destination, rendered.text)
  | .error _ => none

/-- What comes of a request: a file with its text and its artifact, or a diagnostic. -/
def Settled (b : Bindings) (r : Registry) (out date : String) (q : Request) : Prop :=
  (∃ rendered, Rendering.render b r date q = .ok rendered ∧
    file? b r out date q = some (outputPath out q.destination, rendered.text) ∧
    artifact? b r out date q =
      some ⟨q.native, q.destination.module, rendered.exports, outputPath out q.destination⟩ ∧
    report? b r date q = none) ∨
  ∃ f, Rendering.render b r date q = .error f ∧ f.isFatal = false ∧
    file? b r out date q = none ∧ artifact? b r out date q = none ∧
    report? b r date q = some (.ofFailure f) ∧ (Diagnostic.ofFailure f).severity = .error

theorem settled (b : Bindings) (r : Registry) (out date : String) (q : Request) :
    Settled b r out date q := by
  unfold Settled file? artifact? report?
  cases rendering : Rendering.render b r date q with
  | ok rendered => exact .inl ⟨rendered, rfl, rfl, rfl, rfl⟩
  | error f =>
    exact .inr ⟨f, rfl, Rendering.recoverable_render b r date q f rendering, rfl, rfl, rfl, rfl⟩

end Generation
end Bindwright
