import Bindwright.Config.Settings
import Bindwright.Registry.Header
import Bindwright.Source.Existing

namespace Bindwright

/-- What a run is asked to do with the bindings. -/
structure Plan where
  overrides : List Override
  scanned : List ScannedMapping
  materialized : List String
  directives : List Directive
  headerDestination : Option String

namespace Population

abbrev State := Registry × List Diagnostic

def report (s : State) (outcome : Registry × Option Failure)
    (explain : Failure → Diagnostic) : State :=
  (outcome.1, s.2 ++ (outcome.2.map explain).toList)

def addOverride (s : State) (o : Override) : State :=
  report s (s.1.addMapping o.native o.target) .ofFailure

def addScanned (s : State) (m : ScannedMapping) : State :=
  report s (s.1.addMapping m.key m.path) fun f =>
    { Diagnostic.ofFailure f with location := m.location }

def addFunctionPointer (s : State) (p : FunctionPointer) : State :=
  report s (s.1.addFunctionPointer p.name p.path) .ofFailure

def addHeader (b : Bindings) (s : State) (destination : String) : State :=
  let (r, failures) := s.1.addHeader b destination
  (r, s.2 ++ failures.map .ofFailure)

def structureRequest (d : Directive) (t : NativeType) : Request :=
  ⟨t.name, d.source, ⟨d.destination, Naming.structureName t.name⟩, .wrapper, t.location⟩

def addStructure (s : State) (q : Request) : State := report s (s.1.addRequest q) .ofFailure

def functionPointers (b : Bindings) (ds : List Directive) : List FunctionPointer :=
  ds.flatMap fun d =>
    (b.functionPointersIn d.source).filter (Naming.isCoreFunctionPointerName ·.name)

def structureRequests (b : Bindings) (ds : List Directive) : List Request :=
  ds.flatMap fun d =>
    ((b.typesIn d.source).filter fun t => Naming.isCoreName t.name && t.hasLayout).map
      (structureRequest d)

/-- The registry of a run, and what was rejected on the way, followed by the registry's notes. -/
def populate (b : Bindings) (p : Plan) : Registry × List Diagnostic :=
  let s : State := (Registry.withMaterialized p.materialized, [])
  let s := p.overrides.foldl addOverride s
  let s := p.scanned.foldl addScanned s
  let s := (functionPointers b p.directives).foldl addFunctionPointer s
  let s := p.headerDestination.toList.foldl (addHeader b) s
  let (r, reported) := (structureRequests b p.directives).foldl addStructure s
  let (notes, r) := r.takeNotes
  (r, reported ++ notes)

end Population
end Bindwright
