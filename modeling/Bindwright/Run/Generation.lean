import Bindwright.Config.Settings
import Bindwright.Emit.Index
import Bindwright.Naming.Casing
import Bindwright.Run.Population
import Bindwright.Run.Rendering
import Bindwright.Source.Existing
import Bindwright.Source.NativeBindings

namespace Bindwright

/-- Settings with what a configuration cannot say: the date of the run, the directory that a build
script is given, and the files that the settings came from. -/
structure Job where
  settings : Config.Settings
  date : String
  buildDirectory : Option String := none
  watched : List String := []

structure Report where
  written : List Artifact
  indexes : List String
  diagnostics : List Diagnostic
  instructions : List String

namespace Generation

structure Progress where
  tree : FileTree
  written : List Artifact
  diagnostics : List Diagnostic

def outputPath (out : String) (d : Destination) : String :=
  Files.join (Files.join out (moduleDirectory d.module)) (Naming.snakeCase d.name ++ ".rs")

def indexPath (out module : String) : String :=
  Files.join (Files.join out (moduleDirectory module)) "mod.rs"

/-- Handles one request: its file is written, or its failure reported. A failure to write ends the
run, as does every other fatal failure. -/
def step (b : Bindings) (r : Registry) (out date : String) (p : Progress) (q : Request) :
    Progress × Option Failure :=
  match Rendering.render b r date q with
  | .error f =>
    if f.isFatal then (p, some f)
    else ({ p with diagnostics := p.diagnostics ++ [.ofFailure f] }, none)
  | .ok rendered =>
    let path := outputPath out q.destination
    match p.tree.write? path rendered.text with
    | none => (p, some (.inputOutput ("cannot write " ++ path)))
    | some tree =>
      let artifact : Artifact := ⟨q.native, q.destination.module, rendered.exports, path⟩
      ({ p with tree, written := p.written ++ [artifact] }, none)

def steps (b : Bindings) (r : Registry) (out date : String) :
    Progress → List Request → Progress × Option Failure
  | p, [] => (p, none)
  | p, q :: qs =>
    match step b r out date p q with
    | (p, none) => steps b r out date p qs
    | (p, some f) => (p, some f)

/-- The requests in the order in which they are handled: constants first, then structures. -/
def inOrder (qs : List Request) : List Request :=
  qs.filter (·.product ≠ .wrapper) ++ qs.filter (·.product = .wrapper)

def modules (artifacts : List Artifact) : List String :=
  ((artifacts.map (·.module)).eraseDups).mergeSort fun a b => a ≤ b

def writeIndexes (out : String) (artifacts : List Artifact) :
    FileTree → List String → FileTree × Except Failure (List String)
  | tree, [] => (tree, .ok [])
  | tree, module :: rest =>
    let path := indexPath out module
    match tree.write? path (Index.text module artifacts) with
    | none => (tree, .error (.inputOutput ("cannot write " ++ path)))
    | some tree =>
      let (tree, paths) := writeIndexes out artifacts tree rest
      (tree, paths.map (path :: ·))

def run (b : Bindings) (r : Registry) (out date : String) (p : Progress) :
    Progress × Except Failure (List String) :=
  match steps b r out date p (inOrder r.requests) with
  | (p, some f) => (p, .error f)
  | (p, none) =>
    let (tree, indexes) := writeIndexes out p.written p.tree (modules p.written)
    ({ p with tree }, indexes)

def instructions (job : Job) (files : List String) (ds : List Diagnostic) : List String :=
  ((job.settings.bindings :: job.watched ++ job.settings.existingSources ++ files).map
      ("cargo:rerun-if-changed=" ++ ·)) ++
    (ds.filter (·.severity ≠ .note)).map fun d => "cargo:warning=" ++ d.text

def readNative (tree : FileTree) (s : Config.Settings) : Except Failure Bindings :=
  match tree.read? s.bindings with
  | none => .error (.inputOutput ("cannot read " ++ s.bindings))
  | some text => Source.readBindings text s.bindingsModule s.header.module (some s.bindings)

/-- Runs a job on a file tree. The tree is given back also where the run fails. -/
def perform (tree : FileTree) (job : Job) : FileTree × Except Failure Report :=
  let s := job.settings
  match s.outDirectory.or job.buildDirectory with
  | none => (tree, .error (.missingVariable "OUT_DIR"))
  | some out =>
    match readNative tree s with
    | .error f => (tree, .error f)
    | .ok b =>
      let existing := Source.ExistingTypes.below tree s.existingSources
      match existing.failure with
      | some f => (tree, .error f)
      | none =>
        let (r, ds) := Population.populate b
          { overrides := s.overrides
            scanned := existing.mappings
            materialized := existing.materialized
            directives := s.directives
            headerDestination := s.header.destination }
        let (p, indexes) := run b r out job.date ⟨tree, [], ds⟩
        (p.tree, indexes.map fun indexes =>
          { written := p.written
            indexes
            diagnostics := p.diagnostics
            instructions :=
              if job.buildDirectory.isSome then instructions job existing.files p.diagnostics
              else [] })

end Generation

namespace Report

def artifact? (r : Report) (native : String) : Option Artifact :=
  r.written.find? (·.native = native)

end Report
end Bindwright
