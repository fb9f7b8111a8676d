import Bindwright.Declaration.Snippet
import Bindwright.Registry.Basic

namespace Bindwright

open Text

namespace HeaderConstant

def isBit (c : HeaderConstant) : Bool := endsWith Naming.bitSuffix c.name.toList

def isEnumerator (c : HeaderConstant) : Bool :=
  (Declaration.Snippet.all c.documentation).any fun s =>
    startsWith "enum ".toList (trimStart s.text.toList)

def owners (c : HeaderConstant) : List String :=
  (Declaration.Snippet.all c.documentation).flatMap fun s => Declaration.owners s.text c.name

def isCandidate (c : HeaderConstant) : Bool :=
  startsWith Naming.constantPrefix c.name.toList && (c.isBit || c.isEnumerator)

inductive Placement where
  | passedOver
  | ambiguous (found : Nat)
  | flags (native owner : String)
  | values (native : String)
  deriving DecidableEq

/-- A bit of an owner `…FlagBits` is one of the flags `…Flags`, and any other constant one of its
owner's values. What belongs to an extension is passed over. -/
def placement (c : HeaderConstant) : Placement :=
  if !c.isCandidate then .passedOver
  else
    match c.owners with
    | [owner] =>
      if Naming.isExtensionName owner then .passedOver
      else
        match beforeSuffix? "FlagBits".toList owner.toList with
        | some stem => if c.isBit then .flags (String.ofList stem ++ "Flags") owner else .values owner
        | none => .values owner
    | owners => .ambiguous owners.length

end HeaderConstant

structure OwnedConstants where
  owner : String
  constants : List HeaderConstant

def OwnedConstants.addTo (groups : Table String OwnedConstants) (native owner : String)
    (c : HeaderConstant) : Table String OwnedConstants :=
  groups.alter native fun
    | none => ⟨owner, [c]⟩
    | some g => { g with constants := g.constants ++ [c] }

def flagGroups (constants : List HeaderConstant) : Table String OwnedConstants :=
  constants.foldl (fun groups c =>
    match c.placement with
    | .flags native owner => OwnedConstants.addTo groups native owner c
    | _ => groups) .empty

def valueGroups (constants : List HeaderConstant) : Table String OwnedConstants :=
  constants.foldl (fun groups c =>
    match c.placement with
    | .values native => OwnedConstants.addTo groups native native c
    | _ => groups) .empty

def ambiguousOwners (constants : List HeaderConstant) : List Failure :=
  constants.filterMap fun c =>
    match c.placement with
    | .ambiguous found => some (.ambiguousOwner c.name found c.location)
    | _ => none

def variantNames (group : Naming.ConstantGroup) (destination : String)
    (constants : List HeaderConstant) : List String :=
  constants.map (group.variantName destination ·.name)

/-- The first constant whose variant an earlier constant has taken, with that constant and the
variant; `seen` holds variants with their constants. -/
def firstClash? (variantOf : HeaderConstant → String) :
    (seen : List (String × HeaderConstant)) → List HeaderConstant →
      Option (HeaderConstant × HeaderConstant × String)
  | _, [] => none
  | seen, c :: cs =>
    match seen.lookup (variantOf c) with
    | some earlier => some (earlier, c, variantOf c)
    | none => firstClash? variantOf ((variantOf c, c) :: seen) cs

def sharedValues : (seen : List (Int × HeaderConstant)) → List HeaderConstant → List Diagnostic
  | _, [] => []
  | seen, c :: cs =>
    match c.value with
    | none => sharedValues seen cs
    | some v =>
      match seen.lookup v with
      | none => sharedValues ((v, c) :: seen) cs
      | some first =>
        ⟨.warning, first.name ++ " and " ++ c.name ++ " share the value " ++ toString v ++
            "; the first is used when converting from native", c.location, some "N0002"⟩ ::
          sharedValues seen cs

namespace Registry

def groupRequest (native sourceModule module : String) (group : Naming.ConstantGroup)
    (constants : List HeaderConstant) : Request :=
  { native, sourceModule
    destination := ⟨module, group.typeName native⟩
    product := .constants group constants ((constants.head?.map (·.typeName)).getD "i32")
    location := (constants.head?.map (·.location)).getD .unknown }

def addGroup (r : Registry) (sourceModule module : String) (group : Naming.ConstantGroup)
    (native : String) (constants : List HeaderConstant) : Registry × Option Failure :=
  match firstClash? (group.variantName (group.typeName native) ·.name) [] constants with
  | some (earlier, later, variant) =>
    (r, some (.duplicateMapping native
      (earlier.name ++ " and " ++ later.name ++ " both become variant \x60" ++ variant ++ "\x60")))
  | none =>
    ((sharedValues [] constants).foldl addDiagnostic r).addRequest
      (groupRequest native sourceModule module group constants)

def addFlagGroup (sourceModule module : String) (r : Registry) (native : String)
    (g : OwnedConstants) : Registry × Option Failure :=
  match r.addGroup sourceModule module .flags native g.constants with
  | (r, none) => r.addFlagBits g.owner native
  | failed => failed

def addValueGroup (sourceModule module : String) (r : Registry) (native : String)
    (g : OwnedConstants) : Registry × Option Failure :=
  r.addGroup sourceModule module .values native g.constants

def addGroups (step : Registry → String → OwnedConstants → Registry × Option Failure)
    (groups : List (String × OwnedConstants)) (r : Registry) : Registry × List Failure :=
  groups.foldl (fun (r, failures) (native, g) =>
    let (r, failure) := step r native g
    (r, failures ++ failure.toList)) (r, [])

/-- Queues one request for each group of the header's constants, flag groups first. -/
def addHeader (r : Registry) (b : Bindings) (module : String) : Registry × List Failure :=
  let (r, flagFailures) :=
    addGroups (addFlagGroup b.headerModule module) (flagGroups b.constants).entries r
  -- A value group is rejected if its owner's name reads as a flag by now.
  let (r, valueFailures) :=
    addGroups (addValueGroup b.headerModule module) (valueGroups b.constants).entries r
  (r, ambiguousOwners b.constants ++ flagFailures ++ valueFailures)

end Registry
end Bindwright
