import Bindwright.Proofs.Emit.Fields
import Bindwright.Proofs.Run.Outputs
import Mathlib.Data.List.Pairwise

/-!
# The names that a module exports

Every generated file exports its type, that of a wrapper also a view, and that of a wrapper with a
link also a trait and a slice (`exportsOf_eq`). The registry keeps only the types apart. What is
derived from a type ends unlike the type itself and unlike the rest, so a module exports a name
twice exactly if two of its requests clash in one of three ways (`nodup_moduleExports_iff`), as
`VkQueue` and `VkQueueNative` do (`exports_view_twice`).
-/

namespace Bindwright

open Traversal

inductive Role where
  | own
  | view
  | trait
  | slice
  deriving DecidableEq

namespace Role

def nameFor : Role → String → String
  | own, type => type
  | view, type => type ++ "Native"
  | trait, type => nextTraitName type
  | slice, type => nextSliceName type

def last? : Role → Option Char
  | own => none
  | view => some 'e'
  | trait => some 't'
  | slice => some 'T'

variable {role role' : Role} {type type' : String}

theorem last?_injective : Function.Injective last? := by
  intro role role' same
  cases role <;> cases role' <;> first | rfl | cases same

theorem getLast?_nameFor (derived : role ≠ own) (type : String) :
    (role.nameFor type).toList.getLast? = role.last? := by
  cases role with
  | own => exact absurd rfl derived
  | view | trait | slice =>
    simp only [nameFor, nextTraitName, nextSliceName, String.toList_append]
    rw [List.getLast?_append_of_ne_nil _ (by decide)]
    rfl

theorem eq_of_nameFor_eq (derived : role ≠ own) (derived' : role' ≠ own)
    (same : role.nameFor type = role'.nameFor type') : role = role' := by
  have last := congrArg (·.toList.getLast?) same
  simp only [getLast?_nameFor derived, getLast?_nameFor derived'] at last
  exact last?_injective last

theorem ne_append_self {suffix : String} (inhabited : suffix.toList ≠ []) (type : String) :
    type ≠ type ++ suffix := by
  intro same
  have length := congrArg (·.toList.length) same
  simp only [String.toList_append, List.length_append, Nat.left_eq_add, List.length_eq_zero_iff]
    at length
  exact inhabited length

theorem ne_nextSliceName (tail : Naming.NoFinalCapital type) (other : String) :
    type ≠ nextSliceName other := by
  intro same
  have derived : slice ≠ own := nofun
  have last := getLast?_nameFor derived other
  rw [nameFor, ← same] at last
  exact absurd (tail _ last) (by decide)

theorem nameFor_injective (tail : Naming.NoFinalCapital type) :
    Function.Injective (nameFor · type) := by
  have unlike : ∀ role, role ≠ own → type ≠ role.nameFor type := by
    intro role derived
    cases role with
    | own => exact absurd rfl derived
    | view => exact ne_append_self (by decide) type
    | trait => exact ne_append_self (by decide) type
    | slice => exact ne_nextSliceName tail type
  intro role role' same
  by_cases derived : role = own
  · by_cases derived' : role' = own
    · rw [derived, derived']
    · rw [derived] at same
      exact absurd same (unlike role' derived')
  · by_cases derived' : role' = own
    · rw [derived'] at same
      exact absurd same.symm (unlike role derived)
    · exact eq_of_nameFor_eq derived derived' same

end Role

namespace Rendering

variable {b : Bindings} {r : Registry} {date module : String} {q q' : Request}

def exportsOf (b : Bindings) (r : Registry) (date : String) (q : Request) : List String :=
  match render b r date q with
  | .ok rendered => rendered.exports
  | .error _ => []

def renderedIn (b : Bindings) (r : Registry) (date module : String) : List Request :=
  r.requests.filter fun q => q.destination.module = module ∧ (render b r date q).isOk

def moduleExports (b : Bindings) (r : Registry) (date module : String) : List String :=
  (renderedIn b r date module).flatMap (exportsOf b r date)

def Chained (b : Bindings) (r : Registry) (date : String) (q : Request) : Prop :=
  q.product = .wrapper ∧ ∃ f, structureFile b r date q = .ok f ∧ f.chain?.isSome

/-- A name derived for the first request is exported for the second, too. -/
inductive ExportsClash (b : Bindings) (r : Registry) (date : String) (q q' : Request) : Prop
  | view (wrapper : q.product = .wrapper)
      (taken : q'.destination.name = q.destination.name ++ "Native")
  | trait (chained : Chained b r date q)
      (taken : q'.destination.name = nextTraitName q.destination.name)
  | slice (chained : Chained b r date q) (chained' : Chained b r date q')
      (taken : nextSliceName q'.destination.name = nextSliceName q.destination.name)

def Exports (b : Bindings) (r : Registry) (date : String) (q : Request) : Role → Prop
  | .own => True
  | .view => q.product = .wrapper
  | .trait | .slice => Chained b r date q

theorem exportsOf_eq (ok : (render b r date q).isOk) :
    ∃ roles : List Role, roles.Nodup ∧ (∀ role, role ∈ roles ↔ Exports b r date q role) ∧
      exportsOf b r date q = roles.map (·.nameFor q.destination.name) := by
  obtain ⟨rendered, rendering⟩ := exists_of_isOk ok
  have exports : exportsOf b r date q = rendered.exports := by rw [exportsOf, rendering]
  rw [exports]
  cases product : q.product with
  | constants group members valueType =>
    have plain : ¬Chained b r date q := fun chained => nomatch product.symm.trans chained.1
    simp only [render, ConstantsFile.ofRequest?, product] at rendering
    cases rendering
    refine ⟨[.own], by decide, fun role => ?_, rfl⟩
    cases role <;> simp [Exports, product, plain]
  | wrapper =>
    obtain ⟨f, file, rfl⟩ := render_wrapper_ok product rendering
    obtain ⟨-, name, -⟩ := structureFile_ok file
    rw [← name]
    have chained : Chained b r date q ↔ f.chain?.isSome := by
      simp only [Chained, product, file, Except.ok.injEq, true_and, exists_eq_left']
    cases linked : f.chain?.isSome with
    | false =>
      refine ⟨[.own, .view], by decide, fun role => ?_, ?_⟩
      · cases role <;> simp [Exports, product, chained, linked]
      · rw [StructureFile.exports, linked]
        rfl
    | true =>
      refine ⟨[.own, .view, .trait, .slice], by decide, fun role => ?_, ?_⟩
      · cases role <;> simp [Exports, product, chained, linked]
      · rw [StructureFile.exports, linked]
        rfl

theorem mem_exportsOf_iff (ok : (render b r date q).isOk) {name : String} :
    name ∈ exportsOf b r date q ↔
      ∃ role, Exports b r date q role ∧ role.nameFor q.destination.name = name := by
  obtain ⟨roles, -, member, exports⟩ := exportsOf_eq ok
  simp only [exports, List.mem_map, member]

theorem nodup_exportsOf (ok : (render b r date q).isOk)
    (tail : Naming.NoFinalCapital q.destination.name) : (exportsOf b r date q).Nodup := by
  obtain ⟨roles, distinct, -, exports⟩ := exportsOf_eq ok
  exact exports ▸ distinct.map (Role.nameFor_injective tail)

theorem ExportsClash.not_disjoint (clash : ExportsClash b r date q q')
    (ok : (render b r date q).isOk) (ok' : (render b r date q').isOk) :
    ¬(exportsOf b r date q).Disjoint (exportsOf b r date q') := by
  have shared (role role' : Role) (exports : Exports b r date q role)
      (exports' : Exports b r date q' role')
      (same : role'.nameFor q'.destination.name = role.nameFor q.destination.name) :
      ¬(exportsOf b r date q).Disjoint (exportsOf b r date q') := fun disjoint =>
    disjoint ((mem_exportsOf_iff ok).2 ⟨role, exports, rfl⟩)
      ((mem_exportsOf_iff ok').2 ⟨role', exports', same⟩)
  cases clash with
  | view wrapper taken => exact shared .view .own wrapper trivial taken
  | trait chained taken => exact shared .trait .own chained trivial taken
  | slice chained chained' taken => exact shared .slice .slice chained chained' taken

theorem exportsClash_of_own {role : Role} (exports : Exports b r date q role)
    (derived : role ≠ .own) (tail : Naming.NoFinalCapital q'.destination.name)
    (same : q'.destination.name = role.nameFor q.destination.name) : ExportsClash b r date q q' := by
  cases role with
  | own => exact absurd rfl derived
  | view => exact .view exports same
  | trait => exact .trait exports same
  | slice => exact absurd same (Role.ne_nextSliceName tail _)

theorem exportsClash_of_nameFor_eq {role role' : Role}
    (exports : Exports b r date q role) (exports' : Exports b r date q' role')
    (tail : Naming.NoFinalCapital q.destination.name)
    (tail' : Naming.NoFinalCapital q'.destination.name)
    (differ : q.destination.name ≠ q'.destination.name)
    (same : role.nameFor q.destination.name = role'.nameFor q'.destination.name) :
    ExportsClash b r date q q' ∨ ExportsClash b r date q' q := by
  by_cases own : role = .own
  · subst own
    by_cases own' : role' = .own
    · subst own'
      exact absurd same differ
    · exact .inr (exportsClash_of_own exports' own' tail same)
  · by_cases own' : role' = .own
    · subst own'
      exact .inl (exportsClash_of_own exports own tail' same.symm)
    · -- Names derived from two types have one role and, but for slices, come from one type.
      obtain rfl := Role.eq_of_nameFor_eq own own' same
      cases role with
      | own => exact absurd rfl own
      | view => exact absurd ((String.append_left_inj _).1 same) differ
      | trait => exact absurd ((String.append_left_inj _).1 same) differ
      | slice => exact .inl (.slice exports exports' same.symm)

theorem mem_renderedIn_iff : q ∈ renderedIn b r date module ↔
    q ∈ r.requests ∧ q.destination.module = module ∧ (render b r date q).isOk := by
  simp only [renderedIn, List.mem_filter, decide_eq_true_eq]

end Rendering

namespace Population

open Rendering

/-- The files of a module export no name twice exactly if no two of its requests clash. -/
theorem nodup_moduleExports_iff (b : Bindings) (p : Plan) (date module : String) :
    let r := (populate b p).1
    (moduleExports b r date module).Nodup ↔
      ∀ q ∈ renderedIn b r date module, ∀ q' ∈ renderedIn b r date module,
        q ≠ q' → ¬ExportsClash b r date q q' := by
  intro r
  have distinct : (renderedIn b r date module).Nodup := (nodup_requests b p).filter _
  rw [moduleExports, List.nodup_flatMap]
  constructor
  · rintro ⟨-, apart⟩ q member q' member' differ clash
    have : Std.Symm (Function.onFun List.Disjoint (exportsOf b r date)) :=
      ⟨fun _ _ disjoint => List.disjoint_symm disjoint⟩
    obtain ⟨-, -, ok⟩ := mem_renderedIn_iff.1 member
    obtain ⟨-, -, ok'⟩ := mem_renderedIn_iff.1 member'
    exact clash.not_disjoint ok ok' (apart.forall member member' differ)
  · intro apart
    refine ⟨fun q member => ?_, distinct.pairwise_of_forall_ne fun q member q' member' differ => ?_⟩
    · obtain ⟨pending, -, ok⟩ := mem_renderedIn_iff.1 member
      exact nodup_exportsOf ok (noFinalCapital_name pending)
    · obtain ⟨pending, here, ok⟩ := mem_renderedIn_iff.1 member
      obtain ⟨pending', here', ok'⟩ := mem_renderedIn_iff.1 member'
      have names : q.destination.name ≠ q'.destination.name := fun name =>
        differ (eq_of_mem_requests pending pending' (here.trans here'.symm) name)
      intro name exported exported'
      obtain ⟨role, exports, rfl⟩ := (mem_exportsOf_iff ok).1 exported
      obtain ⟨role', exports', same⟩ := (mem_exportsOf_iff ok').1 exported'
      -- One name in two roles: one of the two requests then clashes with the other.
      rcases exportsClash_of_nameFor_eq exports exports'
        (noFinalCapital_name pending)
        (noFinalCapital_name pending') names same.symm with clash | clash
      · exact apart q member q' member' differ clash
      · exact apart q' member' q member differ.symm clash

/-- The view of a type and the type of another structure have one name. -/
theorem exports_view_twice :
    let b := emptyStructures ["VkQueue", "VkQueueNative"]
    let exports := moduleExports b (populate b wrapAll).1 "" "crate::vk"
    exports = ["Queue", "QueueNative", "QueueNative", "QueueNativeNative"] ∧ ¬exports.Nodup := by
  decide +kernel

end Population
end Bindwright
