import Bindwright.Proofs.Source.PathText
import Bindwright.Proofs.Table
import Bindwright.Source.Scope

/-!
# What imports bring in

A tree of imports is a list of leaves, each with its whole path and possibly a name of its own
(`ImportTree.leaves`). A leaf introduces one name and denotes one item: `self` in front of a path is
the module, each `super` there goes one module up, and `self` at the end is the path before it. Of
the leaves that introduce a name the last counts.

Imports are recorded so except for two kinds of leaves (`ImportLeaf.Misread`): a final `self` stays
in the path if the leaf is renamed, and so does `super` after `self` (`names_within_iff`).
-/

namespace Bindwright.Source

structure ImportLeaf where
  path : List String
  alias? : Option String
  deriving DecidableEq, Repr

namespace ImportLeaf

def below (front : List String) (leaf : ImportLeaf) : ImportLeaf :=
  { leaf with path := front ++ leaf.path }

def EndsInSelf (leaf : ImportLeaf) : Prop :=
  leaf.path.getLast? = some "self" ∧ leaf.path.dropLast ≠ []

instance : DecidablePred EndsInSelf := fun leaf =>
  inferInstanceAs (Decidable (leaf.path.getLast? = some "self" ∧ leaf.path.dropLast ≠ []))

def item (leaf : ImportLeaf) : List String :=
  if leaf.EndsInSelf then leaf.path.dropLast else leaf.path

/-- A leaf without a name of its own is called like its item; `self` by itself has no name. -/
def introduced? (leaf : ImportLeaf) : Option String :=
  leaf.alias?.or (if leaf.path = ["self"] then none else leaf.item.getLast?)

def kept (leaf : ImportLeaf) : List String := if leaf.alias?.isSome then leaf.path else leaf.item

def recorded? (module : String) (leaf : ImportLeaf) : Option (String × String) :=
  leaf.introduced?.map fun name => (name, qualify module leaf.kept)

end ImportLeaf

def ascend (module : List String) : List String → List String
  | "super" :: rest => ascend module.dropLast rest
  | rest => module ++ rest

/-- What a path means in a module, as a path that does not depend on the module. -/
def fromRoot (module : List String) : List String → List String
  | "self" :: rest => ascend module rest
  | "super" :: rest => ascend module ("super" :: rest)
  | path => path

mutual

def ImportTree.leaves : ImportTree → List ImportLeaf
  | .under name rest => rest.leaves.map (·.below [name])
  | .name name => [⟨[name], none⟩]
  | .renamed name new => [⟨[name], some new⟩]
  | .group trees => groupLeaves trees
  | .all => []

def groupLeaves : List ImportTree → List ImportLeaf
  | [] => []
  | tree :: trees => tree.leaves ++ groupLeaves trees

end

def importLeaves : List Item → List ImportLeaf
  | [] => []
  | .imports tree :: items => tree.leaves ++ importLeaves items
  | _ :: items => importLeaves items

def importOf? (items : List Item) (name : String) : Option ImportLeaf :=
  (importLeaves items).reverse.find? (·.introduced? = some name)

/-! ## Leaves -/

theorem ImportLeaf.below_below (front more : List String) (leaf : ImportLeaf) :
    (leaf.below more).below front = leaf.below (front ++ more) := by
  simp [below]

section Concat

variable {front : List String} {name : String} {alias? : Option String}

theorem endsInSelf_concat : ImportLeaf.EndsInSelf ⟨front ++ [name], alias?⟩ ↔
    name = "self" ∧ front ≠ [] := by
  rw [ImportLeaf.EndsInSelf, List.getLast?_concat, List.dropLast_concat, Option.some_inj]

theorem recorded?_name (plain : name ≠ "self") (module : String) :
    ImportLeaf.recorded? module ⟨front ++ [name], none⟩ =
      some (name, qualify module (front ++ [name])) := by
  have inner : ImportLeaf.item ⟨front ++ [name], none⟩ = front ++ [name] :=
    if_neg fun ends => plain (endsInSelf_concat.1 ends).1
  have other : front ++ [name] ≠ ["self"] := fun same => plain (by
    simpa using congrArg List.getLast? same)
  simp [ImportLeaf.recorded?, ImportLeaf.introduced?, ImportLeaf.kept, inner, other]

theorem recorded?_self (module : String) (front : List String) :
    ImportLeaf.recorded? module ⟨front ++ ["self"], none⟩ =
      front.getLast?.map fun name => (name, qualify module front) := by
  by_cases bare : front = []
  · subst bare
    rfl
  · have inner : ImportLeaf.item ⟨front ++ ["self"], none⟩ = front := by
      rw [ImportLeaf.item, if_pos (endsInSelf_concat.2 ⟨rfl, bare⟩), List.dropLast_concat]
    simp [ImportLeaf.recorded?, ImportLeaf.introduced?, ImportLeaf.kept, inner, bare]

end Concat

mutual

theorem names_eq (module : String) : (tree : ImportTree) → (front : List String) →
    tree.names module front =
      tree.leaves.filterMap fun leaf => (leaf.below front).recorded? module
  | .under name rest, front => by
    simp [ImportTree.names, ImportTree.leaves, names_eq module rest, List.filterMap_map,
      ImportLeaf.below_below]
  | .name name, front => by
    by_cases own : name = "self"
    · subst own
      rw [ImportTree.names, ImportTree.leaves, List.filterMap_cons, ImportLeaf.below,
        recorded?_self]
      cases front.getLast? <;> rfl
    · simp [ImportTree.names, ImportTree.leaves, ImportLeaf.below, recorded?_name own]
  | .renamed name new, front => by
    simp [ImportTree.names, ImportTree.leaves, ImportLeaf.below, ImportLeaf.recorded?,
      ImportLeaf.introduced?, ImportLeaf.kept]
  | .group trees, front => by
    rw [ImportTree.names, ImportTree.leaves, groupNames_eq module trees]
  | .all, front => rfl

theorem groupNames_eq (module : String) : (trees : List ImportTree) → (front : List String) →
    groupNames module front trees =
      (groupLeaves trees).filterMap fun leaf => (leaf.below front).recorded? module
  | [], front => rfl
  | tree :: trees, front => by
    rw [groupNames, groupLeaves, names_eq module tree, groupNames_eq module trees,
      List.filterMap_append]

end

/-! ## Tables -/

theorem find?_foldl_insert (table : Names) (entries : List (String × String)) (name : String) :
    (entries.foldl (fun names entry => names.insert entry.1 entry.2) table).find? name =
      ((entries.reverse.find? (·.1 = name)).map (·.2)).or (table.find? name) := by
  induction entries using List.reverseRecOn with
  | nil => rfl
  | append_singleton entries entry ih =>
    rw [List.foldl_concat, Table.find?_insert, ih, List.reverse_concat, List.find?_cons]
    by_cases own : entry.1 = name <;> simp [own, Ne.symm]

theorem within_cons (inherited : Names) (module : String) (item : Item) (items : List Item) :
    Names.within inherited module (item :: items) =
      Names.within (Names.within inherited module [item]) module items := by
  simp [Names.within, List.foldl_append]

theorem within_eq (inherited : Names) (module : String) (items : List Item) :
    Names.within inherited module items =
      ((importLeaves items).filterMap (·.recorded? module)).foldl
        (fun names entry => names.insert entry.1 entry.2) inherited := by
  induction items generalizing inherited with
  | nil => rfl
  | cons item items ih =>
    rw [within_cons, ih]
    cases item with
    | imports tree =>
      have own : tree.names module [] = tree.leaves.filterMap (·.recorded? module) :=
        names_eq module tree []
      rw [importLeaves, List.filterMap_append, List.foldl_append, ← own, Names.within,
        List.flatMap_singleton]
    | _ => rfl

theorem find?_within (inherited : Names) (module : String) (items : List Item) (name : String) :
    (Names.within inherited module items).find? name =
      ((importOf? items name).map fun leaf => qualify module leaf.kept).or
        (inherited.find? name) := by
  rw [within_eq, find?_foldl_insert, ← List.filterMap_reverse, List.find?_filterMap, importOf?]
  have same : (fun leaf : ImportLeaf => (leaf.recorded? module).any (·.1 = name)) =
      fun leaf => decide (leaf.introduced? = some name) := by
    funext leaf
    rw [ImportLeaf.recorded?]
    cases leaf.introduced? <;> simp
  rw [same]
  cases found : (importLeaves items).reverse.find? (·.introduced? = some name) with
  | none => rfl
  | some leaf =>
    have own : leaf.introduced? = some name := by simpa using List.find?_some found
    rw [Option.bind_some, ImportLeaf.recorded?, own]
    rfl

/-! ## Paths -/

theorem ascend_of_head?_ne {rest : List String} (level : rest.head? ≠ some "super")
    (module : List String) : ascend module rest = module ++ rest := by
  unfold ascend
  split
  · exact absurd rfl level
  · rfl

theorem ascend_eq (module rest : List String) :
    ascend module rest =
      module.take (module.length - (rest.takeWhile (· = "super")).length) ++
        rest.dropWhile (· = "super") := by
  induction rest generalizing module with
  | nil => simp [ascend]
  | cons name rest ih =>
    by_cases up : name = "super"
    · subst up
      rw [ascend, ih, List.takeWhile_cons_of_pos (by simp), List.dropWhile_cons_of_pos (by simp),
        List.dropLast_eq_take, List.take_take, List.length_take, List.length_cons]
      congr 2
      omega
    · rw [ascend_of_head?_ne (by simpa using up), List.takeWhile_cons_of_neg (by simpa using up),
        List.dropWhile_cons_of_neg (by simpa using up)]
      simp

theorem ascend_concat {name : String} (plain : name ≠ "super") (module rest : List String) :
    ascend module (rest ++ [name]) = ascend module rest ++ [name] := by
  induction rest generalizing module with
  | nil => rw [List.nil_append, ascend_of_head?_ne (by simpa using plain), ascend, List.append_nil]; simp
  | cons first rest ih =>
    by_cases up : first = "super"
    · subst up
      rw [List.cons_append, ascend, ascend, ih]
    · rw [ascend_of_head?_ne (by simpa using up), ascend_of_head?_ne (by simpa using up),
        List.append_assoc]

theorem fromRoot_concat_self {path : List String} (inhabited : path ≠ []) (module : List String) :
    fromRoot module (path ++ ["self"]) = fromRoot module path ++ ["self"] := by
  fun_cases fromRoot module path with
  | case1 rest => exact ascend_concat (by decide) module rest
  | case2 rest => exact ascend_concat (by decide) module ("super" :: rest)
  | case3 path inner upper =>
    cases path with
    | nil => exact absurd rfl inhabited
    | cons first rest =>
      have inner' : first ≠ "self" := fun same => inner rest (same ▸ rfl)
      have upper' : first ≠ "super" := fun same => upper rest (same ▸ rfl)
      rw [List.cons_append, fromRoot]
      · simpa using inner'
      · simpa using upper'

theorem qualify_eq {path : List String} (plain : ¬ ["self", "super"] <+: path) (module : String) :
    qualify module path = "::".intercalate (fromRoot (ItemPath.segments module) path) := by
  fun_cases fromRoot (ItemPath.segments module) path with
  | case1 rest =>
    have level : rest.head? ≠ some "super" := fun first => by
      obtain ⟨rest, rfl⟩ := List.head?_eq_some_iff.1 first
      exact plain ⟨rest, rfl⟩
    rw [qualify, ascend_of_head?_ne level]
  | case2 rest =>
    rw [ascend_eq, List.takeWhile_cons_of_pos (by simp), List.dropWhile_cons_of_pos (by simp)]
    rfl
  | case3 path inner upper => rw [qualify.eq_3 module path inner upper]

/-! ## Misread leaves -/

theorem weight_ascend_le (module rest : List String) :
    weight (ascend module rest) ≤ weight module + weight rest := by
  fun_induction ascend module rest with
  | case1 module rest ih =>
    have := weight_dropLast_le module
    rw [weight]
    omega
  | case2 module rest level => exact Nat.le_of_eq (weight_append module rest)

namespace ImportLeaf

/-- The leaf is a final `self` with a name of its own, or begins with `super` after `self`. -/
def Misread (leaf : ImportLeaf) : Prop :=
  (leaf.alias?.isSome ∧ leaf.EndsInSelf) ∨ ["self", "super"] <+: leaf.item

instance : DecidablePred Misread := fun leaf =>
  inferInstanceAs (Decidable ((leaf.alias?.isSome ∧ leaf.EndsInSelf) ∨
    ["self", "super"] <+: leaf.item))

def denoted (module : String) (leaf : ImportLeaf) : String :=
  "::".intercalate (fromRoot (ItemPath.segments module) leaf.item)

variable {leaf : ImportLeaf}

theorem kept_eq_item (plain : ¬ (leaf.alias?.isSome ∧ leaf.EndsInSelf)) :
    leaf.kept = leaf.item := by
  rw [kept, item]
  split
  · rename_i named
    rw [if_neg fun ends => plain ⟨named, ends⟩]
  · rfl

theorem item_concat_self (ends : leaf.EndsInSelf) :
    leaf.path = leaf.item ++ ["self"] ∧ leaf.item ≠ [] := by
  rw [item, if_pos ends]
  obtain ⟨front, split⟩ := List.getLast?_eq_some_iff.1 ends.1
  exact ⟨by rw [split, List.dropLast_concat], ends.2⟩

theorem qualify_kept_ne (misread : leaf.Misread) (module : String) :
    qualify module leaf.kept ≠ leaf.denoted module := by
  obtain ⟨more, whole⟩ : ∃ more, leaf.kept = leaf.item ++ more := by
    by_cases ends : leaf.alias?.isSome ∧ leaf.EndsInSelf
    · exact ⟨["self"], by rw [kept, if_pos ends.1, (item_concat_self ends.2).1]⟩
    · exact ⟨[], by rw [List.append_nil, kept_eq_item ends]⟩
  by_cases climbs : ["self", "super"] <+: leaf.item
  · obtain ⟨rest, path⟩ := climbs
    have spelled : qualify module leaf.kept =
        "::".intercalate (ItemPath.segments module ++ "super" :: (rest ++ more)) := by
      rw [whole, ← path]
      rfl
    have read : leaf.denoted module =
        "::".intercalate (ascend (ItemPath.segments module).dropLast rest) := by
      rw [denoted, ← path]
      rfl
    -- What is kept has all names of the module, and what is meant at most those above it.
    have least := weight_ascend_le (ItemPath.segments module).dropLast rest
    have least' := weight_dropLast_le (ItemPath.segments module)
    have upper : "super".length = 5 := rfl
    rw [spelled, read]
    refine (intercalate_ne ?_ ?_).symm <;> simp only [weight_append, weight, upper] <;> omega
  · obtain ⟨named, ends⟩ := misread.resolve_right climbs
    obtain ⟨path, inhabited⟩ := item_concat_self ends
    have plain : ¬ ["self", "super"] <+: leaf.path := by
      rintro ⟨rest, split⟩
      rcases List.eq_nil_or_concat rest with rfl | ⟨front, last, rfl⟩
      · have last := ends.1
        rw [← split] at last
        exact absurd last (by decide)
      · rw [path, List.concat_eq_append, ← List.append_assoc] at split
        exact climbs ⟨front, (List.append_inj' split rfl).1⟩
    have own : "self".length = 4 := rfl
    rw [kept, if_pos named, qualify_eq plain, denoted, path, fromRoot_concat_self inhabited]
    refine (intercalate_ne ?_ ?_).symm <;> simp only [weight_append, weight, own] <;> omega

theorem qualify_kept_iff (module : String) (leaf : ImportLeaf) :
    qualify module leaf.kept = leaf.denoted module ↔ ¬ leaf.Misread := by
  constructor
  · intro same misread
    exact qualify_kept_ne misread module same
  · intro read
    rw [kept_eq_item (read ∘ .inl), denoted, qualify_eq (read ∘ .inr)]

end ImportLeaf

theorem names_within_iff (inherited : Names) (module : String) (items : List Item)
    (name : String) :
    (Names.within inherited module items).find? name =
        ((importOf? items name).map (·.denoted module)).or (inherited.find? name) ↔
      ∀ leaf ∈ importOf? items name, ¬ leaf.Misread := by
  rw [find?_within]
  cases importOf? items name with
  | none => simp
  | some leaf => simp [ImportLeaf.qualify_kept_iff]

/-- Both kinds of misread leaves: a renamed `self` that ends the path of a crate, and a path that
leaves the module by `self::super`. -/
theorem misread_leaves :
    let items : List Item := [
      .imports (.under "lawu_runtime" (.group [.renamed "self" "runtime", .name "Segment"])),
      .imports (.under "self" (.under "super" (.under "handles" (.name "Handle"))))]
    let names := Names.within .empty "crate::sys" items
    let denoted (name : String) := (importOf? items name).map (·.denoted "crate::sys")
    names.find? "runtime" = some "lawu_runtime::self" ∧ denoted "runtime" = some "lawu_runtime" ∧
      names.find? "Handle" = some "crate::sys::super::handles::Handle" ∧
      denoted "Handle" = some "crate::handles::Handle" ∧
      names.find? "Segment" = denoted "Segment" := by
  decide

end Bindwright.Source
