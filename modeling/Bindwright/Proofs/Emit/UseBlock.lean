import Bindwright.Proofs.Emit.Resolution
import Bindwright.Proofs.Sorting
import Bindwright.Proofs.Text.Pieces
import Mathlib.Data.List.Perm.Basic

namespace Bindwright.ImportTable

open Text

def afterBlanks (cs : List Char) : List Char := cs.dropWhile (· = ' ')

def readUse? (line : List Char) : Option (String × List String) := do
  let body ← beforeSuffix? [';'] (← afterPrefix? "use ".toList line)
  match splitFirst? '\x7b' body with
  | none => (ItemPath.splitLast? (String.ofList body)).map fun (parent, item) => (parent, [item])
  | some (front, inner) => do
    let items ← beforeSuffix? ['\x7d'] inner
    let parent ← beforeSuffix? [':', ':'] front
    let pieces := (splitAll ',' items).map afterBlanks
    some (String.ofList parent, pieces.map String.ofList)

def usePaths (use : String × List String) : List String := use.2.map (ItemPath.join use.1)

variable {t : ImportTable} {path parent item : String} {items paths : List String}

/-! ## One line -/

def PathChars (cs : List Char) : Prop := ∀ c ∈ cs, c.isAlphanum || c = '_' || c = ':'

theorem PathChars.not_mem {cs : List Char} {c : Char} (plain : PathChars cs)
    (other : (c.isAlphanum || c = '_' || c = ':') = false) : c ∉ cs := by
  intro member
  have inside := plain c member
  rw [other] at inside
  cases inside

theorem PathChars.afterBlanks {cs : List Char} (plain : PathChars cs) : afterBlanks cs = cs := by
  cases cs with
  | nil => rfl
  | cons c cs =>
    have solid : c ≠ ' ' := by
      rintro rfl
      exact plain.not_mem (by decide) List.mem_cons_self
    simp [ImportTable.afterBlanks, solid]

theorem afterBlanks_splitAll_intercalate {items : List (List Char)} (inhabited : items ≠ [])
    (plain : ∀ item ∈ items, PathChars item) :
    (splitAll ',' ([',', ' '].intercalate items)).map afterBlanks = items := by
  induction items with
  | nil => exact absurd rfl inhabited
  | cons item items ih =>
    have first := plain item List.mem_cons_self
    have alone : splitAll ',' item = [item] := splitAll_of_not_mem (first.not_mem (by decide))
    cases items with
    | nil => rw [List.intercalate_singleton, alone, List.map_singleton, first.afterBlanks]
    | cons next items =>
      have rest := ih (List.cons_ne_nil next items) fun item member =>
        plain item (List.mem_cons_of_mem _ member)
      obtain ⟨piece, pieces, cut⟩ := exists_splitAll ',' ([',', ' '].intercalate (next :: items))
      rw [cut, List.map_cons] at rest
      rw [List.intercalate_cons_cons, List.append_assoc, List.cons_append, List.singleton_append,
        splitAll_append, splitAll_cons cut, if_neg (by decide), alone, List.singleton_append,
        List.map_cons, List.map_cons, first.afterBlanks, ← rest]
      rfl

theorem not_mem_intercalate {α : Type} {a : α} {separator : List α} {parts : List (List α)}
    (apart : a ∉ separator) (absent : ∀ part ∈ parts, a ∉ part) :
    a ∉ separator.intercalate parts := by
  induction parts with
  | nil => exact List.not_mem_nil
  | cons part parts ih =>
    have first := absent part List.mem_cons_self
    cases parts with
    | nil => rwa [List.intercalate_singleton]
    | cons next parts =>
      have rest := ih fun part member => absent part (List.mem_cons_of_mem _ member)
      rw [List.intercalate_cons_cons, List.mem_append, List.mem_append]
      exact not_or_intro (not_or_intro first apart) rest

theorem pathChars_join (plain : PathChars parent.toList) (plain' : PathChars item.toList) :
    PathChars (ItemPath.join parent item).toList := by
  intro c member
  rw [ItemPath.join, String.toList_append, String.toList_append, List.mem_append,
    List.mem_append] at member
  rcases member with (member | member) | member
  · exact plain c member
  · have colon : c = ':' := by simpa using member
    rw [colon]
    decide
  · exact plain' c member

theorem useLine_single (parent item : String) : (useLine (parent, [item])).toList =
    "use ".toList ++ ((ItemPath.join parent item).toList ++ [';']) := by
  simp [useLine]

theorem useLine_cons_cons (parent item next : String) (items : List String) :
    (useLine (parent, item :: next :: items)).toList =
      "use ".toList ++ (((parent.toList ++ [':', ':']) ++ '\x7b' ::
        ([',', ' '].intercalate ((item :: next :: items).map String.toList) ++ ['\x7d'])) ++
          [';']) := by
  rw [useLine]
  · simp [ItemPath.join]
  · intro item' single
    cases single

structure Readable (use : String × List String) : Prop where
  inhabited : use.2 ≠ []
  parent : PathChars use.1.toList
  items : ∀ item ∈ use.2, PathChars item.toList
  cut : ∀ item ∈ use.2, ItemPath.splitLast? (ItemPath.join use.1 item) = some (use.1, item)

namespace Readable

variable {use : String × List String}

theorem readUse?_useLine (readable : Readable use) : readUse? (useLine use).toList = some use := by
  obtain ⟨parent, items⟩ := use
  match items, readable.inhabited with
  | [item], _ =>
    have member : item ∈ [item] := List.mem_singleton_self item
    have plain := pathChars_join readable.parent (readable.items item member)
    -- A line for one item has no braces: paths do not contain them.
    have absent : splitFirst? '\x7b' (ItemPath.join parent item).toList = none := by
      cases found : splitFirst? '\x7b' (ItemPath.join parent item).toList with
      | none => rfl
      | some parts =>
        have braced : '\x7b' ∈ (ItemPath.join parent item).toList := by
          rw [eq_append_of_splitFirst? found]
          simp
        exact absurd braced (plain.not_mem (by decide))
    have cut := readable.cut item member
    rw [useLine_single, readUse?, afterPrefix?_append]
    simp only [Option.bind_eq_bind, Option.bind_some, beforeSuffix?_append, absent,
      String.ofList_toList, cut, Option.map_some]
  | item :: next :: items, _ =>
    have front : '\x7b' ∉ parent.toList ++ [':', ':'] := by
      rw [List.mem_append, not_or]
      exact ⟨readable.parent.not_mem (by decide), by decide⟩
    have pieces : ((item :: next :: items).map String.toList).map String.ofList =
        item :: next :: items := by
      simp
    have read : (splitAll ',' ([',', ' '].intercalate
        ((item :: next :: items).map String.toList))).map afterBlanks =
          (item :: next :: items).map String.toList :=
      afterBlanks_splitAll_intercalate (by simp) (by simpa using readable.items)
    rw [useLine_cons_cons, readUse?, afterPrefix?_append]
    simp only [Option.bind_eq_bind, Option.bind_some, beforeSuffix?_append,
      splitFirst?_append front, String.ofList_toList]
    have spelled := congrArg (List.map String.ofList) read
    rw [pieces] at spelled
    exact congrArg (fun items => some (parent, items)) spelled

theorem newline_not_mem_useLine (readable : Readable use) : '\n' ∉ (useLine use).toList := by
  obtain ⟨parent, items⟩ := use
  have plain := readable.parent.not_mem (c := '\n') (by decide)
  match items, readable.inhabited with
  | [item], _ =>
    have single := readable.items item (List.mem_singleton_self item)
    have whole := pathChars_join readable.parent single
    rw [useLine_single]
    simpa using whole.not_mem (by decide)
  | item :: next :: items, _ =>
    have pieces : '\n' ∉ [',', ' '].intercalate ((item :: next :: items).map String.toList) := by
      refine not_mem_intercalate (by decide) fun piece member => ?_
      obtain ⟨item', inside, rfl⟩ := List.mem_map.1 member
      exact (readable.items item' inside).not_mem (by decide)
    rw [useLine_cons_cons]
    simp [plain, -List.map_cons, pieces]

end Readable

/-! ## Lines and groups -/

theorem splitAll_intercalate_blocks {blocks : List (List (List Char))} (inhabited : blocks ≠ [])
    (filled : ∀ block ∈ blocks, block ≠ [])
    (plain : ∀ block ∈ blocks, ∀ line ∈ block, '\n' ∉ line) :
    splitAll '\n' (['\n', '\n'].intercalate (blocks.map fun block => ['\n'].intercalate block)) =
      [[]].intercalate blocks := by
  induction blocks with
  | nil => exact absurd rfl inhabited
  | cons block blocks ih =>
    have first := splitAll_intercalate (filled block List.mem_cons_self)
      (plain block List.mem_cons_self)
    cases blocks with
    | nil => rw [List.map_singleton, List.intercalate_singleton, first, List.intercalate_singleton]
    | cons next blocks =>
      have rest := ih (List.cons_ne_nil next blocks)
        (fun block member => filled block (List.mem_cons_of_mem _ member))
        fun block member => plain block (List.mem_cons_of_mem _ member)
      rw [List.map_cons, List.map_cons, List.intercalate_cons_cons, List.intercalate_cons_cons,
        List.append_assoc, List.cons_append, List.singleton_append, splitAll_append, first]
      have blank := splitAll_append '\n' []
        (['\n', '\n'].intercalate ((next :: blocks).map fun block => ['\n'].intercalate block))
      rw [rest, List.nil_append] at blank
      rw [List.append_assoc]
      exact congrArg (block ++ ·) blank

theorem mem_intercalate_blank {blocks : List (List (List Char))} {line : List Char}
    (member : line ∈ [[]].intercalate blocks) : line = [] ∨ line ∈ blocks.flatten := by
  induction blocks with
  | nil => cases member
  | cons block blocks ih =>
    cases blocks with
    | nil => exact .inr (by simpa using member)
    | cons next blocks =>
      rw [List.intercalate_cons_cons, List.append_assoc, List.mem_append, List.mem_append,
        List.mem_singleton] at member
      rw [List.flatten_cons, List.mem_append]
      rcases member with inside | blank | later
      · exact .inr (.inl inside)
      · exact .inl blank
      · exact (ih later).imp_right .inr

theorem filterMap_intercalate_blank {α : Type} {read : List Char → Option α}
    (blank : read [] = none) (blocks : List (List (List Char))) :
    ([[]].intercalate blocks).filterMap read = blocks.flatMap (·.filterMap read) := by
  induction blocks with
  | nil => rfl
  | cons block blocks ih =>
    cases blocks with
    | nil => simp
    | cons next blocks =>
      rw [List.intercalate_cons_cons, List.filterMap_append, List.filterMap_append, ih,
        List.filterMap_cons_none blank, List.filterMap_nil, List.append_nil,
        List.flatMap_cons (x := block)]

/-! ## The items of each parent -/

theorem flatMap_filter_key_perm {α κ : Type} [DecidableEq κ] (key : α → κ) {keys : List κ}
    (distinct : keys.Nodup) {as : List α} (covered : ∀ a ∈ as, key a ∈ keys) :
    (keys.flatMap fun k => as.filter (key · = k)).Perm as := by
  induction keys generalizing as with
  | nil =>
    rw [List.eq_nil_iff_forall_not_mem.2 fun a member => List.not_mem_nil (covered a member)]
    rfl
  | cons k keys ih =>
    obtain ⟨fresh, distinct⟩ := List.nodup_cons.1 distinct
    have others (a : α) (kept : a ∈ as.filter fun a => !decide (key a = k)) : key a ∈ keys := by
      obtain ⟨member, other⟩ := List.mem_filter.1 kept
      exact List.mem_of_ne_of_mem (by simpa using other) (covered a member)
    have rest := ih distinct others
    have heaps : keys.flatMap (fun k' => (as.filter fun a => !decide (key a = k)).filter
          (key · = k')) = keys.flatMap fun k' => as.filter (key · = k') := by
      refine List.flatMap_congr fun k' member => ?_
      have other : k' ≠ k := fun same => fresh (same ▸ member)
      rw [List.filter_filter]
      refine List.filter_congr fun a _ => ?_
      by_cases same : key a = k'
      · simp [same, other]
      · simp [same]
    rw [heaps] at rest
    rw [List.flatMap_cons]
    exact (rest.append_left _).trans (List.filter_append_perm _ as)

theorem mem_byParent {use : String × List String} (listed : use ∈ byParent paths) :
    use.2 ≠ [] ∧ ∀ item ∈ use.2, ∃ path ∈ paths, ItemPath.splitLast? path = some (use.1, item) := by
  obtain ⟨parent, member, rfl⟩ := List.mem_map.1 listed
  constructor
  · obtain ⟨split, found, rfl⟩ := List.mem_map.1 (List.mem_eraseDups.1 member)
    refine List.ne_nil_of_mem (List.mem_map_of_mem (a := split) ?_)
    exact List.mem_filter.2 ⟨found, decide_eq_true rfl⟩
  · intro item inside
    obtain ⟨split, kept, rfl⟩ := List.mem_map.1 inside
    obtain ⟨found, same⟩ := List.mem_filter.1 kept
    obtain ⟨path, listed, cut⟩ := List.mem_filterMap.1 found
    exact ⟨path, listed, by rw [cut, ← of_decide_eq_true same]⟩

theorem nodup_parents (paths : List String) : ((byParent paths).map Prod.fst).Nodup := by
  rw [byParent, List.map_map]
  change (List.map id _).Nodup
  rw [List.map_id]
  exact nodup_eraseDups _

theorem usePaths_byParent_perm (qualified : ∀ path ∈ paths, ItemPath.Qualified path.toList) :
    ((byParent paths).flatMap usePaths).Perm paths := by
  have whole : (paths.filterMap ItemPath.splitLast?).map (fun split =>
      ItemPath.join split.1 split.2) = paths := by
    rw [List.map_filterMap]
    conv_rhs => rw [← List.filterMap_some (l := paths)]
    refine List.filterMap_congr fun path listed => ?_
    cases cut : ItemPath.splitLast? path with
    | none => exact absurd (qualified path listed) (ItemPath.splitLast?_eq_none_iff.1 cut)
    | some split => exact congrArg some (ItemPath.splitLast?_eq_some_iff.1 cut).1.symm
  have heaps := flatMap_filter_key_perm Prod.fst
    (nodup_eraseDups ((paths.filterMap ItemPath.splitLast?).map Prod.fst))
    fun split member => List.mem_eraseDups.2 (List.mem_map_of_mem member)
  have spelled := heaps.map fun split => ItemPath.join split.1 split.2
  rw [whole, List.map_flatMap] at spelled
  rw [byParent, List.flatMap_map]
  refine List.Perm.trans (List.Perm.of_eq ?_) spelled
  refine List.flatMap_congr fun parent _ => ?_
  rw [usePaths, List.map_map]
  refine List.map_congr_left fun split kept => ?_
  rw [Function.comp_apply, of_decide_eq_true (List.mem_filter.1 kept).2]

theorem join_lt_join_iff {item' : String} :
    ItemPath.join parent item < ItemPath.join parent item' ↔ item < item' := by
  simp only [String.lt_iff_toList_lt, ItemPath.join, String.toList_append]
  constructor
  · intro less
    rcases lt_trichotomy item.toList item'.toList with before | same | after
    · exact before
    · rw [same] at less
      exact absurd less (lt_irrefl _)
    · exact absurd less (List.append_left_lt after).asymm
  · exact List.append_left_lt

theorem pairwise_items (sorted : paths.Pairwise (· < ·)) {use : String × List String}
    (listed : use ∈ byParent paths) : use.2.Pairwise (· < ·) := by
  obtain ⟨parent, _, rfl⟩ := List.mem_map.1 listed
  rw [List.pairwise_map, List.pairwise_filter, List.pairwise_filterMap]
  refine sorted.imp fun {path path'} less split cut split' cut' same same' => ?_
  rw [(ItemPath.splitLast?_eq_some_iff.1 cut).1, (ItemPath.splitLast?_eq_some_iff.1 cut').1,
    of_decide_eq_true same, of_decide_eq_true same'] at less
  exact join_lt_join_iff.1 less

theorem pathChars_of_isImportable (importable : isImportable path = true) :
    PathChars path.toList := by
  rw [isImportable, Bool.and_eq_true, List.all_eq_true] at importable
  exact importable.2

theorem readable_of_mem_byParent {use : String × List String} (listed : use ∈ byParent paths)
    (importable : ∀ path ∈ paths, isImportable path = true) : Readable use := by
  obtain ⟨inhabited, parts⟩ := mem_byParent listed
  have plain (item : String) (inside : item ∈ use.2) :
      PathChars use.1.toList ∧ PathChars item.toList := by
    obtain ⟨path, member, cut⟩ := parts item inside
    have whole := pathChars_of_isImportable (importable path member)
    rw [(ItemPath.splitLast?_eq_some_iff.1 cut).1, ItemPath.join, String.toList_append,
      String.toList_append] at whole
    exact ⟨fun c front => whole c (List.mem_append_left _ (List.mem_append_left _ front)),
      fun c back => whole c (List.mem_append_right _ back)⟩
  obtain ⟨item, inside⟩ := List.exists_mem_of_ne_nil _ inhabited
  refine ⟨inhabited, (plain item inside).1, fun item inside => (plain item inside).2, ?_⟩
  intro item inside
  obtain ⟨_, _, cut⟩ := parts item inside
  exact splitLast?_join cut use.1

/-! ## Groups -/

def Group.rank : Group → Nat
  | standard => 0
  | external => 1
  | «local» => 2

def groupPaths (t : ImportTable) (g : Group) : List String :=
  (t.imported.mergeSort fun a b => decide (a ≤ b)).filter (groupOf · = g)

def groups : List Group := [.standard, .external, .local]

def listing (t : ImportTable) : List (String × List String) :=
  groups.flatMap fun g => byParent (t.groupPaths g)

theorem mem_groupPaths {g : Group} :
    path ∈ t.groupPaths g ↔ path ∈ t.imported ∧ groupOf path = g := by
  rw [groupPaths, List.mem_filter, List.mem_mergeSort, decide_eq_true_eq]

theorem groupOf_eq_of_splitLast? {path' item' : String}
    (cut : ItemPath.splitLast? path = some (parent, item))
    (cut' : ItemPath.splitLast? path' = some (parent, item')) : groupOf path = groupOf path' := by
  have first (item : String) : (ItemPath.splitFirst (ItemPath.join parent item).toList).1 =
      (ItemPath.splitFirst (parent.toList ++ [':', ':'])).1 := by
    rw [← ItemPath.splitFirst_append_fst _ item.toList]
    simp [ItemPath.join]
  rw [(ItemPath.splitLast?_eq_some_iff.1 cut).1, (ItemPath.splitLast?_eq_some_iff.1 cut').1,
    groupOf, groupOf, first, first]

theorem flatMap_groupPaths_perm (t : ImportTable) :
    (groups.flatMap t.groupPaths).Perm t.imported := by
  have all (g : Group) : g ∈ groups := by cases g <;> decide
  exact (flatMap_filter_key_perm groupOf (by decide) fun path _ => all (groupOf path)).trans
    (List.mergeSort_perm ..)

theorem nodup_listing_parents (t : ImportTable) : (t.listing.map Prod.fst).Nodup := by
  rw [listing, List.map_flatMap, List.Nodup, List.pairwise_flatMap]
  refine ⟨fun g _ => nodup_parents _, ?_⟩
  have distinct : groups.Pairwise (· ≠ ·) := by decide
  refine distinct.imp fun {g g'} other parent listed parent' listed' same => other ?_
  obtain ⟨use, member, rfl⟩ := List.mem_map.1 listed
  obtain ⟨use', member', rfl⟩ := List.mem_map.1 listed'
  obtain ⟨inhabited, parts⟩ := mem_byParent member
  obtain ⟨inhabited', parts'⟩ := mem_byParent member'
  obtain ⟨item, inside⟩ := List.exists_mem_of_ne_nil _ inhabited
  obtain ⟨item', inside'⟩ := List.exists_mem_of_ne_nil _ inhabited'
  obtain ⟨path, found, cut⟩ := parts item inside
  obtain ⟨path', found', cut'⟩ := parts' item' inside'
  rw [← same] at cut'
  rw [← (mem_groupPaths.1 found).2, ← (mem_groupPaths.1 found').2]
  exact groupOf_eq_of_splitLast? cut cut'

theorem pairwise_listing_items (distinct : t.imported.Nodup) {use : String × List String}
    (listed : use ∈ t.listing) : use.2.Pairwise (· < ·) := by
  obtain ⟨g, _, listed⟩ := List.mem_flatMap.1 listed
  have unequal : (t.imported.mergeSort fun a b => decide (a ≤ b)).Pairwise (· ≠ ·) :=
    (List.mergeSort_perm ..).nodup_iff.2 distinct
  have increasing := ((pairwise_mergeSort_le t.imported).and unequal).imp fun {a b} ordered =>
    lt_of_le_of_ne ordered.1 ordered.2
  exact pairwise_items (increasing.filter _) listed

/-! ## The lines of the block -/

def lines (t : ImportTable) : List (List Char) := splitAll '\n' t.render.toList

def uses (t : ImportTable) : List (String × List String) := t.lines.filterMap readUse?

def blocks (t : ImportTable) : List (List (List Char)) :=
  ((groups.map t.groupPaths).filter (!·.isEmpty)).map fun paths =>
    (byParent paths).map fun use => (useLine use).toList

theorem render_eq (t : ImportTable) : t.render =
    "\n\n".intercalate (((groups.map t.groupPaths).filter (!·.isEmpty)).map groupBlock) := by
  have kept (heaps : List (List String)) :
      heaps.filterMap (fun paths => if paths.isEmpty then none else some (groupBlock paths)) =
        (heaps.filter (!·.isEmpty)).map groupBlock := by
    rw [← List.filterMap_eq_map, List.filterMap_filter]
    refine List.filterMap_congr fun paths _ => ?_
    cases paths <;> rfl
  exact congrArg ("\n\n".intercalate ·) (kept (groups.map t.groupPaths))

theorem exists_group_of_mem_blocks {block : List (List Char)} (member : block ∈ t.blocks) :
    ∃ g, t.groupPaths g ≠ [] ∧
      block = (byParent (t.groupPaths g)).map fun use => (useLine use).toList := by
  obtain ⟨paths, kept, rfl⟩ := List.mem_map.1 member
  obtain ⟨found, filled⟩ := List.mem_filter.1 kept
  obtain ⟨g, _, rfl⟩ := List.mem_map.1 found
  exact ⟨g, by simpa using filled, rfl⟩

theorem byParent_ne_nil (inhabited : paths ≠ [])
    (qualified : ∀ path ∈ paths, ItemPath.Qualified path.toList) : byParent paths ≠ [] := by
  intro none
  have perm := usePaths_byParent_perm qualified
  rw [none] at perm
  exact inhabited perm.nil_eq.symm

section Importable

variable (importable : ∀ path ∈ t.imported, isImportable path = true)

include importable

theorem isImportable_of_mem_groupPaths {g : Group} (member : path ∈ t.groupPaths g) :
    isImportable path = true :=
  importable path (mem_groupPaths.1 member).1

theorem readable_of_mem_groupPaths {g : Group} {use : String × List String}
    (listed : use ∈ byParent (t.groupPaths g)) : Readable use :=
  readable_of_mem_byParent listed fun _ => isImportable_of_mem_groupPaths importable

theorem usePaths_groupPaths_perm (g : Group) :
    ((byParent (t.groupPaths g)).flatMap usePaths).Perm (t.groupPaths g) :=
  usePaths_byParent_perm fun _ member =>
    qualified_of_isImportable (isImportable_of_mem_groupPaths importable member)

theorem listing_perm : (t.listing.flatMap usePaths).Perm t.imported := by
  rw [listing, List.flatMap_assoc]
  exact (List.Perm.flatMap_left _ fun g _ => usePaths_groupPaths_perm importable g).trans
    t.flatMap_groupPaths_perm

theorem pairwise_rank_listing :
    ((t.listing.flatMap usePaths).map fun path => (groupOf path).rank).Pairwise (· ≤ ·) := by
  have alike {g : Group} {path : String}
      (listed : path ∈ (byParent (t.groupPaths g)).flatMap usePaths) : groupOf path = g :=
    (mem_groupPaths.1 ((usePaths_groupPaths_perm importable g).mem_iff.1 listed)).2
  have ranks : groups.Pairwise (·.rank ≤ ·.rank) := by decide
  rw [List.pairwise_map, listing, List.flatMap_assoc, List.pairwise_flatMap]
  constructor
  · intro g _
    refine List.pairwise_of_forall_mem_list fun path listed path' listed' => ?_
    rw [alike listed, alike listed']
  · refine ranks.imp fun {g g'} before path listed path' listed' => ?_
    rwa [alike listed, alike listed']

theorem lines_eq : t.lines = if t.blocks = [] then [[]] else [[]].intercalate t.blocks := by
  have text : t.render.toList =
      ['\n', '\n'].intercalate (t.blocks.map fun block => ['\n'].intercalate block) := by
    rw [render_eq, String.toList_intercalate, blocks, List.map_map, List.map_map]
    congr 1
    refine List.map_congr_left fun paths _ => ?_
    simp [groupBlock, String.toList_intercalate, Function.comp_def]
  rw [lines, text]
  split
  · rename_i blank
    rw [blank]
    rfl
  · rename_i inhabited
    refine splitAll_intercalate_blocks inhabited ?_ ?_
    · intro block member
      obtain ⟨g, filled, rfl⟩ := exists_group_of_mem_blocks member
      simp only [ne_eq, List.map_eq_nil_iff]
      exact byParent_ne_nil filled fun path listed =>
        qualified_of_isImportable (isImportable_of_mem_groupPaths importable listed)
    · intro block member line inside
      obtain ⟨g, _, rfl⟩ := exists_group_of_mem_blocks member
      obtain ⟨use, listed, rfl⟩ := List.mem_map.1 inside
      exact (readable_of_mem_groupPaths importable listed).newline_not_mem_useLine

theorem flatMap_blocks : t.blocks.flatMap (·.filterMap readUse?) = t.listing := by
  have drop (heaps : List (List String)) :
      (heaps.filter (!·.isEmpty)).flatMap byParent = heaps.flatMap byParent := by
    induction heaps with
    | nil => rfl
    | cons paths heaps ih =>
      cases paths with
      | nil => exact ih
      | cons path paths => exact congrArg (byParent (path :: paths) ++ ·) ih
  have read (g : Group) : ((byParent (t.groupPaths g)).map fun use =>
      (useLine use).toList).filterMap readUse? = byParent (t.groupPaths g) := by
    rw [List.filterMap_map]
    conv_rhs => rw [← List.filterMap_some (l := byParent (t.groupPaths g))]
    refine List.filterMap_congr fun use listed => ?_
    exact (readable_of_mem_groupPaths importable listed).readUse?_useLine
  rw [listing, ← List.flatMap_map (f := t.groupPaths), ← drop, blocks, List.flatMap_map]
  refine List.flatMap_congr fun paths kept => ?_
  obtain ⟨g, _, rfl⟩ := List.mem_map.1 (List.mem_filter.1 kept).1
  exact read g

theorem uses_eq_listing : t.uses = t.listing := by
  rw [uses, lines_eq importable, ← flatMap_blocks importable]
  split
  · rename_i blank
    rw [blank]
    rfl
  · exact filterMap_intercalate_blank rfl _

theorem mem_lines {line : List Char} (member : line ∈ t.lines) :
    line = [] ∨ ∃ use, readUse? line = some use ∧ (useLine use).toList = line := by
  have written : line = [] ∨ line ∈ t.blocks.flatten := by
    rw [lines_eq importable] at member
    split at member
    · exact .inl (List.mem_singleton.1 member)
    · exact mem_intercalate_blank member
  refine written.imp_right fun member => ?_
  obtain ⟨block, inside, member⟩ := List.mem_flatten.1 member
  obtain ⟨g, _, rfl⟩ := exists_group_of_mem_blocks inside
  obtain ⟨use, listed, rfl⟩ := List.mem_map.1 member
  exact ⟨use, (readable_of_mem_groupPaths importable listed).readUse?_useLine, rfl⟩

end Importable

/-! ## The whole table -/

/-- What a file can rely on when it takes its names from the table. -/
structure Hygienic (t : ImportTable) (reserved required : List String) : Prop where
  distinct : t.importedNames.Nodup
  unreserved : ∀ name ∈ t.importedNames, name ∉ reserved
  mem_imported_iff : ∀ path, path ∈ t.imported ↔
    isImportable path = true ∧ ItemPath.simpleName path ∉ reserved ∧
      ∃ before after, required = before ++ path :: after ∧ ∀ other ∈ before,
        isImportable other = true → ItemPath.simpleName other ≠ ItemPath.simpleName path
  name_eq : ∀ path, t.name path = if path ∈ t.imported then ItemPath.simpleName path else path
  name_injective : ∀ path other, ItemPath.Qualified path.toList → ItemPath.Qualified other.toList →
    t.name path = t.name other → path = other
  member_eq : ∀ path module item, ItemPath.splitLast? path = some (module, item) →
    t.member path =
      if module ∈ t.imported then ItemPath.join (ItemPath.simpleName module) item else path
  member_eq_member_iff : ∀ path other, ItemPath.Qualified path.toList →
    ItemPath.Qualified other.toList → (t.member path = t.member other ↔
      path = other ∨ t.Shadows path other ∨ t.Shadows other path)
  -- Only blank lines and imports are written.
  readable : ∀ line ∈ t.lines,
    line = [] ∨ ∃ use, readUse? line = some use ∧ (useLine use).toList = line
  once : t.imported.Nodup
  listed : (t.uses.flatMap usePaths).Perm t.imported
  grouped : ((t.uses.flatMap usePaths).map fun path => (groupOf path).rank).Pairwise (· ≤ ·)
  merged : (t.uses.map Prod.fst).Nodup
  sorted : ∀ use ∈ t.uses, use.2.Pairwise (· < ·)

theorem hygienic_ofCalls (reserved required : List String)
    (apart : ∀ name ∈ reserved, localPath name ∉ required) :
    (ofCalls reserved required).Hygienic reserved required := by
  have owned := Owned.ofCalls reserved required apart
  have importable (path : String) (listed : path ∈ (ofCalls reserved required).imported) :=
    owned.isImportable_of_mem listed
  have once : (ofCalls reserved required).imported.Nodup := owned.distinct.of_map _
  have uses := uses_eq_listing importable
  constructor
  case distinct => exact owned.distinct
  case unreserved =>
    intro name member
    obtain ⟨path, listed, rfl⟩ := List.mem_map.1 member
    exact ((owned.imported path).1 listed).1
  case mem_imported_iff =>
    intro path
    rw [owned.imported, firstNamed?_eq_some_iff]
    constructor
    · rintro ⟨free, importable, _, first⟩
      exact ⟨importable, free, first⟩
    · rintro ⟨importable, free, first⟩
      exact ⟨free, importable, rfl, first⟩
  case name_eq => exact name_eq _
  case name_injective => exact fun _ _ => owned.name_injective
  case member_eq => exact fun _ _ _ => ImportTable.member_eq
  case member_eq_member_iff => exact fun _ _ => owned.member_eq_member_iff
  case readable => exact fun _ => mem_lines importable
  case once => exact once
  case listed => exact uses ▸ listing_perm importable
  case grouped => exact uses ▸ pairwise_rank_listing importable
  case merged => exact uses ▸ nodup_listing_parents _
  case sorted => exact fun use listed => pairwise_listing_items once (uses ▸ listed)

theorem hygienic_ofCalls_limits :
    (∀ name ∈ ["Extent3d"], localPath name ∉
      ["lawu_runtime::Segment", "crate::other::Extent3d", "crate::a::Limits", "crate::b::Limits"]) ∧
    (ofCalls ["Extent3d"] ["lawu_runtime::Segment", "crate::other::Extent3d", "crate::a::Limits",
      "crate::b::Limits"]).Hygienic ["Extent3d"] ["lawu_runtime::Segment", "crate::other::Extent3d",
        "crate::a::Limits", "crate::b::Limits"] ∧
    (ofCalls ["Extent3d"] ["lawu_runtime::Segment", "crate::other::Extent3d", "crate::a::Limits",
      "crate::b::Limits"]).imported = ["lawu_runtime::Segment", "crate::a::Limits"] :=
  ⟨by decide +kernel, hygienic_ofCalls _ _ (by decide +kernel), by decide +kernel⟩

/-- An imported module hides the crate of its name, and `member` does not see it. -/
theorem member_reads_two_paths_alike :
    (∀ name ∈ ([] : List String), localPath name ∉ ["crate::sys::vulkan_h"]) ∧
    ItemPath.Qualified "crate::sys::vulkan_h::uint32_t".toList ∧
    ItemPath.Qualified "vulkan_h::uint32_t".toList ∧
    "crate::sys::vulkan_h::uint32_t" ≠ "vulkan_h::uint32_t" ∧
    (ofCalls [] ["crate::sys::vulkan_h"]).member "crate::sys::vulkan_h::uint32_t" =
      "vulkan_h::uint32_t" ∧
    (ofCalls [] ["crate::sys::vulkan_h"]).member "vulkan_h::uint32_t" = "vulkan_h::uint32_t" := by
  decide +kernel

end Bindwright.ImportTable
