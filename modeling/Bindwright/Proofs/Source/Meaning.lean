import Bindwright.Proofs.Source.Imports

/-!
# What a path means in a module

A path that begins with a name means what the module declares or imports under that name, or
something outside (`Scope.Denotes`, at most one path each: `Scope.Denotes.unique`). A type is
recorded with the first name spelled out by the imports that are known, so the text is that of the
path meant for imports that lead away from the module, but not for what the module itself declares
and not for paths relative to it (`Scope.records`).
-/

namespace Bindwright.Source

structure Scope where
  around : Names
  module : String
  items : List Item

def startWords : List String := ["crate", "self", "super"]

def Item.typeName? : Item → Option String
  | .structure head | .enumeration head | .behaviour head | .synonym head _ => some head.name.text
  | .nested name _ => some name
  | _ => none

namespace Scope

def names (s : Scope) : Names := Names.within s.around s.module s.items

def path (s : Scope) : List String := ItemPath.segments s.module

def Declares (s : Scope) (name : String) : Prop :=
  name ∉ startWords ∧ ∃ item ∈ s.items, item.typeName? = some name

def Open (s : Scope) (others : String → Option (List String)) (name : String) : Prop :=
  name ∉ startWords ∧ ¬ s.Declares name ∧ others name = none

/-- What a path means in a module, as a path that begins at the crate's root or with another crate.
`others` are the names of items that the reader does not keep, and those that a glob brings in. -/
inductive Denotes (s : Scope) (others : String → Option (List String)) :
    List String → List String → Prop where
  | positioned {name : String} {rest : List String} : name ∈ startWords →
      (name :: rest).count "super" < s.path.length →
      Denotes s others (name :: rest) (fromRoot s.path (name :: rest))
  | declared {name : String} {rest : List String} : s.Declares name →
      Denotes s others (name :: rest) (s.path ++ name :: rest)
  | other {name : String} {rest path : List String} : name ∉ startWords → ¬ s.Declares name →
      others name = some path → path ≠ [] → Denotes s others (name :: rest) (path ++ rest)
  -- An import of a crate by its own name.
  | itself {name : String} {rest : List String} {leaf : ImportLeaf} : s.Open others name →
      importOf? s.items name = some leaf → leaf.item.head? = some name →
      Denotes s others (name :: rest) (leaf.item ++ rest)
  | imported {name : String} {rest path : List String} {leaf : ImportLeaf} : s.Open others name →
      importOf? s.items name = some leaf → leaf.item.head? ≠ some name →
      Denotes s others leaf.item path → Denotes s others (name :: rest) (path ++ rest)
  | outside {name : String} {rest : List String} : s.Open others name →
      importOf? s.items name = none → Denotes s others (name :: rest) (name :: rest)

def Rooted (s : Scope) (others : String → Option (List String)) (name : String)
    (leaf : ImportLeaf) : Prop :=
  ∃ first ∈ leaf.item.head?, first = name ∨ first ∈ startWords ∨
    ∃ path, s.Denotes others [first] path ∧ "::".intercalate path = first

variable {s : Scope} {others : String → Option (List String)}

theorem ascend_ne_nil {module rest : List String} (shallow : rest.count "super" < module.length) :
    ascend module rest ≠ [] := by
  fun_induction ascend module rest with
  | case1 module rest ih =>
    rw [List.count_cons_self] at shallow
    exact ih (by rw [List.length_dropLast]; omega)
  | case2 module rest =>
    have inhabited : module ≠ [] := List.length_pos_iff.1 (by omega)
    exact fun empty => inhabited (List.append_eq_nil_iff.1 empty).1

theorem fromRoot_ne_nil {module path : List String} (inhabited : path ≠ [])
    (shallow : path.count "super" < module.length) : fromRoot module path ≠ [] := by
  fun_cases fromRoot module path with
  | case1 rest => exact ascend_ne_nil (by rwa [List.count_cons_of_ne (by decide)] at shallow)
  | case2 rest => exact ascend_ne_nil shallow
  | case3 => exact inhabited

namespace Denotes

theorem ne_nil {path meant : List String} (denotes : s.Denotes others path meant) : meant ≠ [] := by
  induction denotes with
  | positioned _ shallow => exact fromRoot_ne_nil (List.cons_ne_nil _ _) shallow
  | declared | outside => simp
  | other _ _ _ inhabited => simp [inhabited]
  | itself _ _ first =>
    obtain ⟨rest, item⟩ := List.head?_eq_some_iff.1 first
    simp [item]
  | imported _ _ _ _ ih => simp [ih]

theorem exists_front {name : String} {rest meant : List String} (plain : name ∉ startWords)
    (denotes : s.Denotes others (name :: rest) meant) :
    ∃ front, s.Denotes others [name] front ∧ meant = front ++ rest := by
  cases denotes with
  | positioned start => exact absurd start plain
  | declared declares => exact ⟨_, .declared declares, by simp⟩
  | other _ hidden found inhabited => exact ⟨_, .other plain hidden found inhabited, by simp⟩
  | itself free found first => exact ⟨_, .itself free found first, by simp⟩
  | imported free found first inner => exact ⟨_, .imported free found first inner, by simp⟩
  | outside free found => exact ⟨_, .outside free found, rfl⟩

theorem of_import {name : String} {rest meant : List String} {leaf : ImportLeaf}
    (free : s.Open others name) (found : importOf? s.items name = some leaf)
    (denotes : s.Denotes others (name :: rest) meant) :
    leaf.item.head? = some name ∧ meant = leaf.item ++ rest ∨
      leaf.item.head? ≠ some name ∧
        ∃ path, s.Denotes others leaf.item path ∧ meant = path ++ rest := by
  cases denotes with
  | positioned start => exact absurd start free.1
  | declared declares => exact absurd declares free.2.1
  | other _ _ found' => exact absurd (found'.symm.trans free.2.2) (by simp)
  | itself _ found' first =>
    obtain rfl := Option.some_inj.1 (found'.symm.trans found)
    exact .inl ⟨first, rfl⟩
  | imported _ found' first inner =>
    obtain rfl := Option.some_inj.1 (found'.symm.trans found)
    exact .inr ⟨first, _, inner, rfl⟩
  | outside _ found' => exact absurd (found.symm.trans found') (by simp)

theorem of_no_import {name : String} {rest meant : List String} (free : s.Open others name)
    (found : importOf? s.items name = none) (denotes : s.Denotes others (name :: rest) meant) :
    meant = name :: rest := by
  cases denotes with
  | positioned start => exact absurd start free.1
  | declared declares => exact absurd declares free.2.1
  | other _ _ found' => exact absurd (found'.symm.trans free.2.2) (by simp)
  | itself _ found' | imported _ found' => exact absurd (found.symm.trans found') (by simp)
  | outside => rfl

theorem of_declares {name : String} {rest meant : List String} (declares : s.Declares name)
    (denotes : s.Denotes others (name :: rest) meant) : meant = s.path ++ name :: rest := by
  cases denotes with
  | positioned start => exact absurd start declares.1
  | declared => rfl
  | other _ hidden => exact absurd declares hidden
  | itself free | imported free | outside free => exact absurd declares free.2.1

theorem of_start {name : String} {rest meant : List String} (start : name ∈ startWords)
    (denotes : s.Denotes others (name :: rest) meant) :
    meant = fromRoot s.path (name :: rest) := by
  cases denotes with
  | positioned => rfl
  | declared declares => exact absurd start declares.1
  | other plain => exact absurd start plain
  | itself free | imported free | outside free => exact absurd start free.1

theorem unique {path one two : List String} (left : s.Denotes others path one)
    (right : s.Denotes others path two) : one = two := by
  induction left generalizing two with
  | positioned start => exact (right.of_start start).symm
  | declared declares => exact (right.of_declares declares).symm
  | other plain hidden found =>
    cases right with
    | positioned start => exact absurd start plain
    | declared declares => exact absurd declares hidden
    | other _ _ found' => rw [Option.some_inj.1 (found.symm.trans found')]
    | itself free | imported free | outside free =>
      exact absurd (found.symm.trans free.2.2) (by simp)
  | itself free found first =>
    rcases right.of_import free found with ⟨-, same⟩ | ⟨different, -⟩
    · exact same.symm
    · exact absurd first different
  | imported free found different _ ih =>
    rcases right.of_import free found with ⟨first, -⟩ | ⟨-, path, inner, same⟩
    · exact absurd first different
    · rw [same, ih inner]
  | outside free found => exact (right.of_no_import free found).symm

end Denotes

end Scope

def Segment.argumentText (names : Names) : Segment → String
  | .applied _ types =>
    match typeTexts names types with
    | [] => ""
    | texts => "<" ++ ", ".intercalate texts ++ ">"
  | _ => ""

def spelledWith (names : Names) (path : List String) (first : Segment) (rest : List Segment) :
    String :=
  "::".intercalate
    (("::".intercalate path ++ first.argumentText names) :: segmentTexts names false rest)

theorem spelledWith_inj {names : Names} {first : Segment} {rest : List Segment}
    {one two : List String} :
    spelledWith names one first rest = spelledWith names two first rest ↔
      "::".intercalate one = "::".intercalate two := by
  rw [spelledWith, spelledWith, intercalate_cons_inj, String.append_left_inj]

theorem printed_path (names : Names) (first : Segment) (rest : List Segment) :
    (TypeForm.path false (first :: rest)).printed names =
      spelledWith names [(names.find? first.name).getD first.name] first rest := by
  have leads : first.printed names (!false) =
      (names.find? first.name).getD first.name ++ first.argumentText names := by
    cases first with
    | plain name | callable name => exact (String.append_empty).symm
    | applied name types =>
      rw [Segment.printed, Segment.argumentText]
      rfl
  rw [TypeForm.printed, segmentTexts, spelledWith, String.intercalate_singleton, leads]

namespace Scope

variable {s : Scope} {others : String → Option (List String)}

theorem find?_names_of_import {name : String} {leaf : ImportLeaf}
    (found : importOf? s.items name = some leaf) :
    s.names.find? name = some (qualify s.module leaf.kept) := by
  rw [names, find?_within, found]
  rfl

theorem fromRoot_plain {first : String} (plain : first ∉ startWords) (module rest : List String) :
    fromRoot module (first :: rest) = first :: rest := by
  rw [startWords, List.mem_cons, List.mem_cons, List.mem_singleton, not_or, not_or] at plain
  exact fromRoot.eq_3 module _ (by simp [plain.2.1]) (by simp [plain.2.2])

theorem qualify_plain {first : String} (plain : first ∉ startWords) (module : String)
    (rest : List String) :
    qualify module (first :: rest) = "::".intercalate (first :: rest) := by
  rw [startWords, List.mem_cons, List.mem_cons, List.mem_singleton, not_or, not_or] at plain
  exact qualify.eq_3 module _ (by simp [plain.2.1]) (by simp [plain.2.2])

theorem qualify_kept_ne {first : String} {tail front : List String} {leaf : ImportLeaf}
    (item : leaf.item = first :: tail) (plain : first ∉ startWords)
    (denotes : s.Denotes others [first] front) (elsewhere : "::".intercalate front ≠ first)
    (named : ¬ "::self".toList <:+ ("::".intercalate (front ++ tail)).toList) :
    qualify s.module leaf.kept ≠ "::".intercalate (front ++ tail) := by
  intro same
  by_cases renamed : leaf.alias?.isSome ∧ leaf.EndsInSelf
  · -- the text ends in `self`, as no path of an item does
    have whole := (ImportLeaf.item_concat_self renamed.2).1
    rw [ImportLeaf.kept, if_pos renamed.1, whole, item, List.cons_append, qualify_plain plain,
      ← List.cons_append, intercalate_append (List.cons_ne_nil _ _), String.intercalate_cons_cons,
      String.intercalate_singleton, String.append_assoc] at same
    exact named ⟨("::".intercalate (first :: tail)).toList, by rw [← same, String.toList_append]; rfl⟩
  · rw [ImportLeaf.kept_eq_item renamed, item, qualify_plain plain,
      intercalate_append denotes.ne_nil, intercalate_cons_inj] at same
    exact elsewhere same.symm

theorem qualify_kept_iff_rooted {name : String} {leaf : ImportLeaf} {path : List String}
    (free : s.Open others name) (found : importOf? s.items name = some leaf)
    (denotes : s.Denotes others [name] path)
    (named : ¬ "::self".toList <:+ ("::".intercalate path).toList) :
    qualify s.module leaf.kept = "::".intercalate path ↔
      ¬ leaf.Misread ∧ s.Rooted others name leaf := by
  -- if the path meant is the one read from the root, imports that are not misread are right
  have read (same : "::".intercalate path = leaf.denoted s.module)
      (rooted : s.Rooted others name leaf) :
      qualify s.module leaf.kept = "::".intercalate path ↔
        ¬ leaf.Misread ∧ s.Rooted others name leaf := by
    rw [same, ImportLeaf.qualify_kept_iff, and_iff_left rooted]
  obtain ⟨first, tail, item⟩ : ∃ first tail, leaf.item = first :: tail := by
    rcases denotes.of_import free found with ⟨own, -⟩ | ⟨-, inner, denotes, -⟩
    · obtain ⟨tail, item⟩ := List.head?_eq_some_iff.1 own
      exact ⟨name, tail, item⟩
    · cases item : leaf.item with
      | nil =>
        rw [item] at denotes
        cases denotes
      | cons first tail => exact ⟨first, tail, rfl⟩
  have denoted : leaf.denoted s.module = "::".intercalate (fromRoot s.path (first :: tail)) := by
    rw [ImportLeaf.denoted, item]
    rfl
  have leads : leaf.item.head? = some first := by rw [item, List.head?_cons]
  rcases denotes.of_import free found with ⟨own, same⟩ | ⟨different, inner, denotes, same⟩
  · rw [List.append_nil] at same
    obtain rfl : first = name := Option.some_inj.1 (leads.symm.trans own)
    exact read (by rw [denoted, same, item, fromRoot_plain free.1]) ⟨first, leads, .inl rfl⟩
  · rw [List.append_nil] at same
    rw [item] at denotes
    subst same
    by_cases start : first ∈ startWords
    · exact read (by rw [denoted, denotes.of_start start]) ⟨first, leads, .inr (.inl start)⟩
    · obtain ⟨front, outer, rfl⟩ := denotes.exists_front start
      by_cases own : "::".intercalate front = first
      · refine read ?_ ⟨first, leads, .inr (.inr ⟨front, outer, own⟩)⟩
        rw [denoted, fromRoot_plain start, intercalate_append outer.ne_nil, own]
      · constructor
        · exact fun same => absurd same (qualify_kept_ne item start outer own named)
        · rintro ⟨-, other, leads', rooted⟩
          obtain rfl : first = other := Option.some_inj.1 (leads.symm.trans leads')
          rcases rooted with rfl | start' | ⟨front', outer', own'⟩
          · exact absurd leads different
          · exact absurd start' start
          · exact absurd (outer'.unique outer ▸ own') own

/-- What is recorded in a module for a path that begins with `first`. The path meant is recorded for
an import that leads to it straight from the root, and for what the module declares only if
an import of that name happens to spell it. A path relative to the module never becomes one from the
root. -/
structure Records (s : Scope) (first : Segment) (rest : List Segment) (text : String) : Prop where
  meant : ∀ path, text = spelledWith s.names path first rest ↔
    (s.names.find? first.name).getD first.name = "::".intercalate path
  imported : ∀ others leaf path, s.Open others first.name →
    importOf? s.items first.name = some leaf → s.Denotes others [first.name] path →
    ¬ "::self".toList <:+ ("::".intercalate path).toList →
    (text = spelledWith s.names path first rest ↔
      ¬ leaf.Misread ∧ s.Rooted others first.name leaf)
  declared : ∀ others path, s.Declares first.name → s.Denotes others [first.name] path →
    (text = spelledWith s.names path first rest ↔
      s.names.find? first.name = some ("::".intercalate path))
  relative : first.name ∈ ["self", "super"] → s.names.find? first.name = none →
    ∀ names, text ≠ "::".intercalate ("crate" :: names)

theorem records (s : Scope) (first : Segment) (rest : List Segment) :
    s.Records first rest ((TypeForm.path false (first :: rest)).printed s.names) := by
  have meant : ∀ path, (TypeForm.path false (first :: rest)).printed s.names =
      spelledWith s.names path first rest ↔
        (s.names.find? first.name).getD first.name = "::".intercalate path := by
    intro path
    rw [printed_path, spelledWith_inj, String.intercalate_singleton]
  refine ⟨meant, ?_, ?_, ?_⟩
  · intro others leaf path free found denotes named
    rw [meant, find?_names_of_import found]
    exact qualify_kept_iff_rooted free found denotes named
  · intro others path declares denotes
    have own := denotes.of_declares declares
    rw [meant]
    cases s.names.find? first.name with
    | some known => simp
    | none =>
      -- A declared item lies below the module, so its path is longer than its name.
      have longer : first.name ≠ "::".intercalate path := by
        intro same
        have lengths := congrArg String.length same
        rw [own, length_intercalate, weight_append, weight, weight] at lengths
        have outer : 2 ≤ weight s.path := two_le_weight (segments_ne_nil s.module)
        omega
      simpa using longer
  · intro relative unknown names
    rw [printed_path, unknown, spelledWith, String.intercalate_singleton, Option.getD_none]
    intro same
    -- Neither `self` nor `super` begins like `crate`.
    have letter : first.name.toList.head? = some 's' := by
      rcases List.mem_pair.1 relative with named | named <;> rw [named] <;> decide
    have inhabited : first.name.toList ≠ [] := fun empty => by simp [empty] at letter
    have filled : first.name ++ first.argumentText s.names ≠ "" := by
      intro empty
      exact inhabited (List.append_eq_nil_iff.1
        (String.toList_append.symm.trans (congrArg String.toList empty))).1
    have letters := congrArg (·.toList.head?) same
    rw [head?_intercalate filled, head?_intercalate (by decide), String.toList_append,
      List.head?_append_of_ne_nil _ inhabited, letter] at letters
    exact absurd letters (by decide)

end Scope
end Bindwright.Source
