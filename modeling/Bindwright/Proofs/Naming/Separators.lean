import Bindwright.Naming.Casing
import Bindwright.Proofs.Text.Case
import Mathlib.Data.Nat.Count

/-!
# Snake case sets words apart

Where a word begins is told from a character and its two neighbours (`BeginsWord`). The snake case
of an ASCII text is the text in lower case with an underscore before each word that begins inside
it (`snakeChars_eq_separated`): the scan keeps only the character before, so the rest of the text
is compared with the text from that character on (`snakeAfter_eq_separated`).

What underscores before any marked characters do to a text is said of `separated`: where the
characters come to stand (`place`), and that no two underscores come together if the marks keep
away from them (`Apart`).
-/

namespace Bindwright.Naming

open Text

/-! ## Texts with separators -/

def Apart (marked : Nat → Prop) (cs : List Char) : Prop :=
  ∀ i, marked i → 0 < i ∧ (∃ previous ∈ cs[i - 1]?, previous ≠ '_') ∧ ∃ c ∈ cs[i]?, c ≠ '_'

theorem Apart.unmarked {marked : Nat → Prop} {cs : List Char} (apart : Apart marked cs) {i : Nat}
    (underscore : cs[i]? = some '_') : ¬marked i ∧ ¬marked (i + 1) := by
  constructor
  · intro mark
    obtain ⟨-, -, c, here, other⟩ := apart i mark
    cases underscore.symm.trans here
    exact other rfl
  · intro mark
    obtain ⟨-, ⟨previous, here, other⟩, -⟩ := apart (i + 1) mark
    cases underscore.symm.trans here
    exact other rfl

section Separated

variable (marked : Nat → Prop) [DecidablePred marked]

def separated (cs : List Char) : List Char :=
  (cs.mapIdx fun i c => if marked i then ['_', c] else [c]).flatten

def place (i : Nat) : Nat := i + Nat.count marked (i + 1)

variable {marked} {cs : List Char}

theorem separated_cons (c : Char) (cs : List Char) :
    separated marked (c :: cs) =
      (if marked 0 then ['_', c] else [c]) ++ separated (fun i => marked (i + 1)) cs := by
  rw [separated, List.mapIdx_cons, List.flatten_cons]
  rfl

theorem separated_congr {marked' : Nat → Prop} [DecidablePred marked']
    (same : ∀ i, marked i ↔ marked' i) (cs : List Char) :
    separated marked cs = separated marked' cs := by
  simp only [separated, same]

theorem separated_of_unmarked (unmarked : ∀ i, ¬marked i) : separated marked cs = cs := by
  induction cs generalizing marked with
  | nil => rfl
  | cons c cs ih =>
    rw [separated_cons, if_neg (unmarked 0), ih fun i => unmarked (i + 1)]
    rfl

theorem mem_separated {d : Char} (member : d ∈ separated marked cs) : d = '_' ∨ d ∈ cs := by
  obtain ⟨piece, listed, inside⟩ := List.mem_flatten.1 member
  obtain ⟨i, within, rfl⟩ := List.mem_mapIdx.1 listed
  have there : cs[i] ∈ cs := List.getElem_mem within
  split at inside
  · rcases List.mem_cons.1 inside with mark | own
    · exact .inl mark
    · exact .inr (List.mem_singleton.1 own ▸ there)
  · exact .inr (List.mem_singleton.1 inside ▸ there)

theorem filter_separated :
    (separated marked cs).filter (· ≠ '_') = cs.filter (· ≠ '_') := by
  induction cs generalizing marked with
  | nil => rfl
  | cons c cs ih =>
    have piece : (if marked 0 then ['_', c] else [c]).filter (· ≠ '_') = [c].filter (· ≠ '_') := by
      split <;> rfl
    rw [separated_cons, List.filter_append, ih, piece, ← List.filter_append]
    rfl

theorem place_zero : place marked 0 = if marked 0 then 1 else 0 := by
  rw [place, Nat.count_succ, Nat.count_zero, Nat.zero_add, Nat.zero_add]

theorem place_succ (i : Nat) :
    place marked (i + 1) = place marked i + 1 + if marked (i + 1) then 1 else 0 := by
  rw [place, Nat.count_succ, place]
  omega

theorem place_tail (i : Nat) :
    place marked (i + 1) = place (fun i => marked (i + 1)) i + if marked 0 then 2 else 1 := by
  rw [place, Nat.count_succ', place]
  split <;> omega

theorem place_of_marked {i : Nat} (mark : marked i) :
    place marked i = i + Nat.count marked i + 1 := by
  rw [place, Nat.count_succ, if_pos mark, Nat.add_assoc]

theorem exists_place (marked : Nat → Prop) [DecidablePred marked] (j : Nat) :
    (∃ i, place marked i = j) ∨ ∃ i, marked i ∧ place marked i = j + 1 := by
  induction j with
  | zero =>
    by_cases first : marked 0
    · exact .inr ⟨0, first, by rw [place_zero, if_pos first]⟩
    · exact .inl ⟨0, by rw [place_zero, if_neg first]⟩
  | succ j ih =>
    rcases ih with ⟨i, here⟩ | ⟨i, -, next⟩
    · by_cases mark : marked (i + 1)
      · exact .inr ⟨i + 1, mark, by rw [place_succ, if_pos mark, here]⟩
      · exact .inl ⟨i + 1, by rw [place_succ, if_neg mark, here]⟩
    · exact .inl ⟨i, next⟩

theorem getElem?_separated_tail (c : Char) (cs : List Char) (j : Nat) :
    (separated marked (c :: cs))[j + if marked 0 then 2 else 1]? =
      (separated (fun i => marked (i + 1)) cs)[j]? := by
  rw [separated_cons]
  split <;> rfl

theorem getElem?_place (i : Nat) : (separated marked cs)[place marked i]? = cs[i]? := by
  induction cs generalizing marked i with
  | nil => rfl
  | cons c cs ih =>
    cases i with
    | zero =>
      rw [place_zero, separated_cons]
      split <;> rfl
    | succ i =>
      rw [place_tail, getElem?_separated_tail, List.getElem?_cons_succ]
      exact ih i

theorem getElem?_place_add_one {i : Nat} (unmarked : ¬marked (i + 1)) :
    (separated marked cs)[place marked i + 1]? = cs[i + 1]? := by
  have next : (separated marked cs)[place marked (i + 1)]? = cs[i + 1]? := getElem?_place (i + 1)
  rwa [place_succ, if_neg unmarked, Nat.add_zero] at next

theorem getElem?_mark {i : Nat} (mark : marked i) (inside : i < cs.length) :
    (separated marked cs)[i + Nat.count marked i]? = some '_' := by
  induction cs generalizing marked i with
  | nil => cases inside
  | cons c cs ih =>
    cases i with
    | zero =>
      rw [separated_cons, if_pos mark]
      rfl
    | succ i =>
      have index : i + 1 + Nat.count marked (i + 1) =
          i + Nat.count (fun i => marked (i + 1)) i + if marked 0 then 2 else 1 := by
        rw [Nat.count_succ']
        split <;> omega
      rw [index, getElem?_separated_tail]
      exact ih mark (Nat.lt_of_succ_lt_succ inside)

namespace Apart

variable (apart : Apart marked cs)

include apart

theorem between {i : Nat} (mark : marked i) :
    ∃ j, place marked i = j + 2 ∧ (∃ previous ∈ (separated marked cs)[j]?, previous ≠ '_') ∧
      (separated marked cs)[j + 1]? = some '_' ∧
      ∃ c ∈ (separated marked cs)[j + 2]?, c ≠ '_' := by
  obtain ⟨later, previous, here⟩ := apart i mark
  obtain ⟨k, rfl⟩ : ∃ k, i = k + 1 := ⟨i - 1, by omega⟩
  have next : place marked (k + 1) = place marked k + 2 := by rw [place_succ, if_pos mark]
  refine ⟨place marked k, next, ?_, ?_, ?_⟩
  · rwa [getElem?_place]
  · have inside : k + 1 < cs.length := by
      obtain ⟨c, there, -⟩ := here
      exact (List.getElem?_eq_some_iff.1 there).1
    have index := place_of_marked mark
    rw [next] at index
    rw [Nat.succ.inj index]
    exact getElem?_mark mark inside
  · rwa [← next, getElem?_place]

theorem doubled_iff (j : Nat) :
    ((separated marked cs)[j]? = some '_' ∧ (separated marked cs)[j + 1]? = some '_') ↔
      ∃ i, place marked i = j ∧ cs[i]? = some '_' ∧ cs[i + 1]? = some '_' := by
  constructor
  · rintro ⟨here, next⟩
    rcases exists_place marked j with ⟨i, rfl⟩ | ⟨i, mark, behind⟩
    · rw [getElem?_place] at here
      rw [getElem?_place_add_one (apart.unmarked here).2] at next
      exact ⟨i, rfl, here, next⟩
    · rw [← behind, getElem?_place] at next
      exact absurd mark (apart.unmarked next).1
  · rintro ⟨i, rfl, here, next⟩
    rw [getElem?_place, getElem?_place_add_one (apart.unmarked next).1]
    exact ⟨here, next⟩

end Apart

end Separated

/-! ## Where words begin -/

/-- A word begins at index `i`: at a capital behind a small letter, or behind a capital or digit
and before a small letter. -/
def BeginsWord (cs : List Char) (i : Nat) : Prop :=
  0 < i ∧ ∃ previous ∈ cs[i - 1]?, ∃ c ∈ cs[i]?, c.isUpper ∧
    (previous.isLower ∨
      ((previous.isUpper ∨ previous.isDigit) ∧ ∃ next ∈ cs[i + 1]?, next.isLower))

instance (cs : List Char) : DecidablePred (BeginsWord cs) :=
  fun _ => inferInstanceAs (Decidable (_ ∧ _))

theorem not_beginsWord_zero (cs : List Char) : ¬BeginsWord cs 0 :=
  fun begins => absurd begins.1 (Nat.lt_irrefl 0)

theorem beginsWord_cons_succ (previous : Char) (cs : List Char) (i : Nat) :
    BeginsWord (previous :: cs) (i + 2) ↔ BeginsWord cs (i + 1) := by
  simp [BeginsWord]

theorem startsWord_iff {previous c : Char} {cs : List Char}
    (ascii : IsAscii (previous :: c :: cs)) :
    startsWord previous c cs.head? = true ↔ BeginsWord (previous :: c :: cs) 1 := by
  obtain ⟨first, second, rest⟩ := (List.forall_mem_cons.1 ascii).imp_right List.forall_mem_cons.1
  obtain ⟨upper, lower, -⟩ := cases_of_ascii first
  obtain ⟨upper', -, -⟩ := cases_of_ascii second
  have follows : cs.head?.any isLowercase = true ↔
      ∃ next ∈ (previous :: c :: cs)[1 + 1]?, next.isLower = true := by
    cases cs with
    | nil => simp
    | cons d cs => simp [(cases_of_ascii (rest d List.mem_cons_self)).2.1]
  simp only [startsWord, BeginsWord, Bool.and_eq_true, Bool.or_eq_true, upper, lower, upper',
    follows]
  simp

section Ascii

variable {cs : List Char} (ascii : IsAscii cs)

include ascii

theorem apart_beginsWord : Apart (BeginsWord cs) (cs.map Char.toLower) := by
  rintro i ⟨positive, previous, before, c, here, capital, reason⟩
  have kept {d : Char} {k : Nat} (there : cs[k]? = some d) (other : d ≠ '_') :
      ∃ e ∈ (cs.map Char.toLower)[k]?, e ≠ '_' := by
    refine ⟨d.toLower, by rw [List.getElem?_map, there]; rfl, fun same => other ?_⟩
    exact (toLower_of_ascii d (ascii d (List.mem_of_getElem? there))).2.2.2.1 same
  refine ⟨positive, kept before ?_, kept here ?_⟩
  · rintro rfl
    rcases reason with small | ⟨large | digit, -⟩
    · exact absurd small (by decide)
    · exact absurd large (by decide)
    · exact absurd digit (by decide)
  · rintro rfl
    exact absurd capital (by decide)

theorem snakeAfter_eq_separated {previous : Char} (first : previous.toNat < 128) :
    snakeAfter previous cs =
      separated (fun i => BeginsWord (previous :: cs) (i + 1)) (cs.map Char.toLower) := by
  induction cs generalizing previous with
  | nil => rfl
  | cons c cs ih =>
    obtain ⟨here, rest⟩ := List.forall_mem_cons.1 ascii
    have starts := startsWord_iff (List.forall_mem_cons.2 ⟨first, ascii⟩)
    -- Further on, words begin as in the text from `c` on: no word is told from more than one
    -- character before it.
    have shifted := separated_congr (beginsWord_cons_succ previous (c :: cs))
      (cs.map Char.toLower)
    rw [snakeAfter, (cases_of_ascii here).2.2, ih rest here, List.map_cons, separated_cons, shifted]
    by_cases begins : BeginsWord (previous :: c :: cs) 1
    · rw [if_pos (starts.2 begins), if_pos begins]
    · rw [if_neg (begins ∘ starts.1), if_neg begins]

theorem snakeChars_eq_separated :
    snakeChars cs = separated (BeginsWord cs) (cs.map Char.toLower) := by
  cases cs with
  | nil => rfl
  | cons c cs =>
    obtain ⟨here, rest⟩ := List.forall_mem_cons.1 ascii
    rw [snakeChars, (cases_of_ascii here).2.2, snakeAfter_eq_separated rest here, List.map_cons,
      separated_cons, if_neg (not_beginsWord_zero _)]

theorem of_mem_snakeChars {d : Char} (member : d ∈ snakeChars cs) :
    d.toNat < 128 ∧ d.isUpper = false ∧ d.toLower = d := by
  rw [snakeChars_eq_separated ascii] at member
  rcases mem_separated member with rfl | lowered
  · decide
  · obtain ⟨c, listed, rfl⟩ := List.mem_map.1 lowered
    obtain ⟨own, small, fixed, -⟩ := toLower_of_ascii c (ascii c listed)
    exact ⟨own, small, fixed⟩

theorem snakeChars_snakeChars : snakeChars (snakeChars cs) = snakeChars cs := by
  have small {d : Char} (member : d ∈ snakeChars cs) := of_mem_snakeChars ascii member
  -- Without capitals no word begins, so there is nothing to set apart.
  have wordless (i : Nat) : ¬BeginsWord (snakeChars cs) i := by
    rintro ⟨-, previous, -, c, here, capital, -⟩
    have uncapital := (small (List.mem_of_getElem? here)).2.1
    exact Bool.false_ne_true (uncapital.symm.trans capital)
  rw [snakeChars_eq_separated fun d member => (small member).1, separated_of_unmarked wordless]
  exact (List.map_congr_left fun d member => (small member).2.2).trans (List.map_id _)

end Ascii

/-- How a text is written with its words apart. -/
structure WordsApart (cs out : List Char) : Prop where
  -- One underscore before each word that begins inside the text, and nothing else between.
  written : out = separated (BeginsWord cs) (cs.map Char.toLower)
  found : ∀ i, out[place (BeginsWord cs) i]? = cs[i]?.map Char.toLower
  capital : ∀ i, BeginsWord cs i → 0 < i ∧ ∃ c ∈ cs[i]?, isUppercase c = true
  between : ∀ i, BeginsWord cs i → ∃ j, place (BeginsWord cs) i = j + 2 ∧
    (∃ previous ∈ out[j]?, previous ≠ '_') ∧ out[j + 1]? = some '_' ∧
    ∃ c ∈ out[j + 2]?, c ≠ '_'
  doubled_iff : ∀ j, (out[j]? = some '_' ∧ out[j + 1]? = some '_') ↔
    ∃ i, place (BeginsWord cs) i = j ∧ cs[i]? = some '_' ∧ cs[i + 1]? = some '_'
  letters : out.filter (· ≠ '_') = (cs.map Char.toLower).filter (· ≠ '_')
  small : ∀ c ∈ out, isUppercase c = false

theorem wordsApart_snakeChars {cs : List Char} (ascii : IsAscii cs) :
    WordsApart cs (snakeChars cs) := by
  have written := snakeChars_eq_separated ascii
  have apart := apart_beginsWord ascii
  have underscore (i : Nat) : (cs.map Char.toLower)[i]? = some '_' ↔ cs[i]? = some '_' := by
    rw [List.getElem?_map, Option.map_eq_some_iff]
    constructor
    · rintro ⟨c, here, same⟩
      rw [here, (toLower_of_ascii c (ascii c (List.mem_of_getElem? here))).2.2.2.1 same]
    · exact fun here => ⟨'_', here, rfl⟩
  constructor
  · exact written
  · intro i
    rw [written, getElem?_place, List.getElem?_map]
  · rintro i ⟨positive, -, -, c, here, capital, -⟩
    rw [← (cases_of_ascii (ascii c (List.mem_of_getElem? here))).1] at capital
    exact ⟨positive, c, here, capital⟩
  · intro i begins
    rw [written]
    exact apart.between begins
  · intro j
    rw [written, apart.doubled_iff]
    simp only [underscore]
  · rw [written, filter_separated]
  · intro d member
    obtain ⟨own, small, -⟩ := of_mem_snakeChars ascii member
    rw [(cases_of_ascii own).1, small]

/-- Snake case puts the characters of an ASCII text in lower case, sets its words apart, and has
nothing more to do the second time. -/
theorem snakeCase_only_separates {name : String} (ascii : IsAscii name.toList) :
    WordsApart name.toList (snakeCase name).toList ∧
      snakeCase (snakeCase name) = snakeCase name := by
  constructor
  · rw [snakeCase, String.toList_ofList]
    exact wordsApart_snakeChars ascii
  · rw [snakeCase, snakeCase, String.toList_ofList, snakeChars_snakeChars ascii]

theorem snakeCase_only_separates_acronyms :
    IsAscii "_VkHDR2DImage__UUIDs".toList ∧
      snakeCase "_VkHDR2DImage__UUIDs" = "_vk_hdr2d_image__uui_ds" ∧
      WordsApart "_VkHDR2DImage__UUIDs".toList "_vk_hdr2d_image__uui_ds".toList ∧
      snakeCase "_vk_hdr2d_image__uui_ds" = "_vk_hdr2d_image__uui_ds" := by
  have ascii : IsAscii "_VkHDR2DImage__UUIDs".toList := by decide
  have spelled : snakeCase "_VkHDR2DImage__UUIDs" = "_vk_hdr2d_image__uui_ds" := by decide
  have apart := snakeCase_only_separates ascii
  rw [spelled] at apart
  exact ⟨ascii, spelled, apart⟩

end Bindwright.Naming
