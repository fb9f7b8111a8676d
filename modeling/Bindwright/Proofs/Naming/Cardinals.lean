import Bindwright.Naming.Number
import Bindwright.Text.Affix
import Mathlib.Data.List.Basic
import Mathlib.Data.List.TakeWhile

namespace Bindwright.Naming

open Text

def pieces (c : Char) (text : String) : List String := (splitAll c text.toList).map String.ofList

namespace Cardinals

/-! ## Reading -/

def small? (word : String) : Option Nat := (smallNumbers.idxOf? word).filter (0 < ·)

def digit? (word : String) : Option Nat := (small? word).filter (· < 10)

def ten? (word : String) : Option Nat := (tens.idxOf? word).map fun i => 10 * (i + 2)

def belowHundred? : List String → Option Nat
  | [word] => small? word <|> ten? word
  | [ten, digit] => do return (← ten? ten) + (← digit? digit)
  | _ => none

def belowThousand? : List String → Option Nat
  | digit :: "hundred" :: rest => do
    let hundreds ← digit? digit
    if rest = [] then return 100 * hundreds else return 100 * hundreds + (← belowHundred? rest)
  | parts => belowHundred? parts

/-- What stands before the word of a scale counts its multiples, and what stands after it is
below the scale. -/
def byScale? : List (Nat × String) → List String → Option Nat
  | [], parts => belowThousand? parts
  | (scale, word) :: scales, parts =>
    let before := parts.takeWhile (· ≠ word)
    match parts.dropWhile (· ≠ word) with
    | [] => byScale? scales parts
    | [_] => (belowThousand? before).map (· * scale)
    | _ :: after => do return (← belowThousand? before) * scale + (← byScale? scales after)

def ofParts? : List String → Option Nat
  | ["zero"] => some 0
  | parts => byScale? scales parts

def partsOfWord? (word : String) : Option (List String) :=
  match pieces '-' word with
  | [part] => some [part]
  | [ten, digit] => if (ten? ten).isSome ∧ (digit? digit).isSome then some [ten, digit] else none
  | _ => none

def ofText? (text : String) : Option Nat := do
  ofParts? (← (pieces ' ' text).mapM partsOfWord?).flatten

def partsOfConstant (name : List Char) : List String :=
  (splitAll '_' name).map fun part => String.ofList (part.map Char.toLower)

def ofConstant? (name : List Char) : Option Nat := ofParts? (partsOfConstant name)

section Steps

variable {scale : Nat} {word : String} {scales : List (Nat × String)} {front parts : List String}

theorem byScale?_of_not_mem (absent : word ∉ parts) :
    byScale? ((scale, word) :: scales) parts = byScale? scales parts := by
  have passed : parts.dropWhile (· ≠ word) = [] :=
    List.dropWhile_eq_nil_iff.2 fun part member => decide_eq_true fun same => absent (same ▸ member)
  rw [byScale?, passed]

theorem byScale?_append (absent : word ∉ front) :
    byScale? ((scale, word) :: scales) (front ++ word :: parts) =
      if parts = [] then (belowThousand? front).map (· * scale)
      else do return (← belowThousand? front) * scale + (← byScale? scales parts) := by
  have others : ∀ part ∈ front, decide (part ≠ word) = true := fun part member =>
    decide_eq_true fun same => absent (same ▸ member)
  have before : (front ++ word :: parts).takeWhile (· ≠ word) = front := by
    rw [List.takeWhile_append_of_pos others, List.takeWhile_cons_of_neg (by simp), List.append_nil]
  have after : (front ++ word :: parts).dropWhile (· ≠ word) = word :: parts := by
    rw [List.dropWhile_append_of_pos others, List.dropWhile_cons_of_neg (by simp)]
  rw [byScale?, before, after]
  cases parts <;> rfl

end Steps

/-! ## Words of small numbers -/

def partsOf (words : List String) : List String := words.flatMap (pieces '-')

theorem pieces_ne_nil (c : Char) (text : String) : pieces c text ≠ [] := by
  obtain ⟨piece, rest, cut⟩ := exists_splitAll c text.toList
  rw [pieces, cut]
  exact List.cons_ne_nil _ _

theorem partsOf_eq_nil_iff {words : List String} : partsOf words = [] ↔ words = [] := by
  cases words <;> simp [partsOf, pieces_ne_nil]

def digits : List String := (smallNumbers.take 10).drop 1

def lowParts : List String := smallNumbers ++ tens ++ ["hundred"]

inductive LowWord : String → Prop
  | single {word : String} (listed : word ∈ lowParts) : LowWord word
  | hyphenated {ten digit : String} (listed : ten ∈ tens) (listed' : digit ∈ digits) :
      LowWord (ten ++ "-" ++ digit)

theorem pieces_single : ∀ part ∈ lowParts, pieces '-' part = [part] := by decide

theorem tens_subset : tens ⊆ lowParts :=
  List.subset_append_of_subset_left _ (List.subset_append_right _ _)

theorem digits_subset : digits ⊆ lowParts := by decide

theorem splitAll_single {part : String} (listed : part ∈ lowParts) :
    splitAll '-' part.toList = [part.toList] := by
  have single := congrArg (List.map String.toList) (pieces_single part listed)
  simpa [pieces, Function.comp_def] using single

theorem pieces_hyphenated {ten digit : String} (listed : ten ∈ tens) (listed' : digit ∈ digits) :
    pieces '-' (ten ++ "-" ++ digit) = [ten, digit] := by
  have row : (ten ++ "-" ++ digit).toList = ten.toList ++ '-' :: digit.toList := by simp
  rw [pieces, row, splitAll_append, splitAll_single (tens_subset listed),
    splitAll_single (digits_subset listed')]
  simp

theorem mem_lowParts_of_mem_pieces {word part : String} (low : LowWord word)
    (inside : part ∈ pieces '-' word) : part ∈ lowParts := by
  cases low with
  | single listed =>
    rw [pieces_single word listed, List.mem_singleton] at inside
    exact inside ▸ listed
  | hyphenated listed listed' =>
    rw [pieces_hyphenated listed listed'] at inside
    rcases List.mem_pair.1 inside with rfl | rfl
    · exact tens_subset listed
    · exact digits_subset listed'

theorem getD_mem {words : List String} {n : Nat} (inside : n < words.length) :
    words.getD n "" ∈ words := by
  rw [List.getD_eq_getElem?_getD, List.getElem?_eq_getElem inside, Option.getD_some]
  exact List.getElem_mem inside

theorem digit_mem : ∀ n < 10, 0 < n → smallNumbers.getD n "" ∈ digits := by decide

theorem wordBelowHundred_cases {n : Nat} (fits : n < 100) :
    (n < 20 ∧ wordBelowHundred n = smallNumbers.getD n "") ∨
    (∃ i < 8, n = 10 * (i + 2) ∧ wordBelowHundred n = tens.getD i "") ∨
    ∃ i < 8, ∃ d < 10, 0 < d ∧ n = 10 * (i + 2) + d ∧
      wordBelowHundred n = tens.getD i "" ++ "-" ++ smallNumbers.getD d "" := by
  unfold wordBelowHundred
  split
  · rename_i few
    exact .inl ⟨few, rfl⟩
  · right
    by_cases round : n % 10 = 0
    · left
      exact ⟨n / 10 - 2, by omega, by omega, if_pos round⟩
    · right
      exact ⟨n / 10 - 2, by omega, n % 10, by omega, by omega, by omega, if_neg round⟩

theorem smallNumber_mem {n : Nat} (fits : n < 20) : smallNumbers.getD n "" ∈ lowParts :=
  List.mem_append_left _ (List.mem_append_left _ (getD_mem fits))

theorem lowWord_wordBelowHundred {n : Nat} (fits : n < 100) : LowWord (wordBelowHundred n) := by
  obtain ⟨few, spelled⟩ | ⟨i, ten, -, spelled⟩ | ⟨i, ten, d, digit, some, -, spelled⟩ :=
    wordBelowHundred_cases fits
  · exact spelled ▸ .single (smallNumber_mem few)
  · exact spelled ▸ .single (tens_subset (getD_mem ten))
  · exact spelled ▸ .hyphenated (getD_mem ten) (digit_mem d digit some)

theorem lowWord_of_mem {n : Nat} (fits : n < 1000) :
    ∀ word ∈ wordsBelowThousand n, LowWord word := by
  unfold wordsBelowThousand
  split
  · rename_i low
    simpa using lowWord_wordBelowHundred low
  · have digit : LowWord (smallNumbers.getD (n / 100) "") := .single (smallNumber_mem (by omega))
    have hundred : LowWord "hundred" := .single (List.mem_append_right _ List.mem_cons_self)
    refine List.forall_mem_append.2 ⟨List.forall_mem_cons.2
      ⟨digit, List.forall_mem_singleton.2 hundred⟩, ?_⟩
    split
    · simp
    · simpa using lowWord_wordBelowHundred (Nat.mod_lt n (by decide))

theorem small?_smallNumber : ∀ n < 20, 0 < n → small? (smallNumbers.getD n "") = some n := by
  decide

theorem digit?_smallNumber {n : Nat} (fits : n < 10) (positive : 0 < n) :
    digit? (smallNumbers.getD n "") = some n := by
  rw [digit?, small?_smallNumber n (by omega) positive, Option.filter_some, if_pos (by simpa)]

theorem ten?_ten : ∀ i < 8, small? (tens.getD i "") = none ∧
    ten? (tens.getD i "") = some (10 * (i + 2)) := by
  decide

theorem belowHundred?_pieces {n : Nat} (fits : n < 100) (positive : 0 < n) :
    belowHundred? (pieces '-' (wordBelowHundred n)) = some n := by
  obtain ⟨few, spelled⟩ | ⟨i, ten, rfl, spelled⟩ | ⟨i, ten, d, digit, some, rfl, spelled⟩ :=
    wordBelowHundred_cases fits
  · rw [spelled, pieces_single _ (smallNumber_mem few), belowHundred?, small?_smallNumber n few positive]
    rfl
  · obtain ⟨other, value⟩ := ten?_ten i ten
    rw [spelled, pieces_single _ (tens_subset (getD_mem ten)), belowHundred?, other, value]
    rfl
  · rw [spelled, pieces_hyphenated (getD_mem ten) (digit_mem d digit some), belowHundred?,
      (ten?_ten i ten).2, digit?_smallNumber digit some]
    rfl

theorem belowThousand?_pieces {n : Nat} (fits : n < 100) (positive : 0 < n) :
    belowThousand? (pieces '-' (wordBelowHundred n)) = some n := by
  have read := belowHundred?_pieces fits positive
  have digitless : digit? "hundred" = none := by decide
  revert read
  generalize pieces '-' (wordBelowHundred n) = parts
  intro read
  unfold belowThousand?
  split
  · rename_i first rest
    cases rest with
    | nil => simp [belowHundred?, digitless] at read
    | cons next rest => simp [belowHundred?] at read
  · exact read

theorem belowThousand?_hundred (digit : String) (rest : List String) :
    belowThousand? (digit :: "hundred" :: rest) = (digit? digit).bind fun hundreds =>
      if rest = [] then some (100 * hundreds) else (belowHundred? rest).map (100 * hundreds + ·) := by
  rw [belowThousand?]
  cases digit? digit with
  | none => rfl
  | some hundreds => cases rest <;> [rfl; cases belowHundred? _ <;> rfl]

theorem belowThousand?_partsOf {n : Nat} (positive : 0 < n) (fits : n < 1000) :
    belowThousand? (partsOf (wordsBelowThousand n)) = some n := by
  unfold wordsBelowThousand
  split
  · rename_i low
    rw [partsOf, List.flatMap_singleton]
    exact belowThousand?_pieces low positive
  · have value := digit?_smallNumber (n := n / 100) (by omega) (by omega)
    have first := pieces_single _ (smallNumber_mem (n := n / 100) (by omega))
    have hundred := pieces_single "hundred" (List.mem_append_right _ List.mem_cons_self)
    split
    · rw [List.append_nil, partsOf, List.flatMap_cons, List.flatMap_singleton, first, hundred,
        List.singleton_append, belowThousand?_hundred, value, Option.bind_some, if_pos rfl]
      exact congrArg some (by omega)
    · have rest := belowHundred?_pieces (n := n % 100) (by omega) (by omega)
      rw [partsOf, List.flatMap_append, List.flatMap_cons, List.flatMap_singleton,
        List.flatMap_singleton, first, hundred, List.singleton_append, List.cons_append,
        List.singleton_append, belowThousand?_hundred, value, Option.bind_some,
        if_neg (pieces_ne_nil _ _), rest, Option.map_some]
      exact congrArg some (by omega)

/-! ## Words by scale -/

def ceiling : List (Nat × String) → Nat
  | [] => 1000
  | (scale, _) :: _ => 1000 * scale

inductive Graded : List (Nat × String) → Prop
  | nil : Graded []
  | cons {scales : List (Nat × String)} {scale : Nat} {word : String} (graded : Graded scales)
      (step : scale = ceiling scales) (plain : pieces '-' word = [word])
      (fresh : word ∉ lowParts ++ scales.map (·.2)) : Graded ((scale, word) :: scales)

theorem graded_scales : Graded scales := by
  unfold scales
  iterate 6 refine .cons ?_ rfl (by decide) (by decide)
  exact .nil

@[simp] theorem ceiling_cons (scale : Nat) (word : String) (scales : List (Nat × String)) :
    ceiling ((scale, word) :: scales) = 1000 * scale := rfl

section Scales

variable {scales : List (Nat × String)}

theorem div_lt_of_lt_ceiling {n : Nat} {word : String}
    (fits : n < ceiling ((ceiling scales, word) :: scales)) : n / ceiling scales < 1000 :=
  Nat.div_lt_of_lt_mul (by rwa [Nat.mul_comm])

variable (graded : Graded scales)
include graded

theorem ceiling_pos : 0 < ceiling scales := by
  induction graded with
  | nil => decide
  | cons graded step plain fresh ih =>
    rw [ceiling_cons]
    omega

theorem mod_lt_ceiling (n : Nat) : n % ceiling scales < ceiling scales :=
  Nat.mod_lt n (ceiling_pos graded)

theorem wordsByScale_eq_nil_iff {n : Nat} : wordsByScale scales n = [] ↔ n = 0 := by
  induction graded generalizing n with
  | nil =>
    have words : wordsBelowThousand n ≠ [] := by
      unfold wordsBelowThousand
      split <;> simp
    rw [wordsByScale]
    split <;> simp_all
  | cons graded step plain fresh ih =>
    subst step
    rw [wordsByScale]
    split
    · exact ih
    · have := ceiling_pos graded
      simp
      omega

theorem forall_mem_wordsByScale {P : String → Prop} (low : ∀ word, LowWord word → P word)
    (named : ∀ s ∈ scales, P s.2) {n : Nat} (fits : n < ceiling scales) :
    ∀ word ∈ wordsByScale scales n, P word := by
  have below {m : Nat} (fits : m < 1000) : ∀ word ∈ wordsBelowThousand m, P word :=
    fun word member => low word (lowWord_of_mem fits word member)
  induction graded generalizing n with
  | nil =>
    rw [wordsByScale]
    split
    · simp
    · exact below fits
  | cons graded step plain fresh ih =>
    subst step
    obtain ⟨own, others⟩ := List.forall_mem_cons.1 named
    rw [wordsByScale]
    split
    · rename_i small
      exact ih others small
    · exact List.forall_mem_append.2 ⟨below (div_lt_of_lt_ceiling fits),
        List.forall_mem_cons.2 ⟨own, ih others (mod_lt_ceiling graded n)⟩⟩

theorem plain_of_mem : ∀ s ∈ scales, pieces '-' s.2 = [s.2] := by
  induction graded with
  | nil => simp
  | cons graded step plain fresh ih => exact List.forall_mem_cons.2 ⟨plain, ih⟩

theorem mem_partsOf_wordsByScale {n : Nat} (fits : n < ceiling scales) {part : String}
    (member : part ∈ partsOf (wordsByScale scales n)) : part ∈ lowParts ++ scales.map (·.2) := by
  obtain ⟨word, spelled, inside⟩ := List.mem_flatMap.1 member
  refine forall_mem_wordsByScale graded
    (P := fun word => part ∈ pieces '-' word → part ∈ lowParts ++ scales.map (·.2))
    (fun word low inside => List.mem_append_left _ (mem_lowParts_of_mem_pieces low inside))
    (fun s listed inside => ?_) fits word spelled inside
  rw [plain_of_mem graded s listed, List.mem_singleton] at inside
  exact List.mem_append_right _ (inside ▸ List.mem_map_of_mem listed)

theorem byScale?_wordsByScale {n : Nat} (positive : 0 < n) (fits : n < ceiling scales) :
    byScale? scales (partsOf (wordsByScale scales n)) = some n := by
  induction graded generalizing n with
  | nil => rw [wordsByScale, if_neg (by omega), byScale?, belowThousand?_partsOf positive fits]
  | @cons scales _ word graded step plain fresh ih =>
    subst step
    rw [wordsByScale]
    split
    · rename_i small
      rw [byScale?_of_not_mem (fresh ∘ mem_partsOf_wordsByScale graded small), ih positive small]
    · rename_i large
      have count := div_lt_of_lt_ceiling fits
      have positive' : 0 < n / ceiling scales := Nat.div_pos (by omega) (ceiling_pos graded)
      -- The count is written without the word of the scale, so the first one found is the right
      -- cut.
      have absent : word ∉ partsOf (wordsBelowThousand (n / ceiling scales)) := by
        intro member
        obtain ⟨low, spelled, inside⟩ := List.mem_flatMap.1 member
        exact fresh (List.mem_append_left _
          (mem_lowParts_of_mem_pieces (lowWord_of_mem count low spelled) inside))
      have cut : partsOf (wordsBelowThousand (n / ceiling scales) ++
          word :: wordsByScale scales (n % ceiling scales)) =
            partsOf (wordsBelowThousand (n / ceiling scales)) ++
              word :: partsOf (wordsByScale scales (n % ceiling scales)) := by
        rw [partsOf, List.flatMap_append, List.flatMap_cons, plain]
        rfl
      have whole := Nat.div_add_mod' n (ceiling scales)
      rw [cut, byScale?_append absent, belowThousand?_partsOf positive' count]
      by_cases multiple : n % ceiling scales = 0
      · rw [multiple, Nat.add_zero] at whole
        rw [if_pos (partsOf_eq_nil_iff.2 ((wordsByScale_eq_nil_iff graded).2 multiple)),
          Option.map_some, whole]
      · have rest := ih (Nat.pos_of_ne_zero multiple) (mod_lt_ceiling graded n)
        rw [if_neg (multiple ∘ (wordsByScale_eq_nil_iff graded).1 ∘ partsOf_eq_nil_iff.1), rest]
        exact congrArg some whole

end Scales

end Cardinals
end Bindwright.Naming
