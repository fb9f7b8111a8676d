import Bindwright.Member.Shape
import Bindwright.Naming.Native
import Bindwright.Proofs.Declaration.Scanning
import Bindwright.Proofs.Member.FieldName
import Bindwright.Proofs.Text.Case
import Bindwright.Text.Identifier
import Mathlib.Data.List.TakeWhile

namespace Bindwright.Naming

open Declaration Text

/-! ## Identifiers -/

def IsPlain (name : String) : Prop :=
  identifier? name.toList = some name.toList ∧ name ≠ "_" ∧ name ∉ keywords ∧ name ∉ pathKeywords

def IsLegal (name : String) : Prop := IsPlain name ∨ ∃ word ∈ keywords, name = "r#" ++ word

instance : DecidablePred IsPlain := fun _ => inferInstanceAs (Decidable (_ ∧ _))

instance : DecidablePred IsLegal := fun _ => inferInstanceAs (Decidable (_ ∨ _))

def BeginsWithDigit (name : String) : Prop := ∃ c ∈ name.toList.head?, c.isDigit = true

instance : DecidablePred BeginsWithDigit := fun name => name.toList.head?.decidableExistsMem

def Wordy (cs : List Char) : Prop := ∀ c ∈ cs, continuesName c = true

instance : DecidablePred Wordy := fun cs => List.decidableBAll _ cs

theorem lt_of_continuesName {c : Char} (word : continuesName c = true) : c.toNat < 128 := by
  have bounded {first last : Char} (range : (c.val ≥ first.val && c.val ≤ last.val) = true) :
      c.toNat ≤ last.toNat :=
    UInt32.le_iff_toNat_le.1 (of_decide_eq_true (Bool.and_eq_true_iff.1 range).2)
  have upper (letter : c.isUpper = true) : c.toNat ≤ 'Z'.toNat :=
    UInt32.le_iff_toNat_le.1 (of_decide_eq_true letter).2
  have codes : 'Z'.toNat < 128 ∧ 'z'.toNat < 128 ∧ '9'.toNat < 128 ∧ '_'.toNat < 128 := by decide
  simp only [continuesName, Char.isAlphanum, Bool.or_eq_true] at word
  rcases word with (letter | digit) | mark
  · rcases Bool.or_eq_true_iff.1 letter with letter | letter
    · exact (upper letter).trans_lt codes.1
    · exact (bounded letter).trans_lt codes.2.1
  · exact (bounded digit).trans_lt codes.2.2.1
  · exact of_decide_eq_true mark ▸ codes.2.2.2

theorem forall_continuesName {p : Char → Prop}
    (each : ∀ n, n < 128 → continuesName (Char.ofNat n) = true → p (Char.ofNat n)) (c : Char)
    (word : continuesName c = true) : p c :=
  forall_ascii (p := fun c => continuesName c = true → p c) each c (lt_of_continuesName word) word

theorem starts_of_continuesName : ∀ c, continuesName c = true →
    startsIdentifier c = !c.isDigit ∧ continuesIdentifier c = true ∧ c ≠ '/' ∧ c ≠ '.' ∧ c ≠ 'Σ' :=
  forall_continuesName (by decide)

theorem upperOf_of_continuesName : ∀ c, continuesName c = true →
    upperOf c = [c.toUpper] ∧ continuesName c.toUpper = true ∧ c.toUpper.isLower = false ∧
      (c.toUpper = '_' ↔ c = '_') :=
  forall_continuesName (by decide)

theorem lowerOf_of_continuesName : ∀ c, continuesName c = true →
    lowerOf c = [c.toLower] ∧ continuesName c.toLower = true ∧
      c.toLower.isDigit = c.isDigit ∧ (c.toLower = '_' ↔ c = '_') :=
  forall_continuesName (by decide)

theorem isName_iff {cs : List Char} :
    isName cs = true ↔ Wordy cs ∧ ∃ c ∈ cs.head?, c.isDigit = false := by
  have starts : ∀ c, continuesName c = true → (startsName c = true ↔ c.isDigit = false) :=
    forall_continuesName (by decide)
  have continues {c : Char} (first : startsName c = true) : continuesName c = true := by
    simp only [startsName, continuesName, Char.isAlphanum, Bool.or_eq_true] at first ⊢
    exact first.imp_left .inl
  cases cs with
  | nil => simp [isName]
  | cons c cs =>
    simp only [isName, Bool.and_eq_true, List.all_eq_true, Wordy, List.forall_mem_cons,
      List.head?_cons, Option.mem_some_iff, exists_eq_left']
    constructor
    · rintro ⟨first, rest⟩
      exact ⟨⟨continues first, rest⟩, (starts c (continues first)).1 first⟩
    · rintro ⟨⟨first, rest⟩, digit⟩
      exact ⟨(starts c first).2 digit, rest⟩

theorem identifier?_iff {cs : List Char} (wordy : Wordy cs) :
    identifier? cs = some cs ↔ ∃ c ∈ cs.head?, c.isDigit = false := by
  cases cs with
  | nil => simp [identifier?]
  | cons c cs =>
    obtain ⟨first, rest⟩ := List.forall_mem_cons.1 wordy
    have whole : cs.takeWhile continuesIdentifier = cs :=
      List.takeWhile_eq_self_iff.2 fun d member => (starts_of_continuesName d (rest d member)).2.1
    simp [identifier?, (starts_of_continuesName c first).1, whole]

theorem isPlain_iff {name : String} (wordy : Wordy name.toList) :
    IsPlain name ↔ name ≠ "" ∧ name ≠ "_" ∧ ¬BeginsWithDigit name ∧ name ∉ keywords ∧
      name ∉ pathKeywords := by
  have head : (∃ c ∈ name.toList.head?, c.isDigit = false) ↔
      name ≠ "" ∧ ¬BeginsWithDigit name := by
    rw [BeginsWithDigit, Ne, ← String.toList_eq_nil_iff]
    cases name.toList with
    | nil => simp
    | cons c cs => simp
  rw [IsPlain, identifier?_iff wordy, head]
  tauto

theorem isPlain_of_ne {name : String} (wordy : Wordy name.toList) (inhabited : name ≠ "")
    (digit : ¬BeginsWithDigit name)
    (free : ∀ word ∈ "_" :: keywords ++ pathKeywords, name ≠ word) : IsPlain name := by
  refine (isPlain_iff wordy).2
    ⟨inhabited, free "_" (by simp), digit, fun reserved => ?_, fun reserved => ?_⟩
  · exact free name (by simp [reserved]) rfl
  · exact free name (by simp [reserved]) rfl

theorem isLegal_iff {name : String} (wordy : Wordy name.toList) : IsLegal name ↔ IsPlain name := by
  refine ⟨fun legal => legal.resolve_right ?_, .inl⟩
  rintro ⟨word, -, rfl⟩
  have mark : continuesName '#' = true := by
    refine wordy '#' ?_
    rw [String.toList_append]
    exact List.mem_append_left _ (by decide)
  exact absurd mark (by decide)

/-! ## Names of types -/

namespace Wordy

variable {cs ds : List Char}

theorem append (wordy : Wordy cs) (more : Wordy ds) : Wordy (cs ++ ds) :=
  List.forall_mem_append.2 ⟨wordy, more⟩

theorem cons {c : Char} (word : continuesName c = true) (wordy : Wordy cs) : Wordy (c :: cs) :=
  List.forall_mem_cons.2 ⟨word, wordy⟩

theorem of_subset (wordy : Wordy cs) (part : ds ⊆ cs) : Wordy ds :=
  fun c member => wordy c (part member)

theorem getD_afterPrefix? (wordy : Wordy cs) (start : List Char) :
    Wordy ((afterPrefix? start cs).getD cs) := by
  cases found : afterPrefix? start cs with
  | none => exact wordy
  | some rest =>
    rw [eq_append_of_afterPrefix? found] at wordy
    exact wordy.of_subset (List.subset_append_right _ _)

theorem getD_beforeSuffix? (wordy : Wordy cs) (tail : List Char) :
    Wordy ((beforeSuffix? tail cs).getD cs) := by
  cases found : beforeSuffix? tail cs with
  | none => exact wordy
  | some front =>
    rw [eq_append_of_beforeSuffix? found] at wordy
    exact wordy.of_subset (List.subset_append_left _ _)

theorem replaceAll {new : List Char} (wordy : Wordy cs) (wordy' : Wordy new) (old : List Char) :
    Wordy (replaceAll old new cs) := by
  unfold Text.replaceAll
  fun_induction replaceAllFrom old new 0 cs with
  | case1 => exact wordy
  | case2 n c cs ih => exact ih (List.forall_mem_cons.1 wordy).2
  | case3 c cs found ih => exact wordy'.append (ih (List.forall_mem_cons.1 wordy).2)
  | case4 c cs other ih =>
    exact cons (wordy c List.mem_cons_self) (ih (List.forall_mem_cons.1 wordy).2)

theorem trimEndWhile (wordy : Wordy cs) (p : Char → Bool) : Wordy (trimEndWhile p cs) := by
  intro c member
  have inside := (List.dropWhile_sublist p).subset (List.mem_reverse.1 member)
  exact wordy c (List.mem_reverse.1 inside)

theorem structureNameChars (wordy : Wordy cs) : Wordy (structureNameChars cs) := by
  have respelled : ∀ e ∈ respellings, Wordy e.2 := by decide
  refine trimEndWhile ?_ _
  exact List.foldlRecOn (motive := Wordy) respellings _ (wordy.getD_afterPrefix? typePrefix)
    fun cs wordy e member => wordy.replaceAll (respelled e member) e.1

end Wordy

theorem wordy_typeName {native : String} (wordy : Wordy native.toList) (group : ConstantGroup) :
    Wordy (group.typeName native).toList := by
  have bare : Wordy (structureNameChars native.toList) := wordy.structureNameChars
  cases group with
  | flags =>
    simp only [ConstantGroup.typeName, flagName, String.toList_ofList]
    exact (bare.getD_beforeSuffix? _).append (by decide)
  | values =>
    simp only [ConstantGroup.typeName, structureName, String.toList_ofList]
    exact bare

/-! ## Snake case -/

theorem snakeChars_cons {c : Char} (word : continuesName c = true) (cs : List Char) :
    snakeChars (c :: cs) = c.toLower :: snakeAfter c cs := by
  rw [snakeChars, (lowerOf_of_continuesName c word).1]
  rfl

theorem snakeAfter_ne_nil {c : Char} (word : continuesName c = true) (previous : Char)
    (cs : List Char) : snakeAfter previous (c :: cs) ≠ [] := by
  rw [snakeAfter, (lowerOf_of_continuesName c word).1]
  split <;> exact nofun

theorem wordy_snakeAfter {cs : List Char} (wordy : Wordy cs) (previous : Char) :
    Wordy (snakeAfter previous cs) := by
  induction cs generalizing previous with
  | nil => exact wordy
  | cons c cs ih =>
    obtain ⟨word, rest⟩ := List.forall_mem_cons.1 wordy
    obtain ⟨lowered, small, -⟩ := lowerOf_of_continuesName c word
    rw [snakeAfter, lowered]
    split
    · exact .cons (by decide) (.cons small (ih rest c))
    · exact .cons small (ih rest c)

section SnakeCase

variable {name : String} (wordy : Wordy name.toList)

include wordy

theorem wordy_snakeCase : Wordy (snakeCase name).toList := by
  rw [snakeCase, String.toList_ofList]
  cases chars : name.toList with
  | nil => exact List.forall_mem_nil _
  | cons c cs =>
    rw [chars] at wordy
    obtain ⟨word, rest⟩ := List.forall_mem_cons.1 wordy
    rw [snakeChars_cons word]
    exact .cons (lowerOf_of_continuesName c word).2.1 (wordy_snakeAfter rest c)

theorem snakeCase_begins :
    (snakeCase name = "" ↔ name = "") ∧ (snakeCase name = "_" ↔ name = "_") ∧
      (BeginsWithDigit (snakeCase name) ↔ BeginsWithDigit name) := by
  have underscore : "_".toList = ['_'] := rfl
  simp only [BeginsWithDigit, ← String.toList_inj, snakeCase, String.toList_ofList, underscore]
  cases chars : name.toList with
  | nil => simp [snakeChars]
  | cons c cs =>
    rw [chars] at wordy
    obtain ⟨word, rest⟩ := List.forall_mem_cons.1 wordy
    obtain ⟨-, -, digit, same⟩ := lowerOf_of_continuesName c word
    have after : snakeAfter c cs = [] ↔ cs = [] := by
      cases cs with
      | nil => simp [snakeAfter]
      | cons d ds => simp [snakeAfter_ne_nil (rest d List.mem_cons_self)]
    rw [snakeChars_cons word]
    simp [digit, same, after]

end SnakeCase

/-! ## Camel case -/

theorem splitAll_pieces (c : Char) (cs : List Char) : ∀ p ∈ splitAll c cs, c ∉ p ∧ p ⊆ cs := by
  induction cs with
  | nil => simp [splitAll]
  | cons d cs ih =>
    obtain ⟨p, ps, split⟩ := exists_splitAll c cs
    rw [split] at ih
    obtain ⟨first, rest⟩ := List.forall_mem_cons.1 ih
    have later : ∀ p ∈ ps, c ∉ p ∧ p ⊆ d :: cs := fun p member =>
      (rest p member).imp_right (List.subset_cons_of_subset _)
    rw [splitAll_cons split]
    split
    · exact List.forall_mem_cons.2 ⟨by simp, List.forall_mem_cons.2
        ⟨first.imp_right (List.subset_cons_of_subset _), later⟩⟩
    · rename_i other
      refine List.forall_mem_cons.2 ⟨⟨?_, List.cons_subset_cons _ first.2⟩, later⟩
      simp [Ne.symm other, first.1]

theorem lowercaseAfter_of_wordy {cs : List Char} (wordy : Wordy cs) (before : List Char) :
    lowercaseAfter before cs = cs.map Char.toLower := by
  induction cs generalizing before with
  | nil => rfl
  | cons c cs ih =>
    obtain ⟨word, rest⟩ := List.forall_mem_cons.1 wordy
    rw [lowercaseAfter, if_neg (starts_of_continuesName c word).2.2.2.2,
      (lowerOf_of_continuesName c word).1, ih rest]
    rfl

structure Capitalized (cs : List Char) : Prop where
  wordy : Wordy cs
  joined : '_' ∉ cs
  head : ∀ c ∈ cs.head?, c.isLower = false

theorem capitalized_capitalize {cs : List Char} (wordy : Wordy cs) (joined : '_' ∉ cs) :
    Capitalized (capitalize cs) := by
  cases cs with
  | nil => exact ⟨wordy, joined, nofun⟩
  | cons c cs =>
    obtain ⟨word, rest⟩ := List.forall_mem_cons.1 wordy
    obtain ⟨upper, capital, unlike, same⟩ := upperOf_of_continuesName c word
    simp only [List.mem_cons, not_or] at joined
    have spelled : capitalize (c :: cs) = c.toUpper :: cs.map Char.toLower := by
      rw [capitalize, upper, lowercase, lowercaseAfter_of_wordy rest]
      rfl
    rw [spelled]
    refine ⟨.cons capital fun d member => ?_, ?_, ?_⟩
    · obtain ⟨d, inside, rfl⟩ := List.mem_map.1 member
      exact (lowerOf_of_continuesName d (rest d inside)).2.1
    · rw [List.mem_cons, not_or]
      refine ⟨fun mark => joined.1 (same.1 mark.symm).symm, fun member => ?_⟩
      obtain ⟨d, inside, mark⟩ := List.mem_map.1 member
      obtain rfl := (lowerOf_of_continuesName d (rest d inside)).2.2.2.1 mark
      exact joined.2 inside
    · simp [unlike]

theorem capitalized_flatten {pieces : List (List Char)} (each : ∀ p ∈ pieces, Capitalized p) :
    Capitalized pieces.flatten := by
  induction pieces with
  | nil => exact ⟨List.forall_mem_nil _, List.not_mem_nil, nofun⟩
  | cons p pieces ih =>
    obtain ⟨first, rest⟩ := List.forall_mem_cons.1 each
    rw [List.flatten_cons]
    refine ⟨first.wordy.append (ih rest).wordy, ?_, ?_⟩
    · rw [List.mem_append, not_or]
      exact ⟨first.joined, (ih rest).joined⟩
    · cases p with
      | nil => exact (ih rest).head
      | cons c cs => exact first.head

theorem capitalized_upperCamelCase {text : String} (wordy : Wordy text.toList) :
    Capitalized (upperCamelCase text).toList := by
  rw [upperCamelCase, String.toList_ofList, List.flatMap_def]
  refine capitalized_flatten fun piece member => ?_
  obtain ⟨p, inside, rfl⟩ := List.mem_map.1 member
  obtain ⟨joined, part⟩ := splitAll_pieces '_' text.toList p inside
  exact capitalized_capitalize (wordy.of_subset part) joined

theorem isLegal_iff_of_capitalized {name : String} (capitalized : Capitalized name.toList) :
    IsLegal name ↔ name ≠ "" ∧ ¬BeginsWithDigit name ∧ name ≠ "Self" := by
  have lower : ∀ word ∈ "_" :: keywords ++ pathKeywords, word ≠ "Self" →
      '_' ∈ word.toList ∨ word.toList.head?.any Char.isLower = true := by decide
  rw [isLegal_iff capitalized.wordy]
  constructor
  · intro plain
    obtain ⟨inhabited, -, digit, -, path⟩ := (isPlain_iff capitalized.wordy).1 plain
    exact ⟨inhabited, digit, fun same => path (same ▸ by decide)⟩
  · rintro ⟨inhabited, digit, other⟩
    refine isPlain_of_ne capitalized.wordy inhabited digit ?_
    rintro _ reserved rfl
    rcases lower _ reserved other with mark | small
    · exact capitalized.joined mark
    · obtain ⟨c, first, small⟩ := (Option.any_eq_true _ _).1 small
      rw [capitalized.head c first] at small
      cases small

/-! ## Numbers -/

def Spelled (text : String) : Prop :=
  ∀ c ∈ text.toList, continuesName (if c = ' ' ∨ c = '-' then '_' else c) = true

instance : DecidablePred Spelled := fun text => List.decidableBAll _ text.toList

theorem Spelled.append {text more : String} (spelled : Spelled text) (spelled' : Spelled more) :
    Spelled (text ++ more) := by
  rw [Spelled, String.toList_append]
  exact List.forall_mem_append.2 ⟨spelled, spelled'⟩

theorem spelled_getD {words : List String} (each : ∀ word ∈ words, Spelled word) (n : Nat) :
    Spelled (words.getD n "") := by
  rw [List.getD_eq_getElem?_getD]
  cases found : words[n]? with
  | none => decide
  | some word => exact each word (List.mem_of_getElem? found)

theorem spelled_smallNumber (n : Nat) : Spelled (smallNumbers.getD n "") :=
  spelled_getD (by decide) n

theorem spelled_wordBelowHundred (n : Nat) : Spelled (wordBelowHundred n) := by
  have ten (n : Nat) : Spelled (tens.getD n "") := spelled_getD (by decide) n
  unfold wordBelowHundred
  split
  · exact spelled_smallNumber n
  · dsimp only
    split
    · exact ten _
    · exact ((ten _).append (by decide)).append (spelled_smallNumber _)

theorem spelled_wordsBelowThousand (n : Nat) : ∀ word ∈ wordsBelowThousand n, Spelled word := by
  unfold wordsBelowThousand
  split
  · simp [spelled_wordBelowHundred]
  · refine List.forall_mem_append.2 ⟨List.forall_mem_cons.2 ⟨spelled_smallNumber _, ?_⟩, ?_⟩
    · simp only [List.forall_mem_singleton]
      decide
    · split
      · simp
      · simp [spelled_wordBelowHundred]

theorem spelled_wordsByScale {scales : List (Nat × String)} (each : ∀ s ∈ scales, Spelled s.2)
    (n : Nat) : ∀ word ∈ wordsByScale scales n, Spelled word := by
  induction scales generalizing n with
  | nil =>
    rw [wordsByScale]
    split
    · simp
    · exact spelled_wordsBelowThousand n
  | cons s scales ih =>
    obtain ⟨first, rest⟩ := List.forall_mem_cons.1 each
    rw [wordsByScale]
    split
    · exact ih rest n
    · exact List.forall_mem_append.2
        ⟨spelled_wordsBelowThousand _, List.forall_mem_cons.2 ⟨first, ih rest _⟩⟩

theorem spelled_numberWords (n : Nat) : ∀ word ∈ numberWords n, Spelled word := by
  unfold numberWords
  split
  · decide
  · exact spelled_wordsByScale (by decide) n

theorem spelled_intercalate {words : List String} (each : ∀ word ∈ words, Spelled word) :
    Spelled (" ".intercalate words) := by
  induction words with
  | nil => decide
  | cons word words ih =>
    obtain ⟨first, rest⟩ := List.forall_mem_cons.1 each
    cases words with
    | nil => simpa using first
    | cons next words =>
      rw [String.intercalate_cons_cons]
      exact (first.append (by decide)).append (ih rest)

theorem wordy_uppercase {cs : List Char} (wordy : Wordy cs) : Wordy (uppercase cs) := by
  intro d member
  obtain ⟨c, inside, upper⟩ := List.mem_flatMap.1 member
  obtain ⟨own, capital, -⟩ := upperOf_of_continuesName c (wordy c inside)
  rw [own, List.mem_singleton] at upper
  exact upper ▸ capital

theorem wordy_numberConstant (n : Nat) : Wordy (numberConstant n) := by
  refine wordy_uppercase fun d member => ?_
  obtain ⟨c, inside, rfl⟩ := List.mem_map.1 member
  exact spelled_intercalate (spelled_numberWords n) c inside

theorem wordy_spellLeadingDigits {name : String} (wordy : Wordy name.toList) :
    Wordy (spellLeadingDigits name).toList := by
  have digits : Wordy (name.toList.takeWhile Char.isDigit) :=
    wordy.of_subset (List.takeWhile_sublist _).subset
  have rest : Wordy (name.toList.dropWhile Char.isDigit) :=
    wordy.of_subset (List.dropWhile_sublist _).subset
  unfold spellLeadingDigits
  dsimp only
  split
  · exact wordy
  · rw [String.toList_ofList]
    refine Wordy.append ?_ ?_
    · split
      · exact wordy_numberConstant _
      · exact digits
    · generalize name.toList.dropWhile Char.isDigit = rest at rest ⊢
      split
      · exact rest
      · exact Wordy.append (by decide) (List.forall_mem_cons.1 rest).2
      · exact rest
      · exact .cons (by decide) rest

/-! ## Variants -/

theorem capitalized_variantName {constant : String} (wordy : Wordy constant.toList)
    (group : ConstantGroup) (destination : String) :
    Capitalized (group.variantName destination constant).toList := by
  refine capitalized_upperCamelCase ?_
  unfold constantMemberName
  refine wordy_spellLeadingDigits ?_
  rw [String.toList_ofList]
  exact (wordy.getD_beforeSuffix? bitSuffix).getD_afterPrefix? _

/-! ## Fields -/

theorem isLegal_respelled : ∀ e ∈ respelledNames.entries, IsLegal e.2 := by decide

theorem isLegal_respelled_iff {name : String} (wordy : Wordy name.toList) (inhabited : name ≠ "")
    (digit : ¬BeginsWithDigit name) :
    IsLegal ((respelledNames.find? name).getD name) ↔ name ≠ "_" := by
  cases found : respelledNames.find? name with
  | some respelled =>
    have entry := (Table.mem_entries_iff nodup_keys_respelledNames).2 found
    refine iff_of_true (isLegal_respelled _ entry) ?_
    have free : respelledNames.find? "_" = none := by decide
    rintro rfl
    cases free.symm.trans found
  | none =>
    rw [find?_respelledNames] at found
    split_ifs at found with path word method
    rw [Option.getD_none, isLegal_iff wordy, isPlain_iff wordy]
    exact ⟨fun plain => plain.2.1, fun other => ⟨inhabited, other, digit, word, path⟩⟩

theorem isLegal_escape {name : String} (wordy : Wordy name.toList) (inhabited : name ≠ "")
    (other : name ≠ "_") (digit : ¬BeginsWithDigit name) : IsLegal (escape name) := by
  have paths : ∀ word ∈ pathKeywords, IsLegal (word ++ "_") := by decide
  rw [escape_eq]
  split
  · exact paths name ‹_›
  · split
    · exact .inr ⟨name, ‹_›, rfl⟩
    · exact .inl ((isPlain_iff wordy).2 ⟨inhabited, other, digit, ‹_›, ‹_›⟩)

section Member

variable {member : String} (named : isName member.toList = true)

include named

theorem snakeCase_of_isName : Wordy (snakeCase member).toList ∧ snakeCase member ≠ "" ∧
    (snakeCase member = "_" ↔ member = "_") ∧ ¬BeginsWithDigit (snakeCase member) := by
  obtain ⟨wordy, c, first, digit⟩ := isName_iff.1 named
  obtain ⟨empty, underscore, digits⟩ := snakeCase_begins wordy
  refine ⟨wordy_snakeCase wordy, ?_, underscore, ?_⟩
  · rw [Ne, empty]
    rintro rfl
    cases first
  · rw [digits]
    rintro ⟨d, first', digit'⟩
    cases first.symm.trans first'
    cases digit.symm.trans digit'

theorem isLegal_memberFieldName_iff : IsLegal (memberFieldName member) ↔ member ≠ "_" := by
  obtain ⟨wordy, inhabited, underscore, digit⟩ := snakeCase_of_isName named
  rw [memberFieldName_eq, plainFieldName]
  split
  · rename_i link
    rw [link]
    decide
  · rw [isLegal_respelled_iff wordy inhabited digit, Ne, underscore]

theorem isLegal_functionSuffix : IsLegal (snakeCase member ++ "_function") := by
  obtain ⟨wordy, inhabited, -, digit⟩ := snakeCase_of_isName named
  have long : ∀ word ∈ "_" :: keywords ++ pathKeywords, ¬"_function".toList <:+ word.toList := by
    decide
  refine .inl (isPlain_of_ne ?_ ?_ ?_ ?_)
  · rw [String.toList_append]
    exact wordy.append (by decide)
  · exact fun empty => inhabited (String.append_eq_empty_iff.1 empty).1
  · rintro ⟨c, first, isDigit⟩
    rw [String.toList_append, List.head?_append_of_ne_nil] at first
    · exact digit ⟨c, first, isDigit⟩
    · rwa [Ne, String.toList_eq_nil_iff]
  · rintro _ reserved rfl
    refine long _ reserved ?_
    rw [String.toList_append]
    exact List.suffix_append _ _

theorem isLegal_functionAccessorName : IsLegal (functionAccessorName member) := by
  have capital : ∀ c, continuesName c = true → isUppercase c = true →
      c.isDigit = false ∧ c ≠ '_' := forall_continuesName (by decide)
  unfold functionAccessorName
  split
  · rename_i c rest found
    split
    · rename_i upper
      have wordy : Wordy (c :: rest) := by
        have inside := (isName_iff.1 named).1
        rw [eq_append_of_afterPrefix? found] at inside
        exact inside.of_subset (List.subset_append_right _ _)
      obtain ⟨digit, other⟩ := capital c (wordy c List.mem_cons_self) upper
      have named' : isName (String.ofList (c :: rest)).toList = true := by
        rw [String.toList_ofList]
        exact isName_iff.2 ⟨wordy, c, rfl, digit⟩
      obtain ⟨wordy', inhabited, underscore, digits⟩ := snakeCase_of_isName named'
      refine isLegal_escape wordy' inhabited (fun same => ?_) digits
      have chars := congrArg String.toList (underscore.1 same)
      rw [String.toList_ofList] at chars
      exact other (List.cons.inj chars).1
    · exact isLegal_functionSuffix named
  · exact isLegal_functionSuffix named

end Member

end Bindwright.Naming
