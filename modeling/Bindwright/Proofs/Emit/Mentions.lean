import Bindwright.Proofs.Text.Pieces
import Bindwright.Text.Identifier

namespace Bindwright

def preludeNames : List String := ["Result", "Ok", "Err", "Vec", "Box", "String"]

def Contains (piece text : String) : Prop := piece.toList <:+: text.toList

instance (piece text : String) : Decidable (Contains piece text) :=
  inferInstanceAs (Decidable (_ <:+: _))

namespace Contains

variable {piece text : String}

theorem refl (text : String) : Contains text text := List.infix_refl _

theorem trans {whole : String} (contains : Contains piece text) (outer : Contains text whole) :
    Contains piece whole :=
  List.IsInfix.trans contains outer

theorem of_eq (before after : String) (cut : text = before ++ piece ++ after) :
    Contains piece text :=
  ⟨before.toList, after.toList, by rw [cut, String.toList_append, String.toList_append]⟩

theorem behind {front back : String} (start : String) :
    Contains (front ++ text ++ back) (start ++ front ++ text ++ back) :=
  of_eq start "" (by simp only [String.append_assoc, String.append_empty])

theorem append_right (contains : Contains piece text) (more : String) :
    Contains piece (text ++ more) := by
  rw [Contains, String.toList_append]
  exact List.IsInfix.trans contains (List.prefix_append _ _).isInfix

theorem append_left (contains : Contains piece text) (more : String) :
    Contains piece (more ++ text) := by
  rw [Contains, String.toList_append]
  exact List.IsInfix.trans contains (List.suffix_append _ _).isInfix

theorem join {pieces : List String} (member : text ∈ pieces) :
    Contains text (String.join pieces) := by
  rw [Contains, String.toList_join]
  exact List.infix_of_mem_flatten (List.mem_map_of_mem member)

end Contains

/-- The text has the name as a word of its own, with no path before it. -/
def Mentions (name text : String) : Prop :=
  ∃ before after : Char, Text.continuesIdentifier before = false ∧ before ≠ ':' ∧
    Text.continuesIdentifier after = false ∧ (before :: name.toList ++ [after]) <:+: text.toList

theorem Mentions.of_contains {name piece text : String} (mentions : Mentions name piece)
    (contains : Contains piece text) : Mentions name text := by
  obtain ⟨before, after, start, unqualified, stop, found⟩ := mentions
  exact ⟨before, after, start, unqualified, stop, found.trans contains⟩

def Opens (cs : List Char) : Prop :=
  ∀ c ∈ cs.getLast?, Text.continuesIdentifier c = false ∧ c ≠ ':'

def Closes (cs : List Char) : Prop := ∀ c ∈ cs.head?, Text.continuesIdentifier c = false

instance (cs : List Char) : Decidable (Opens cs) :=
  Option.decidableForallMem cs.getLast?

instance (cs : List Char) : Decidable (Closes cs) :=
  Option.decidableForallMem cs.head?

variable {front back : List Char}

theorem Opens.append (opens : Opens front) (opens' : Opens back) : Opens (front ++ back) := by
  intro c last
  rw [List.getLast?_append, Option.mem_def, Option.or_eq_some_iff] at last
  rcases last with last | ⟨-, last⟩
  · exact opens' c last
  · exact opens c last

theorem Opens.of_append (opens : Opens (front ++ back)) : Opens back := by
  intro c last
  exact opens c (by rw [List.getLast?_append, Option.mem_def.1 last]; rfl)

theorem Closes.append (closes : Closes front) (closes' : Closes back) : Closes (front ++ back) := by
  intro c first
  rw [List.head?_append, Option.mem_def, Option.or_eq_some_iff] at first
  rcases first with first | ⟨-, first⟩
  · exact closes c first
  · exact closes' c first

theorem Closes.of_append (closes : Closes (front ++ back)) : Closes front := by
  intro c first
  exact closes c (by rw [List.head?_append, Option.mem_def.1 first]; rfl)

def StandsIn (name text : String) : Prop :=
  ∃ before after : List Char, text.toList = before ++ name.toList ++ after ∧ Opens before ∧
    Closes after

namespace StandsIn

variable {name text : String}

theorem prepend {front : String} (stands : StandsIn name text) (opens : Opens front.toList) :
    StandsIn name (front ++ text) := by
  obtain ⟨before, after, cut, opens', closes⟩ := stands
  refine ⟨front.toList ++ before, after, ?_, opens.append opens', closes⟩
  rw [String.toList_append, cut, List.append_assoc, List.append_assoc, List.append_assoc]

theorem append {back : String} (stands : StandsIn name text) (closes : Closes back.toList) :
    StandsIn name (text ++ back) := by
  obtain ⟨before, after, cut, opens, closes'⟩ := stands
  refine ⟨before, after ++ back.toList, ?_, opens, closes'.append closes⟩
  rw [String.toList_append, cut, List.append_assoc]

theorem behind {mark : String} (stands : StandsIn name text)
    (opens : mark ≠ "" ∧ Opens mark.toList) (start : String) :
    StandsIn name (start ++ mark ++ text) := by
  refine stands.prepend fun c last => opens.2 c ?_
  obtain ⟨front, d, cut⟩ := List.eq_nil_or_concat _ |>.resolve_left
    (show mark.toList ≠ [] by simpa using opens.1)
  rw [String.toList_append, cut, List.concat_eq_append, ← List.append_assoc,
    List.getLast?_concat] at last
  rwa [cut, List.concat_eq_append, List.getLast?_concat]

theorem before {mark : String} (stands : StandsIn name text)
    (closes : mark ≠ "" ∧ Closes mark.toList) (rest : String) :
    StandsIn name (text ++ mark ++ rest) := by
  rw [String.append_assoc]
  refine stands.append fun c first => closes.2 c ?_
  obtain ⟨d, back, cut⟩ := List.exists_cons_of_ne_nil
    (show mark.toList ≠ [] by simpa using closes.1)
  rw [String.toList_append, cut] at first
  rwa [cut]

theorem split {c : Char} {front back : List Char} (absent : c ∉ name.toList)
    (stands : StandsIn name (String.ofList (front ++ c :: back))) :
    StandsIn name (String.ofList front) ∨ StandsIn name (String.ofList back) := by
  obtain ⟨before, after, cut, opens, closes⟩ := stands
  simp only [StandsIn, String.toList_ofList] at cut ⊢
  rcases List.append_eq_append_iff.1 cut with ⟨more, whole, rest⟩ | ⟨more, front', after'⟩
  · rcases List.cons_eq_append_iff.1 rest with ⟨rfl, after'⟩ | ⟨more, rfl, rfl⟩
    · exact .inl ⟨before, [], by simpa using whole.symm, opens, nofun⟩
    · rcases List.append_eq_append_iff.1 whole with ⟨_, _, name'⟩ | ⟨more, rfl, rest⟩
      · exact absurd (name' ▸ by simp) absent
      · rcases List.cons_eq_append_iff.1 rest with ⟨rfl, name'⟩ | ⟨more, rfl, rfl⟩
        · exact absurd (name' ▸ List.mem_cons_self) absent
        · have opens' : Opens ([c] ++ more) := opens.of_append
          exact .inr ⟨more, after, rfl, opens'.of_append, closes⟩
  · exact .inl ⟨before, more, front', opens, (after' ▸ closes).of_append⟩

theorem exists_piece {c : Char} {pieces : List (List Char)} (absent : c ∉ name.toList)
    (inhabited : pieces ≠ []) (stands : StandsIn name (String.ofList ([c].intercalate pieces))) :
    ∃ piece ∈ pieces, StandsIn name (String.ofList piece) := by
  induction pieces with
  | nil => exact absurd rfl inhabited
  | cons piece pieces ih =>
    cases pieces with
    | nil => exact ⟨piece, List.mem_cons_self, by simpa using stands⟩
    | cons next pieces =>
      rw [List.intercalate_cons_cons, List.append_assoc, List.singleton_append] at stands
      rcases stands.split absent with here | later
      · exact ⟨piece, List.mem_cons_self, here⟩
      · obtain ⟨own, listed, stands⟩ := ih (List.cons_ne_nil _ _) later
        exact ⟨own, List.mem_cons_of_mem _ listed, stands⟩

theorem intercalate {lines : List String} {line : String} (member : line ∈ lines)
    (stands : StandsIn name line) : StandsIn name ("\n".intercalate lines) := by
  induction lines with
  | nil => cases member
  | cons first lines ih =>
    cases lines with
    | nil =>
      cases List.mem_singleton.1 member
      exact stands
    | cons next lines =>
      rw [String.intercalate_cons_cons]
      rcases List.mem_cons.1 member with rfl | later
      · exact stands.before (by decide) _
      · exact (ih later).behind (by decide) _

theorem exists_line (prelude : name ∈ preludeNames) (stands : StandsIn name text) :
    ∃ line ∈ Text.lines text, line ≠ "" ∧ StandsIn name line := by
  have plain : ∀ other ∈ preludeNames, '\n' ∉ other.toList ∧ '\r' ∉ other.toList ∧
      other.toList ≠ [] := by decide
  obtain ⟨feeds, returns, named⟩ := plain name prelude
  have filled {line : List Char} (stands : StandsIn name (String.ofList line)) : line ≠ [] := by
    rintro rfl
    obtain ⟨before, after, cut, -⟩ := stands
    exact named (by simp_all)
  rw [← String.ofList_toList (s := text), ← Text.intercalate_splitAll '\n' text.toList] at stands
  obtain ⟨first, others, cut⟩ := Text.exists_splitAll '\n' text.toList
  obtain ⟨piece, cut, stands⟩ := stands.exists_piece feeds (by simp [cut])
  obtain ⟨line, listed, rfl | rfl⟩ := Text.exists_mem_lines cut (filled stands)
  · exact ⟨_, listed, by simpa using filled stands, stands⟩
  · rcases stands.split returns with stands | stands
    · exact ⟨_, listed, by simpa using filled stands, stands⟩
    · exact absurd rfl (filled stands)

end StandsIn

theorem opens_spaces (width : Nat) : Opens (Text.spaces width).toList := by
  intro c last
  have blank := List.mem_of_getLast? last
  rw [Text.spaces, String.toList_ofList] at blank
  obtain rfl := List.eq_of_mem_replicate blank
  decide

def Flanks (front back : String) : Prop :=
  (front ≠ "" ∧ Opens front.toList) ∧ back ≠ "" ∧ Closes back.toList

instance (front back : String) : Decidable (Flanks front back) :=
  inferInstanceAs (Decidable (_ ∧ _))

namespace StandsIn
variable {name text : String}

theorem indentLine (width : Nat) (filled : text ≠ "") (stands : StandsIn name text) :
    StandsIn name (Text.indentLine width text) := by
  rw [Text.indentLine, if_neg (by simpa using filled)]
  exact stands.prepend (opens_spaces width)

theorem indent (width : Nat) (prelude : name ∈ preludeNames) (stands : StandsIn name text) :
    StandsIn name (Text.indent width text) := by
  obtain ⟨line, listed, filled, stands⟩ := stands.exists_line prelude
  exact (stands.indentLine width filled).intercalate (List.mem_map_of_mem listed)

theorem indentTail (width : Nat) (prelude : name ∈ preludeNames) (stands : StandsIn name text) :
    StandsIn name (Text.indentTail width text) := by
  obtain ⟨line, listed, filled, stands⟩ := stands.exists_line prelude
  unfold Text.indentTail
  cases lines : Text.lines text with
  | nil =>
    rw [lines] at listed
    cases listed
  | cons first rest =>
    rw [lines] at listed
    rcases List.mem_cons.1 listed with rfl | later
    · exact stands.intercalate List.mem_cons_self
    · exact (stands.indentLine width filled).intercalate
        (List.mem_cons_of_mem _ (List.mem_map_of_mem later))

theorem join {pieces : List String} {piece : String} (member : piece ∈ pieces)
    (stands : StandsIn name piece) : StandsIn name (String.join (pieces.map (· ++ "\n"))) := by
  induction pieces with
  | nil => cases member
  | cons first pieces ih =>
    rw [List.map_cons, String.join_cons]
    rcases List.mem_cons.1 member with rfl | later
    · exact stands.before (by decide) _
    · exact (ih later).behind (by decide) _

theorem refl (name : String) : StandsIn name name :=
  ⟨[], [], by simp, nofun, nofun⟩

theorem mentions {front back : String} (flanks : Flanks front back) (stands : StandsIn name text) :
    Mentions name (front ++ text ++ back) := by
  obtain ⟨⟨started, opens⟩, ended, closes⟩ := flanks
  obtain ⟨before, after, cut, opens', closes'⟩ := stands
  have before' : front.toList ++ before ≠ [] := by simp [started]
  have after' : after ++ back.toList ≠ [] := by simp [ended]
  obtain ⟨first, c, before'⟩ := List.eq_nil_or_concat _ |>.resolve_left before'
  obtain ⟨d, rest, after'⟩ := List.exists_cons_of_ne_nil after'
  have bounds := (opens.append opens') c (by simp [before'])
  refine ⟨c, d, bounds.1, bounds.2, (closes'.append closes) d (by simp [after']), first, rest, ?_⟩
  have apart : (front ++ text ++ back).toList =
      (front.toList ++ before) ++ name.toList ++ (after ++ back.toList) := by simp [cut]
  rw [apart, before', after']
  simp

end StandsIn

theorem Mentions.of_cut {name text : String} (front back : String) (flanks : Flanks front back)
    (cut : front ++ name ++ back = text) : Mentions name text :=
  cut ▸ (StandsIn.refl name).mentions flanks

theorem Mentions.stands {name text : String} (mentions : Mentions name text) :
    StandsIn name text := by
  obtain ⟨c, d, start, unqualified, stop, first, rest, cut⟩ := mentions
  refine ⟨first ++ [c], d :: rest, by simp [← cut], ?_, ?_⟩
  · intro b last
    obtain rfl : c = b := by simpa using last
    exact ⟨start, unqualified⟩
  · intro a first
    obtain rfl : d = a := by simpa using first
    exact stop

theorem StandsIn.of_blanks {name text : String} (prelude : name ∈ preludeNames)
    (mentions : Mentions name (" " ++ text ++ " ")) : StandsIn name text := by
  have plain : ∀ other ∈ preludeNames, ' ' ∉ other.toList ∧ other.toList ≠ [] := by decide
  obtain ⟨blank, named⟩ := plain name prelude
  have nowhere : ¬StandsIn name (String.ofList []) := by
    rintro ⟨before, after, cut, -⟩
    exact named (by simp_all)
  have stands := mentions.stands
  rw [← String.ofList_toList (s := " " ++ text ++ " "), String.append_assoc, String.toList_append,
    String.toList_append] at stands
  rcases @StandsIn.split name ' ' [] _ blank stands with none | stands
  · exact absurd none nowhere
  · rcases stands.split blank with stands | none
    · rwa [String.ofList_toList] at stands
    · exact absurd none nowhere

end Bindwright
