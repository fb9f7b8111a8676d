import Bindwright.Declaration.Snippet
import Bindwright.Proofs.Declaration.Bodies
import Bindwright.Proofs.Declaration.Scanning

namespace Bindwright.Declaration

open Text

variable {openMark closeMark : Char} {name : String} {d : Declarator} {x : List Char}
  {lexemes : List Lexeme}

structure Name where
  text : String
  wellFormed : isName text.toList

structure PlainName extends Name where
  plain : text ∉ keywords

theorem Name.spells (n : Name) : Spells n.text.toList [.word n.text] := by
  simpa using Spells.word n.wellFormed

theorem Name.text_ne_empty (n : Name) : n.text ≠ "" := by
  intro h
  have := n.wellFormed
  simp [h, isName] at this

inductive TypeSpelling where
  | named (name : PlainName)
  | primitive (word : String) (words : List String)
      (known : ∀ w ∈ word :: words, w ∈ primitiveWords)
  | record (tag : Name)

namespace TypeSpelling

def keyword : TypeSpelling → String
  | named name => name.text
  | primitive word words _ => " ".intercalate (word :: words)
  | record tag => tag.text

def text : TypeSpelling → String
  | record tag => "struct " ++ tag.text
  | type => type.keyword

end TypeSpelling

theorem isName_of_mem_primitiveWords : ∀ word ∈ primitiveWords, isName word.toList := by
  decide

theorem apart_blank : Apart (' ' :: x) := apart_cons (by decide)

theorem Spells.primitives {words : List String} {first : String}
    (h : Spells first.toList lexemes) (known : ∀ w ∈ words, w ∈ primitiveWords) :
    Spells (" ".intercalate (first :: words)).toList (lexemes ++ words.map .word) := by
  induction words generalizing first lexemes with
  | nil => simpa using h
  | cons word words ih =>
    obtain ⟨hw, hws⟩ := List.forall_mem_cons.1 known
    have next := (Name.spells ⟨word, isName_of_mem_primitiveWords word hw⟩).blank
    have : Spells (first ++ " " ++ word).toList (lexemes ++ [.word word]) := by
      simpa using h.append next apart_blank
    simpa using ih this hws

theorem TypeSpelling.spells (type : TypeSpelling) :
    ∃ lexemes, Spells type.text.toList lexemes ∧ IsType type.keyword lexemes := by
  cases type with
  | named name => exact ⟨_, name.spells, .named name.plain⟩
  | primitive word words known =>
    obtain ⟨hw, hws⟩ := List.forall_mem_cons.1 known
    have first := Name.spells ⟨word, isName_of_mem_primitiveWords word hw⟩
    exact ⟨_, first.primitives hws, .primitive known⟩
  | record tag =>
    refine ⟨_, ?_, .record⟩
    have := (Name.spells ⟨"struct", by decide⟩).append tag.spells.blank apart_blank
    simpa [TypeSpelling.text, TypeSpelling.keyword] using this

/-- What may stand between two brackets: any text whose lexemes balance these brackets, unless it
leaves a comment or a preprocessor line open, into which the closing bracket would fall. -/
structure Enclosed (openMark closeMark : Char) where
  text : List Char
  balanced : ∃ lexemes restLineStart,
    Scans false (text ++ [closeMark]) lexemes restLineStart [closeMark] ∧
      Balanced openMark closeMark lexemes

theorem Enclosed.spells (inner : Enclosed openMark closeMark) (ho : openMark ∈ punctuation)
    (hc : closeMark ∈ punctuation) :
    ∃ lexemes, Spells (openMark :: inner.text ++ [closeMark])
      (.mark openMark :: lexemes ++ [.mark closeMark]) ∧ Balanced openMark closeMark lexemes := by
  obtain ⟨lexemes, restLineStart, scans, balanced⟩ := inner.balanced
  refine ⟨lexemes, fun rest _ => ?_, balanced⟩
  have closing : Scans restLineStart (closeMark :: rest) [.mark closeMark] false rest :=
    .single (nextPiece_of_mem_punctuation hc)
  have inside := (scans.append_right (by simp) rest).trans closing
  simpa [Piece.lexeme?] using Scans.step (nextPiece_of_mem_punctuation ho) inside

def Enclosed.ofSpells (spells : Spells x lexemes)
    (balanced : Balanced openMark closeMark lexemes) (hc : closeMark ∈ punctuation) :
    Enclosed openMark closeMark :=
  ⟨x, lexemes, false, spells _ (apart_of_mem_punctuation hc), balanced⟩

/-- A declarator as it is written, from what is declared inwards to the base type. -/
inductive DeclaratorSpelling where
  | value
  | pointer (inner : DeclaratorSpelling)
  | array (bound : Enclosed '[' ']') (inner : DeclaratorSpelling)
  | function (parameters : Enclosed '(' ')') (inner : DeclaratorSpelling)

def closed (text : List Char) : List Char :=
  if text.head? = some '*' then '(' :: text ++ [')'] else text

namespace DeclaratorSpelling

def shape : DeclaratorSpelling → Declarator
  | value => .value
  | pointer s => .pointer s.shape
  | array _ s => .array s.shape
  | function _ s => .function s.shape

def around : DeclaratorSpelling → List Char → List Char
  | value, text => text
  | pointer s, text => s.around ('*' :: text)
  | array bound s, text => s.around (closed text ++ ('[' :: bound.text ++ [']']))
  | function parameters s, text => s.around (closed text ++ ('(' :: parameters.text ++ [')']))

end DeclaratorSpelling

def Writes (name : String) (d : Declarator) (text : List Char) : Prop :=
  ∃ lexemes, Spells text lexemes ∧ Declares name (text.head? ≠ some '*') d lexemes

def WritesDirect (name : String) (d : Declarator) (text : List Char) : Prop :=
  text.head? ≠ some '*' ∧ ∃ lexemes, Spells text lexemes ∧ Declares name true d lexemes

theorem WritesDirect.writes (h : WritesDirect name d x) : Writes name d x := by
  obtain ⟨head, lexemes, spells, declares⟩ := h
  exact ⟨lexemes, spells, by simpa [head] using declares⟩

theorem Writes.closed (h : Writes name d x) : WritesDirect name d (closed x) := by
  obtain ⟨lexemes, spells, declares⟩ := h
  unfold Declaration.closed
  split
  case isTrue star =>
    have closing := Spells.nil.mark (show ')' ∈ punctuation by decide)
    have inside := spells.append closing (apart_of_mem_punctuation (by decide))
    exact ⟨by simp, _, inside.mark (by decide), declares.parens⟩
  case isFalse star => exact ⟨star, lexemes, spells, by simpa [star] using declares⟩

theorem Writes.pointer (h : Writes name d x) : Writes name d.addPointer ('*' :: x) := by
  obtain ⟨lexemes, spells, declares⟩ := h
  exact ⟨_, spells.mark (by decide), declares.pointer⟩

theorem WritesDirect.followed (h : WritesDirect name d x) (inner : Enclosed openMark closeMark)
    (ho : openMark ∈ punctuation) (hc : closeMark ∈ punctuation) (hne : openMark ≠ '*') :
    (x ++ (openMark :: inner.text ++ [closeMark])).head? ≠ some '*' ∧
      ∃ declared lexemes, Spells (x ++ (openMark :: inner.text ++ [closeMark]))
          (declared ++ .mark openMark :: lexemes ++ [.mark closeMark]) ∧
        Declares name true d declared ∧ Balanced openMark closeMark lexemes := by
  obtain ⟨head, declared, spells, declares⟩ := h
  obtain ⟨lexemes, group, balanced⟩ := inner.spells ho hc
  refine ⟨?_, declared, lexemes, ?_, declares, balanced⟩
  · cases x with
    | nil => simpa using hne
    | cons c cs => exact head
  · simpa using spells.append group (apart_of_mem_punctuation ho)

theorem WritesDirect.array (h : WritesDirect name d x) (bound : Enclosed '[' ']') :
    WritesDirect name d.addArray (x ++ ('[' :: bound.text ++ [']'])) := by
  obtain ⟨head, declared, lexemes, spells, declares, balanced⟩ :=
    h.followed bound (by decide) (by decide) (by decide)
  exact ⟨head, _, spells, declares.array balanced⟩

theorem WritesDirect.function (h : WritesDirect name d x) (parameters : Enclosed '(' ')') :
    WritesDirect name d.addFunction (x ++ ('(' :: parameters.text ++ [')'])) := by
  obtain ⟨head, declared, lexemes, spells, declares, balanced⟩ :=
    h.followed parameters (by decide) (by decide) (by decide)
  exact ⟨head, _, spells, declares.function balanced⟩

theorem Writes.around (h : Writes name d x) (s : DeclaratorSpelling) :
    Writes name (.fill s.shape d) (s.around x) := by
  induction s generalizing d x with
  | value => rwa [DeclaratorSpelling.shape, Declarator.fill_value]
  | pointer s ih =>
    have := ih h.pointer
    rwa [Declarator.addPointer, Declarator.fill_fill] at this
  | array bound s ih =>
    have := ih (h.closed.array bound).writes
    rwa [Declarator.addArray, Declarator.fill_fill] at this
  | function parameters s ih =>
    have := ih (h.closed.function parameters).writes
    rwa [Declarator.addFunction, Declarator.fill_fill] at this

theorem PlainName.writes (n : PlainName) : Writes n.text .value n.text.toList := by
  have head : n.text.toList.head? ≠ some '*' := by
    intro star
    have := n.wellFormed
    cases hn : n.text.toList with
    | nil => simp [hn] at star
    | cons c cs =>
      obtain rfl : c = '*' := by simpa [hn] using star
      simp [hn, isName, startsName] at this
  exact ⟨_, n.spells, by simpa [head] using .name⟩

structure MemberSpelling where
  type : TypeSpelling
  name : PlainName
  declarator : DeclaratorSpelling

namespace MemberSpelling

def text (m : MemberSpelling) : List Char :=
  m.type.text.toList ++ ' ' :: (m.declarator.around m.name.text.toList ++ [';', ' '])

def spelled (m : MemberSpelling) : String × String × Declarator :=
  (m.name.text, m.type.keyword, m.declarator.shape)

end MemberSpelling

def body (ms : List MemberSpelling) : List Char :=
  '\x7b' :: ' ' :: (ms.flatMap MemberSpelling.text ++ ['\x7d'])

theorem members_spelled (ms : List MemberSpelling) :
    ∃ lexemes, Spells (ms.flatMap MemberSpelling.text) lexemes ∧
      DeclaresMembers (ms.map MemberSpelling.spelled) lexemes := by
  induction ms with
  | nil => exact ⟨[], .nil, .nil⟩
  | cons m ms ih =>
    obtain ⟨others, spells, more⟩ := ih
    obtain ⟨type, typeSpells, isType⟩ := m.type.spells
    obtain ⟨declared, declares, isDeclarator⟩ := m.name.writes.around m.declarator
    refine ⟨_, ?_, .cons m.name.plain isType isDeclarator more⟩
    have ending := spells.blank.mark (show ';' ∈ punctuation by decide)
    have member := (declares.append ending (apart_of_mem_punctuation (by decide))).blank
    simpa [MemberSpelling.text] using typeSpells.append member apart_blank

theorem body_spelled (ms : List MemberSpelling) :
    ∃ lexemes, Spells (body ms) (.mark '\x7b' :: (lexemes ++ [.mark '\x7d'])) ∧
      DeclaresMembers (ms.map MemberSpelling.spelled) lexemes := by
  obtain ⟨lexemes, spells, declares⟩ := members_spelled ms
  refine ⟨lexemes, ?_, declares⟩
  have closing := Spells.nil.mark (show '\x7d' ∈ punctuation by decide)
  exact (spells.append closing (apart_of_mem_punctuation (by decide))).blank.mark (by decide)

def structText (tag : Name) (ms : List MemberSpelling) : String :=
  "struct " ++ tag.text ++ " " ++ String.ofList (body ms) ++ ";"

def tagText : Option Name → String
  | some tag => tag.text ++ " "
  | none => ""

def typedefText (tag : Option Name) (ms : List MemberSpelling) (name : PlainName) : String :=
  "typedef struct " ++ tagText tag ++ String.ofList (body ms) ++ " " ++ name.text ++ ";"

theorem toList_structText (tag : Name) (ms : List MemberSpelling) :
    (structText tag ms).toList =
      "struct".toList ++ ' ' :: (tag.text.toList ++ ' ' :: (body ms ++ [';'])) := by
  unfold structText
  simp

theorem tokens_structText (tag : Name) (ms : List MemberSpelling) (p : Position) :
    ∃ ts lexemes, tokens p (structText tag ms) = .ok ts ∧
      DeclaresMembers (ms.map MemberSpelling.spelled) lexemes ∧
      ts.map Token.lexeme = .word "struct" :: .word tag.text :: .mark '\x7b' ::
        (lexemes ++ [.mark '\x7d', .mark ';']) := by
  obtain ⟨lexemes, spells, declares⟩ := body_spelled ms
  have ending := spells.append (Spells.nil.mark (show ';' ∈ punctuation by decide))
    (apart_of_mem_punctuation (by decide))
  have afterKeyword := (tag.spells.append ending.blank apart_blank).blank
  obtain ⟨ts, hts, lexed⟩ := afterKeyword.tokens_eq_ok (by decide) apart_blank
    (toList_structText tag ms) p
  exact ⟨ts, lexemes, hts, declares, by simpa using lexed⟩

theorem tagText_spells (tag : Option Name) :
    Spells (tagText tag).toList ((tag.map Name.text).toList.map .word) := by
  cases tag with
  | none => exact .nil
  | some tag => simpa [tagText] using tag.spells.append Spells.nil.blank apart_blank

theorem toList_typedefText (tag : Option Name) (ms : List MemberSpelling) (name : PlainName) :
    (typedefText tag ms name).toList = "typedef".toList ++ ' ' :: ("struct".toList ++
      ' ' :: ((tagText tag).toList ++ (body ms ++ ' ' :: (name.text.toList ++ [';'])))) := by
  unfold typedefText
  simp

theorem tokens_typedefText (tag : Option Name) (ms : List MemberSpelling) (name : PlainName)
    (p : Position) :
    ∃ ts lexemes, tokens p (typedefText tag ms name) = .ok ts ∧
      DeclaresMembers (ms.map MemberSpelling.spelled) lexemes ∧
      ts.map Token.lexeme = .word "typedef" :: .word "struct" ::
        ((tag.map Name.text).toList.map .word ++ .mark '\x7b' :: (lexemes ++ .mark '\x7d' ::
          ([.word name.text] ++ [.mark ';']))) := by
  obtain ⟨lexemes, spells, declares⟩ := body_spelled ms
  have named := (name.spells.append (Spells.nil.mark (show ';' ∈ punctuation by decide))
    (apart_of_mem_punctuation (by decide))).blank
  have tagged := (tagText_spells tag).append (spells.append named apart_blank)
    (apart_of_mem_punctuation (by decide))
  have struct := Name.spells ⟨"struct", by decide⟩
  have afterKeyword := (struct.append tagged.blank apart_blank).blank
  obtain ⟨ts, hts, lexed⟩ := afterKeyword.tokens_eq_ok (by decide) apart_blank
    (toList_typedefText tag ms name) p
  exact ⟨ts, lexemes, hts, declares, by simpa using lexed⟩

theorem Snippet.declarations_eq_ok {text : String} {p : Position} {ts : List Token}
    {ds : List Declaration} (ht : tokens p text = .ok ts) (hd : ofTokens ts = .ok ds) :
    Snippet.declarations ⟨text, p⟩ = .ok ds := by
  simp [Snippet.declarations, ht, hd, bind, Except.bind]

/-- Parsing a printed structure gives it back, whether it is declared alone or given a name; a
structure without a tag goes by the name it is given. -/
theorem printed_structures_are_read_back (tag : Name) (ms : List MemberSpelling) (name : PlainName)
    (p : Position) :
    (∃ members, members.map Member.spelled = ms.map MemberSpelling.spelled ∧
      Snippet.declarations ⟨structText tag ms, p⟩ = .ok [.record tag.text members]) ∧
    (∃ members, members.map Member.spelled = ms.map MemberSpelling.spelled ∧
      Snippet.declarations ⟨typedefText (some tag) ms name, p⟩ =
        .ok [.record tag.text members, .typeName name.text tag.text]) ∧
    ∃ members, members.map Member.spelled = ms.map MemberSpelling.spelled ∧
      Snippet.declarations ⟨typedefText none ms name, p⟩ =
        .ok [.record name.text members, .typeName name.text name.text] := by
  have named : ∀ tag : Option Name, ∃ members,
      members.map Member.spelled = ms.map MemberSpelling.spelled ∧
      Snippet.declarations ⟨typedefText tag ms name, p⟩ =
        .ok [.record ((tag.map Name.text).getD name.text) members,
          .typeName name.text ((tag.map Name.text).getD name.text)] := by
    intro tag
    obtain ⟨ts, lexemes, hts, declares, lexed⟩ := tokens_typedefText tag ms name p
    have htag : tag.map Name.text ≠ some "" := by
      cases tag with
      | none => simp
      | some tag => simpa using tag.text_ne_empty
    obtain ⟨members, hm, read⟩ := declares.typeName htag name.plain .name lexed
    exact ⟨members, hm, Snippet.declarations_eq_ok hts read⟩
  refine ⟨?_, named (some tag), named none⟩
  obtain ⟨ts, lexemes, hts, declares, lexed⟩ := tokens_structText tag ms p
  obtain ⟨members, hm, read⟩ := declares.record lexed
  exact ⟨members, hm, Snippet.declarations_eq_ok hts read⟩

def callbackParameters : Enclosed '(' ')' :=
  .ofSpells
    ((Name.spells ⟨"int", by decide⟩).append
      ((Name.spells ⟨"float", by decide⟩).blank.mark (show ',' ∈ punctuation by decide))
      (apart_of_mem_punctuation (by decide)))
    (.other (by decide) (by decide)
      (.other (by decide) (by decide) (.other (by decide) (by decide) .nil)))
    (by decide)

def countsBound : Enclosed '[' ']' :=
  .ofSpells (Name.spells ⟨"COUNT", by decide⟩) (.other (by decide) (by decide) .nil) (by decide)

def sampleMembers : List MemberSpelling :=
  [⟨.primitive "void" [] (by decide), ⟨⟨"callback", by decide⟩, by decide⟩,
    .pointer (.function callbackParameters .value)⟩,
   ⟨.primitive "unsigned" ["int"] (by decide), ⟨⟨"counts", by decide⟩, by decide⟩,
    .array countsBound .value⟩,
   ⟨.record ⟨"VkExtent2D", by decide⟩, ⟨⟨"extent", by decide⟩, by decide⟩, .pointer .value⟩]

theorem printed_structures_are_read_back_sample :
    ∃ members, members.map Member.spelled =
        [("callback", "void", .pointer (.function .value)),
          ("counts", "unsigned int", .array .value), ("extent", "VkExtent2D", .pointer .value)] ∧
      Snippet.declarations ⟨"typedef struct VkSample \x7b void (*callback)(int, float); " ++
          "unsigned int counts[COUNT]; struct VkExtent2D *extent; \x7d VkAlias;", .start⟩ =
        .ok [.record "VkSample" members, .typeName "VkAlias" "VkSample"] :=
  (printed_structures_are_read_back ⟨"VkSample", by decide⟩ sampleMembers
    ⟨⟨"VkAlias", by decide⟩, by decide⟩ .start).2.1

end Bindwright.Declaration
