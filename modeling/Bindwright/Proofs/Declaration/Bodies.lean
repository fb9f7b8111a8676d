import Bindwright.Proofs.Declaration.Declarators

namespace Bindwright

def Member.spelled (m : Member) : String × String × Declarator := (m.name, m.typeName, m.declarator)

namespace Declaration

open Text

variable {stop : Position} {topLevel : Bool} {said said' : Specifiers} {type : TypeSpecifier}
  {t u : Token} {ts more rest : List Token} {name word keyword tag : String} {d : Declarator}
  {lexemes : List Lexeme} {members : List Member} {isTypedef : Bool}

def keywords : List String :=
  storageClasses ++ qualifiers ++ primitiveWords ++ ["typedef", "struct", "union", "enum"]

theorem not_mem_qualifiers (plain : name ∉ keywords) : name ∉ qualifiers :=
  fun h => plain (by simp [keywords, h])

inductive IsType : (keyword : String) → List Lexeme → Prop where
  | named {name : String} (plain : name ∉ keywords) : IsType name [.word name]
  | primitive {word : String} {words : List String}
      (known : ∀ w ∈ word :: words, w ∈ primitiveWords) :
      IsType (" ".intercalate (word :: words)) ((word :: words).map .word)
  | record {tag : String} : IsType tag [.word "struct", .word tag]

def EndsSpecifiers (t : Token) : Prop := ∀ word, t.lexeme = .word word → word ∉ keywords

theorem takeSpecifiers_stop (ht : EndsSpecifiers t) (hs : said.type? = some type) :
    ∃ h, takeSpecifiers stop topLevel said (t :: ts) = .ok (said, ⟨t :: ts, h⟩) := by
  refine ⟨Nat.le_refl _, ?_⟩
  cases hl : t.lexeme with
  | word word =>
    have plain := ht word hl
    simp only [keywords, List.mem_append, List.mem_cons, List.not_mem_nil, not_or] at plain
    simp [takeSpecifiers, Token.word?, hl, hs, plain]
  | number text | mark c => simp [takeSpecifiers, Token.word?, hl]

theorem takeSpecifiers_named (ht : t.lexeme = .word name) (plain : name ∉ keywords)
    (hs : said.type? = none)
    (next : ∃ h, takeSpecifiers stop topLevel { said with type? := some (.named name) } ts =
      .ok (said', ⟨rest, h⟩)) :
    ∃ h, takeSpecifiers stop topLevel said (t :: ts) = .ok (said', ⟨rest, h⟩) := by
  obtain ⟨h, e⟩ := next
  refine ⟨by simp; omega, ?_⟩
  simp only [keywords, List.mem_append, List.mem_cons, List.not_mem_nil, not_or] at plain
  simp [takeSpecifiers, Token.word?, ht, hs, plain, Specifiers.addType, e, bind, Except.bind, pure,
    Except.pure]

theorem primitiveWords_others :
    ∀ word ∈ primitiveWords, word ≠ "typedef" ∧ word ∉ storageClasses ∧ word ∉ qualifiers := by
  decide

theorem takeSpecifiers_primitive (ht : t.lexeme = .word word) (known : word ∈ primitiveWords)
    {said₁ : Specifiers} (hs : said.addType (.primitive word) t.position = .ok said₁)
    (next : ∃ h, takeSpecifiers stop topLevel said₁ ts = .ok (said', ⟨rest, h⟩)) :
    ∃ h, takeSpecifiers stop topLevel said (t :: ts) = .ok (said', ⟨rest, h⟩) := by
  obtain ⟨h, e⟩ := next
  refine ⟨by simp; omega, ?_⟩
  have others := primitiveWords_others word known
  simp [takeSpecifiers, Token.word?, ht, known, others, hs, e, bind, Except.bind, pure, Except.pure]

theorem takeSpecifiers_record (ht : t.lexeme = .word "struct")
    (hr : ∃ h, recordSpecifier stop ts = .ok (type, ⟨more, h⟩)) (hs : said.type? = none)
    (next : ∃ h, takeSpecifiers stop topLevel { said with type? := some type } more =
      .ok (said', ⟨rest, h⟩)) :
    ∃ h, takeSpecifiers stop topLevel said (t :: ts) = .ok (said', ⟨rest, h⟩) := by
  obtain ⟨hr, er⟩ := hr
  obtain ⟨h, e⟩ := next
  refine ⟨by simp; omega, ?_⟩
  have others : "struct" ∉ storageClasses ∧ "struct" ∉ qualifiers ∧ "struct" ∉ primitiveWords := by
    decide
  simp [takeSpecifiers, Token.word?, ht, others, er, hs, Specifiers.addType, e, bind, Except.bind,
    pure, Except.pure]

theorem takeSpecifiers_typedef (ht : t.lexeme = .word "typedef") (hs : said.isTypedef = false)
    (next : ∃ h, takeSpecifiers stop true { said with isTypedef := true } ts =
      .ok (said', ⟨rest, h⟩)) :
    ∃ h, takeSpecifiers stop true said (t :: ts) = .ok (said', ⟨rest, h⟩) := by
  obtain ⟨h, e⟩ := next
  refine ⟨by simp; omega, ?_⟩
  simp [takeSpecifiers, Token.word?, ht, hs, e, bind, Except.bind, pure, Except.pure]

theorem takeTag_word (ht : t.lexeme = .word tag) :
    takeTag (t :: ts) = (some tag, ⟨ts, Nat.le_succ _⟩) := by
  simp only [takeTag, Token.word?, ht]

theorem recordSpecifier_tag (ht : t.lexeme = .word tag) (hu : u.isMark '\x7b' = false) :
    ∃ h, recordSpecifier stop (t :: u :: ts) = .ok (.record (some tag) none, ⟨u :: ts, h⟩) := by
  refine ⟨by simp, ?_⟩
  rw [recordSpecifier, takeTag_word ht]
  simp [hu, pure, Except.pure]

theorem recordSpecifier_body {tag : Option String} {hl : (u :: more).length ≤ ts.length}
    (ht : takeTag ts = (tag, ⟨u :: more, hl⟩)) (hu : u.lexeme = .mark '\x7b')
    (hb : ∃ h, recordBody stop more = .ok (members, ⟨rest, h⟩)) :
    ∃ h, recordSpecifier stop ts = .ok (.record tag (some members), ⟨rest, h⟩) := by
  obtain ⟨hb, eb⟩ := hb
  refine ⟨by simp at hl; omega, ?_⟩
  rw [recordSpecifier, ht]
  simp [Token.isMark, hu, eb, bind, Except.bind, pure, Except.pure]

theorem takeSpecifiers_primitives {words : List String}
    (known : ∀ w ∈ words, w ∈ primitiveWords) (hts : ts.map Token.lexeme = words.map .word)
    (ht : EndsSpecifiers t) :
    ∃ h, takeSpecifiers stop topLevel ⟨isTypedef, some (.primitive word)⟩ (ts ++ t :: rest) =
      .ok (⟨isTypedef, some (.primitive (" ".intercalate (word :: words)))⟩, ⟨t :: rest, h⟩) := by
  induction words generalizing ts word with
  | nil =>
    obtain rfl : ts = [] := by simpa using hts
    exact takeSpecifiers_stop ht rfl
  | cons next words ih =>
    obtain ⟨u, us, rfl, hu, hus⟩ := List.map_eq_cons_iff.1 hts
    obtain ⟨hn, hw⟩ := List.forall_mem_cons.1 known
    exact takeSpecifiers_primitive hu hn rfl (ih hw hus)

theorem IsType.read (h : IsType keyword lexemes) (hts : ts.map Token.lexeme = lexemes)
    (ht : EndsSpecifiers t) (hb : t.isMark '\x7b' = false) :
    ∃ type, (Specifiers.mk false (some type)).typeName = keyword ∧
      ∃ h, takeSpecifiers stop topLevel .none (ts ++ t :: rest) =
        .ok (⟨false, some type⟩, ⟨t :: rest, h⟩) := by
  cases h with
  | named plain =>
    obtain ⟨u, rfl, hu⟩ := List.map_eq_singleton_iff.1 hts
    exact ⟨.named keyword, rfl, takeSpecifiers_named hu plain rfl (takeSpecifiers_stop ht rfl)⟩
  | @primitive word words known =>
    obtain ⟨u, us, rfl, hu, hus⟩ := List.map_eq_cons_iff.1 hts
    obtain ⟨hw, hws⟩ := List.forall_mem_cons.1 known
    exact ⟨.primitive (" ".intercalate (word :: words)), rfl,
      takeSpecifiers_primitive hu hw rfl (takeSpecifiers_primitives hws hus ht)⟩
  | record =>
    obtain ⟨u, us, rfl, hu, hus⟩ := List.map_eq_cons_iff.1 hts
    obtain ⟨v, rfl, hv⟩ := List.map_eq_singleton_iff.1 hus
    exact ⟨.record (some keyword) none, rfl,
      takeSpecifiers_record hu (recordSpecifier_tag hv hb) rfl (takeSpecifiers_stop ht rfl)⟩

theorem IsType.exists_cons (h : IsType keyword lexemes) :
    ∃ word more, lexemes = .word word :: more := by
  cases h <;> exact ⟨_, _, rfl⟩

theorem specifiers_eq_ok
    (h : ∃ h, takeSpecifiers stop topLevel .none ts = .ok (⟨isTypedef, some type⟩, ⟨rest, h⟩)) :
    ∃ h, specifiers stop topLevel ts = .ok (⟨isTypedef, some type⟩, ⟨rest, h⟩) := by
  obtain ⟨h, e⟩ := h
  refine ⟨h, ?_⟩
  cases ts with
  | nil => simp [takeSpecifiers, Specifiers.none] at e
  | cons t ts =>
    rw [specifiers, e]
    simp [bind, Except.bind, pure, Except.pure]

/-- The lexemes are members of a structure, each with its name, the keyword of its type and its
declarator. -/
inductive DeclaresMembers : List (String × String × Declarator) → List Lexeme → Prop where
  | nil : DeclaresMembers [] []
  | cons {name keyword : String} {d : Declarator} {direct : Bool}
      {members : List (String × String × Declarator)} {type lexemes others : List Lexeme}
      (plain : name ∉ keywords) (isType : IsType keyword type)
      (declares : Declares name direct d lexemes) (more : DeclaresMembers members others) :
      DeclaresMembers ((name, keyword, d) :: members) (type ++ lexemes ++ .mark ';' :: others)

def Begins (name : String) (t : Token) : Prop :=
  t.lexeme = .word name ∨ t.lexeme = .mark '(' ∨ t.lexeme = .mark '*'

theorem Begins.endsSpecifiers (h : Begins name t) (plain : name ∉ keywords) :
    EndsSpecifiers t := by
  intro word hw
  have : name = word := by simpa [Begins, hw, eq_comm] using h
  exact this ▸ plain

theorem Begins.isMark (h : Begins name t) {c : Char} (hp : c ≠ '(') (hs : c ≠ '*') :
    t.isMark c = false := by
  rcases h with h | h | h <;> simp [Token.isMark, h, hp.symm, hs.symm]

theorem Declares.begins {direct : Bool} (h : Declares name direct d (ts.map Token.lexeme)) :
    ∃ t us, ts = t :: us ∧ Begins name t := by
  obtain ⟨first, more, hts, hf⟩ := h.exists_cons
  obtain ⟨t, us, rfl, rfl, -⟩ := List.map_eq_cons_iff.1 hts
  exact ⟨t, us, rfl, hf.imp_right (Or.imp_right And.right)⟩

theorem passExpressionAfter_of_not_isMark {c : Char} (ht : t.isMark c = false) :
    passExpressionAfter stop c (t :: ts) = .ok ⟨t :: ts, Nat.le_refl _⟩ := by
  simp [passExpressionAfter, ht, pure, Except.pure]

theorem memberDeclarators_single (ht : t.isMark ':' = false)
    (hd : ∃ h, declarator stop (t :: ts) = .ok (name, d, ⟨u :: rest, h⟩))
    (hc : u.isMark ':' = false) (hu : u.isMark ',' = false) :
    ∃ h, memberDeclarators stop keyword (t :: ts) =
      .ok ([⟨name, keyword, d, t.position⟩], ⟨u :: rest, h⟩) := by
  obtain ⟨h, e⟩ := hd
  refine ⟨h, ?_⟩
  rw [memberDeclarators, if_neg (by simp [ht]), e]
  simp [passExpressionAfter_of_not_isMark hc, hu, bind, Except.bind, pure, Except.pure]

theorem recordBody_member (hs : ∃ h, specifiers stop false (t :: ts) = .ok (said, ⟨u :: more, h⟩))
    (ht : t.isMark '\x7d' = false) (hu : u.isMark ';' = false) {m : Member} {semicolon : Token}
    {others : List Token}
    (hm : ∃ h, memberDeclarators stop said.typeName (u :: more) =
      .ok ([m], ⟨semicolon :: others, h⟩))
    (hc : semicolon.lexeme = .mark ';')
    (hb : ∃ h, recordBody stop others = .ok (members, ⟨rest, h⟩)) :
    ∃ h, recordBody stop (t :: ts) = .ok (m :: members, ⟨rest, h⟩) := by
  obtain ⟨hs, es⟩ := hs
  obtain ⟨hm, em⟩ := hm
  obtain ⟨hb, eb⟩ := hb
  have hc := semicolon.isMark_of_lexeme hc
  refine ⟨by simp at hs hm ⊢; omega, ?_⟩
  rw [recordBody, if_neg (by simp [ht]), es]
  simp [startsWithMark, hu, em, takeMark, hc, eb, bind, Except.bind, pure, Except.pure]

theorem recordBody_close (ht : t.lexeme = .mark '\x7d') :
    ∃ h, recordBody stop (t :: ts) = .ok ([], ⟨ts, h⟩) := by
  refine ⟨by simp, ?_⟩
  rw [recordBody, if_pos (t.isMark_of_lexeme ht)]
  rfl

theorem recordBody_cons {direct : Bool} {types declared others : List Token} {semicolon : Token}
    (plain : name ∉ keywords) (isType : IsType keyword (types.map Token.lexeme))
    (declares : Declares name direct d (declared.map Token.lexeme))
    (hs : semicolon.lexeme = .mark ';')
    (hb : ∃ h, recordBody stop others = .ok (members, ⟨rest, h⟩)) :
    ∃ m : Member, m.spelled = (name, keyword, d) ∧
      ∃ h, recordBody stop (types ++ declared ++ semicolon :: others) =
        .ok (m :: members, ⟨rest, h⟩) := by
  obtain ⟨u, us, rfl, begins⟩ := declares.begins
  obtain ⟨word, words, htypes⟩ := isType.exists_cons
  obtain ⟨w, types, rfl, hw, -⟩ := List.map_eq_cons_iff.1 htypes
  have noSuffix : NoSuffix (semicolon :: others) := noSuffix_of_mark hs (by decide) (by decide)
  obtain ⟨type, hk, taken⟩ := isType.read rfl (begins.endsSpecifiers plain)
    (begins.isMark (by decide) (by decide))
  -- The keyword of the type is what the specifiers say of it.
  refine ⟨⟨name, (Specifiers.mk false (some type)).typeName, d, u.position⟩,
    by simp [Member.spelled, hk], ?_⟩
  rw [show w :: types ++ u :: us ++ semicolon :: others =
    w :: (types ++ u :: (us ++ semicolon :: others)) by simp]
  refine recordBody_member (specifiers_eq_ok taken) (by simp [Token.isMark, hw])
    (begins.isMark (by decide) (by decide)) ?_ hs hb
  exact memberDeclarators_single (begins.isMark (by decide) (by decide))
    (declares.reads (not_mem_qualifiers plain) noSuffix) (semicolon.isMark_of_ne hs (by decide))
    (semicolon.isMark_of_ne hs (by decide))

theorem DeclaresMembers.read {spelled : List (String × String × Declarator)}
    (h : DeclaresMembers spelled lexemes) (hts : ts.map Token.lexeme = lexemes)
    (ht : t.lexeme = .mark '\x7d') :
    ∃ members, members.map Member.spelled = spelled ∧
      ∃ h, recordBody stop (ts ++ t :: rest) = .ok (members, ⟨rest, h⟩) := by
  induction h generalizing ts with
  | nil =>
    obtain rfl : ts = [] := by simpa using hts
    exact ⟨[], rfl, recordBody_close ht⟩
  | cons plain isType declares _ ih =>
    obtain ⟨us, vs, rfl, hus, hvs⟩ := List.map_eq_append_iff.1 hts
    obtain ⟨types, declared, rfl, rfl, rfl⟩ := List.map_eq_append_iff.1 hus
    obtain ⟨semicolon, others, rfl, hs, ho⟩ := List.map_eq_cons_iff.1 hvs
    obtain ⟨members, rfl, body⟩ := ih ho
    obtain ⟨m, spelled, read⟩ := recordBody_cons plain isType declares hs body
    refine ⟨m :: members, by simp [spelled], ?_⟩
    rw [List.append_assoc _ (semicolon :: others)]
    exact read

theorem takeTag_of_optional {tag : Option String} (hts : ts.map Token.lexeme = tag.toList.map .word)
    (hu : u.lexeme = .mark '\x7b') :
    ∃ h, takeTag (ts ++ u :: more) = (tag, ⟨u :: more, h⟩) := by
  cases tag with
  | none =>
    obtain rfl : ts = [] := by simpa using hts
    exact ⟨Nat.le_refl _, by simp [takeTag, Token.word?, hu]⟩
  | some tag =>
    obtain ⟨t, rfl, ht⟩ := List.map_eq_singleton_iff.1 hts
    exact ⟨by simp, takeTag_word ht⟩

theorem DeclaresMembers.takeSpecifiers {spelled : List (String × String × Declarator)}
    {tag : Option String} {word opening closing : Token} {tags body : List Token}
    (h : DeclaresMembers spelled (body.map Token.lexeme)) (hw : word.lexeme = .word "struct")
    (ht : tags.map Token.lexeme = tag.toList.map .word) (ho : opening.lexeme = .mark '\x7b')
    (hc : closing.lexeme = .mark '\x7d') (hu : EndsSpecifiers u) :
    ∃ members, members.map Member.spelled = spelled ∧
      ∃ h, takeSpecifiers stop true ⟨isTypedef, none⟩
          (word :: (tags ++ opening :: (body ++ closing :: u :: more))) =
        .ok (⟨isTypedef, some (.record tag (some members))⟩, ⟨u :: more, h⟩) := by
  obtain ⟨members, hm, read⟩ := h.read rfl hc
  obtain ⟨_, tagged⟩ := takeTag_of_optional ht ho
  exact ⟨members, hm, takeSpecifiers_record hw (recordSpecifier_body tagged ho read) rfl
    (takeSpecifiers_stop hu rfl)⟩

theorem declaration_unnamed
    (hs : ∃ h, specifiers stop true ts = .ok (said, ⟨u :: rest, h⟩)) (hu : u.lexeme = .mark ';')
    {ds : List Declaration} (hd : declared said none u.position = .ok ds) :
    ∃ h, declaration stop ts = .ok (ds, ⟨rest, h⟩) := by
  obtain ⟨h, e⟩ := hs
  refine ⟨by simp at h; omega, ?_⟩
  have hu := u.isMark_of_lexeme hu
  rw [declaration, e]
  simp [startsWithMark, hu, takeMark, hd, bind, Except.bind, pure, Except.pure]

theorem declarators_single (hd : ∃ h, declarator stop (t :: ts) = .ok (name, d, ⟨u :: rest, h⟩))
    (he : u.isMark '=' = false) (hu : u.isMark ',' = false) :
    ∃ h, declarators stop true none (t :: ts) = .ok (some name, ⟨u :: rest, h⟩) := by
  obtain ⟨h, e⟩ := hd
  refine ⟨h, ?_⟩
  rw [declarators, e]
  simp [passExpressionAfter_of_not_isMark he, hu, bind, Except.bind, pure, Except.pure]

theorem declaration_named
    (hs : ∃ h, specifiers stop true ts = .ok (said, ⟨t :: more, h⟩)) (ht : t.isMark ';' = false)
    {name? : Option String}
    (hn : ∃ h, declarators stop said.isTypedef none (t :: more) = .ok (name?, ⟨u :: rest, h⟩))
    (hu : u.lexeme = .mark ';')
    {ds : List Declaration} (hd : declared said name? u.position = .ok ds) :
    ∃ h, declaration stop ts = .ok (ds, ⟨rest, h⟩) := by
  obtain ⟨h, e⟩ := hs
  obtain ⟨hn, en⟩ := hn
  refine ⟨by simp at h hn; omega, ?_⟩
  have hu := u.isMark_of_lexeme hu
  rw [declaration, e]
  simp [startsWithMark, ht, en, hu, takeMark, hd, bind, Except.bind, pure, Except.pure]

theorem declarations_single {ds : List Declaration} (ht : t.isMark ';' = false)
    (hd : ∃ h, declaration stop (t :: ts) = .ok (ds, ⟨[], h⟩)) :
    declarations stop (t :: ts) = .ok ds := by
  obtain ⟨h, e⟩ := hd
  rw [declarations, if_neg (by simp [ht]), e]
  simp [declarations, bind, Except.bind, pure, Except.pure]

theorem declared_typeName {tag : Option String} (htag : tag ≠ some "") {p : Position} :
    declared ⟨true, some (.record tag (some members))⟩ (some name) p =
      .ok [.record (tag.getD name) members, .typeName name (tag.getD name)] := by
  cases tag with
  | none => rfl
  | some tag =>
    have : tag.isEmpty = false := by simpa using htag
    simp [declared, Specifiers.typeName, this]

theorem DeclaresMembers.record {spelled : List (String × String × Declarator)}
    (h : DeclaresMembers spelled lexemes)
    (hts : ts.map Token.lexeme = .word "struct" :: .word tag :: .mark '\x7b' ::
      (lexemes ++ [.mark '\x7d', .mark ';'])) :
    ∃ members, members.map Member.spelled = spelled ∧ ofTokens ts = .ok [.record tag members] := by
  obtain ⟨word, us, rfl, hw, hus⟩ := List.map_eq_cons_iff.1 hts
  obtain ⟨t, vs, rfl, ht, hvs⟩ := List.map_eq_cons_iff.1 hus
  obtain ⟨opening, ws, rfl, ho, hws⟩ := List.map_eq_cons_iff.1 hvs
  obtain ⟨body, xs, rfl, rfl, hxs⟩ := List.map_eq_append_iff.1 hws
  obtain ⟨closing, ys, rfl, hc, hys⟩ := List.map_eq_cons_iff.1 hxs
  obtain ⟨semicolon, rfl, hs⟩ := List.map_eq_singleton_iff.1 hys
  have ends : EndsSpecifiers semicolon := by simp [EndsSpecifiers, hs]
  have tagged : [t].map Token.lexeme = (some tag).toList.map .word := by simp [ht]
  obtain ⟨members, hm, read⟩ := h.takeSpecifiers hw tagged ho hc ends
  refine ⟨members, hm, declarations_single (by simp [Token.isMark, hw]) ?_⟩
  exact declaration_unnamed (specifiers_eq_ok read) hs rfl

theorem DeclaresMembers.typeName {spelled : List (String × String × Declarator)}
    {tag : Option String} {direct : Bool} {naming : List Lexeme}
    (h : DeclaresMembers spelled lexemes) (htag : tag ≠ some "") (plain : name ∉ keywords)
    (declares : Declares name direct d naming)
    (hts : ts.map Token.lexeme = .word "typedef" :: .word "struct" ::
      (tag.toList.map .word ++ .mark '\x7b' :: (lexemes ++ .mark '\x7d' ::
        (naming ++ [.mark ';'])))) :
    ∃ members, members.map Member.spelled = spelled ∧
      ofTokens ts = .ok [.record (tag.getD name) members, .typeName name (tag.getD name)] := by
  obtain ⟨keyword, us, rfl, hk, hus⟩ := List.map_eq_cons_iff.1 hts
  obtain ⟨word, vs, rfl, hw, hvs⟩ := List.map_eq_cons_iff.1 hus
  obtain ⟨tags, ws, rfl, ht, hws⟩ := List.map_eq_append_iff.1 hvs
  obtain ⟨opening, xs, rfl, ho, hxs⟩ := List.map_eq_cons_iff.1 hws
  obtain ⟨body, ys, rfl, rfl, hys⟩ := List.map_eq_append_iff.1 hxs
  obtain ⟨closing, zs, rfl, hc, hzs⟩ := List.map_eq_cons_iff.1 hys
  obtain ⟨named, ends, rfl, rfl, hends⟩ := List.map_eq_append_iff.1 hzs
  obtain ⟨semicolon, rfl, hs⟩ := List.map_eq_singleton_iff.1 hends
  obtain ⟨u, us, rfl, begins⟩ := declares.begins
  obtain ⟨members, hm, read⟩ := h.takeSpecifiers hw ht ho hc (begins.endsSpecifiers plain)
  have noSuffix : NoSuffix [semicolon] := noSuffix_of_mark hs (by decide) (by decide)
  refine ⟨members, hm, declarations_single (by simp [Token.isMark, hk]) ?_⟩
  refine declaration_named (specifiers_eq_ok (takeSpecifiers_typedef hk rfl read))
    (begins.isMark (by decide) (by decide)) ?_ hs (declared_typeName htag)
  exact declarators_single (declares.reads (not_mem_qualifiers plain) noSuffix)
    (semicolon.isMark_of_ne hs (by decide)) (semicolon.isMark_of_ne hs (by decide))

end Declaration
end Bindwright
