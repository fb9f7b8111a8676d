import Bindwright.Binding.Member

namespace Bindwright

def Member.occurrences (members : List Member) (name : String) : Nat :=
  (members.map Member.name).count name

namespace NativeType

variable {members : List Member} {bound : Table String MemberBinding}

structure OneToOne (members : List Member) (bound : Table String MemberBinding) : Prop where
  every : ∀ m ∈ members, m.name ∈ bound.keys
  single : ∀ name ∈ bound.keys, Member.occurrences members name = 1

/-- The bindings before this one have one member each, and this one has not. -/
structure FirstOdd (members : List Member) (entries : List (String × MemberBinding))
    (entry : String × MemberBinding) : Prop where
  odd : Member.occurrences members entry.1 ≠ 1
  first : ∃ front back, entries = front ++ entry :: back ∧
    ∀ e ∈ front, Member.occurrences members e.1 = 1

/-- What is to be said of members and bindings: the first member without a binding is reported at
its place in the documentation, else the first binding without exactly one member. -/
inductive Answers (t : NativeType) (members : List Member) (bound : Table String MemberBinding) :
    Except Failure Unit → Prop where
  | matched (same : OneToOne members bound) : Answers t members bound (.ok ())
  | unbound {front back : List Member} {m : Member} (split : members = front ++ m :: back)
      (earlier : ∀ m ∈ front, m.name ∈ bound.keys) (unbound : m.name ∉ bound.keys) :
      Answers t members bound
        (.error (.missingBinding t.name m.name "no accessor found for member"
          ⟨t.location.file, some (t.documentationLine + (m.position.line - 1)),
            some m.position.column⟩))
  | undeclared {entry : String × MemberBinding} (every : ∀ m ∈ members, m.name ∈ bound.keys)
      (first : FirstOdd members bound.entries entry)
      (none : Member.occurrences members entry.1 = 0) :
      Answers t members bound
        (.error (.missingBinding t.name entry.1
          ("accessor \x60" ++ entry.2.accessor ++ "\x60 has no declared member")
          entry.2.location))
  | repeated {entry : String × MemberBinding} (every : ∀ m ∈ members, m.name ∈ bound.keys)
      (first : FirstOdd members bound.entries entry)
      (several : 1 < Member.occurrences members entry.1) (message : String) (location : Location) :
      Answers t members bound (.error (.missingBinding t.name entry.1 message location))

/-- Every member has a binding, and the first binding without exactly one member has several. -/
def RepeatDecides (members : List Member) (bound : Table String MemberBinding) : Prop :=
  (∀ m ∈ members, m.name ∈ bound.keys) ∧
    ∃ entry, FirstOdd members bound.entries entry ∧ 1 < Member.occurrences members entry.1

theorem occurrences_pos_iff {name : String} :
    0 < Member.occurrences members name ↔ ∃ m ∈ members, m.name = name := by
  simp [Member.occurrences, List.count_pos_iff]

theorem matchMembers_cases (t : NativeType) (members : List Member)
    (bound : Table String MemberBinding) :
    (∃ front m back, members = front ++ m :: back ∧ (∀ m ∈ front, m.name ∈ bound.keys) ∧
      m.name ∉ bound.keys ∧ t.matchMembers members bound = .error (t.unboundMember m)) ∨
    (∀ m ∈ members, m.name ∈ bound.keys) ∧
      ((∃ front entry back, bound.entries = front ++ entry :: back ∧
        (∀ e ∈ front, 0 < Member.occurrences members e.1) ∧
        Member.occurrences members entry.1 = 0 ∧
        t.matchMembers members bound = .error (t.undeclaredMember entry.1 entry.2)) ∨
      (∀ e ∈ bound.entries, 0 < Member.occurrences members e.1) ∧
        t.matchMembers members bound = .ok ()) := by
  have known_iff (m : Member) : (!bound.contains m.name) = false ↔ m.name ∈ bound.keys := by
    rw [← Table.contains_eq_true_iff, Bool.not_eq_false']
  unfold matchMembers
  cases unbound : members.find? fun m => !bound.contains m.name with
  | some m =>
    obtain ⟨absent, front, back, split, earlier⟩ := List.find?_eq_some_iff_append.1 unbound
    refine .inl ⟨front, m, back, split, fun m inside => ?_, fun known => ?_, rfl⟩
    · exact (known_iff m).1 (by simpa using earlier m inside)
    · rw [(known_iff m).2 known] at absent
      cases absent
  | none =>
    refine .inr ⟨fun m inside => ?_, ?_⟩
    · exact (known_iff m).1 (Bool.eq_false_iff.2 (List.find?_eq_none.1 unbound m inside))
    dsimp only
    split
    · rename_i name b undeclared
      obtain ⟨absent, front, back, split, earlier⟩ := List.find?_eq_some_iff_append.1 undeclared
      refine .inl ⟨front, (name, b), back, split, fun e inside => ?_, ?_, rfl⟩
      · exact occurrences_pos_iff.2 (by simpa using earlier e inside)
      · have none : ¬∃ m ∈ members, m.name = name := by simpa using absent
        exact Nat.eq_zero_of_not_pos fun declared => none (occurrences_pos_iff.1 declared)
    · rename_i all
      refine .inr ⟨fun e inside => ?_, rfl⟩
      exact occurrences_pos_iff.2 (by simpa using List.find?_eq_none.1 all e inside)

theorem single_or_firstOdd {entries : List (String × MemberBinding)}
    (declared : ∀ e ∈ entries, 0 < Member.occurrences members e.1) :
    (∀ e ∈ entries, Member.occurrences members e.1 = 1) ∨
      ∃ entry, FirstOdd members entries entry ∧ 1 < Member.occurrences members entry.1 := by
  cases odd : entries.find? fun e => Member.occurrences members e.1 ≠ 1 with
  | none => exact .inl fun e inside => by simpa using List.find?_eq_none.1 odd e inside
  | some entry =>
    obtain ⟨differs, front, back, split, earlier⟩ := List.find?_eq_some_iff_append.1 odd
    have several : Member.occurrences members entry.1 ≠ 1 := of_decide_eq_true differs
    have some := declared entry (List.mem_of_find?_eq_some odd)
    refine .inr ⟨entry, ⟨several, front, back, split, fun e inside => ?_⟩, by omega⟩
    simpa using earlier e inside

theorem FirstOdd.append {entries : List (String × MemberBinding)} {entry : String × MemberBinding}
    (first : FirstOdd members entries entry) (more : List (String × MemberBinding)) :
    FirstOdd members (entries ++ more) entry := by
  obtain ⟨odd, front, back, rfl, earlier⟩ := first
  exact ⟨odd, front, back ++ more, by simp, earlier⟩

theorem FirstOdd.unique {entries : List (String × MemberBinding)}
    {entry other : String × MemberBinding} (first : FirstOdd members entries entry)
    (first' : FirstOdd members entries other) : entry = other := by
  have found {e : String × MemberBinding} (first : FirstOdd members entries e) :
      entries.find? (fun e => Member.occurrences members e.1 ≠ 1) = some e := by
    obtain ⟨odd, front, back, split, earlier⟩ := first
    refine List.find?_eq_some_iff_append.2 ⟨decide_eq_true odd, front, back, split, ?_⟩
    intro e inside
    simp [earlier e inside]
  exact Option.some.inj ((found first).symm.trans (found first'))

theorem answers_of_not_repeatDecides (t : NativeType) (plain : ¬RepeatDecides members bound) :
    t.Answers members bound (t.matchMembers members bound) := by
  rcases t.matchMembers_cases members bound with unbound | ⟨every, undeclared | matched⟩
  · obtain ⟨front, m, back, split, earlier, absent, result⟩ := unbound
    rw [result]
    exact .unbound split earlier absent
  · obtain ⟨front, entry, back, split, earlier, none, result⟩ := undeclared
    rw [result]
    rcases single_or_firstOdd earlier with single | ⟨e, first, several⟩
    · exact .undeclared every ⟨by omega, front, back, split, single⟩ none
    · exact absurd ⟨every, e, split ▸ first.append _, several⟩ plain
  · obtain ⟨declared, result⟩ := matched
    rw [result]
    rcases single_or_firstOdd declared with single | odd
    · refine .matched ⟨every, fun name known => ?_⟩
      obtain ⟨e, inside, rfl⟩ := List.mem_map.1 known
      exact single e inside
    · exact absurd ⟨every, odd⟩ plain

theorem not_repeatDecides_of_answers {t : NativeType}
    (answers : t.Answers members bound (t.matchMembers members bound)) :
    ¬RepeatDecides members bound := by
  rintro ⟨every, entry, first, several⟩
  generalize result : t.matchMembers members bound = answer at answers
  cases answers with
  | matched same =>
    obtain ⟨_, front, back, split, _⟩ := first
    have known : entry.1 ∈ bound.keys := List.mem_map_of_mem (by simp [split])
    have single := same.single entry.1 known
    omega
  | unbound split _ absent => exact absent (every _ (by simp [split]))
  | undeclared _ first' none =>
    rw [first.unique first'] at several
    omega
  | repeated _ first' several' message location =>
    -- Matching reports only bindings without any member.
    rcases t.matchMembers_cases members bound with unbound | ⟨_, undeclared | matched⟩
    · obtain ⟨_, m, _, rfl, _, absent, _⟩ := unbound
      exact absent (every m (by simp))
    · obtain ⟨_, _, _, _, _, none, reported⟩ := undeclared
      rw [result] at reported
      injection reported with reported
      injection reported with _ same
      rw [same] at several'
      omega
    · rw [result] at matched
      cases matched.2

/-- Matching accepts what has a binding for every member and some member for every binding. Its
answer is the right one unless a repeated member decides. -/
theorem answers_iff (t : NativeType) (members : List Member) (bound : Table String MemberBinding) :
    (t.matchMembers members bound = .ok () ↔
      (∀ m ∈ members, m.name ∈ bound.keys) ∧ ∀ name ∈ bound.keys, ∃ m ∈ members, m.name = name) ∧
    (t.Answers members bound (t.matchMembers members bound) ↔ ¬RepeatDecides members bound) := by
  refine ⟨?_, not_repeatDecides_of_answers, t.answers_of_not_repeatDecides⟩
  rcases t.matchMembers_cases members bound with unbound | ⟨every, undeclared | matched⟩
  · obtain ⟨front, m, back, rfl, _, absent, result⟩ := unbound
    rw [result]
    exact iff_of_false nofun fun both => absent (both.1 m (by simp))
  · obtain ⟨front, entry, back, split, _, none, result⟩ := undeclared
    rw [result]
    refine iff_of_false nofun fun both => ?_
    have known : entry.1 ∈ bound.keys := List.mem_map_of_mem (by simp [split])
    have some := occurrences_pos_iff.2 (both.2 entry.1 known)
    omega
  · obtain ⟨declared, result⟩ := matched
    refine iff_of_true result ⟨every, fun name known => ?_⟩
    obtain ⟨e, inside, rfl⟩ := List.mem_map.1 known
    exact occurrences_pos_iff.1 (declared e inside)

def widthType : NativeType :=
  { name := "VkSample", path := "bindings::VkSample", documentation := "", documentationLine := 1
    accessors := [⟨"width_get", ["Segment"], some "u32", .unknown⟩], hasLayout := true
    location := .unknown }

/-- A member that is declared twice is matched with its one accessor. -/
theorem repeated_member_matches :
    let m : Member := ⟨"width", "uint32_t", .value, .start⟩
    ∃ bound, widthType.bindings '_' = .ok bound ∧ widthType.matchMembers [m, m] bound = .ok () ∧
      ¬OneToOne [m, m] bound := by
  refine ⟨⟨[("width", ⟨.get, "u32", "width_get", .unknown⟩)]⟩, ?_, ?_, fun same => ?_⟩
  · rfl
  · rfl
  · exact absurd (same.single "width" (by decide)) (by decide)

end NativeType
end Bindwright
