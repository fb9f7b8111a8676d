import Bindwright.Proofs.Memory.Text

namespace Bindwright.Memory

theorem utf8_eq_flatMap (t : String) : utf8 t = t.toList.flatMap String.utf8EncodeChar := by
  rw [utf8, String.toUTF8_eq_toByteArray, ← String.ofList_toList (s := t),
    String.toByteArray_ofList, List.utf8Encode, List.data_toByteArray, String.ofList_toList]

theorem zero_mem_utf8EncodeChar_iff {c : Char} :
    0 ∈ String.utf8EncodeChar c ↔ c = '\x00' := by
  have code : c = '\x00' ↔ c.val.toNat = 0 := by
    rw [Char.ext_iff, ← UInt32.toNat_inj]
    rfl
  have zero {n : Nat} : 0 = UInt8.ofNat n ↔ n % 256 = 0 := by
    rw [eq_comm, ← UInt8.toNat_inj, UInt8.toNat_ofNat']
    rfl
  rw [code]
  unfold String.utf8EncodeChar
  dsimp only
  split_ifs <;> simp only [List.mem_cons, List.not_mem_nil, or_false, zero] <;> omega

theorem zero_mem_utf8_iff {t : String} : 0 ∈ utf8 t ↔ '\x00' ∈ t.toList := by
  simp only [utf8_eq_flatMap, List.mem_flatMap, zero_mem_utf8EncodeChar_iff, exists_eq_right]

namespace Segment

variable {s : Segment} {m : Contents} {t : String} {arena : Arena}

theorem readText_eq_invalid
    (foreign : ∀ t, (m.read s.start s.length).takeWhile (· != 0) ≠ utf8 t) :
    s.readText m = .error (.conversion .invalidText) := by
  have none_ : String.fromUTF8? ⟨((m.read s.start s.length).takeWhile (· != 0)).toArray⟩ = none := by
    rw [Option.eq_none_iff_forall_not_mem]
    exact fun t found => foreign t (fromUTF8?_eq_some_iff.1 found)
  have bytes : s.bytes m = .ok (m.read s.start s.length) := rfl
  rw [readText, Access.bind_apply, bytes]
  dsimp only [Except.bind]
  rw [none_]
  rfl

theorem writeText_apply (s : Segment) (t : String) (arena : Arena) :
    s.writeText t arena = (outcome (textFault s.length t),
      if textFault s.length t = none then { arena with contents := arena.contents.withText s t }
      else arena) :=
  Slot.buffer_write t s arena

theorem writeText_of_fits (clean : 0 ∉ utf8 t) (room : (utf8 t).length < s.length) :
    s.writeText t arena = (.ok (), { arena with contents := arena.contents.withText s t }) := by
  have fits : textFault s.length t = none := textFault_eq_none_iff.2 ⟨clean, room⟩
  rw [writeText_apply, if_pos fits, fits]
  rfl

theorem writeText_of_fault {e : ConversionError} (fault : textFault s.length t = some e) :
    s.writeText t arena = (.error (.conversion e), arena) := by
  rw [writeText_apply, fault]
  rfl

theorem read_withText (room : (utf8 t).length < s.length) :
    (m.withText s t).read s.start s.length =
      utf8 t ++ List.replicate (s.length - (utf8 t).length) 0 := by
  have back := m.read_write_self s.start
    (utf8 t ++ List.replicate (s.length - (utf8 t).length) 0)
  rwa [List.length_append, List.length_replicate, Nat.add_sub_cancel' room.le] at back

theorem agreeOn_withText {rest : List UInt8}
    (held : m.read s.start s.length = utf8 t ++ 0 :: rest) :
    m.AgreeOn (Set.Icc s.start (s.start + (utf8 t).length)) (m.withText s t) := by
  have room := Contents.length_lt_of_held held
  intro x inside
  obtain ⟨above, below⟩ := inside
  obtain ⟨i, rfl⟩ := Nat.exists_eq_add_of_le above
  rw [Contents.withText, Contents.byte_write, if_pos above, Nat.add_sub_cancel_left,
    Contents.getElem?_withText held (by omega), Option.getD_some, if_neg (by omega)]

theorem byte_of_held {rest : List UInt8}
    (held : m.read s.start s.length = utf8 t ++ 0 :: rest) :
    m.byte (s.start + (utf8 t).length) = 0 := by
  have here : (m.read s.start s.length)[(utf8 t).length]? =
      some (m.byte (s.start + (utf8 t).length)) :=
    m.getElem?_read (Contents.length_lt_of_held held)
  rw [held, List.getElem?_append_right (Nat.le_refl _), Nat.sub_self] at here
  exact (Option.some.inj here).symm

/-- A buffer takes a text if it has no zero byte and leaves room for one, and gives it back. Every
buffer with valid text before its first zero byte is read, and keeps it when it is written again. -/
theorem text_buffers_round_trip (s : Segment) :
    (∀ t, utf8 t = t.toList.flatMap String.utf8EncodeChar ∧
      (0 ∈ utf8 t ↔ '\x00' ∈ t.toList)) ∧
    (∀ t arena, 0 ∉ utf8 t → (utf8 t).length < s.length →
      ∃ m, s.writeText t arena = (.ok (), { arena with contents := m }) ∧
        m.read s.start s.length = utf8 t ++ List.replicate (s.length - (utf8 t).length) 0 ∧
        s.readText m = .ok t ∧ arena.contents.AgreeOn s.spanᶜ m) ∧
    (∀ t arena, 0 ∈ utf8 t →
      s.writeText t arena = (.error (.conversion .interiorNul), arena)) ∧
    (∀ t arena, 0 ∉ utf8 t → s.length ≤ (utf8 t).length →
      s.writeText t arena =
        (.error (.conversion (.textTooLong (utf8 t).length (s.length - 1))), arena)) ∧
    (∀ m t, s.readText m = .ok t ↔ (m.read s.start s.length).takeWhile (· != 0) = utf8 t) ∧
    (∀ m, (∀ t, (m.read s.start s.length).takeWhile (· != 0) ≠ utf8 t) →
      s.readText m = .error (.conversion .invalidText)) ∧
    ∀ t arena, 0 ∈ arena.contents.read s.start s.length → s.readText arena.contents = .ok t →
      ∃ m, s.writeText t arena = (.ok (), { arena with contents := m }) ∧
        arena.contents.byte (s.start + (utf8 t).length) = 0 ∧
        arena.contents.AgreeOn (Set.Icc s.start (s.start + (utf8 t).length)) m := by
  refine ⟨fun t => ⟨utf8_eq_flatMap t, zero_mem_utf8_iff⟩, fun t arena clean room => ?_,
    fun t arena interior => ?_, fun t arena clean long => ?_, fun m t => readText_eq_ok_iff,
    fun m foreign => readText_eq_invalid foreign, fun t arena ended read => ?_⟩
  · obtain ⟨agree, back⟩ := Slot.withText_lawful (m := arena.contents) clean room
    exact ⟨_, writeText_of_fits clean room, read_withText room, back, agree⟩
  · exact writeText_of_fault (if_pos interior)
  · exact writeText_of_fault ((if_neg clean).trans (if_pos long))
  · rw [readText_eq_ok_iff] at read
    have clean := not_mem_utf8_of_takeWhile read
    obtain ⟨rest, held⟩ := eq_append_of_takeWhile read ended
    -- There is a zero byte behind the text, so the text leaves room for one.
    have room := Contents.length_lt_of_held held
    exact ⟨_, writeText_of_fits clean room, byte_of_held held, agreeOn_withText held⟩

theorem text_buffers_round_trip_accented :
    let s : Segment := ⟨4096, 3⟩
    (∃ m, s.writeText "é" .empty = (.ok (), { Arena.empty with contents := m }) ∧
      m.read 4096 3 = [195, 169, 0] ∧ s.readText m = .ok "é") ∧
    s.writeText "éé" .empty = (.error (.conversion (.textTooLong 4 2)), .empty) := by
  intro s
  obtain ⟨-, fitting, -, long, -⟩ := text_buffers_round_trip s
  have letter : utf8 "é" = [195, 169] := by decide
  have letters : utf8 "éé" = [195, 169, 195, 169] := by decide
  obtain ⟨m, written, held, back, -⟩ :=
    fitting "é" .empty (by rw [letter]; decide) (by rw [letter]; decide)
  rw [letter] at held
  have refused := long "éé" .empty (by rw [letters]; decide) (by rw [letters]; decide)
  rw [letters] at refused
  exact ⟨⟨m, written, held, back⟩, refused⟩

end Segment
end Bindwright.Memory
