import Bindwright.Proofs.Memory.Slot
import Mathlib.Data.List.TakeWhile

namespace Bindwright.Memory

def utf8 (t : String) : List UInt8 := t.toUTF8.data.toList

def textFault (size : Nat) (t : String) : Option ConversionError :=
  if 0 ∈ utf8 t then some .interiorNul
  else if size ≤ (utf8 t).length then some (.textTooLong (utf8 t).length (size - 1))
  else none

theorem textFault_eq_none_iff {size : Nat} {t : String} :
    textFault size t = none ↔ 0 ∉ utf8 t ∧ (utf8 t).length < size := by
  unfold textFault
  by_cases interior : 0 ∈ utf8 t
  · simp [interior]
  · simp [interior]

theorem fromUTF8?_eq_some_iff {bytes : List UInt8} {t : String} :
    String.fromUTF8? ⟨bytes.toArray⟩ = some t ↔ bytes = utf8 t := by
  unfold String.fromUTF8? utf8
  constructor
  · intro read
    split at read
    · rw [← Option.some.inj read]
      rfl
    · cases read
  · rintro rfl
    exact dif_pos t.isValidUTF8

theorem Segment.readText_eq_ok_iff {s : Segment} {m : Contents} {t : String} :
    s.readText m = .ok t ↔ (m.read s.start s.length).takeWhile (· != 0) = utf8 t := by
  rw [← fromUTF8?_eq_some_iff]
  have bytes : s.bytes m = .ok (m.read s.start s.length) := rfl
  rw [Segment.readText, Access.bind_apply, bytes]
  dsimp only [Except.bind]
  cases String.fromUTF8? ⟨((m.read s.start s.length).takeWhile (· != 0)).toArray⟩ with
  | none => exact iff_of_false (fun read => by cases read) (Option.some_ne_none t).symm
  | some text => exact Access.pure_eq_ok_iff.trans Option.some_inj.symm

theorem not_mem_utf8_of_takeWhile {bytes : List UInt8} {t : String}
    (read : bytes.takeWhile (· != 0) = utf8 t) : 0 ∉ utf8 t := by
  intro interior
  rw [← read] at interior
  exact absurd (List.mem_takeWhile_imp interior) (by decide)

theorem eq_append_of_takeWhile {bytes : List UInt8} {t : String}
    (read : bytes.takeWhile (· != 0) = utf8 t) (ended : 0 ∈ bytes) :
    ∃ rest, bytes = utf8 t ++ 0 :: rest := by
  have split := List.takeWhile_append_dropWhile (p := (· != 0)) (l := bytes)
  rw [read] at split
  cases tail : bytes.dropWhile (· != 0) with
  | nil =>
    rw [tail, List.append_nil] at split
    exact absurd (split ▸ ended) (not_mem_utf8_of_takeWhile read)
  | cons b rest =>
    have zero : b = 0 := by
      have stop := List.head_dropWhile_not (· != (0 : UInt8)) (l := bytes)
        (by rw [tail]; exact nofun)
      simpa [tail] using stop
    rw [tail, zero] at split
    exact ⟨rest, split.symm⟩

theorem Contents.read_take (m : Contents) {start length i : Nat} (le : i ≤ length) :
    m.read start i = (m.read start length).take i := by
  simp only [read, ← List.map_take, List.take_range, Nat.min_eq_left le]

def Contents.withText (m : Contents) (s : Segment) (t : String) : Contents :=
  m.write s.start (utf8 t ++ List.replicate (s.length - (utf8 t).length) 0)

section Terminated

variable {m : Contents} {s : Segment} {t : String} {rest : List UInt8}

theorem Contents.length_lt_of_held (held : m.read s.start s.length = utf8 t ++ 0 :: rest) :
    (utf8 t).length < s.length := by
  have length := congrArg List.length held
  rw [length_read, List.length_append, List.length_cons] at length
  omega

theorem Contents.afterText_iff (held : m.read s.start s.length = utf8 t ++ 0 :: rest)
    (clean : 0 ∉ utf8 t) (x : Nat) :
    m.AfterText s x ↔ s.start + (utf8 t).length < x ∧ x < s.start + s.length := by
  constructor
  · rintro ⟨above, below, zero⟩
    rw [m.read_take (show x - s.start ≤ s.length by omega), held] at zero
    refine ⟨?_, below⟩
    by_contra early
    rw [List.take_append_of_le_length (by omega)] at zero
    exact clean (List.mem_of_mem_take zero)
  · rintro ⟨above, below⟩
    refine ⟨by omega, below, ?_⟩
    rw [m.read_take (show x - s.start ≤ s.length by omega), held]
    obtain ⟨k, equal⟩ := Nat.exists_eq_add_of_lt (show (utf8 t).length < x - s.start by omega)
    rw [equal, Nat.add_assoc, List.take_length_add_append]
    exact List.mem_append_right _ List.mem_cons_self

theorem Contents.getElem?_withText (held : m.read s.start s.length = utf8 t ++ 0 :: rest) {i : Nat}
    (within : i < s.length) :
    (utf8 t ++ List.replicate (s.length - (utf8 t).length) 0)[i]? =
      some (if (utf8 t).length < i then 0 else m.byte (s.start + i)) := by
  have here : (utf8 t ++ 0 :: rest)[i]? = some (m.byte (s.start + i)) := by
    rw [← held, getElem?_read m within]
  rcases Nat.lt_trichotomy i (utf8 t).length with early | rfl | late
  · rw [List.getElem?_append_left early] at here ⊢
    rw [here, if_neg (by omega)]
  · rw [List.getElem?_append_right (Nat.le_refl _), Nat.sub_self] at here ⊢
    rw [List.getElem?_replicate, if_pos (by omega), if_neg (Nat.lt_irrefl _)]
    exact here
  · rw [List.getElem?_append_right (Nat.le_of_lt late), List.getElem?_replicate,
      if_pos (by omega), if_pos late]

theorem Contents.withText_self (held : m.read s.start s.length = utf8 t ++ 0 :: rest)
    (clean : 0 ∉ utf8 t) : m.withText s t = m.trimmed [s] := by
  have length := length_lt_of_held held
  apply ext
  intro x
  rw [withText, byte_write]
  change _ = if ∃ b ∈ [s], m.AfterText b x then 0 else m.byte x
  simp only [List.mem_singleton, exists_eq_left, afterText_iff held clean]
  by_cases inside : s.start ≤ x ∧ x < s.start + s.length
  · obtain ⟨i, rfl⟩ := Nat.exists_eq_add_of_le inside.1
    rw [if_pos inside.1, Nat.add_sub_cancel_left, getElem?_withText held (by omega),
      Option.getD_some]
    exact if_congr (by omega) rfl rfl
  · rw [if_neg (show ¬ (_ ∧ x < _) by omega)]
    split
    · rw [List.getElem?_eq_none (by simp; omega), Option.getD_none]
    · rfl

end Terminated

namespace Slot

def buffer : Slot String := ⟨Segment.readText, fun t s => s.writeText t⟩

theorem buffer_write (t : String) (s : Segment) (arena : Arena) :
    buffer.write t s arena = (outcome (textFault s.length t),
      if textFault s.length t = none then { arena with contents := arena.contents.withText s t }
      else arena) := by
  unfold textFault
  change s.writeText t arena = _
  unfold Segment.writeText
  by_cases interior : 0 ∈ utf8 t
  · have there : 0 ∈ t.toUTF8.data.toList := interior
    simp only [interior, there, ↓reduceIte]
    rfl
  · have there : 0 ∉ t.toUTF8.data.toList := interior
    by_cases long : s.length ≤ (utf8 t).length
    · have there' : t.toUTF8.data.toList.length ≥ s.length := long
      simp only [interior, there, long, there', ↓reduceIte]
      rfl
    · have there' : ¬ t.toUTF8.data.toList.length ≥ s.length := long
      simp only [interior, there, long, there', ↓reduceIte]
      rfl

theorem withText_lawful {m : Contents} {s : Segment} {t : String} (clean : 0 ∉ utf8 t)
    (room : (utf8 t).length < s.length) :
    m.AgreeOn (Set.Ico s.start (s.start + s.length))ᶜ (m.withText s t) ∧
      s.readText (m.withText s t) = .ok t := by
  let bytes := utf8 t ++ List.replicate (s.length - (utf8 t).length) 0
  have whole : bytes.length = s.length := by
    rw [List.length_append, List.length_replicate]
    omega
  have agree := m.agreeOn_write s.start bytes
  have back := m.read_write_self s.start bytes
  rw [whole] at agree back
  refine ⟨agree, ?_⟩
  obtain ⟨k, more⟩ := Nat.exists_eq_add_of_lt room
  have zeros : s.length - (utf8 t).length = k + 1 := by omega
  have nonzero : ∀ b ∈ utf8 t, (b != 0) = true :=
    fun b member => bne_iff_ne.2 fun zero => clean (zero ▸ member)
  rw [Segment.readText_eq_ok_iff, Contents.withText, back]
  simp only [bytes, zeros, List.replicate_succ]
  rw [List.takeWhile_append_of_pos nonzero, List.takeWhile_cons_of_neg (by decide), List.append_nil]

theorem buffer_rewrites {t : String} {s : Segment} {arena : Arena}
    (held : buffer.read s arena.contents = .ok t) :
    Rewritten [s] arena (buffer.write t s arena) := by
  have read := Segment.readText_eq_ok_iff.1 held
  have clean := not_mem_utf8_of_takeWhile read
  rw [buffer_write]
  by_cases ended : arena.contents.Terminated s
  · obtain ⟨rest, split⟩ := eq_append_of_takeWhile read ended
    have fits : textFault s.length t = none :=
      textFault_eq_none_iff.2 ⟨clean, Contents.length_lt_of_held split⟩
    rw [if_pos fits, fits, Contents.withText_self split clean]
    exact .kept fun b member => List.mem_singleton.1 member ▸ ended
  · have all : arena.contents.read s.start s.length = utf8 t := by
      rw [← read]
      refine (List.takeWhile_eq_self_iff.2 fun b member => bne_iff_ne.2 fun zero => ?_).symm
      exact ended (show 0 ∈ arena.contents.read s.start s.length from zero ▸ member)
    have length : (utf8 t).length = s.length := by rw [← all, Contents.length_read]
    have refused : textFault s.length t = some (.textTooLong s.length (s.length - 1)) := by
      simp [textFault, clean, length]
    rw [refused]
    exact .overfull (List.nil_append [s]).symm nofun ended

theorem buffer_fills (size : Nat) : buffer.Fills size (textFault size) [⟨0, size⟩] := by
  refine ⟨fun w member => ?_, ?_⟩
  · rw [List.mem_singleton.1 member, Nat.zero_add]
  rintro s rfl t
  have places : [(⟨0, s.length⟩ : Window)].map s.at = [s] := rfl
  rw [places]
  refine ⟨Nat.le_add_right _ _, fun b member => ?_, fun {m m'} agree held => ?_, fun arena => ?_,
    fun arena held => buffer_rewrites held⟩
  · rw [List.mem_singleton.1 member]
    exact subset_rfl
  · change s.readText m' = _
    rw [Segment.readText_eq_ok_iff, agree.read_congr, ← Segment.readText_eq_ok_iff]
    exact held
  · rw [buffer_write]
    by_cases fits : textFault s.length t = none
    · obtain ⟨clean, room⟩ := textFault_eq_none_iff.1 fits
      obtain ⟨agree, read⟩ := withText_lawful (m := arena.contents) clean room
      rw [if_pos fits]
      exact ⟨_, rfl, agree, fun _ => read⟩
    · rw [if_neg fits]
      exact ⟨arena.contents, rfl, .refl _ _, fun none_ => absurd none_ fits⟩

theorem text_lawful (offset length : Nat) :
    (text offset length).Lawful offset length (textFault length) [⟨offset, length⟩] :=
  within_lawful (buffer_fills length) offset

end Slot
end Bindwright.Memory
