import Statecraft.Text.Encoded

/-!
# Printed texts

A text of nothing but printable ASCII and line feeds has one byte for each character. So it is what
its bytes are decoded to (`decode_encode`), and its line ends are unified already
(`unifyLines_eq`).
-/

namespace ByteArray

theorem toList_loop (bs : ByteArray) (i : Nat) (r : List UInt8) :
    toList.loop bs i r = r.reverse ++ bs.data.toList.drop i := by
  fun_induction toList.loop bs i r with
  | case1 i r inside ih =>
    have bound : i < bs.data.toList.length := by simpa using inside
    rw [ih, List.drop_eq_getElem_cons bound]
    simp [ByteArray.get!, getElem!_pos bs.data i (by simpa using inside)]
  | case2 i r outside =>
    have past : bs.data.toList.length ≤ i := by simpa using outside
    rw [List.drop_eq_nil_of_le past, List.append_nil]

theorem toList_eq (bs : ByteArray) : bs.toList = bs.data.toList := by
  rw [toList, toList_loop, List.reverse_nil, List.nil_append, List.drop_zero]

end ByteArray

namespace Statecraft.Text

/-- A character of printed texts. -/
def IsPrinted (c : Char) : Prop := c = '\n' ∨ 32 ≤ c.toNat ∧ c.toNat ≤ 126

instance : DecidablePred IsPrinted :=
  fun c => inferInstanceAs (Decidable (c = '\n' ∨ 32 ≤ c.toNat ∧ c.toNat ≤ 126))

def AllPrinted (s : List Char) : Prop := ∀ c ∈ s, IsPrinted c

instance : DecidablePred AllPrinted := fun s => List.decidableBAll IsPrinted s

variable {s : List Char}

@[simp] theorem allPrinted_nil : AllPrinted [] := List.forall_mem_nil _

@[simp] theorem allPrinted_cons {c : Char} :
    AllPrinted (c :: s) ↔ IsPrinted c ∧ AllPrinted s :=
  List.forall_mem_cons

@[simp] theorem allPrinted_append {t : List Char} :
    AllPrinted (s ++ t) ↔ AllPrinted s ∧ AllPrinted t :=
  List.forall_mem_append

theorem IsPrinted.le {c : Char} (h : IsPrinted c) : c.toNat ≤ 127 := by
  rcases h with rfl | ⟨_, le⟩
  · decide
  · omega

theorem encode_eq (s : String) : encode s = s.toList.flatMap String.utf8EncodeChar := by
  rw [encode, String.toUTF8, ← String.utf8Encode_toList, ByteArray.toList_eq]
  exact List.toList_data_toByteArray

/-- A printed character is its own byte. -/
theorem utf8EncodeChar_of_printed {c : Char} (h : IsPrinted c) :
    String.utf8EncodeChar c = [UInt8.ofNat c.toNat] :=
  if_pos h.le

theorem decodeFrom_printed (position : Nat) (h : AllPrinted s) :
    decodeFrom position (s.map Char.toNat) = .ok s := by
  induction s generalizing position with
  | nil => rw [List.map_nil, decodeFrom]
  | cons c r ih =>
    obtain ⟨first, others⟩ := List.forall_mem_cons.mp h
    have alone : sequence? c.toNat = some (0, 0x80, 0xBF) := if_pos first.le
    rw [List.map_cons, decodeFrom, alone]
    have rest := ih (position + 1) others
    simp only [continued, beq_self_eq_true, if_true, List.drop_zero, List.take_zero, Nat.add_zero,
      rest]
    rw [codePoint]
    simp [Except.map]

/-- **A printed text is what its bytes are decoded to.** -/
theorem decode_encode {s : String} (h : AllPrinted s.toList) : decode (encode s) = .ok s := by
  have bytes : (encode s).map UInt8.toNat = s.toList.map Char.toNat := by
    rw [encode_eq]
    generalize s.toList = cs at h
    induction cs with
    | nil => rfl
    | cons c r ih =>
      obtain ⟨first, others⟩ := List.forall_mem_cons.mp h
      rw [List.flatMap_cons, utf8EncodeChar_of_printed first, List.map_append, ih others]
      have le := first.le
      simp [UInt8.toNat_ofNat', Nat.mod_eq_of_lt (show c.toNat < 256 by omega)]
  rw [decode, bytes, decodeFrom_printed 0 h]
  simp [Except.map]

theorem unifyLines_eq (h : AllPrinted s) : unifyLines s = s := by
  induction s with
  | nil => rfl
  | cons c r ih =>
    obtain ⟨first, others⟩ := List.forall_mem_cons.mp h
    have feed : c ≠ '\r' := by
      rintro rfl
      exact absurd first (by decide)
    rw [unifyLines, ih others]
    · rintro t rfl
      exact absurd rfl feed
    · exact feed

end Statecraft.Text
