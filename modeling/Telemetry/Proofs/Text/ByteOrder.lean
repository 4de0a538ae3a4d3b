import Mathlib.Tactic.ByContra
import Mathlib.Tactic.SplitIfs
import Telemetry.NameMap
import Telemetry.Text.Utf8

/-!
Texts are in the order of their bytes: comparing characters by their code points is comparing the
bytes by which UTF-8 stands for them.
-/

namespace Telemetry.Text.Utf8

theorem toList_loop (bytes : ByteArray) (place : Nat) (read : List UInt8) :
    ByteArray.toList.loop bytes place read = read.reverse ++ bytes.data.toList.drop place := by
  fun_induction ByteArray.toList.loop bytes place read with
  | case1 place read within ih =>
      have inside : place < bytes.data.toList.length := within
      have next : bytes.get! place = bytes.data.toList[place] := getElem!_pos bytes.data place within
      rw [ih, next, List.drop_eq_getElem_cons inside]
      simp
  | case2 place read beyond =>
      rw [List.drop_eq_nil_of_le (Nat.le_of_not_lt beyond), List.append_nil]

theorem encode_eq (text : List Char) : encode text = text.flatMap String.utf8EncodeChar := by
  have bytes : (String.ofList text).toUTF8 = (text.flatMap String.utf8EncodeChar).toByteArray := by
    have encoded := String.utf8Encode_toList (b := String.ofList text)
    rw [String.toList_ofList] at encoded
    exact encoded.symm
  rw [encode, bytes, ByteArray.toList, toList_loop]
  simp

/-- Characters are in the order of their bytes, whatever follows them. -/
theorem encodeChar_lt {c d : Char} (below : c < d) (rest more : List UInt8) :
    String.utf8EncodeChar c ++ rest < String.utf8EncodeChar d ++ more := by
  have less : c.val.toNat < d.val.toNat := below
  have bound : d.val.toNat < 0x110000 := by
    rcases d.valid with low | ⟨_, high⟩
    · exact Nat.lt_trans low (by decide)
    · exact high
  simp only [String.utf8EncodeChar]
  generalize c.val.toNat = m at *
  generalize d.val.toNat = n at *
  -- Where the first bytes do not decide, the code points differ in a later group of six bits.
  have groups : m / 262144 < n / 262144 ∨ m / 262144 = n / 262144 ∧
      (m / 4096 < n / 4096 ∨ m / 4096 = n / 4096 ∧ m / 64 ≤ n / 64) := by omega
  rcases groups with first | ⟨first, second | ⟨second, third⟩⟩ <;> split_ifs <;>
    simp only [List.cons_append, List.nil_append, List.cons_lt_cons_iff,
      UInt8.lt_iff_toNat_lt, ← UInt8.toNat_inj, UInt8.toNat_ofNat'] <;> omega

theorem encode_lt_of_lt {first second : List Char} (below : first < second) :
    encode first < encode second := by
  rw [encode_eq, encode_eq]
  induction below with
  | nil =>
      rename_i c rest
      obtain ⟨byte, more, bytes⟩ :=
        List.exists_cons_of_ne_nil (l := String.utf8EncodeChar c) String.utf8EncodeChar_ne_nil
      rw [List.flatMap_cons, bytes]
      exact .nil
  | rel below => exact encodeChar_lt below _ _
  | cons _ ih => exact List.append_left_lt ih

theorem lt_iff_encode_lt {first second : String} :
    first < second ↔ encode first.toList < encode second.toList := by
  refine ⟨encode_lt_of_lt, fun below => ?_⟩
  by_contra notBelow
  by_cases above : second < first
  · exact List.lt_asymm below (encode_lt_of_lt above)
  · rw [string_lt_trichotomy notBelow above] at below
    exact List.lt_irrefl _ below

end Telemetry.Text.Utf8
