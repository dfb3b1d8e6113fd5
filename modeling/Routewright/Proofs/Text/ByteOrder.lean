import Mathlib.Data.List.Basic
import Mathlib.Tactic.Lemma
import Mathlib.Tactic.SplitIfs

namespace Routewright.Text

def bytes (s : String) : List UInt8 :=
  s.toUTF8.data.toList

lemma bytes_eq (s : String) : bytes s = s.toList.flatMap String.utf8EncodeChar := by
  have hbytes : s.toUTF8 = s.toList.utf8Encode := String.utf8Encode_toList.symm
  rw [bytes, hbytes, List.utf8Encode, List.toList_data_toByteArray]

lemma exists_digits {n : ℕ} (h : n < 1114112) : ∃ w x y z, w < 8 ∧ x < 64 ∧ y < 64 ∧ z < 64 ∧
    n = 262144 * w + 4096 * x + 64 * y + z ∧ n / 262144 = w ∧ n / 4096 = 64 * w + x ∧
      n / 64 = 4096 * w + 64 * x + y ∧ n % 64 = z := by
  refine ⟨n / 262144, n / 4096 % 64, n / 64 % 64, n % 64, ?_⟩
  omega

lemma encode_append_lt {c d : Char} (h : c < d) (s t : List UInt8) :
    String.utf8EncodeChar c ++ s < String.utf8EncodeChar d ++ t := by
  have hlt : c.val.toNat < d.val.toNat := h
  have hbound : d.val.toNat < 1114112 := by
    rcases d.valid with hd | hd
    · exact Nat.lt_trans hd (by decide)
    · exact hd.2
  obtain ⟨w, x, y, z, hw, hx, hy, hz, hm, hm₄, hm₃, hm₂, hm₁⟩ :=
    exists_digits (Nat.lt_trans hlt hbound)
  obtain ⟨w', x', y', z', hw', hx', hy', hz', hn, hn₄, hn₃, hn₂, hn₁⟩ := exists_digits hbound
  simp only [String.utf8EncodeChar, hm₁, hm₂, hm₃, hm₄, hn₁, hn₂, hn₃, hn₄]
  generalize c.val.toNat = m at *
  generalize d.val.toNat = n at *
  clear hm₁ hm₂ hm₃ hm₄ hn₁ hn₂ hn₃ hn₄
  split_ifs <;>
    simp only [List.cons_append, List.nil_append, List.cons_lt_cons_iff, UInt8.lt_iff_toNat_lt,
      ← UInt8.toNat_inj, UInt8.toNat_ofNat', Nat.reducePow] <;>
    omega

lemma flatMap_encode_lt {s t : List Char} (h : s < t) :
    s.flatMap String.utf8EncodeChar < t.flatMap String.utf8EncodeChar := by
  induction h with
  | @nil c t =>
    have hne : String.utf8EncodeChar c ≠ [] := String.utf8EncodeChar_ne_nil
    obtain ⟨b, l, hb⟩ := List.exists_cons_of_ne_nil hne
    rw [List.flatMap_nil, List.flatMap_cons, hb]
    exact .nil
  | rel hlt =>
    rw [List.flatMap_cons, List.flatMap_cons]
    exact encode_append_lt hlt _ _
  | cons _ ih =>
    rw [List.flatMap_cons, List.flatMap_cons]
    exact List.append_left_lt ih

theorem bytes_lt_iff {s t : String} : bytes s < bytes t ↔ s < t := by
  have hmono : ∀ {s t : String}, s < t → bytes s < bytes t := by
    intro s t h
    rw [bytes_eq, bytes_eq]
    exact flatMap_encode_lt h
  refine ⟨fun h => ?_, hmono⟩
  rcases Std.lt_trichotomy s t with hlt | rfl | hgt
  · exact hlt
  · exact absurd h (List.lt_irrefl _)
  · exact absurd (hmono hgt) (List.lt_asymm h)

end Routewright.Text
