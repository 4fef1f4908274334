import Mathlib.Data.List.Lex
import Mathlib.Data.String.Basic

/-!
# The order of encoded texts

Texts are compared by code points. Encoded in UTF-8 they compare the same way byte by byte: where
two code points differ, their encodings part at some byte, and the smaller code point has the
smaller byte there. Neither encoding is an initial part of the other.
-/

namespace DeclTree.Text

/-- The bytes of a text in UTF-8, as numbers. -/
def utf8Bytes (s : String) : List Nat := s.toUTF8.data.toList.map UInt8.toNat

/-- The bytes of one character. -/
def charBytes (c : Char) : List Nat := (String.utf8EncodeChar c).map UInt8.toNat

theorem utf8Bytes_eq (s : String) : utf8Bytes s = s.toList.flatMap charBytes := by
  have hdata : s.toUTF8.data.toList = s.toList.flatMap String.utf8EncodeChar := by
    conv => lhs; rw [← String.ofList_toList (s := s)]
    rw [String.toUTF8_eq_toByteArray, String.toByteArray_ofList, List.utf8Encode]
    simp
  rw [utf8Bytes, hdata, List.map_flatMap]
  rfl

/-- A character takes one byte to four. The first byte tells how many, and the digits of the code
point to the base 64 are divided among them. -/
theorem charBytes_cases (c : Char) :
    (c.toNat ≤ 127 ∧ charBytes c = [c.toNat]) ∨
      (127 < c.toNat ∧ c.toNat ≤ 2047 ∧
        charBytes c = [192 + c.toNat / 64, 128 + c.toNat % 64]) ∨
      (2047 < c.toNat ∧ c.toNat ≤ 65535 ∧ charBytes c =
        [224 + c.toNat / 4096, 128 + c.toNat / 64 % 64, 128 + c.toNat % 64]) ∨
      (65535 < c.toNat ∧ charBytes c =
        [240 + c.toNat / 262144, 128 + c.toNat / 4096 % 64, 128 + c.toNat / 64 % 64,
          128 + c.toNat % 64]) := by
  have hbyte : ∀ m n, n = m → n < 256 → (UInt8.ofNat m).toNat = n := by
    rintro m n rfl hn
    rw [UInt8.toNat_ofNat', Nat.mod_eq_of_lt hn]
  have hmax : c.toNat < 1114112 := by
    have hvalid : c.toNat < 0xD800 ∨ 0xDFFF < c.toNat ∧ c.toNat < 0x110000 := c.valid
    omega
  have hval : c.val.toNat = c.toNat := rfl
  rw [charBytes, String.utf8EncodeChar.eq_1, hval]
  by_cases hone : c.toNat ≤ 127
  · left
    rw [if_pos hone, List.map_cons, hbyte _ c.toNat rfl (by omega)]
    exact ⟨hone, rfl⟩
  · right
    rw [if_neg hone]
    by_cases htwo : c.toNat ≤ 2047
    · left
      rw [if_pos htwo, List.map_cons, List.map_cons, hbyte _ (192 + c.toNat / 64) (by omega)
        (by omega), hbyte _ (128 + c.toNat % 64) (by omega) (by omega)]
      exact ⟨by omega, htwo, rfl⟩
    · right
      rw [if_neg htwo]
      by_cases hthree : c.toNat ≤ 65535
      · left
        rw [if_pos hthree, List.map_cons, List.map_cons, List.map_cons,
          hbyte _ (224 + c.toNat / 4096) (by omega) (by omega),
          hbyte _ (128 + c.toNat / 64 % 64) (by omega) (by omega),
          hbyte _ (128 + c.toNat % 64) (by omega) (by omega)]
        exact ⟨by omega, hthree, rfl⟩
      · right
        rw [if_neg hthree, List.map_cons, List.map_cons, List.map_cons, List.map_cons,
          hbyte _ (240 + c.toNat / 262144) (by omega) (by omega),
          hbyte _ (128 + c.toNat / 4096 % 64) (by omega) (by omega),
          hbyte _ (128 + c.toNat / 64 % 64) (by omega) (by omega),
          hbyte _ (128 + c.toNat % 64) (by omega) (by omega)]
        exact ⟨by omega, rfl⟩

/-- Two lists of bytes differ somewhere, and the first has the smaller byte where they first do. -/
def PartsBelow : List Nat → List Nat → Prop
  | x :: xs, y :: ys => x < y ∨ x = y ∧ PartsBelow xs ys
  | _, _ => False

theorem PartsBelow.append_lt {xs ys : List Nat} (h : PartsBelow xs ys) (more others : List Nat) :
    xs ++ more < ys ++ others := by
  induction xs generalizing ys with
  | nil => exact h.elim
  | cons x xs ih =>
    cases ys with
    | nil => exact h.elim
    | cons y ys =>
      rw [List.cons_append, List.cons_append, List.cons_lt_cons_iff]
      rcases h with h | ⟨heq, h⟩
      · exact .inl h
      · exact .inr ⟨heq, ih h⟩

/-- A longer encoding has the greater first byte, and in two of one length the digits compare. -/
theorem partsBelow_charBytes {c d : Char} (h : c < d) : PartsBelow (charBytes c) (charBytes d) := by
  have hlt : c.toNat < d.toNat := h
  rcases charBytes_cases c with ⟨_, hc⟩ | ⟨_, _, hc⟩ | ⟨_, _, hc⟩ | ⟨_, hc⟩ <;>
    rcases charBytes_cases d with ⟨_, hd⟩ | ⟨_, _, hd⟩ | ⟨_, _, hd⟩ | ⟨_, hd⟩ <;>
      rw [hc, hd] <;> simp only [PartsBelow] <;> omega

theorem charBytes_ne_nil (c : Char) : charBytes c ≠ [] := by
  rcases charBytes_cases c with ⟨_, hc⟩ | ⟨_, _, hc⟩ | ⟨_, _, hc⟩ | ⟨_, hc⟩ <;> simp [hc]

theorem flatMap_charBytes_lt {cs ds : List Char} (h : cs < ds) :
    cs.flatMap charBytes < ds.flatMap charBytes := by
  induction h with
  | @nil d ds =>
    obtain ⟨b, bs, hbytes⟩ := List.exists_cons_of_ne_nil (charBytes_ne_nil d)
    rw [List.flatMap_nil, List.flatMap_cons, hbytes, List.cons_append]
    exact List.nil_lt_cons b _
  | @cons c cs ds _ ih =>
    rw [List.flatMap_cons, List.flatMap_cons]
    exact List.append_left_lt ih
  | @rel c cs d ds hlt =>
    rw [List.flatMap_cons, List.flatMap_cons]
    exact (partsBelow_charBytes hlt).append_lt _ _

/-- Encoding keeps the order of texts. -/
theorem strictMono_utf8Bytes : StrictMono utf8Bytes := by
  intro s t h
  rw [utf8Bytes_eq, utf8Bytes_eq]
  exact flatMap_charBytes_lt (String.lt_iff_toList_lt.mp h)

end DeclTree.Text
