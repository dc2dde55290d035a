import Mathlib.Data.List.Lex
import Mathlib.Data.String.Basic
import Mathlib.Order.Monotone.Basic
import Mathlib.Tactic.SplitIfs

/-!
# The order of bytes

Names are ordered by their bytes. The encoding of characters keeps their order: the first byte grows
with the number of bytes, and the bytes of characters with as many bytes are digits of one number.
So the order of bytes is the order of strings by their characters.

## Main definitions

* `Letters.bytes` — the bytes of a string, as numbers

## Main results

* `charBytes_append_lt` — the order of two characters is that of their bytes, whatever follows
* `bytes_le_bytes`, `bytes_lt_bytes` — so is the order of two strings
-/

namespace DocMarkdown.Letters

/-- The bytes of a character, as numbers. -/
def charBytes (c : Char) : List Nat := (String.utf8EncodeChar c).map UInt8.toNat

/-- The bytes of a string, as numbers. -/
def bytes (s : String) : List Nat := s.toUTF8.data.toList.map UInt8.toNat

theorem bytes_eq_flatMap (s : String) : bytes s = s.toList.flatMap charBytes := by
  have encoded : s.toUTF8.data.toList = s.toList.flatMap String.utf8EncodeChar := by
    rw [String.toUTF8_eq_toByteArray, ← String.utf8Encode_toList, List.utf8Encode,
      List.data_toByteArray]
  rw [bytes, encoded, List.map_flatMap]
  rfl

theorem charBytes_ne_nil (c : Char) : charBytes c ≠ [] := by
  rw [charBytes, String.utf8EncodeChar]
  split_ifs <;> exact List.cons_ne_nil _ _

theorem toNat_le_greatest (c : Char) : c.toNat ≤ 0x10FFFF := by
  have valid := c.valid
  have same : c.toNat = c.val.toNat := rfl
  simp only [UInt32.isValidChar, Nat.isValidChar] at valid
  omega

/-- The order of two characters is that of their bytes, whatever follows. -/
theorem charBytes_append_lt {c d : Char} (less : c < d) (rest rest' : List Nat) :
    charBytes c ++ rest < charBytes d ++ rest' := by
  have greatest := toNat_le_greatest d
  have codes : c.toNat < d.toNat := less
  -- What stands before each digit to base 64.
  have digits : ∀ place, c.toNat / place ≤ d.toNat / place := fun _ =>
    Nat.div_le_div_right codes.le
  have first := digits 262144
  have second := digits 4096
  have third := digits 64
  simp only [charBytes, String.utf8EncodeChar, ← Char.toNat.eq_1]
  -- One case for each two numbers of bytes; where they differ, the first bytes decide.
  split_ifs <;>
    simp (disch := omega) only [List.map_cons, List.map_nil, List.cons_append, List.nil_append,
      List.cons_lt_cons_iff, UInt8.toNat_ofNat', Nat.mod_eq_of_lt] <;>
    omega

theorem flatMap_charBytes_lt {s t : List Char} (less : s < t) :
    s.flatMap charBytes < t.flatMap charBytes := by
  induction s generalizing t with
  | nil =>
    cases t with
    | nil => exact absurd less (List.not_lt_nil _)
    | cons d t =>
      obtain ⟨b, rest, same⟩ := List.exists_cons_of_ne_nil (charBytes_ne_nil d)
      rw [List.flatMap_nil, List.flatMap_cons, same]
      exact List.nil_lt_cons _ _
  | cons c s ih =>
    cases t with
    | nil => exact absurd less (List.not_lt_nil _)
    | cons d t =>
      rw [List.flatMap_cons, List.flatMap_cons]
      rcases List.cons_lt_cons_iff.mp less with first | ⟨rfl, others⟩
      · exact charBytes_append_lt first _ _
      · exact List.append_left_lt (ih others)

theorem strictMono_bytes : StrictMono bytes := by
  intro s t less
  rw [bytes_eq_flatMap, bytes_eq_flatMap]
  exact flatMap_charBytes_lt (String.lt_iff_toList_lt.mp less)

/-- Strings are ordered by their bytes. -/
theorem bytes_le_bytes {s t : String} : bytes s ≤ bytes t ↔ s ≤ t := strictMono_bytes.le_iff_le

theorem bytes_lt_bytes {s t : String} : bytes s < bytes t ↔ s < t := strictMono_bytes.lt_iff_lt

end DocMarkdown.Letters
