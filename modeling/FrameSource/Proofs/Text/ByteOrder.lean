import Mathlib.Data.String.Basic

/-!
# The order of texts in bytes

Texts are ordered by their characters, characters by their code points. UTF-8 keeps that order: of
two code points the greater one has the greater bytes, at the first byte in which they differ. If one
takes more bytes than the other, that is the lead byte; if not, it is the first of the digits in base
64 that follow the lead (`digit_cons_lt`).

**Texts are in the order of their bytes** (`bytes_lt_bytes`): what is sorted as text is sorted for
everyone who compares bytes.
-/

namespace FrameSource.Text

/-- The bytes of a text in UTF-8. -/
def bytes (s : String) : List UInt8 :=
  s.toUTF8.data.toList

theorem bytes_eq_flatMap (s : String) : bytes s = s.toList.flatMap String.utf8EncodeChar := by
  rw [bytes, String.toUTF8_eq_toByteArray, ← String.utf8Encode_toList, List.utf8Encode,
    List.data_toByteArray]

section Bytes

variable {m n : ℕ} {x y : List UInt8}

/-- Texts whose first bytes differ are ordered by these. The bound keeps the bytes from wrapping
around. -/
theorem byte_cons_lt (h : m < n) (hn : n < 256) : UInt8.ofNat m :: x < UInt8.ofNat n :: y :=
  List.cons_lt_cons_iff.mpr
    (.inl ((UInt8.ofNat_lt_iff_lt (Nat.lt_trans h hn) hn).mpr h))

/-- Bytes that hold a digit in base `r`, the one at the place of `k`, and a mark. If all digits above
are the same, the order is that of the digits, and with the same digit that of what follows. -/
theorem digit_cons_lt {r : ℕ} (k mark : ℕ) (hr : 0 < r) (hmark : mark + r ≤ 256) (hle : m ≤ n)
    (habove : m / k / r = n / k / r) (hbelow : m / k = n / k → x < y) :
    UInt8.ofNat (m / k % r + mark) :: x < UInt8.ofNat (n / k % r + mark) :: y := by
  obtain hlt | heq := Nat.lt_or_eq_of_le (Nat.div_le_div_right (c := k) hle)
  · have hm := Nat.div_add_mod (m / k) r
    have hn := Nat.div_add_mod (n / k) r
    have hdigit := Nat.mod_lt (n / k) hr
    rw [habove] at hm
    exact byte_cons_lt (by omega) (by omega)
  · rw [heq]
    exact List.cons_lt_cons_iff.mpr (.inr ⟨rfl, hbelow heq⟩)

end Bytes

/-- The bytes of characters are in the order of the characters, whatever follows them. -/
theorem utf8EncodeChar_lt {a b : Char} (h : a < b) (x y : List UInt8) :
    String.utf8EncodeChar a ++ x < String.utf8EncodeChar b ++ y := by
  obtain ⟨m, hm⟩ : ∃ m, m = a.val.toNat := ⟨_, rfl⟩
  obtain ⟨n, hn⟩ : ∃ n, n = b.val.toNat := ⟨_, rfl⟩
  have hlt : m < n := by
    rw [hm, hn]
    exact h
  have hvalid : n < 55296 ∨ 57343 < n ∧ n < 1114112 := hn ▸ b.valid
  have hlast (habove : m / 64 = n / 64) :
      UInt8.ofNat (m % 64 + 128) :: x < UInt8.ofNat (n % 64 + 128) :: y :=
    byte_cons_lt (by omega) (by omega)
  have hlastTwo (habove : m / 4096 = n / 4096) :
      UInt8.ofNat (m / 64 % 64 + 128) :: UInt8.ofNat (m % 64 + 128) :: x <
        UInt8.ofNat (n / 64 % 64 + 128) :: UInt8.ofNat (n % 64 + 128) :: y :=
    digit_cons_lt 64 128 (by decide) (by decide) hlt.le (by omega) hlast
  have hlastThree (habove : m / 262144 = n / 262144) :
      UInt8.ofNat (m / 4096 % 64 + 128) :: UInt8.ofNat (m / 64 % 64 + 128) ::
          UInt8.ofNat (m % 64 + 128) :: x <
        UInt8.ofNat (n / 4096 % 64 + 128) :: UInt8.ofNat (n / 64 % 64 + 128) ::
          UInt8.ofNat (n % 64 + 128) :: y :=
    digit_cons_lt 4096 128 (by decide) (by decide) hlt.le (by omega) hlastTwo
  -- By the number of bytes of either character; the lesser one does not take more than the other.
  simp only [String.utf8EncodeChar, ← hm, ← hn]
  split_ifs <;> try omega
  · exact byte_cons_lt hlt (by omega)
  · exact byte_cons_lt (by omega) (by omega)
  · exact byte_cons_lt (by omega) (by omega)
  · exact byte_cons_lt (by omega) (by omega)
  · exact digit_cons_lt 64 192 (by decide) (by decide) hlt.le (by omega) hlast
  · exact byte_cons_lt (by omega) (by omega)
  · exact byte_cons_lt (by omega) (by omega)
  · exact digit_cons_lt 4096 224 (by decide) (by decide) hlt.le (by omega) hlastTwo
  · exact byte_cons_lt (by omega) (by omega)
  · exact digit_cons_lt 262144 240 (by decide) (by decide) hlt.le (by omega) hlastThree

/-- The order of characters carries over to their bytes. The first characters that differ decide,
and their encodings differ within the shorter of the two. -/
theorem flatMap_utf8EncodeChar_lt {cs ds : List Char} (h : cs < ds) :
    cs.flatMap String.utf8EncodeChar < ds.flatMap String.utf8EncodeChar := by
  induction cs generalizing ds with
  | nil =>
    cases ds with
    | nil => exact absurd h (List.not_lt_nil [])
    | cons d ds =>
      have hne : (d :: ds).flatMap String.utf8EncodeChar ≠ [] :=
        List.append_ne_nil_of_left_ne_nil String.utf8EncodeChar_ne_nil _
      obtain ⟨byte, rest, heq⟩ := List.exists_cons_of_ne_nil hne
      rw [heq]
      exact List.nil_lt_cons byte rest
  | cons c cs ih =>
    cases ds with
    | nil => exact absurd h (List.not_lt_nil _)
    | cons d ds =>
      rw [List.flatMap_cons, List.flatMap_cons]
      obtain hhead | ⟨rfl, htail⟩ := List.cons_lt_cons_iff.mp h
      · exact utf8EncodeChar_lt hhead _ _
      · exact List.append_left_lt (ih htail)

/-- **Texts are in the order of their bytes.** -/
theorem bytes_lt_bytes {s t : String} (h : s < t) : bytes s < bytes t := by
  rw [bytes_eq_flatMap, bytes_eq_flatMap]
  exact flatMap_utf8EncodeChar_lt (String.lt_iff.mp h)

end FrameSource.Text
