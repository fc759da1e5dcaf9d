/-
RuleLint/Proofs/Encoding.lean

Reading back what has been written in UTF-8.

A character is one to four bytes, and the first of them says how many there are.  The
reader keeps the bits that it has seen and the range that the next byte has to be in;
the range is narrower behind four of the first bytes, where a shorter form or no
character at all would come out.  `decodeFrom_char` follows the reader over the bytes of
one character, by the number of them, and `decodeUtf8_encodeUtf8` over those of a text.
-/
import RuleLint.Text.Utf8

namespace RuleLint.Text

variable {b : UInt8} {i n bits owed low high : Nat} {rest : List UInt8}
    {p : Pending} {c : Char}

/-! ### The bytes of a text -/

/-- What has been read of an array, in reverse, is what the loop goes on with. -/
theorem toList_loop (bytes : ByteArray) (i : Nat) :
    ByteArray.toList.loop bytes i (bytes.data.toList.take i).reverse =
      bytes.data.toList := by
  -- the loop pushes to the front, so what it has read is there in reverse
  rw [ByteArray.toList.loop]
  split
  · rename_i hi
    have hget : bytes.data.toList[i]? = some (bytes.get! i) := by
      simp [ByteArray.get!, hi]
    have hnext : bytes.get! i :: (bytes.data.toList.take i).reverse =
        (bytes.data.toList.take (i + 1)).reverse := by
      rw [List.take_add_one, hget]
      simp
    rw [hnext]
    exact toList_loop bytes (i + 1)
  · rename_i hi
    rw [List.reverse_reverse, List.take_of_length_le (by simpa using hi)]
termination_by bytes.size - i

theorem encodeUtf8_eq (s : String) :
    encodeUtf8 s = s.toList.flatMap String.utf8EncodeChar := by
  have hloop : encodeUtf8 s = s.toByteArray.data.toList := toList_loop s.toByteArray 0
  rw [hloop, ← String.utf8Encode_toList]
  exact List.toList_data_toByteArray

/-! ### One byte -/

theorem decodeFrom_lead (h : leadOf? b = some (bits, owed + 1, low, high)) :
    decodeFrom none i (b :: rest) = decodeFrom (some ⟨bits, owed + 1, low, high, b, i⟩)
      (i + 1) rest := by
  rw [decodeFrom, h]
  rfl

theorem decodeFrom_alone (h : leadOf? b = some (bits, 0, low, high)) :
    decodeFrom none i (b :: rest) =
      (decodeFrom none (i + 1) rest).map (Char.ofNat bits :: ·) := by
  rw [decodeFrom, h]
  rfl

theorem toNat_ofNat (h : n < 256) : (UInt8.ofNat n).toNat = n := by
  rw [UInt8.toNat_ofNat']
  exact Nat.mod_eq_of_lt h

/-- A byte with six bits more, when others are to come. -/
theorem decodeFrom_next (hrange : p.low ≤ n % 64 + 128 ∧ n % 64 + 128 ≤ p.high)
    (howed : 1 < p.owed) :
    decodeFrom (some p) i (UInt8.ofNat (n % 64 + 128) :: rest) =
      decodeFrom (some
        { p with
          bits := p.bits * 64 + n % 64
          owed := p.owed - 1
          low := 0x80
          high := 0xbf }) (i + 1) rest := by
  rw [decodeFrom, toNat_ofNat (by omega), if_pos hrange]
  dsimp only
  rw [if_neg (by omega), Nat.add_sub_cancel]

/-- A byte with the last six bits. -/
theorem decodeFrom_last (hrange : p.low ≤ n % 64 + 128 ∧ n % 64 + 128 ≤ p.high)
    (howed : p.owed = 1) :
    decodeFrom (some p) i (UInt8.ofNat (n % 64 + 128) :: rest) =
      (decodeFrom none (i + 1) rest).map (Char.ofNat (p.bits * 64 + n % 64) :: ·) := by
  rw [decodeFrom, toNat_ofNat (by omega), if_pos hrange]
  dsimp only
  rw [if_pos (by omega), Nat.add_sub_cancel]

/-! ### First bytes -/

theorem leadOf?_one (h : n ≤ 0x7f) :
    leadOf? (UInt8.ofNat n) = some (n, 0, 0x80, 0xbf) := by
  rw [leadOf?, toNat_ofNat (by omega)]
  exact if_pos (by omega)

theorem leadOf?_two (hlow : 0x80 ≤ n) (hhigh : n ≤ 0x7ff) :
    leadOf? (UInt8.ofNat (n / 64 % 32 + 192)) = some (n / 64, 1, 0x80, 0xbf) := by
  rw [leadOf?, toNat_ofNat (by omega)]
  rw [if_neg (by omega), if_pos (by omega)]
  have hbits : n / 64 % 32 + 192 - 192 = n / 64 := by omega
  rw [hbits]

/-- The byte behind the first of three is in its range, since surrogates are no
characters. -/
theorem leadOf?_three (hlow : 0x800 ≤ n) (hhigh : n ≤ 0xffff)
    (hvalid : n < 0xd800 ∨ 0xdfff < n) :
    ∃ low high, leadOf? (UInt8.ofNat (n / 4096 % 16 + 224)) =
      some (n / 4096, 2, low, high) ∧
      low ≤ n / 64 % 64 + 128 ∧ n / 64 % 64 + 128 ≤ high := by
  rw [leadOf?, toNat_ofNat (by omega)]
  rw [if_neg (by omega), if_neg (by omega)]
  split
  · exact ⟨_, _, by rw [show n / 4096 = 0 by omega], by omega, by omega⟩
  · split
    · exact ⟨_, _, by rw [show n / 4096 = 13 by omega], by omega, by omega⟩
    · rw [if_pos (by omega)]
      have hbits : n / 4096 % 16 + 224 - 224 = n / 4096 := by omega
      exact ⟨_, _, by rw [hbits], by omega, by omega⟩

/-- The byte behind the first of four is in its range, since there is no character above
the last. -/
theorem leadOf?_four (hlow : 0x10000 ≤ n) (hhigh : n < 0x110000) :
    ∃ low high, leadOf? (UInt8.ofNat (n / 262144 % 8 + 240)) =
      some (n / 262144, 3, low, high) ∧
      low ≤ n / 4096 % 64 + 128 ∧ n / 4096 % 64 + 128 ≤ high := by
  rw [leadOf?, toNat_ofNat (by omega)]
  rw [if_neg (by omega), if_neg (by omega), if_neg (by omega), if_neg (by omega),
    if_neg (by omega)]
  split
  · exact ⟨_, _, by rw [show n / 262144 = 0 by omega], by omega, by omega⟩
  · split
    · have hbits : n / 262144 % 8 + 240 - 240 = n / 262144 := by omega
      exact ⟨_, _, by rw [hbits], by omega, by omega⟩
    · rw [if_pos (by omega)]
      exact ⟨_, _, by rw [show n / 262144 = 4 by omega], by omega, by omega⟩

/-! ### Characters and texts -/

/-- The reader comes over the bytes of a character and gives the character. -/
theorem decodeFrom_char (c : Char) (i : Nat) (rest : List UInt8) :
    ∃ j, decodeFrom none i (String.utf8EncodeChar c ++ rest) =
      (decodeFrom none j rest).map (c :: ·) := by
  have hvalid : c.toNat < 0xd800 ∨ 0xdfff < c.toNat ∧ c.toNat < 0x110000 := c.valid
  have hchar : ∀ n, n = c.toNat → Char.ofNat n = c := fun n hn => hn ▸ Char.ofNat_toNat c
  have hany : ∀ n, 0x80 ≤ n % 64 + 128 ∧ n % 64 + 128 ≤ 0xbf := by
    intro n
    omega
  have hcode : c.val.toNat = c.toNat := rfl
  -- by the number of bytes; in each case the bits come together to the number of the
  -- character
  rw [String.utf8EncodeChar, hcode]
  split
  · rename_i hone
    refine ⟨i + 1, ?_⟩
    rw [List.singleton_append, decodeFrom_alone (leadOf?_one hone), hchar _ rfl]
  · split
    · rename_i hone htwo
      have hbits : c.toNat / 64 * 64 + c.toNat % 64 = c.toNat := by omega
      refine ⟨i + 1 + 1, ?_⟩
      rw [List.cons_append, List.singleton_append,
        decodeFrom_lead (leadOf?_two (by omega) htwo), decodeFrom_last (hany _) rfl,
        hchar _ hbits]
    · split
      · rename_i hone htwo hthree
        obtain ⟨low, high, hlead, hrange⟩ := leadOf?_three (by omega) hthree (by omega)
        have hbits : (c.toNat / 4096 * 64 + c.toNat / 64 % 64) * 64 + c.toNat % 64 =
          c.toNat := by omega
        refine ⟨i + 1 + 1 + 1, ?_⟩
        rw [List.cons_append, List.cons_append, List.singleton_append,
          decodeFrom_lead hlead, decodeFrom_next hrange Nat.one_lt_two,
          decodeFrom_last (hany _) rfl, hchar _ hbits]
      · rename_i hone htwo hthree
        obtain ⟨low, high, hlead, hrange⟩ :=
          leadOf?_four (Nat.lt_of_not_le hthree) (show c.toNat < 0x110000 by omega)
        have hbits : ((c.toNat / 262144 * 64 + c.toNat / 4096 % 64) * 64 + c.toNat / 64 %
          64) * 64 + c.toNat % 64 = c.toNat := by omega
        refine ⟨i + 1 + 1 + 1 + 1, ?_⟩
        rw [List.cons_append, List.cons_append, List.cons_append, List.singleton_append,
          decodeFrom_lead hlead,
          decodeFrom_next hrange (Nat.lt_of_sub_eq_succ rfl),
            decodeFrom_next (hany _) Nat.one_lt_two, decodeFrom_last (hany _) rfl,
          hchar _ hbits]

/-- **The characters of a text are read back from its bytes.** -/
theorem decodeUtf8_encodeUtf8 (s : String) :
    decodeUtf8 (encodeUtf8 s) = .ok s.toList := by
  have hfrom : ∀ (cs : List Char) (i : Nat),
      decodeFrom none i (cs.flatMap String.utf8EncodeChar) = .ok cs := by
    intro cs
    induction cs with
    | nil => exact fun _ => rfl
    | cons c cs ih =>
        intro i
        obtain ⟨j, hj⟩ := decodeFrom_char c i (cs.flatMap String.utf8EncodeChar)
        rw [List.flatMap_cons, hj, ih]
        rfl
  rw [encodeUtf8_eq]
  exact hfrom s.toList 0

end RuleLint.Text
