import RiggedScene.Text.Utf8

/-!
# Reading UTF-8 that was written

* `Utf8.decodeAfter_encodeCode` : the bytes of a character are read as that character, whatever
  follows them;
* `Utf8.decode_encode` : a text is what its bytes are read as.
-/

namespace RiggedScene

namespace Utf8

variable {n missing code low high : Nat} {b : UInt8} {bs : List UInt8}

theorem toNat_byte (h : n < 256) : (UInt8.ofNat n).toNat = n := by
  rw [UInt8.toNat_ofNat']
  exact Nat.mod_eq_of_lt h

/-! ### Single bytes -/

theorem decodeAfter_ascii (h : b.toNat < 0x80) :
    decodeAfter none (b :: bs) = Char.ofNat b.toNat :: decodeAfter none bs := by
  simp [decodeAfter, step, lead, h]

theorem decodeAfter_more (hlow : low ≤ b.toNat) (hhigh : b.toNat ≤ high) :
    decodeAfter (some ⟨missing + 2, code, low, high⟩) (b :: bs) =
      decodeAfter (some ⟨missing + 1, code * 64 + (b.toNat - 0x80), 0x80, 0xBF⟩) bs := by
  simp [decodeAfter, step, hlow, hhigh]

theorem decodeAfter_last (hlow : low ≤ b.toNat) (hhigh : b.toNat ≤ high) :
    decodeAfter (some ⟨1, code, low, high⟩) (b :: bs) =
      Char.ofNat (code * 64 + (b.toNat - 0x80)) :: decodeAfter none bs := by
  simp [decodeAfter, step, hlow, hhigh]

theorem decodeAfter_lead_two (h : 0xC2 ≤ b.toNat) (h' : b.toNat < 0xE0) :
    decodeAfter none (b :: bs) = decodeAfter (some ⟨1, b.toNat - 0xC0, 0x80, 0xBF⟩) bs := by
  have hascii : ¬ b.toNat < 0x80 := by omega
  simp [decodeAfter, step, lead, hascii, Nat.not_lt.2 h, h']

theorem decodeAfter_lead_three (h : 0xE0 ≤ b.toNat) (h' : b.toNat < 0xF0) :
    decodeAfter none (b :: bs) = decodeAfter (some ⟨2, b.toNat - 0xE0,
      if b.toNat = 0xE0 then 0xA0 else 0x80, if b.toNat = 0xED then 0x9F else 0xBF⟩) bs := by
  have hascii : ¬ b.toNat < 0x80 := by omega
  have htwo : ¬ b.toNat < 0xC2 := by omega
  simp [decodeAfter, step, lead, hascii, htwo, Nat.not_lt.2 h, h']

theorem decodeAfter_lead_four (h : 0xF0 ≤ b.toNat) (h' : b.toNat < 0xF5) :
    decodeAfter none (b :: bs) = decodeAfter (some ⟨3, b.toNat - 0xF0,
      if b.toNat = 0xF0 then 0x90 else 0x80, if b.toNat = 0xF4 then 0x8F else 0xBF⟩) bs := by
  have hascii : ¬ b.toNat < 0x80 := by omega
  have htwo : ¬ b.toNat < 0xC2 := by omega
  have hthree : ¬ b.toNat < 0xE0 := by omega
  simp [decodeAfter, step, lead, hascii, htwo, hthree, Nat.not_lt.2 h, h']

/-! ### Characters of several bytes -/

theorem decodeAfter_two (h : 0x80 ≤ n) (h' : n < 0x800) :
    decodeAfter none (UInt8.ofNat (0xC0 + n / 64) :: UInt8.ofNat (0x80 + n % 64) :: bs) =
      Char.ofNat n :: decodeAfter none bs := by
  have h₁ : (UInt8.ofNat (0xC0 + n / 64)).toNat = 0xC0 + n / 64 := toNat_byte (by omega)
  have h₂ : (UInt8.ofNat (0x80 + n % 64)).toNat = 0x80 + n % 64 := toNat_byte (by omega)
  have hcode : (0xC0 + n / 64 - 0xC0) * 64 + (0x80 + n % 64 - 0x80) = n := by omega
  rw [decodeAfter_lead_two (by omega) (by omega), decodeAfter_last (by omega) (by omega), h₁, h₂,
    hcode]

theorem decodeAfter_three (h : 0x800 ≤ n) (h' : n < 0x10000) (hsurrogate : n < 0xD800 ∨ 0xDFFF < n) :
    decodeAfter none (UInt8.ofNat (0xE0 + n / 4096) :: UInt8.ofNat (0x80 + n / 64 % 64) ::
      UInt8.ofNat (0x80 + n % 64) :: bs) = Char.ofNat n :: decodeAfter none bs := by
  have h₁ : (UInt8.ofNat (0xE0 + n / 4096)).toNat = 0xE0 + n / 4096 := toNat_byte (by omega)
  have h₂ : (UInt8.ofNat (0x80 + n / 64 % 64)).toNat = 0x80 + n / 64 % 64 := toNat_byte (by omega)
  have h₃ : (UInt8.ofNat (0x80 + n % 64)).toNat = 0x80 + n % 64 := toNat_byte (by omega)
  have hcode : ((0xE0 + n / 4096 - 0xE0) * 64 + (0x80 + n / 64 % 64 - 0x80)) * 64 +
      (0x80 + n % 64 - 0x80) = n := by omega
  rw [decodeAfter_lead_three (by omega) (by omega), decodeAfter_more (by split <;> omega)
    (by split <;> omega), decodeAfter_last (by omega) (by omega), h₁, h₂, h₃, hcode]

/-- The range of the second byte leaves out what three bytes are enough for, and what is beyond the
last code point. -/
theorem decodeAfter_four (h : 0x10000 ≤ n) (h' : n < 0x110000) :
    decodeAfter none (UInt8.ofNat (0xF0 + n / 262144) :: UInt8.ofNat (0x80 + n / 4096 % 64) ::
      UInt8.ofNat (0x80 + n / 64 % 64) :: UInt8.ofNat (0x80 + n % 64) :: bs) =
        Char.ofNat n :: decodeAfter none bs := by
  have h₁ : (UInt8.ofNat (0xF0 + n / 262144)).toNat = 0xF0 + n / 262144 := toNat_byte (by omega)
  have h₂ : (UInt8.ofNat (0x80 + n / 4096 % 64)).toNat = 0x80 + n / 4096 % 64 :=
    toNat_byte (by omega)
  have h₃ : (UInt8.ofNat (0x80 + n / 64 % 64)).toNat = 0x80 + n / 64 % 64 := toNat_byte (by omega)
  have h₄ : (UInt8.ofNat (0x80 + n % 64)).toNat = 0x80 + n % 64 := toNat_byte (by omega)
  have hcode : (((0xF0 + n / 262144 - 0xF0) * 64 + (0x80 + n / 4096 % 64 - 0x80)) * 64 +
      (0x80 + n / 64 % 64 - 0x80)) * 64 + (0x80 + n % 64 - 0x80) = n := by omega
  rw [decodeAfter_lead_four (by omega) (by omega), decodeAfter_more (by split <;> omega)
    (by split <;> omega), decodeAfter_more (by omega) (by omega),
    decodeAfter_last (by omega) (by omega), h₁, h₂, h₃, h₄, hcode]

/-! ### Texts -/

/-- **The bytes of a character are read as that character.** -/
theorem decodeAfter_encodeCode (c : Char) (bs : List UInt8) :
    decodeAfter none (encodeCode c.toNat ++ bs) = c :: decodeAfter none bs := by
  have hvalid : c.toNat < 0xD800 ∨ 0xDFFF < c.toNat ∧ c.toNat < 0x110000 := c.valid
  obtain ⟨n, hn⟩ : ∃ n, c.toNat = n := ⟨_, rfl⟩
  obtain rfl : Char.ofNat n = c := hn ▸ Char.ofNat_toNat c
  rw [hn] at hvalid ⊢
  unfold encodeCode
  split
  · have hbyte : (UInt8.ofNat n).toNat = n := toNat_byte (by omega)
    rw [List.singleton_append, decodeAfter_ascii (by omega), hbyte]
  split
  · exact decodeAfter_two (by omega) (by omega)
  split
  · exact decodeAfter_three (by omega) (by omega) (by omega)
  · exact decodeAfter_four (by omega) (by omega)

/-- **A text is what its bytes are read as.** -/
theorem decode_encode (cs : List Char) : decode (encode cs) = cs := by
  unfold decode encode
  induction cs with
  | nil => rfl
  | cons c cs ih => rw [List.flatMap_cons, decodeAfter_encodeCode, ih]

end Utf8

end RiggedScene
