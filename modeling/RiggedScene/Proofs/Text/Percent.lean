import RiggedScene.Proofs.Text.Utf8
import RiggedScene.Text.Percent

/-!
# Escapes that are written and read again

* `Percent.decode_encode` : a text is what its escaped form is read as;
* `Percent.unescaped_of_mem_encode` : which characters an escaped text holds;
* `Percent.Canonical` is the form of an escaped text, and `Percent.decode_encode_canonical` : every
  text has one escaped form, which is of it, and reading and escaping again leads there at once;
* `Percent.prefix_encode_iff` : a text and its escaped form begin alike.
-/

namespace RiggedScene

namespace Percent

/-! ### The escape of one byte -/

/-- Stands for itself in an escaped text. -/
def Unescaped (c : Char) : Prop := c.toNat < 0x80 ∧ isUnreserved (UInt8.ofNat c.toNat) = true

instance : DecidablePred Unescaped := fun _ => inferInstanceAs (Decidable (_ ∧ _))

theorem unescaped_hexDigit : ∀ n < 16, Unescaped (hexDigit n) := by decide

theorem hexValue_hexDigit : ∀ n < 16, hexValue (UInt8.ofNat (hexDigit n).toNat) = some n := by
  decide

theorem toNat_ofNat_byte (b : UInt8) : (Char.ofNat b.toNat).toNat = b.toNat := by
  have hvalid : b.toNat.isValidChar := .inl (Nat.lt_trans b.toNat_lt (by decide))
  rw [Char.ofNat, dif_pos hvalid]
  rfl

theorem unescaped_of_isUnreserved {b : UInt8} (h : isUnreserved b = true) :
    Unescaped (Char.ofNat b.toNat) := by
  have hb : b.toNat < 0x80 := by
    simp only [isUnreserved, Bool.or_eq_true, Bool.and_eq_true, decide_eq_true_eq, beq_iff_eq] at h
    omega
  rw [Unescaped, toNat_ofNat_byte, UInt8.ofNat_toNat]
  exact ⟨hb, h⟩

theorem encode_ascii {c : Char} (h : c.toNat < 0x80) (cs : List Char) :
    Utf8.encode (c :: cs) = UInt8.ofNat c.toNat :: Utf8.encode cs := by
  simp [Utf8.encode, Utf8.encodeCode, h]

theorem encode_encodeByte (b : UInt8) : Utf8.encode (encodeByte b) =
    if isUnreserved b then [b]
    else [sign, UInt8.ofNat (hexDigit (b.toNat / 16)).toNat,
      UInt8.ofNat (hexDigit (b.toNat % 16)).toNat] := by
  have hb := b.toNat_lt
  unfold encodeByte
  split
  · next h =>
    rw [encode_ascii (unescaped_of_isUnreserved h).1, toNat_ofNat_byte, UInt8.ofNat_toNat]
    rfl
  · have hhigh := unescaped_hexDigit (b.toNat / 16) (by omega)
    have hlow := unescaped_hexDigit (b.toNat % 16) (by omega)
    rw [encode_ascii (by decide), encode_ascii hhigh.1, encode_ascii hlow.1]
    rfl

theorem decodeBytes_of_ne {b : UInt8} (h : b ≠ sign) (rest : List UInt8) :
    decodeBytes (b :: rest) = b :: decodeBytes rest := by
  rcases rest with _ | ⟨c, _ | ⟨d, rest⟩⟩
  · rfl
  · rfl
  · exact if_neg h

theorem ne_sign_of_isUnreserved {b : UInt8} (h : isUnreserved b = true) : b ≠ sign := by
  rintro rfl
  exact absurd h (by decide)

/-- **The escape of a byte is read as the byte.** -/
theorem decodeBytes_encodeByte (b : UInt8) (rest : List UInt8) :
    decodeBytes (Utf8.encode (encodeByte b) ++ rest) = b :: decodeBytes rest := by
  have hb := b.toNat_lt
  rw [encode_encodeByte]
  split
  · next h => exact decodeBytes_of_ne (ne_sign_of_isUnreserved h) rest
  · -- the digits are `b / 16` and `b % 16`, which make up `b` again
    have hhigh := hexValue_hexDigit (b.toNat / 16) (by omega)
    have hlow := hexValue_hexDigit (b.toNat % 16) (by omega)
    have hbyte : b.toNat / 16 * 16 + b.toNat % 16 = b.toNat := by omega
    simp [decodeBytes, hhigh, hlow, hbyte]

/-! ### Whole texts -/

theorem decodeBytes_flatMap_encodeByte (bs : List UInt8) :
    decodeBytes (Utf8.encode (bs.flatMap encodeByte)) = bs := by
  induction bs with
  | nil => rfl
  | cons b bs ih =>
    have hcons : Utf8.encode ((b :: bs).flatMap encodeByte) =
        Utf8.encode (encodeByte b) ++ Utf8.encode (bs.flatMap encodeByte) := by
      simp [Utf8.encode]
    rw [hcons, decodeBytes_encodeByte, ih]

/-- **A text is what its escaped form is read as.** -/
@[simp] theorem decode_encode (s : String) : decode (encode s) = s := by
  simp [decode, encode, decodeBytes_flatMap_encodeByte, Utf8.decode_encode]

/-- **An escaped text holds nothing but percent signs and characters that stand for themselves.** -/
theorem unescaped_of_mem_encode {s : String} {c : Char} (h : c ∈ (encode s).toList) :
    c = '%' ∨ Unescaped c := by
  rw [encode, String.toList_ofList] at h
  obtain ⟨b, -, hc⟩ := List.mem_flatMap.1 h
  have hb := b.toNat_lt
  unfold encodeByte at hc
  split at hc
  · next hfree =>
    obtain rfl := List.mem_singleton.1 hc
    exact .inr (unescaped_of_isUnreserved hfree)
  · simp only [List.mem_cons, List.not_mem_nil, or_false] at hc
    rcases hc with rfl | rfl | rfl
    · exact .inl rfl
    · exact .inr (unescaped_hexDigit _ (by omega))
    · exact .inr (unescaped_hexDigit _ (by omega))

/-! ### The form of an escaped text -/

/-- An ASCII letter or digit, or one of `- . _ ~ / @`. -/
def IsPlain (c : Char) : Prop := c.isAlphanum = true ∨ c ∈ ['-', '.', '_', '~', '/', '@']

/-- A digit, or a letter from A to F. -/
def IsUpperHex (c : Char) : Prop := c.isDigit = true ∨ c ∈ ['A', 'B', 'C', 'D', 'E', 'F']

instance : DecidablePred IsPlain := fun _ => inferInstanceAs (Decidable (_ ∨ _))

instance : DecidablePred IsUpperHex := fun _ => inferInstanceAs (Decidable (_ ∨ _))

/-- Plain characters, and percent signs with two upper-case digits each. -/
inductive Canonical : List Char → Prop
  | nil : Canonical []
  | plain {c : Char} {cs : List Char} (h : IsPlain c) (hcs : Canonical cs) : Canonical (c :: cs)
  | escape {high low : Char} {cs : List Char} (hhigh : IsUpperHex high) (hlow : IsUpperHex low)
      (hcs : Canonical cs) : Canonical ('%' :: high :: low :: cs)

theorem isUpperHex_hexDigit : ∀ n < 16, IsUpperHex (hexDigit n) := by decide

theorem isPlain_ofNat :
    ∀ n < 128, isUnreserved (UInt8.ofNat n) = true → IsPlain (Char.ofNat n) := by
  decide +kernel

theorem canonical_flatMap_encodeByte (bs : List UInt8) : Canonical (bs.flatMap encodeByte) := by
  induction bs with
  | nil => exact .nil
  | cons b bs ih =>
    have hb := b.toNat_lt
    rw [List.flatMap_cons, encodeByte]
    split
    · next hfree =>
      have hascii : b.toNat < 128 := toNat_ofNat_byte b ▸ (unescaped_of_isUnreserved hfree).1
      have hplain := isPlain_ofNat b.toNat hascii
      rw [UInt8.ofNat_toNat] at hplain
      exact .plain (hplain hfree) ih
    · have hhigh := isUpperHex_hexDigit (b.toNat / 16) (by omega)
      have hlow := isUpperHex_hexDigit (b.toNat % 16) (by omega)
      exact .escape hhigh hlow ih

theorem encode_injective : Function.Injective encode :=
  Function.LeftInverse.injective decode_encode

/-- **Escaping loses nothing and leads to one form.** A text is what its escaped form is read as,
the form holds no separator, and reading any text and escaping it again does so for good. -/
theorem decode_encode_canonical :
    (∀ s, decode (encode s) = s ∧ Canonical (encode s).toList ∧
      ':' ∉ (encode s).toList ∧ '#' ∉ (encode s).toList ∧ '?' ∉ (encode s).toList) ∧
    Function.Injective encode ∧
    ∀ s, encode (decode (encode (decode s))) = encode (decode s) := by
  have hnotMem {c : Char} (hc : ¬ (c = '%' ∨ Unescaped c)) (s : String) : c ∉ (encode s).toList :=
    fun hmem => hc (unescaped_of_mem_encode hmem)
  refine ⟨fun s => ⟨decode_encode s, ?_, hnotMem (by decide) s, hnotMem (by decide) s,
    hnotMem (by decide) s⟩, encode_injective, fun s => ?_⟩
  · rw [encode, String.toList_ofList]
    exact canonical_flatMap_encodeByte _
  · rw [decode_encode]

/-! ### Beginnings -/

variable {c : Char} {cs part : List Char}

theorem encode_cons (h : Unescaped c) :
    (encode (String.ofList (c :: cs))).toList = c :: (encode (String.ofList cs)).toList := by
  obtain ⟨hascii, hfree⟩ := h
  have hbyte : (UInt8.ofNat c.toNat).toNat = c.toNat := Utf8.toNat_byte (by omega)
  simp [encode, encode_ascii hascii, encodeByte, hfree, hbyte]

theorem decode_cons (h : Unescaped c) :
    (decode (String.ofList (c :: cs))).toList = c :: (decode (String.ofList cs)).toList := by
  obtain ⟨hascii, hfree⟩ := h
  have hbyte : (UInt8.ofNat c.toNat).toNat = c.toNat := Utf8.toNat_byte (by omega)
  have hne := ne_sign_of_isUnreserved hfree
  simp only [decode, String.toList_ofList, encode_ascii hascii, decodeBytes_of_ne hne, Utf8.decode]
  rw [Utf8.decodeAfter_ascii (by omega), hbyte, Char.ofNat_toNat]

/-- **A text and its escaped form have the same beginnings** among those whose characters stand for
themselves. -/
theorem prefix_encode_iff (h : ∀ c ∈ part, Unescaped c) (s : String) :
    part <+: (encode s).toList ↔ part <+: s.toList := by
  induction part generalizing s with
  | nil => simp
  | cons c part ih =>
    obtain ⟨hc, hpart⟩ := List.forall_mem_cons.1 h
    constructor
    · rintro ⟨rest, hrest⟩
      -- what is written behind `c` is read as a text of its own
      have hs : s = String.ofList (c :: (decode (String.ofList (part ++ rest))).toList) := by
        rw [← decode_cons hc, ← List.cons_append, hrest]
        simp
      have hprefix : part <+: (encode (decode (String.ofList (part ++ rest)))).toList := by
        have hlist := hrest
        rw [hs, encode_cons hc] at hlist
        exact ⟨rest, by simpa using (List.cons.inj hlist).2⟩
      rw [hs, String.toList_ofList]
      exact List.cons_prefix_cons.2 ⟨rfl, (ih hpart _).1 hprefix⟩
    · rintro ⟨rest, hrest⟩
      have hs : s = String.ofList (c :: (part ++ rest)) := by
        rw [← List.cons_append, hrest, String.ofList_toList]
      rw [hs, encode_cons hc]
      exact List.cons_prefix_cons.2 ⟨rfl, (ih hpart _).2 (by simp)⟩

end Percent

end RiggedScene
