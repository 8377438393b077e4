import Mathlib.Data.List.Basic
import MailTemplates.Remote.Percent
/-!
# What percent encoding keeps

The bytes of an encoded text are those of the text (`Percent.decode_encode`), unless it has a `%`
that is not encoded itself: what stands for a byte then cannot be told from three characters. So
texts without a `%` are encoded differently (`Percent.encode_inj`).

A character is never encoded to nothing, so a text that loses characters is encoded to a shorter one
(`Percent.length_encode_lt`).

Main statements: `Percent.decode_encode` and `Percent.encode_inj`.
-/

namespace MailTemplates.Remote.Percent

variable {isEncoded : Char → Bool} {c : Char} {cs ds : List Char}

/-! ## Bytes -/

theorem toList_loop (bytes : ByteArray) (i : Nat) (front : List UInt8) :
    ByteArray.toList.loop bytes i front = front.reverse ++ bytes.data.toList.drop i := by
  induction i, front using ByteArray.toList.loop.induct bytes with
  | case1 i front hlt ih =>
    have hi : i < bytes.data.toList.length := hlt
    have hget : bytes.get! i = bytes.data.toList[i] := getElem!_pos bytes.data i hlt
    rw [ByteArray.toList.loop, if_pos hlt, ih, List.drop_eq_getElem_cons hi, hget,
      List.reverse_cons, List.append_assoc]
    rfl
  | case2 i front hge =>
    have hend : bytes.data.toList.length ≤ i := Nat.le_of_not_lt hge
    rw [ByteArray.toList.loop, if_neg hge, List.drop_eq_nil_of_le hend, List.append_nil]

/-- The bytes of a text of one character are the encoding of this character. -/
theorem toList_toUTF8_singleton (c : Char) :
    (String.singleton c).toUTF8.toList = String.utf8EncodeChar c := by
  have hbytes : (String.singleton c).toUTF8 = (String.utf8EncodeChar c).toByteArray :=
    String.toByteArray_singleton.trans List.utf8Encode_singleton
  rw [hbytes, ByteArray.toList, toList_loop, List.data_toByteArray]
  rfl

/-- Every character has at least one byte. -/
theorem utf8EncodeChar_ne_nil (c : Char) : String.utf8EncodeChar c ≠ [] := by
  intro h
  have hlength := congrArg List.length h
  rw [String.length_utf8EncodeChar] at hlength
  exact absurd hlength (Nat.ne_of_gt c.utf8Size_pos)

/-- Texts with the same bytes are the same. -/
theorem flatMap_utf8EncodeChar_inj
    (h : cs.flatMap String.utf8EncodeChar = ds.flatMap String.utf8EncodeChar) : cs = ds := by
  have hbytes : (String.ofList cs).toByteArray = (String.ofList ds).toByteArray := by
    rw [String.toByteArray_ofList, String.toByteArray_ofList]
    exact congrArg List.toByteArray h
  exact String.ofList_injective (String.toByteArray_inj.1 hbytes)

/-!
## Back from the encoded text

Encoding is undone byte by byte: an encoded byte is a sign and two digits, and a byte that is left
alone is no such sign. So two texts with the same encoding have the same bytes, if neither holds the
sign itself.
-/

/-- A hexadecimal digit that is written is read as its number. -/
theorem digitIn_hexDigit {n : Nat} (h : n < 16) : digitIn 16 (hexDigit n) = some n := by
  have heach : ∀ m < 16, digitIn 16 (hexDigit m) = some m := by decide
  exact heach n h

/-- A percent sign with two digits is decoded to its byte. -/
theorem decode_byte (b : UInt8) (cs : List Char) :
    decode ('%' :: hexDigit (b.toNat / 16) :: hexDigit (b.toNat % 16) :: cs) = b :: decode cs := by
  have hlt : b.toNat < 256 := b.toNat_lt
  have hbyte : UInt8.ofNat (b.toNat / 16 * 16 + b.toNat % 16) = b := by
    rw [Nat.div_add_mod']
    exact UInt8.ofNat_toNat
  rw [decode, digitIn_hexDigit (by omega), digitIn_hexDigit (Nat.mod_lt _ (by omega))]
  dsimp only
  rw [hbyte]

/-- The bytes of a character, each written with a percent sign, are decoded to the character. -/
theorem decode_bytesText (c : Char) (cs : List Char) :
    decode (bytesText c ++ cs) = String.utf8EncodeChar c ++ decode cs := by
  unfold bytesText
  rw [toList_toUTF8_singleton]
  induction String.utf8EncodeChar c with
  | nil => rfl
  | cons b bytes ih =>
    rw [List.flatMap_cons, List.append_assoc, List.cons_append, List.cons_append, List.cons_append,
      List.nil_append, decode_byte, ih, List.cons_append]

/-- A character other than the percent sign is decoded to itself. -/
theorem decode_cons (hc : c ≠ '%') (cs : List Char) :
    decode (c :: cs) = String.utf8EncodeChar c ++ decode cs := by
  rw [decode, toList_toUTF8_singleton]
  rintro a b rest rfl
  exact absurd rfl hc

/-- The bytes of an encoded text are those of the text. -/
theorem decode_encode (h : ∀ c ∈ cs, isEncoded c = false → c ≠ '%') :
    decode (encode isEncoded cs) = cs.flatMap String.utf8EncodeChar := by
  induction cs with
  | nil => rfl
  | cons c cs ih =>
    rw [List.forall_mem_cons] at h
    have hrest : decode (cs.flatMap fun c => if isEncoded c then bytesText c else [c]) =
      cs.flatMap String.utf8EncodeChar := ih h.2
    rw [encode, List.flatMap_cons, List.flatMap_cons]
    cases hc : isEncoded c with
    | true => rw [if_pos rfl, decode_bytesText, hrest]
    | false =>
      rw [if_neg Bool.false_ne_true, List.singleton_append, decode_cons (h.1 hc), hrest]

/-- Texts without a `%` are encoded differently. -/
theorem encode_inj (hcs : '%' ∉ cs) (hds : '%' ∉ ds)
    (h : encode isEncoded cs = encode isEncoded ds) : cs = ds := by
  have hfirst : decode (encode isEncoded cs) = cs.flatMap String.utf8EncodeChar :=
    decode_encode fun c hc _ => ne_of_mem_of_not_mem hc hcs
  have hsecond : decode (encode isEncoded ds) = ds.flatMap String.utf8EncodeChar :=
    decode_encode fun c hc _ => ne_of_mem_of_not_mem hc hds
  rw [h, hsecond] at hfirst
  exact (flatMap_utf8EncodeChar_inj hfirst).symm

/-! ## Characters and lengths -/

/-- No character is written as nothing. -/
theorem bytesText_ne_nil (c : Char) : bytesText c ≠ [] := by
  unfold bytesText
  rw [toList_toUTF8_singleton]
  obtain ⟨b, bytes, hbytes⟩ := List.exists_cons_of_ne_nil (utf8EncodeChar_ne_nil c)
  rw [hbytes]
  exact List.cons_ne_nil _ _

/-- Bytes are written with percent signs and digits only. -/
theorem mem_bytesText {d : Char} (h : d ∈ bytesText c) : d = '%' ∨ ∃ n < 16, d = hexDigit n := by
  unfold bytesText at h
  obtain ⟨b, -, hd⟩ := List.mem_flatMap.1 h
  have hlt : b.toNat < 256 := b.toNat_lt
  simp only [List.mem_cons, List.not_mem_nil, or_false] at hd
  rcases hd with rfl | rfl | rfl
  · exact .inl rfl
  · exact .inr ⟨_, by omega, rfl⟩
  · exact .inr ⟨_, Nat.mod_lt _ (by omega), rfl⟩

/-- A character that is neither a `%` nor a digit is where it was before, if it is not encoded. -/
theorem mem_encode_iff {d : Char} (hd : isEncoded d = false) (hsign : d ≠ '%')
    (hdigit : ∀ n < 16, d ≠ hexDigit n) : d ∈ encode isEncoded cs ↔ d ∈ cs := by
  unfold encode
  rw [List.mem_flatMap]
  constructor
  · rintro ⟨c, hc, hmem⟩
    split at hmem
    · rcases mem_bytesText hmem with rfl | ⟨n, hn, rfl⟩
      · exact absurd rfl hsign
      · exact absurd rfl (hdigit n hn)
    · rwa [List.mem_singleton.1 hmem]
  · intro hmem
    refine ⟨d, hmem, ?_⟩
    rw [hd]
    exact List.mem_singleton_self d

/-- One more character makes the encoding longer. -/
theorem length_encode_cons (c : Char) (cs : List Char) :
    (encode isEncoded cs).length < (encode isEncoded (c :: cs)).length := by
  have hpos : 0 < (if isEncoded c then bytesText c else [c]).length := by
    split
    · exact List.length_pos_of_ne_nil (bytesText_ne_nil c)
    · exact Nat.one_pos
  unfold encode
  rw [List.flatMap_cons, List.length_append]
  omega

/-- Only the empty text is encoded as nothing. -/
theorem encode_eq_nil_iff : encode isEncoded cs = [] ↔ cs = [] := by
  constructor
  · intro h
    cases cs with
    | nil => rfl
    | cons c cs =>
      have hless : (encode isEncoded cs).length < (encode isEncoded (c :: cs)).length :=
        length_encode_cons c cs
      rw [h] at hless
      exact absurd hless (Nat.not_lt_zero _)
  · rintro rfl
    rfl

/-- A text that loses characters is encoded to a shorter one. -/
theorem length_encode_lt (h : ds.Sublist cs) (hne : ds ≠ cs) :
    (encode isEncoded ds).length < (encode isEncoded cs).length := by
  induction h with
  | slnil => exact absurd rfl hne
  | @cons ds cs c h ih =>
    have hle : (encode isEncoded ds).length ≤ (encode isEncoded cs).length := by
      by_cases heq : ds = cs
      · exact Nat.le_of_eq (by rw [heq])
      · exact Nat.le_of_lt (ih heq)
    exact Nat.lt_of_le_of_lt hle (length_encode_cons c cs)
  | @cons_cons ds cs c h ih =>
    have hless := ih fun heq => hne (congrArg _ heq)
    unfold encode at hless ⊢
    rw [List.flatMap_cons, List.flatMap_cons, List.length_append, List.length_append]
    omega

end MailTemplates.Remote.Percent
