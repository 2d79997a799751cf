import OrgConsole.Http.PercentEncoding
/-!
# Reading encoded texts back

Whatever is plain, as long as the percent sign is not, an encoded text reads back as the text it was
made from.
-/

namespace OrgConsole.PercentEncoding

/-- The text that an encoded text stands for, if its bytes are one. -/
def decodeText? (s : String) : Option String :=
  String.fromUTF8? ⟨(decode s.toList).toArray⟩

theorem hexValue?_upperHex {n : Nat} (h : n < 16) : hexValue? (upperHex n) = some n := by
  have hall : ∀ n : Fin 16, hexValue? (upperHex n) = some n.val := by decide
  exact hall ⟨n, h⟩

theorem decode_encodeByte (b : UInt8) (rest : List Char) : decode (encodeByte b ++ rest) = b :: decode rest := by
  have hb : b.toNat < 256 := b.toNat_lt
  have hhigh := hexValue?_upperHex (show b.toNat / 16 < 16 by omega)
  have hlow := hexValue?_upperHex (show b.toNat % 16 < 16 by omega)
  have hvalue : 16 * (b.toNat / 16) + b.toNat % 16 = b.toNat := Nat.div_add_mod b.toNat 16
  rw [encodeByte, List.cons_append, List.cons_append, List.cons_append, List.nil_append, decode]
  simp only [hhigh, hlow, hvalue, UInt8.ofNat_toNat]

theorem decode_flatMap_encodeByte (bytes : List UInt8) (rest : List Char) :
    decode (bytes.flatMap encodeByte ++ rest) = bytes ++ decode rest := by
  induction bytes with
  | nil => rfl
  | cons b bytes ih => rw [List.flatMap_cons, List.append_assoc, decode_encodeByte, ih, List.cons_append]

/-- Anything but a percent sign stands for itself. -/
theorem decode_cons_of_ne {c : Char} (h : c ≠ '%') (rest : List Char) :
    decode (c :: rest) = String.utf8EncodeChar c ++ decode rest := by
  rw [decode]
  exact fun _ _ _ hc => absurd hc h

theorem decode_encodeChar {plain : Char → Bool} (hplain : plain '%' = false) (c : Char) (rest : List Char) :
    decode (encodeChar plain c ++ rest) = String.utf8EncodeChar c ++ decode rest := by
  unfold encodeChar
  split
  · rename_i h
    have hne : c ≠ '%' := by
      rintro rfl
      simp [hplain] at h
    exact decode_cons_of_ne hne rest
  · exact decode_flatMap_encodeByte _ rest

theorem decode_encode {plain : Char → Bool} (hplain : plain '%' = false) (cs : List Char) :
    decode (encode plain cs) = cs.flatMap String.utf8EncodeChar := by
  induction cs with
  | nil => rfl
  | cons c rest ih => rw [encode, List.flatMap_cons, decode_encodeChar hplain, ← encode, ih, List.flatMap_cons]

/-- An encoded text has no characters but plain ones and those that bytes are written with. -/
theorem mem_encode {plain : Char → Bool} {c : Char} {cs : List Char} (h : c ∈ encode plain cs) :
    plain c = true ∨ c ∈ "%0123456789ABCDEF".toList := by
  have hdigit : ∀ n : Fin 16, upperHex n ∈ "%0123456789ABCDEF".toList := by decide
  obtain ⟨d, -, hd⟩ := List.mem_flatMap.1 h
  unfold encodeChar at hd
  split at hd
  · rename_i hplain
    obtain rfl := List.mem_singleton.1 hd
    exact .inl (Bool.and_eq_true_iff.1 hplain).2
  · obtain ⟨b, -, hb⟩ := List.mem_flatMap.1 hd
    have hbyte : b.toNat < 256 := b.toNat_lt
    simp only [encodeByte, List.mem_cons, List.not_mem_nil, or_false] at hb
    rcases hb with rfl | rfl | rfl
    · exact .inr (by decide)
    · exact .inr (hdigit ⟨b.toNat / 16, by omega⟩)
    · exact .inr (hdigit ⟨b.toNat % 16, by omega⟩)

/-- What is read back from an encoded text is the text itself. -/
theorem decodeText?_encode {plain : Char → Bool} (hplain : plain '%' = false) (cs : List Char) :
    decodeText? (String.ofList (encode plain cs)) = some (String.ofList cs) := by
  have hbytes : (⟨(decode (encode plain cs)).toArray⟩ : ByteArray) = (String.ofList cs).toByteArray := by
    rw [decode_encode hplain, String.toByteArray_ofList, List.utf8Encode]
    exact ByteArray.ext List.data_toByteArray.symm
  unfold decodeText? String.fromUTF8?
  rw [String.toList_ofList, dif_pos (hbytes ▸ (String.ofList cs).isValidUTF8), Option.some.injEq]
  exact String.toByteArray_inj.1 hbytes

end OrgConsole.PercentEncoding
