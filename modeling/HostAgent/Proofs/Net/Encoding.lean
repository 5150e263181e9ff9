import HostAgent.Net.Percent

/-!
# Percent encoding is read back

A text without percent signs is read back from its encoding, wherever the
encoding is used. So such a text is told apart from any other by its encoding. A
percent sign stands for itself, and that is how two texts may have one encoding.

## Main results

* `decodeBytes_encode`, `decode?_encode`: a text without percent signs is read back.
* `encode_inj`: such texts have different encodings.
* `sublist_eq_or_lt`: a text from which something was left out has a shorter encoding.
-/

namespace HostAgent.Percent

/-! ## Digits and bytes -/

/-- The byte of a digit. -/
def hexByte (n : Nat) : UInt8 := UInt8.ofNat (upperHex n).toNat

theorem upperHex_bytes {n : Nat} (h : n < 16) :
    String.utf8EncodeChar (upperHex n) = [hexByte n] := by
  have hall : ∀ n < 16, String.utf8EncodeChar (upperHex n) = [hexByte n] := by decide
  exact hall n h

theorem hexValue?_hexByte {n : Nat} (h : n < 16) :
    hexValue? (hexByte n) = some (UInt8.ofNat n) := by
  have hall : ∀ n < 16, hexValue? (hexByte n) = some (UInt8.ofNat n) := by decide
  exact hall n h

theorem byte_of_halves (b : UInt8) :
    16 * UInt8.ofNat (b.toNat / 16) + UInt8.ofNat (b.toNat % 16) = b := by
  apply UInt8.toNat_inj.1
  have hb : b.toNat < 256 := b.toNat_lt
  simp only [UInt8.toNat_add, UInt8.toNat_mul, UInt8.toNat_ofNat', UInt8.reduceToNat]
  omega

/-- An encoded byte is read back. -/
theorem decodeBytes_encodeByte (b : UInt8) (rest : List UInt8) :
    decodeBytes ((encodeByte b).flatMap String.utf8EncodeChar ++ rest) = b :: decodeBytes rest := by
  have hb : b.toNat < 256 := b.toNat_lt
  have hbytes : (encodeByte b).flatMap String.utf8EncodeChar =
      [0x25, hexByte (b.toNat / 16), hexByte (b.toNat % 16)] := by
    have hsign : String.utf8EncodeChar '%' = [0x25] := by decide
    simp only [encodeByte, List.flatMap_cons, List.flatMap_nil, hsign,
      upperHex_bytes (show b.toNat / 16 < 16 by omega),
      upperHex_bytes (show b.toNat % 16 < 16 by omega)]
    rfl
  rw [hbytes]
  simp only [List.cons_append, List.nil_append, decodeBytes,
    hexValue?_hexByte (show b.toNat / 16 < 16 by omega),
    hexValue?_hexByte (show b.toNat % 16 < 16 by omega), byte_of_halves]

theorem decodeBytes_encodeBytes (bs rest : List UInt8) :
    decodeBytes ((bs.flatMap encodeByte).flatMap String.utf8EncodeChar ++ rest) =
      bs ++ decodeBytes rest := by
  induction bs with
  | nil => rfl
  | cons b bs ih =>
      rw [List.flatMap_cons, List.flatMap_append, List.append_assoc, decodeBytes_encodeByte, ih]
      rfl

/-- A byte that is no percent sign stands for itself. -/
theorem decodeBytes_cons {b : UInt8} (h : b ≠ 0x25) (rest : List UInt8) :
    decodeBytes (b :: rest) = b :: decodeBytes rest := by
  cases rest with
  | nil => simp [decodeBytes]
  | cons a rest =>
      cases rest with
      | nil => simp [decodeBytes]
      | cons c rest =>
          rw [decodeBytes]
          intro _ _ _ heq
          exact absurd heq h

/-! ## Texts -/

variable {extra : List Char}

/-- What is not encoded is a single byte. -/
theorem utf8EncodeChar_of_plain {c : Char} (h : needsEncoding extra c = false) :
    String.utf8EncodeChar c = [UInt8.ofNat c.toNat] ∧ c.toNat < 0x7F := by
  have hcontrol : isControlOrWide c = false := (Bool.or_eq_false_iff.1 h).1
  have hlt : c.toNat < 0x7F := by
    have := (Bool.or_eq_false_iff.1 hcontrol).2
    simpa using this
  have hsmall : c.val.toNat ≤ 127 := by
    show c.toNat ≤ 127
    omega
  unfold String.utf8EncodeChar
  rw [if_pos hsmall]
  exact ⟨rfl, hlt⟩

/-- The bytes of a text without percent signs are read back from its encoding. -/
theorem decodeBytes_encode {cs : List Char} (h : '%' ∉ cs) :
    decodeBytes ((cs.flatMap (encodeChar extra)).flatMap String.utf8EncodeChar) =
      cs.flatMap String.utf8EncodeChar := by
  induction cs with
  | nil => rfl
  | cons c cs ih =>
      have hc : c ≠ '%' := fun heq => h (heq ▸ List.mem_cons_self)
      have hrest := ih fun hmem => h (List.mem_cons_of_mem _ hmem)
      rw [List.flatMap_cons, List.flatMap_append, List.flatMap_cons]
      cases hneeds : needsEncoding extra c with
      | true => rw [encodeChar, if_pos hneeds, decodeBytes_encodeBytes, hrest]
      | false =>
          obtain ⟨hbyte, hlt⟩ := utf8EncodeChar_of_plain hneeds
          have hne : UInt8.ofNat c.toNat ≠ 0x25 := by
            intro heq
            apply hc
            apply Char.toNat_inj.1
            have := congrArg UInt8.toNat heq
            simp at this
            show c.toNat = 37
            omega
          rw [encodeChar, hneeds, if_neg (by simp), List.flatMap_singleton, hbyte,
            List.singleton_append, decodeBytes_cons hne, hrest]
          rfl

theorem decode?_encode {cs : List Char} (h : '%' ∉ cs) :
    decode? (encode extra cs).toList = some (String.ofList cs) := by
  have hbytes : (⟨(cs.flatMap String.utf8EncodeChar).toArray⟩ : ByteArray) =
      (String.ofList cs).toByteArray := by
    show _ = (cs.flatMap String.utf8EncodeChar).toByteArray
    apply ByteArray.ext
    simp
  rw [decode?, encode, String.toList_ofList, decodeBytes_encode h, hbytes, String.fromUTF8?,
    dif_pos (String.ofList cs).isValidUTF8]
  rfl

/-- Texts without percent signs are told apart by their encodings. -/
theorem encode_inj {cs ds : List Char} (hc : '%' ∉ cs) (hd : '%' ∉ ds) :
    encode extra cs = encode extra ds ↔ cs = ds := by
  constructor
  · intro heq
    have hread := congrArg (fun text => decode? text.toList) heq
    rw [decode?_encode hc, decode?_encode hd] at hread
    exact String.ofList_injective (Option.some.inj hread)
  · rintro rfl
    rfl

theorem encode_append (cs ds : List Char) :
    encode extra (cs ++ ds) = encode extra cs ++ encode extra ds := by
  rw [encode, encode, encode, List.flatMap_append, String.ofList_append]

/-- An encoding has a percent sign wherever the text has one. -/
theorem sign_mem_encode {cs : List Char} (h : '%' ∈ cs) : '%' ∈ (encode extra cs).toList := by
  rw [encode, String.toList_ofList, List.mem_flatMap]
  refine ⟨'%', h, ?_⟩
  unfold encodeChar
  split
  · decide
  · exact List.mem_singleton_self _

/-! ## Lengths -/

theorem length_encodeChar_pos (extra : List Char) (c : Char) : 0 < (encodeChar extra c).length := by
  unfold encodeChar
  split
  · have hsize : 0 < (String.utf8EncodeChar c).length := by
      rw [String.length_utf8EncodeChar]
      exact Char.utf8Size_pos c
    obtain ⟨b, bs, hbytes⟩ := List.exists_cons_of_length_pos hsize
    rw [hbytes, List.flatMap_cons, List.length_append]
    exact Nat.add_pos_left (show 0 < 3 by decide) _
  · exact Nat.one_pos

/-- Nothing is encoded as no text, but the empty text. -/
theorem length_encode_pos (extra : List Char) {cs : List Char} (h : cs ≠ []) :
    0 < (encode extra cs).length := by
  obtain ⟨c, rest, rfl⟩ := List.exists_cons_of_ne_nil h
  have hpos := length_encodeChar_pos extra c
  rw [encode, String.length_ofList, List.flatMap_cons, List.length_append]
  omega

/-- A text from which something was left out has a shorter encoding. -/
theorem sublist_eq_or_lt (extra : List Char) {cs ds : List Char} (h : cs.Sublist ds) :
    cs = ds ∨ (cs.flatMap (encodeChar extra)).length < (ds.flatMap (encodeChar extra)).length := by
  induction h with
  | slnil => exact .inl rfl
  | cons c _ ih =>
      have hpos := length_encodeChar_pos extra c
      rw [List.flatMap_cons, List.length_append]
      rcases ih with rfl | hlt
      · right
        omega
      · right
        omega
  | cons_cons c _ ih =>
      rw [List.flatMap_cons, List.flatMap_cons, List.length_append, List.length_append]
      rcases ih with rfl | hlt
      · exact .inl rfl
      · right
        omega

end HostAgent.Percent
