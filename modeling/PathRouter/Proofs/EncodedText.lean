import PathRouter.Percent.Encode
import PathRouter.Proofs.PlainText

/-!
# Encoded values

The encoded form of a value is read as one plain byte or one escape for each of its bytes, so that
it decodes to the value. It holds no character but letters, digits, marks, percent signs and what is
declared safe. If that is the slash, the slashes of the value stay and what stands between them is
encoded.
-/

namespace PathRouter.Percent
set_option autoImplicit false

/-- The piece that is written for a byte. -/
def encodedPiece (safe : Text) (b : UInt8) : Piece :=
  if isUnreserved b || isSafe safe b then .plain b
  else .escape (hexDigit (b.toNat / 16)) (hexDigit (b.toNat % 16)) b

variable {value safe : Text}

theorem bytes_encodedPiece (b : UInt8) : (encodedPiece safe b).bytes = encodeByte safe b := by
  unfold encodedPiece encodeByte
  split
  · rfl
  · rfl

theorem value_encodedPiece (b : UInt8) : (encodedPiece safe b).value = b := by
  unfold encodedPiece
  split
  · rfl
  · rfl

theorem isSafe_sign (hsafe : '%' ∉ safe) : isSafe safe sign = false := by
  rw [isSafe, Bool.and_eq_false_iff]
  right
  rw [List.any_eq_false]
  intro c hc heq
  have hcode : c.toNat = '%'.toNat := eq_of_beq heq
  rw [Char.toNat_inj] at hcode
  exact hsafe (hcode ▸ hc)

/-- No percent sign is written plain. -/
theorem isClosed_encodedPiece (hsafe : '%' ∉ safe) (b : UInt8) : (encodedPiece safe b).IsClosed := by
  unfold encodedPiece
  split
  · rename_i hplain
    refine ⟨?_, by simp⟩
    rintro rfl
    rw [isSafe_sign hsafe] at hplain
    exact absurd hplain (by decide)
  · exact ⟨escaped?_hexDigit b, by simp⟩

/-! ## ASCII -/

theorem isAscii_escape {high low v : UInt8} (h : escaped? high low = some v) :
    Utf8.IsAscii [sign, high, low] := by
  have hdigits := digits_of_escaped? h
  intro d hd
  simp only [List.mem_cons, List.not_mem_nil, or_false] at hd
  rcases hd with rfl | rfl | rfl
  · decide
  · exact hdigits.1.1
  · exact hdigits.2.1

theorem isAscii_escapeByte (b : UInt8) : Utf8.IsAscii (escapeByte b) :=
  isAscii_escape (escaped?_hexDigit b)

theorem isAscii_singleton {b : UInt8} (h : b.toNat < 128) : Utf8.IsAscii [b] := by
  intro d hd
  rwa [List.mem_singleton.1 hd]

theorem lt_of_isUnreserved {b : UInt8} (h : isUnreserved b = true) : b.toNat < 128 := by
  simp only [isUnreserved, CodePoint.isAsciiLetter, CodePoint.isAsciiDigit, Bool.or_eq_true,
    Bool.and_eq_true, decide_eq_true_eq, List.contains_iff_mem, List.mem_cons, List.not_mem_nil,
    or_false] at h
  rcases h with ((⟨-, hle⟩ | ⟨-, hle⟩) | ⟨-, hle⟩) | rfl | rfl | rfl | rfl
  · exact Nat.lt_of_le_of_lt hle (by decide)
  · exact Nat.lt_of_le_of_lt hle (by decide)
  · exact Nat.lt_of_le_of_lt hle (by decide)
  · decide
  · decide
  · decide
  · decide

theorem isAscii_encodeByte (safe : Text) (b : UInt8) : Utf8.IsAscii (encodeByte safe b) := by
  unfold encodeByte
  split
  · rename_i hplain
    apply isAscii_singleton
    rw [Bool.or_eq_true] at hplain
    rcases hplain with hplain | hplain
    · exact lt_of_isUnreserved hplain
    · rw [isSafe, Bool.and_eq_true, decide_eq_true_eq] at hplain
      exact hplain.1
  · exact isAscii_escapeByte b

/-! ## Encoding and decoding -/

/-- The bytes of an encoded value. -/
theorem encode_encode (value safe : Text) :
    Utf8.encode (encode value safe) = (Utf8.encode value).flatMap (encodeByte safe) := by
  apply Utf8.encode_map_ofNat
  intro d hd
  obtain ⟨b, -, hd⟩ := List.mem_flatMap.1 hd
  exact isAscii_encodeByte safe b d hd

theorem pieces_encode (hsafe : '%' ∉ safe) (value : Text) :
    pieces (Utf8.encode (encode value safe)) = (Utf8.encode value).map (encodedPiece safe) := by
  have hbytes : Utf8.encode (encode value safe) =
      ((Utf8.encode value).map (encodedPiece safe)).flatMap Piece.bytes := by
    rw [encode_encode, List.flatMap_map]
    simp only [bytes_encodedPiece]
  rw [hbytes]
  apply pieces_flatMap
  intro piece hmem
  obtain ⟨b, -, rfl⟩ := List.mem_map.1 hmem
  exact isClosed_encodedPiece hsafe b

/-- An encoded value decodes to itself. -/
theorem decodeText_encode (hsafe : '%' ∉ safe) (value : Text) :
    decodeText (encode value safe) = .ok value := by
  rw [decodeText, decode_eq_ok_iff, ← unescape_eq_lenient, unescape, pieces_encode hsafe,
    List.map_map]
  constructor
  · intro hmem
    obtain ⟨b, -, hb⟩ := List.mem_map.1 hmem
    exact (isClosed_encodedPiece hsafe b).2 hb
  · calc Utf8.encode value
      _ = (Utf8.encode value).map id := (List.map_id _).symm
      _ = (Utf8.encode value).map (Piece.value ∘ encodedPiece safe) :=
        List.map_congr_left fun b _ => (value_encodedPiece b).symm

theorem encodeByte_ne_nil (safe : Text) (b : UInt8) : encodeByte safe b ≠ [] := by
  unfold encodeByte
  split
  · exact List.cons_ne_nil _ _
  · exact List.cons_ne_nil _ _

/-- Only the empty value has an empty encoded form. -/
theorem encode_eq_nil_iff : encode value safe = [] ↔ value = [] := by
  constructor
  · intro h
    have hbytes : (Utf8.encode value).flatMap (encodeByte safe) = [] := by
      rw [← encode_encode, h]
      rfl
    rw [List.flatMap_eq_nil_iff] at hbytes
    rw [← Utf8.encode_eq_nil_iff, List.eq_nil_iff_forall_not_mem]
    intro b hb
    exact encodeByte_ne_nil safe b (hbytes b hb)
  · rintro rfl
    rfl

/-- A slash is written as an escape, unless it is declared safe. -/
theorem slash_not_mem_encode (value : Text) : '/' ∉ encode value [] := by
  intro hmem
  have hbyte := Utf8.mem_encode_of_mem (by decide) hmem
  rw [encode_encode] at hbyte
  obtain ⟨b, -, hb⟩ := List.mem_flatMap.1 hbyte
  unfold encodeByte at hb
  split at hb
  · rename_i hplain
    obtain rfl := List.mem_singleton.1 hb
    exact absurd hplain (by decide)
  · have hdigits := le_of_escaped? (escaped?_hexDigit b)
    have hslash : (UInt8.ofNat '/'.toNat).toNat = 47 := rfl
    simp only [escapeByte, List.mem_cons, List.not_mem_nil, or_false] at hb
    rcases hb with hb | hb | hb
    · exact absurd hb (by decide)
    · rw [hb] at hslash
      omega
    · rw [hb] at hslash
      omega

/-! ## Slashes that are kept -/

theorem encode_append (value other safe : Text) :
    encode (value ++ other) safe = encode value safe ++ encode other safe := by
  simp only [encode, Utf8.encode_append, List.flatMap_append, List.map_append]

/-- A value without a slash is written alike whether the slash is safe or not. -/
theorem encode_slash_of_not_mem (h : '/' ∉ value) : encode value ['/'] = encode value [] := by
  have hbyte : ∀ b ∈ Utf8.encode value, encodeByte ['/'] b = encodeByte [] b := by
    intro b hb
    have hsafe : isSafe ['/'] b = false := by
      rw [isSafe, Bool.and_eq_false_imp]
      intro hascii
      rw [List.any_cons, List.any_nil, Bool.or_false, beq_eq_false_iff_ne]
      intro hslash
      have hmem := Utf8.mem_of_mem_encode (of_decide_eq_true hascii) hb
      rw [← hslash, Char.ofNat_toNat] at hmem
      exact h hmem
    have hnone : isSafe [] b = false := Bool.and_false _
    rw [encodeByte, encodeByte, hsafe, hnone]
  rw [encode, encode, List.flatMap_def, List.flatMap_def, List.map_congr_left hbyte]

/-- Where the slash is safe, the slashes of a value divide its encoded form into the encoded forms
of what they divide the value into. -/
theorem splitOn_encode_slash (value : Text) :
    (encode value ['/']).splitOn '/' = (value.splitOn '/').map fun part => encode part [] := by
  -- the induction goes from the whole to what stands after the first slash
  induction hlength : value.length using Nat.strongRecOn generalizing value with
  | ind n ih =>
    by_cases hmem : '/' ∈ value
    · obtain ⟨before, after, rfl, hbefore⟩ := List.eq_append_cons_of_mem hmem
      have hwritten : encode (before ++ '/' :: after) ['/'] =
          encode before [] ++ '/' :: encode after ['/'] := by
        rw [encode_append, encode_slash_of_not_mem hbefore]
        rfl
      rw [List.length_append, List.length_cons] at hlength
      rw [hwritten, List.splitOn_append_cons_self_of_not_mem (slash_not_mem_encode before),
        List.splitOn_append_cons_self_of_not_mem hbefore, ih after.length (by omega) after rfl,
        List.map_cons]
    · rw [encode_slash_of_not_mem hmem, List.splitOn_eq_singleton (slash_not_mem_encode value),
        List.splitOn_eq_singleton hmem, List.map_singleton]

/-- Where the slash is safe, what stands between the slashes of a value is encoded and the slashes
stay. -/
theorem encode_slash (value : Text) :
    encode value ['/'] =
      ['/'].intercalate ((value.splitOn '/').map fun part => encode part []) := by
  rw [← splitOn_encode_slash, List.intercalate_splitOn]

end PathRouter.Percent
