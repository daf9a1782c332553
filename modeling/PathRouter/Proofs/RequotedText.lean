import PathRouter.Proofs.EncodedText
import PathRouter.Proofs.Requoting

/-!
# Requoting a text

The requoted form of a text is that of its bytes, with all unprotected escapes decoded if that is
UTF-8, and else with those of ASCII only. The latter always is UTF-8, as it exchanges bytes of ASCII
for bytes of ASCII, so a text is never lost. Decoding fewer escapes first makes no difference to
decoding all of them, and for that reason a requoted text is left alone.
-/

namespace PathRouter.Percent.Protection
set_option autoImplicit false

open Utf8

variable (p : Protection)

/-- Requoting a text, with the bytes reported that were to become a text and are none. -/
def requoteTextStrict (text : Text) : Except Bytes (Option Text) :=
  match p.requote? false (Utf8.encode text) with
  | none => .ok none
  | some full =>
    match Utf8.decode? full with
    | some t => .ok (some t)
    | none =>
      match p.requote? true (Utf8.encode text) with
      | none => .ok none
      | some part =>
        match Utf8.decode? part with
        | some t => .ok (some t)
        | none => .error part

/-! ## Exchanged pieces -/

/-- Where only escapes of ASCII are decoded, a text remains a text. -/
theorem isUtf8_requoted_true (text : Text) : IsUtf8 (p.requoted true (Utf8.encode text)) := by
  have hbytes : IsUtf8 ((pieces (Utf8.encode text)).flatMap Piece.bytes) := by
    rw [flatMap_bytes_pieces]
    exact isUtf8_encode text
  apply IsUtf8.exchange _ hbytes
  intro piece hmem
  have hread := Piece.isRead_of_mem hmem
  cases piece with
  | plain b => exact .inl rfl
  | bare => exact .inr ⟨⟨isAscii_singleton (by decide), by simp [Piece.bytes]⟩, isAscii_escapeByte sign⟩
  | escape high low v =>
    rw [requotePiece]
    split
    · exact .inl rfl
    · rename_i hdecoded
      rw [keeps_iff] at hdecoded
      have hascii : v.toNat < 128 := by
        by_cases hv : 128 ≤ v.toNat
        · exact absurd (.inr ⟨rfl, hv⟩) hdecoded
        · omega
      exact .inr ⟨⟨isAscii_escape hread, by simp [Piece.bytes]⟩, isAscii_singleton hascii⟩

/-- If the bytes stand for a text, so do they in their requoted form. -/
theorem isUtf8_requoted_false {x : Bytes} (h : IsUtf8 (lenient x)) :
    IsUtf8 (p.requoted false x) := by
  have hvalues : IsUtf8 ((pieces x).flatMap fun piece => [piece.value]) := by
    rwa [← List.map_eq_flatMap, ← unescape, unescape_eq_lenient]
  apply IsUtf8.exchange _ hvalues
  intro piece hmem
  have hread := Piece.isRead_of_mem hmem
  cases piece with
  | plain b => exact .inl rfl
  | bare => exact .inr ⟨⟨isAscii_singleton (by decide), by simp⟩, isAscii_escapeByte sign⟩
  | escape high low v =>
    rw [requotePiece]
    split
    · rename_i hkept
      have hascii : v.toNat < 128 := by
        simp only [keeps, protects, Bool.or_eq_true, Bool.and_eq_true, beq_iff_eq,
          decide_eq_true_eq, Bool.false_eq_true, false_and, or_false] at hkept
        rcases hkept with rfl | hkept
        · decide
        · exact hkept.1
      exact .inr ⟨⟨isAscii_singleton hascii, by simp⟩, isAscii_escape hread⟩
    · exact .inl rfl

/-! ## The requoted form of a text -/

/-- The requoted text has the bytes of one of the requoted forms, and of the second only if the first
is no text. -/
theorem encode_requoteText (text : Text) :
    ∃ asciiOnly, Utf8.encode (p.requoteText text) = p.requoted asciiOnly (Utf8.encode text) ∧
      (asciiOnly = true → ¬IsUtf8 (p.requoted false (Utf8.encode text))) := by
  by_cases hnormal : p.IsNormal false (Utf8.encode text)
  · refine ⟨false, ?_, by simp⟩
    rw [requoteText, requoteText?, (p.requote?_eq_none_iff false).2 hnormal,
      (p.requoted_eq_self_iff false).2 hnormal]
    rfl
  rw [requoteText, requoteText?, p.requote?_of_not_isNormal false hnormal, Option.bind_some]
  cases hfull : Utf8.decode? (p.requoted false (Utf8.encode text)) with
  | some t => exact ⟨false, encode_of_decode? hfull, by simp⟩
  | none =>
    refine ⟨true, ?_, fun _ => decode?_eq_none_iff.1 hfull⟩
    by_cases hnormal' : p.IsNormal true (Utf8.encode text)
    · rw [(p.requote?_eq_none_iff true).2 hnormal', (p.requoted_eq_self_iff true).2 hnormal']
      rfl
    · obtain ⟨t, ht⟩ := p.isUtf8_requoted_true text
      rw [p.requote?_of_not_isNormal true hnormal', Option.bind_some, decode?_eq_some_iff.2 ht]
      exact ht

/-- The bytes that are to become a text always do. -/
theorem requoteTextStrict_eq (text : Text) : p.requoteTextStrict text = .ok (p.requoteText? text) := by
  rw [requoteTextStrict, requoteText?]
  cases hfull : p.requote? false (Utf8.encode text) with
  | none => rfl
  | some full =>
    rw [Option.bind_some]
    dsimp only
    cases hdecoded : Utf8.decode? full with
    | some t => rfl
    | none =>
      dsimp only
      cases hpart : p.requote? true (Utf8.encode text) with
      | none => rfl
      | some part =>
        have hnormal : ¬p.IsNormal true (Utf8.encode text) := by
          rw [← p.requote?_eq_none_iff true, hpart]
          simp
        obtain rfl := Option.some.inj (hpart.symm.trans (p.requote?_of_not_isNormal true hnormal))
        obtain ⟨t, ht⟩ := p.isUtf8_requoted_true text
        simp only [Option.bind_some, decode?_eq_some_iff.2 ht]

/-- Decoding escapes of ASCII first makes no difference to decoding all. -/
theorem requoted_false_requoted_true (x : Bytes) :
    p.requoted false (p.requoted true x) = p.requoted false x := by
  have hpiece (piece : Piece) :
      p.requotePiece false (p.requotedPiece true piece) = p.requotePiece false piece := by
    cases piece with
    | plain b => rfl
    | bare =>
      show p.requotePiece false (.escape (hexDigit 2) (hexDigit 5) sign) = escapeByte sign
      rw [requotePiece, keeps_sign, if_pos rfl]
      rfl
    | escape high low v =>
      rw [requotedPiece]
      split
      · rfl
      · rename_i hdecoded
        rw [requotePiece, requotePiece, if_neg]
        exact fun hkept => hdecoded (p.keeps_mono false hkept)
  rw [requoted, pieces_requoted, List.flatMap_map, requoted]
  simp only [hpiece]

/-- A requoted text is left alone. -/
theorem requoteText_requoteText (text : Text) :
    p.requoteText (p.requoteText text) = p.requoteText text := by
  apply Utf8.encode_injective
  obtain ⟨first, hfirst, hreason⟩ := p.encode_requoteText text
  obtain ⟨second, hsecond, -⟩ := p.encode_requoteText (p.requoteText text)
  have hnormal := p.requoted_isNormal first (Utf8.encode text)
  rw [hsecond, hfirst, requoted_eq_self_iff]
  cases first with
  | false =>
    cases second with
    | false => exact hnormal
    | true => exact hnormal.mono
  | true =>
    cases second with
    | true => exact hnormal
    | false =>
      -- all escapes were not decoded the first time because that gave no text
      refine absurd ?_ (hreason rfl)
      rw [← p.requoted_false_requoted_true, ← hfirst, ← hsecond]
      exact isUtf8_encode _

end PathRouter.Percent.Protection
