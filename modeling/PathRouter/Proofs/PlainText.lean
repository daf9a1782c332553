import PathRouter.Proofs.PercentPieces
import PathRouter.Proofs.Utf8Text

/-!
# What decodes

Bytes decode if they hold no bare percent sign and stand for the encoding of a text. A text without
a percent sign decodes to itself.
-/

namespace PathRouter.Percent
set_option autoImplicit false

theorem decode_eq_ok_iff {x : Bytes} {value : Text} :
    decode x = .ok value ↔ .bare ∉ pieces x ∧ Utf8.encode value = lenient x := by
  have hbare : .bare ∉ pieces x ↔ bareOffset? 0 (pieces x) = none := bareOffset?_eq_none_iff.symm
  rw [decode, ← unescape_eq_lenient, hbare]
  cases bareOffset? 0 (pieces x) with
  | some i => simp
  | none =>
    rw [← Utf8.decode?_eq_some_iff]
    cases Utf8.decode? (unescape x) with
    | some text => simp
    | none => simp

/-- Bytes without a percent sign are plain. -/
theorem pieces_of_not_mem {bytes : Bytes} (h : sign ∉ bytes) : pieces bytes = bytes.map .plain := by
  induction bytes with
  | nil => rfl
  | cons b bytes ih =>
    rw [List.mem_cons, not_or] at h
    rw [pieces_plain (Ne.symm h.1), ih h.2]
    rfl

/-- The byte of the percent sign encodes nothing else. -/
theorem sign_not_mem_encode {text : Text} (h : '%' ∉ text) : sign ∉ Utf8.encode text := by
  intro hmem
  exact h (Utf8.mem_of_mem_encode (by decide) hmem)

/-- A text without a percent sign stands for itself. -/
theorem decodeText_of_not_mem {text : Text} (h : '%' ∉ text) : decodeText text = .ok text := by
  have hpieces := pieces_of_not_mem (sign_not_mem_encode h)
  rw [decodeText, decode_eq_ok_iff, ← unescape_eq_lenient, unescape, hpieces, List.map_map]
  exact ⟨by simp, (List.map_id _).symm⟩

end PathRouter.Percent
