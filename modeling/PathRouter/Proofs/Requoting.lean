import PathRouter.Percent.Requote
import PathRouter.Proofs.PercentPieces

/-!
# Requoting brings bytes to a normal form

Bytes are normal if each percent sign of them starts an escape that is kept. Requoting rewrites the
pieces one by one, and since it never writes a plain percent sign, exactly the rewritten pieces are
read from the result: no decoded byte becomes part of an escape. So the result is normal, stands for
the same bytes, and is left alone by requoting.
-/

namespace PathRouter.Percent.Protection
set_option autoImplicit false

/-- The bytes begin with the two digits of a protected byte or, if only escapes of ASCII are decoded,
of a byte beyond it. -/
def KeptDigits (p : Protection) (asciiOnly : Bool) (x : Bytes) : Prop :=
  ∃ high low rest v, x = high :: low :: rest ∧ escaped? high low = some v ∧
    (p.protects v = true ∨ asciiOnly = true ∧ 128 ≤ v.toNat)

/-- Every percent sign starts an escape that is kept. -/
def IsNormal (p : Protection) (asciiOnly : Bool) (x : Bytes) : Prop :=
  ∀ before after, x = before ++ sign :: after → p.KeptDigits asciiOnly after

/-- The bytes with every piece in its requoted form. -/
def requoted (p : Protection) (asciiOnly : Bool) (x : Bytes) : Bytes :=
  (pieces x).flatMap (p.requotePiece asciiOnly)

/-- The piece that the requoted form of a piece is read as. -/
def requotedPiece (p : Protection) (asciiOnly : Bool) : Piece → Piece
  | .plain b => .plain b
  | .bare => .escape (hexDigit 2) (hexDigit 5) sign
  | .escape high low v => if p.keeps asciiOnly v then .escape high low v else .plain v

variable (p : Protection) (asciiOnly : Bool) {x y : Bytes}

/-! ## What is kept -/

@[simp] theorem protects_sign : p.protects sign = true := by
  simp [protects]

@[simp] theorem keeps_sign : p.keeps asciiOnly sign = true := by
  simp [keeps]

theorem keeps_iff {v : UInt8} :
    p.keeps asciiOnly v = true ↔ p.protects v = true ∨ asciiOnly = true ∧ 128 ≤ v.toNat := by
  simp [keeps]

/-- What is kept is kept where only escapes of ASCII are decoded. -/
theorem keeps_mono {v : UInt8} (h : p.keeps asciiOnly v = true) : p.keeps true v = true := by
  rw [keeps_iff] at h ⊢
  exact h.imp_right fun h => ⟨rfl, h.2⟩

/-! ## One piece -/

@[simp] theorem bytes_requotedPiece (piece : Piece) :
    (p.requotedPiece asciiOnly piece).bytes = p.requotePiece asciiOnly piece := by
  cases piece with
  | plain b => rfl
  | bare => rfl
  | escape high low v =>
    rw [requotedPiece, requotePiece]
    split
    · rfl
    · rfl

@[simp] theorem value_requotedPiece (piece : Piece) :
    (p.requotedPiece asciiOnly piece).value = piece.value := by
  cases piece with
  | plain b => rfl
  | bare => rfl
  | escape high low v =>
    rw [requotedPiece]
    split
    · rfl
    · rfl

@[simp] theorem isSettled_requotedPiece (piece : Piece) :
    p.isSettled asciiOnly (p.requotedPiece asciiOnly piece) = true := by
  cases piece with
  | plain b => rfl
  | bare => exact p.keeps_sign asciiOnly
  | escape high low v =>
    rw [requotedPiece]
    split
    · assumption
    · rfl

/-- A piece that is settled is left as it is. -/
theorem requotedPiece_of_isSettled {piece : Piece} (h : p.isSettled asciiOnly piece = true) :
    p.requotedPiece asciiOnly piece = piece := by
  cases piece with
  | plain b => rfl
  | bare => exact absurd h (by simp [isSettled])
  | escape high low v => exact if_pos h

/-- No rewritten piece is a bare percent sign, and no decoded byte is a percent sign. -/
theorem isClosed_requotedPiece {piece : Piece} (h : piece.IsRead) :
    (p.requotedPiece asciiOnly piece).IsClosed := by
  cases piece with
  | plain b => exact ⟨h, by simp [requotedPiece]⟩
  | bare => exact ⟨escaped?_hexDigit sign, by simp [requotedPiece]⟩
  | escape high low v =>
    rw [requotedPiece]
    split
    · exact ⟨h, by simp⟩
    · rename_i hdecoded
      refine ⟨?_, by simp⟩
      rintro rfl
      exact hdecoded (p.keeps_sign asciiOnly)

/-! ## Normal bytes -/

theorem keptDigits_iff {high low v : UInt8} (h : escaped? high low = some v) :
    p.KeptDigits asciiOnly (high :: low :: x) ↔ p.keeps asciiOnly v = true := by
  rw [keeps_iff]
  constructor
  · rintro ⟨high', low', rest, v', hx, hv, hkept⟩
    simp only [List.cons.injEq] at hx
    obtain ⟨rfl, rfl, -⟩ := hx
    obtain rfl := Option.some.inj (h.symm.trans hv)
    exact hkept
  · intro hkept
    exact ⟨high, low, x, v, rfl, h, hkept⟩

theorem not_keptDigits (h : ∀ high low rest, x = high :: low :: rest → escaped? high low = none) :
    ¬p.KeptDigits asciiOnly x := by
  rintro ⟨high, low, rest, v, hx, hv, -⟩
  exact absurd (hv.symm.trans (h high low rest hx)) (by simp)

theorem isNormal_sign_iff :
    p.IsNormal asciiOnly (sign :: x) ↔ p.KeptDigits asciiOnly x ∧ p.IsNormal asciiOnly x := by
  constructor
  · intro h
    refine ⟨h [] x rfl, ?_⟩
    intro before after hx
    exact h (sign :: before) after (by rw [hx, List.cons_append])
  · rintro ⟨hfirst, hmore⟩ before after hx
    cases before with
    | nil =>
      obtain ⟨-, rfl⟩ := List.cons.inj hx
      exact hfirst
    | cons b before => exact hmore before after (List.cons.inj hx).2

theorem isNormal_plain_iff {b : UInt8} (hb : b ≠ sign) :
    p.IsNormal asciiOnly (b :: x) ↔ p.IsNormal asciiOnly x := by
  constructor
  · intro h before after hx
    exact h (b :: before) after (by rw [hx, List.cons_append])
  · intro h before after hx
    cases before with
    | nil => exact absurd (List.cons.inj hx).1 hb
    | cons c before => exact h before after (List.cons.inj hx).2

theorem not_isNormal_bare (h : ∀ high low rest, x = high :: low :: rest → escaped? high low = none) :
    ¬p.IsNormal asciiOnly (sign :: x) := by
  rw [isNormal_sign_iff]
  exact fun hx => p.not_keptDigits asciiOnly h hx.1

/-- Normal bytes are those of which requoting leaves every piece alone. -/
theorem isNormal_iff :
    p.IsNormal asciiOnly x ↔ ∀ piece ∈ pieces x, p.isSettled asciiOnly piece = true := by
  fun_induction pieces x with
  | case1 => simp [IsNormal]
  | case2 high low after v hv ih =>
    have hdigits := digits_of_escaped? hv
    rw [isNormal_sign_iff, p.keptDigits_iff asciiOnly hv, isNormal_plain_iff _ _ hdigits.1.2,
      isNormal_plain_iff _ _ hdigits.2.2, ih, List.forall_mem_cons]
    rfl
  | case3 high low after hnone ih =>
    have hbare := p.not_isNormal_bare asciiOnly (x := high :: low :: after) (by simpa using hnone)
    simp [hbare, isSettled]
  | case4 last ih =>
    have hbare := p.not_isNormal_bare asciiOnly (x := [last]) (by simp)
    simp [hbare, isSettled]
  | case5 =>
    have hbare := p.not_isNormal_bare asciiOnly (x := []) (by simp)
    simp [hbare, isSettled]
  | case6 b rest hb ih =>
    rw [isNormal_plain_iff _ _ hb, ih, List.forall_mem_cons]
    simp [isSettled]

/-- Bytes that are normal are normal where only escapes of ASCII are decoded. -/
theorem IsNormal.mono (h : p.IsNormal asciiOnly x) : p.IsNormal true x := by
  intro before after hx
  obtain ⟨high, low, rest, v, hafter, hv, hkept⟩ := h before after hx
  exact ⟨high, low, rest, v, hafter, hv, hkept.imp_right fun h => ⟨rfl, h.2⟩⟩

/-- Normal bytes have no bare percent sign. -/
theorem IsNormal.bare_not_mem (h : p.IsNormal asciiOnly x) : .bare ∉ pieces x := by
  intro hmem
  have hsettled := (p.isNormal_iff asciiOnly).1 h _ hmem
  exact absurd hsettled (by simp [isSettled])

/-! ## The requoted form -/

/-- What is read from the requoted form are the rewritten pieces. -/
theorem pieces_requoted (x : Bytes) :
    pieces (p.requoted asciiOnly x) = (pieces x).map (p.requotedPiece asciiOnly) := by
  have hbytes : p.requoted asciiOnly x =
      ((pieces x).map (p.requotedPiece asciiOnly)).flatMap Piece.bytes := by
    simp [requoted, List.flatMap_map]
  rw [hbytes]
  apply pieces_flatMap
  intro piece hmem
  obtain ⟨original, horiginal, rfl⟩ := List.mem_map.1 hmem
  exact p.isClosed_requotedPiece asciiOnly (Piece.isRead_of_mem horiginal)

theorem requoted_isNormal (x : Bytes) : p.IsNormal asciiOnly (p.requoted asciiOnly x) := by
  rw [isNormal_iff, pieces_requoted]
  intro piece hmem
  obtain ⟨original, -, rfl⟩ := List.mem_map.1 hmem
  exact p.isSettled_requotedPiece asciiOnly original

/-- Requoting keeps what the bytes stand for. -/
theorem lenient_requoted (x : Bytes) : lenient (p.requoted asciiOnly x) = lenient x := by
  rw [← unescape_eq_lenient, ← unescape_eq_lenient, unescape, unescape, pieces_requoted,
    List.map_map]
  apply List.map_congr_left
  intro piece _
  exact p.value_requotedPiece asciiOnly piece

/-- Normal bytes are their own requoted form, and no others are. -/
theorem requoted_eq_self_iff : p.requoted asciiOnly x = x ↔ p.IsNormal asciiOnly x := by
  constructor
  · intro h
    rw [← h]
    exact p.requoted_isNormal asciiOnly x
  · intro h
    rw [isNormal_iff] at h
    calc p.requoted asciiOnly x
      _ = ((pieces x).map (p.requotedPiece asciiOnly)).flatMap Piece.bytes := by
        simp [requoted, List.flatMap_map]
      _ = ((pieces x).map id).flatMap Piece.bytes := by
        congr 1
        exact List.map_congr_left fun piece hmem =>
          p.requotedPiece_of_isSettled asciiOnly (h piece hmem)
      _ = x := by rw [List.map_id, flatMap_bytes_pieces]

/-- Without a bare percent sign at its end, a byte string is requoted by itself. -/
theorem requoted_append (h : .bare ∉ pieces x) (y : Bytes) :
    p.requoted asciiOnly (x ++ y) = p.requoted asciiOnly x ++ p.requoted asciiOnly y := by
  rw [requoted, pieces_append h, List.flatMap_append]
  rfl

/-- Requoting brings no protected byte in but those of the escapes that it writes. -/
theorem mem_of_mem_requoted {b : UInt8} (hb : p.protects b = true) (hsign : b ∉ escapeByte sign)
    (h : b ∈ p.requoted asciiOnly x) : b ∈ x := by
  obtain ⟨piece, hpiece, hmem⟩ := List.mem_flatMap.1 h
  have hbytes : b ∈ piece.bytes := by
    cases piece with
    | plain c => exact hmem
    | bare => exact absurd hmem hsign
    | escape high low v =>
      rw [requotePiece] at hmem
      split at hmem
      · exact hmem
      · rename_i hdecoded
        obtain rfl := List.mem_singleton.1 hmem
        exact absurd ((p.keeps_iff asciiOnly).2 (.inl hb)) hdecoded
  rw [← flatMap_bytes_pieces x]
  exact List.mem_flatMap.2 ⟨piece, hpiece, hbytes⟩

theorem requote?_eq_none_iff : p.requote? asciiOnly x = none ↔ p.IsNormal asciiOnly x := by
  rw [isNormal_iff, ← List.all_eq_true]
  simp [requote?]

theorem requote?_of_not_isNormal (h : ¬p.IsNormal asciiOnly x) :
    p.requote? asciiOnly x = some (p.requoted asciiOnly x) := by
  rw [isNormal_iff, ← List.all_eq_true] at h
  rw [requote?]
  exact if_neg h

/-- What requoting makes of bytes, which may be the bytes themselves. -/
theorem requote?_getD (x : Bytes) : (p.requote? asciiOnly x).getD x = p.requoted asciiOnly x := by
  by_cases h : p.IsNormal asciiOnly x
  · rw [(p.requote?_eq_none_iff asciiOnly).2 h, (p.requoted_eq_self_iff asciiOnly).2 h]
    rfl
  · rw [p.requote?_of_not_isNormal asciiOnly h]
    rfl

/-- Requoting gives nothing for normal bytes. For all others it gives different bytes that are
normal, stand for the same, and are left alone when requoted again. -/
theorem requote?_normalizes :
    p.IsNormal asciiOnly x ∧ p.requote? asciiOnly x = none ∨
      ¬p.IsNormal asciiOnly x ∧ ∃ y, p.requote? asciiOnly x = some y ∧ y ≠ x ∧
        p.IsNormal asciiOnly y ∧ lenient y = lenient x ∧ p.requote? asciiOnly y = none := by
  by_cases h : p.IsNormal asciiOnly x
  · exact .inl ⟨h, (p.requote?_eq_none_iff asciiOnly).2 h⟩
  · have hnormal := p.requoted_isNormal asciiOnly x
    refine .inr ⟨h, p.requoted asciiOnly x, p.requote?_of_not_isNormal asciiOnly h, ?_, hnormal,
      p.lenient_requoted asciiOnly x, (p.requote?_eq_none_iff asciiOnly).2 hnormal⟩
    intro he
    exact h ((p.requoted_eq_self_iff asciiOnly).1 he)

/-- In `%2%41%` the decoded letter does not complete the escape that the first percent sign and the
digit before it would begin. -/
example : Protection.standard.requote? false [0x25, 0x32, 0x25, 0x34, 0x31, 0x25] =
    some [0x25, 0x32, 0x35, 0x32, 0x41, 0x25, 0x32, 0x35] := by
  decide

end PathRouter.Percent.Protection
