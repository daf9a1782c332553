import PathRouter.Percent.Decode
import PathRouter.Percent.Piece

/-!
# Reading pieces

A byte string is read as pieces in one way only. Pieces that were read are read again from their
bytes, whatever follows, as long as none of them is a bare percent sign: two more bytes could
complete that to an escape. So a byte string without bare percent signs can be cut off, read and
rewritten by itself.
-/

namespace PathRouter.Percent
set_option autoImplicit false

/-- Every percent sign with two hexadecimal digits after it replaced by the byte that they name, in
one scan from the left; every other byte is kept. -/
def lenient : Bytes → Bytes
  | [] => []
  | [b] => [b]
  | [b, c] => [b, c]
  | b :: high :: low :: rest =>
    if b = sign then
      match escaped? high low with
      | some v => v :: lenient rest
      | none => b :: lenient (high :: low :: rest)
    else b :: lenient (high :: low :: rest)

namespace Piece

/-- The piece can be read from bytes: a plain byte is no percent sign, and an escape names its
value. -/
def IsRead : Piece → Prop
  | plain b => b ≠ sign
  | bare => True
  | escape high low v => escaped? high low = some v

/-- The piece reads the same whatever follows it. -/
def IsClosed (piece : Piece) : Prop :=
  piece.IsRead ∧ piece ≠ bare

end Piece

variable {b high low v : UInt8} {x y : Bytes}

/-! ## Digits -/

theorem hexValue?_cases {n : Nat} (h : hexValue? b = some n) :
    n < 16 ∧ (48 ≤ b.toNat ∧ b.toNat ≤ 57 ∨ 65 ≤ b.toNat ∧ b.toNat ≤ 70 ∨
      97 ≤ b.toNat ∧ b.toNat ≤ 102) := by
  unfold hexValue? at h
  dsimp only at h
  split at h
  · obtain rfl := Option.some.inj h
    omega
  · split at h
    · obtain rfl := Option.some.inj h
      omega
    · split at h
      · obtain rfl := Option.some.inj h
        omega
      · exact absurd h (by simp)

theorem hexValue?_hexDigit {n : Nat} (h : n < 16) : hexValue? (hexDigit n) = some n := by
  have hall : ∀ k : Fin 16, hexValue? (hexDigit k.val) = some k.val := by decide
  exact hall ⟨n, h⟩

theorem escaped?_eq_some_iff :
    escaped? high low = some v ↔ ∃ h l, hexValue? high = some h ∧ hexValue? low = some l ∧
      UInt8.ofNat (h * 16 + l) = v := by
  unfold escaped?
  cases hexValue? high <;> cases hexValue? low <;> simp

/-- No escape begins with what is no digit. -/
theorem escaped?_left (h : hexValue? high = none) (low : UInt8) : escaped? high low = none := by
  rw [escaped?, h]

theorem escaped?_right (h : hexValue? low = none) (high : UInt8) : escaped? high low = none := by
  rw [escaped?, h]
  cases hexValue? high with
  | none => rfl
  | some n => rfl

/-- The digits of an escape are characters of ASCII other than the percent sign. -/
theorem digits_of_escaped? (h : escaped? high low = some v) :
    (high.toNat < 128 ∧ high ≠ sign) ∧ low.toNat < 128 ∧ low ≠ sign := by
  have hdigit {d : UInt8} {n : Nat} (hd : hexValue? d = some n) : d.toNat < 128 ∧ d ≠ sign := by
    have hrange := (hexValue?_cases hd).2
    constructor
    · omega
    · rintro rfl
      have hsign : sign.toNat = 37 := rfl
      omega
  obtain ⟨m, n, hhigh, hlow, -⟩ := escaped?_eq_some_iff.1 h
  exact ⟨hdigit hhigh, hdigit hlow⟩

/-- The digits of an escape come after the marks of ASCII. -/
theorem le_of_escaped? (h : escaped? high low = some v) : 48 ≤ high.toNat ∧ 48 ≤ low.toNat := by
  obtain ⟨m, n, hhigh, hlow, -⟩ := escaped?_eq_some_iff.1 h
  have hfirst := (hexValue?_cases hhigh).2
  have hsecond := (hexValue?_cases hlow).2
  omega

/-- The escape that is written for a byte names it. -/
theorem escaped?_hexDigit (b : UInt8) :
    escaped? (hexDigit (b.toNat / 16)) (hexDigit (b.toNat % 16)) = some b := by
  have hlt : b.toNat < 256 := b.toNat_lt
  have hhigh : hexValue? (hexDigit (b.toNat / 16)) = some (b.toNat / 16) :=
    hexValue?_hexDigit (by omega)
  have hlow : hexValue? (hexDigit (b.toNat % 16)) = some (b.toNat % 16) :=
    hexValue?_hexDigit (by omega)
  rw [escaped?_eq_some_iff]
  refine ⟨_, _, hhigh, hlow, ?_⟩
  have hsum : b.toNat / 16 * 16 + b.toNat % 16 = b.toNat := by omega
  rw [hsum]
  exact UInt8.ofNat_toNat

/-! ## One piece -/

theorem pieces_plain (hb : b ≠ sign) (x : Bytes) : pieces (b :: x) = .plain b :: pieces x := by
  rw [pieces.eq_def]
  simp only [if_neg hb]

theorem pieces_escape (h : escaped? high low = some v) (x : Bytes) :
    pieces (sign :: high :: low :: x) = .escape high low v :: pieces x := by
  rw [pieces.eq_def]
  simp only [if_true, h]

/-- A percent sign is bare unless an escape stands there. -/
theorem pieces_bare (h : ∀ high low rest, x = high :: low :: rest → escaped? high low = none) :
    pieces (sign :: x) = .bare :: pieces x := by
  rw [pieces.eq_def]
  simp only [if_true]
  rcases x with _ | ⟨high, _ | ⟨low, rest⟩⟩
  · rfl
  · rfl
  · simp only [h high low rest rfl]

/-- A closed piece is read from its bytes. -/
theorem Piece.IsClosed.pieces_append {piece : Piece} (h : piece.IsClosed) (x : Bytes) :
    pieces (piece.bytes ++ x) = piece :: pieces x := by
  cases piece with
  | plain b => exact pieces_plain h.1 x
  | bare => exact absurd rfl h.2
  | escape high low v => exact pieces_escape h.1 x

theorem Piece.isRead_of_mem {piece : Piece} (h : piece ∈ pieces x) : piece.IsRead := by
  fun_induction pieces x with
  | case1 => simp at h
  | case2 high low after v hv ih =>
    rcases List.mem_cons.1 h with rfl | h
    · exact hv
    · exact ih h
  | case3 high low after hnone ih =>
    rcases List.mem_cons.1 h with rfl | h
    · trivial
    · exact ih h
  | case4 last ih =>
    rcases List.mem_cons.1 h with rfl | h
    · trivial
    · exact ih h
  | case5 =>
    obtain rfl := List.mem_singleton.1 h
    trivial
  | case6 b rest hb ih =>
    rcases List.mem_cons.1 h with rfl | h
    · exact hb
    · exact ih h

/-! ## Many pieces -/

/-- Closed pieces are read from their bytes, whatever follows. -/
theorem pieces_flatMap_append {ps : List Piece} (h : ∀ piece ∈ ps, piece.IsClosed) (x : Bytes) :
    pieces (ps.flatMap Piece.bytes ++ x) = ps ++ pieces x := by
  induction ps with
  | nil => rfl
  | cons piece ps ih =>
    rw [List.forall_mem_cons] at h
    rw [List.flatMap_cons, List.append_assoc, h.1.pieces_append, ih h.2, List.cons_append]

theorem pieces_flatMap {ps : List Piece} (h : ∀ piece ∈ ps, piece.IsClosed) :
    pieces (ps.flatMap Piece.bytes) = ps := by
  have happend := pieces_flatMap_append h []
  simpa [pieces] using happend

/-- Bytes without a bare percent sign are read by themselves. -/
theorem pieces_append (h : .bare ∉ pieces x) (y : Bytes) :
    pieces (x ++ y) = pieces x ++ pieces y := by
  have hclosed : ∀ piece ∈ pieces x, piece.IsClosed := by
    intro piece hmem
    refine ⟨Piece.isRead_of_mem hmem, ?_⟩
    rintro rfl
    exact h hmem
  have hread := pieces_flatMap_append hclosed y
  rwa [flatMap_bytes_pieces] at hread

theorem bareOffset?_eq_none_iff {offset : Nat} {ps : List Piece} :
    bareOffset? offset ps = none ↔ .bare ∉ ps := by
  induction ps generalizing offset with
  | nil => simp [bareOffset?]
  | cons piece ps ih =>
    cases piece with
    | bare => simp [bareOffset?]
    | plain b => simp [bareOffset?, ih]
    | escape high low v => simp [bareOffset?, ih]

/-! ## Values -/

theorem lenient_of_ne_sign (hb : b ≠ sign) (x : Bytes) : lenient (b :: x) = b :: lenient x := by
  rcases x with _ | ⟨high, _ | ⟨low, rest⟩⟩
  · rfl
  · rfl
  · rw [lenient, if_neg hb]

/-- The scan and the pieces agree on what the bytes stand for. -/
theorem unescape_eq_lenient (x : Bytes) : unescape x = lenient x := by
  rw [unescape]
  fun_induction pieces x with
  | case1 => rfl
  | case2 high low after v hv ih =>
    rw [List.map_cons, ih, lenient, if_pos rfl, hv]
    rfl
  | case3 high low after hnone ih =>
    rw [List.map_cons, ih, lenient, if_pos rfl, hnone]
    rfl
  | case4 last ih =>
    rw [List.map_cons, ih]
    rfl
  | case5 => rfl
  | case6 b rest hb ih =>
    rw [List.map_cons, ih, lenient_of_ne_sign hb]
    rfl

end PathRouter.Percent
