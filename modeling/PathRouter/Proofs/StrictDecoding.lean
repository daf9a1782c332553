import Mathlib.Order.Bounds.Defs
import PathRouter.Proofs.PlainText

/-!
# Decoding is strict

A fragment decodes if and only if its bytes are plain bytes and escapes, one after the other, that
stand for the encoding of a text. Where that fails because of a percent sign, the leftmost one that
starts no escape is reported, whatever is wrong with the encoding. Decoding is also written as a scan
that reads bytes at offsets, reads numerals and collects numbers, each of which could fail by itself.
None of this ever happens: the scan stops for no reason but those that decoding reports.
-/

namespace PathRouter.Percent
set_option autoImplicit false

/-! ## What is to be decoded -/

/-- What is decoded: bytes, or code points, surrogates included. -/
inductive Fragment
  | bytes (bytes : Bytes)
  | codes (codes : List CodePoint) (inRange : ∀ c ∈ codes, c < 0x110000)

namespace Fragment

/-- The text of a fragment. -/
def decode : Fragment → Except DecodeError Text
  | bytes x => Percent.decode x
  | codes cs _ => decodeCodes cs

/-- The bytes of a fragment: its own, or those of the text that its code points are. -/
def HasBytes : Fragment → Bytes → Prop
  | bytes x, y => y = x
  | codes cs _, y => ∃ text : Text, text.map Char.toNat = cs ∧ y = Utf8.encode text

end Fragment

/-- The hexadecimal digits, each at its value. -/
def upperDigits : Text :=
  ['0', '1', '2', '3', '4', '5', '6', '7', '8', '9', 'A', 'B', 'C', 'D', 'E', 'F']

/-- The digits with the letters in lower case. -/
def lowerDigits : Text :=
  ['0', '1', '2', '3', '4', '5', '6', '7', '8', '9', 'a', 'b', 'c', 'd', 'e', 'f']

/-- The byte is a digit of either case, and `n` is its value. -/
def IsDigit (b : UInt8) (n : Nat) : Prop :=
  upperDigits[n]? = some (Char.ofNat b.toNat) ∨ lowerDigits[n]? = some (Char.ofNat b.toNat)

/-- The first bytes are plain bytes and escapes one after the other, and stand for the second. -/
inductive Spells : Bytes → Bytes → Prop
  | nil : Spells [] []
  | plain {b : UInt8} {x y : Bytes} : b ≠ sign → Spells x y → Spells (b :: x) (b :: y)
  | escape {high low : UInt8} {m n : Nat} {x y : Bytes} : IsDigit high m → IsDigit low n →
      Spells x y → Spells (sign :: high :: low :: x) (UInt8.ofNat (m * 16 + n) :: y)

/-- A percent sign stands at the offset, and there are no two digits after it. -/
def IsBareAt (x : Bytes) (i : Nat) : Prop :=
  x[i]? = some sign ∧ ∀ high low m n, x[i + 1]? = some high → x[i + 2]? = some low →
    ¬(IsDigit high m ∧ IsDigit low n)

/-- What is reported of a percent sign that starts no escape. -/
def bareError (x : Bytes) (i : Nat) : DecodeError :=
  if i + 2 < x.length then .malformed i x else .truncated i x

/-! ## Digits -/

section Digits

variable {b high low v : UInt8} {n : Nat}

theorem hexValue?_of_isDigit (h : IsDigit b n) : hexValue? b = some n := by
  have hall : ∀ ds ∈ [upperDigits, lowerDigits], ds.length = 16 ∧ ∀ k : Fin 16,
      (ds[k.val]?).map (fun c => hexValue? (UInt8.ofNat c.toNat)) = some (some k.val) := by decide
  have hb : UInt8.ofNat (Char.ofNat b.toNat).toNat = b := by
    have hlt : b.toNat < 256 := b.toNat_lt
    rw [Utf8.toNat_ofNat (.inl (by omega)), UInt8.ofNat_toNat]
  have hread {ds : Text} (hds : ds ∈ [upperDigits, lowerDigits])
      (h : ds[n]? = some (Char.ofNat b.toNat)) : hexValue? b = some n := by
    obtain ⟨hlength, hvalues⟩ := hall ds hds
    have hn : n < ds.length := (List.getElem?_eq_some_iff.1 h).1
    rw [hlength] at hn
    have hvalue := hvalues ⟨n, hn⟩
    rw [h, Option.map_some, hb] at hvalue
    exact Option.some.inj hvalue
  rcases h with h | h
  · exact hread (by simp) h
  · exact hread (by simp) h

theorem isDigit_of_hexValue? (h : hexValue? b = some n) : IsDigit b n := by
  have hall : ∀ b : Fin 256, ∀ n ∈ (hexValue? (UInt8.ofNat b.val)).toList,
      upperDigits[n]? = some (Char.ofNat (UInt8.ofNat b.val).toNat) ∨
        lowerDigits[n]? = some (Char.ofNat (UInt8.ofNat b.val).toNat) := by decide +kernel
  have hbyte := hall ⟨b.toNat, b.toNat_lt⟩ n
  rw [UInt8.ofNat_toNat, h] at hbyte
  exact hbyte (List.mem_singleton_self n)

/-- The digits are those whose value is computed. -/
theorem isDigit_iff : IsDigit b n ↔ hexValue? b = some n :=
  ⟨hexValue?_of_isDigit, isDigit_of_hexValue?⟩

theorem exists_isDigit_iff :
    (∃ m n, IsDigit high m ∧ IsDigit low n) ↔ ∃ v, escaped? high low = some v := by
  simp only [isDigit_iff, escaped?_eq_some_iff]
  constructor
  · rintro ⟨m, n, hhigh, hlow⟩
    exact ⟨_, m, n, hhigh, hlow, rfl⟩
  · rintro ⟨v, m, n, hhigh, hlow, -⟩
    exact ⟨m, n, hhigh, hlow⟩

end Digits

/-! ## Plain bytes and escapes -/

section Spelling

variable {x y : Bytes}

theorem spells_of_pieces (h : .bare ∉ pieces x) : Spells x (unescape x) := by
  rw [unescape]
  fun_induction pieces x with
  | case1 => exact .nil
  | case2 high low after v hv ih =>
    obtain ⟨m, n, hhigh, hlow, rfl⟩ := escaped?_eq_some_iff.1 hv
    exact .escape (isDigit_iff.2 hhigh) (isDigit_iff.2 hlow)
      (ih fun hmem => h (List.mem_cons_of_mem _ hmem))
  | case3 => exact absurd (List.mem_cons_self ..) h
  | case4 => exact absurd (List.mem_cons_self ..) h
  | case5 => exact absurd (List.mem_cons_self ..) h
  | case6 b rest hb ih => exact .plain hb (ih fun hmem => h (List.mem_cons_of_mem _ hmem))

theorem Spells.pieces (h : Spells x y) : .bare ∉ pieces x ∧ unescape x = y := by
  induction h with
  | nil => exact ⟨List.not_mem_nil, rfl⟩
  | plain hb _ ih =>
    rw [unescape, pieces_plain hb]
    exact ⟨by simpa using ih.1, congrArg _ ih.2⟩
  | escape hhigh hlow _ ih =>
    have hv := escaped?_eq_some_iff.2 ⟨_, _, isDigit_iff.1 hhigh, isDigit_iff.1 hlow, rfl⟩
    rw [unescape, pieces_escape hv]
    exact ⟨by simpa using ih.1, congrArg _ ih.2⟩

theorem spells_iff : Spells x y ↔ .bare ∉ pieces x ∧ lenient x = y := by
  rw [← unescape_eq_lenient]
  constructor
  · exact Spells.pieces
  · rintro ⟨hbare, rfl⟩
    exact spells_of_pieces hbare

end Spelling

/-! ## The leftmost bare percent sign -/

section Bare

variable {b : UInt8} {x : Bytes} {i : Nat}

theorem isBareAt_succ : IsBareAt (b :: x) (i + 1) ↔ IsBareAt x i :=
  Iff.rfl

theorem isBareAt_zero : IsBareAt (b :: x) 0 ↔
    b = sign ∧ ∀ high low rest, x = high :: low :: rest → escaped? high low = none := by
  have hnone {high low : UInt8} :
      escaped? high low = none ↔ ∀ m n, ¬(IsDigit high m ∧ IsDigit low n) := by
    rw [Option.eq_none_iff_forall_ne_some, ← not_exists, ← exists_isDigit_iff]
    simp only [not_exists]
  simp only [IsBareAt, hnone, List.getElem?_cons_zero, Option.some.injEq, Nat.zero_add,
    List.getElem?_cons_succ]
  refine and_congr_right fun _ => ?_
  rcases x with _ | ⟨high, _ | ⟨low, rest⟩⟩
  · simp
  · simp
  · simp only [List.getElem?_cons_zero, List.getElem?_cons_succ, Option.some.injEq, List.cons.injEq]
    constructor
    · rintro h _ _ _ ⟨rfl, rfl, rfl⟩ m n
      exact h _ _ m n rfl rfl
    · rintro h _ _ m n rfl rfl
      exact h _ _ _ ⟨rfl, rfl, rfl⟩ m n

/-- A byte that is not bare itself moves the leftmost bare percent sign by one. -/
theorem isLeast_bare_succ (hb : ¬IsBareAt (b :: x) 0) (h : IsLeast {j | IsBareAt x j} i) :
    IsLeast {j | IsBareAt (b :: x) j} (i + 1) := by
  refine ⟨isBareAt_succ.2 h.1, fun j hj => ?_⟩
  cases j with
  | zero => exact absurd hj hb
  | succ j => exact Nat.succ_le_succ (h.2 (isBareAt_succ.1 hj))

theorem not_isBareAt_of_ne (hb : b ≠ sign) : ¬IsBareAt (b :: x) 0 :=
  fun h => hb (isBareAt_zero.1 h).1

theorem not_isBareAt_escape {high low v : UInt8} (h : escaped? high low = some v) :
    ¬IsBareAt (sign :: high :: low :: x) 0 := by
  intro hbare
  exact absurd (h.symm.trans ((isBareAt_zero.1 hbare).2 high low x rfl)) (by simp)

/-- The first bare piece is the leftmost bare percent sign. -/
theorem isLeast_of_bareOffset? {k j : Nat} (h : bareOffset? k (pieces x) = some j) :
    ∃ i, j = k + i ∧ IsLeast {i | IsBareAt x i} i := by
  have hfirst {x : Bytes} (h : ∀ high low rest, x = high :: low :: rest → escaped? high low = none) :
      IsLeast {i | IsBareAt (sign :: x) i} 0 :=
    ⟨isBareAt_zero.2 ⟨rfl, h⟩, fun _ _ => Nat.zero_le _⟩
  fun_induction pieces x generalizing k with
  | case1 => exact absurd h (by simp [bareOffset?])
  | case2 high low after v hv ih =>
    have hdigits := digits_of_escaped? hv
    obtain ⟨i, rfl, hi⟩ := ih (k := k + 3) h
    refine ⟨i + 3, by omega, ?_⟩
    exact isLeast_bare_succ (not_isBareAt_escape hv)
      (isLeast_bare_succ (not_isBareAt_of_ne hdigits.1.2)
        (isLeast_bare_succ (not_isBareAt_of_ne hdigits.2.2) hi))
  | case3 high low after hnone _ =>
    obtain rfl := Option.some.inj h
    exact ⟨0, rfl, hfirst (by simpa using hnone)⟩
  | case4 last _ =>
    obtain rfl := Option.some.inj h
    exact ⟨0, rfl, hfirst (by simp)⟩
  | case5 =>
    obtain rfl := Option.some.inj h
    exact ⟨0, rfl, hfirst (by simp)⟩
  | case6 b rest hb ih =>
    obtain ⟨i, rfl, hi⟩ := ih (k := k + 1) h
    exact ⟨i + 1, by omega, isLeast_bare_succ (not_isBareAt_of_ne hb) hi⟩

/-- Among plain bytes and escapes no percent sign is bare. -/
theorem Spells.not_isBareAt {y : Bytes} (h : Spells x y) (i : Nat) : ¬IsBareAt x i := by
  induction h generalizing i with
  | nil => exact fun hbare => absurd hbare.1 (by simp)
  | plain hb _ ih =>
    cases i with
    | zero => exact not_isBareAt_of_ne hb
    | succ i => exact ih i
  | escape hhigh hlow _ ih =>
    obtain ⟨v, hv⟩ := exists_isDigit_iff.1 ⟨_, _, hhigh, hlow⟩
    have hdigits := digits_of_escaped? hv
    match i with
    | 0 => exact not_isBareAt_escape hv
    | 1 => exact not_isBareAt_of_ne hdigits.1.2
    | 2 => exact not_isBareAt_of_ne hdigits.2.2
    | i + 3 => exact ih i

/-- A percent sign is bare if and only if one of the pieces is. -/
theorem bare_mem_pieces_iff : .bare ∈ pieces x ↔ ∃ i, IsBareAt x i := by
  constructor
  · intro h
    cases hoffset : bareOffset? 0 (pieces x) with
    | none => exact absurd h (bareOffset?_eq_none_iff.1 hoffset)
    | some j =>
      obtain ⟨i, -, hi⟩ := isLeast_of_bareOffset? hoffset
      exact ⟨i, hi.1⟩
  · rintro ⟨i, hi⟩
    exact Classical.byContradiction fun h => (spells_of_pieces h).not_isBareAt i hi

/-- The leftmost bare percent sign is reported, whatever the other bytes are. -/
theorem decode_of_isBareAt (h : IsBareAt x i) :
    ∃ first, IsLeast {j | IsBareAt x j} first ∧ decode x = .error (bareError x first) := by
  cases hoffset : bareOffset? 0 (pieces x) with
  | none =>
    exact absurd (bare_mem_pieces_iff.2 ⟨i, h⟩) (bareOffset?_eq_none_iff.1 hoffset)
  | some j =>
    obtain ⟨first, rfl, hfirst⟩ := isLeast_of_bareOffset? hoffset
    rw [Nat.zero_add] at hoffset
    refine ⟨first, hfirst, ?_⟩
    rw [decode, hoffset]
    rfl

end Bare

/-! ## The scan -/

/-- Why the scan stops. -/
inductive ScanFailure
  /-- What is scanned has no text. -/
  | refused (error : DecodeError)
  /-- A byte was to be read where there is none. -/
  | outside
  /-- A numeral was to be read where there is none. -/
  | noNumeral
  /-- A number was to be collected that is no byte. -/
  | noByte

namespace Scan

/-- The byte at an offset. -/
def byteAt (x : Bytes) (i : Nat) : Except ScanFailure UInt8 :=
  match x[i]? with
  | some b => .ok b
  | none => .error .outside

/-- The characters that are looked up as digits. -/
def digits : Text :=
  upperDigits ++ ['a', 'b', 'c', 'd', 'e', 'f']

/-- The number that two digits denote. -/
def numeral (high low : UInt8) : Except ScanFailure Nat :=
  match hexValue? high, hexValue? low with
  | some m, some n => .ok (m * 16 + n)
  | _, _ => .error .noNumeral

/-- The number of two bytes that are digits, both looked up before they are read as a numeral. -/
def number? (high low : UInt8) : Except ScanFailure (Option Nat) :=
  if Char.ofNat high.toNat ∉ digits ∨ Char.ofNat low.toNat ∉ digits then .ok none
  else (numeral high low).map some

/-- Collects a number. -/
def put (out : Bytes) (n : Nat) : Except ScanFailure Bytes :=
  if n < 256 then .ok (out ++ [UInt8.ofNat n]) else .error .noByte

/-- Goes through the bytes from an offset on; `out` was collected before. -/
def run (x : Bytes) (i : Nat) (out : Bytes) : Except ScanFailure Bytes :=
  if _h : i < x.length then do
    let b ← byteAt x i
    if b ≠ sign then run x (i + 1) (← put out b.toNat)
    else if x.length ≤ i + 2 then .error (.refused (.truncated i x))
    else
      match ← number? (← byteAt x (i + 1)) (← byteAt x (i + 2)) with
      | none => .error (.refused (.malformed i x))
      | some n => run x (i + 3) (← put out n)
  else .ok out
termination_by x.length - i

/-- The text of collected bytes, if they are UTF-8. -/
def textOf (x : Bytes) (error : DecodeError) : Except ScanFailure Text :=
  match Utf8.decode? x with
  | some text => .ok text
  | none => .error (.refused error)

/-- Decodes bytes, without a scan if they have no percent sign. -/
def decode (x : Bytes) : Except ScanFailure Text :=
  if sign ∉ x then textOf x (.invalid x) else do textOf (← run x 0 []) (.invalidDecoded x)

end Scan

/-- Decodes a fragment by scanning its bytes. -/
def Fragment.scan : Fragment → Except ScanFailure Text
  | bytes x => Scan.decode x
  | codes cs _ =>
    match Utf8.encodeCodes? cs with
    | some x => Scan.decode x
    | none => .error (.refused (.unencodable cs))

namespace Scan

section Run

variable {b high low v : UInt8} {front rest out : Bytes}

theorem byteAt_append {i : Nat} (h : rest[i]? = some b) :
    byteAt (front ++ rest) (front.length + i) = .ok b := by
  rw [byteAt, List.getElem?_append_right (Nat.le_add_right _ _), Nat.add_sub_cancel_left, h]

theorem put_toNat (out : Bytes) (b : UInt8) : put out b.toNat = .ok (out ++ [b]) := by
  rw [put, if_pos b.toNat_lt, UInt8.ofNat_toNat]

theorem mem_digits_iff : Char.ofNat b.toNat ∈ digits ↔ (hexValue? b).isSome = true := by
  have hboth (c : Char) : c ∈ digits ↔ c ∈ upperDigits ∨ c ∈ lowerDigits := by
    simp only [digits, upperDigits, lowerDigits, List.mem_append, List.mem_cons]
    grind
  rw [hboth, List.mem_iff_getElem?, List.mem_iff_getElem?, ← exists_or, Option.isSome_iff_exists]
  exact exists_congr fun n => isDigit_iff

theorem number?_eq (high low : UInt8) :
    number? high low = .ok ((escaped? high low).map UInt8.toNat) := by
  unfold number? numeral escaped?
  simp only [mem_digits_iff]
  cases hhigh : hexValue? high with
  | none => simp
  | some m =>
    cases hlow : hexValue? low with
    | none => simp
    | some n =>
      have hm := (hexValue?_cases hhigh).1
      have hn := (hexValue?_cases hlow).1
      have hlt : m * 16 + n < 256 := by omega
      simp [Except.map, Nat.mod_eq_of_lt hlt]

/-- At the end everything is collected. -/
theorem run_nil : run front front.length out = .ok out := by
  rw [run, dif_neg (Nat.lt_irrefl _)]

theorem run_plain (hb : b ≠ sign) :
    run (front ++ b :: rest) front.length out =
      run ((front ++ [b]) ++ rest) (front ++ [b]).length (out ++ [b]) := by
  have hread : byteAt (front ++ b :: rest) front.length = .ok b := byteAt_append (i := 0) rfl
  rw [run, dif_pos (by simp)]
  simp only [hread, bind, Except.bind, put_toNat]
  rw [if_pos hb, List.append_assoc, List.length_append]
  rfl

/-- What is done at a percent sign. -/
theorem run_sign :
    run (front ++ sign :: rest) front.length out =
      match rest with
      | high :: low :: after =>
        match escaped? high low with
        | some v => run ((front ++ [sign, high, low]) ++ after) (front ++ [sign, high, low]).length
            (out ++ [v])
        | none => .error (.refused (.malformed front.length (front ++ sign :: rest)))
      | _ => .error (.refused (.truncated front.length (front ++ sign :: rest))) := by
  have hread : byteAt (front ++ sign :: rest) front.length = .ok sign := byteAt_append (i := 0) rfl
  rw [run, dif_pos (by simp)]
  simp only [hread, bind, Except.bind, ne_eq, not_true_eq_false, if_false]
  rcases rest with _ | ⟨high, _ | ⟨low, after⟩⟩
  · rw [if_pos (by simp)]
  · rw [if_pos (by simp)]
  · have hhigh : byteAt (front ++ sign :: high :: low :: after) (front.length + 1) = .ok high :=
      byteAt_append rfl
    have hlow : byteAt (front ++ sign :: high :: low :: after) (front.length + 2) = .ok low :=
      byteAt_append rfl
    rw [if_neg (by simp)]
    simp only [hhigh, hlow, number?_eq]
    cases escaped? high low with
    | none => rfl
    | some v =>
      simp only [Option.map_some, put_toNat, List.append_assoc, List.length_append]
      rfl

/-- The scan stops at the first bare percent sign, or collects what the bytes stand for. -/
theorem run_eq (front rest out : Bytes) :
    run (front ++ rest) front.length out =
      match bareOffset? front.length (pieces rest) with
      | some i => .error (.refused (bareError (front ++ rest) i))
      | none => .ok (out ++ unescape rest) := by
  -- the bytes gone through move to the front, so that offsets are lengths of it
  rw [unescape]
  fun_induction pieces rest generalizing front out with
  | case1 =>
    rw [List.append_nil, run_nil]
    exact congrArg Except.ok (List.append_nil out).symm
  | case2 high low after v hv ih =>
    rw [run_sign]
    dsimp only
    rw [hv]
    dsimp only
    rw [ih]
    simp [bareOffset?, Piece.bytes, Piece.value]
  | case3 high low after hnone _ =>
    rw [run_sign]
    dsimp only
    rw [hnone]
    simp [bareOffset?, bareError]
  | case4 last _ =>
    rw [run_sign]
    simp [bareOffset?, bareError]
  | case5 =>
    rw [run_sign]
    simp [bareOffset?, bareError]
  | case6 b rest hb ih =>
    rw [run_plain hb, ih]
    simp [bareOffset?, Piece.bytes, Piece.value]

end Run

/-- Scanning bytes is decoding them. -/
theorem decode_eq (x : Bytes) : Scan.decode x = (Percent.decode x).mapError .refused := by
  unfold Scan.decode Percent.decode
  by_cases hsign : sign ∈ x
  · have hrun := run_eq [] x []
    rw [List.nil_append, List.nil_append, List.length_nil] at hrun
    rw [if_neg (not_not_intro hsign), hrun]
    cases bareOffset? 0 (pieces x) with
    | some i => rfl
    | none =>
      simp only [bind, Except.bind, textOf, if_pos hsign]
      cases Utf8.decode? (unescape x) with
      | some text => rfl
      | none => rfl
  · have hpieces := pieces_of_not_mem hsign
    have hbare : bareOffset? 0 (pieces x) = none := by
      rw [bareOffset?_eq_none_iff, hpieces]
      simp
    have hvalues : unescape x = x := by
      rw [unescape, hpieces, List.map_map]
      exact List.map_id _
    rw [if_pos hsign, hbare]
    simp only [hvalues, textOf, if_neg hsign]
    cases Utf8.decode? x with
    | some text => rfl
    | none => rfl

end Scan

/-! ## Fragments -/

namespace Fragment

/-- Code points have bytes if they are those of a text. -/
theorem encodeCodes?_eq_some_iff {codes : List CodePoint} (hrange : ∀ c ∈ codes, c < 0x110000)
    {x : Bytes} : Utf8.encodeCodes? codes = some x ↔
      ∃ text : Text, text.map Char.toNat = codes ∧ x = Utf8.encode text := by
  have hsurrogate {n : Nat} : CodePoint.isSurrogate n = false ↔ n < 0xD800 ∨ 0xDFFF < n := by
    simp only [CodePoint.isSurrogate, Bool.and_eq_false_iff, decide_eq_false_iff_not, Nat.not_le]
  have hflat (text : Text) : (text.map Char.toNat).flatMap Utf8.encodeCode = Utf8.encode text := by
    rw [List.flatMap_map, Utf8.encode]
  unfold Utf8.encodeCodes?
  constructor
  · intro h
    split at h
    · exact absurd h (by simp)
    · rename_i hfree
      rw [Bool.not_eq_true, List.any_eq_false] at hfree
      simp only [Bool.not_eq_true] at hfree
      have hcodes : (codes.map Char.ofNat).map Char.toNat = codes := by
        rw [List.map_map]
        refine (List.map_congr_left fun c hc => ?_).trans (List.map_id _)
        have hlt := hrange c hc
        apply Utf8.toNat_ofNat
        exact (hsurrogate.1 (hfree c hc)).imp_right fun hgt => ⟨hgt, hlt⟩
      refine ⟨codes.map Char.ofNat, hcodes, ?_⟩
      rw [← hflat, hcodes]
      exact (Option.some.inj h).symm
  · rintro ⟨text, rfl, rfl⟩
    have hfree : (text.map Char.toNat).any CodePoint.isSurrogate = false := by
      rw [List.any_eq_false]
      intro n hn
      obtain ⟨c, -, rfl⟩ := List.mem_map.1 hn
      rw [Bool.not_eq_true]
      exact hsurrogate.2 ((Utf8.isValid c).imp_right And.left)
    rw [hfree, hflat]
    rfl

/-- A fragment with bytes is decoded through them. -/
theorem decode_of_hasBytes {value : Fragment} {x : Bytes} (h : value.HasBytes x) :
    value.decode = Percent.decode x := by
  cases value with
  | bytes y => exact congrArg Percent.decode (Eq.symm h)
  | codes cs hrange => rw [Fragment.decode, decodeCodes, (encodeCodes?_eq_some_iff hrange).2 h]

theorem hasBytes_of_decode {value : Fragment} {text : Text} (h : value.decode = .ok text) :
    ∃ x, value.HasBytes x := by
  cases value with
  | bytes x => exact ⟨x, rfl⟩
  | codes cs hrange =>
    rw [Fragment.decode, decodeCodes] at h
    cases hcodes : Utf8.encodeCodes? cs with
    | some x => exact ⟨x, (encodeCodes?_eq_some_iff hrange).1 hcodes⟩
    | none =>
      rw [hcodes] at h
      exact absurd h (by simp)

theorem scan_eq (value : Fragment) : value.scan = value.decode.mapError .refused := by
  cases value with
  | bytes x => exact Scan.decode_eq x
  | codes cs hrange =>
    rw [Fragment.scan, Fragment.decode, decodeCodes]
    cases Utf8.encodeCodes? cs with
    | some x => exact Scan.decode_eq x
    | none => rfl

/-- The scan of a fragment fails for no reason but those that decoding reports. A fragment decodes to
a text if and only if its bytes are plain bytes and escapes that stand for the encoding of the text.
Where some percent sign starts no escape, the leftmost one is reported. -/
theorem decode_isStrict (value : Fragment) :
    value.scan = value.decode.mapError .refused ∧
      (∀ text, value.decode = .ok text ↔ ∃ x, value.HasBytes x ∧ Spells x (Utf8.encode text)) ∧
      ∀ x i, value.HasBytes x → IsBareAt x i →
        ∃ first, IsLeast {j | IsBareAt x j} first ∧ value.decode = .error (bareError x first) := by
  refine ⟨scan_eq value, fun text => ?_, fun x i hx hi => ?_⟩
  · constructor
    · intro h
      obtain ⟨x, hx⟩ := hasBytes_of_decode h
      rw [decode_of_hasBytes hx, decode_eq_ok_iff] at h
      exact ⟨x, hx, spells_iff.2 ⟨h.1, h.2.symm⟩⟩
    · rintro ⟨x, hx, hspells⟩
      obtain ⟨hbare, hvalue⟩ := spells_iff.1 hspells
      rw [decode_of_hasBytes hx, decode_eq_ok_iff]
      exact ⟨hbare, hvalue.symm⟩
  · rw [decode_of_hasBytes hx]
    exact decode_of_isBareAt hi

/-- A byte that is no UTF-8, an escape, a percent sign before a letter that is no digit, and another
at the end. -/
theorem decode_isStrict_precedence :
    let x : Bytes := [0xFF, 0x25, 0x34, 0x31, 0x25, 0x67, 0x2F, 0x25]
    (Fragment.bytes x).HasBytes x ∧ IsBareAt x 7 ∧ IsLeast {j | IsBareAt x j} 4 ∧
      (Fragment.bytes x).decode = .error (.malformed 4 x) := by
  intro x
  have hx : (Fragment.bytes x).HasBytes x := rfl
  have hlast : IsBareAt x 7 := ⟨rfl, fun high low m n hhigh => absurd hhigh (by simp [x])⟩
  obtain ⟨-, -, hreported⟩ := decode_isStrict (.bytes x)
  obtain ⟨first, hfirst, herror⟩ := hreported x 7 hx hlast
  have hvalue : (Fragment.bytes x).decode = .error (.malformed 4 x) := by rfl
  have hoffset : bareError x first = .malformed 4 x := Except.error.inj (herror.symm.trans hvalue)
  obtain rfl : first = 4 := by
    unfold bareError at hoffset
    split at hoffset
    · exact (DecodeError.malformed.inj hoffset).1
    · exact absurd hoffset (by simp)
  exact ⟨hx, hlast, hfirst, hvalue⟩

end Fragment

end PathRouter.Percent
