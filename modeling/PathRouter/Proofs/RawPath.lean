import PathRouter.PathState
import PathRouter.Proofs.RequotedText

/-!
# Raw paths

A state at the start of a raw path has lost nothing of it. Bytes that are not UTF-8 get an escape for
every byte beyond ASCII; an escape cannot be completed by what is put there, since that begins with a
percent sign. The path that results is then requoted, and is the same when it comes in again.
-/

namespace PathRouter
set_option autoImplicit false

namespace Percent

open Utf8

/-- The bytes with an escape for each byte beyond ASCII. -/
def escapeBeyondAscii (x : Bytes) : Bytes :=
  x.flatMap fun b => if b.toNat < 128 then [b] else escapeByte b

variable {b : UInt8} {x : Bytes}

theorem escapeBeyondAscii_of_lt (h : b.toNat < 128) (x : Bytes) :
    escapeBeyondAscii (b :: x) = b :: escapeBeyondAscii x := by
  rw [escapeBeyondAscii, List.flatMap_cons, if_pos h]
  rfl

theorem escapeBeyondAscii_of_le (h : 128 ≤ b.toNat) (x : Bytes) :
    escapeBeyondAscii (b :: x) =
      sign :: hexDigit (b.toNat / 16) :: hexDigit (b.toNat % 16) :: escapeBeyondAscii x := by
  rw [escapeBeyondAscii, List.flatMap_cons, if_neg (Nat.not_lt.2 h)]
  rfl

theorem isAscii_escapeBeyondAscii (x : Bytes) : IsAscii (escapeBeyondAscii x) := by
  intro d hd
  obtain ⟨b, -, hd⟩ := List.mem_flatMap.1 hd
  split at hd
  · rename_i hb
    rwa [List.mem_singleton.1 hd]
  · exact isAscii_escapeByte b d hd

/-- No two digits come to stand where there were none. -/
theorem escaped?_escapeBeyondAscii
    (h : ∀ high low rest, x = high :: low :: rest → escaped? high low = none) :
    ∀ high low rest, escapeBeyondAscii x = high :: low :: rest → escaped? high low = none := by
  intro high low rest he
  rcases x with _ | ⟨b, x⟩
  · exact absurd he (by simp [escapeBeyondAscii])
  rcases Nat.lt_or_ge b.toNat 128 with hb | hb
  · rw [escapeBeyondAscii_of_lt hb] at he
    obtain ⟨rfl, hmore⟩ := List.cons.inj he
    rcases x with _ | ⟨d, x⟩
    · exact absurd hmore (by simp [escapeBeyondAscii])
    rcases Nat.lt_or_ge d.toNat 128 with hd | hd
    · rw [escapeBeyondAscii_of_lt hd] at hmore
      obtain ⟨rfl, -⟩ := List.cons.inj hmore
      exact h _ _ _ rfl
    · rw [escapeBeyondAscii_of_le hd] at hmore
      obtain ⟨rfl, -⟩ := List.cons.inj hmore
      exact escaped?_right (by decide) _
  · rw [escapeBeyondAscii_of_le hb] at he
    obtain ⟨rfl, -⟩ := List.cons.inj he
    exact escaped?_left (by decide) _

theorem unescape_plain (hb : b ≠ sign) (x : Bytes) : unescape (b :: x) = b :: unescape x := by
  rw [unescape, pieces_plain hb]
  rfl

theorem unescape_escape {high low v : UInt8} (h : escaped? high low = some v) (x : Bytes) :
    unescape (sign :: high :: low :: x) = v :: unescape x := by
  rw [unescape, pieces_escape h]
  rfl

theorem unescape_bare (h : ∀ high low rest, x = high :: low :: rest → escaped? high low = none) :
    unescape (sign :: x) = sign :: unescape x := by
  rw [unescape, pieces_bare h]
  rfl

/-- Escaping bytes beyond ASCII keeps what the bytes stand for. -/
theorem lenient_escapeBeyondAscii (x : Bytes) : lenient (escapeBeyondAscii x) = lenient x := by
  have hbare {x : Bytes} (ih : unescape (escapeBeyondAscii x) = (pieces x).map Piece.value)
      (h : ∀ high low rest, x = high :: low :: rest → escaped? high low = none) :
      unescape (escapeBeyondAscii (sign :: x)) = (Piece.bare :: pieces x).map Piece.value := by
    rw [escapeBeyondAscii_of_lt (by decide), unescape_bare (escaped?_escapeBeyondAscii h), ih]
    rfl
  rw [← unescape_eq_lenient, ← unescape_eq_lenient x]
  show _ = (pieces x).map Piece.value
  fun_induction pieces x with
  | case1 => rfl
  | case2 high low after v hv ih =>
    have hdigits := digits_of_escaped? hv
    rw [escapeBeyondAscii_of_lt (by decide), escapeBeyondAscii_of_lt hdigits.1.1,
      escapeBeyondAscii_of_lt hdigits.2.1, unescape_escape hv, ih]
    rfl
  | case3 high low after hnone ih => exact hbare ih (by simpa using hnone)
  | case4 last ih => exact hbare ih (by simp)
  | case5 => exact hbare (x := []) rfl (by simp)
  | case6 b rest hb ih =>
    rcases Nat.lt_or_ge b.toNat 128 with hlt | hle
    · rw [escapeBeyondAscii_of_lt hlt, unescape_plain hb, ih]
      rfl
    · rw [escapeBeyondAscii_of_le hle, unescape_escape (escaped?_hexDigit b), ih]
      rfl

/-- The text of raw bytes stands for the same bytes. -/
theorem lenient_encode_textOfRaw (x : Bytes) :
    lenient (Utf8.encode (textOfRaw x)) = lenient x := by
  rw [textOfRaw]
  split
  · rename_i text htext
    rw [encode_of_decode? htext]
  · rw [← escapeBeyondAscii, encode_map_ofNat (isAscii_escapeBeyondAscii x),
      lenient_escapeBeyondAscii]

end Percent

namespace RawPath

/-- The bytes of a path as it comes in. -/
def toBytes : RawPath → Bytes
  | bytes b => b
  | text t => Utf8.encode t

end RawPath

namespace PathState

open Percent

/-- A state at the start of a raw path, with the bytes reported that were to become a text and are
none. -/
def ofRawStrict (p : Protection) (raw : RawPath) : Except Bytes PathState :=
  let text := match raw with
    | .bytes b => textOfRaw b
    | .text t => t
  (p.requoteTextStrict text).map fun requoted => ofPath (requoted.getD text)

/-- A state is made of every raw path. It is at the start of a path that stands for the same bytes,
in which every percent sign starts an escape of a protected byte or of one beyond ASCII, and that is
the path again when it comes in once more. -/
theorem ofRaw_canonical (p : Protection) (raw : RawPath) :
    ofRawStrict p raw = .ok (ofRaw p raw) ∧
      (ofRaw p raw).skip = 0 ∧ (ofRaw p raw).captures = [] ∧
      lenient (Utf8.encode (ofRaw p raw).path) = lenient raw.toBytes ∧
      p.IsNormal true (Utf8.encode (ofRaw p raw).path) ∧
      (ofRaw p (.text (ofRaw p raw).path)).path = (ofRaw p raw).path := by
  obtain ⟨text, hraw, hstrict, htext⟩ : ∃ text, ofRaw p raw = ofPath (p.requoteText text) ∧
      ofRawStrict p raw = .ok (ofPath (p.requoteText text)) ∧
      lenient (Utf8.encode text) = lenient raw.toBytes := by
    cases raw with
    | bytes b =>
      refine ⟨textOfRaw b, rfl, ?_, lenient_encode_textOfRaw b⟩
      rw [ofRawStrict, p.requoteTextStrict_eq]
      rfl
    | text t =>
      refine ⟨t, rfl, ?_, rfl⟩
      rw [ofRawStrict, p.requoteTextStrict_eq]
      rfl
  obtain ⟨asciiOnly, hbytes, -⟩ := p.encode_requoteText text
  rw [hraw, hstrict]
  refine ⟨rfl, rfl, rfl, ?_, ?_, ?_⟩
  · show lenient (Utf8.encode (p.requoteText text)) = _
    rw [hbytes, p.lenient_requoted, htext]
  · show p.IsNormal true (Utf8.encode (p.requoteText text))
    rw [hbytes]
    exact (p.requoted_isNormal asciiOnly _).mono
  · exact p.requoteText_requoteText text

end PathState

end PathRouter
