import PathRouter.Proofs.CompiledTree
import PathRouter.Proofs.EncodedText
import PathRouter.Proofs.FilledPath
import PathRouter.Proofs.StrictDecoding

/-!
# What values bring into a path

The encoded form of a value is written with unreserved characters, safe characters of ASCII and
escapes in upper case, and decodes to the value. A path that is built holds such forms between the
literals of its pattern. So, up to a tail that keeps its slashes, it is divided by slashes into as
many parts as the literals are, and a percent sign that starts no escape is one of a literal.
-/

namespace PathRouter
set_option autoImplicit false

open Percent

namespace Percent

/-! ## Written values -/

/-- A letter or digit of ASCII, or one of the four marks that are never reserved. -/
def IsUnreservedChar (c : Char) : Prop :=
  c.isAlphanum = true ∨ c ∈ ['-', '.', '_', '~']

/-- Unreserved characters, characters of ASCII that are safe, and escapes in upper case. -/
inductive IsEncoded (safe : List CodePoint) : Text → Prop
  | nil : IsEncoded safe []
  | unreserved {c : Char} {rest : Text} : IsUnreservedChar c → IsEncoded safe rest →
      IsEncoded safe (c :: rest)
  | safe {c : Char} {rest : Text} : c.toNat < 128 → c.toNat ∈ safe → IsEncoded safe rest →
      IsEncoded safe (c :: rest)
  | escape {high low : Char} {rest : Text} : high ∈ upperDigits → low ∈ upperDigits →
      IsEncoded safe rest → IsEncoded safe ('%' :: high :: low :: rest)

/-- The characters of ASCII among code points. -/
def asciiOf (codes : List CodePoint) : Text :=
  (codes.filter fun c => decide (c < 128)).map Char.ofNat

/-- The encoded form of a value. Code points that are safe count if they are of ASCII. -/
def encodeSparing (value : Text) (safe : List CodePoint) : Text :=
  encode value (asciiOf safe)

section Values

variable {value x y : Text} {safe : List CodePoint} {b : UInt8}

theorem IsEncoded.append (hx : IsEncoded safe x) (hy : IsEncoded safe y) :
    IsEncoded safe (x ++ y) := by
  induction hx with
  | nil => exact hy
  | unreserved hc _ ih => exact .unreserved hc ih
  | safe hascii hc _ ih => exact .safe hascii hc ih
  | escape hhigh hlow _ ih => exact .escape hhigh hlow ih

theorem isSafe_asciiOf : isSafe (asciiOf safe) b = true ↔ b.toNat < 128 ∧ b.toNat ∈ safe := by
  simp only [isSafe, asciiOf, Bool.and_eq_true, decide_eq_true_eq, List.any_eq_true, List.mem_map,
    List.mem_filter, beq_iff_eq]
  refine and_congr_right fun hb => ?_
  constructor
  · rintro ⟨_, ⟨n, ⟨hn, hlt⟩, rfl⟩, hnat⟩
    rw [Utf8.toNat_ofNat (.inl (Nat.lt_trans hlt (by decide)))] at hnat
    rwa [← hnat]
  · intro hmem
    exact ⟨_, ⟨_, ⟨hmem, hb⟩, rfl⟩, Utf8.toNat_ofNat (.inl (by omega))⟩

theorem sign_not_mem_asciiOf (hsafe : '%'.toNat ∉ safe) : '%' ∉ asciiOf safe := by
  intro hmem
  obtain ⟨n, hn, hpercent⟩ := List.mem_map.1 hmem
  rw [List.mem_filter, decide_eq_true_eq] at hn
  rw [← hpercent, Utf8.toNat_ofNat (.inl (Nat.lt_trans hn.2 (by decide)))] at hsafe
  exact hsafe hn.1

/-- What is written for one byte. -/
theorem isEncoded_encodeByte (safe : List CodePoint) (b : UInt8) :
    IsEncoded safe ((encodeByte (asciiOf safe) b).map fun d => Char.ofNat d.toNat) := by
  have hlt : b.toNat < 256 := b.toNat_lt
  unfold encodeByte
  split
  · rename_i hplain
    rw [Bool.or_eq_true, isSafe_asciiOf] at hplain
    rcases hplain with hplain | ⟨hascii, hmem⟩
    · have hall : ∀ b : Fin 128, isUnreserved (UInt8.ofNat b.val) = true →
          (Char.ofNat (UInt8.ofNat b.val).toNat).isAlphanum = true ∨
            Char.ofNat (UInt8.ofNat b.val).toNat ∈ ['-', '.', '_', '~'] := by decide +kernel
      have hchar := hall ⟨b.toNat, lt_of_isUnreserved hplain⟩
      rw [UInt8.ofNat_toNat] at hchar
      exact .unreserved (hchar hplain) .nil
    · have hcode : (Char.ofNat b.toNat).toNat = b.toNat := Utf8.toNat_ofNat (.inl (by omega))
      exact .safe (by rwa [hcode]) (by rwa [hcode]) .nil
  · have hall : ∀ n : Fin 16, Char.ofNat (hexDigit n.val).toNat ∈ upperDigits := by decide
    exact .escape (hall ⟨b.toNat / 16, by omega⟩) (hall ⟨b.toNat % 16, by omega⟩) .nil

theorem isEncoded_encodeSparing (value : Text) (safe : List CodePoint) :
    IsEncoded safe (encodeSparing value safe) := by
  rw [encodeSparing, encode]
  induction Utf8.encode value with
  | nil => exact .nil
  | cons b bytes ih =>
    rw [List.flatMap_cons, List.map_append]
    exact (isEncoded_encodeByte safe b).append ih

/-- No slash is written unless it is safe. -/
theorem IsEncoded.slash_not_mem (h : IsEncoded safe x) (hsafe : '/'.toNat ∉ safe) : '/' ∉ x := by
  have hunreserved : ¬IsUnreservedChar '/' := by simp [IsUnreservedChar]
  have hdigit {c : Char} (hc : c ∈ upperDigits) : '/' ≠ c := by
    rintro rfl
    exact absurd hc (by decide)
  induction h with
  | nil => exact List.not_mem_nil
  | unreserved hc _ ih =>
    rw [List.mem_cons, not_or]
    exact ⟨fun he => hunreserved (he ▸ hc), ih⟩
  | safe _ hc _ ih =>
    rw [List.mem_cons, not_or]
    exact ⟨fun he => hsafe (he ▸ hc), ih⟩
  | escape hhigh hlow _ ih =>
    simp only [List.mem_cons, not_or]
    exact ⟨by decide, hdigit hhigh, hdigit hlow, ih⟩

end Values

end Percent

/-! ## Slashes and percent signs -/

section Contained

variable {segments : List Segment} {path : Text}

theorem length_splitOn {α : Type} [BEq α] [LawfulBEq α] (a : α) (xs : List α) :
    (xs.splitOn a).length = xs.count a + 1 := by
  induction xs with
  | nil => rfl
  | cons x xs ih =>
    rw [List.splitOn_cons_eq_if_modifyHead, List.count_cons]
    split
    · rw [List.length_cons, ih]
    · rw [List.length_modifyHead, ih]

theorem Segment.literalOf_eq_nil {s : Segment} {name : Text} (h : s.name? = some name) :
    StaticAlternative.literalOf s = [] := by
  cases s with
  | literal text => exact absurd h (by simp [Segment.name?])
  | dynamic name => rfl
  | constrained name e => rfl
  | tail name allowEmpty => rfl
  | boundary => rfl

/-- Up to the first capture whose values keep their slashes, all slashes of a path are those of
literals. -/
theorem Filled.count_slash (h : Filled segments path) :
    ∃ front rest, path = front ++ rest ∧
      front.count '/' = ((segments.takeWhile fun s => s.safe.isEmpty).flatMap
        StaticAlternative.literalOf).count '/' ∧
      ((∀ s ∈ segments, s.safe = []) → rest = []) := by
  induction h with
  | nil => exact ⟨[], [], rfl, rfl, fun _ => rfl⟩
  | @plain s segments path hname _ ih =>
    obtain ⟨front, rest, rfl, hfront, hrest⟩ := ih
    have hsafe : s.safe.isEmpty = true := by
      cases s with
      | tail name allowEmpty => exact absurd hname (by simp [Segment.name?])
      | literal text => rfl
      | dynamic name => rfl
      | constrained name e => rfl
      | boundary => rfl
    refine ⟨StaticAlternative.literalOf s ++ front, rest, (List.append_assoc ..).symm, ?_,
      fun h => hrest fun s hs => h s (List.mem_cons_of_mem _ hs)⟩
    rw [List.takeWhile_cons, if_pos hsafe, List.flatMap_cons, List.count_append, List.count_append,
      hfront]
  | @capture s name segments path value hname _ ih =>
    by_cases hsafe : s.safe = []
    · obtain ⟨front, rest, rfl, hfront, hrest⟩ := ih
      have hslash : (s.fill value).count '/' = 0 := by
        rw [List.count_eq_zero, Segment.fill, hsafe]
        exact slash_not_mem_encode _
      refine ⟨s.fill value ++ front, rest, (List.append_assoc ..).symm, ?_,
        fun h => hrest fun s hs => h s (List.mem_cons_of_mem _ hs)⟩
      rw [List.takeWhile_cons, if_pos (List.isEmpty_iff.2 hsafe), List.flatMap_cons,
        Segment.literalOf_eq_nil hname, List.nil_append, List.count_append, hslash, hfront,
        Nat.zero_add]
    · refine ⟨[], s.fill value ++ path, rfl, ?_, fun h => absurd (h s (List.mem_cons_self ..)) hsafe⟩
      rw [List.takeWhile_cons, if_neg (mt List.isEmpty_iff.1 hsafe)]
      rfl

/-- What is written for a value decodes to it. -/
theorem Segment.decodeText_fill (s : Segment) (value : Value) :
    decodeText (s.fill value) = .ok value.toText := by
  apply decodeText_encode
  cases s <;> simp [Segment.safe]

/-- A part that decodes neither has a bare percent sign nor makes one of what follows it. -/
theorem bare_mem_of_decodeText {part value rest : Text} (hpart : decodeText part = .ok value)
    (h : .bare ∈ pieces (Utf8.encode (part ++ rest))) : .bare ∈ pieces (Utf8.encode rest) := by
  have hclosed := (decode_eq_ok_iff.1 hpart).1
  rw [Utf8.encode_append, pieces_append hclosed] at h
  exact (List.mem_append.1 h).resolve_left hclosed

/-- A bare percent sign of a path is one of a literal. -/
theorem Filled.exists_literal (h : Filled segments path) (hbare : .bare ∈ pieces (Utf8.encode path)) :
    ∃ text, .literal text ∈ segments ∧ .bare ∈ pieces (Utf8.encode text) := by
  have hlater {s : Segment} {rest : List Segment}
      (h : ∃ text, .literal text ∈ rest ∧ .bare ∈ pieces (Utf8.encode text)) :
      ∃ text, .literal text ∈ s :: rest ∧ .bare ∈ pieces (Utf8.encode text) := by
    obtain ⟨text, hmem, htext⟩ := h
    exact ⟨text, List.mem_cons_of_mem _ hmem, htext⟩
  induction h with
  | nil => exact absurd hbare (by simp [pieces])
  | @plain s rest path hname _ ih =>
    cases s with
    | literal text =>
      by_cases htext : .bare ∈ pieces (Utf8.encode text)
      · exact ⟨text, List.mem_cons_self .., htext⟩
      · have hliteral : StaticAlternative.literalOf (.literal text) = text := rfl
        rw [hliteral, Utf8.encode_append, pieces_append htext] at hbare
        exact hlater (ih ((List.mem_append.1 hbare).resolve_left htext))
    | boundary => exact hlater (ih hbare)
    | dynamic name => exact absurd hname (by simp [Segment.name?])
    | constrained name e => exact absurd hname (by simp [Segment.name?])
    | tail name allowEmpty => exact absurd hname (by simp [Segment.name?])
  | @capture s name rest path value hname _ ih =>
    have hpart := s.decodeText_fill value
    exact hlater (ih (bare_mem_of_decodeText hpart hbare))

/-- What a path that is built from values has of their slashes and percent signs: up to the first
capture whose values keep their slashes it is divided by slashes as its literals are, and the percent
signs that start no escape are those of literals. -/
structure IsContained (segments : List Segment) (path : Text) : Prop where
  divided : ∃ front rest, path = front ++ rest ∧
    (front.splitOn '/').length = (((segments.takeWhile fun s => s.safe.isEmpty).flatMap
      StaticAlternative.literalOf).splitOn '/').length ∧
    ((∀ s ∈ segments, s.safe = []) → rest = [])
  percents : (∃ i, IsBareAt (Utf8.encode path) i) →
    ∃ text, .literal text ∈ segments ∧ ∃ i, IsBareAt (Utf8.encode text) i

theorem Filled.isContained (h : Filled segments path) : IsContained segments path where
  divided := by
    simp only [length_splitOn, Nat.add_right_cancel_iff]
    exact h.count_slash
  percents := by
    simp only [← bare_mem_pieces_iff]
    exact h.exists_literal

end Contained

/-- A value decodes from its encoded form, if no percent sign is declared safe. The form is written
with unreserved and safe characters and escapes, without a slash if none is safe, and so no value
brings a division or a bare percent sign into a path that is built with it. -/
theorem decodeText_encodeSparing (value : Text) {safe : List CodePoint} (hsafe : '%'.toNat ∉ safe) :
    decodeText (encodeSparing value safe) = .ok value ∧ IsEncoded safe (encodeSparing value safe) ∧
      ('/'.toNat ∉ safe → '/' ∉ encodeSparing value safe) ∧
      ∀ (r : Resource) (supply : Supply) (path : Text), r.build supply = .ok path →
        IsContained r.segments path :=
  ⟨decodeText_encode (sign_not_mem_asciiOf hsafe) value, isEncoded_encodeSparing value safe,
    (isEncoded_encodeSparing value safe).slash_not_mem,
    fun _ _ _ h => (Resource.filled_of_build h).isContained⟩

/-- A code point that is not of ASCII is not kept, though it is safe, and neither a slash nor an escape
that is given as a value gets into a path. -/
theorem decodeText_encodeSparing_ignored :
    '%'.toNat ∉ [0xE9, 0xD800, '+'.toNat] ∧
      encodeSparing "é/%2F+".toList [0xE9, 0xD800, '+'.toNat] = "%C3%A9%2F%252F+".toList ∧
      decodeText "%C3%A9%2F%252F+".toList = .ok "é/%2F+".toList ∧
      IsEncoded [0xE9, 0xD800, '+'.toNat] "%C3%A9%2F%252F+".toList ∧
      '/' ∉ "%C3%A9%2F%252F+".toList ∧
      ∃ r, Resource.ofPatterns .standard .exact none ["/u/{who}/{x:[^0-9]+}".toList] = .ok r ∧
        r.build (.positional [.text "a/b".toList, .text "%2F".toList]) =
          .ok "/u/a%2Fb/%252F".toList ∧
        IsContained r.segments "/u/a%2Fb/%252F".toList := by
  have hsafe : '%'.toNat ∉ [0xE9, 0xD800, '+'.toNat] := by decide
  have hencode : encodeSparing "é/%2F+".toList [0xE9, 0xD800, '+'.toNat] =
      "%C3%A9%2F%252F+".toList := by decide +kernel
  have hrun : ((Resource.ofPatterns .standard .exact none
      ["/u/{who}/{x:[^0-9]+}".toList]).toOption.map fun r =>
        (r.build (.positional [.text "a/b".toList, .text "%2F".toList])).toOption) =
      some (some "/u/a%2Fb/%252F".toList) := by decide +kernel
  obtain ⟨r, hr, hbuild⟩ := Option.map_eq_some_iff.1 hrun
  replace hbuild := eq_ok_of_toOption hbuild
  have hvalue := decodeText_encodeSparing "é/%2F+".toList hsafe
  rw [hencode] at hvalue
  obtain ⟨hdecode, hencoded, hslash, hcontained⟩ := hvalue
  exact ⟨hsafe, hencode, hdecode, hencoded, hslash (by decide), r, eq_ok_of_toOption hr, hbuild,
    hcontained r _ _ hbuild⟩

end PathRouter
