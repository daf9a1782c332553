import PathRouter.Text.Utf8

/-!
# Bytes that are UTF-8

Encoding a text and decoding its bytes gives the text back, and decoding is strict: bytes that are
decoded are the encoding of what they are decoded to. A byte of ASCII is a character by itself
wherever it stands, so such bytes may be exchanged for others without touching the encodings around
them.
-/

namespace PathRouter.Utf8
set_option autoImplicit false

/-- The bytes encode some text. -/
def IsUtf8 (x : Bytes) : Prop :=
  ∃ text, encode text = x

/-- All bytes are characters of ASCII. -/
def IsAscii (x : Bytes) : Prop :=
  ∀ b ∈ x, b.toNat < 128

variable {x y : Bytes} {text : Text} {c : Char}

/-! ## Encoding -/

@[simp] theorem encode_nil : encode [] = [] := rfl

theorem encode_cons (c : Char) (text : Text) : encode (c :: text) = encodeCode c.toNat ++ encode text :=
  rfl

@[simp] theorem encode_append (s t : Text) : encode (s ++ t) = encode s ++ encode t :=
  List.flatMap_append

theorem toNat_ofNat_small {n : Nat} (h : n < 256) : (UInt8.ofNat n).toNat = n := by
  rw [UInt8.toNat_ofNat']
  exact Nat.mod_eq_of_lt h

theorem toNat_continuation (n : Nat) : (continuation n).toNat = 0x80 + n % 64 :=
  toNat_ofNat_small (by omega)

@[simp] theorem isContinuation_continuation (n : Nat) : isContinuation (continuation n) = true := by
  rw [isContinuation, toNat_continuation, beq_iff_eq]
  omega

@[simp] theorem payload_continuation (n : Nat) : payload (continuation n) = n % 64 := by
  rw [payload, toNat_continuation]
  omega

theorem isValid (c : Char) : c.toNat < 0xD800 ∨ 0xDFFF < c.toNat ∧ c.toNat < 0x110000 :=
  c.valid

theorem encodeCode_ascii {n : Nat} (h : n < 0x80) : encodeCode n = [UInt8.ofNat n] :=
  if_pos h

theorem encodeCode_two {n : Nat} (h₁ : 0x80 ≤ n) (h₂ : n < 0x800) :
    encodeCode n = [UInt8.ofNat (0xC0 + n / 64), continuation n] := by
  rw [encodeCode, if_neg (Nat.not_lt.2 h₁), if_pos h₂]

theorem encodeCode_three {n : Nat} (h₂ : 0x800 ≤ n) (h₃ : n < 0x10000) :
    encodeCode n = [UInt8.ofNat (0xE0 + n / 4096), continuation (n / 64), continuation n] := by
  have h₁ : 0x80 ≤ n := by omega
  rw [encodeCode, if_neg (Nat.not_lt.2 h₁), if_neg (Nat.not_lt.2 h₂), if_pos h₃]

theorem encodeCode_four {n : Nat} (h₃ : 0x10000 ≤ n) :
    encodeCode n = [UInt8.ofNat (0xF0 + n / 262144), continuation (n / 4096), continuation (n / 64),
      continuation n] := by
  have h₁ : 0x80 ≤ n := by omega
  have h₂ : 0x800 ≤ n := by omega
  rw [encodeCode, if_neg (Nat.not_lt.2 h₁), if_neg (Nat.not_lt.2 h₂), if_neg (Nat.not_lt.2 h₃)]

/-- A character is one byte of ASCII or several bytes beyond it. -/
theorem encodeCode_cases (c : Char) :
    c.toNat < 128 ∧ encodeCode c.toNat = [UInt8.ofNat c.toNat] ∨
      128 ≤ c.toNat ∧ encodeCode c.toNat ≠ [] ∧ ∀ b ∈ encodeCode c.toNat, 128 ≤ b.toNat := by
  have hc := isValid c
  have hcontinuation (n : Nat) : 128 ≤ (continuation n).toNat := by
    rw [toNat_continuation]
    omega
  have hlead {n : Nat} (hleast : 128 ≤ n) (hmost : n < 256) : 128 ≤ (UInt8.ofNat n).toNat := by
    rwa [toNat_ofNat_small hmost]
  rcases Nat.lt_or_ge c.toNat 0x80 with h₁ | h₁
  · exact .inl ⟨h₁, encodeCode_ascii h₁⟩
  refine .inr ⟨h₁, ?_⟩
  rcases Nat.lt_or_ge c.toNat 0x800 with h₂ | h₂
  · rw [encodeCode_two h₁ h₂]
    exact ⟨by simp, by simpa [hcontinuation] using hlead (by omega) (by omega)⟩
  rcases Nat.lt_or_ge c.toNat 0x10000 with h₃ | h₃
  · rw [encodeCode_three h₂ h₃]
    exact ⟨by simp, by simpa [hcontinuation] using hlead (by omega) (by omega)⟩
  · rw [encodeCode_four h₃]
    exact ⟨by simp, by simpa [hcontinuation] using hlead (by omega) (by omega)⟩

/-- A byte of ASCII in an encoding is a character of the text. -/
theorem mem_of_mem_encode {b : UInt8} (hb : b.toNat < 128) (h : b ∈ encode text) :
    Char.ofNat b.toNat ∈ text := by
  obtain ⟨c, hc, hmem⟩ := List.mem_flatMap.1 h
  rcases encodeCode_cases c with ⟨hascii, hcode⟩ | ⟨-, -, hbeyond⟩
  · rw [hcode, List.mem_singleton] at hmem
    have hnat : b.toNat = c.toNat := by
      rw [hmem]
      exact toNat_ofNat_small (by omega)
    rwa [hnat, Char.ofNat_toNat]
  · have := hbeyond b hmem
    omega

theorem mem_encode_of_mem (hc : c.toNat < 128) (h : c ∈ text) : UInt8.ofNat c.toNat ∈ encode text := by
  apply List.mem_flatMap.2
  refine ⟨c, h, ?_⟩
  rw [encodeCode_ascii hc]
  exact List.mem_singleton_self _

theorem toNat_ofNat {n : Nat} (h : n < 0xD800 ∨ 0xDFFF < n ∧ n < 0x110000) :
    (Char.ofNat n).toNat = n := by
  rw [Char.ofNat, dif_pos h]
  rfl

/-- Bytes of ASCII are characters. -/
theorem encode_map_ofNat (h : IsAscii x) : encode (x.map fun b => Char.ofNat b.toNat) = x := by
  induction x with
  | nil => rfl
  | cons b x ih =>
    have hb : b.toNat < 128 := h b (List.mem_cons_self ..)
    have hx : IsAscii x := fun d hd => h d (List.mem_cons_of_mem _ hd)
    rw [List.map_cons, encode_cons, ih hx, toNat_ofNat (.inl (by omega)), encodeCode, if_pos hb,
      UInt8.ofNat_toNat]
    rfl

/-! ## Decoding -/

/-- The bytes of a character are read as the character. -/
theorem decode?_encodeCode (c : Char) (rest : Bytes) :
    decode? (encodeCode c.toNat ++ rest) = (decode? rest).map (c :: ·) := by
  have hc := isValid c
  have hof : Char.ofNat c.toNat = c := Char.ofNat_toNat c
  generalize c.toNat = n at hc hof ⊢
  subst hof
  rcases Nat.lt_or_ge n 0x80 with h₁ | h₁
  · have ha := toNat_ofNat_small (n := n) (by omega)
    rw [encodeCode_ascii h₁, List.singleton_append]
    rw [decode?.eq_def]
    simp only [ha, if_pos h₁]
  rcases Nat.lt_or_ge n 0x800 with h₂ | h₂
  · have ha := toNat_ofNat_small (n := 0xC0 + n / 64) (by omega)
    have hn : (0xC0 + n / 64 - 0xC0) * 64 + n % 64 = n := by omega
    have hpair : pair? (UInt8.ofNat (0xC0 + n / 64)) (continuation n) = some (Char.ofNat n) := by
      simp only [pair?, ha, payload_continuation, hn, isContinuation_continuation, Bool.true_and]
      exact if_pos (decide_eq_true (by omega))
    rw [encodeCode_two h₁ h₂, List.cons_append, List.singleton_append]
    rw [decode?.eq_def]
    dsimp only
    rw [ha, if_neg (by omega), if_neg (by omega)]
    rw [if_pos (by omega), hpair, Option.bind_some]
  rcases Nat.lt_or_ge n 0x10000 with h₃ | h₃
  · have ha := toNat_ofNat_small (n := 0xE0 + n / 4096) (by omega)
    have hn : (0xE0 + n / 4096 - 0xE0) * 4096 + n / 64 % 64 * 64 + n % 64 = n := by omega
    have hsur : CodePoint.isSurrogate n = false := by
      rcases hc with hc | ⟨hc, -⟩
      · simp [CodePoint.isSurrogate, Nat.not_le.2 hc]
      · simp [CodePoint.isSurrogate, Nat.not_le.2 hc]
    have htriple : triple? (UInt8.ofNat (0xE0 + n / 4096)) (continuation (n / 64))
        (continuation n) = some (Char.ofNat n) := by
      simp only [triple?, ha, payload_continuation, hn, isContinuation_continuation,
        Bool.true_and, hsur]
      exact if_pos (by simpa using h₂)
    rw [encodeCode_three h₂ h₃, List.cons_append, List.cons_append, List.singleton_append]
    rw [decode?.eq_def]
    dsimp only
    rw [ha, if_neg (by omega), if_neg (by omega)]
    rw [if_neg (by omega), if_pos (by omega), htriple, Option.bind_some]
  · have ha := toNat_ofNat_small (n := 0xF0 + n / 262144) (by omega)
    have hn : (0xF0 + n / 262144 - 0xF0) * 262144 + n / 4096 % 64 * 4096 + n / 64 % 64 * 64 +
        n % 64 = n := by omega
    have hquadruple : quadruple? (UInt8.ofNat (0xF0 + n / 262144)) (continuation (n / 4096))
        (continuation (n / 64)) (continuation n) = some (Char.ofNat n) := by
      simp only [quadruple?, ha, payload_continuation, hn, isContinuation_continuation,
        Bool.true_and]
      exact if_pos (by simp; omega)
    rw [encodeCode_four h₃]
    simp only [List.cons_append, List.nil_append]
    rw [decode?.eq_def]
    dsimp only
    rw [ha, if_neg (by omega), if_neg (by omega)]
    rw [if_neg (by omega), if_neg (by omega), if_pos (by omega), hquadruple, Option.bind_some]

/-- Decoding gives an encoded text back. -/
theorem decode?_encode (text : Text) : decode? (encode text) = some text := by
  induction text with
  | nil => rfl
  | cons c text ih =>
    have hcons : encode (c :: text) = encodeCode c.toNat ++ encode text := rfl
    rw [hcons, decode?_encodeCode, ih]
    rfl

theorem decode?_encode_append (text : Text) (y : Bytes) :
    decode? (encode text ++ y) = (decode? y).map (text ++ ·) := by
  induction text with
  | nil => simp
  | cons c text ih =>
    rw [encode_cons, List.append_assoc, decode?_encodeCode, ih, Option.map_map]
    rfl

theorem continuation_eq {b : UInt8} {n : Nat} (hb : isContinuation b = true)
    (hn : n % 64 = payload b) : continuation n = b := by
  apply UInt8.toNat_inj.1
  rw [toNat_continuation, hn]
  simp only [isContinuation, beq_iff_eq] at hb
  rw [payload]
  omega

theorem ofNat_eq {b : UInt8} {n : Nat} (h : n = b.toNat) : UInt8.ofNat n = b := by
  rw [h, UInt8.ofNat_toNat]

theorem encodeCode_pair {a b : UInt8} (hleast : 0xC0 ≤ a.toNat) (hmost : a.toNat < 0xE0)
    (h : pair? a b = some c) : encodeCode c.toNat = [a, b] := by
  simp only [pair?, Option.ite_none_right_eq_some, Option.some.injEq, Bool.and_eq_true,
    decide_eq_true_eq] at h
  obtain ⟨⟨hb, hlow⟩, rfl⟩ := h
  have hpayload : payload b < 64 := Nat.mod_lt _ (by decide)
  generalize hn : (a.toNat - 0xC0) * 64 + payload b = n at hlow ⊢
  have hhigh : n < 0x800 := by omega
  rw [toNat_ofNat (.inl (by omega)), encodeCode_two hlow hhigh, ofNat_eq (b := a) (by omega),
    continuation_eq hb (by omega)]

theorem encodeCode_triple {a b d : UInt8} (hleast : 0xE0 ≤ a.toNat) (hmost : a.toNat < 0xF0)
    (h : triple? a b d = some c) : encodeCode c.toNat = [a, b, d] := by
  simp only [triple?, Option.ite_none_right_eq_some, Option.some.injEq, Bool.and_eq_true,
    decide_eq_true_eq, Bool.not_eq_true', CodePoint.isSurrogate, Bool.and_eq_false_iff,
    decide_eq_false_iff_not] at h
  obtain ⟨⟨⟨⟨hb, hd⟩, hlow⟩, hvalid⟩, rfl⟩ := h
  have hpayloadb : payload b < 64 := Nat.mod_lt _ (by decide)
  have hpayloadd : payload d < 64 := Nat.mod_lt _ (by decide)
  generalize hn : (a.toNat - 0xE0) * 4096 + payload b * 64 + payload d = n at hlow hvalid ⊢
  have hhigh : n < 0x10000 := by omega
  replace hvalid : ¬0xD800 ≤ n ∨ ¬n ≤ 0xDFFF := hvalid
  rw [toNat_ofNat (by omega), encodeCode_three hlow hhigh, ofNat_eq (b := a) (by omega),
    continuation_eq hb (by omega), continuation_eq hd (by omega)]

theorem encodeCode_quadruple {a b d e : UInt8} (hleast : 0xF0 ≤ a.toNat)
    (h : quadruple? a b d e = some c) : encodeCode c.toNat = [a, b, d, e] := by
  simp only [quadruple?, Option.ite_none_right_eq_some, Option.some.injEq, Bool.and_eq_true,
    decide_eq_true_eq] at h
  obtain ⟨⟨⟨⟨⟨hb, hd⟩, he⟩, hlow⟩, hhigh⟩, rfl⟩ := h
  have hpayloadb : payload b < 64 := Nat.mod_lt _ (by decide)
  have hpayloadd : payload d < 64 := Nat.mod_lt _ (by decide)
  have hpayloade : payload e < 64 := Nat.mod_lt _ (by decide)
  generalize hn : (a.toNat - 0xF0) * 262144 + payload b * 4096 + payload d * 64 + payload e = n
    at hlow hhigh ⊢
  rw [toNat_ofNat (by omega), encodeCode_four hlow, ofNat_eq (b := a) (by omega),
    continuation_eq hb (by omega), continuation_eq hd (by omega), continuation_eq he (by omega)]

/-- One character and what is decoded after it. -/
theorem encode_of_bind {x rest : Bytes} {found : Option Char} {decoded : Option Text}
    (hfound : ∀ c, found = some c → encodeCode c.toNat = x)
    (hdecoded : ∀ t, decoded = some t → encode t = rest)
    (h : (found.bind fun c => decoded.map (c :: ·)) = some text) : encode text = x ++ rest := by
  obtain ⟨c, hc, h⟩ := Option.bind_eq_some_iff.1 h
  obtain ⟨t, ht, rfl⟩ := Option.map_eq_some_iff.1 h
  rw [encode_cons, hfound c hc, hdecoded t ht]

/-- Bytes that are decoded are the encoding of the text. -/
theorem encode_of_decode? (h : decode? x = some text) : encode text = x := by
  fun_induction decode? x generalizing text with
  | case1 =>
    obtain rfl := Option.some.inj h
    rfl
  | case2 a rest ha ih =>
    obtain ⟨t, ht, rfl⟩ := Option.map_eq_some_iff.1 h
    rw [encode_cons, ih ht, toNat_ofNat (.inl (by omega)), encodeCode, if_pos ha, UInt8.ofNat_toNat]
    rfl
  | case3 => exact absurd h (by simp)
  | case4 => exact absurd h (by simp)
  | case5 a _ hleast b rest hmost ih =>
    exact encode_of_bind (fun _ => encodeCode_pair (by omega) hmost) (fun _ => ih) h
  | case6 => exact absurd h (by simp)
  | case7 a _ _ b hleast d rest hmost ih =>
    exact encode_of_bind (fun _ => encodeCode_triple (by omega) hmost) (fun _ => ih) h
  | case8 => exact absurd h (by simp)
  | case9 a _ _ b _ d hleast e rest _ ih =>
    exact encode_of_bind (fun _ => encodeCode_quadruple (by omega)) (fun _ => ih) h
  | case10 => exact absurd h (by simp)

theorem decode?_eq_some_iff : decode? x = some text ↔ encode text = x := by
  constructor
  · exact encode_of_decode?
  · rintro rfl
    exact decode?_encode text

/-- Texts with the same bytes are the same. -/
theorem encode_injective {s t : Text} (h : encode s = encode t) : s = t := by
  have hdecoded := decode?_eq_some_iff.2 h
  rw [decode?_encode] at hdecoded
  exact (Option.some.inj hdecoded).symm

@[simp] theorem encode_eq_nil_iff : encode text = [] ↔ text = [] := by
  constructor
  · exact fun h => encode_injective h
  · rintro rfl
    rfl

theorem decode?_eq_none_iff : decode? x = none ↔ ¬IsUtf8 x := by
  simp only [Option.eq_none_iff_forall_ne_some, ne_eq, decode?_eq_some_iff, IsUtf8, not_exists]

/-! ## Exchanging bytes of ASCII -/

theorem isUtf8_encode (text : Text) : IsUtf8 (encode text) :=
  ⟨text, rfl⟩

theorem IsAscii.isUtf8 (h : IsAscii x) : IsUtf8 x :=
  ⟨_, encode_map_ofNat h⟩

theorem IsUtf8.append (hx : IsUtf8 x) (hy : IsUtf8 y) : IsUtf8 (x ++ y) := by
  obtain ⟨s, rfl⟩ := hx
  obtain ⟨t, rfl⟩ := hy
  exact ⟨s ++ t, encode_append s t⟩

/-- What follows a text is a text if the whole is. -/
theorem IsUtf8.of_append (hx : IsUtf8 x) (h : IsUtf8 (x ++ y)) : IsUtf8 y := by
  obtain ⟨s, rfl⟩ := hx
  obtain ⟨t, ht⟩ := h
  have hdecoded := decode?_eq_some_iff.2 ht
  rw [decode?_encode_append] at hdecoded
  obtain ⟨rest, hrest, -⟩ := Option.map_eq_some_iff.1 hdecoded
  exact ⟨rest, decode?_eq_some_iff.1 hrest⟩

/-- No character goes across a byte of ASCII. -/
theorem IsUtf8.split {b : UInt8} (hb : b.toNat < 128) (h : IsUtf8 (x ++ b :: y)) :
    IsUtf8 x ∧ IsUtf8 y := by
  obtain ⟨text, htext⟩ := h
  induction text generalizing x with
  | nil => simp at htext
  | cons c text ih =>
    rw [encode_cons] at htext
    rcases List.append_eq_append_iff.1 htext with ⟨x', rfl, hrest⟩ | ⟨x', hcode, hrest⟩
    · obtain ⟨hx', hy⟩ := ih hrest
      refine ⟨?_, hy⟩
      have hc : IsUtf8 (encodeCode c.toNat) := ⟨[c], by simp [encode_cons]⟩
      exact hc.append hx'
    · cases x' with
      | nil =>
        simp only [List.append_nil] at hcode
        refine ⟨⟨[c], by simp [encode_cons, hcode]⟩, ?_⟩
        obtain ⟨-, hy⟩ := ih (x := []) hrest.symm
        exact hy
      | cons d x' =>
        obtain ⟨rfl, rfl⟩ := List.cons.inj hrest
        rcases encodeCode_cases c with ⟨-, hsingle⟩ | ⟨-, -, hbeyond⟩
        · rw [hsingle] at hcode
          obtain ⟨rfl, rfl⟩ : x = [] ∧ x' = [] := by
            cases x with
            | nil => exact ⟨rfl, (List.cons.inj hcode).2.symm⟩
            | cons e x => simp at hcode
          exact ⟨⟨[], rfl⟩, ⟨text, rfl⟩⟩
        · have := hbeyond b (by simp [hcode])
          omega

/-- Where bytes of ASCII are exchanged for others, a text remains a text. -/
theorem IsUtf8.exchange {α : Type} {f g : α → Bytes} {xs : List α}
    (hfg : ∀ a ∈ xs, f a = g a ∨ (IsAscii (f a) ∧ f a ≠ []) ∧ IsAscii (g a))
    (h : IsUtf8 (xs.flatMap f)) : IsUtf8 (xs.flatMap g) := by
  -- the bytes before the next exchange need not be a text by themselves
  have hfront : ∀ front, IsUtf8 (front ++ xs.flatMap f) → IsUtf8 (front ++ xs.flatMap g) := by
    clear h
    induction xs with
    | nil => exact fun _ h => h
    | cons a xs ih =>
      rw [List.forall_mem_cons] at hfg
      intro front h
      rw [List.flatMap_cons] at h ⊢
      rcases hfg.1 with he | ⟨⟨hascii, hne⟩, hascii'⟩
      · rw [← he, ← List.append_assoc]
        apply ih hfg.2
        rwa [List.append_assoc]
      · obtain ⟨b, u, hu⟩ := List.exists_cons_of_ne_nil hne
        rw [hu] at hascii h
        have hb : b.toNat < 128 := hascii b (List.mem_cons_self ..)
        have hrest : IsAscii u := fun d hd => hascii d (List.mem_cons_of_mem _ hd)
        obtain ⟨hbefore, hafter⟩ := IsUtf8.split hb h
        have hmore : IsUtf8 ([] ++ xs.flatMap g) := ih hfg.2 [] (hrest.isUtf8.of_append hafter)
        exact hbefore.append (hascii'.isUtf8.append hmore)
  exact hfront [] h

end PathRouter.Utf8
