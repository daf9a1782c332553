import PathRouter.Proofs.GuardScan

/-!
# Quantifiers as the guard sees them

The guard takes the quantifiers that the reader takes for just as many copies, and ends them where
the reader does. It takes digits of any script for digits, so now and then it sees a quantifier
where the reader sees a brace that stands for itself.
-/

namespace PathRouter.Guard
set_option autoImplicit false

open Regex

variable {c : Char} {s t : Text}

/-! ## Counts -/

theorem isDecimal_of_isDigit (h : Regex.isDigit c = true) : CodePoint.isDecimal c.toNat = true := by
  have hle : c.toNat ≤ 57 := by
    simp only [Regex.isDigit, CodePoint.isAsciiDigit, Bool.and_eq_true, decide_eq_true_eq] at h
    exact h.2
  rw [CodePoint.isDecimal, if_pos (Nat.lt_of_le_of_lt hle (by decide))]
  exact h

theorem decimalValue?_of_isDigit (h : Regex.isDigit c = true) :
    (CodePoint.decimalValue? c.toNat).getD 0 = digitValue c := by
  have hle : c.toNat ≤ 57 := by
    simp only [Regex.isDigit, CodePoint.isAsciiDigit, Bool.and_eq_true, decide_eq_true_eq] at h
    exact h.2
  have hlt : c.toNat < 58 := Nat.lt_succ_of_le hle
  have hascii : CodePoint.isAsciiDigit c.toNat = true := h
  rw [CodePoint.decimalValue?, if_pos hascii, Option.getD_some, digitValue]
  exact (if_pos hlt).symm

/-- The guard and the reader count the same. -/
theorem foldl_eq_valueOf {digits : Text} (h : ∀ c ∈ digits, Regex.isDigit c = true) (high : Nat) :
    digits.foldl (fun n c => n * 10 + (CodePoint.decimalValue? c.toNat).getD 0) high =
      valueOf 10 digitValue high digits := by
  induction digits generalizing high with
  | nil => rfl
  | cons c digits ih =>
    rw [List.forall_mem_cons] at h
    rw [List.foldl_cons, valueOf, decimalValue?_of_isDigit h.1, ih h.2]

theorem countOf_eq_ok {digits : Text} {n : Nat} (h : ∀ c ∈ digits, Regex.isDigit c = true)
    (hn : countOf digits = .ok n) : n = valueOf 10 digitValue 0 digits := by
  unfold countOf at hn
  split at hn
  · exact absurd hn (by simp)
  · rw [← foldl_eq_valueOf h]
    exact (Except.ok.inj hn).symm

theorem readCount_eq_ok {digits : Text} {n : Nat} (h : readCount digits = .ok n) :
    n = valueOf 10 digitValue 0 digits := by
  unfold readCount at h
  dsimp only at h
  split at h
  · exact absurd h (by simp)
  · split at h
    · exact absurd h (by simp)
    · exact (Except.ok.inj h).symm

/-- The bounds leave room for no more copies than the guard thinks. -/
structure AtMost (b : Bounds) (repetition : Repetition) : Prop where
  unbounded : b.most = none → repetition = .unbounded
  optional : repetition.isRepeated = false → ∃ n, n ≤ 1 ∧ b.most = some n

/-- The upper bound is the second numeral, if there is one. -/
theorem boundsOf_eq_ok {low high : Text} {place : Nat} {b : Bounds}
    (h : boundsOf low high place = .ok b) :
    high = [] ∧ b.most = none ∨ high ≠ [] ∧ ∃ n, readCount high = .ok n ∧ b.most = some n := by
  by_cases hhigh : high = []
  · refine .inl ⟨hhigh, ?_⟩
    unfold boundsOf at h
    simp only [hhigh, if_true] at h
    split at h
    · rw [← Except.ok.inj h]
    · obtain ⟨least, -, h⟩ := bind_eq_ok_iff.1 h
      rw [← Except.ok.inj h]
  · refine .inr ⟨hhigh, ?_⟩
    have hmost {least : Nat} (h : (do
        let most ← readCount high
        if most < least then fault .reversedBounds place
        else (return ⟨least, some most⟩ : Except Fault Bounds)) = .ok b) :
        ∃ n, readCount high = .ok n ∧ b.most = some n := by
      obtain ⟨n, hn, h⟩ := bind_eq_ok_iff.1 h
      split at h
      · exact absurd h fault_ne_ok
      · exact ⟨n, hn, by rw [← Except.ok.inj h]⟩
    unfold boundsOf at h
    simp only [hhigh, if_false] at h
    split at h
    · exact hmost h
    · obtain ⟨least, -, h⟩ := bind_eq_ok_iff.1 h
      exact hmost h

theorem AtMost.ofCount {low high : Text} {place n : Nat} {b : Bounds}
    (hdigits : ∀ c ∈ high, Regex.isDigit c = true) (hne : high ≠ []) (hn : countOf high = .ok n)
    (hb : boundsOf low high place = .ok b) : AtMost b (Guard.ofCount n) := by
  obtain ⟨hnil, -⟩ | ⟨-, m, hm, hmost⟩ := boundsOf_eq_ok hb
  · exact absurd hnil hne
  · obtain rfl : m = n := (readCount_eq_ok hm).trans (countOf_eq_ok hdigits hn).symm
    refine ⟨fun he => absurd (hmost.symm.trans he) (by simp), fun hrepeated => ⟨m, ?_, hmost⟩⟩
    unfold Guard.ofCount at hrepeated
    split at hrepeated
    · exact absurd hrepeated (by simp [Repetition.isRepeated])
    · omega

theorem AtMost.unlimited (b : Bounds) : AtMost b .unbounded :=
  ⟨fun _ => rfl, fun h => absurd h (by simp [Repetition.isRepeated])⟩

/-! ## Braces -/

/-- Digits that are followed by none are taken as a whole. -/
theorem spanDigits_append {digits rest : Text} (h : ∀ c ∈ digits, Regex.isDigit c = true)
    (hrest : ∀ c, rest.head? = some c → CodePoint.isDecimal c.toNat = false) :
    spanDigits (digits ++ rest) = (digits, rest) := by
  have hdecimal : ∀ c ∈ digits, CodePoint.isDecimal c.toNat = true := fun c hc =>
    isDecimal_of_isDigit (h c hc)
  have hnone : rest.takeWhile (fun c => CodePoint.isDecimal c.toNat) = [] ∧
      rest.dropWhile (fun c => CodePoint.isDecimal c.toNat) = rest := by
    cases rest with
    | nil => exact ⟨rfl, rfl⟩
    | cons c rest => simp [hrest c rfl]
  rw [spanDigits, List.takeWhile_append_of_pos hdecimal, List.dropWhile_append_of_pos hdecimal,
    hnone.1, hnone.2, List.append_nil]

theorem isDecimal_punctuation : ∀ c ∈ [',', '\x7d'], CodePoint.isDecimal c.toNat = false :=
  Regex.forall_eq_false (by decide)

theorem braces?_single {low rest : Text} (h : spanDigits s = (low, '\x7d' :: rest)) :
    braces? s = if low = [] then .ok none
      else do
        let n ← countOf low
        return some (Guard.ofCount n, rest) := by
  simp only [braces?, h]

theorem braces?_pair {low high rest : Text} (h : spanDigits s = (low, ',' :: t))
    (ht : spanDigits t = (high, '\x7d' :: rest)) :
    braces? s = if high = [] then .ok (some (.unbounded, rest))
      else do
        let n ← countOf high
        return some (Guard.ofCount n, rest) := by
  simp only [braces?, h, ht]

/-- Braces that the reader takes for bounds are the same to the guard. -/
theorem braces?_agrees {b : Bounds} {found : Option (Repetition × Text)}
    (h : readBraces s = .ok (some b, t)) (hfound : braces? s = .ok found) :
    ∃ repetition, found = some (repetition, t) ∧ AtMost b repetition := by
  unfold readBraces at h
  split at h
  · exact absurd (Prod.mk.inj (Except.ok.inj h)).1 (by simp)
  · rename_i hhead
    obtain ⟨⟨low, r⟩, hlow, h⟩ := bind_eq_ok_iff.1 h
    obtain ⟨⟨high, r'⟩, hhigh, h⟩ := bind_eq_ok_iff.1 h
    obtain ⟨rfl, hlowdigits⟩ := readWhile_used hlow
    dsimp only at h hhigh
    split at h
    · rename_i rest
      obtain ⟨⟨⟩, -, h⟩ := bind_eq_ok_iff.1 h
      obtain ⟨b', hb, h⟩ := bind_eq_ok_iff.1 h
      obtain ⟨he, rfl⟩ := Prod.mk.inj (Except.ok.inj h)
      obtain rfl := Option.some.inj he
      have hend {u : Text} (d : Char) (hd : d ∈ [',', '\x7d']) :
          ∀ c, (d :: u).head? = some c → CodePoint.isDecimal c.toNat = false := by
        intro c hc
        obtain rfl := Option.some.inj hc
        exact isDecimal_punctuation d hd
      unfold readBraces.readHigh at hhigh
      split at hhigh
      · rename_i r
        obtain ⟨⟨⟩, -, hhigh⟩ := bind_eq_ok_iff.1 hhigh
        obtain ⟨rfl, hhighdigits⟩ := readWhile_used hhigh
        rw [braces?_pair (spanDigits_append hlowdigits (hend ',' (by simp)))
          (spanDigits_append hhighdigits (hend '\x7d' (by simp)))] at hfound
        split at hfound
        · obtain rfl := Except.ok.inj hfound
          exact ⟨_, rfl, .unlimited _⟩
        · rename_i hne
          obtain ⟨n, hn, rfl⟩ := counted_eq_ok hfound
          exact ⟨_, rfl, .ofCount hhighdigits hne hn hb⟩
      · obtain ⟨rfl, rfl⟩ := Prod.mk.inj (Except.ok.inj hhigh)
        have hne : low ≠ [] := by
          rintro rfl
          exact hhead rfl
        rw [braces?_single (spanDigits_append hlowdigits (hend '\x7d' (by simp))),
          if_neg hne] at hfound
        obtain ⟨n, hn, rfl⟩ := counted_eq_ok hfound
        exact ⟨_, rfl, .ofCount hlowdigits hne hn hb⟩
    · exact absurd (Prod.mk.inj (Except.ok.inj h)).1 (by simp)

/-! ## Quantifiers -/

/-- What the reader takes for bounds, by the character that begins them. -/
theorem readBounds_cases {found : Option Bounds} {rest : Text} (hc : isQuantifierStart c = true)
    (h : readBounds c s = .ok (found, rest)) :
    (c = '*' ∨ c = '+') ∧ rest = s ∧ (∃ least, found = some ⟨least, none⟩) ∨
      c = '?' ∧ rest = s ∧ found = some ⟨0, some 1⟩ ∨
      c = '\x7b' ∧ readBraces s = .ok (found, rest) := by
  unfold readBounds at h
  split at h
  · rename_i hstar
    obtain ⟨rfl, rfl⟩ := Prod.mk.inj (Except.ok.inj h)
    exact .inl ⟨.inl hstar, rfl, 0, rfl⟩
  · rename_i hstar
    split at h
    · rename_i hplus
      obtain ⟨rfl, rfl⟩ := Prod.mk.inj (Except.ok.inj h)
      exact .inl ⟨.inr hplus, rfl, 1, rfl⟩
    · rename_i hplus
      split at h
      · rename_i hmark
        obtain ⟨rfl, rfl⟩ := Prod.mk.inj (Except.ok.inj h)
        exact .inr (.inl ⟨hmark, rfl, rfl⟩)
      · rename_i hmark
        refine .inr (.inr ⟨?_, h⟩)
        simpa [isQuantifierStart, hstar, hplus, hmark] using hc

/-- The guard drops what the reader takes for the mode. -/
theorem dropSuffix_eq_of_readMode {mode : Mode} {after rest : Text}
    (h : readMode after = .ok (mode, rest)) : dropSuffix after = rest := by
  unfold readMode at h
  unfold dropSuffix skipOne
  split at h
  · obtain ⟨⟨⟩, -, h⟩ := bind_eq_ok_iff.1 h
    obtain ⟨-, rfl⟩ := Prod.mk.inj (Except.ok.inj h)
    rfl
  · obtain ⟨⟨⟩, -, h⟩ := bind_eq_ok_iff.1 h
    obtain ⟨-, rfl⟩ := Prod.mk.inj (Except.ok.inj h)
    rfl
  · rename_i hlazy hpossessive
    obtain ⟨-, rfl⟩ := Prod.mk.inj (Except.ok.inj h)
    split
    · rfl
    · rename_i d r
      rw [if_neg]
      simp only [List.mem_cons, List.not_mem_nil, or_false, not_or]
      exact ⟨fun he => hlazy r (he ▸ rfl), fun he => hpossessive r (he ▸ rfl)⟩

/-- A quantifier that the reader takes ends at the same place for the guard, and allows no more
copies than the guard thinks. -/
theorem quantifier?_agrees {rest after : Text} {b : Bounds} {mode : Mode}
    {found : Option (Repetition × Text)} (hc : isQuantifierStart c = true)
    (hb : readBounds c s = .ok (some b, after)) (hmode : readMode after = .ok (mode, rest))
    (hfound : quantifier? (c :: s) = .ok found) :
    ∃ repetition, found = some (repetition, rest) ∧ AtMost b repetition := by
  have hsuffix : dropSuffix after = rest := dropSuffix_eq_of_readMode hmode
  rw [quantifier?] at hfound
  rcases readBounds_cases hc hb with ⟨hstar, rfl, least, he⟩ | ⟨rfl, rfl, he⟩ | ⟨rfl, hbraces⟩
  · rw [if_pos hstar, hsuffix] at hfound
    exact ⟨_, (Except.ok.inj hfound).symm, .unlimited b⟩
  · rw [if_neg (by decide), if_pos rfl, hsuffix] at hfound
    obtain rfl := Option.some.inj he
    exact ⟨_, (Except.ok.inj hfound).symm, ⟨by simp, fun _ => ⟨1, Nat.le_refl _, rfl⟩⟩⟩
  · rw [if_neg (by decide), if_neg (by decide), if_pos rfl] at hfound
    cases hseen : braces? s with
    | error e =>
      rw [hseen] at hfound
      exact absurd hfound (by simp [bind, Except.bind])
    | ok found' =>
      rw [hseen] at hfound
      obtain ⟨repetition, rfl, hmost⟩ := braces?_agrees hbraces hseen
      obtain rfl := Except.ok.inj hfound
      exact ⟨repetition, by rw [← hsuffix]; rfl, hmost⟩

/-- A brace that stands for itself is all that is read. -/
theorem eq_of_readBraces_none {rest : Text} (h : readBraces s = .ok (none, rest)) : rest = s := by
  unfold readBraces at h
  split at h
  · exact (Prod.mk.inj (Except.ok.inj h)).2.symm
  · obtain ⟨⟨low, r⟩, -, h⟩ := bind_eq_ok_iff.1 h
    obtain ⟨⟨high, r'⟩, -, h⟩ := bind_eq_ok_iff.1 h
    dsimp only at h
    split at h
    · obtain ⟨⟨⟩, -, h⟩ := bind_eq_ok_iff.1 h
      obtain ⟨b, -, h⟩ := bind_eq_ok_iff.1 h
      exact absurd (Prod.mk.inj (Except.ok.inj h)).1 (by simp)
    · exact (Prod.mk.inj (Except.ok.inj h)).2.symm

end PathRouter.Guard
