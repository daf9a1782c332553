import PathRouter.Proofs.ClassReading

/-!
# What a step of the reader can do

The constructs of an expression one by one, each with what it is read as. A proof about the reader
goes through these cases and need not look at how the reader finds out which of them it is.
-/

namespace PathRouter.Regex
set_option autoImplicit false

section Escapes

variable {s : Text}

theorem readNumbered_cases {env : Surroundings} {c : Char} {rest : Text} {node : Node}
    (h : readNumbered env c s = .ok (node, rest)) : (∃ a, node = .anchor a) ∨
      (∃ g, node = .backreference g) ∨ (∃ code, node = .ofCode code) ∨
      ∃ m, categoryMember? c = some m ∧ node = .char (.set false [m]) := by
  obtain ⟨⟨second, r⟩, -, h⟩ := bind_eq_ok_iff.1 h
  obtain ⟨⟨third, r'⟩, -, h⟩ := bind_eq_ok_iff.1 h
  dsimp only at h
  split at h
  · split at h
    · exact absurd h fault_ne_ok
    · obtain ⟨rfl, -⟩ := Prod.mk.inj (Except.ok.inj h)
      exact .inr (.inr (.inl ⟨_, rfl⟩))
  · obtain ⟨reference, href, h⟩ := bind_eq_ok_iff.1 h
    obtain ⟨rfl, -⟩ := Prod.mk.inj (Except.ok.inj h)
    exact .inr (.inl ⟨_, referenceTo_eq href⟩)

/-- The kinds of trees that escapes become. -/
theorem readEscape_cases {env : Surroundings} {c : Char} {rest : Text} {node : Node}
    (h : readEscape env c s = .ok (node, rest)) : (∃ a, node = .anchor a) ∨
      (∃ g, node = .backreference g) ∨ (∃ code, node = .ofCode code) ∨
      ∃ m, categoryMember? c = some m ∧ node = .char (.set false [m]) := by
  unfold readEscape at h
  split at h
  · obtain ⟨rfl, -⟩ := Prod.mk.inj (Except.ok.inj h)
    exact .inl ⟨_, rfl⟩
  · obtain ⟨rfl, -⟩ := Prod.mk.inj (Except.ok.inj h)
    rename_i hm
    exact .inr (.inr (.inr ⟨_, hm, rfl⟩))
  · obtain ⟨rfl, -⟩ := Prod.mk.inj (Except.ok.inj h)
    exact .inr (.inr (.inl ⟨_, rfl⟩))
  · obtain ⟨⟨code, r⟩, -, h⟩ := bind_eq_ok_iff.1 h
    obtain ⟨rfl, -⟩ := Prod.mk.inj (Except.ok.inj h)
    exact .inr (.inr (.inl ⟨code, rfl⟩))
  · split at h
    · obtain ⟨⟨code, r⟩, -, h⟩ := bind_eq_ok_iff.1 h
      obtain ⟨rfl, -⟩ := Prod.mk.inj (Except.ok.inj h)
      exact .inr (.inr (.inl ⟨code, rfl⟩))
    · split at h
      · obtain ⟨⟨digits, r⟩, -, h⟩ := bind_eq_ok_iff.1 h
        obtain ⟨rfl, -⟩ := Prod.mk.inj (Except.ok.inj h)
        exact .inr (.inr (.inl ⟨_, rfl⟩))
      · split at h
        · exact readNumbered_cases h
        · split at h
          · exact absurd h fault_ne_ok
          · obtain ⟨rfl, -⟩ := Prod.mk.inj (Except.ok.inj h)
            exact .inr (.inr (.inl ⟨_, rfl⟩))

/-- A reference is written with a digit. -/
theorem isDigit_of_backreference {env : Surroundings} {c : Char} {rest : Text} {g : Nat}
    (h : readEscape env c s = .ok (.backreference g, rest)) : isDigit c = true ∧ c ≠ '0' := by
  unfold readEscape at h
  split at h
  · exact absurd (Prod.mk.inj (Except.ok.inj h)).1 (by simp)
  · exact absurd (Prod.mk.inj (Except.ok.inj h)).1 (by simp)
  · exact absurd (Prod.mk.inj (Except.ok.inj h)).1 (by simp [Node.ofCode])
  · obtain ⟨⟨code, r⟩, -, h⟩ := bind_eq_ok_iff.1 h
    exact absurd (Prod.mk.inj (Except.ok.inj h)).1 (by simp [Node.ofCode])
  · split at h
    · obtain ⟨⟨code, r⟩, -, h⟩ := bind_eq_ok_iff.1 h
      exact absurd (Prod.mk.inj (Except.ok.inj h)).1 (by simp [Node.ofCode])
    · split at h
      · obtain ⟨⟨digits, r⟩, -, h⟩ := bind_eq_ok_iff.1 h
        exact absurd (Prod.mk.inj (Except.ok.inj h)).1 (by simp [Node.ofCode])
      · split at h
        · exact ⟨‹_›, ‹_›⟩
        · split at h
          · exact absurd h fault_ne_ok
          · exact absurd (Prod.mk.inj (Except.ok.inj h)).1 (by simp [Node.ofCode])

/-- What an escape uses up after its letter, unless it is a reference. -/
theorem readEscape_used {env : Surroundings} {c : Char} {rest : Text} {node : Node}
    (h : readEscape env c s = .ok (node, rest)) (hnumber : ¬(isDigit c = true ∧ c ≠ '0')) :
    ∃ used, s = used ++ rest ∧ EscapeTail used := by
  unfold readEscape at h
  split at h
  · obtain ⟨-, rfl⟩ := Prod.mk.inj (Except.ok.inj h)
    exact ⟨[], rfl, .nil⟩
  · obtain ⟨-, rfl⟩ := Prod.mk.inj (Except.ok.inj h)
    exact ⟨[], rfl, .nil⟩
  · obtain ⟨-, rfl⟩ := Prod.mk.inj (Except.ok.inj h)
    exact ⟨[], rfl, .nil⟩
  · obtain ⟨⟨code, r⟩, hcode, h⟩ := bind_eq_ok_iff.1 h
    obtain ⟨-, rfl⟩ := Prod.mk.inj (Except.ok.inj h)
    exact readHex_used hcode
  · split at h
    · obtain ⟨⟨code, r⟩, hcode, h⟩ := bind_eq_ok_iff.1 h
      obtain ⟨-, rfl⟩ := Prod.mk.inj (Except.ok.inj h)
      exact readNamed_used hcode
    · split at h
      · obtain ⟨⟨digits, r⟩, hdigits, h⟩ := bind_eq_ok_iff.1 h
        obtain ⟨-, rfl⟩ := Prod.mk.inj (Except.ok.inj h)
        obtain ⟨hs, hall⟩ := readWhile_used hdigits
        exact ⟨digits, hs, .octal hall⟩
      · split at h
        · exact absurd ⟨‹_›, ‹_›⟩ hnumber
        · split at h
          · exact absurd h fault_ne_ok
          · obtain ⟨-, rfl⟩ := Prod.mk.inj (Except.ok.inj h)
            exact ⟨[], rfl, .nil⟩

end Escapes

/-! ## Constructs -/

/-- A construct at the start of a text, with what has been read and what is left after it. -/
inductive Construct (p : Progress) : Text → Progress → Text → Prop
  /-- A backslash that ends the text; it is refused before the reader gets there. -/
  | backslash : Construct p ['\\'] (p.add (.ofCode 92)) []
  | escape {c : Char} {s rest : Text} {n : Node} : readEscape p.surroundings c s = .ok (n, rest) →
      Construct p ('\\' :: c :: s) (p.add n) rest
  | bar {q : Progress} {s : Text} : p.nextAlternative (s.length + 1) = .ok q →
      Construct p ('|' :: s) q s
  | close {f : Frame} {fs : List Frame} {s : Text} : p.outer = f :: fs →
      Construct p (')' :: s) (p.leave f fs) s
  | blank {c : Char} {s : Text} : p.frame.verbose = true → CodePoint.isAsciiBlank c.toNat = true →
      Construct p (c :: s) p s
  | line {s rest : Text} : p.frame.verbose = true → s ≠ ['\\'] → readLine s = .ok rest →
      Construct p ('#' :: s) p rest
  | class {s rest : Text} {test : CharTest} : s ≠ ['\\'] → readClass s = .ok (test, rest) →
      Construct p ('[' :: s) (p.add (.char test)) rest
  | brace {c : Char} {s rest : Text} : isQuantifierStart c = true →
      readBounds c s = .ok (none, rest) → Construct p (c :: s) (p.add (.ofCode c.toNat)) rest
  | quantifier {c : Char} {s after rest : Text} {b : Bounds} {q : Progress} :
      isQuantifierStart c = true → readBounds c s = .ok (some b, after) →
      p.quantify b (s.length + 1) after = .ok (q, rest) → Construct p (c :: s) q rest
  | opening {s rest : Text} {o : Opening} {q : Progress} : s ≠ ['\\'] →
      readOpening p.surroundings s = .ok (o, rest) → p.begin (s.length + 1) rest o = .ok q →
      Construct p ('(' :: s) q rest
  | anchor {c : Char} {s : Text} {a : Anchor} : c = '^' ∨ c = '$' →
      Construct p (c :: s) (p.add (.anchor a)) s
  | char {c : Char} {s : Text} {test : CharTest} : c ∉ ['\\', '|', '[', '(', '^', '$'] →
      isQuantifierStart c = false → (c = ')' → p.outer = []) →
      Construct p (c :: s) (p.add (.char test)) s

section Steps

variable {p q : Progress} {c : Char} {s rest : Text}

/-- What the construct of a class is read as. -/
theorem step_class {q : Progress} {rest : Text} (h : step p ('[' :: s) = .ok (q, rest)) :
    s ≠ ['\\'] ∧ ∃ test, readClass s = .ok (test, rest) ∧ q = p.add (.char test) := by
  rw [step_visible (by decide) (.inr (by decide))] at h
  obtain ⟨⟨⟩, hsettle, h⟩ := bind_eq_ok_iff.1 h
  obtain ⟨⟨test, r⟩, htest, h⟩ := bind_eq_ok_iff.1 h
  obtain ⟨rfl, rfl⟩ := Prod.mk.inj (Except.ok.inj h)
  exact ⟨settle_eq_ok_iff.1 hsettle, test, htest, rfl⟩

/-- What the construct of a line comment is read as. -/
theorem step_line {q : Progress} {rest : Text} (hv : p.frame.verbose = true)
    (h : step p ('#' :: s) = .ok (q, rest)) : s ≠ ['\\'] ∧ q = p ∧ readLine s = .ok rest := by
  rw [step_char (by decide), stepChar, if_neg (by decide)] at h
  · obtain ⟨⟨⟩, hsettle, h⟩ := bind_eq_ok_iff.1 h
    rw [hv, if_neg (by decide), if_pos (by decide)] at h
    obtain ⟨r, hr, h⟩ := bind_eq_ok_iff.1 h
    obtain ⟨rfl, rfl⟩ := Prod.mk.inj (Except.ok.inj h)
    exact ⟨settle_eq_ok_iff.1 hsettle, rfl, hr⟩
  · exact fun _ _ he => absurd he (by decide)

theorem Construct.of_stepSpecial (hs : s ≠ ['\\']) (hesc : c ≠ '\\') (hbar : c ≠ '|')
    (hclose : c = ')' → p.outer = []) (h : stepSpecial p c s = .ok (q, rest)) :
    Construct p (c :: s) q rest := by
  unfold stepSpecial at h
  split at h
  · rename_i hopen
    subst hopen
    obtain ⟨⟨test, r⟩, htest, h⟩ := bind_eq_ok_iff.1 h
    obtain ⟨rfl, rfl⟩ := Prod.mk.inj (Except.ok.inj h)
    exact .class hs htest
  · rename_i hclass
    split at h
    · rename_i hstart
      obtain ⟨⟨bounds, after⟩, hbounds, h⟩ := bind_eq_ok_iff.1 h
      cases bounds with
      | none =>
        obtain ⟨rfl, rfl⟩ := Prod.mk.inj (Except.ok.inj h)
        exact .brace hstart hbounds
      | some b => exact .quantifier hstart hbounds h
    · rename_i hstart
      have hplain {test : CharTest} (hleft : c ≠ '(') (hup : c ≠ '^') (hend : c ≠ '$') :
          Construct p (c :: s) (p.add (.char test)) s := by
        refine .char ?_ (Bool.eq_false_iff.2 hstart) hclose
        simp [hesc, hbar, hclass, hleft, hup, hend]
      split at h
      · rename_i hdot
        obtain ⟨rfl, rfl⟩ := Prod.mk.inj (Except.ok.inj h)
        subst hdot
        exact hplain (by decide) (by decide) (by decide)
      · split at h
        · rename_i hleft
          subst hleft
          obtain ⟨⟨o, after⟩, ho, h⟩ := bind_eq_ok_iff.1 h
          obtain ⟨q', hq', h⟩ := bind_eq_ok_iff.1 h
          obtain ⟨rfl, rfl⟩ := Prod.mk.inj (Except.ok.inj h)
          exact .opening hs ho hq'
        · split at h
          · obtain ⟨rfl, rfl⟩ := Prod.mk.inj (Except.ok.inj h)
            exact .anchor (.inl ‹_›)
          · split at h
            · obtain ⟨rfl, rfl⟩ := Prod.mk.inj (Except.ok.inj h)
              exact .anchor (.inr ‹_›)
            · obtain ⟨rfl, rfl⟩ := Prod.mk.inj (Except.ok.inj h)
              exact hplain ‹_› ‹_› ‹_›

/-- A step takes one construct. -/
theorem construct_of_step (h : step p (c :: s) = .ok (q, rest)) : Construct p (c :: s) q rest := by
  by_cases hesc : c = '\\'
  · subst hesc
    cases s with
    | nil =>
      have hstep : step p ['\\'] = .ok (p.add (.ofCode 92), []) := by
        cases hv : p.frame.verbose <;> simp [step, stepChar, hv] <;> rfl
      obtain ⟨rfl, rfl⟩ := Prod.mk.inj (Except.ok.inj (hstep.symm.trans h))
      exact .backslash
    | cons c s =>
      obtain ⟨⟨⟩, -, h⟩ := bind_eq_ok_iff.1 h
      obtain ⟨⟨n, r⟩, hn, h⟩ := bind_eq_ok_iff.1 h
      obtain ⟨rfl, rfl⟩ := Prod.mk.inj (Except.ok.inj h)
      exact .escape hn
  · rw [step_char hesc] at h
    unfold stepChar at h
    split at h
    · rename_i hbar
      subst hbar
      obtain ⟨q', hq', h⟩ := bind_eq_ok_iff.1 h
      obtain ⟨⟨⟩, -, h⟩ := bind_eq_ok_iff.1 h
      obtain ⟨rfl, rfl⟩ := Prod.mk.inj (Except.ok.inj h)
      exact .bar hq'
    · rename_i hbar
      split at h
      · rename_i f fs houter
        obtain ⟨⟨⟩, -, h⟩ := bind_eq_ok_iff.1 h
        obtain ⟨rfl, rfl⟩ := Prod.mk.inj (Except.ok.inj h)
        exact .close houter
      · rename_i hopen
        obtain ⟨⟨⟩, hsettle, h⟩ := bind_eq_ok_iff.1 h
        split at h
        · rename_i hblank
          rw [Bool.and_eq_true] at hblank
          obtain ⟨rfl, rfl⟩ := Prod.mk.inj (Except.ok.inj h)
          exact .blank hblank.1 hblank.2
        · split at h
          · rename_i hline
            rw [Bool.and_eq_true, beq_iff_eq] at hline
            obtain ⟨r, hr, hread⟩ := bind_eq_ok_iff.1 h
            obtain ⟨rfl, rfl⟩ := Prod.mk.inj (Except.ok.inj hread)
            rw [hline.2]
            exact .line hline.1 (settle_eq_ok_iff.1 hsettle) hr
          · apply Construct.of_stepSpecial (settle_eq_ok_iff.1 hsettle) hesc hbar ?_ h
            intro hclose
            cases houter : p.outer with
            | nil => rfl
            | cons f fs => exact absurd houter (hopen f fs hclose)

end Steps

end PathRouter.Regex
