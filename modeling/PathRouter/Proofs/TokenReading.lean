import PathRouter.Proofs.InlineGroup

/-!
# Reading goes from token to token

Wherever the reader of expressions comes to, it came there in whole tokens: it never stops between a
backslash and the character after it, and it never steps onto a backslash that ends the text. So a
text that is an expression consists of whole tokens.
-/

namespace PathRouter.Regex
set_option autoImplicit false

/-- The text consists of whole tokens: after a backslash there is a character. -/
inductive IsTokens : Text → Prop
  | nil : IsTokens []
  | escape {c : Char} {s : Text} : IsTokens s → IsTokens ('\\' :: c :: s)
  | char {c : Char} {s : Text} : c ≠ '\\' → IsTokens s → IsTokens (c :: s)

theorem IsTokens.append {word s : Text} (hword : ∀ c ∈ word, c ≠ '\\') (hs : IsTokens s) :
    IsTokens (word ++ s) := by
  induction word with
  | nil => exact hs
  | cons c word ih =>
    rw [List.forall_mem_cons] at hword
    exact .char hword.1 (ih hword.2)

/-- A reader that begins at `start` can come to a text in whole tokens. -/
inductive Tokenwise (start : Text) : Text → Prop
  | start : start ≠ ['\\'] → Tokenwise start start
  | escape {c : Char} {s : Text} : s ≠ ['\\'] → Tokenwise start ('\\' :: c :: s) → Tokenwise start s
  | char {c : Char} {s : Text} : c ≠ '\\' → s ≠ ['\\'] → Tokenwise start (c :: s) →
      Tokenwise start s

section Tokenwise

variable {start s rest : Text}

theorem Tokenwise.ne_backslash (h : Tokenwise start s) : s ≠ ['\\'] := by
  cases h with
  | start hs => exact hs
  | escape hs _ => exact hs
  | char _ hs _ => exact hs

/-- If what is left consists of whole tokens, the whole text does. -/
theorem Tokenwise.isTokens (h : Tokenwise start s) (hs : IsTokens s) : IsTokens start := by
  induction h with
  | start _ => exact hs
  | escape _ _ ih => exact ih (.escape hs)
  | char hc _ _ ih => exact ih (.char hc hs)

/-- A character that no escape begins with is a token by itself. -/
theorem Tokenwise.next {c : Char} (h : Tokenwise start (c :: s))
    (hesc : ∀ d r, c = '\\' → s = d :: r → False) (hs : s ≠ ['\\']) : Tokenwise start s := by
  refine .char ?_ hs h
  rintro rfl
  cases s with
  | nil => exact h.ne_backslash rfl
  | cons d r => exact hesc d r rfl rfl

theorem tokenwise_isKept (start : Text) : IsKept (Tokenwise start) where
  start := Tokenwise.ne_backslash
  char := by
    intro c s hc hs h
    refine .char ?_ hs h
    rintro rfl
    exact hc (by decide)

/-! ## Readers -/

/-- What is skipped up to a terminator is skipped in whole tokens. -/
theorem Tokenwise.skips {α : Type} {stop : Char} {found : Text → α}
    {read : Text → Except Fault α} {a : α} (hr : Skips stop found read) (hs : Tokenwise start s)
    (h : read s = .ok a) : (∃ rest, a = found rest ∧ Tokenwise start rest) ∨
      Tokenwise start [] ∧ read [] = .ok a := by
  fun_induction holdsBefore stop [] s with
  | case1 => exact .inr ⟨hs, h⟩
  | case2 c s ih =>
    rw [hr.escape] at h
    obtain ⟨⟨⟩, hsettle, h⟩ := bind_eq_ok_iff.1 h
    exact ih (.escape (settle_eq_ok_iff.1 hsettle) hs) h
  | case3 s hesc =>
    rw [hr.ends] at h
    obtain ⟨⟨⟩, hsettle, h⟩ := bind_eq_ok_iff.1 h
    have hrest := hs.next hesc (settle_eq_ok_iff.1 hsettle)
    exact .inl ⟨s, (Except.ok.inj h).symm, hrest⟩
  | case4 c s hesc hstop ih =>
    have hc : c ≠ '\\' := by
      rintro rfl
      cases s with
      | nil => exact hs.ne_backslash rfl
      | cons d r => exact hesc d r rfl rfl
    rw [hr.other c s hc hstop] at h
    obtain ⟨⟨⟩, hsettle, h⟩ := bind_eq_ok_iff.1 h
    exact ih (.char hc (settle_eq_ok_iff.1 hsettle) hs) h

theorem Tokenwise.readComment {place : Nat} {o : Opening} (hs : Tokenwise start s)
    (h : readComment place s = .ok (o, rest)) : Tokenwise start rest := by
  obtain ⟨r, hr, hrest⟩ | ⟨-, hnil⟩ := hs.skips (skips_comment place) h
  · obtain ⟨-, rfl⟩ := Prod.mk.inj hr
    exact hrest
  · exact absurd hnil fault_ne_ok

theorem Tokenwise.readLine (hs : Tokenwise start s) (h : readLine s = .ok rest) :
    Tokenwise start rest := by
  obtain ⟨r, rfl, hrest⟩ | ⟨hend, hnil⟩ := hs.skips skips_line h
  · exact hrest
  · obtain rfl := Except.ok.inj hnil
    exact hend

theorem Tokenwise.readOpening {env : Surroundings} {o : Opening} (hs : Tokenwise start s)
    (h : readOpening env s = .ok (o, rest)) : Tokenwise start rest :=
  (tokenwise_isKept start).readOpening hs (fun _ _ _ _ hr hread => hr.readComment hread) h

/-! ## Classes -/

open Confine

theorem Tokenwise.splitMembers {body : Text} (hs : Tokenwise start s) (hrest : rest ≠ ['\\'])
    (h : splitMembers s = some (body, rest)) : Tokenwise start rest := by
  have hstep {t : Text} {x : Text × Text} (ht : Confine.splitMembers t = some x) : t ≠ ['\\'] := by
    rintro rfl
    exact absurd ht (by simp [Confine.splitMembers])
  fun_induction Confine.splitMembers s generalizing body with
  | case1 => exact absurd h (by simp)
  | case2 => exact absurd h (by simp)
  | case3 c s ih =>
    obtain ⟨⟨b, r⟩, hb, he⟩ := Option.map_eq_some_iff.1 h
    obtain ⟨-, rfl⟩ := Prod.mk.inj he
    exact ih (.escape (hstep hb) hs) hb
  | case4 s hesc =>
    obtain ⟨-, rfl⟩ := Prod.mk.inj (Option.some.inj h)
    exact .char (by decide) hrest hs
  | case5 c s hesc hc ih =>
    obtain ⟨⟨b, r⟩, hb, he⟩ := Option.map_eq_some_iff.1 h
    obtain ⟨-, rfl⟩ := Prod.mk.inj he
    exact ih (.char hesc (hstep hb) hs) hb

theorem Tokenwise.splitFirst {body : Text} (hs : Tokenwise start s) (hrest : rest ≠ ['\\'])
    (h : splitFirst s = some (body, rest)) : Tokenwise start rest := by
  unfold Confine.splitFirst at h
  split at h
  · obtain ⟨⟨b, r⟩, hb, he⟩ := Option.map_eq_some_iff.1 h
    obtain ⟨-, rfl⟩ := Prod.mk.inj he
    refine Tokenwise.splitMembers (.char (by decide) ?_ hs) hrest hb
    rintro rfl
    exact absurd hb (by simp [Confine.splitMembers])
  · exact hs.splitMembers hrest h

theorem Tokenwise.splitClass {body : Text} (hs : Tokenwise start s) (hrest : rest ≠ ['\\'])
    (h : splitClass s = some (body, rest)) : Tokenwise start rest := by
  unfold Confine.splitClass at h
  split at h
  · obtain ⟨⟨b, r⟩, hb, he⟩ := Option.map_eq_some_iff.1 h
    obtain ⟨-, rfl⟩ := Prod.mk.inj he
    refine Tokenwise.splitFirst (.char (by decide) ?_ hs) hrest hb
    rintro rfl
    exact absurd hb (by simp [Confine.splitFirst, Confine.splitMembers])
  · exact hs.splitFirst hrest h

/-! ## The whole expression -/

/-- A step is taken onto what follows the character that it begins with. -/
theorem ne_backslash_of_step {p : Progress} {c : Char} {x : Progress × Text} (hc : c ≠ '\\')
    (h : step p (c :: s) = .ok x) : s ≠ ['\\'] := by
  rw [step_char hc] at h
  unfold stepChar at h
  split at h
  · obtain ⟨q, -, h⟩ := bind_eq_ok_iff.1 h
    obtain ⟨⟨⟩, hsettle, -⟩ := bind_eq_ok_iff.1 h
    exact settle_eq_ok_iff.1 hsettle
  · split at h
    · obtain ⟨⟨⟩, hsettle, -⟩ := bind_eq_ok_iff.1 h
      exact settle_eq_ok_iff.1 hsettle
    · obtain ⟨⟨⟩, hsettle, -⟩ := bind_eq_ok_iff.1 h
      exact settle_eq_ok_iff.1 hsettle

/-- A step that begins with an escape goes on behind it. -/
theorem Tokenwise.stepEscape {p q : Progress} {c : Char} (hs : Tokenwise start ('\\' :: c :: s))
    (h : step p ('\\' :: c :: s) = .ok (q, rest)) : Tokenwise start rest := by
  obtain ⟨⟨⟩, hsettle, h⟩ := bind_eq_ok_iff.1 h
  obtain ⟨⟨n, r⟩, hn, h⟩ := bind_eq_ok_iff.1 h
  obtain ⟨-, rfl⟩ := Prod.mk.inj (Except.ok.inj h)
  have hnext := Tokenwise.escape (settle_eq_ok_iff.1 hsettle) hs
  exact IsKept.of_agrees (readEscape_agrees (tokenwise_isKept start).parallel.corresponds (fun _ => rfl)
    c ⟨rfl, hnext⟩) hn

/-- One construct is read in whole tokens. -/
theorem Tokenwise.step {p q : Progress} {c : Char} (hs : Tokenwise start (c :: s))
    (h : step p (c :: s) = .ok (q, rest)) : Tokenwise start rest := by
  by_cases hc : c = '\\'
  · subst hc
    cases s with
    | nil => exact absurd rfl hs.ne_backslash
    | cons d s => exact hs.stepEscape h
  have hwords := (tokenwise_isKept start).parallel.corresponds
  have hnext : Tokenwise start s := .char hc (ne_backslash_of_step hc h) hs
  cases construct_of_step h with
  | backslash => exact absurd rfl hc
  | escape _ => exact absurd rfl hc
  | bar _ => exact hnext
  | close _ => exact hnext
  | blank _ _ => exact hnext
  | line _ _ hread => exact hnext.readLine hread
  | «class» hne hread =>
    obtain ⟨hrest, body, hbody⟩ := readClass_split hne hread
    exact hnext.splitClass hrest hbody
  | brace _ hread => exact IsKept.of_agrees (readBounds_agrees hwords c ⟨rfl, hnext⟩) hread
  | quantifier _ hread hquantify =>
    have hafter := IsKept.of_agrees (readBounds_agrees hwords c ⟨rfl, hnext⟩) hread
    unfold Progress.quantify at hquantify
    split at hquantify
    · exact absurd hquantify fault_ne_ok
    · exact absurd hquantify fault_ne_ok
    · exact absurd hquantify fault_ne_ok
    · obtain ⟨⟨m, r⟩, hmode, hquantify⟩ := bind_eq_ok_iff.1 hquantify
      obtain ⟨-, rfl⟩ := Prod.mk.inj (Except.ok.inj hquantify)
      exact IsKept.of_agrees (readMode_agrees hwords ⟨rfl, hafter⟩) hmode
  | opening _ hread _ => exact hnext.readOpening hread
  | anchor _ => exact hnext
  | char _ _ _ => exact hnext

theorem Tokenwise.readConstructs {p q : Progress} (hs : Tokenwise start s)
    (h : readConstructs p s = .ok (q, rest)) : Tokenwise start rest := by
  fun_induction Regex.readConstructs p s with
  | case1 =>
    obtain ⟨-, rfl⟩ := Prod.mk.inj (Except.ok.inj h)
    exact hs
  | case2 =>
    obtain ⟨-, rfl⟩ := Prod.mk.inj (Except.ok.inj h)
    exact hs
  | case3 => exact absurd h (by simp)
  | case4 p c s _ q r hstep ih => exact ih (hs.step hstep) h

/-- A text that is an expression consists of whole tokens. -/
theorem isTokens_of_readExpression {text : Text} {x : Expression}
    (h : readExpression text = .ok x) : IsTokens text := by
  obtain ⟨hne, p, hp, -, -⟩ := readConstructs_of_readExpression h
  exact ((Tokenwise.start hne).readConstructs hp).isTokens .nil

end Tokenwise

end PathRouter.Regex
