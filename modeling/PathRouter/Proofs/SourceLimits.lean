import PathRouter.Proofs.ExpressionLimits

/-!
# Compiled expressions within the limits

A compiled expression stays within the limits if its inline expressions do. Narrowing changes tokens
but neither the words after them nor where tokens begin, and what a pattern adds of its own asks for
nothing.
-/

namespace PathRouter
set_option autoImplicit false

namespace Regex

section Tokens

variable {s t u b : Text} {c : Char}

/-- What follows from a break on is no part of a word. -/
theorem word_append (ht : ∀ c, t.head? = some c → c ∈ breaks) : word (u ++ t) = word u := by
  induction u with
  | nil =>
    cases t with
    | nil => rfl
    | cons c t =>
      rw [List.nil_append, word_cons, if_pos (ht c rfl)]
      rfl
  | cons c u ih => rw [List.cons_append, word_cons, word_cons, ih]

/-- Tokens stay within the limits by themselves if a break follows. -/
theorem staysInLimits_append (hu : IsTokens u) (ht : ∀ c, t.head? = some c → c ∈ breaks) :
    staysInLimits (u ++ t) = (staysInLimits u && staysInLimits t) := by
  induction hu with
  | nil => rfl
  | @escape c u _ ih =>
    show (codeFits c (u ++ t) && staysInLimits (u ++ t)) = _
    rw [ih, codeFits_word (word_append ht), staysInLimits, Bool.and_assoc]
  | @char c u hc _ ih =>
    rw [List.cons_append, staysInLimits_char hc, staysInLimits_char hc, ih,
      charFits_word (word_append ht), Bool.and_assoc]

/-- Characters that ask for nothing are tokens by themselves. -/
theorem staysInLimits_plain (hu : ∀ c ∈ u, c ∉ ['\\', '\x7b', '(']) :
    staysInLimits (u ++ t) = staysInLimits t := by
  induction u with
  | nil => rfl
  | cons c u ih =>
    rw [List.forall_mem_cons] at hu
    obtain ⟨hesc, hc⟩ := not_or.1 (List.mem_cons.not.1 hu.1)
    rw [List.cons_append, staysInLimits_char hesc, charFits_other hc, ih hu.2, Bool.true_and]

/-- An extension other than a look behind asks for nothing by itself. -/
theorem staysInLimits_extension (hc : c ≠ '<') :
    staysInLimits ('(' :: '?' :: c :: s) = staysInLimits (c :: s) := by
  have hopen : charFits '(' ('?' :: c :: s) = true := by
    simp [charFits, looksBehind, List.isPrefixOf, Ne.symm hc]
  rw [staysInLimits_char (by decide), hopen, staysInLimits_char (by decide),
    charFits_other (by decide), Bool.true_and, Bool.true_and]

theorem IsTokens.append_tokens (hu : IsTokens u) (ht : IsTokens t) : IsTokens (u ++ t) := by
  induction hu with
  | nil => exact ht
  | escape _ ih => exact .escape ih
  | char hc _ ih => exact .char hc ih

theorem IsTokens.of_char (hc : c ≠ '\\') (h : IsTokens (c :: s)) : IsTokens s := by
  cases h with
  | escape _ => exact absurd rfl hc
  | char _ h => exact h

theorem IsTokens.of_escape (h : IsTokens ('\\' :: c :: s)) : IsTokens s := by
  cases h with
  | escape h => exact h
  | char hc _ => exact absurd rfl hc

/-! ## Narrowing -/

open Confine

theorem IsTokens.splitMembers {body after : Text} (hs : IsTokens s)
    (h : splitMembers s = some (body, after)) : IsTokens body ∧ IsTokens after := by
  fun_induction Confine.splitMembers s generalizing body after with
  | case1 => exact absurd h (by simp)
  | case2 => exact absurd h (by simp)
  | case3 c s ih =>
    obtain ⟨⟨b, a⟩, hb, he⟩ := Option.map_eq_some_iff.1 h
    obtain ⟨rfl, rfl⟩ := Prod.mk.inj he
    obtain ⟨hbody, hafter⟩ := ih hs.of_escape hb
    exact ⟨.escape hbody, hafter⟩
  | case4 s hesc =>
    obtain ⟨rfl, rfl⟩ := Prod.mk.inj (Option.some.inj h)
    exact ⟨.nil, hs.of_char (by decide)⟩
  | case5 c s hesc hclose ih =>
    obtain ⟨⟨b, a⟩, hb, he⟩ := Option.map_eq_some_iff.1 h
    obtain ⟨rfl, rfl⟩ := Prod.mk.inj he
    obtain ⟨hbody, hafter⟩ := ih (hs.of_char hesc) hb
    exact ⟨.char hesc hbody, hafter⟩

theorem IsTokens.splitClass {body after : Text} (hs : IsTokens s)
    (h : splitClass s = some (body, after)) : IsTokens body ∧ IsTokens after := by
  have hfirst {s body after : Text} (hs : IsTokens s) (h : splitFirst s = some (body, after)) :
      IsTokens body ∧ IsTokens after := by
    unfold splitFirst at h
    split at h
    · obtain ⟨⟨b, a⟩, hb, he⟩ := Option.map_eq_some_iff.1 h
      obtain ⟨rfl, rfl⟩ := Prod.mk.inj he
      obtain ⟨hbody, hafter⟩ := (hs.of_char (by decide)).splitMembers hb
      exact ⟨.char (by decide) hbody, hafter⟩
    · exact hs.splitMembers h
  unfold Confine.splitClass at h
  split at h
  · obtain ⟨⟨b, a⟩, hb, he⟩ := Option.map_eq_some_iff.1 h
    obtain ⟨rfl, rfl⟩ := Prod.mk.inj he
    obtain ⟨hbody, hafter⟩ := hfirst (hs.of_char (by decide)) hb
    exact ⟨.char (by decide) hbody, hafter⟩
  · exact hfirst hs h

/-- What a narrowed text has in common with the text. -/
structure Keeps (s b : Text) : Prop where
  tokens : IsTokens b
  limits : staysInLimits b = true
  word : word b = word s

theorem Keeps.escape {c : Char} (hs : staysInLimits ('\\' :: c :: s) = true) (h : Keeps s b) :
    Keeps ('\\' :: c :: s) (Confine.escape c ++ b) := by
  have hclass (k : Char) (hk : codeFits k ('/' :: ']' :: b) = true) :
      Keeps ('\\' :: c :: s) (['[', '^', '\\', k, '/', ']'] ++ b) := by
    refine ⟨?_, ?_, by simp [word_cons, breaks]⟩
    · exact .char (by decide) <| .char (by decide) <| .escape <| .char (by decide) <|
        .char (by decide) h.tokens
    · have hrest : staysInLimits ('/' :: ']' :: b) = true :=
        (staysInLimits_plain (u := ['/', ']']) (forall_mem_of_all (by decide))).trans h.limits
      refine (staysInLimits_plain (u := ['[', '^']) (t := '\\' :: k :: '/' :: ']' :: b)
        (forall_mem_of_all (by decide))).trans ?_
      rw [staysInLimits, hrest, Bool.and_true]
      exact hk
  unfold Confine.escape Confine.shorthand?
  split
  · exact hclass 's' rfl
  · exact hclass 'w' rfl
  · exact hclass 'd' rfl
  · refine ⟨.escape h.tokens, ?_, by simp [word_cons, breaks]⟩
    rw [staysInLimits, Bool.and_eq_true] at hs
    show (codeFits c b && staysInLimits b) = true
    rw [codeFits_word h.word, hs.1, h.limits, Bool.and_self]

theorem Keeps.class {body after : Text} (hs : IsTokens s) (hlimits : staysInLimits s = true)
    (hsplit : splitClass s = some (body, after)) (h : Keeps after b) :
    Keeps ('[' :: s) (bracketed body ++ b) := by
  obtain ⟨hbody, -⟩ := hs.splitClass hsplit
  have hfits : staysInLimits body = true := by
    rw [splitClass_eq hsplit, staysInLimits_append hbody (by simp [breaks]),
      Bool.and_eq_true] at hlimits
    exact hlimits.1
  -- What is added after the body begins with a break and asks for nothing.
  have hclose (d e : Char) (hd : d ∈ breaks ∧ d ∉ ['\\', '\x7b', '('])
      (he : e ∉ ['\\', '\x7b', '(']) : staysInLimits ('[' :: (body ++ d :: e :: b)) = true := by
    have htail : staysInLimits (d :: e :: b) = true := by
      refine (staysInLimits_plain (u := [d, e]) ?_).trans h.limits
      exact List.forall_mem_cons.2 ⟨hd.2, List.forall_mem_singleton.2 he⟩
    rw [staysInLimits_char (by decide), charFits_other (by decide),
      staysInLimits_append hbody (by simpa using hd.1), hfits, htail]
    rfl
  unfold bracketed
  split
  · refine ⟨?_, ?_, by simp [word_cons, breaks]⟩
    · simpa using IsTokens.char (by decide) <| hbody.append_tokens <| .char (by decide) <|
        .char (by decide) h.tokens
    · simpa using hclose '/' ']' (by decide) (by decide)
  · refine ⟨?_, ?_, by simp [word_cons, breaks]⟩
    · have hword : ∀ c ∈ ['(', '?', ':', '(', '?', '!', '/', ')', '['], c ≠ '\\' :=
        forall_mem_of_all (by decide)
      simpa using IsTokens.append hword <| hbody.append_tokens <| .char (by decide) <|
        .char (by decide) h.tokens
    · simp only [List.cons_append, List.append_assoc, List.nil_append]
      rw [staysInLimits_extension (by decide), staysInLimits_char (by decide),
        charFits_other (by decide), staysInLimits_extension (by decide), Bool.true_and]
      refine (staysInLimits_plain (u := ['!', '/', ')']) (forall_mem_of_all (by decide))).trans ?_
      exact hclose ']' ')' (by decide) (by decide)

/-- Narrowing keeps a text within the limits. -/
theorem keeps_of_confine (hs : IsTokens s) (hlimits : staysInLimits s = true)
    (hb : confine s = some b) : Keeps s b := by
  fun_induction confine s generalizing b with
  | case1 =>
    obtain rfl := Option.some.inj hb
    exact ⟨.nil, rfl, rfl⟩
  | case2 =>
    cases hs with
    | char hc _ => exact absurd rfl hc
  | case3 c s ih =>
    obtain ⟨b, hrest, rfl⟩ := Option.map_eq_some_iff.1 hb
    exact (ih hs.of_escape (Bool.and_eq_true_iff.1 hlimits).2 hrest).escape hlimits
  | case4 s hesc ih =>
    obtain ⟨b, hrest, rfl⟩ := Option.map_eq_some_iff.1 hb
    rw [staysInLimits_char (by decide), Bool.and_eq_true] at hlimits
    have h := ih (hs.of_char (by decide)) hlimits.2 hrest
    refine ⟨.append (forall_mem_of_all (by decide)) h.tokens, ?_, by simp [Confine.dot, word_cons, breaks]⟩
    exact (staysInLimits_plain (forall_mem_of_all (by decide))).trans h.limits
  | case5 s hesc hclass => exact absurd hb (by simp)
  | case6 s body after hsplit _ _ ih =>
    obtain ⟨b, hrest, rfl⟩ := Option.map_eq_some_iff.1 hb
    rw [staysInLimits_char (by decide), Bool.and_eq_true] at hlimits
    have hs' := hs.of_char (by decide)
    have hbody := hs'.splitClass hsplit
    have hafter : staysInLimits after = true := by
      have := hlimits.2
      rw [splitClass_eq hsplit, staysInLimits_append hbody.1 (by simp [breaks]),
        Bool.and_eq_true, staysInLimits_char (by decide), Bool.and_eq_true] at this
      exact this.2.2
    exact .class hs' hlimits.2 hsplit (ih hbody.2 hafter hrest)
  | case7 c s hesc hdot hclass ih =>
    obtain ⟨b, hrest, rfl⟩ := Option.map_eq_some_iff.1 hb
    rw [staysInLimits_char hesc, Bool.and_eq_true] at hlimits
    have h := ih (hs.of_char hesc) hlimits.2 hrest
    refine ⟨.char hesc h.tokens, ?_, by rw [word_cons, word_cons, h.word]⟩
    rw [staysInLimits_char hesc, charFits_word h.word, hlimits.1, h.limits]
    rfl

end Tokens

end Regex

open Regex

/-! ## What a pattern adds -/

section Source

variable {extent : Extent} {t : Text}

/-- The rest of a compiled expression: it stays within the limits and sets no flags. -/
structure IsSource (w : Text) : Prop where
  limits : staysInLimits w = true
  begins : beginsPlainly w = true

theorem IsSource.literal (text : Text) (h : IsSource t) : IsSource (escapeText text ++ t) := by
  induction text with
  | nil => exact h
  | cons c text ih =>
    have hcons : escapeText (c :: text) ++ t = escapeChar c ++ (escapeText text ++ t) := by
      simp [escapeText]
    rw [hcons, escapeChar]
    split
    · rename_i hc
      have hcount : hexCount? c = none := by
        have hall : ∀ d ∈ metacharacters, hexCount? d = none := forall_mem_of_all (by decide)
        exact hall c hc
      refine ⟨?_, rfl⟩
      show (codeFits c (escapeText text ++ t) && staysInLimits (escapeText text ++ t)) = true
      rw [ih.limits, codeFits, hcount]
      rfl
    · rename_i hc
      have hplain : ∀ d ∈ [c], d ∉ ['\\', '\x7b', '('] := by
        intro d hd hmem
        obtain rfl := List.mem_singleton.1 hd
        have hmeta : ∀ e ∈ ['\\', '\x7b', '('], e ∈ metacharacters :=
          forall_mem_of_all (by decide)
        exact hc (hmeta d hmem)
      refine ⟨(staysInLimits_plain hplain).trans ih.limits, ?_⟩
      have hopen : c ≠ '(' := by
        rintro rfl
        exact hc (by decide)
      show beginsPlainly (c :: (escapeText text ++ t)) = true
      unfold beginsPlainly
      split <;> simp_all

theorem IsSource.group {n : Nat} {body : Text}
    (h : staysInLimits (body ++ ')' :: t) = true) : IsSource (namedGroup (groupName n) body ++ t) := by
  have htext : namedGroup (groupName n) body ++ t =
      '(' :: '?' :: 'P' :: '<' :: ((groupName n ++ ['>']) ++ (body ++ ')' :: t)) := by
    simp [namedGroup]
  have hname : ∀ c ∈ 'P' :: '<' :: (groupName n ++ ['>']), c ∉ ['\\', '\x7b', '('] := by
    have hdigits : ∀ c ∈ Text.natural n, c ∉ ['\\', '\x7b', '('] := by
      intro c hc hmem
      have hdigit : c.isDigit = true := Nat.isDigit_of_mem_toDigits (by decide) (by decide) hc
      have hnone : ∀ d ∈ ['\\', '\x7b', '('], d.isDigit = false :=
        forall_eq_false (by decide)
      exact absurd (hdigit.symm.trans (hnone c hmem)) (by simp)
    intro c hc
    simp only [groupName, List.mem_cons, List.mem_append, List.cons_append] at hc
    rcases hc with rfl | rfl | rfl | hc | hc
    · decide
    · decide
    · decide
    · exact hdigits c hc
    · rcases hc with rfl | hc
      · decide
      · exact absurd hc List.not_mem_nil
  rw [htext]
  refine ⟨?_, rfl⟩
  rw [staysInLimits_extension (by decide)]
  exact (staysInLimits_plain (u := 'P' :: '<' :: (groupName n ++ ['>'])) hname).trans h

/-- An inline expression within the limits can stand in a compiled one. -/
theorem IsSource.inline {n : Nat} {e b : Text} {x : Regex.Expression}
    (hx : readExpression e = .ok x) (he : staysInLimits e = true) (hb : splicedText e = some b)
    (h : IsSource t) :
    IsSource (namedGroup (groupName n) (['(', '?', ':'] ++ b ++ [')']) ++ t) := by
  have htokens := isTokens_of_readExpression hx
  have hspliced : IsTokens b ∧ staysInLimits b = true := by
    unfold splicedText at hb
    split at hb
    · obtain rfl := Option.some.inj hb
      exact ⟨htokens, he⟩
    · have hkeeps := keeps_of_confine htokens he hb
      exact ⟨hkeeps.tokens, hkeeps.limits⟩
  have hclose : staysInLimits (')' :: ')' :: t) = true :=
    (staysInLimits_plain (u := [')', ')']) (forall_mem_of_all (by decide))).trans h.limits
  apply IsSource.group
  simp only [List.cons_append, List.append_assoc, List.nil_append]
  rw [staysInLimits_extension (by decide), staysInLimits_char (by decide),
    charFits_other (by decide), staysInLimits_append hspliced.1 (by simp [breaks]), hspliced.2, hclose]
  rfl

/-- The expression that segments are compiled to stays within the limits if their inline expressions
do. -/
theorem isSource_of_addSegments {segments : List Segment} {d d' : Draft}
    (hinline : ∀ name e, .constrained name e ∈ segments →
      (∃ x, readExpression e = .ok x) ∧ staysInLimits e = true)
    (h : d.addSegments extent segments = .ok d') :
    ∃ w, (d'.finish extent).source = d.source ++ w ∧ IsSource w := by
  induction segments generalizing d with
  | nil =>
    obtain rfl := Except.ok.inj h
    cases extent with
    | exact => exact ⟨textEnd, rfl, rfl, rfl⟩
    | leading => exact ⟨[], (List.append_nil _).symm, rfl, rfl⟩
  | cons s rest ih =>
    obtain ⟨d₁, hd₁, h⟩ := bind_eq_ok.1 h
    obtain ⟨w, hw, hsource⟩ := ih (fun name e hm => hinline name e (List.mem_cons_of_mem _ hm)) h
    have hadd (part : Text) (hpart : d₁.source = d.source ++ part) (hsource' : IsSource (part ++ w)) :
        ∃ w, (d'.finish extent).source = d.source ++ w ∧ IsSource w :=
      ⟨part ++ w, by rw [hw, hpart, List.append_assoc], hsource'⟩
    cases s with
    | literal text =>
      unfold Draft.addSegment at hd₁
      dsimp only at hd₁
      split at hd₁
      · obtain rfl := Except.ok.inj hd₁
        refine hadd (escapeText text.dropLast ++ slashAhead) (by simp [Draft.append]) ?_
        rw [List.append_assoc]
        refine .literal _ ⟨?_, rfl⟩
        exact (staysInLimits_extension (by decide)).trans <|
          (staysInLimits_plain (u := ['=', '/', ')']) (forall_mem_of_all (by decide))).trans hsource.limits
      · obtain rfl := Except.ok.inj hd₁
        exact hadd _ rfl (.literal _ hsource)
    | dynamic name =>
      obtain rfl := Except.ok.inj hd₁
      refine hadd _ rfl (.group ?_)
      exact (staysInLimits_plain (u := ['[', '^', '/', ']', '+', ')']) (forall_mem_of_all (by decide))).trans
        hsource.limits
    | constrained name e =>
      obtain ⟨⟨x, hx⟩, he⟩ := hinline name e (List.mem_cons_self ..)
      simp only [Draft.addSegment] at hd₁
      split at hd₁
      · rename_i b hb
        obtain rfl := Except.ok.inj hd₁
        exact hadd _ rfl (.inline hx he hb hsource)
      · exact absurd hd₁ (by simp)
    | tail name allowEmpty =>
      obtain rfl := Except.ok.inj hd₁
      refine hadd _ rfl (.group ?_)
      cases allowEmpty with
      | false =>
        exact (staysInLimits_plain (u := ['.', '+', ')']) (forall_mem_of_all (by decide))).trans hsource.limits
      | true =>
        exact (staysInLimits_plain (u := ['.', '*', ')']) (forall_mem_of_all (by decide))).trans hsource.limits
    | boundary =>
      unfold Draft.addSegment at hd₁
      dsimp only at hd₁
      split at hd₁
      · exact absurd hd₁ (by simp)
      · split at hd₁
        · obtain rfl := Except.ok.inj hd₁
          refine hadd _ rfl ⟨?_, rfl⟩
          refine (staysInLimits_extension (by decide)).trans ?_
          refine (staysInLimits_plain (u := ['=', '/', '|']) (t := '\\' :: 'Z' :: ')' :: w)
            (forall_mem_of_all (by decide))).trans ?_
          show (codeFits 'Z' _ && staysInLimits (')' :: w)) = true
          rw [staysInLimits_char (by decide), charFits_other (by decide), hsource.limits]
          rfl
        · obtain rfl := Except.ok.inj hd₁
          exact hadd [] (List.append_nil _).symm hsource

end Source

end PathRouter
