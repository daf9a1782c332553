import PathRouter.Proofs.GuardAbreast

/-!
# Expressions as they are written

The ordinary expressions: characters, escapes and bracket classes, quantifiers, groups that capture
or do not, and alternatives. Here they are trees, and the text of a tree is what its tokens spell.
The reader that takes such a text goes from token to token, except that a numeric escape takes the
characters after it with it. So all of its numerals are within the reader's limits.
-/

namespace PathRouter
set_option autoImplicit false

open Regex

namespace Written

/-! ## Quantifiers -/

/-- Digits of ASCII, at least one. -/
structure Numeral where
  digits : Text
  ne_nil : digits ≠ []
  forall_isDigit : ∀ c ∈ digits, isDigit c = true

/-- The number that is spelled. -/
def Numeral.value (n : Numeral) : Nat :=
  valueOf 10 digitValue 0 n.digits

/-- The digits of a bound that may be missing. -/
def boundText (bound : Option Numeral) : Text :=
  (bound.map Numeral.digits).getD []

/-- How many copies a quantifier asks for. -/
inductive Count
  | star
  | plus
  | mark
  | exactly (n : Numeral)
  /-- Bounds with a comma between them. Either may be missing. -/
  | range (low high : Option Numeral)

namespace Count

def text : Count → Text
  | star => ['*']
  | plus => ['+']
  | mark => ['?']
  | exactly n => '\x7b' :: n.digits ++ ['\x7d']
  | range low high => '\x7b' :: boundText low ++ ',' :: boundText high ++ ['\x7d']

/-- The numeral of the maximum. -/
def limit? : Count → Option Numeral
  | exactly n => some n
  | range _ high => high
  | star | plus | mark => none

/-- The maximum, if there is one. -/
def most : Count → Option Nat
  | star | plus => none
  | mark => some 1
  | exactly n => some n.value
  | range _ high => high.map Numeral.value

end Count

/-- A count, which may be followed by what makes it lazy or possessive. -/
structure Quantifier where
  count : Count
  mode : Mode

/-- What stands for a mode. -/
def modeText : Mode → Text
  | .greedy => []
  | .lazy => ['?']
  | .possessive => ['+']

namespace Quantifier

def text (q : Quantifier) : Text :=
  q.count.text ++ modeText q.mode

/-- There is no maximum. -/
def isUnbounded (q : Quantifier) : Bool :=
  q.count.most.isNone

/-- The maximum is above one, or there is none. -/
def isRepeated (q : Quantifier) : Bool :=
  q.count.most.all fun n => decide (1 < n)

/-- The numeral of the maximum is not too long. -/
def Fits (q : Quantifier) : Prop :=
  ∀ n ∈ q.count.limit?, n.digits.length ≤ Text.maxDigits

end Quantifier

/-! ## Leaves -/

/-- A letter or a punctuation mark of ASCII. -/
def isEscapable (c : Char) : Bool :=
  decide (33 ≤ c.toNat) && decide (c.toNat ≤ 126) && !isDigit c

/-- What stands in a bracket class. -/
inductive ClassItem
  | char (c : Char) (h : c ≠ ']' ∧ c ≠ '\\')
  | escape (c : Char) (h : isEscapable c = true)

def ClassItem.text : ClassItem → Text
  | char c _ => [c]
  | escape c _ => ['\\', c]

/-- A bracket class. -/
structure BracketClass where
  negated : Bool
  /-- A closing bracket stands first. -/
  closing : Bool
  items : List ClassItem
  ne_nil : closing = true ∨ items ≠ []
  not_caret : negated = false → closing = false → ∀ h rest, items ≠ .char '^' h :: rest

/-- What stands between the brackets. -/
def BracketClass.body (b : BracketClass) : Text :=
  (if b.negated then ['^'] else []) ++ ((if b.closing then [']'] else []) ++
    b.items.flatMap ClassItem.text)

/-- A piece that has no other pieces in it. -/
inductive Leaf
  /-- A dot, a caret, a dollar sign, or a character without a meaning of its own. -/
  | char (c : Char) (h : c ∉ ['\\', '[', '(', ')', '|', '*', '+', '?', '\x7b'])
  | escape (c : Char) (h : isEscapable c = true)
  | bracket (b : BracketClass)

def Leaf.text : Leaf → Text
  | char c _ => [c]
  | escape c _ => ['\\', c]
  | bracket b => '[' :: b.body ++ [']']

/-! ## Tokens -/

/-- A leaf or an end of a group with the quantifier after it, or what begins a group or an
alternative. -/
inductive Token
  | leaf (leaf : Leaf) (quantifier : Option Quantifier)
  | opening (captures : Bool)
  | closing (quantifier : Option Quantifier)
  | bar

/-- A quantifier that may be missing. -/
def quantifierText (quantifier : Option Quantifier) : Text :=
  (quantifier.map Quantifier.text).getD []

namespace Token

def text : Token → Text
  | leaf a q => a.text ++ quantifierText q
  | opening captures => if captures then ['('] else ['(', '?', ':']
  | closing q => ')' :: quantifierText q
  | bar => ['|']

def quantifier? : Token → Option Quantifier
  | leaf _ q | closing q => q
  | opening _ | bar => none

end Token

/-- What tokens spell. -/
def textOf (tokens : List Token) : Text :=
  tokens.flatMap Token.text

end Written

open Written

/-! ## Trees -/

/-- An expression, or the rest of one within a group: nothing, or a piece and what follows it. -/
inductive Written
  | done
  | leaf (leaf : Leaf) (quantifier : Option Quantifier) (next : Written)
  | group (captures : Bool) (body : Written) (quantifier : Option Quantifier) (next : Written)
  /-- Another alternative begins. -/
  | bar (next : Written)

namespace Written

def tokens : Written → List Token
  | done => []
  | leaf a q next => .leaf a q :: next.tokens
  | group captures body q next => .opening captures :: body.tokens ++ .closing q :: next.tokens
  | bar next => .bar :: next.tokens

def text (t : Written) : Text :=
  textOf t.tokens

/-- The groups at any depth, each with the quantifier after it. -/
def groups : Written → List (Written × Option Quantifier)
  | done => []
  | leaf _ _ next | bar next => next.groups
  | group _ body q next => (body, q) :: body.groups ++ next.groups

/-- At some depth there is a quantifier without a maximum. -/
def HoldsUnbounded (t : Written) : Prop :=
  ∃ token ∈ t.tokens, ∃ q ∈ token.quantifier?, q.isUnbounded = true

/-- At some depth there are alternatives. -/
def HoldsAlternatives (t : Written) : Prop :=
  ∃ token ∈ t.tokens, token = .bar

/-- Some group may be repeated and holds a quantifier without a maximum, or alternatives. -/
def RepeatsChoice (t : Written) : Prop :=
  ∃ group ∈ t.groups, ∃ q ∈ group.2, q.isRepeated = true ∧
    (group.1.HoldsUnbounded ∨ group.1.HoldsAlternatives)

end Written

namespace Written

/-! ## Where texts begin -/

theorem Quantifier.text_head (q : Quantifier) :
    ∃ c s, q.text = c :: s ∧ isQuantifierStart c = true := by
  obtain ⟨count, mode⟩ := q
  cases count with
  | star => exact ⟨'*', _, rfl, by decide⟩
  | plus => exact ⟨'+', _, rfl, by decide⟩
  | mark => exact ⟨'?', _, rfl, by decide⟩
  | exactly n => exact ⟨'\x7b', _, rfl, by decide⟩
  | range low high => exact ⟨'\x7b', _, rfl, by decide⟩

theorem Token.text_head (token : Token) :
    ∃ c s, token.text = c :: s ∧ isQuantifierStart c = false := by
  cases token with
  | leaf a q =>
    cases a with
    | char c h =>
      refine ⟨c, _, rfl, ?_⟩
      simp only [List.mem_cons, List.not_mem_nil, or_false, not_or] at h
      simp [isQuantifierStart, h]
    | escape c h => exact ⟨'\\', _, rfl, by decide⟩
    | bracket b => exact ⟨'[', _, rfl, by decide⟩
  | opening captures => cases captures <;> exact ⟨'(', _, rfl, by decide⟩
  | closing q => exact ⟨')', _, rfl, by decide⟩
  | bar => exact ⟨'|', _, rfl, by decide⟩

/-- No text of tokens begins like a quantifier. -/
theorem textOf_head (tokens : List Token) {c : Char} (h : (textOf tokens).head? = some c) :
    isQuantifierStart c = false := by
  cases tokens with
  | nil => exact absurd h (by simp [textOf])
  | cons token tokens =>
    obtain ⟨d, s, htext, hd⟩ := token.text_head
    rw [textOf, List.flatMap_cons, htext] at h
    obtain rfl := Option.some.inj h
    exact hd

/-! ## Reading quantifiers -/

theorem readWhile_word {p : Char → Bool} {n : Nat} {w s u rest : Text}
    (hw : ∀ c ∈ w, p c = true) (hs : ∀ c, s.head? = some c → p c = false) (hn : w.length ≤ n)
    (h : readWhile p n (w ++ s) = .ok (u, rest)) : u = w ∧ rest = s := by
  induction w generalizing n u with
  | nil =>
    rw [List.nil_append, readWhile_stop hs] at h
    obtain ⟨rfl, rfl⟩ := Prod.mk.inj (Except.ok.inj h)
    exact ⟨rfl, rfl⟩
  | cons c w ih =>
    rw [List.forall_mem_cons] at hw
    cases n with
    | zero => exact absurd hn (by simp)
    | succ n =>
      rw [List.cons_append, readWhile, if_pos hw.1] at h
      obtain ⟨⟨⟩, -, h⟩ := bind_eq_ok_iff.1 h
      obtain ⟨⟨more, r⟩, hmore, h⟩ := bind_eq_ok_iff.1 h
      obtain ⟨rfl, rfl⟩ := Prod.mk.inj (Except.ok.inj h)
      obtain ⟨rfl, rfl⟩ := ih hw.2 (Nat.le_of_succ_le_succ hn) hmore
      exact ⟨rfl, rfl⟩

theorem forall_isDigit_boundText (bound : Option Numeral) :
    ∀ c ∈ boundText bound, isDigit c = true := by
  cases bound with
  | none => simp [boundText]
  | some n => exact n.forall_isDigit

theorem isDigit_punctuation {d : Char} (hd : d ∈ [',', '\x7d']) (s : Text) (c : Char)
    (hc : (d :: s).head? = some c) : isDigit c = false := by
  obtain rfl := Option.some.inj hc
  exact forall_eq_false (p := isDigit) (by decide) d hd

theorem readBraces_exactly {n : Numeral} {rest after : Text} {found : Option Bounds}
    (h : readBraces (n.digits ++ '\x7d' :: rest) = .ok (found, after)) :
    ∃ b place, found = some b ∧ after = rest ∧ boundsOf n.digits n.digits place = .ok b := by
  have hhead : (n.digits ++ '\x7d' :: rest).head? ≠ some '\x7d' := by
    obtain ⟨d, ds, hdigits⟩ := List.exists_cons_of_ne_nil n.ne_nil
    have hd := n.forall_isDigit d (by simp [hdigits])
    rw [hdigits, List.cons_append, List.head?_cons, Ne, Option.some.injEq]
    rintro rfl
    exact absurd hd (by decide)
  rw [readBraces, if_neg hhead] at h
  obtain ⟨⟨low, r⟩, hlow, h⟩ := bind_eq_ok_iff.1 h
  obtain ⟨rfl, rfl⟩ := readWhile_word n.forall_isDigit (isDigit_punctuation (by simp) rest)
    (by simp) hlow
  obtain ⟨⟨digits, r⟩, hhigh, h⟩ := bind_eq_ok_iff.1 h
  obtain ⟨rfl, rfl⟩ := Prod.mk.inj (Except.ok.inj hhigh)
  obtain ⟨⟨⟩, -, h⟩ := bind_eq_ok_iff.1 h
  obtain ⟨b, hb, h⟩ := bind_eq_ok_iff.1 h
  obtain ⟨rfl, rfl⟩ := Prod.mk.inj (Except.ok.inj h)
  exact ⟨b, _, rfl, rfl, hb⟩

theorem readBraces_range {low high : Option Numeral} {rest after : Text} {found : Option Bounds}
    (h : readBraces (boundText low ++ ',' :: (boundText high ++ '\x7d' :: rest)) =
      .ok (found, after)) :
    ∃ b place, found = some b ∧ after = rest ∧
      boundsOf (boundText low) (boundText high) place = .ok b := by
  have hhead : (boundText low ++ ',' :: (boundText high ++ '\x7d' :: rest)).head? ≠
      some '\x7d' := by
    cases hdigits : boundText low with
    | nil => simp
    | cons d ds =>
      have hd := forall_isDigit_boundText low d (by simp [hdigits])
      rw [List.cons_append, List.head?_cons, Ne, Option.some.injEq]
      rintro rfl
      exact absurd hd (by decide)
  rw [readBraces, if_neg hhead] at h
  obtain ⟨⟨digits, r⟩, hlow, h⟩ := bind_eq_ok_iff.1 h
  obtain ⟨rfl, rfl⟩ := readWhile_word (forall_isDigit_boundText low)
    (isDigit_punctuation (by simp) _) (by simp) hlow
  obtain ⟨⟨digits, r⟩, hhigh, h⟩ := bind_eq_ok_iff.1 h
  obtain ⟨⟨⟩, -, hhigh⟩ := bind_eq_ok_iff.1 hhigh
  obtain ⟨rfl, rfl⟩ := readWhile_word (forall_isDigit_boundText high)
    (isDigit_punctuation (by simp) rest) (by simp) hhigh
  obtain ⟨⟨⟩, -, h⟩ := bind_eq_ok_iff.1 h
  obtain ⟨b, hb, h⟩ := bind_eq_ok_iff.1 h
  obtain ⟨rfl, rfl⟩ := Prod.mk.inj (Except.ok.inj h)
  exact ⟨b, _, rfl, rfl, hb⟩

theorem length_of_boundsOf {low high : Text} {place : Nat} {b : Bounds}
    (h : boundsOf low high place = .ok b) : high.length ≤ Text.maxDigits := by
  obtain ⟨rfl, -⟩ | ⟨-, n, hn, -⟩ := Guard.boundsOf_eq_ok h
  · exact Nat.zero_le _
  · unfold readCount at hn
    dsimp only at hn
    split at hn
    · exact absurd hn (by simp)
    · exact Nat.not_lt.1 ‹_›

/-- What is written as a quantifier is read as bounds, and its maximum is within the limits. -/
theorem Count.fits_of_readBounds {count : Count} {c : Char} {s t after : Text}
    {found : Option Bounds} (htext : count.text ++ t = c :: s)
    (h : readBounds c s = .ok (found, after)) :
    (∃ b, found = some b) ∧ after = t ∧ ∀ n ∈ count.limit?, n.digits.length ≤ Text.maxDigits := by
  cases count with
  | star | plus | mark =>
    obtain ⟨rfl, rfl⟩ := List.cons.inj htext
    obtain ⟨rfl, rfl⟩ := Prod.mk.inj (Except.ok.inj h)
    exact ⟨⟨_, rfl⟩, rfl, by simp [limit?]⟩
  | exactly n =>
    obtain ⟨rfl, rfl⟩ := List.cons.inj htext
    rw [readBounds, if_neg (by decide), if_neg (by decide), if_neg (by decide)] at h
    have hbraces : readBraces (n.digits ++ '\x7d' :: t) = .ok (found, after) := by simpa using h
    obtain ⟨b, place, hfound, hafter, hb⟩ := readBraces_exactly hbraces
    refine ⟨⟨b, hfound⟩, hafter, fun m hm => ?_⟩
    obtain rfl := Option.some.inj hm
    exact length_of_boundsOf hb
  | range low high =>
    obtain ⟨rfl, rfl⟩ := List.cons.inj htext
    rw [readBounds, if_neg (by decide), if_neg (by decide), if_neg (by decide)] at h
    have hbraces : readBraces (boundText low ++ ',' :: (boundText high ++ '\x7d' :: t)) =
        .ok (found, after) := by simpa using h
    obtain ⟨b, place, hfound, hafter, hb⟩ := readBraces_range hbraces
    refine ⟨⟨b, hfound⟩, hafter, fun m hm => ?_⟩
    have hhigh : high = some m := hm
    have hlength := length_of_boundsOf hb
    rwa [hhigh] at hlength

theorem readMode_text {mode mode' : Mode} {t rest : Text}
    (ht : ∀ c, t.head? = some c → isQuantifierStart c = false)
    (h : readMode (modeText mode ++ t) = .ok (mode', rest)) : rest = t := by
  cases mode with
  | lazy | possessive =>
    obtain ⟨⟨⟩, -, h⟩ := bind_eq_ok_iff.1 h
    exact (Prod.mk.inj (Except.ok.inj h)).2.symm
  | greedy =>
    change readMode t = _ at h
    unfold readMode at h
    split at h
    · exact absurd (ht '?' rfl) (by decide)
    · exact absurd (ht '+' rfl) (by decide)
    · exact (Prod.mk.inj (Except.ok.inj h)).2.symm

/-! ## Classes -/

open Confine

theorem passes_items (items : List ClassItem) : Passes (items.flatMap ClassItem.text) := by
  induction items with
  | nil => exact .nil
  | cons item items ih =>
    rw [List.flatMap_cons]
    refine Passes.append ?_ ih
    cases item with
    | char c h => exact .char h.2 h.1
    | escape c h => exact .escape c

theorem flatMap_items_ne_nil {items : List ClassItem} (h : items ≠ []) :
    items.flatMap ClassItem.text ≠ [] := by
  obtain ⟨item, items, rfl⟩ := List.exists_cons_of_ne_nil h
  cases item <;> simp [ClassItem.text]

/-- A class ends where it is written to end. -/
theorem splitClass_body (b : BracketClass) (rest : Text) :
    splitClass (b.body ++ ']' :: rest) = some (b.body, rest) := by
  obtain ⟨negated, closing, items, hne, hcaret⟩ := b
  let members := items.flatMap ClassItem.text
  have hfirst : splitFirst ((if closing then [']'] else []) ++ members ++ ']' :: rest) =
      some ((if closing then [']'] else []) ++ members, rest) := by
    cases closing with
    | true =>
      show (splitMembers (members ++ ']' :: rest)).map _ = _
      rw [passes_items items, splitMembers_end]
      simp [members]
    | false =>
      have hitems : items ≠ [] := by simpa using hne
      have hsplit : splitFrom true (members ++ ']' :: rest) = _ :=
        splitFrom_of_passes true (fun _ => flatMap_items_ne_nil hitems) (passes_items items)
      rw [splitMembers_end] at hsplit
      simpa [splitFrom] using hsplit
  cases negated with
  | true =>
    show (splitFirst ((if closing then [']'] else []) ++ members ++ ']' :: rest)).map _ = _
    rw [hfirst]
    rfl
  | false =>
    have hhead (s : Text) :
        (if closing then [']'] else []) ++ members ++ ']' :: rest ≠ '^' :: s := by
      cases closing with
      | true => exact fun he => absurd (List.cons.inj he).1 (by decide)
      | false =>
        cases items with
        | nil => exact fun he => absurd (List.cons.inj he).1 (by decide)
        | cons item items =>
          cases item with
          | char c h =>
            intro he
            obtain rfl : c = '^' := (List.cons.inj he).1
            exact hcaret rfl rfl h items rfl
          | escape c h => exact fun he => absurd (List.cons.inj he).1 (by decide)
    show splitClass ((if closing then [']'] else []) ++ members ++ ']' :: rest) = _
    rw [splitClass]
    · exact hfirst
    · exact hhead

/-! ## Going from token to token -/

/-- The numerals of a quantifier that is still to be read and of the tokens after it. -/
def AllFit (pending : Option Quantifier) (tokens : List Token) : Prop :=
  (∀ q ∈ pending, q.Fits) ∧ ∀ token ∈ tokens, ∀ q ∈ token.quantifier?, q.Fits

theorem AllFit.cons {token : Token} {tokens : List Token} (h : AllFit token.quantifier? tokens) :
    AllFit none (token :: tokens) :=
  ⟨by simp, List.forall_mem_cons.2 h⟩

theorem Count.text_brace {count : Count} {c : Char} {s t : Text}
    (h : count.text ++ t = '\x7b' :: c :: s) : isDigit c = true ∨ c = ',' := by
  cases count with
  | star | plus | mark => exact absurd (List.cons.inj h).1 (by decide)
  | exactly n =>
    obtain ⟨d, ds, hdigits⟩ := List.exists_cons_of_ne_nil n.ne_nil
    have he : d = c := by simp [text, hdigits] at h; exact h.1
    exact .inl (he ▸ n.forall_isDigit d (by simp [hdigits]))
  | range low high =>
    cases hdigits : boundText low with
    | nil =>
      have he : ',' = c := by simp [text, hdigits] at h; exact h.1
      exact .inr he.symm
    | cons d ds =>
      have he : d = c := by simp [text, hdigits] at h; exact h.1
      exact .inl (he ▸ forall_isDigit_boundText low d (by simp [hdigits]))

/-- Only a character by itself begins with a character that means nothing to the guard. -/
theorem Token.eq_of_isPlain {token : Token} {c : Char} {s t : Text} (hc : Guard.isPlain c = true)
    (h : token.text ++ t = c :: s) : s = quantifierText token.quantifier? ++ t := by
  have hne {d : Char} {u : Text} (hd : Guard.isPlain d = false) : d :: u ≠ c :: s := by
    intro he
    rw [(List.cons.inj he).1] at hd
    exact absurd (hd.symm.trans hc) (by simp)
  cases token with
  | leaf a q =>
    cases a with
    | char d hd => exact (List.cons.inj h).2.symm
    | escape d hd => exact absurd h (hne (by decide))
    | bracket b => exact absurd h (hne (by decide))
  | opening captures => cases captures <;> exact absurd h (hne (by decide))
  | closing q => exact absurd h (hne (by decide))
  | bar => exact absurd h (hne (by decide))

/-- What a numeric escape takes with it are characters that are tokens by themselves. -/
theorem exists_tokens_of_digits {pending : Option Quantifier} {tokens : List Token}
    {used rest : Text} (hused : ∀ c ∈ used, isHexDigit c = true)
    (h : quantifierText pending ++ textOf tokens = used ++ rest) :
    ∃ pending' tokens', rest = quantifierText pending' ++ textOf tokens' ∧
      (AllFit pending' tokens' → AllFit pending tokens) := by
  induction used generalizing pending tokens with
  | nil => exact ⟨pending, tokens, h.symm, id⟩
  | cons d used ih =>
    rw [List.forall_mem_cons] at hused
    have hplain : Guard.isPlain d = true := Guard.isPlain_of_isHexDigit hused.1
    cases pending with
    | some q =>
      obtain ⟨c, s, htext, hc⟩ := q.text_head
      rw [quantifierText, Option.map_some, Option.getD_some, htext] at h
      obtain rfl : c = d := (List.cons.inj h).1
      exact absurd hplain (by simp [Guard.isPlain, hc])
    | none =>
      cases tokens with
      | nil => exact absurd h (by simp [quantifierText, textOf])
      | cons token tokens =>
        have htext : token.text ++ textOf tokens = d :: (used ++ rest) := h
        obtain ⟨pending', tokens', hrest, hfit⟩ :=
          ih hused.2 (Token.eq_of_isPlain hplain htext).symm
        exact ⟨pending', tokens', hrest, fun h => .cons (hfit h)⟩

/-- What an escape takes with it ends with a token. No quantifier is the name of a character. -/
theorem exists_tokens_of_escapeTail {pending : Option Quantifier} {tokens : List Token}
    {used rest : Text} (hused : EscapeTail used)
    (h : quantifierText pending ++ textOf tokens = used ++ rest) :
    ∃ pending' tokens', rest = quantifierText pending' ++ textOf tokens' ∧
      (AllFit pending' tokens' → AllFit pending tokens) := by
  cases hused with
  | digits hdigits => exact exists_tokens_of_digits hdigits h
  | @name name hname =>
    cases pending with
    | none =>
      exact absurd (textOf_head tokens (by rw [show textOf tokens = _ from h]; rfl)) (by decide)
    | some q =>
      obtain ⟨c, more, rfl⟩ : ∃ c more, name = c :: more := by
        cases name with
        | nil => exact absurd hname (by simp [CodePoint.isSpelling])
        | cons c more => exact ⟨c, more, rfl⟩
      have hletter : CodePoint.isAsciiLetter c.toNat = true := (Bool.and_eq_true_iff.1 hname).1
      have hbrace : q.count.text ++ (modeText q.mode ++ textOf tokens) =
          '\x7b' :: c :: (more ++ '\x7d' :: rest) := by
        simpa [quantifierText, Quantifier.text] using h
      rcases Count.text_brace hbrace with hdigit | rfl
      · have hdecimal := Guard.isDecimal_of_isDigit hdigit
        rw [Guard.isDecimal_of_isAsciiLetter hletter] at hdecimal
        exact absurd hdecimal (by simp)
      · exact absurd hletter (by decide)

/-- Nothing is skipped in any open group. -/
structure IsQuiet (p : Progress) : Prop where
  frame : p.frame.verbose = false
  outer : ∀ f ∈ p.outer, f.verbose = false

section Steps

variable {p q : Progress} {c : Char} {s rest : Text} {tokens : List Token}

theorem IsQuiet.add (hp : IsQuiet p) (n : Node) : IsQuiet (p.add n) :=
  ⟨hp.frame, hp.outer⟩

theorem IsQuiet.enter (hp : IsQuiet p) (kind : GroupKind) (place : Nat) :
    IsQuiet (p.enter kind place false) :=
  ⟨rfl, List.forall_mem_cons.2 ⟨hp.frame, hp.outer⟩⟩

theorem IsQuiet.leave {f : Frame} {fs : List Frame} (hp : IsQuiet p) (houter : p.outer = f :: fs) :
    IsQuiet (p.leave f fs) := by
  have hall := hp.outer
  rw [houter, List.forall_mem_cons] at hall
  exact ⟨hall.1, hall.2⟩

theorem IsQuiet.nextAlternative {left : Nat} (hp : IsQuiet p)
    (h : p.nextAlternative left = .ok q) : IsQuiet q := by
  unfold Progress.nextAlternative at h
  split at h
  · exact absurd h fault_ne_ok
  · obtain rfl := Except.ok.inj h
    exact ⟨hp.frame, hp.outer⟩

/-- A quantifier is read to its end. -/
theorem read_quantifier {x : Quantifier} (hp : IsQuiet p) (htext : x.text ++ textOf tokens = c :: s)
    (h : Construct p (c :: s) q rest) : IsQuiet q ∧ rest = textOf tokens ∧ x.Fits := by
  have hstart : isQuantifierStart c = true := by
    obtain ⟨d, t, hhead, hd⟩ := x.text_head
    rw [hhead] at htext
    exact (List.cons.inj htext).1 ▸ hd
  rw [Quantifier.text, List.append_assoc] at htext
  cases h with
  | brace _ hread =>
    obtain ⟨⟨b, hb⟩, -, -⟩ := Count.fits_of_readBounds htext hread
    exact absurd hb (by simp)
  | quantifier _ hread hq =>
    obtain ⟨-, rfl, hfits⟩ := Count.fits_of_readBounds htext hread
    obtain ⟨part, parts, mode, -, -, hmode, rfl⟩ := Guard.quantify_eq_ok hq
    exact ⟨⟨hp.frame, hp.outer⟩, readMode_text (fun _ => textOf_head tokens) hmode, hfits⟩
  | blank hverbose _ => exact absurd (hp.frame.symm.trans hverbose) (by simp)
  | anchor hc => rcases hc with rfl | rfl <;> exact absurd hstart (by decide)
  | char _ hnot _ => exact absurd (hnot.symm.trans hstart) (by simp)
  | backslash | escape _ | bar _ | close _ | line _ _ _ | «class» _ _ | opening _ _ _ =>
    exact absurd hstart (by decide)

theorem read_char (hp : IsQuiet p)
    (hc : c ∉ ['\\', '[', '(', ')', '|', '*', '+', '?', '\x7b'])
    (h : Construct p (c :: s) q rest) : IsQuiet q ∧ rest = s := by
  cases h with
  | char _ _ _ => exact ⟨hp.add _, rfl⟩
  | anchor _ => exact ⟨hp.add _, rfl⟩
  | blank hverbose _ | line hverbose _ _ => exact absurd (hp.frame.symm.trans hverbose) (by simp)
  | brace hstart _ | quantifier hstart _ _ =>
    simp only [List.mem_cons, List.not_mem_nil, or_false, not_or] at hc
    exact absurd hstart (by simp [isQuantifierStart, hc])
  | backslash | escape _ | bar _ | close _ | «class» _ _ | opening _ _ _ =>
    exact absurd hc (by decide)

theorem read_escape (hp : IsQuiet p) (hc : isEscapable c = true)
    (h : Construct p ('\\' :: c :: s) q rest) :
    IsQuiet q ∧ ∃ used, s = used ++ rest ∧ EscapeTail used := by
  cases h with
  | escape hn =>
    have hdigit : isDigit c = false := by
      simp only [isEscapable, Bool.and_eq_true, Bool.not_eq_true'] at hc
      exact hc.2
    exact ⟨hp.add _, readEscape_used hn fun he => absurd (hdigit.symm.trans he.1) (by simp)⟩
  | blank hverbose _ => exact absurd (hp.frame.symm.trans hverbose) (by simp)
  | brace hstart _ | quantifier hstart _ _ => exact absurd hstart (by decide)
  | anchor hc => rcases hc with he | he <;> exact absurd he (by decide)
  | char hother _ _ => exact absurd hother (by decide)

theorem read_class {b : BracketClass} {t : Text} (hp : IsQuiet p) (hs : s = b.body ++ ']' :: t)
    (h : Construct p ('[' :: s) q rest) : IsQuiet q ∧ rest = t := by
  cases h with
  | «class» hne hread =>
    obtain ⟨-, body, hsplit⟩ := readClass_split hne hread
    rw [hs, splitClass_body] at hsplit
    exact ⟨hp.add _, (Prod.mk.inj (Option.some.inj hsplit)).2.symm⟩
  | blank hverbose _ => exact absurd (hp.frame.symm.trans hverbose) (by simp)
  | brace hstart _ | quantifier hstart _ _ => exact absurd hstart (by decide)
  | anchor hc => rcases hc with he | he <;> exact absurd he (by decide)
  | char hother _ _ => exact absurd hother (by decide)

theorem read_opening {captures : Bool} (hp : IsQuiet p)
    (htext : (Token.opening captures).text ++ textOf tokens = '(' :: s)
    (h : Construct p ('(' :: s) q rest) : IsQuiet q ∧ rest = textOf tokens := by
  cases h with
  | opening hs ho hq =>
    cases captures with
    | true =>
      obtain rfl : textOf tokens = s := (List.cons.inj htext).2
      have hhead : ∀ r, textOf tokens ≠ '?' :: r := fun r he =>
        absurd (textOf_head tokens (by rw [he]; rfl)) (by decide)
      rw [readOpening] at ho
      · obtain ⟨rfl, rfl⟩ := Prod.mk.inj (Except.ok.inj ho)
        obtain rfl := Except.ok.inj hq
        exact ⟨⟨hp.frame, List.forall_mem_cons.2 ⟨hp.frame, hp.outer⟩⟩, rfl⟩
      · exact hhead
    | false =>
      obtain rfl : '?' :: ':' :: textOf tokens = s := (List.cons.inj htext).2
      obtain ⟨⟨⟩, -, ho⟩ := bind_eq_ok_iff.1 ho
      obtain ⟨⟨token, r⟩, htoken, ho⟩ := bind_eq_ok_iff.1 ho
      rw [readToken] at htoken
      · obtain ⟨⟨⟩, -, htoken⟩ := bind_eq_ok_iff.1 htoken
        obtain ⟨rfl, rfl⟩ := Prod.mk.inj (Except.ok.inj htoken)
        obtain ⟨rfl, rfl⟩ := Prod.mk.inj (Except.ok.inj ho)
        obtain rfl := Except.ok.inj hq
        have hverbose : ((p.frame.verbose || false) && true) = false := by simp [hp.frame]
        exact ⟨⟨hverbose, List.forall_mem_cons.2 ⟨hp.frame, hp.outer⟩⟩, rfl⟩
      · exact fun _ _ he => absurd he (by decide)
  | blank hverbose _ => exact absurd (hp.frame.symm.trans hverbose) (by simp)
  | brace hstart _ | quantifier hstart _ _ => exact absurd hstart (by decide)
  | anchor hc => rcases hc with he | he <;> exact absurd he (by decide)
  | char hother _ _ => exact absurd hother (by decide)

/-- What is left after the construct at a token: the token's quantifier and the tokens after it, or
less where an escape took tokens with it. -/
theorem read_token {token : Token} (hp : IsQuiet p) (hc : c ≠ ')' ∨ p.outer ≠ [])
    (htext : token.text ++ textOf tokens = c :: s) (h : Construct p (c :: s) q rest) :
    IsQuiet q ∧ ∃ pending' tokens', rest = quantifierText pending' ++ textOf tokens' ∧
      (AllFit pending' tokens' → AllFit token.quantifier? tokens) := by
  cases token with
  | leaf a x =>
    cases a with
    | char d hd =>
      obtain ⟨rfl, rfl⟩ := List.cons.inj htext
      obtain ⟨hq, rfl⟩ := read_char hp hd h
      exact ⟨hq, x, tokens, rfl, id⟩
    | escape d hd =>
      obtain ⟨rfl, rfl⟩ := List.cons.inj htext
      obtain ⟨hq, used, hs, hused⟩ := read_escape hp hd h
      exact ⟨hq, exists_tokens_of_escapeTail hused hs⟩
    | bracket b =>
      obtain ⟨rfl, rfl⟩ := List.cons.inj htext
      obtain ⟨hq, rfl⟩ := read_class (b := b) (t := quantifierText x ++ textOf tokens) hp
        (by simp) h
      exact ⟨hq, x, tokens, rfl, id⟩
  | opening captures =>
    have he : c = '(' := by cases captures <;> exact (List.cons.inj htext).1.symm
    subst he
    obtain ⟨hq, rfl⟩ := read_opening hp htext h
    exact ⟨hq, none, tokens, rfl, id⟩
  | closing x =>
    obtain ⟨rfl, rfl⟩ := List.cons.inj htext
    cases h with
    | close houter => exact ⟨hp.leave houter, x, tokens, rfl, id⟩
    | char _ _ hclose => exact absurd (hclose rfl) (hc.resolve_left (by simp))
    | blank hverbose _ => exact absurd (hp.frame.symm.trans hverbose) (by simp)
    | brace hstart _ | quantifier hstart _ _ => exact absurd hstart (by decide)
    | anchor hc => rcases hc with he | he <;> exact absurd he (by decide)
  | bar =>
    obtain ⟨rfl, rfl⟩ := List.cons.inj htext
    cases h with
    | bar hnext => exact ⟨hp.nextAlternative hnext, none, tokens, rfl, id⟩
    | char hother _ _ => exact absurd hother (by decide)
    | blank hverbose _ => exact absurd (hp.frame.symm.trans hverbose) (by simp)
    | brace hstart _ | quantifier hstart _ _ => exact absurd hstart (by decide)
    | anchor hc => rcases hc with he | he <;> exact absurd he (by decide)

end Steps

/-- Where a text of tokens can be read to its end, its numerals are within the limits. -/
theorem allFit_of_readConstructs {p : Progress} {s : Text} {q : Progress} (hp : IsQuiet p)
    (h : readConstructs p s = .ok (q, [])) {pending : Option Quantifier} {tokens : List Token}
    (htext : quantifierText pending ++ textOf tokens = s) : AllFit pending tokens := by
  fun_induction readConstructs p s generalizing pending tokens with
  | case1 p =>
    cases pending with
    | some x =>
      obtain ⟨c, t, hhead, -⟩ := x.text_head
      exact absurd htext (by simp [quantifierText, hhead])
    | none =>
      cases tokens with
      | nil => exact ⟨by simp, by simp⟩
      | cons token tokens =>
        obtain ⟨c, t, hhead, -⟩ := token.text_head
        exact absurd htext (by simp [quantifierText, textOf, hhead])
  | case2 p c s hend => exact absurd (Prod.mk.inj (Except.ok.inj h)).2 (by simp)
  | case3 p c s hgoes e hstep => exact absurd h (by simp)
  | case4 p c s hgoes q' rest hstep ih =>
    have hc : c ≠ ')' ∨ p.outer ≠ [] := by
      rw [← not_and_or]
      exact hgoes
    have hconstruct := construct_of_step hstep
    cases pending with
    | some x =>
      obtain ⟨hq, hrest, hfits⟩ := read_quantifier hp htext hconstruct
      have hfit : AllFit none tokens := ih hq h hrest.symm
      exact ⟨fun y hy => Option.some.inj hy ▸ hfits, hfit.2⟩
    | none =>
      cases tokens with
      | nil => exact absurd htext (by simp [quantifierText, textOf])
      | cons token tokens =>
        obtain ⟨hq, pending', tokens', hrest, hfit⟩ := read_token hp hc htext hconstruct
        exact .cons (hfit (ih hq h hrest.symm))

/-- The numerals of an ordinary expression are within the limits. -/
theorem fits_of_ofText {t : Written} {e : Expression} (h : Expression.ofText t.text = .ok e) :
    ∀ token ∈ t.tokens, ∀ q ∈ token.quantifier?, q.Fits := by
  obtain ⟨-, p, hread, -⟩ := readConstructs_of_readExpression (readExpression_of_ofText h)
  have hstart : IsQuiet (.start t.text.length) := ⟨rfl, by simp [Progress.start]⟩
  have hfit : AllFit none t.tokens := allFit_of_readConstructs hstart hread rfl
  exact hfit.2

end Written

end PathRouter
