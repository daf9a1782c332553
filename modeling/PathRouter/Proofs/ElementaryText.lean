import PathRouter.Proofs.SplicedText

/-!
# Elementary expressions

An expression is elementary if it is built from characters, dots, escapes for classes of characters
and for characters that are no letters or digits, bracket classes with such escapes, groups with or
without a capture, bars, and quantifiers that are not possessive. This is read off its text.
`Spelled` says the same of what is left of a text inside some groups, and if it is not `strict` it
allows what narrowing adds: the look ahead before a class.
-/

namespace PathRouter.Regex
set_option autoImplicit false

/-- The escape stands for a class of characters, or for its character, which is no letter and no
digit. -/
def isElementaryEscape (c : Char) : Bool :=
  (categoryMember? c).isSome || !(isDigit c || isLetter c)

/-- The escapes in the body of a class are elementary. -/
def hasElementaryEscapes : Text → Bool
  | [] => true
  | '\\' :: c :: s => isElementaryEscape c && hasElementaryEscapes s
  | _ :: s => hasElementaryEscapes s

/-- The parenthesis before the text opens a group that captures, or one that does nothing else than
hold its parts together. -/
def opensPlainly (s : Text) : Bool :=
  s.head? != some '?' || s.take 2 == ['?', ':']

/-- The character begins a quantifier, and a plus sign after it makes it possessive. -/
def isPossessive (c : Char) (s : Text) : Bool :=
  isQuantifierStart c &&
    match readBounds c s with
    | .ok (some _, after) => after.head? == some '+'
    | _ => false

/-- What is left of an expression is elementary and closes as many groups as are open. -/
def isElementaryFrom (depth : Nat) (s : Text) : Bool :=
  match s with
  | [] => depth == 0
  | '\\' :: s =>
    match s with
    | [] => false
    | c :: s => isElementaryEscape c && isElementaryFrom depth s
  | c :: s =>
    if c = '[' then
      match _h : Confine.splitClass s with
      | none => false
      | some (body, after) => hasElementaryEscapes body && isElementaryFrom depth after
    else if c = '(' then opensPlainly s && isElementaryFrom (depth + 1) s
    else if c = ')' then depth != 0 && isElementaryFrom (depth - 1) s
    else c != '^' && c != '$' && !isPossessive c s && isElementaryFrom depth s
termination_by s.length
decreasing_by
  · simp only [List.length_cons]
    omega
  · have := Confine.splitClass_length _h
    simp
    omega
  · simp
  · simp
  · simp

/-- The expression is elementary. -/
def isElementary (e : Text) : Bool :=
  isElementaryFrom 0 e

/-- The characters at which more than one is taken at once, or groups begin and end. -/
def framers : List Char :=
  ['\\', '[', '(', ')']

/-- What is left of an elementary expression inside `depth` groups. Only if it is not strict it may
have anchors, possessive quantifiers and the look ahead that narrowing adds. -/
inductive Spelled (strict : Bool) : Nat → Text → Prop
  | nil : Spelled strict 0 []
  | escape {d : Nat} {c : Char} {s : Text} : isElementaryEscape c = true → Spelled strict d s →
      Spelled strict d ('\\' :: c :: s)
  | class {d : Nat} {s b after : Text} : Confine.splitClass s = some (b, after) →
      hasElementaryEscapes b = true → Spelled strict d after → Spelled strict d ('[' :: s)
  | opening {d : Nat} {s : Text} :
      opensPlainly s = true ∨ strict = false ∧ s.take 2 = ['?', '!'] → Spelled strict (d + 1) s →
      Spelled strict d ('(' :: s)
  | close {d : Nat} {s : Text} : Spelled strict d s → Spelled strict (d + 1) (')' :: s)
  | char {d : Nat} {c : Char} {s : Text} : c ∉ framers →
      (strict = true → c ≠ '^' ∧ c ≠ '$' ∧ isPossessive c s = false) → Spelled strict d s →
      Spelled strict d (c :: s)

section Spelled

variable {strict : Bool} {d : Nat} {c : Char} {s b : Text}

theorem spelled_of_isElementaryFrom (h : isElementaryFrom d s = true) : Spelled true d s := by
  fun_induction isElementaryFrom d s with
  | case1 depth =>
    obtain rfl : depth = 0 := by simpa using h
    exact .nil
  | case2 => exact absurd h (by simp)
  | case3 depth c s ih =>
    rw [Bool.and_eq_true] at h
    exact .escape h.1 (ih h.2)
  | case4 => exact absurd h (by simp)
  | case5 depth s body after hsplit _ ih =>
    rw [Bool.and_eq_true] at h
    exact .class hsplit h.1 (ih h.2)
  | case6 depth s _ _ ih =>
    rw [Bool.and_eq_true] at h
    exact .opening (.inl h.1) (ih h.2)
  | case7 depth s _ _ _ ih =>
    rw [Bool.and_eq_true] at h
    obtain ⟨depth, rfl⟩ := Nat.exists_eq_succ_of_ne_zero (show depth ≠ 0 by simpa using h.1)
    exact .close (ih h.2)
  | case8 depth c s hesc hclass hopen hclose ih =>
    simp only [Bool.and_eq_true, bne_iff_ne, ne_eq, Bool.not_eq_true'] at h
    refine .char ?_ (fun _ => ⟨h.1.1.1, h.1.1.2, h.1.2⟩) (ih h.2)
    simp only [framers, List.mem_cons, List.not_mem_nil, or_false, not_or]
    exact ⟨hesc, hclass, hopen, hclose⟩

theorem Spelled.ne_backslash (h : Spelled strict d s) : s ≠ ['\\'] := by
  rintro rfl
  cases h with
  | char hc _ _ => exact hc (by decide)

/-- A character that is a construct by itself, or begins a quantifier. -/
theorem Spelled.char_cases (hc : c ∉ framers) (h : Spelled strict d (c :: s)) :
    (strict = true → c ≠ '^' ∧ c ≠ '$' ∧ isPossessive c s = false) ∧ Spelled strict d s := by
  cases h with
  | escape _ _ => exact absurd (by decide) hc
  | «class» _ _ _ => exact absurd (by decide) hc
  | opening _ _ => exact absurd (by decide) hc
  | close _ => exact absurd (by decide) hc
  | char _ hkept hs => exact ⟨hkept, hs⟩

theorem Spelled.of_char (hc : c ∉ framers) (h : Spelled strict d (c :: s)) : Spelled strict d s :=
  (h.char_cases hc).2

theorem not_mem_framers_of_isQuantifierStart (hc : isQuantifierStart c = true) : c ∉ framers := by
  have hframers : ∀ c ∈ framers, isQuantifierStart c = false := forall_eq_false (by decide)
  intro hm
  simp [hframers c hm] at hc

theorem Spelled.weaken (h : Spelled true d s) : Spelled strict d s := by
  induction h with
  | nil => exact .nil
  | escape hc _ ih => exact .escape hc ih
  | «class» hsplit hbody _ ih => exact .class hsplit hbody ih
  | opening hopen _ ih => exact .opening (.inl (hopen.resolve_right fun h => by simp at h)) ih
  | close _ ih => exact .close ih
  | char hc hkept _ ih => exact .char hc (fun _ => hkept rfl) ih

end Spelled

/-! ## Narrowing -/

section Narrowing

open Confine

variable {d : Nat} {c : Char} {s b r body after used : Text}

/-- The body of a class has no bracket that ends a class. -/
theorem Passes.of_splitMembers (h : splitMembers s = some (body, after)) : Passes body := by
  fun_induction splitMembers s generalizing body after with
  | case1 => exact absurd h (by simp)
  | case2 => exact absurd h (by simp)
  | case3 c s ih =>
    obtain ⟨⟨b, a⟩, hb, he⟩ := Option.map_eq_some_iff.1 h
    obtain ⟨rfl, rfl⟩ := Prod.mk.inj he
    exact (Passes.escape c).append (ih hb)
  | case4 s _ =>
    obtain ⟨rfl, rfl⟩ := Prod.mk.inj (Option.some.inj h)
    exact .nil
  | case5 c s hc hclose ih =>
    obtain ⟨⟨b, a⟩, hb, he⟩ := Option.map_eq_some_iff.1 h
    obtain ⟨rfl, rfl⟩ := Prod.mk.inj he
    exact (Passes.char hc hclose).append (ih hb)

/-- A class whose body is lengthened ends behind the longer body. -/
theorem splitFirst_append (h : splitFirst s = some (body, after)) (hused : Passes used) :
    body ≠ [] ∧ splitFirst (body ++ used ++ ']' :: r) = some (body ++ used, r) := by
  unfold splitFirst at h
  split at h
  · obtain ⟨⟨b, a⟩, hb, he⟩ := Option.map_eq_some_iff.1 h
    obtain ⟨rfl, rfl⟩ := Prod.mk.inj he
    refine ⟨by simp, ?_⟩
    show (splitMembers (b ++ used ++ ']' :: r)).map _ = _
    rw [((Passes.of_splitMembers hb).append hused), splitMembers_end]
    simp
  · rename_i hhead
    have hne : body ≠ [] := by
      rintro rfl
      exact hhead _ (splitMembers_eq h)
    refine ⟨hne, ?_⟩
    show splitFrom true (body ++ used ++ ']' :: r) = _
    rw [splitFrom_of_passes true (by simp [hne]) ((Passes.of_splitMembers h).append hused),
      splitMembers_end]
    simp

theorem splitClass_append (h : splitClass s = some (body, after)) (hused : Passes used) :
    splitClass (body ++ used ++ ']' :: r) = some (body ++ used, r) := by
  have hhead := splitClass_head h
  unfold splitClass at h
  split at h
  · obtain ⟨⟨b, a⟩, hb, he⟩ := Option.map_eq_some_iff.1 h
    obtain ⟨rfl, rfl⟩ := Prod.mk.inj he
    show (splitFirst (b ++ used ++ ']' :: r)).map _ = _
    rw [(splitFirst_append hb hused).2]
    rfl
  · rename_i hnot
    obtain ⟨hne, hsplit⟩ := splitFirst_append (r := r) h hused
    rw [splitClass]
    · exact hsplit
    · intro more he
      obtain ⟨d, rest, rfl⟩ := List.exists_cons_of_ne_nil hne
      obtain ⟨rfl, -⟩ := List.cons.inj he
      obtain ⟨s', rfl⟩ := List.head?_eq_some_iff.1 (hhead.1 rfl)
      exact hnot s' rfl

theorem hasElementaryEscapes_slash (h : hasElementaryEscapes body = true) :
    hasElementaryEscapes (body ++ ['/']) = true := by
  fun_induction hasElementaryEscapes body with
  | case1 => rfl
  | case2 c s ih =>
    rw [Bool.and_eq_true] at h
    exact Bool.and_eq_true_iff.2 ⟨h.1, ih h.2⟩
  | case3 c s hesc ih =>
    by_cases hc : c = '\\'
    · subst hc
      cases s with
      | nil => decide
      | cons d s => exact absurd rfl (hesc d s rfl)
    · rw [List.cons_append, hasElementaryEscapes]
      · exact ih h
      · exact fun _ _ he => absurd he hc

/-- What an escape is replaced by is elementary. -/
theorem spelled_narrowedEscape (hc : isElementaryEscape c = true) (h : Spelled false d b) :
    Spelled false d (Confine.escape c ++ b) := by
  unfold Confine.escape shorthand?
  split
  · exact .class (b := ['^', '\\', 's', '/']) rfl (by decide) h
  · exact .class (b := ['^', '\\', 'w', '/']) rfl (by decide) h
  · exact .class (b := ['^', '\\', 'd', '/']) rfl (by decide) h
  · exact .escape hc h

/-- What a class is replaced by is elementary, but for the look ahead. -/
theorem spelled_bracketed (hsplit : splitClass s = some (body, after))
    (hbody : hasElementaryEscapes body = true) (h : Spelled false d b) :
    Spelled false d (bracketed body ++ b) := by
  have hkeep {d : Nat} {c : Char} {s : Text} (hc : c ∉ framers) (h : Spelled false d s) :
      Spelled false d (c :: s) := .char hc (fun he => absurd he (by simp)) h
  unfold bracketed
  split
  · have hnegated := splitClass_append (r := b) hsplit (.char (by decide) (by decide) (c := '/'))
    rw [List.append_assoc] at hnegated
    rw [List.cons_append, List.cons_append, List.append_assoc]
    exact .class hnegated (hasElementaryEscapes_slash hbody) h
  · have hkept := splitClass_append (r := ')' :: b) hsplit .nil
    rw [List.append_nil] at hkept
    have hclass : Spelled false (d + 1) ('[' :: (body ++ ']' :: ')' :: b)) :=
      .class hkept hbody (.close h)
    have hlook : Spelled false (d + 1) ('(' :: '?' :: '!' :: '/' :: ')' :: '[' ::
        (body ++ ']' :: ')' :: b)) :=
      .opening (.inr ⟨rfl, rfl⟩) <| hkeep (by decide) <| hkeep (by decide) <|
        hkeep (by decide) <| .close hclass
    have hscope : Spelled false d ('(' :: '?' :: ':' :: '(' :: '?' :: '!' :: '/' :: ')' :: '[' ::
        (body ++ ']' :: ')' :: b)) :=
      .opening (.inl rfl) <| hkeep (by decide) <| hkeep (by decide) hlook
    simpa using hscope

/-- After narrowing a parenthesis opens the same group. -/
theorem opensPlainly_confine (hs : Spelled true d s) (h : opensPlainly s = true)
    (hb : confine s = some b) : opensPlainly b = true := by
  have hspliced : Spliced true [] s b := ⟨hs.ne_backslash, b, hb, (List.append_nil b).symm⟩
  obtain ⟨s', t', rfl, -, -⟩ | ⟨-, hnone⟩ :=
    (Spliced.parallel (.inl rfl)).corresponds.head_cases '?' (by decide) hspliced
  · have hcolon : s'.head? = some ':' := by
      cases s' with
      | nil => simp [opensPlainly] at h
      | cons e s' => simpa [opensPlainly] using h
    obtain ⟨s'', rfl⟩ := List.head?_eq_some_iff.1 hcolon
    rw [confine_char (by decide), confine_char (by decide)] at hb
    obtain ⟨b', hb', rfl⟩ := Option.map_eq_some_iff.1 hb
    obtain ⟨b'', -, rfl⟩ := Option.map_eq_some_iff.1 hb'
    rfl
  · cases b with
    | nil => rfl
    | cons e b =>
      have he : e ≠ '?' := by
        rintro rfl
        exact hnone _ rfl
      simp [opensPlainly, he]

/-- Narrowing an elementary expression leaves it so, but for the look ahead before classes. -/
theorem Spelled.confine (h : Spelled true d s) (hb : confine s = some b) : Spelled false d b := by
  induction h generalizing b with
  | nil =>
    rw [PathRouter.confine] at hb
    obtain rfl := Option.some.inj hb
    exact .nil
  | escape hc _ ih =>
    rw [confine_escape] at hb
    obtain ⟨t, ht, rfl⟩ := Option.map_eq_some_iff.1 hb
    exact spelled_narrowedEscape hc (ih ht)
  | «class» hsplit hbody _ ih =>
    obtain ⟨body', after', t, hsplit', ht, rfl⟩ := confine_class hb
    obtain ⟨rfl, rfl⟩ := Prod.mk.inj (Option.some.inj (hsplit.symm.trans hsplit'))
    exact spelled_bracketed hsplit hbody (ih ht)
  | opening hopen hs ih =>
    rw [confine_char (by decide)] at hb
    obtain ⟨t, ht, rfl⟩ := Option.map_eq_some_iff.1 hb
    have hopens := hopen.resolve_right fun h => by simp at h
    exact .opening (.inl (opensPlainly_confine hs hopens ht)) (ih ht)
  | close _ ih =>
    rw [confine_char (by decide)] at hb
    obtain ⟨t, ht, rfl⟩ := Option.map_eq_some_iff.1 hb
    exact .close (ih ht)
  | @char d c s hc _ _ ih =>
    by_cases hdot : c = '.'
    · subst hdot
      rw [confine_dot] at hb
      obtain ⟨t, ht, rfl⟩ := Option.map_eq_some_iff.1 hb
      exact .class (b := ['^', '/']) rfl (by decide) (ih ht)
    · simp only [framers, List.mem_cons, List.not_mem_nil, or_false, not_or] at hc
      rw [confine_char (by simp [narrowable, hc, hdot])] at hb
      obtain ⟨t, ht, rfl⟩ := Option.map_eq_some_iff.1 hb
      exact .char (by simp [framers, hc]) (fun he => absurd he (by simp)) (ih ht)

end Narrowing

end PathRouter.Regex
