import PathRouter.Matcher.Compile

/-!
# Reading generated expressions

What the reader makes of the pieces that an expression is generated from: escaped text, named groups
and the ends. Each lemma says that a piece is read as a part, whatever follows it, so that the
expression of a whole pattern is read piece by piece.
-/

namespace PathRouter.Regex
set_option autoImplicit false

/-! ## One construct at a time -/

theorem settle_ok {rest : Text} (h : rest ≠ ['\\']) : settle rest = .ok () :=
  settle_eq_ok_iff.2 h

theorem ok_bind {α β : Type} (a : α) (f : α → Except Fault β) : (Except.ok a >>= f) = f a := rfl

theorem readConstructs_nil (p : Progress) : readConstructs p [] = .ok (p, []) := by
  rw [readConstructs]

/-- The loop is a construct and the loop after it. -/
theorem readConstructs_cons {p : Progress} {c : Char} {s : Text} (hc : c ≠ ')' ∨ p.outer ≠ []) :
    readConstructs p (c :: s) = step p (c :: s) >>= fun r => readConstructs r.1 r.2 := by
  have hne : ¬(c = ')' ∧ p.outer = []) := fun h => hc.elim (· h.1) (· h.2)
  rw [readConstructs, if_neg hne]
  split
  · rename_i h
    rw [h]
    rfl
  · rename_i h
    rw [h]
    rfl

theorem readConstructs_step {p q : Progress} {c : Char} {s rest : Text}
    (hc : c ≠ ')' ∨ p.outer ≠ []) (h : step p (c :: s) = .ok (q, rest)) :
    readConstructs p (c :: s) = readConstructs q rest := by
  rw [readConstructs_cons hc, h, ok_bind]

theorem step_char {p : Progress} {c : Char} {s : Text} (hc : c ≠ '\\') :
    step p (c :: s) = stepChar p c s := by
  rw [step]
  exact fun _ _ he => absurd he hc

/-- A construct other than an escape, a bar or a closing parenthesis that is not skipped. -/
theorem step_visible {p : Progress} {c : Char} {s : Text} (hc : c ≠ '\\' ∧ c ≠ '|' ∧ c ≠ ')')
    (hv : p.frame.verbose = false ∨ CodePoint.isAsciiBlank c.toNat = false ∧ c ≠ '#') :
    step p (c :: s) = settle s >>= fun _ => stepSpecial p c s := by
  rw [step_char hc.1, stepChar, if_neg hc.2.1]
  · rcases hv with hv | ⟨hblank, hhash⟩
    · simp [hv]
    · simp [hblank, hhash]
  · exact fun _ _ he => absurd he hc.2.2

theorem step_special {p : Progress} {c : Char} {s : Text} (hv : p.frame.verbose = false)
    (hc : c ≠ '\\' ∧ c ≠ '|' ∧ c ≠ ')') (hs : s ≠ ['\\']) :
    step p (c :: s) = stepSpecial p c s := by
  rw [step_visible hc (.inl hv), settle_ok hs, ok_bind]

/-! ## Literal text -/

namespace Progress

/-- Adds parts in order. -/
def addAll (p : Progress) (ns : List Node) : Progress :=
  ns.foldl add p

@[simp] theorem addAll_nil (p : Progress) : p.addAll [] = p := rfl

@[simp] theorem addAll_cons (p : Progress) (n : Node) (ns : List Node) :
    p.addAll (n :: ns) = (p.add n).addAll ns := rfl

theorem addAll_append (p : Progress) (ns ms : List Node) :
    p.addAll (ns ++ ms) = (p.addAll ns).addAll ms :=
  List.foldl_append

@[simp] theorem add_outer (p : Progress) (n : Node) : (p.add n).outer = p.outer := rfl
@[simp] theorem add_groups (p : Progress) (n : Node) : (p.add n).groups = p.groups := rfl
@[simp] theorem add_verbose (p : Progress) (n : Node) :
    (p.add n).frame.verbose = p.frame.verbose := rfl

@[simp] theorem addAll_outer (p : Progress) (ns : List Node) : (p.addAll ns).outer = p.outer := by
  induction ns generalizing p with
  | nil => rfl
  | cons n ns ih => rw [addAll_cons, ih, add_outer]

@[simp] theorem addAll_groups (p : Progress) (ns : List Node) :
    (p.addAll ns).groups = p.groups := by
  induction ns generalizing p with
  | nil => rfl
  | cons n ns ih => rw [addAll_cons, ih, add_groups]

@[simp] theorem addAll_verbose (p : Progress) (ns : List Node) :
    (p.addAll ns).frame.verbose = p.frame.verbose := by
  induction ns generalizing p with
  | nil => rfl
  | cons n ns ih => rw [addAll_cons, ih, add_verbose]

/-- Parts are kept latest first. -/
theorem addAll_eq (p : Progress) (ns : List Node) :
    p.addAll ns = { p with frame := { p.frame with parts := ns.reverse ++ p.frame.parts } } := by
  induction ns generalizing p with
  | nil => rfl
  | cons n ns ih =>
    rw [addAll_cons, ih]
    simp [add]

end Progress

/-- The tests for the characters of a text, one after the other. -/
def literalNodes (text : Text) : List Node :=
  text.map fun c => .ofCode c.toNat

/-- A character that is special in expressions stands for itself after a backslash. -/
theorem readEscape_metacharacter {c : Char} (h : c ∈ metacharacters) (env : Surroundings)
    (rest : Text) : readEscape env c rest = .ok (.ofCode c.toNat, rest) := by
  simp only [metacharacters, List.mem_cons, List.not_mem_nil, or_false] at h
  rcases h with rfl | rfl | rfl | rfl | rfl | rfl | rfl | rfl | rfl | rfl | rfl | rfl | rfl | rfl |
    rfl | rfl | rfl | rfl | rfl | rfl | rfl | rfl | rfl | rfl <;> rfl

/-- Any other character stands for itself. -/
theorem step_plain {p : Progress} {c : Char} {s : Text} (hv : p.frame.verbose = false)
    (hc : c ∉ metacharacters) (hs : s ≠ ['\\']) :
    step p (c :: s) = .ok (p.add (.ofCode c.toNat), s) := by
  simp only [metacharacters, List.mem_cons, List.not_mem_nil, or_false, not_or] at hc
  rw [step_special hv (by simp [hc]) hs]
  simp [stepSpecial, isQuantifierStart, hc, pure, Except.pure]

theorem escapeText_append_ne {text rest : Text} (h : rest ≠ ['\\']) :
    escapeText text ++ rest ≠ ['\\'] := by
  cases text with
  | nil => simpa [escapeText] using h
  | cons c text =>
    by_cases hc : c ∈ metacharacters
    · simp [escapeText, escapeChar, hc]
    · have : c ≠ '\\' := fun e => hc (by simp [e, metacharacters])
      simp [escapeText, escapeChar, hc, this]

/-- Escaped text is read as the text. -/
theorem readConstructs_escapeText {p : Progress} (text : Text) {rest : Text}
    (hv : p.frame.verbose = false) (hs : rest ≠ ['\\']) :
    readConstructs p (escapeText text ++ rest) = readConstructs (p.addAll (literalNodes text)) rest := by
  induction text generalizing p with
  | nil => rfl
  | cons c text ih =>
    have hne : escapeText text ++ rest ≠ ['\\'] := escapeText_append_ne hs
    have hread : readConstructs p (escapeChar c ++ (escapeText text ++ rest)) =
        readConstructs (p.add (.ofCode c.toNat)) (escapeText text ++ rest) := by
      by_cases hc : c ∈ metacharacters
      · simp only [escapeChar, if_pos hc, List.cons_append, List.nil_append]
        refine readConstructs_step (.inl (by decide)) ?_
        simp only [step, settle_ok hne, readEscape_metacharacter hc, ok_bind]
        rfl
      · simp only [escapeChar, if_neg hc, List.cons_append, List.nil_append]
        refine readConstructs_step (.inl fun e => hc (by simp [e, metacharacters])) ?_
        exact step_plain hv hc hne
    have hcons : escapeText (c :: text) ++ rest = escapeChar c ++ (escapeText text ++ rest) := by
      simp [escapeText]
    rw [hcons, hread, ih (by simpa using hv)]
    rfl

/-! ## Groups -/

theorem step_close {p : Progress} {frame : Frame} {outer : List Frame} {s : Text}
    (ho : p.outer = frame :: outer) (hs : s ≠ ['\\']) :
    step p (')' :: s) = .ok (p.leave frame outer, s) := by
  simp [step, stepChar, ho, settle_ok hs, ok_bind, pure, Except.pure]

/-- A closing parenthesis makes the innermost group a part of the group around it. -/
theorem readConstructs_close {p : Progress} {frame : Frame} {outer : List Frame} {s : Text}
    (ho : p.outer = frame :: outer) (hs : s ≠ ['\\']) :
    readConstructs p (')' :: s) = readConstructs (p.leave frame outer) s :=
  readConstructs_step (.inr (by simp [ho])) (step_close ho hs)

/-- An opening parenthesis, of which `o` is what it begins. -/
theorem step_open {p q : Progress} {s rest : Text} {o : Opening} (hs : s ≠ ['\\'])
    (ho : readOpening p.surroundings s = .ok (o, rest))
    (hq : p.begin (s.length + 1) rest o = .ok q) : step p ('(' :: s) = .ok (q, rest) := by
  rw [step_visible (by decide) (.inr (by decide)), settle_ok hs]
  simp [stepSpecial, isQuantifierStart, ho, hq, ok_bind, pure, Except.pure]

theorem readConstructs_open {p q : Progress} {s rest : Text} {o : Opening} (hs : s ≠ ['\\'])
    (ho : readOpening p.surroundings s = .ok (o, rest))
    (hq : p.begin (s.length + 1) rest o = .ok q) :
    readConstructs p ('(' :: s) = readConstructs q rest :=
  readConstructs_step (.inl (by decide)) (step_open hs ho hq)

theorem readUntil_append {t : Char} {name rest : Text} (what : String) (done : Text)
    (hn : ∀ c ∈ name, c ≠ t ∧ c ≠ '\\') (ht : t ≠ '\\') (hne : done ≠ [] ∨ name ≠ [])
    (hs : rest ≠ ['\\']) :
    readUntil t what done (name ++ t :: rest) = .ok (done.reverse ++ name, rest) := by
  induction name generalizing done with
  | nil =>
    have hd : done ≠ [] := by simpa using hne
    rw [List.nil_append, readUntil]
    · simp [settle_ok hs, hd, ok_bind]
    · exact fun _ _ h => absurd h ht
  | cons c name ih =>
    have hc := hn c (List.mem_cons_self ..)
    have hne' : name ++ t :: rest ≠ ['\\'] := by
      cases name with
      | nil => simp [ht]
      | cons d name => simp
    rw [List.cons_append, readUntil]
    · rw [settle_ok hne', ok_bind, if_neg hc.1,
        ih _ (fun d hd => hn d (List.mem_cons_of_mem _ hd)) (.inl (by simp))]
      simp
    · exact fun _ _ h => absurd h hc.2

/-- The names of generated groups are identifiers. -/
theorem groupName_spec (n : Nat) : CodePoint.isIdentifier ((groupName n).map Char.toNat) = true ∧
    ∀ c ∈ groupName n, c ≠ '>' ∧ c ≠ '\\' := by
  have hd : ∀ c ∈ Text.natural n, c.isDigit = true := fun c hc =>
    Nat.isDigit_of_mem_toDigits (by decide) (by decide) hc
  have hp : ∀ c : Char, c.isDigit = true → CodePoint.isIdentifierPart c.toNat = true ∧
      c ≠ '>' ∧ c ≠ '\\' := by
    intro c hc
    have h : 48 ≤ c.toNat ∧ c.toNat ≤ 57 := by
      simp only [Char.isDigit, ge_iff_le, Bool.and_eq_true, decide_eq_true_eq] at hc
      exact ⟨hc.1, hc.2⟩
    refine ⟨?_, ?_, ?_⟩
    · have h128 : c.toNat < 128 := by omega
      simp [CodePoint.isIdentifierPart, h128, CodePoint.isAsciiDigit, h.1, h.2]
    · rintro rfl
      exact absurd h.2 (by decide)
    · rintro rfl
      exact absurd h.2 (by decide)
  refine ⟨?_, ?_⟩
  · have hall : ((Text.natural n).map Char.toNat).all CodePoint.isIdentifierPart = true := by
      simp only [List.all_map, List.all_eq_true, Function.comp_apply]
      exact fun c hc => (hp c (hd c hc)).1
    simp only [groupName, List.map_cons, CodePoint.isIdentifier, hall, Bool.and_true]
    decide
  · intro c hc
    rcases List.mem_cons.1 hc with rfl | hc
    · decide
    · exact (hp c (hd c hc)).2

/-- The state inside a named group that has just been opened. -/
def Progress.named (p : Progress) (name : Text) (place : Nat) : Progress :=
  { p.enter (.capture p.groups.next) place p.frame.verbose with
    groups := p.groups.opened (some name) }

theorem readOpening_groupHead (env : Surroundings) (n : Nat) {rest : Text} (hs : rest ≠ ['\\']) :
    readOpening env (['?', 'P', '<'] ++ groupName n ++ '>' :: rest) =
      .ok (.capture (some (groupName n)), rest) := by
  have hname := groupName_spec n
  have hread : readUntil '>' "group name" [] (groupName n ++ '>' :: rest) =
      .ok (groupName n, rest) := by
    simpa using readUntil_append "group name" [] hname.2 (by decide)
      (.inr (by simp [groupName])) hs
  have hne : groupName n ++ '>' :: rest ≠ ['\\'] := by simp [groupName]
  simp [readOpening, readExtension, readToken, readNamedConstruct, readGroupName, settle_ok,
    hne, hread, hname.1, ok_bind, pure, Except.pure]

/-- The head of a generated group opens a group of that name. -/
theorem readConstructs_groupHead {p : Progress} (n : Nat) {rest : Text}
    (hn : p.groups.ofName? (groupName n) = none) (hs : rest ≠ ['\\']) :
    ∃ place, readConstructs p (['(', '?', 'P', '<'] ++ groupName n ++ '>' :: rest) =
      readConstructs (p.named (groupName n) place) rest := by
  refine ⟨(['?', 'P', '<'] ++ groupName n ++ '>' :: rest).length + 1, ?_⟩
  refine readConstructs_open (by simp) (readOpening_groupHead _ n hs) ?_
  simp [Progress.begin, hn, Progress.named, pure, Except.pure]

/-- The state after a named group that holds one part and no group. -/
def Progress.captured (p : Progress) (name : Text) (n : Node) : Progress :=
  let inside := p.groups.opened (some name)
  { p.add (.group p.groups.next n) with
    groups := inside.closed p.groups.next (n.width inside.widthOf) }

/-- A generated group whose body is read as one part is a group of that part. -/
theorem readConstructs_namedGroup {p : Progress} (n : Nat) {body rest : Text} {part : Node}
    (hv : p.frame.verbose = false) (hn : p.groups.ofName? (groupName n) = none)
    (hs : rest ≠ ['\\']) (hb : body ++ ')' :: rest ≠ ['\\'])
    (hread : ∀ q : Progress, q.frame.verbose = false →
      readConstructs q (body ++ ')' :: rest) = readConstructs (q.add part) (')' :: rest)) :
    readConstructs p (namedGroup (groupName n) body ++ rest) =
      readConstructs (p.captured (groupName n) part) rest := by
  have htext : namedGroup (groupName n) body ++ rest =
      ['(', '?', 'P', '<'] ++ groupName n ++ '>' :: (body ++ ')' :: rest) := by
    simp [namedGroup]
  obtain ⟨place, hhead⟩ := readConstructs_groupHead n hn hb
  rw [htext, hhead, hread (p.named _ place) hv, readConstructs_close rfl hs]
  rfl

/-! ## What generated groups hold -/

/-- A span without slash. -/
def slashlessSpan : Node :=
  .quantified .greedy 1 none (.char (.notLiteral 47))

/-- The rest of a text, which may have to be there. -/
def restOfText (allowEmpty : Bool) : Node :=
  .quantified .greedy (if allowEmpty then 0 else 1) none (.char .any)

/-- The class of all characters but the slash. -/
theorem readClass_slashless {rest : Text} (hs : rest ≠ ['\\']) :
    readClass ('^' :: '/' :: ']' :: rest) = .ok (.notLiteral 47, rest) := by
  have hend (place : Nat) :
      readMembers place [.single 47] (']' :: rest) = .ok ([.single 47], rest) := by
    have hitem : readItem place false (']' :: rest) = .ok ([], true, rest) := by
      simp [readItem, settle_ok hs, ok_bind, pure, Except.pure]
    rw [readMembers]
    split
    · simp_all
    · simp_all
    · simp_all
  have hmembers (place : Nat) :
      readMembers place [] ('/' :: ']' :: rest) = .ok ([.single 47], rest) := by
    have hitem : readItem place true ('/' :: ']' :: rest) =
        .ok ([.single 47], false, ']' :: rest) := by
      simp [readItem, readMember, settle_ok, ok_bind, pure, Except.pure]
    rw [readMembers]
    split
    · simp_all
    · simp_all
    · rename_i h
      rw [List.isEmpty_nil, hitem] at h
      cases h
      exact hend place
  simp [readClass, settle_ok, ok_bind, hmembers, pure, Except.pure, classTest]
  decide

/-- A quantifier after a single character, before the end of its group. -/
theorem readConstructs_quantifier {p : Progress} {c : Char} {least : Nat} {t : CharTest}
    {parts : List Node} {rest : Text} (hc : c = '*' ∧ least = 0 ∨ c = '+' ∧ least = 1)
    (hv : p.frame.verbose = false) (hp : p.frame.parts = .char t :: parts) :
    readConstructs p (c :: ')' :: rest) = readConstructs
      { p with frame := { p.frame with
        parts := .quantified .greedy least none (.char t) :: parts } } (')' :: rest) := by
  refine readConstructs_step (.inl ?_) ?_
  · rcases hc with ⟨rfl, _⟩ | ⟨rfl, _⟩ <;> decide
  · rw [step_special hv (by rcases hc with ⟨rfl, _⟩ | ⟨rfl, _⟩ <;> decide) (by simp)]
    rcases hc with ⟨rfl, rfl⟩ | ⟨rfl, rfl⟩ <;>
      simp [stepSpecial, isQuantifierStart, readBounds, Progress.quantify, hp, readMode, ok_bind,
        pure, Except.pure]

theorem readConstructs_spanBody {p : Progress} {rest : Text} (hv : p.frame.verbose = false) :
    readConstructs p (spanBody ++ ')' :: rest) =
      readConstructs (p.add slashlessSpan) (')' :: rest) := by
  have hclass : step p ('[' :: '^' :: '/' :: ']' :: '+' :: ')' :: rest) =
      .ok (p.add (.char (.notLiteral 47)), '+' :: ')' :: rest) := by
    rw [step_special hv (by decide) (by simp)]
    simp [stepSpecial, readClass_slashless, ok_bind, pure, Except.pure]
  change readConstructs p ('[' :: '^' :: '/' :: ']' :: '+' :: ')' :: rest) = _
  rw [readConstructs_step (.inl (by decide)) hclass,
    readConstructs_quantifier (.inr ⟨rfl, rfl⟩) (by simpa using hv) rfl]
  rfl

theorem readConstructs_tailBody {p : Progress} (allowEmpty : Bool) {rest : Text}
    (hv : p.frame.verbose = false) :
    readConstructs p (tailBody allowEmpty ++ ')' :: rest) =
      readConstructs (p.add (restOfText allowEmpty)) (')' :: rest) := by
  have hdot (c : Char) : step p ('.' :: c :: ')' :: rest) =
      .ok (p.add (.char .any), c :: ')' :: rest) := by
    rw [step_special hv (by decide) (by simp)]
    simp [stepSpecial, isQuantifierStart, pure, Except.pure]
  cases allowEmpty with
  | false =>
    change readConstructs p ('.' :: '+' :: ')' :: rest) = _
    rw [readConstructs_step (.inl (by decide)) (hdot _),
      readConstructs_quantifier (.inr ⟨rfl, rfl⟩) (by simpa using hv) rfl]
    rfl
  | true =>
    change readConstructs p ('.' :: '*' :: ')' :: rest) = _
    rw [readConstructs_step (.inl (by decide)) (hdot _),
      readConstructs_quantifier (.inl ⟨rfl, rfl⟩) (by simpa using hv) rfl]
    rfl

/-! ## Ends -/

/-- The end of the text. -/
def textEndNode : Node :=
  .anchor .textEnd

/-- A slash follows. -/
def slashAheadNode : Node :=
  .look none false (.ofCode 47)

/-- The end of the text or a slash follows. -/
def boundaryNode : Node :=
  .look none false (.alt (.ofCode 47) textEndNode)

theorem readConstructs_textEnd {p : Progress} {rest : Text} (hs : rest ≠ ['\\']) :
    readConstructs p (textEnd ++ rest) = readConstructs (p.add textEndNode) rest := by
  refine readConstructs_step (.inl (by decide)) ?_
  simp [step, settle_ok hs, readEscape, anchorOf?, ok_bind, pure, Except.pure, textEndNode]

/-- The head of a look ahead. -/
theorem readConstructs_lookHead {p : Progress} {rest : Text} (hv : p.frame.verbose = false)
    (hs : rest ≠ ['\\']) :
    ∃ place, readConstructs p ('(' :: '?' :: '=' :: rest) =
      readConstructs (p.enter (.lookahead false) place false) rest := by
  refine ⟨rest.length + 3, readConstructs_open (by simp) (o := .look false false) ?_ ?_⟩
  · simp [readOpening, readExtension, readToken, settle_ok, hs, ok_bind, pure, Except.pure]
  · simp [Progress.begin, hv, pure, Except.pure]

theorem readConstructs_slashAhead {p : Progress} {rest : Text} (hv : p.frame.verbose = false)
    (hs : rest ≠ ['\\']) :
    readConstructs p (slashAhead ++ rest) = readConstructs (p.add slashAheadNode) rest := by
  have hne : '/' :: ')' :: rest ≠ ['\\'] := by simp
  obtain ⟨place, hread⟩ := readConstructs_lookHead hv hne
  change readConstructs p ('(' :: '?' :: '=' :: '/' :: ')' :: rest) = _
  rw [hread, readConstructs_step (.inl (by decide)) (step_plain rfl (by decide) (by simp)),
    readConstructs_close rfl hs]
  rfl

theorem readConstructs_boundaryAhead {p : Progress} {rest : Text} (hv : p.frame.verbose = false)
    (hs : rest ≠ ['\\']) :
    readConstructs p (boundaryAhead ++ rest) = readConstructs (p.add boundaryNode) rest := by
  have hne : '/' :: '|' :: '\\' :: 'Z' :: ')' :: rest ≠ ['\\'] := by simp
  obtain ⟨place, hread⟩ := readConstructs_lookHead hv hne
  have hbar (q : Progress) (hk : q.frame.kind = .lookahead false) :
      readConstructs q ('|' :: '\\' :: 'Z' :: ')' :: rest) = readConstructs
        { q with frame := { q.frame with finished := q.frame.current :: q.frame.finished,
                                         parts := [] } } ('\\' :: 'Z' :: ')' :: rest) := by
    refine readConstructs_step (.inl (by decide)) ?_
    simp [step, stepChar, Progress.nextAlternative, hk, settle_ok, ok_bind, pure, Except.pure]
  change readConstructs p ('(' :: '?' :: '=' :: '/' :: '|' :: '\\' :: 'Z' :: ')' :: rest) = _
  rw [hread, readConstructs_step (.inl (by decide)) (step_plain rfl (by decide) (by simp)),
    hbar _ rfl]
  change readConstructs _ (textEnd ++ ')' :: rest) = _
  rw [readConstructs_textEnd (by simp), readConstructs_close rfl hs]
  rfl

end PathRouter.Regex
