import PathRouter.Proofs.NestedReading

/-!
# The group of an inline expression

An inline expression stands in a named group of its own. That group is closed where the expression
ends, if what stands there is an expression by itself, and it holds the image of the tree of that
expression. If the expression was narrowed, it holds the narrowed image of the tree as it was
written, too.
-/

namespace PathRouter
set_option autoImplicit false

open Regex

/-- Narrowing meets nothing that it mistakes: no comment holds an opening bracket, and nothing
outside a class denotes a slash. -/
def narrowsCleanly (text : Text) : Bool :=
  everyConstructOf (fun p s => !strayAt ['['] p s) text &&
    everyConstructOf (fun p s => !slashAt p s) text

/-- The tree is the image of whatever the text is read as: of its own tree, and of the tree of a text
that is narrowed to it. -/
def IsImage (first : Nat) (b : Text) (a : Node) : Prop :=
  ∀ (narrowed : Bool) (source : Text) (x : Expression),
    (if narrowed then confine source else some source) = some b → readExpression source = .ok x →
    (narrowed = true → narrowsCleanly source = true) → Mirrors narrowed first x.tree a

/-- What an inline expression becomes in its group. -/
def InlineBody (e : Text) (i _j : Nat) (n : Node) : Prop :=
  ∃ b x a, splicedText e = some b ∧ readExpression b = .ok x ∧ n = .flagged [] [] a ∧
    IsImage (i + 1) b a

/-- An expression is read to its end with no group left open. -/
theorem readConstructs_of_readExpression {text : Text} {x : Expression}
    (h : readExpression text = .ok x) : text ≠ ['\\'] ∧ ∃ p,
      readConstructs (.start text.length) text = .ok (p, []) ∧ p.outer = [] ∧
        x.tree = p.frame.body ∧ x.names = p.groups.names := by
  obtain ⟨⟨⟩, hsettle, h⟩ := bind_eq_ok_iff.1 h
  obtain ⟨⟨p, rest⟩, hp, h⟩ := bind_eq_ok_iff.1 h
  obtain ⟨⟨⟩, hend, h⟩ := bind_eq_ok_iff.1 h
  obtain rfl := Except.ok.inj h
  have hcheck : p.outer = [] ∧ rest = [] := by
    unfold Progress.checkEnd at hend
    split at hend
    · exact absurd hend fault_ne_ok
    · rename_i houter
      split at hend
      · exact absurd hend (by simp)
      · split at hend
        · exact absurd hend fault_ne_ok
        · rename_i hrest
          exact ⟨by simpa using houter, by simpa using hrest⟩
  obtain ⟨houter, rfl⟩ := hcheck
  exact ⟨settle_eq_ok_iff.1 hsettle, p, hp, houter, rfl, rfl⟩

/-- What passes the check is an expression. -/
theorem ofText_of_checkInline {e pattern : Text} {limit : Int}
    (h : checkInline e pattern limit = .ok ()) : ∃ x, Expression.ofText e = .ok x := by
  unfold checkInline at h
  dsimp only at h
  split at h
  · exact absurd h (by simp)
  · split at h
    · split at h
      · exact absurd h (by simp)
      · exact absurd h (by simp)
    · exact ⟨_, ‹_›⟩

theorem readExpression_of_ofText {e : Text} {x : Expression} (h : Expression.ofText e = .ok x) :
    readExpression e = .ok x := by
  obtain ⟨y, hy, h⟩ := bind_eq_ok_iff.1 h
  obtain ⟨⟨⟩, -, h⟩ := bind_eq_ok_iff.1 h
  split at h
  · exact absurd h (by simp)
  · rwa [← Except.ok.inj h]

section Group

variable {p : Progress} {gs : List Nat} {result : Progress × Text}

/-- A generated group whose head is read has a name that was not taken. -/
theorem ofName?_of_groupHead {k : Nat} {rest : Text} (hs : rest ≠ ['\\'])
    (h : readConstructs p (['(', '?', 'P', '<'] ++ groupName k ++ '>' :: rest) = .ok result) :
    p.groups.ofName? (groupName k) = none := by
  change readConstructs p ('(' :: (['?', 'P', '<'] ++ groupName k ++ '>' :: rest)) = _ at h
  rw [readConstructs_cons (.inl (by decide)), step_visible (by decide) (.inr (by decide))] at h
  obtain ⟨x, hx, -⟩ := bind_eq_ok_iff.1 h
  obtain ⟨⟨⟩, -, hx⟩ := bind_eq_ok_iff.1 hx
  have hopen : stepSpecial p '(' (['?', 'P', '<'] ++ groupName k ++ '>' :: rest) =
      readOpening p.surroundings (['?', 'P', '<'] ++ groupName k ++ '>' :: rest) >>= fun y => do
        return (← p.begin ((['?', 'P', '<'] ++ groupName k ++ '>' :: rest).length + 1) y.2 y.1,
          y.2) := rfl
  rw [hopen, readOpening_groupHead _ k hs, ok_bind] at hx
  obtain ⟨q, hq, -⟩ := bind_eq_ok_iff.1 hx
  cases hname : p.groups.ofName? (groupName k) with
  | none => rfl
  | some old =>
    simp only [Progress.begin, Option.bind_some, hname, Option.map_some] at hq
    exact absurd hq fault_ne_ok

theorem readOpening_scope {env : Surroundings} {rest : Text} (hs : rest ≠ ['\\']) :
    readOpening env ('?' :: ':' :: rest) = .ok (.scope [] [], rest) := by
  simp [readOpening, readExtension, readToken, settle_ok, hs, ok_bind, pure, Except.pure]

/-- The state inside the group of an inline expression. -/
def Regex.Progress.inline (p : Progress) (k place place' : Nat) : Progress :=
  (p.named (groupName k) place).enter (.scope [] []) place' false

theorem inline_beside (h : p.AtTop gs) (hfresh : p.groups.ofName? (groupName gs.length) = none)
    (narrowed : Bool) (place place' length : Nat) :
    Beside narrowed (p.groups.next + 1)
      [.start (.capture p.groups.next) place p.frame.verbose, p.frame] (gs ++ [p.groups.next])
      (.start length) (p.inline gs.length place place') := by
  refine ⟨?_, h.flags, ?_, fun k hk => ?_⟩
  · have houter : (p.inline gs.length place place').outer =
        [.start (.capture p.groups.next) place p.frame.verbose, p.frame] := by
      show Frame.start _ place p.frame.verbose :: p.frame :: p.outer = _
      rw [h.outer]
    rw [houter]
    exact .whole rfl rfl rfl (.start _ _ _ _ _)
  · exact Nat.le_of_eq (Groups.next_opened ..).symm
  · show (p.groups.opened (some (groupName gs.length))).ofName? (groupName k) = _
    rw [Groups.ofName?_opened]
    rw [List.length_append, List.length_singleton] at hk
    by_cases hlt : k < gs.length
    · rw [if_neg, h.named k hlt, List.getElem_append_left hlt]
      intro he
      rw [he, h.named k hlt] at hfresh
      exact absurd hfresh (by simp)
    · obtain rfl : k = gs.length := by omega
      simp

/-- Two closing parentheses end the group of an inline expression. -/
theorem close_inline {narrowed : Bool} {end' m : Progress} {place : Nat} {rest : Text}
    (hp : p.AtTop gs)
    (hm : Beside narrowed (p.groups.next + 1)
      [.start (.capture p.groups.next) place p.frame.verbose, p.frame]
      (gs ++ [p.groups.next]) end' m)
    (hbase : m.outer = [.start (.capture p.groups.next) place p.frame.verbose, p.frame])
    (hkind : m.frame.kind = .scope [] []) (hrest : rest ≠ ['\\']) :
    ∃ q, readConstructs m (')' :: ')' :: rest) = readConstructs q rest ∧
      q.AtTop (gs ++ [p.groups.next]) ∧
      q.frame.parts = .group p.groups.next (.flagged [] [] m.frame.body) :: p.frame.parts ∧
      p.groups.next < q.groups.next := by
  let captured := Frame.start (.capture p.groups.next) place p.frame.verbose
  let inner : Progress := { m with
    frame := { captured with parts := [.flagged [] [] m.frame.body] }, outer := [p.frame] }
  have hinner : m.leave captured [p.frame] = inner := by
    simp [Progress.leave, Progress.closing, hkind, captured, Frame.start, inner]
  let q := inner.leave p.frame []
  have hq : q = { inner with
      frame := { p.frame with
        parts := .group p.groups.next (.flagged [] [] m.frame.body) :: p.frame.parts }
      outer := []
      groups := m.groups.closed p.groups.next
        ((Node.flagged [] [] m.frame.body).width m.groups.widthOf) } := by
    simp [q, Progress.leave, Progress.closing, inner, captured, Frame.start, Frame.body,
      Frame.current, Node.ofList, Node.ofAlternatives]
  refine ⟨q, ?_, ?_, ?_, ?_⟩
  · rw [readConstructs_close hbase (by simp)]
    show readConstructs (m.leave captured [p.frame]) (')' :: rest) = _
    rw [hinner, readConstructs_close rfl hrest]
  · rw [hq]
    exact ⟨hp.kind, hp.verbose, hp.finished, rfl, hm.flags, hm.named⟩
  · rw [hq]
  · rw [hq]
    show p.groups.next < (m.groups.closed _ _).next
    rw [Groups.next_closed]
    exact hm.next

/-- The group of an inline expression is read from the start of the expression on. -/
theorem readConstructs_inlineHead {b rest : Text} (hp : p.AtTop gs)
    (h : readConstructs p (namedGroup (groupName gs.length) (['(', '?', ':'] ++ b ++ [')']) ++ rest) =
      .ok result) :
    p.groups.ofName? (groupName gs.length) = none ∧ ∃ place place',
      readConstructs (p.inline gs.length place place') (b ++ ')' :: ')' :: rest) = .ok result := by
  have htext : namedGroup (groupName gs.length) (['(', '?', ':'] ++ b ++ [')']) ++ rest =
      ['(', '?', 'P', '<'] ++ groupName gs.length ++
        '>' :: '(' :: '?' :: ':' :: (b ++ ')' :: ')' :: rest) := by
    simp [namedGroup]
  rw [htext] at h
  have hfresh := ofName?_of_groupHead (by simp) h
  have hne : '(' :: '?' :: ':' :: (b ++ ')' :: ')' :: rest) ≠ ['\\'] := by simp
  obtain ⟨place, hhead⟩ := readConstructs_groupHead gs.length hfresh hne
  have hrest' : b ++ ')' :: ')' :: rest ≠ ['\\'] := by cases b <;> simp
  let place' := ('?' :: ':' :: (b ++ ')' :: ')' :: rest)).length + 1
  have hscope : (p.named (groupName gs.length) place).begin place' (b ++ ')' :: ')' :: rest)
      (.scope [] []) = .ok (p.inline gs.length place place') := by
    simp [Progress.begin, Progress.inline, Progress.named, Progress.enter, Frame.start, hp.verbose,
      pure, Except.pure]
  rw [hhead, readConstructs_open (by simp) (readOpening_scope hrest') hscope] at h
  exact ⟨hfresh, place, place', h⟩

/-- What is an expression by itself is read as a group of its own. -/
theorem readsAs_inlineBody {e b : Text} {x : Expression} (hb : splicedText e = some b)
    (hx : readExpression b = .ok x) : ReadsAs InlineBody e b := by
  intro p gs rest result hp hrest hread
  obtain ⟨hfresh, place, place', hread⟩ := readConstructs_inlineHead hp hread
  let inside := p.inline gs.length place place'
  -- The reader of a text that stands as `b` goes along with the reader inside the group.
  have halong (narrowed : Bool) (source : Text) (y : Expression)
      (hsource : (if narrowed then confine source else some source) = some b)
      (hy : readExpression source = .ok y)
      (hclean : narrowed = true → narrowsCleanly source = true) :
      ∃ (end' : Progress) (m : Progress), end'.outer = [] ∧ y.tree = end'.frame.body ∧
        Beside narrowed (p.groups.next + 1)
          [.start (.capture p.groups.next) place p.frame.verbose, p.frame]
          (gs ++ [p.groups.next]) end' m ∧
        Leads inside (b ++ ')' :: ')' :: rest) m (')' :: ')' :: rest) := by
    obtain ⟨hne, end', hend', houter, htree, -⟩ := readConstructs_of_readExpression hy
    obtain ⟨m, hm, hleads⟩ := run_beside (by simp) (inline_beside hp hfresh narrowed _ _ _)
      ⟨hne, b, hsource, rfl⟩ (fun hn => Bool.and_eq_true_iff.1 (hclean hn)) hend' houter hread
    exact ⟨end', m, houter, htree, hm, hleads⟩
  obtain ⟨end', m, houter, htree, hm, hleads⟩ := halong false b x rfl hx (by simp)
  have hstack := hm.stack
  rw [houter] at hstack
  obtain ⟨hbase, hkind, -⟩ := hstack.eq_base
  obtain ⟨closed, hclosed, htop, hparts, hnext⟩ := close_inline hp hm hbase hkind hrest
  rw [hleads.readConstructs_eq, hclosed] at hread
  refine ⟨closed, _, hread, htop, hparts, ⟨b, x, m.frame.body, hb, hx, rfl, ?_⟩, hnext⟩
  intro narrowed source y hsource hy hclean
  obtain ⟨end'', m', houter', htree', hm', hleads'⟩ := halong narrowed source y hsource hy hclean
  obtain rfl := hleads.unique hleads'
  rw [htree']
  exact hm'.stack.top.body Mirrors.isTreewise

end Group

end PathRouter
