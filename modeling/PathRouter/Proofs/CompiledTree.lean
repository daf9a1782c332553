import PathRouter.Pattern.Parse
import PathRouter.Proofs.Reading

/-!
# The tree of a compiled pattern

The expression that a sequence of segments is compiled to is read as one part per segment, one after
the other: the characters of a literal, a group for a capture, an anchor or a look ahead at the end.
What stands inside the group of an inline expression is a parameter of the description.
-/

namespace PathRouter
set_option autoImplicit false

open Regex

/-- The sequence ends as a pattern of the extent does: a tail is the last segment but for the
boundary, and the boundary is there for a leading part only. -/
def EndsWell (extent : Extent) : List Segment → Prop
  | [] => extent = .exact
  | .boundary :: rest => extent = .leading ∧ rest = []
  | .tail _ _ :: rest => rest = Pattern.endSegments extent
  | .literal _ :: rest | .dynamic _ :: rest | .constrained _ _ :: rest => EndsWell extent rest

/-- The literal ends a pattern for a leading part, and with a slash that is not matched. -/
def LeavesSlash (extent : Extent) (text : Text) (rest : List Segment) : Prop :=
  extent = .leading ∧ Draft.endsInSlash text ∧ rest = [.boundary]

instance (extent : Extent) (text : Text) (rest : List Segment) :
    Decidable (LeavesSlash extent text rest) :=
  inferInstanceAs (Decidable (_ ∧ _ ∧ _))

/-- The parts after a tail. -/
def closingNodes : Extent → List Node
  | .exact => [textEndNode]
  | .leading => []

/-- The text after a tail. -/
def closingText : Extent → Text
  | .exact => textEnd
  | .leading => []

/-- The parts that a sequence is compiled to, when the next group gets the number `i`, and the
numbers of the groups of its captures. The groups inside and after them are numbered up to `j`;
`Body e i j` says what an inline expression `e` becomes. -/
inductive Compiled (Body : Text → Nat → Nat → Node → Prop) (extent : Extent) :
    Nat → Nat → List Segment → List Node → List Nat → Prop
  | textEnd {i : Nat} : extent = .exact → Compiled Body extent i i [] [textEndNode] []
  | boundary {i : Nat} : extent = .leading →
      Compiled Body extent i i [.boundary] [boundaryNode] []
  | slashAhead {i : Nat} {text : Text} : LeavesSlash extent text [.boundary] →
      Compiled Body extent i i [.literal text, .boundary]
        (literalNodes text.dropLast ++ [slashAheadNode]) []
  | literal {i j : Nat} {text : Text} {rest : List Segment} {ns : List Node} {gs : List Nat} :
      ¬LeavesSlash extent text rest → Compiled Body extent i j rest ns gs →
      Compiled Body extent i j (.literal text :: rest) (literalNodes text ++ ns) gs
  | dynamic {i j : Nat} {name : Text} {rest : List Segment} {ns : List Node} {gs : List Nat} :
      Compiled Body extent (i + 1) j rest ns gs →
      Compiled Body extent i j (.dynamic name :: rest) (.group i slashlessSpan :: ns) (i :: gs)
  | constrained {i j k : Nat} {name e : Text} {body : Node} {rest : List Segment}
      {ns : List Node} {gs : List Nat} :
      Body e i j body → i < j → Compiled Body extent j k rest ns gs →
      Compiled Body extent i k (.constrained name e :: rest)
        (.group i body :: ns) (i :: gs)
  | tail {i : Nat} {name : Text} {allowEmpty : Bool} :
      Compiled Body extent i (i + 1) (.tail name allowEmpty :: Pattern.endSegments extent)
        (.group i (restOfText allowEmpty) :: closingNodes extent) [i]

/-- The groups of the captures of a sequence, with their names, from a number on. -/
def captureGroups (first : Nat) : List Segment → List (Text × Text)
  | [] => []
  | s :: rest =>
    match s.name? with
    | some name => (groupName first, name) :: captureGroups (first + 1) rest
    | none => captureGroups first rest

end PathRouter

namespace PathRouter.Regex

/-! ## Names of groups -/

theorem groupName_injective {m n : Nat} (h : groupName m = groupName n) : m = n := by
  have hd : Nat.toDigits 10 m = Nat.toDigits 10 n := List.cons.inj h |>.2
  rw [← Nat.ofDigitChars_ten_toDigits (n := m), hd, Nat.ofDigitChars_ten_toDigits]

namespace Groups

@[simp] theorem ofName?_closed (g : Groups) (i : Nat) (w : Width) (name : Text) :
    (g.closed i w).ofName? name = g.ofName? name := rfl

@[simp] theorem next_closed (g : Groups) (i : Nat) (w : Width) : (g.closed i w).next = g.next := by
  simp [closed, next]

@[simp] theorem next_opened (g : Groups) (name : Option Text) :
    (g.opened name).next = g.next + 1 := by
  simp [opened, next]

theorem ofName?_opened (g : Groups) (name other : Text) :
    (g.opened (some name)).ofName? other =
      if name = other then some g.next else g.ofName? other := by
  by_cases h : name = other <;> simp [opened, ofName?, h]

end Groups

namespace Progress

/-- The reader stands outside all groups, after captures whose groups have the numbers `gs`. -/
structure AtTop (p : Progress) (gs : List Nat) : Prop where
  kind : p.frame.kind = .whole
  verbose : p.frame.verbose = false
  finished : p.frame.finished = []
  outer : p.outer = []
  flags : p.flags = []
  named : ∀ (k : Nat) (h : k < gs.length), p.groups.ofName? (groupName k) = some gs[k]

/-- The names of the captures to come are not taken. -/
def IsFresh (p : Progress) (count : Nat) : Prop :=
  ∀ k, count ≤ k → p.groups.ofName? (groupName k) = none

theorem start_atTop (length : Nat) : (start length).AtTop [] :=
  ⟨rfl, rfl, rfl, rfl, rfl, by simp⟩

theorem start_isFresh (length : Nat) : (start length).IsFresh 0 :=
  fun _ _ => rfl

theorem AtTop.addAll {p : Progress} {gs : List Nat} (h : p.AtTop gs) (ns : List Node) :
    (p.addAll ns).AtTop gs := by
  rw [addAll_eq]
  exact ⟨h.kind, h.verbose, h.finished, h.outer, h.flags, h.named⟩

theorem AtTop.captured {p : Progress} {gs : List Nat} (h : p.AtTop gs) (n : Node) :
    (p.captured (groupName gs.length) n).AtTop (gs ++ [p.groups.next]) := by
  refine ⟨h.kind, h.verbose, h.finished, h.outer, h.flags, fun k hk => ?_⟩
  simp only [Progress.captured, Groups.ofName?_closed, Groups.ofName?_opened]
  rw [List.length_append, List.length_singleton] at hk
  by_cases hkl : k < gs.length
  · have hne : groupName gs.length ≠ groupName k := fun e => by
      have := groupName_injective e
      omega
    rw [if_neg hne, h.named k hkl, List.getElem_append_left hkl]
  · obtain rfl : k = gs.length := by omega
    simp

theorem IsFresh.captured {p : Progress} {count : Nat} (h : p.IsFresh count) (n : Node) :
    (p.captured (groupName count) n).IsFresh (count + 1) := by
  intro k hk
  simp only [Progress.captured, Groups.ofName?_closed, Groups.ofName?_opened]
  have hne : groupName count ≠ groupName k := fun e => by
    have := groupName_injective e
    omega
  rw [if_neg hne]
  exact h k (by omega)

@[simp] theorem captured_parts (p : Progress) (name : Text) (n : Node) :
    (p.captured name n).frame.parts = .group p.groups.next n :: p.frame.parts := rfl

@[simp] theorem captured_next (p : Progress) (name : Text) (n : Node) :
    (p.captured name n).groups.next = p.groups.next + 1 := by
  simp [captured]

end Progress

end PathRouter.Regex

namespace PathRouter
open Regex

/-! ## Reading a whole pattern -/

/-- How an inline expression `e` is read that stands as `b` in its group: whatever follows, the
reader either fails or reads a group and goes on after it, and the names that were taken before
keep their groups. -/
def ReadsAs (Body : Text → Nat → Nat → Node → Prop) (e b : Text) : Prop :=
  ∀ (p : Progress) (gs : List Nat) (rest : Text) (result : Progress × Text),
    p.AtTop gs → rest ≠ ['\\'] →
    readConstructs p (namedGroup (groupName gs.length) (['(', '?', ':'] ++ b ++ [')']) ++ rest) =
      .ok result →
    ∃ (q : Progress) (body : Node), readConstructs q rest = .ok result ∧
      q.AtTop (gs ++ [p.groups.next]) ∧
      q.frame.parts = .group p.groups.next body :: p.frame.parts ∧
      Body e p.groups.next q.groups.next body ∧ p.groups.next < q.groups.next

/-- The text that stands for an inline expression in its group. -/
def splicedText (e : Text) : Option Text :=
  if Segment.mentionsSlash e then some e else confine e

/-- No segment is an inline expression. -/
def IsPlain (segments : List Segment) : Prop :=
  ∀ name e, .constrained name e ∉ segments

theorem IsPlain.tail {s : Segment} {rest : List Segment} (h : IsPlain (s :: rest)) :
    IsPlain rest := fun name e hm => h name e (List.mem_cons_of_mem _ hm)

/-- The reader has gone from `p`, after captures with the groups `gs`, to the end of what a sequence
is compiled to. -/
def ReadOn (Body : Text → Nat → Nat → Node → Prop) (extent : Extent) (segments : List Segment)
    (p : Progress) (gs : List Nat) (w : Text) : Prop :=
  ∃ q nodes groups, readConstructs p w = .ok (q, []) ∧ q.AtTop (gs ++ groups) ∧
    q.frame.parts = nodes.reverse ++ p.frame.parts ∧
    Compiled Body extent p.groups.next q.groups.next segments nodes groups ∧
    (IsPlain segments → q.asked = p.asked)

/-- The reader gets through: the sequence is plain and no name is taken, or it is known to. -/
def GetsThrough (segments : List Segment) (p : Progress) (gs : List Nat) (w : Text) : Prop :=
  IsPlain segments ∧ p.IsFresh gs.length ∨ ∃ r, readConstructs p w = .ok r

theorem bind_eq_ok {α β : Type} {x : Except BuildFailure α} {f : α → Except BuildFailure β} {b : β} :
    (x >>= f) = .ok b ↔ ∃ a, x = .ok a ∧ f a = .ok b := by
  cases x <;> simp [bind, Except.bind]

theorem eq_ok_of_toOption {ε α : Type} {x : Except ε α} {a : α} (h : x.toOption = some a) :
    x = .ok a := by
  cases x with
  | error e => exact absurd h (by simp [Except.toOption])
  | ok b => rw [Option.some.inj h]

/-- Where a generated group is read, its name was not taken. -/
theorem ofName?_eq_none_of_read {p : Progress} {n : Nat} {body rest : Text} {r : Progress × Text}
    (hv : p.frame.verbose = false) (hs : body ++ ')' :: rest ≠ ['\\'])
    (h : readConstructs p (namedGroup (groupName n) body ++ rest) = .ok r) :
    p.groups.ofName? (groupName n) = none := by
  have hname := groupName_spec n
  have hread : readUntil '>' "group name" [] (groupName n ++ '>' :: (body ++ ')' :: rest)) =
      .ok (groupName n, body ++ ')' :: rest) := by
    simpa using readUntil_append "group name" [] hname.2 (by decide)
      (.inr (by simp [groupName])) hs
  have htext : namedGroup (groupName n) body ++ rest =
      '(' :: '?' :: 'P' :: '<' :: (groupName n ++ '>' :: (body ++ ')' :: rest)) := by
    simp [namedGroup]
  have hne : groupName n ++ '>' :: (body ++ ')' :: rest) ≠ ['\\'] := by simp [groupName]
  rw [htext, readConstructs_cons (.inl (by decide)), step_special hv (by decide) (by simp)] at h
  cases ho : p.groups.ofName? (groupName n) with
  | none => rfl
  | some old =>
    simp [stepSpecial, isQuantifierStart, readOpening, readExtension, readToken,
      readNamedConstruct, readGroupName, settle_ok, hne, hread, hname.1, pure, Except.pure,
      Progress.begin, ho, fault, bind, Except.bind] at h

/-- The capture of a segment that holds one part is read as a group of that part. -/
theorem read_capture {segments : List Segment} {p : Progress} {gs : List Nat} {body w : Text}
    {part : Node} (hp : p.AtTop gs) (hb : 2 ≤ body.length) (hw : w ≠ ['\\'])
    (hread : ∀ q : Progress, q.frame.verbose = false →
      readConstructs q (body ++ ')' :: w) = readConstructs (q.add part) (')' :: w))
    (h : GetsThrough segments p gs (namedGroup (groupName gs.length) body ++ w)) :
    readConstructs p (namedGroup (groupName gs.length) body ++ w) =
      readConstructs (p.captured (groupName gs.length) part) w := by
  have hne : body ++ ')' :: w ≠ ['\\'] := fun e => by
    have := congrArg List.length e
    simp at this
    omega
  refine readConstructs_namedGroup _ hp.verbose ?_ hw hne hread
  rcases h with ⟨_, hfresh⟩ | ⟨r, hr⟩
  · exact hfresh _ (Nat.le_refl _)
  · exact ofName?_eq_none_of_read hp.verbose hne hr

section ReadOn

variable {Body : Text → Nat → Nat → Node → Prop} {extent : Extent} {rest : List Segment}
variable {p : Progress} {gs : List Nat} {w : Text}

theorem ReadOn.textEnd (hp : p.AtTop gs) : ReadOn Body .exact [] p gs textEnd := by
  refine ⟨p.add textEndNode, [textEndNode], [], ?_, ?_, rfl, .textEnd rfl, fun _ => rfl⟩
  · rw [← List.append_nil PathRouter.textEnd, readConstructs_textEnd (by simp), readConstructs_nil]
  · simpa using hp.addAll [textEndNode]

theorem ReadOn.boundary (hp : p.AtTop gs) :
    ReadOn Body .leading [.boundary] p gs boundaryAhead := by
  refine ⟨p.add boundaryNode, [boundaryNode], [], ?_, ?_, rfl, .boundary rfl, fun _ => rfl⟩
  · rw [← List.append_nil boundaryAhead, readConstructs_boundaryAhead hp.verbose (by simp),
      readConstructs_nil]
  · simpa using hp.addAll [boundaryNode]

theorem ReadOn.slashAhead {text : Text} (hp : p.AtTop gs)
    (ht : LeavesSlash extent text [.boundary]) :
    ReadOn Body extent [.literal text, .boundary] p gs
      (escapeText text.dropLast ++ slashAhead) := by
  refine ⟨(p.addAll (literalNodes text.dropLast)).add slashAheadNode,
    literalNodes text.dropLast ++ [slashAheadNode], [], ?_, ?_, ?_, ?_, fun _ => ?_⟩
  · rw [readConstructs_escapeText _ hp.verbose (by decide), ← List.append_nil PathRouter.slashAhead,
      readConstructs_slashAhead (by simpa using hp.verbose) (by simp), readConstructs_nil]
  · simpa [Progress.addAll_append] using hp.addAll (literalNodes text.dropLast ++ [slashAheadNode])
  · simp [Progress.addAll_eq, Progress.add]
  · simpa using Compiled.slashAhead ht
  · simp [Progress.addAll_eq, Progress.add]

theorem ReadOn.literal {text : Text} (hp : p.AtTop gs) (hw : w ≠ ['\\'])
    (ht : ¬LeavesSlash extent text rest)
    (h : ReadOn Body extent rest (p.addAll (literalNodes text)) gs w) :
    ReadOn Body extent (.literal text :: rest) p gs (escapeText text ++ w) := by
  obtain ⟨q, nodes, groups, hread, htop, hparts, hcompiled, hasked⟩ := h
  refine ⟨q, literalNodes text ++ nodes, groups, ?_, htop, ?_, .literal ht (by simpa using hcompiled),
    fun hplain => ?_⟩
  · rw [readConstructs_escapeText _ hp.verbose hw, hread]
  · rw [hparts, Progress.addAll_eq]
    simp
  · rw [hasked hplain.tail, Progress.addAll_eq]

theorem ReadOn.dynamic {name : Text}
    (heq : readConstructs p (namedGroup (groupName gs.length) spanBody ++ w) =
      readConstructs (p.captured (groupName gs.length) slashlessSpan) w)
    (h : ReadOn Body extent rest (p.captured (groupName gs.length) slashlessSpan)
      (gs ++ [p.groups.next]) w) :
    ReadOn Body extent (.dynamic name :: rest) p gs
      (namedGroup (groupName gs.length) spanBody ++ w) := by
  obtain ⟨q, nodes, groups, hread, htop, hparts, hcompiled, hasked⟩ := h
  refine ⟨q, .group p.groups.next slashlessSpan :: nodes, p.groups.next :: groups,
    heq.trans hread, by simpa using htop, ?_, .dynamic (by simpa using hcompiled),
    fun hplain => hasked hplain.tail⟩
  rw [hparts]
  simp

theorem ReadOn.constrained {name e text : Text} {q : Progress} {body : Node}
    (heq : readConstructs p (text ++ w) = readConstructs q w)
    (hparts : q.frame.parts = .group p.groups.next body :: p.frame.parts)
    (hbody : Body e p.groups.next q.groups.next body) (hlt : p.groups.next < q.groups.next)
    (h : ReadOn Body extent rest q (gs ++ [p.groups.next]) w) :
    ReadOn Body extent (.constrained name e :: rest) p gs (text ++ w) := by
  obtain ⟨r, nodes, groups, hread, htop, hparts', hcompiled, -⟩ := h
  refine ⟨r, .group p.groups.next body :: nodes, p.groups.next :: groups,
    heq.trans hread, by simpa using htop, ?_, .constrained hbody hlt hcompiled,
    fun hplain => absurd (List.mem_cons_self ..) (hplain name e)⟩
  rw [hparts', hparts]
  simp

theorem ReadOn.tail {name : Text} {allowEmpty : Bool}
    (heq : readConstructs p (namedGroup (groupName gs.length) (tailBody allowEmpty) ++ w) =
      readConstructs (p.captured (groupName gs.length) (restOfText allowEmpty)) w)
    (hp : p.AtTop gs) (hw : w = closingText extent) :
    ReadOn Body extent (.tail name allowEmpty :: Pattern.endSegments extent) p gs
      (namedGroup (groupName gs.length) (tailBody allowEmpty) ++ w) := by
  have htop := hp.captured (restOfText allowEmpty)
  let r := p.captured (groupName gs.length) (restOfText allowEmpty)
  let group := Node.group p.groups.next (restOfText allowEmpty)
  cases extent with
  | exact =>
    subst hw
    have hend : readConstructs r PathRouter.textEnd = .ok (r.add textEndNode, []) := by
      rw [← List.append_nil PathRouter.textEnd, readConstructs_textEnd (by simp),
        readConstructs_nil]
    refine ⟨r.add textEndNode, [group, textEndNode], [p.groups.next], heq.trans hend,
      by simpa using htop.addAll [textEndNode], rfl, ?_, fun _ => rfl⟩
    simpa [r, closingNodes] using
      (.tail : Compiled Body .exact p.groups.next _ (.tail name allowEmpty :: _) _ _)
  | leading =>
    subst hw
    refine ⟨r, [group], [p.groups.next], heq.trans (readConstructs_nil r), htop, rfl, ?_,
      fun _ => rfl⟩
    simpa [r, closingNodes] using
      (.tail : Compiled Body .leading p.groups.next _ (.tail name allowEmpty :: _) _ _)

end ReadOn

/-! ## The source of a draft -/

namespace Draft

@[simp] theorem append_source (d : Draft) (part : Text) :
    (d.append part).source = d.source ++ part := rfl
@[simp] theorem append_groups (d : Draft) (part : Text) : (d.append part).groups = d.groups := rfl

@[simp] theorem capture_source (d : Draft) (name body : Text) : (d.capture name body).source =
    d.source ++ namedGroup (groupName d.groups.length) body := rfl
@[simp] theorem capture_groups (d : Draft) (name body : Text) : (d.capture name body).groups =
    d.groups ++ [(groupName d.groups.length, name)] := rfl

/-- What `addSegments` adds to a draft: a text that is read as the segments, and their groups. -/
structure Adds (Body : Text → Nat → Nat → Node → Prop) (extent : Extent) (segments : List Segment)
    (d d' : Draft) : Prop where
  groups : d'.groups = d.groups ++ captureGroups d.groups.length segments
  text : ∃ w, (d'.finish extent).source = d.source ++ w ∧ w ≠ ['\\'] ∧
    ∀ p gs, p.AtTop gs → gs.length = d.groups.length → GetsThrough segments p gs w →
      ReadOn Body extent segments p gs w

variable {Body : Text → Nat → Nat → Node → Prop} {extent : Extent}

theorem namedGroup_append_ne (name body w : Text) : namedGroup name body ++ w ≠ ['\\'] := by
  simp [namedGroup]

theorem Adds.ending {d : Draft} (hd : d.needsBoundary = true) {segments : List Segment} {d' : Draft}
    (hs : segments = Pattern.endSegments extent) (h : d.addSegments extent segments = .ok d') :
    Adds Body extent segments d d' := by
  subst hs
  cases extent with
  | exact =>
    obtain rfl : d = d' := by simpa [Pattern.endSegments, addSegments] using h
    exact ⟨by simp [Pattern.endSegments, captureGroups], textEnd, rfl, by decide,
      fun p gs hp _ _ => .textEnd hp⟩
  | leading =>
    obtain rfl : d.append boundaryAhead = d' := by
      simpa [Pattern.endSegments, addSegments, addSegment, hd, bind, Except.bind] using h
    exact ⟨by simp [Pattern.endSegments, captureGroups, Segment.name?], boundaryAhead, rfl,
      by decide, fun p gs hp _ _ => .boundary hp⟩

theorem Adds.literal {text : Text} {rest : List Segment} {d d' : Draft}
    (ht : ¬LeavesSlash extent text rest)
    (h : Adds Body extent rest (d.append (escapeText text)) d') :
    Adds Body extent (.literal text :: rest) d d' := by
  obtain ⟨hgroups, w, hw, hne, hread⟩ := h
  refine ⟨by simpa [captureGroups, Segment.name?] using hgroups, escapeText text ++ w,
    by simpa using hw, escapeText_append_ne hne, fun p gs hp hl hok => ?_⟩
  refine .literal hp hne ht (hread _ gs (hp.addAll _) (by simpa using hl) ?_)
  rcases hok with ⟨hplain, hfresh⟩ | ⟨r, hr⟩
  · refine .inl ⟨hplain.tail, fun k hk => ?_⟩
    simpa using hfresh k hk
  · rw [readConstructs_escapeText _ hp.verbose hne] at hr
    exact .inr ⟨r, hr⟩

theorem Adds.dynamic {name : Text} {rest : List Segment} {d d' : Draft}
    (h : Adds Body extent rest (d.capture name spanBody) d') :
    Adds Body extent (.dynamic name :: rest) d d' := by
  obtain ⟨hgroups, w, hw, hne, hread⟩ := h
  refine ⟨by simpa [captureGroups, Segment.name?] using hgroups,
    namedGroup (groupName d.groups.length) spanBody ++ w, by simpa using hw,
    namedGroup_append_ne _ _ _, fun p gs hp hl hok => ?_⟩
  rw [← hl] at hok ⊢
  have heq := read_capture hp (by decide) hne (fun q hq => readConstructs_spanBody hq) hok
  refine .dynamic heq (hread _ _ (hp.captured slashlessSpan) (by simp [hl]) ?_)
  rcases hok with ⟨hplain, hfresh⟩ | ⟨r, hr⟩
  · refine .inl ⟨hplain.tail, ?_⟩
    simpa using hfresh.captured slashlessSpan
  · exact .inr ⟨r, heq.symm.trans hr⟩

theorem Adds.constrained {name e body : Text} {rest : List Segment} {d d' : Draft}
    (hb : ReadsAs Body e body)
    (h : Adds Body extent rest (d.capture name (['(', '?', ':'] ++ body ++ [')'])) d') :
    Adds Body extent (.constrained name e :: rest) d d' := by
  obtain ⟨hgroups, w, hw, hne, hread⟩ := h
  refine ⟨by simpa [captureGroups, Segment.name?] using hgroups,
    namedGroup (groupName d.groups.length) (['(', '?', ':'] ++ body ++ [')']) ++ w,
    by simpa using hw, namedGroup_append_ne _ _ _, fun p gs hp hl hok => ?_⟩
  rw [← hl] at hok ⊢
  rcases hok with ⟨hplain, _⟩ | ⟨r, hr⟩
  · exact absurd (List.mem_cons_self ..) (hplain name e)
  · obtain ⟨q, node, hq, htop, hparts, hbody, hlt⟩ := hb p gs w r hp hne hr
    exact .constrained (hr.trans hq.symm) hparts hbody hlt
      (hread q _ htop (by simp [hl]) (.inr ⟨r, hq⟩))

theorem Adds.tail {name : Text} {allowEmpty : Bool} {d d' : Draft}
    (h : d.addSegments extent (.tail name allowEmpty :: Pattern.endSegments extent) = .ok d') :
    Adds Body extent (.tail name allowEmpty :: Pattern.endSegments extent) d d' := by
  have hd' : d' = { d.capture name (tailBody allowEmpty) with needsBoundary := false } := by
    cases extent <;>
      simpa [addSegments, addSegment, Pattern.endSegments, bind, Except.bind, eq_comm] using h
  subst hd'
  have hw : closingText extent ≠ ['\\'] := by cases extent <;> decide
  refine ⟨by cases extent <;> rfl,
    namedGroup (groupName d.groups.length) (tailBody allowEmpty) ++ closingText extent, ?_,
    namedGroup_append_ne _ _ _, fun p gs hp hl hok => ?_⟩
  · cases extent <;> simp [finish, append, closingText]
  · rw [← hl] at hok ⊢
    have hb : 2 ≤ (tailBody allowEmpty).length := by cases allowEmpty <;> decide
    exact .tail (read_capture hp hb hw (fun q hq => readConstructs_tailBody _ hq) hok) hp rfl

/-- What is added for a sequence is read as the sequence. -/
theorem adds_of_addSegments {segments : List Segment} {d d' : Draft}
    (hend : EndsWell extent segments)
    (hbody : ∀ name e b, .constrained name e ∈ segments → splicedText e = some b →
      ReadsAs Body e b)
    (hd : d.needsBoundary = true) (h : d.addSegments extent segments = .ok d') :
    Adds Body extent segments d d' := by
  induction segments generalizing d with
  | nil => exact .ending hd (by cases extent <;> simp_all [EndsWell, Pattern.endSegments]) h
  | cons s rest ih =>
    have hbody' : ∀ name e b, .constrained name e ∈ rest → splicedText e = some b →
        ReadsAs Body e b := fun name e b hm => hbody name e b (List.mem_cons_of_mem _ hm)
    cases s with
    | boundary => exact .ending hd (by simp [hend.1, hend.2, Pattern.endSegments]) h
    | tail name allowEmpty =>
      obtain rfl : rest = Pattern.endSegments extent := hend
      exact .tail h
    | dynamic name =>
      simp only [addSegments, addSegment, bind_eq_ok] at h
      obtain ⟨d₁, hd₁, h⟩ := h
      cases hd₁
      exact .dynamic (ih hend hbody' hd h)
    | constrained name e =>
      simp only [addSegments, addSegment, bind_eq_ok] at h
      obtain ⟨d₁, hd₁, h⟩ := h
      split at hd₁
      · rename_i body hb
        cases hd₁
        exact .constrained (hbody name e body (List.mem_cons_self ..) hb) (ih hend hbody' hd h)
      · simp at hd₁
    | literal text =>
      by_cases ht : LeavesSlash extent text rest
      · have hrest := ht.2.2
        subst hrest
        have hd' : d' = { (d.append (escapeText text.dropLast)).append slashAhead with
            needsBoundary := false } := by
          simpa [addSegments, addSegment, ht.1, ht.2.1, bind, Except.bind, eq_comm] using h
        subst hd'
        refine ⟨by simp [captureGroups, Segment.name?], escapeText text.dropLast ++ slashAhead, ?_,
          escapeText_append_ne (by decide), fun p gs hp _ _ => .slashAhead hp ht⟩
        simp [finish, ht.1, append]
      · rw [addSegments, bind_eq_ok] at h
        obtain ⟨d₁, hd₁, h⟩ := h
        have hlit : d.addSegment extent (.literal text) rest = .ok (d.append (escapeText text)) :=
          if_neg ht
        cases hlit.symm.trans hd₁
        exact .literal ht (ih hend hbody' hd h)

end Draft

/-! ## The compiled expression -/

/-- The alternative is the compiled form of the sequence: the tree of its expression has the parts
`nodes`, and the groups of the captures have the numbers `gs`. -/
structure RegexAlternative.IsOf (Body : Text → Nat → Nat → Node → Prop) (extent : Extent)
    (segments : List Segment) (a : RegexAlternative) (nodes : List Node) (gs : List Nat) :
    Prop where
  groups : a.groups = captureGroups 0 segments
  tree : a.expression.tree = .ofList nodes
  width : ∃ f, a.expression.width = a.expression.tree.width f
  compiled : Compiled Body extent 1 (a.expression.groups + 1) segments nodes gs
  named : ∀ (k : Nat) (h : k < gs.length),
    (a.expression.names.find? fun e => e.1 == groupName k).map Prod.snd = some gs[k]
  flags : a.expression.flags = []

section Expression

variable {Body : Text → Nat → Nat → Node → Prop} {edition : Edition} {extent : Extent}
variable {segments : List Segment}

theorem regex_bind_ok {α β : Type} {x : Except Fault α} {f : α → Except Fault β} {b : β} :
    (x >>= f) = .ok b ↔ ∃ a, x = .ok a ∧ f a = .ok b :=
  Regex.bind_eq_ok_iff

/-- An expression is what its reader ends with. -/
theorem expression_of_read {w : Text} {q : Progress} {e : Expression} (hw : w ≠ ['\\'])
    (hread : readConstructs (.start w.length) w = .ok (q, []))
    (he : Expression.ofText w = .ok e) :
    e = ⟨q.frame.body, q.frame.body.width q.groups.widthOf, q.groups.widths.length,
      q.groups.names, q.flags⟩ := by
  simp only [Expression.ofText, regex_bind_ok] at he
  obtain ⟨e', he', _, _, he⟩ := he
  simp only [readExpression, settle_ok hw, hread, ok_bind, regex_bind_ok] at he'
  obtain ⟨_, _, he'⟩ := he'
  split at he
  · cases he
  · cases he
    cases he'
    rfl

theorem isOf_of_read {w : Text} {q : Progress} {nodes : List Node} {gs : List Nat}
    {e : Expression} (htop : q.AtTop gs) (hparts : q.frame.parts = nodes.reverse)
    (hcompiled : Compiled Body extent 1 q.groups.next segments nodes gs)
    (he : e = ⟨q.frame.body, q.frame.body.width q.groups.widthOf, q.groups.widths.length,
      q.groups.names, q.flags⟩) :
    RegexAlternative.IsOf Body extent segments ⟨w, e, captureGroups 0 segments, edition⟩ nodes gs := by
  have hbody : q.frame.body = .ofList nodes := by
    simp [Frame.body, Frame.current, htop.finished, hparts, Node.ofAlternatives]
  subst he
  exact ⟨rfl, hbody, ⟨_, rfl⟩, hcompiled, htop.named, htop.flags⟩

theorem RegexAlternative.edition_of_ofSegments {a : RegexAlternative}
    (h : RegexAlternative.ofSegments edition extent segments = .ok a) : a.edition = edition := by
  simp only [RegexAlternative.ofSegments, bind_eq_ok] at h
  obtain ⟨d, -, h⟩ := h
  split at h
  · cases h
    rfl
  · split at h <;> cases h

/-- A sequence that could be compiled has the tree that it should have, provided that its inline
expressions are read as groups of their own. -/
theorem RegexAlternative.isOf_of_ofSegments {a : RegexAlternative} (hend : EndsWell extent segments)
    (hbody : ∀ name e b, .constrained name e ∈ segments → splicedText e = some b →
      ReadsAs Body e b)
    (h : RegexAlternative.ofSegments edition extent segments = .ok a) :
    ∃ nodes gs, a.IsOf Body extent segments nodes gs := by
  simp only [RegexAlternative.ofSegments, bind_eq_ok] at h
  obtain ⟨d, hd, h⟩ := h
  split at h
  · rename_i e he
    cases h
    obtain ⟨hgroups, w, hw, hne, hread⟩ :=
      Draft.adds_of_addSegments hend hbody rfl hd
    have hsource : (d.finish extent).source = w := hw
    rw [hsource] at he ⊢
    have hok : ∃ r, readConstructs (.start w.length) w = .ok r := by
      simp only [Expression.ofText, readExpression, settle_ok hne, ok_bind, regex_bind_ok] at he
      obtain ⟨_, ⟨r, hr, _⟩, _⟩ := he
      exact ⟨r, hr⟩
    obtain ⟨q, nodes, gs, hq, htop, hparts, hcompiled, -⟩ :=
      hread _ [] (Progress.start_atTop _) rfl (.inr hok)
    refine ⟨nodes, gs, ?_⟩
    have hgroups' : (d.finish extent).groups = captureGroups 0 segments := by
      have : (d.finish extent).groups = d.groups := by cases extent <;> rfl
      rw [this, hgroups]
      rfl
    rw [hgroups']
    exact isOf_of_read htop (hparts.trans (List.append_nil _)) hcompiled
      (expression_of_read hne hq he)
  · split at h <;> cases h

/-! ## Patterns without inline expressions -/

/-- The body of an inline expression where there is none. -/
def NoBody : Text → Nat → Nat → Node → Prop :=
  fun _ _ _ _ => False

theorem check_ofList {ns : List Node} (h : ∀ n ∈ ns, n.check false = .ok ()) :
    (Node.ofList ns).check false = .ok () := by
  induction ns with
  | nil => rfl
  | cons n ns ih =>
    cases ns with
    | nil => exact h n (List.mem_singleton_self n)
    | cons m ns =>
      have hrest := ih fun x hx => h x (List.mem_cons_of_mem _ hx)
      simp only [Node.ofList, Node.check, h n (List.mem_cons_self ..), ok_bind, hrest]

theorem stepsTooFar_ofList {ns : List Node} (h : ∀ n ∈ ns, n.stepsTooFar = false) :
    (Node.ofList ns).stepsTooFar = false := by
  induction ns with
  | nil => rfl
  | cons n ns ih =>
    cases ns with
    | nil => exact h n (List.mem_singleton_self n)
    | cons m ns =>
      have hrest := ih fun x hx => h x (List.mem_cons_of_mem _ hx)
      simp only [Node.ofList, Node.stepsTooFar, h n (List.mem_cons_self ..), hrest, Bool.or_self]

/-- The parts of a plain sequence meet the conditions on expressions. -/
theorem Compiled.check {i j : Nat} {nodes : List Node} {gs : List Nat}
    (h : Compiled NoBody extent i j segments nodes gs) :
    ∀ n ∈ nodes, n.check false = .ok () ∧ n.stepsTooFar = false := by
  have hlit : ∀ (text : Text), ∀ n ∈ literalNodes text,
      n.check false = .ok () ∧ n.stepsTooFar = false := by
    intro text n hn
    obtain ⟨c, -, rfl⟩ := List.mem_map.1 hn
    exact ⟨rfl, rfl⟩
  induction h with
  | textEnd _ => simpa using ⟨rfl, rfl⟩
  | boundary _ => simpa using ⟨rfl, rfl⟩
  | slashAhead _ =>
    intro n hn
    rcases List.mem_append.1 hn with hn | hn
    · exact hlit _ n hn
    · obtain rfl := List.mem_singleton.1 hn
      exact ⟨rfl, rfl⟩
  | literal _ _ ih =>
    intro n hn
    exact (List.mem_append.1 hn).elim (hlit _ n) (ih n)
  | dynamic _ ih =>
    intro n hn
    rcases List.mem_cons.1 hn with rfl | hn
    · exact ⟨rfl, rfl⟩
    · exact ih n hn
  | constrained hbody _ _ _ => exact hbody.elim
  | tail =>
    intro n hn
    rcases List.mem_cons.1 hn with rfl | hn
    · exact ⟨rfl, rfl⟩
    · cases extent with
      | exact =>
        obtain rfl := List.mem_singleton.1 hn
        exact ⟨rfl, rfl⟩
      | leading => simp [closingNodes] at hn

theorem addSegments_of_isPlain {d : Draft} (hend : EndsWell extent segments)
    (hplain : IsPlain segments) : ∃ d', d.addSegments extent segments = .ok d' := by
  induction segments generalizing d with
  | nil => exact ⟨d, rfl⟩
  | cons s rest ih =>
    have hs : ∃ d', d.addSegment extent s rest = .ok d' := by
      cases s with
      | constrained name e => exact absurd (List.mem_cons_self ..) (hplain name e)
      | boundary =>
        simp only [Draft.addSegment, hend.2]
        cases d.needsBoundary <;> simp
      | literal text =>
        simp only [Draft.addSegment]
        split <;> simp
      | dynamic name => exact ⟨_, rfl⟩
      | tail name allowEmpty => exact ⟨_, rfl⟩
    obtain ⟨d₁, hd₁⟩ := hs
    have hrest : rest = [] ∨ EndsWell extent rest := by
      cases s with
      | boundary => exact .inl hend.2
      | tail name allowEmpty =>
        obtain rfl : rest = Pattern.endSegments extent := hend
        cases extent <;> simp [Pattern.endSegments, EndsWell]
      | constrained name e => exact .inr hend
      | literal text => exact .inr hend
      | dynamic name => exact .inr hend
    rcases hrest with rfl | hend'
    · exact ⟨d₁, by simp [Draft.addSegments, hd₁, bind, Except.bind]⟩
    · obtain ⟨d', hd'⟩ := ih (d := d₁) hend' hplain.tail
      exact ⟨d', by simp [Draft.addSegments, hd₁, hd', bind, Except.bind]⟩

/-- A sequence without inline expressions can be compiled. -/
theorem RegexAlternative.ofSegments_of_isPlain (edition : Edition) (hend : EndsWell extent segments)
    (hplain : IsPlain segments) :
    ∃ a nodes gs, RegexAlternative.ofSegments edition extent segments = .ok a ∧
      a.IsOf NoBody extent segments nodes gs := by
  obtain ⟨d, hd⟩ := addSegments_of_isPlain (d := .empty) hend hplain
  have hbody : ∀ name e b, .constrained name e ∈ segments → splicedText e = some b →
      ReadsAs NoBody e b := fun name e b hm => absurd hm (hplain name e)
  obtain ⟨hgroups, w, hw, hne, hread⟩ := Draft.adds_of_addSegments hend hbody rfl hd
  obtain ⟨q, nodes, gs, hq, htop, hparts, hcompiled, hasked⟩ :=
    hread _ [] (Progress.start_atTop w.length) rfl (.inl ⟨hplain, Progress.start_isFresh _⟩)
  have hend : q.checkEnd [] = .ok () := by
    simp [Progress.checkEnd, htop.outer, htop.flags, hasked hplain, Progress.start]
  have hbody : q.frame.body = .ofList nodes := by
    have : q.frame.parts = nodes.reverse := hparts.trans (List.append_nil _)
    simp [Frame.body, Frame.current, htop.finished, this, Node.ofAlternatives]
  let e : Expression := ⟨q.frame.body, q.frame.body.width q.groups.widthOf,
    q.groups.widths.length, q.groups.names, q.flags⟩
  have hexpr : readExpression w = .ok e := by
    simp [readExpression, settle_ok hne, hq, hend, ok_bind, pure, Except.pure, e]
  have he : Expression.ofText w = .ok e := by
    have hflags : e.flags.contains .template = false := by simp [e, htop.flags]
    have hcheck : e.tree.check false = .ok () := by
      rw [show e.tree = .ofList nodes from hbody]
      exact check_ofList fun n hn => (hcompiled.check n hn).1
    have hfar : e.tree.stepsTooFar = false := by
      rw [show e.tree = .ofList nodes from hbody]
      exact stepsTooFar_ofList fun n hn => (hcompiled.check n hn).2
    rw [Expression.ofText, hexpr, ok_bind, hflags, hcheck, ok_bind, hfar]
    rfl
  refine ⟨⟨w, e, captureGroups 0 segments, edition⟩, nodes, gs, ?_,
    isOf_of_read htop (hparts.trans (List.append_nil _)) hcompiled rfl⟩
  have hsource : (d.finish extent).source = w := hw
  have hgroups' : (d.finish extent).groups = captureGroups 0 segments := by
    have : (d.finish extent).groups = d.groups := by cases extent <;> rfl
    rw [this, hgroups]
    rfl
  simp [RegexAlternative.ofSegments, hd, hsource, hgroups', he, bind, Except.bind, pure,
    Except.pure]

end Expression

end PathRouter
