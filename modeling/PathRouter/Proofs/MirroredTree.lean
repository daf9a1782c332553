import Mathlib.Data.List.Forall2
import PathRouter.Proofs.ClassReading
import PathRouter.Proofs.CompiledTree

/-!
# The tree of an expression and of its image

An expression that is read inside a longer one becomes the same tree there, but for the numbers of
its groups. If it was narrowed its tests are changed as well: each refuses a slash, or stands behind
a look ahead that does.
-/

namespace PathRouter.Regex
set_option autoImplicit false

/-- What a narrowed class that is not negated becomes. -/
def guardedTest (test : CharTest) : Node :=
  .flagged [] [] (.seq (.look none true (.ofCode 47)) (.char test))

/-- What a test becomes: itself, or if it is narrowed something that no slash gets through. The
members of a negated class are kept as far as `total` tells. -/
inductive TestMirrors (total narrowed : Bool) : CharTest → Node → Prop
  | same {test : CharTest} : (narrowed = true → test.RefusesSlash) →
      TestMirrors total narrowed test (.char test)
  | dot : narrowed = true → TestMirrors total narrowed .any (.char (.notLiteral 47))
  | shorthand (kind : Category) : narrowed = true →
      TestMirrors total narrowed (.set false [.category kind true])
        (.char (.set true [.category kind false, .single 47]))
  | negated {ms ms' : List Member} : narrowed = true → SameMembers total true ms ms' →
      TestMirrors total narrowed (classTest true ms) (.char (classTest true ms'))
  | guarded {test : CharTest} : narrowed = true → TestMirrors total narrowed test (guardedTest test)

/-- A test becomes a test, or it is guarded. -/
theorem TestMirrors.cases {total narrowed : Bool} {test : CharTest} {n : Node}
    (h : TestMirrors total narrowed test n) :
    (∃ test', n = .char test' ∧ (narrowed = true → test'.RefusesSlash) ∧
        (narrowed = false → test' = test)) ∨ narrowed = true ∧ n = guardedTest test := by
  have hchanged {test' : CharTest} (hn : narrowed = true) (hrefuses : test'.RefusesSlash) :
      (narrowed = true → test'.RefusesSlash) ∧ (narrowed = false → test' = test) :=
    ⟨fun _ => hrefuses, fun he => absurd (hn.symm.trans he) (by simp)⟩
  cases h with
  | same hrefuses => exact .inl ⟨_, rfl, hrefuses, fun _ => rfl⟩
  | dot hn => exact .inl ⟨_, rfl, hchanged hn refusesSlash_notLiteral⟩
  | shorthand kind hn =>
    exact .inl ⟨_, rfl, hchanged hn (refusesSlash_negated (m := .single 47) (by simp) (.inl rfl))⟩
  | negated hn hms =>
    obtain ⟨m, hm, hends⟩ := hms.ends rfl
    exact .inl ⟨_, rfl, hchanged hn (refusesSlash_classTest hm hends)⟩
  | guarded hn => exact .inr ⟨hn, rfl⟩

theorem TestMirrors.eq_char {total : Bool} {test : CharTest} {n : Node}
    (h : TestMirrors total false test n) : n = .char test := by
  obtain ⟨test', rfl, -, hsame⟩ | ⟨hn, -⟩ := h.cases
  · rw [hsame rfl]
  · exact absurd hn (by simp)

/-- The second tree is the image of the first. Its groups are numbered from `first` on. -/
inductive Mirrors (narrowed : Bool) (first : Nat) : Node → Node → Prop
  | empty : Mirrors narrowed first .empty .empty
  | char {test : CharTest} {n : Node} : TestMirrors false narrowed test n →
      Mirrors narrowed first (.char test) n
  | anchor (a : Anchor) : Mirrors narrowed first (.anchor a) (.anchor a)
  | backreference (g g' : Nat) : Mirrors narrowed first (.backreference g) (.backreference g')
  | seq {a b a' b' : Node} : Mirrors narrowed first a a' → Mirrors narrowed first b b' →
      Mirrors narrowed first (.seq a b) (.seq a' b')
  | alt {a b a' b' : Node} : Mirrors narrowed first a a' → Mirrors narrowed first b b' →
      Mirrors narrowed first (.alt a b) (.alt a' b')
  | quantified (mode : Mode) (least : Nat) (most : Option Nat) {a a' : Node} :
      Mirrors narrowed first a a' →
      Mirrors narrowed first (.quantified mode least most a) (.quantified mode least most a')
  | group {i i' : Nat} {a a' : Node} : first ≤ i' → Mirrors narrowed first a a' →
      Mirrors narrowed first (.group i a) (.group i' a')
  | flagged (on off : List Flag) {a a' : Node} : Mirrors narrowed first a a' →
      Mirrors narrowed first (.flagged on off a) (.flagged on off a')
  | atomic {a a' : Node} : Mirrors narrowed first a a' →
      Mirrors narrowed first (.atomic a) (.atomic a')
  | look {behind behind' : Option Width} (negated : Bool) {a a' : Node} :
      behind'.isSome = behind.isSome → Mirrors narrowed first a a' →
      Mirrors narrowed first (.look behind negated a) (.look behind' negated a')
  | conditional (g g' : Nat) {a b a' b' : Node} : Mirrors narrowed first a a' →
      Mirrors narrowed first b b' →
      Mirrors narrowed first (.conditional g a b) (.conditional g' a' b')

/-! ## Open groups -/

/-- What two frames hold, related part by part. -/
structure FrameMirrors (N : Node → Node → Prop) (f g : Frame) : Prop where
  verbose : g.verbose = f.verbose
  finished : List.Forall₂ N f.finished g.finished
  parts : List.Forall₂ N f.parts g.parts

/-- A relation between trees that goes from their parts to sequences and alternations. -/
structure IsTreewise (N : Node → Node → Prop) : Prop where
  empty : N .empty .empty
  seq : ∀ {a b a' b'}, N a a' → N b b' → N (.seq a b) (.seq a' b')
  alt : ∀ {a b a' b'}, N a a' → N b b' → N (.alt a b) (.alt a' b')

section Frames

variable {N : Node → Node → Prop} {f g : Frame}

theorem IsTreewise.ofList (hN : IsTreewise N) {xs ys : List Node} (h : List.Forall₂ N xs ys) :
    N (.ofList xs) (.ofList ys) := by
  induction h with
  | nil => exact hN.empty
  | cons hx hrest ih =>
    cases hrest with
    | nil => exact hx
    | cons _ _ => exact hN.seq hx ih

theorem IsTreewise.ofAlternatives (hN : IsTreewise N) {xs ys : List Node}
    (h : List.Forall₂ N xs ys) : N (.ofAlternatives xs) (.ofAlternatives ys) := by
  induction h with
  | nil => exact hN.empty
  | cons hx hrest ih =>
    cases hrest with
    | nil => exact hx
    | cons _ _ => exact hN.alt hx ih

theorem FrameMirrors.current (h : FrameMirrors N f g) (hN : IsTreewise N) : N f.current g.current :=
  hN.ofList (List.rel_reverse h.parts)

theorem FrameMirrors.body (h : FrameMirrors N f g) (hN : IsTreewise N) : N f.body g.body :=
  hN.ofAlternatives (List.rel_reverse (.cons (h.current hN) h.finished))

theorem FrameMirrors.start (k k' : GroupKind) (m n : Nat) (verbose : Bool) :
    FrameMirrors N (.start k m verbose) (.start k' n verbose) :=
  ⟨rfl, .nil, .nil⟩

/-- The frame with another part. -/
theorem FrameMirrors.add (h : FrameMirrors N f g) {n n' : Node} (hn : N n n') :
    FrameMirrors N { f with parts := n :: f.parts } { g with parts := n' :: g.parts } :=
  ⟨h.verbose, h.finished, .cons hn h.parts⟩

end Frames

section Mirrors

variable {narrowed : Bool} {first : Nat}

theorem Mirrors.isTreewise : IsTreewise (Mirrors narrowed first) :=
  ⟨.empty, .seq, .alt⟩

/-- The kinds of a group and of its image. -/
inductive KindMirrors (first : Nat) : GroupKind → GroupKind → Prop
  | capture (i : Nat) {i' : Nat} : first ≤ i' → KindMirrors first (.capture i) (.capture i')
  | scope (on off : List Flag) : KindMirrors first (.scope on off) (.scope on off)
  | atomic : KindMirrors first .atomic .atomic
  | lookahead (negated : Bool) : KindMirrors first (.lookahead negated) (.lookahead negated)
  | lookbehind (negated o o' : Bool) :
      KindMirrors first (.lookbehind negated o) (.lookbehind negated o')
  | conditional (g g' : Nat) : KindMirrors first (.conditional g) (.conditional g')

/-- The open groups of an expression and of its image, which stands in a group of its own that
captures nothing and is not verbose, inside the groups `base`. -/
inductive StackMirrors (narrowed : Bool) (first : Nat) (base : List Frame) :
    List Frame → List Frame → Prop
  | whole {f g : Frame} : f.kind = .whole → g.kind = .scope [] [] → f.verbose = false →
      FrameMirrors (Mirrors narrowed first) f g → StackMirrors narrowed first base [f] (g :: base)
  | inner {f g : Frame} {fs gs : List Frame} : KindMirrors first f.kind g.kind →
      FrameMirrors (Mirrors narrowed first) f g → StackMirrors narrowed first base fs gs →
      StackMirrors narrowed first base (f :: fs) (g :: gs)

variable {base : List Frame} {f g f' g' : Frame} {fs gs : List Frame}

theorem StackMirrors.top (h : StackMirrors narrowed first base (f :: fs) (g :: gs)) :
    FrameMirrors (Mirrors narrowed first) f g := by
  cases h with
  | whole _ _ _ hframe => exact hframe
  | inner _ hframe _ => exact hframe

/-- The innermost groups can be replaced by others of the same kind. -/
theorem StackMirrors.replace (h : StackMirrors narrowed first base (f :: fs) (g :: gs))
    (hf : f'.kind = f.kind) (hg : g'.kind = g.kind) (hv : f'.verbose = f.verbose)
    (hframe : FrameMirrors (Mirrors narrowed first) f' g') :
    StackMirrors narrowed first base (f' :: fs) (g' :: gs) := by
  cases h with
  | whole hk hk' hverbose _ =>
    exact .whole (hf.trans hk) (hg.trans hk') (hv.trans hverbose) hframe
  | inner hk _ hrest => exact .inner (by rwa [hf, hg]) hframe hrest

theorem StackMirrors.exists_cons (h : StackMirrors narrowed first base (f :: fs) gs) :
    ∃ g gs', gs = g :: gs' := by
  cases h with
  | whole _ _ _ _ => exact ⟨_, _, rfl⟩
  | inner _ _ _ => exact ⟨_, _, rfl⟩

/-- Only the whole expression stands in no group of its own. -/
theorem StackMirrors.eq_base (h : StackMirrors narrowed first base [f] (g :: gs)) :
    gs = base ∧ g.kind = .scope [] [] ∧ f.verbose = false := by
  cases h with
  | whole _ hk hv _ => exact ⟨rfl, hk, hv⟩
  | inner _ _ hrest => cases hrest

theorem StackMirrors.of_inner (h : StackMirrors narrowed first base (f :: f' :: fs) (g :: gs)) :
    KindMirrors first f.kind g.kind ∧ StackMirrors narrowed first base (f' :: fs) gs := by
  cases h with
  | inner hk _ hrest => exact ⟨hk, hrest⟩

/-! ## Two readers -/

/-- The reader of an expression and the reader of what it is spliced into, which has come as far in
the image. The names in `names` are known to it. -/
structure Beside (narrowed : Bool) (first : Nat) (base : List Frame) (names : List Nat)
    (p n : Progress) : Prop where
  stack : StackMirrors narrowed first base (p.frame :: p.outer) (n.frame :: n.outer)
  flags : n.flags = []
  next : first ≤ n.groups.next
  named : ∀ (k : Nat) (h : k < names.length), n.groups.ofName? (groupName k) = some names[k]

variable {names : List Nat} {p n : Progress}

theorem Beside.outer_ne (h : Beside narrowed first base names p n) (hbase : base ≠ []) :
    n.outer ≠ [] := by
  have hstack := h.stack
  generalize p.frame :: p.outer = fs at hstack
  generalize hgs : n.frame :: n.outer = gs at hstack
  cases hstack with
  | whole _ _ _ _ =>
    rw [(List.cons.inj hgs).2]
    exact hbase
  | inner _ _ hrest =>
    rw [(List.cons.inj hgs).2]
    cases hrest <;> simp

theorem Beside.verbose (h : Beside narrowed first base names p n) :
    n.frame.verbose = p.frame.verbose :=
  h.stack.top.verbose

theorem Beside.add (h : Beside narrowed first base names p n) {part part' : Node}
    (hpart : Mirrors narrowed first part part') :
    Beside narrowed first base names (p.add part) (n.add part') :=
  ⟨h.stack.replace rfl rfl rfl (h.stack.top.add hpart), h.flags, h.next, h.named⟩

theorem Beside.enter (h : Beside narrowed first base names p n) {k k' : GroupKind}
    (hk : KindMirrors first k k') (i j : Nat) (verbose : Bool) :
    Beside narrowed first base names (p.enter k i verbose) (n.enter k' j verbose) :=
  ⟨.inner hk (.start k k' i j verbose) h.stack, h.flags, h.next, h.named⟩

end Mirrors

end PathRouter.Regex
