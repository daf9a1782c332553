import PathRouter.Proofs.MirroredTree
import PathRouter.Proofs.SearchInvariant
import PathRouter.Proofs.SimplifiedTree

/-!
# Trees that refuse a slash

The image of a narrowed expression lets no slash through: every test of it refuses a slash, or
stands right behind a look ahead that does. Simplifying dissolves the group around the two and
merges alternatives into classes, but the tests still refuse.
-/

namespace PathRouter.Regex
set_option autoImplicit false

/-! ## Merged classes -/

/-- Whoever holds no slash holds none when case is ignored. -/
theorem Member.holdsFolded_slash {f : Flags} {m : Member} (h : ∀ ascii, m.holds ascii 47 = false) :
    m.holdsFolded f 47 = false := by
  cases m with
  | single code =>
    have hne : code ≠ 47 := by
      rintro rfl
      exact absurd (h false) (by decide)
    show (if basicPlaneEnd ≤ f.lower code then (47 : CodePoint) == code
      else (f.folded code).contains 47) = false
    split
    · simpa using Ne.symm hne
    · exact contains_folded_slash f hne
  | range low high =>
    have hout : ¬(low ≤ 47 ∧ 47 ≤ high) := by simpa [Member.holds] using h false
    have hupper : CodePoint.upper 47 = 47 := by decide
    rw [Member.holdsFolded, hupper, h, Bool.or_false, Bool.and_false, Bool.or_false,
      List.any_eq_false]
    intro code hcode
    rw [basicRange, List.mem_range'_1] at hcode
    have hne : code ≠ 47 := by
      rintro rfl
      apply hout
      refine ⟨hcode.1, ?_⟩
      have hlt : 47 < min (high + 1) basicPlaneEnd := by
        have := hcode.2
        generalize min (high + 1) basicPlaneEnd = bound at this ⊢
        show (47 : Nat) < bound
        have hlow : (low : Nat) ≤ 47 := hcode.1
        change (47 : Nat) < (low : Nat) + ((bound : Nat) - (low : Nat)) at this
        omega
      exact Nat.le_of_lt_succ (Nat.lt_of_lt_of_le hlt (Nat.min_le_left _ _))
    rw [contains_folded_slash f hne]
    simp
  | category kind negated => exact h f.ascii

theorem refusesSlash_set {members : List Member}
    (h : ∀ m ∈ members, ∀ ascii, m.holds ascii 47 = false) :
    (CharTest.set false members).RefusesSlash := by
  intro f
  show (f.isMember 47 members != false) = false
  rw [Bool.bne_false, Flags.isMember, lower_slash]
  split
  · exact List.any_eq_false.2 fun m hm => by simp [Member.holdsFolded_slash (h m hm)]
  · exact List.any_eq_false.2 fun m hm => by simp [h m hm]

/-- A class that refuses a slash has no member that holds one. -/
theorem CharTest.RefusesSlash.members {members : List Member}
    (h : (CharTest.set false members).RefusesSlash) {m : Member} (hm : m ∈ members) (ascii : Bool) :
    m.holds ascii 47 = false := by
  have hset : ((⟨false, false, false, ascii⟩ : Flags).isMember 47 members != false) = false :=
    h ⟨false, false, false, ascii⟩
  rw [Bool.bne_false, Flags.isMember, if_neg (by simp)] at hset
  simpa using List.any_eq_false.1 hset m hm

theorem CharTest.RefusesSlash.ne {code : CodePoint} (h : (CharTest.literal code).RefusesSlash) :
    code ≠ 47 := by
  rintro rfl
  have hsame : Flags.isSame ⟨false, false, false, false⟩ 47 47 = false := h _
  rw [isSame_slash] at hsame
  exact absurd hsame (by simp)

/-! ## Simplified trees -/

/-- The look ahead that stands before a narrowed class. -/
def slashGuard : Node := .look none true (.ofCode 47)

namespace Node

/-- No test of the tree lets a slash through. The first one may if a look ahead was passed that
refuses it. A look around moves the spot, so there is none where the spot is followed. -/
def RefusesSlash (edition : Edition) (followed : Bool) : (guarded : Bool) → Node → Prop
  | _, empty | _, anchor _ => True
  | guarded, char test => guarded = true ∨ test.RefusesSlash
  | _, backreference _ => False
  | guarded, seq a b =>
    a.RefusesSlash edition followed guarded ∧
      b.RefusesSlash edition followed (decide (a = slashGuard))
  | _, alt a b | _, conditional _ a b =>
    a.RefusesSlash edition followed false ∧ b.RefusesSlash edition followed false
  | _, quantified mode _ _ body =>
    body.RefusesSlash edition (followed || edition.follows mode) false
  | _, group _ body | _, flagged _ _ body | _, atomic body =>
    body.RefusesSlash edition followed false
  | _, look _ _ _ => followed = false

variable {edition : Edition} {followed guarded : Bool} {xs ys : List Node}

/-- Behind the look ahead no more is demanded than elsewhere. -/
theorem RefusesSlash.behind {n : Node} (h : n.RefusesSlash edition followed false) (guarded : Bool) :
    n.RefusesSlash edition followed guarded := by
  induction n with
  | char test =>
    rcases h with h | h
    · exact absurd h (by simp)
    · exact .inr h
  | seq a b iha _ => exact ⟨iha h.1, h.2⟩
  | _ => exact h

theorem ofList_cons_refusesSlash {n : Node} :
    (ofList (n :: xs)).RefusesSlash edition followed guarded ↔
      n.RefusesSlash edition followed guarded ∧
        (ofList xs).RefusesSlash edition followed (decide (n = slashGuard)) := by
  cases xs with
  | nil => exact ⟨fun h => ⟨h, trivial⟩, fun h => h.1⟩
  | cons m xs => exact Iff.rfl

theorem ofList_append_refusesSlash (hx : (ofList xs).RefusesSlash edition followed guarded)
    (hy : (ofList ys).RefusesSlash edition followed false) :
    (ofList (xs ++ ys)).RefusesSlash edition followed guarded := by
  induction xs generalizing guarded with
  | nil => exact hy.behind guarded
  | cons n xs ih =>
    rw [ofList_cons_refusesSlash] at hx
    rw [List.cons_append, ofList_cons_refusesSlash]
    exact ⟨hx.1, ih hx.2⟩

theorem ofAlternatives_refusesSlash (h : ∀ n ∈ xs, n.RefusesSlash edition followed false) :
    (ofAlternatives xs).RefusesSlash edition followed false := by
  induction xs with
  | nil => trivial
  | cons n xs ih =>
    cases xs with
    | nil => exact h n (List.mem_singleton_self n)
    | cons m xs =>
      rw [List.forall_mem_cons] at h
      exact ⟨h.1, ih h.2⟩

theorem asAlternative_refusesSlash (h : (ofList xs).RefusesSlash edition followed false) :
    (asAlternative xs).RefusesSlash edition followed false := by
  unfold asAlternative
  split
  · rename_i heq
    rwa [heq] at h
  · exact h

theorem mem_of_mapM_some {α β : Type} {f : α → Option β} {xs : List α} {ys : List β}
    (h : xs.mapM f = some ys) : ∀ y ∈ ys, ∃ x ∈ xs, f x = some y := by
  induction xs generalizing ys with
  | nil =>
    obtain rfl := Option.some.inj h
    simp
  | cons x xs ih =>
    simp only [List.mapM_cons, Option.bind_eq_bind, Option.bind_eq_some_iff, Option.pure_def,
      Option.some.injEq] at h
    obtain ⟨y, hy, zs, hzs, rfl⟩ := h
    intro z hz
    rcases List.mem_cons.1 hz with rfl | hz
    · exact ⟨x, List.mem_cons_self .., hy⟩
    · obtain ⟨w, hw, hfw⟩ := ih hzs z hz
      exact ⟨w, List.mem_cons_of_mem _ hw, hfw⟩

/-- What is merged into a class holds no slash. -/
theorem singleMembers?_refuses {ms : List Member} (h : singleMembers? xs = some ms)
    (hx : (ofList xs).RefusesSlash edition followed false) {m : Member} (hm : m ∈ ms) (ascii : Bool) :
    m.holds ascii 47 = false := by
  unfold singleMembers? at h
  split at h
  · rename_i c
    obtain rfl := Option.some.inj h
    obtain rfl := List.mem_singleton.1 hm
    rcases hx with hx | hx
    · exact absurd hx (by simp)
    · simpa [Member.holds] using Ne.symm hx.ne
  · rename_i ms'
    obtain rfl := Option.some.inj h
    rcases hx with hx | hx
    · exact absurd hx (by simp)
    · exact hx.members hm ascii
  · exact absurd h (by simp)

/-- A search for a tree that refuses a slash does not get past one. -/
theorem RefusesSlash.within {region : Point → Prop}
    (hregion : ∀ passes : Char → Bool, passes '/' = false → Search.Advances region passes)
    {n : Node} (h : n.RefusesSlash edition followed guarded) {next : Char → Bool}
    (hnext : guarded = true → next '/' = false) (f : Flags) :
    n.WithinAfter edition region followed f next := by
  induction n generalizing followed guarded next f with
  | empty => trivial
  | anchor _ => trivial
  | char test =>
    apply hregion
    rw [Bool.and_eq_false_iff]
    rcases h with h | h
    · exact .inl (hnext h)
    · exact .inr (h f)
  | backreference _ => exact absurd h id
  | seq a b iha ihb =>
    refine ⟨iha h.1 hnext f, ihb h.2 ?_ f⟩
    intro ha
    rw [of_decide_eq_true ha]
    show (!f.isSame 47 47) = false
    rw [isSame_slash]
    rfl
  | alt a b iha ihb => exact ⟨iha h.1 nofun f, ihb h.2 nofun f⟩
  | conditional _ a b iha ihb => exact ⟨iha h.1 nofun f, ihb h.2 nofun f⟩
  | quantified _ _ _ _ ih => exact ih h nofun f
  | group _ _ ih => exact ih h nofun f
  | flagged on off _ ih => exact ih h nofun _
  | atomic _ ih => exact ih h nofun f
  | look _ _ _ _ =>
    intro hfollowed
    exact absurd (h.symm.trans hfollowed) (by simp)

end Node

/-! ## Trees as they are read -/

/-- The tree of a narrowed expression: a test refuses a slash or is guarded, and there is no
backreference. Where the spot is followed there is no look around. -/
inductive Narrowed (edition : Edition) : (followed : Bool) → Node → Prop
  | empty {followed : Bool} : Narrowed edition followed .empty
  | char {followed : Bool} {test : CharTest} : test.RefusesSlash → Narrowed edition followed (.char test)
  | guarded (test : CharTest) : Narrowed edition false (guardedTest test)
  | anchor {followed : Bool} (a : Anchor) : Narrowed edition followed (.anchor a)
  | seq {followed : Bool} {a b : Node} :
      Narrowed edition followed a → Narrowed edition followed b →
      Narrowed edition followed (.seq a b)
  | alt {followed : Bool} {a b : Node} :
      Narrowed edition followed a → Narrowed edition followed b →
      Narrowed edition followed (.alt a b)
  | quantified {followed : Bool} (mode : Mode) (least : Nat) (most : Option Nat) {a : Node} :
      Narrowed edition (followed || edition.follows mode) a →
      Narrowed edition followed (.quantified mode least most a)
  | group {followed : Bool} (i : Nat) {a : Node} : Narrowed edition followed a →
      Narrowed edition followed (.group i a)
  | flagged {followed : Bool} (on off : List Flag) {a : Node} : Narrowed edition followed a →
      Narrowed edition followed (.flagged on off a)
  | atomic {followed : Bool} {a : Node} :
      Narrowed edition followed a → Narrowed edition followed (.atomic a)
  | look (behind : Option Width) (negated : Bool) {a : Node} :
      Narrowed edition false (.look behind negated a)
  | conditional {followed : Bool} (g : Nat) {a b : Node} : Narrowed edition followed a →
      Narrowed edition followed b → Narrowed edition followed (.conditional g a b)

/-- Simplifying keeps slashes out. -/
theorem inherits_refusesSlash (edition : Edition) :
    Inherits (Narrowed edition) fun followed xs =>
      (Node.ofList xs).RefusesSlash edition followed false where
  nil _ := trivial
  append _ _ _ hxs hys := Node.ofList_append_refusesSlash hxs hys
  atom i n rest hatom h := by
    rw [Node.ofList_cons_refusesSlash] at h
    have hne : n ≠ slashGuard := by
      rintro rfl
      exact absurd hatom (by decide)
    rw [decide_eq_false hne] at h
    exact h
  ofAtom i n hatom h := by
    cases h with
    | char hrefuses => exact .inr hrefuses
    | anchor _ => trivial
    | _ => exact absurd hatom (by simp [Node.isAtom, guardedTest])
  merged i alternatives members h hmembers := by
    apply Or.inr
    apply refusesSlash_set
    intro m hm ascii
    obtain ⟨ms, hms, hm⟩ := List.mem_flatten.1 (List.mem_eraseDups.1 hm)
    obtain ⟨xs, hxs, hsingle⟩ := Node.mem_of_mapM_some hmembers ms hms
    exact Node.singleMembers?_refuses hsingle (h xs hxs) hm ascii
  joined i alternatives h := by
    apply Node.ofAlternatives_refusesSlash
    intro n hn
    obtain ⟨xs, hxs, rfl⟩ := List.mem_map.1 hn
    exact Node.asAlternative_refusesSlash (h xs hxs)
  seq _ _ _ h := by
    cases h with
    | seq ha hb => exact ⟨ha, hb⟩
  alt _ _ _ h := by
    cases h with
    | alt ha hb => exact ⟨ha, hb⟩
  dissolved i a h ih := by
    cases h with
    | guarded test => exact ⟨rfl, .inl rfl⟩
    | flagged _ _ ha => exact ih ha
  quantified _ _ _ _ _ h ih := by
    cases h with
    | quantified _ _ _ ha => exact ih _ ha
  group _ _ _ h ih := by
    cases h with
    | group _ ha => exact ih _ ha
  flagged i on off a h ih := by
    cases h with
    | guarded test => exact ⟨rfl, .inl rfl⟩
    | flagged _ _ ha => exact ih _ ha
  atomic _ _ h ih := by
    cases h with
    | atomic ha => exact ih _ ha
  look _ _ _ _ h _ := by
    cases h with
    | look _ _ => exact rfl
  conditional _ _ _ _ h iha ihb := by
    cases h with
    | conditional _ ha hb => exact ⟨iha _ ha, ihb _ hb⟩

end PathRouter.Regex
