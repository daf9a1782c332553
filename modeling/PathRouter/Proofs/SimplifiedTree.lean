import PathRouter.Proofs.CompiledTree

/-!
# Simplifying a compiled pattern

Simplifying a sequence of parts simplifies each part on its own. The parts that a pattern without
inline expressions is compiled to are in their simplest form already, and a group of an inline
expression stays a group.
-/

namespace PathRouter.Regex
set_option autoImplicit false

namespace Node

/-- The simplified parts that a tree becomes in a sequence. -/
def parts (n : Node) : List Node :=
  mergeAlternatives n.branches

theorem simplified_eq (n : Node) : n.simplified = .ofList n.parts := rfl

theorem parts_seq (a b : Node) : (seq a b).parts = a.parts ++ b.parts := rfl

/-- A sequence is simplified part by part. -/
theorem parts_ofList (ns : List Node) : (ofList ns).parts = ns.flatMap parts := by
  induction ns with
  | nil => rfl
  | cons n ns ih =>
    cases ns with
    | nil => simp [ofList]
    | cons m ns =>
      change (seq n (ofList (m :: ns))).parts = _
      rw [parts_seq, ih]
      rfl

theorem simplified_ofList (ns : List Node) :
    (ofList ns).simplified = .ofList (ns.flatMap parts) := by
  rw [simplified_eq, parts_ofList]

end Node

theorem parts_literalNodes (text : Text) :
    (literalNodes text).flatMap Node.parts = literalNodes text := by
  induction text with
  | nil => rfl
  | cons c text ih =>
    change Node.parts (.ofCode c.toNat) ++ (literalNodes text).flatMap Node.parts = _
    rw [ih]
    rfl

/-! ## What simplifying keeps -/

/-- What is known of a tree, `tree`, becomes what is known of the parts of a simplified sequence,
`parts`. Either may depend on where the tree stands. -/
structure Inherits {ι : Type} (tree : ι → Node → Prop) (parts : ι → List Node → Prop) : Prop where
  nil : ∀ i, parts i []
  append : ∀ i xs ys, parts i xs → parts i ys → parts i (xs ++ ys)
  /-- An atom at the start can be taken off. -/
  atom : ∀ i n rest, n.isAtom = true → parts i (n :: rest) → parts i [n] ∧ parts i rest
  ofAtom : ∀ i n, n.isAtom = true → tree i n → parts i [n]
  merged : ∀ i (alternatives : List (List Node)) (members : List (List Member)),
    (∀ xs ∈ alternatives, parts i xs) → alternatives.mapM singleMembers? = some members →
    parts i [.char (.set false members.flatten.eraseDups)]
  joined : ∀ i (alternatives : List (List Node)), (∀ xs ∈ alternatives, parts i xs) →
    parts i [.ofAlternatives (alternatives.map asAlternative)]
  seq : ∀ i a b, tree i (.seq a b) → tree i a ∧ tree i b
  alt : ∀ i a b, tree i (.alt a b) → tree i a ∧ tree i b
  dissolved : ∀ i a, tree i (.flagged [] [] a) → (tree i a → parts i a.parts) → parts i a.parts
  quantified : ∀ i mode least most a, tree i (.quantified mode least most a) →
    (∀ j, tree j a → parts j a.parts) → parts i [.quantified mode least most a.simplified]
  group : ∀ i g a, tree i (.group g a) → (∀ j, tree j a → parts j a.parts) →
    parts i [.group g a.simplified]
  flagged : ∀ i on off a, tree i (.flagged on off a) → (∀ j, tree j a → parts j a.parts) →
    parts i [.flagged on off a.simplified]
  atomic : ∀ i a, tree i (.atomic a) → (∀ j, tree j a → parts j a.parts) →
    parts i [.atomic a.simplified]
  look : ∀ i behind negated a, tree i (.look behind negated a) →
    (∀ j, tree j a → parts j a.parts) → parts i [.look behind negated a.simplified]
  conditional : ∀ i g a b, tree i (.conditional g a b) → (∀ j, tree j a → parts j a.parts) →
    (∀ j, tree j b → parts j b.parts) → parts i [.conditional g a.simplified b.simplified]

namespace Inherits

variable {ι : Type} {tree : ι → Node → Prop} {parts : ι → List Node → Prop}

/-- Atoms that all alternatives begin with are taken off. -/
theorem factor (h : Inherits tree parts) {i : ι} (first : List Node) (others : List (List Node))
    (hfirst : parts i first) (hothers : ∀ xs ∈ others, parts i xs) :
    parts i (Regex.factor first others).1 ∧
      ∀ xs ∈ (Regex.factor first others).2, parts i xs := by
  induction first generalizing others with
  | nil =>
    refine ⟨h.nil i, fun xs hxs => ?_⟩
    rcases List.mem_cons.1 hxs with rfl | hxs
    · exact hfirst
    · exact hothers xs hxs
  | cons n rest ih =>
    rw [Regex.factor]
    split
    · rename_i hn
      simp only [Bool.and_eq_true, List.all_eq_true, beq_iff_eq] at hn
      obtain ⟨hatom, hheads⟩ := hn
      obtain ⟨hone, hrest⟩ := h.atom i n rest hatom hfirst
      have htails : ∀ xs ∈ others.map List.tail, parts i xs := by
        intro xs hxs
        obtain ⟨ys, hys, rfl⟩ := List.mem_map.1 hxs
        obtain ⟨zs, rfl⟩ := List.head?_eq_some_iff.1 (hheads ys hys)
        exact (h.atom i n zs hatom (hothers _ hys)).2
      obtain ⟨hlead, hremaining⟩ := ih (others.map List.tail) hrest htails
      exact ⟨h.append i [n] _ hone hlead, hremaining⟩
    · refine ⟨h.nil i, fun xs hxs => ?_⟩
      rcases List.mem_cons.1 hxs with rfl | hxs
      · exact hfirst
      · exact hothers xs hxs

theorem mergeAlternatives (h : Inherits tree parts) {i : ι} {alternatives : List (List Node)}
    (halternatives : ∀ xs ∈ alternatives, parts i xs) :
    parts i (Regex.mergeAlternatives alternatives) := by
  match alternatives with
  | [] => exact h.nil i
  | [only] => exact halternatives only (List.mem_singleton_self only)
  | first :: second :: others =>
    obtain ⟨hlead, hremaining⟩ := h.factor first (second :: others)
      (halternatives first (List.mem_cons_self ..))
      fun xs hxs => halternatives xs (List.mem_cons_of_mem _ hxs)
    rw [Regex.mergeAlternatives]
    · dsimp only
      split
      · rename_i members hmembers
        exact h.append i _ _ hlead (h.merged i _ members hremaining hmembers)
      · exact h.append i _ _ hlead (h.joined i _ hremaining)
    · simp

/-- Every alternative of a tree keeps what is known of it. -/
theorem branches (h : Inherits tree parts) (n : Node) {i : ι} (hn : tree i n) :
    ∀ xs ∈ n.branches, parts i xs := by
  have hone {i : ι} {xs : List Node} (hxs : parts i xs) : ∀ ys ∈ [xs], parts i ys := by
    intro ys hys
    obtain rfl := List.mem_singleton.1 hys
    exact hxs
  induction n generalizing i with
  | empty => exact hone (h.nil i)
  | char test => exact hone (h.ofAtom i _ rfl hn)
  | anchor a => exact hone (h.ofAtom i _ rfl hn)
  | backreference g => exact hone (h.ofAtom i _ rfl hn)
  | seq a b iha ihb =>
    obtain ⟨ha, hb⟩ := h.seq i a b hn
    exact hone (h.append i _ _ (h.mergeAlternatives (iha ha)) (h.mergeAlternatives (ihb hb)))
  | alt a b iha ihb =>
    obtain ⟨ha, hb⟩ := h.alt i a b hn
    intro xs hxs
    rcases List.mem_cons.1 hxs with rfl | hxs
    · exact h.mergeAlternatives (iha ha)
    · exact ihb hb xs hxs
  | quantified mode least most a ih =>
    exact hone (h.quantified i mode least most a hn fun j hj => h.mergeAlternatives (ih hj))
  | group g a ih => exact hone (h.group i g a hn fun j hj => h.mergeAlternatives (ih hj))
  | flagged on off a ih =>
    have hwhole := h.flagged i on off a hn fun j hj => h.mergeAlternatives (ih hj)
    match on, off with
    | [], [] => exact hone (h.dissolved i a hn fun ha => h.mergeAlternatives (ih ha))
    | [], _ :: _ => exact hone hwhole
    | _ :: _, _ => exact hone hwhole
  | atomic a ih => exact hone (h.atomic i a hn fun j hj => h.mergeAlternatives (ih hj))
  | look behind negated a ih =>
    exact hone (h.look i behind negated a hn fun j hj => h.mergeAlternatives (ih hj))
  | conditional g a b iha ihb =>
    exact hone (h.conditional i g a b hn (fun j hj => h.mergeAlternatives (iha hj))
      fun j hj => h.mergeAlternatives (ihb hj))

/-- The simplified parts of a tree keep what is known of it. -/
theorem ofTree (h : Inherits tree parts) {n : Node} {i : ι} (hn : tree i n) : parts i n.parts :=
  h.mergeAlternatives (h.branches n hn)

end Inherits

/-! ## Hereditary properties -/

namespace Node

/-- A tree has the property if all trees below it have and its own node allows it. Whether that does
is seen from the node alone, and one that is changed by simplifying allows it. -/
structure Hereditary (P : Node → Prop) : Prop where
  empty : P .empty
  char : ∀ test, P (.char test)
  seq : ∀ a b, P (.seq a b) ↔ P a ∧ P b
  alt : ∀ a b, P (.alt a b) ↔ P a ∧ P b
  quantified : ∀ mode least most a, P (.quantified mode least most a) →
    P a ∧ ∀ b, P b → P (.quantified mode least most b)
  group : ∀ g a, P (.group g a) → P a ∧ ∀ b, P b → P (.group g b)
  flagged : ∀ on off a, P (.flagged on off a) ↔ P a
  atomic : ∀ a, P (.atomic a) → P a ∧ ∀ b, P b → P (.atomic b)
  look : ∀ behind negated a, P (.look behind negated a) →
    P a ∧ ∀ b, P b → P (.look behind negated b)
  conditional : ∀ g a b, P (.conditional g a b) →
    (P a ∧ P b) ∧ ∀ a' b', P a' → P b' → P (.conditional g a' b')

namespace Hereditary

variable {P : Node → Prop} {xs : List Node}

theorem ofList (h : Hereditary P) (hxs : ∀ n ∈ xs, P n) : P (.ofList xs) := by
  induction xs with
  | nil => exact h.empty
  | cons n xs ih =>
    rw [List.forall_mem_cons] at hxs
    cases xs with
    | nil => exact hxs.1
    | cons m xs => exact (h.seq ..).2 ⟨hxs.1, ih hxs.2⟩

theorem ofAlternatives (h : Hereditary P) (hxs : ∀ n ∈ xs, P n) : P (.ofAlternatives xs) := by
  induction xs with
  | nil => exact h.empty
  | cons n xs ih =>
    rw [List.forall_mem_cons] at hxs
    cases xs with
    | nil => exact hxs.1
    | cons m xs => exact (h.alt ..).2 ⟨hxs.1, ih hxs.2⟩

theorem asAlternative (h : Hereditary P) (hxs : ∀ n ∈ xs, P n) : P (asAlternative xs) := by
  have hlist := h.ofList hxs
  unfold Regex.asAlternative
  split
  · rename_i heq
    rw [heq] at hlist
    exact (h.flagged ..).2 hlist
  · exact hlist

/-- Simplified parts have the property if the tree has. -/
theorem inherits (h : Hereditary P) :
    Inherits (fun (_ : Unit) n => P n) fun _ xs => ∀ n ∈ xs, P n where
  nil _ := by simp
  append _ xs ys hxs hys n hn := (List.mem_append.1 hn).elim (hxs n) (hys n)
  atom _ n rest _ hxs := by
    rw [List.forall_mem_cons] at hxs
    exact ⟨by simpa using hxs.1, hxs.2⟩
  ofAtom _ n _ hn := by simpa using hn
  merged _ _ _ _ _ := by simpa using h.char _
  joined _ alternatives halternatives := by
    rw [List.forall_mem_singleton]
    apply h.ofAlternatives
    intro n hn
    obtain ⟨xs, hxs, rfl⟩ := List.mem_map.1 hn
    exact h.asAlternative (halternatives xs hxs)
  seq _ a b := (h.seq a b).1
  alt _ a b := (h.alt a b).1
  dissolved _ a ha ih := ih ((h.flagged _ _ a).1 ha)
  quantified _ mode least most a ha ih := by
    rw [List.forall_mem_singleton]
    obtain ⟨hbody, hquantified⟩ := h.quantified mode least most a ha
    exact hquantified _ (h.ofList (ih () hbody))
  group _ g a ha ih := by
    rw [List.forall_mem_singleton]
    obtain ⟨hbody, hgroup⟩ := h.group g a ha
    exact hgroup _ (h.ofList (ih () hbody))
  flagged _ on off a ha ih := by
    rw [List.forall_mem_singleton]
    exact (h.flagged ..).2 (h.ofList (ih () ((h.flagged on off a).1 ha)))
  atomic _ a ha ih := by
    rw [List.forall_mem_singleton]
    obtain ⟨hbody, hatomic⟩ := h.atomic a ha
    exact hatomic _ (h.ofList (ih () hbody))
  look _ behind negated a ha ih := by
    rw [List.forall_mem_singleton]
    obtain ⟨hbody, hlook⟩ := h.look behind negated a ha
    exact hlook _ (h.ofList (ih () hbody))
  conditional _ g a b hab iha ihb := by
    rw [List.forall_mem_singleton]
    obtain ⟨⟨ha, hb⟩, hconditional⟩ := h.conditional g a b hab
    exact hconditional _ _ (h.ofList (iha () ha)) (h.ofList (ihb () hb))

theorem simplified (h : Hereditary P) {n : Node} (hn : P n) : P n.simplified :=
  h.ofList (h.inherits.ofTree (i := ()) hn)

end Hereditary

end Node

end PathRouter.Regex

namespace PathRouter
open Regex

/-- What an inline expression becomes once its tree is simplified. -/
def SimplifiedBody (Body : Text → Nat → Nat → Node → Prop) : Text → Nat → Nat → Node → Prop :=
  fun e i j n => ∃ body, Body e i j body ∧ n = body.simplified

theorem parts_closingNodes (extent : Extent) :
    (closingNodes extent).flatMap Node.parts = closingNodes extent := by
  cases extent <;> rfl

/-- The compiled parts of a sequence, simplified. -/
theorem Compiled.simplified {Body : Text → Nat → Nat → Node → Prop} {extent : Extent} {i j : Nat}
    {segments : List Segment} {nodes : List Node} {gs : List Nat}
    (h : Compiled Body extent i j segments nodes gs) :
    Compiled (SimplifiedBody Body) extent i j segments (nodes.flatMap Node.parts) gs := by
  induction h with
  | textEnd he => exact .textEnd he
  | boundary he => exact .boundary he
  | slashAhead ht =>
    rw [List.flatMap_append, parts_literalNodes]
    exact .slashAhead ht
  | literal ht _ ih =>
    rw [List.flatMap_append, parts_literalNodes]
    exact .literal ht ih
  | dynamic _ ih => exact .dynamic ih
  | constrained hbody hlt _ ih => exact .constrained ⟨_, hbody, rfl⟩ hlt ih
  | tail =>
    rw [List.flatMap_cons, parts_closingNodes]
    exact .tail

theorem RegexAlternative.IsOf.simplified {Body : Text → Nat → Nat → Node → Prop} {extent : Extent}
    {segments : List Segment} {a : RegexAlternative} {nodes : List Node} {gs : List Nat}
    (h : a.IsOf Body extent segments nodes gs) :
    ∃ ns, a.expression.tree.simplified = .ofList ns ∧
      Compiled (SimplifiedBody Body) extent 1 (a.expression.groups + 1) segments ns gs :=
  ⟨_, by rw [h.tree, Node.simplified_ofList], h.compiled.simplified⟩

end PathRouter
