import PathRouter.Proofs.JoinedPattern
import PathRouter.Proofs.PlainAlternatives

/-!
# Matching joined patterns

A joined resource matches as its two parts do one after the other. The base has literals and plain
captures only, so what it takes ends after as many slashes as its literals have, before the next
slash or at the end of the text: however its captures divide a text, it stops at the same place.
Nothing that the other part needs can be gained by dividing otherwise.
-/

namespace PathRouter
set_option autoImplicit false

open Resource (joinPatterns)

/-! ## Where a leading part ends -/

section Forced

variable {segments : List Segment} {s t : Text} {spans spans' : List Text}

/-- What follows a leading part begins with a slash, if anything follows. -/
theorem Splits.head?_drop (h : Splits .leading segments s spans) :
    ∀ c, (s.drop spans.flatten.length).head? = some c → c = '/' := by
  generalize hextent : Extent.leading = extent at h
  induction h with
  | textEnd hexact => exact absurd (hextent.trans hexact) (by simp)
  | boundary _ hs => exact hs
  | @slashAhead text s hleaves =>
    have hlast : text.getLast? = some '/' := by simpa [Draft.endsInSlash] using hleaves.2.1
    obtain ⟨front, rfl⟩ := List.getLast?_eq_some_iff.1 hlast
    intro c hc
    simp at hc
    exact hc.symm
  | literal _ _ ih => simpa using ih
  | dynamic _ _ _ ih => simpa using ih
  | tail _ => simp

/-- Without tails, all splits by the same segments have equally many slashes. -/
theorem Splits.count_slash {extent : Extent} (h : Splits extent segments s spans)
    (h' : Splits extent segments t spans')
    (htail : ∀ name allowEmpty, .tail name allowEmpty ∉ segments) :
    spans.flatten.count '/' = spans'.flatten.count '/' := by
  induction h generalizing t spans' with
  | textEnd _ =>
    cases h'
    rfl
  | boundary _ _ =>
    cases h'
    rfl
  | slashAhead hleaves =>
    cases h' with
    | slashAhead _ => rfl
    | literal hnot _ => exact absurd hleaves hnot
  | literal hnot _ ih =>
    cases h' with
    | slashAhead hleaves => exact absurd hleaves hnot
    | literal _ h' =>
      have hrest := ih h' fun name allowEmpty hmem => htail _ _ (List.mem_cons_of_mem _ hmem)
      simp [hrest]
  | dynamic _ hspan _ ih =>
    cases h' with
    | dynamic _ hspan' h' =>
      have hrest := ih h' fun name allowEmpty hmem => htail _ _ (List.mem_cons_of_mem _ hmem)
      simp [hrest, List.count_eq_zero_of_not_mem hspan, List.count_eq_zero_of_not_mem hspan']
  | tail _ => exact absurd (List.mem_cons_self ..) (htail _ _)

/-- Of two beginnings of a text that end before a slash or with the text, the longer has more
slashes. -/
theorem length_le_of_count {p q : Text} (hp : p <+: s) (hq : q <+: s)
    (hend : ∀ c, (s.drop p.length).head? = some c → c = '/')
    (hcount : q.count '/' ≤ p.count '/') : q.length ≤ p.length := by
  by_contra hlt
  obtain ⟨r, rfl⟩ := List.prefix_of_prefix_length_le hp hq (by omega)
  cases r with
  | nil => simp at hlt
  | cons c r =>
    obtain ⟨more, rfl⟩ := hq
    obtain rfl := hend c (by simp)
    rw [List.count_append, List.count_cons_self] at hcount
    omega

/-- All splits of a text into the segments of a leading part without tails end at one place. -/
theorem Splits.length_eq (h : Splits .leading segments s spans)
    (h' : Splits .leading segments s spans')
    (htail : ∀ name allowEmpty, .tail name allowEmpty ∉ segments) :
    spans.flatten.length = spans'.flatten.length := by
  have hcount := h.count_slash h' htail
  apply Nat.le_antisymm
  · exact length_le_of_count h'.prefix_flatten h.prefix_flatten h'.head?_drop (Nat.le_of_eq hcount)
  · exact length_le_of_count h.prefix_flatten h'.prefix_flatten h.head?_drop
      (Nat.le_of_eq hcount.symm)

end Forced

/-! ## What segments take -/

namespace Taken

/-- This after a literal of the given length. -/
def skip (n : Nat) (t : Taken) : Taken :=
  ⟨n + t.length, t.captures?⟩

/-- This after a capture of the given span. -/
def capture (name text : Text) (pos : Nat) (span : Text) (t : Taken) : Taken :=
  ⟨span.length + t.length, do
    let c ← spanCapture? name text pos span
    return c :: (← t.captures?)⟩

/-- One after the other. -/
def append (t u : Taken) : Taken :=
  ⟨t.length + u.length, do return (← t.captures?) ++ (← u.captures?)⟩

/-- What captures nothing only moves what comes after it. -/
theorem skip_eq_append (n : Nat) (t : Taken) : t.skip n = append ⟨n, some []⟩ t := by
  obtain ⟨length, captures⟩ := t
  cases captures with
  | none => rfl
  | some cs => rfl

theorem nil_append (t : Taken) : append ⟨0, some []⟩ t = t := by
  rw [← skip_eq_append, skip, Nat.zero_add]

theorem skip_skip (m n : Nat) (t : Taken) : (t.skip m).skip n = t.skip (n + m) := by
  simp only [skip, Nat.add_assoc]

theorem skip_append (n : Nat) (t u : Taken) : (t.skip n).append u = (t.append u).skip n := by
  simp only [append, skip, Nat.add_assoc]

/-- One after the other matches if both do, and captures what both capture. -/
theorem result?_append (t u : Taken) : (t.append u).result? =
    t.result?.bind fun f => u.result?.map fun s =>
      ⟨f.consumed + s.consumed, f.captures ++ s.captures⟩ := by
  rw [append, result?, result?, result?]
  cases t.captures? with
  | none => rfl
  | some captures =>
    cases u.captures? with
    | none => rfl
    | some others => rfl

theorem bind_result?_append (t : Taken) (x : Option Taken) :
    (x.map t.append).bind result? = t.result?.bind fun f => (x.bind result?).map fun s =>
      ⟨f.consumed + s.consumed, f.captures ++ s.captures⟩ := by
  cases x with
  | none => cases t.result? <;> rfl
  | some u => exact result?_append t u

theorem capture_append (name text : Text) (pos : Nat) (span : Text) (t u : Taken) :
    (t.capture name text pos span).append u = (t.append u).capture name text pos span := by
  simp only [append, capture, Nat.add_assoc]
  cases spanCapture? name text pos span with
  | none => rfl
  | some c =>
    cases t.captures? with
    | none => rfl
    | some cs =>
      cases u.captures? with
      | none => rfl
      | some ds => rfl

end Taken

/-! ## Trying the longer spans first -/

theorem downFrom_congr {α : Type} {f g : Nat → Option α} {n : Nat} (h : ∀ k ≤ n, f k = g k) :
    downFrom f n = downFrom g n := by
  induction n with
  | zero => rfl
  | succ n ih =>
    rw [downFrom, downFrom, h (n + 1) (Nat.le_refl _), ih fun k hk => h k (Nat.le_succ_of_le hk)]

/-- If what comes after a value fails for all values or for none, the first value is the only one
that has to be tried. -/
theorem downFrom_bind {α β : Type} {f : Nat → Option α} {g : α → Option β} {n : Nat}
    (h : ∀ j k a b, 1 ≤ j → j ≤ n → f j = some a → 1 ≤ k → k ≤ n → f k = some b →
      g a = none → g b = none) :
    (downFrom f n).bind g = downFrom (fun k => (f k).bind g) n := by
  induction n with
  | zero => rfl
  | succ n ih =>
    have hbelow := ih fun j k a b h₁ hj ha h₂ hk =>
      h j k a b h₁ (Nat.le_succ_of_le hj) ha h₂ (Nat.le_succ_of_le hk)
    rw [downFrom, downFrom]
    cases hfirst : f (n + 1) with
    | none => simpa using hbelow
    | some a =>
      rw [Option.some_or, Option.bind_some]
      cases hg : g a with
      | some b => rfl
      | none =>
        -- the first value leads nowhere, so no other does
        rw [Option.none_or]
        cases hrest : downFrom (fun k => (f k).bind g) n with
        | none => rfl
        | some b =>
          obtain ⟨k, h₁, hk, hb⟩ := downFrom_eq_some hrest
          obtain ⟨a', ha', hb⟩ := Option.bind_eq_some_iff.1 hb
          have hnone := h (n + 1) k a a' (by omega) (Nat.le_refl _) hfirst h₁ (by omega) ha' hg
          exact absurd (hnone.symm.trans hb) (by simp)

section Equations

variable {extent : Extent} {text : Text} {pos : Nat} {rest : List Segment}

theorem taken?_literal {v : Text} (hnot : ¬LeavesSlash extent v rest) :
    taken? extent text pos (.literal v :: rest) =
      if v.isPrefixOf (text.drop pos) then
        (taken? extent text (pos + v.length) rest).map (Taken.skip v.length)
      else none := by
  rw [taken?, best, if_neg hnot]
  split
  · rw [taken?, ← List.drop_drop, Option.map_map, Option.map_map]
    refine congrArg (Option.map · _) (funext fun spans => ?_)
    simp only [Function.comp_apply, Taken.skip, List.flatten_cons, List.length_append]
    rfl
  · rfl

theorem taken?_slashAhead {v : Text} (hleaves : LeavesSlash extent v rest) :
    taken? extent text pos (.literal v :: rest) =
      if v.isPrefixOf (text.drop pos) then some ⟨v.dropLast.length, some []⟩ else none := by
  rw [taken?, best, if_pos hleaves]
  obtain ⟨-, -, rfl⟩ := hleaves
  split
  · simp [spanCaptures?, Segment.name?]
  · rfl

theorem taken?_boundary : taken? extent text pos [.boundary] =
    if (text.drop pos).head?.all (· == '/') then some ⟨0, some []⟩ else none := by
  rw [taken?, best]
  split
  · rfl
  · rfl

theorem taken?_dynamic (name : Text) :
    taken? extent text pos (.dynamic name :: rest) =
      downFrom (fun n => (taken? extent text (pos + n) rest).map
        (Taken.capture name text pos ((text.drop pos).take n))) (slashlessLength (text.drop pos)) := by
  rw [taken?, best, downFrom_map]
  apply downFrom_congr
  intro n hn
  have hlen := (take_slashlessLength (text.drop pos) hn).2
  rw [taken?, ← List.drop_drop, Option.map_map, Option.map_map]
  refine congrArg (Option.map · _) (funext fun spans => ?_)
  simp only [Function.comp_apply, Taken.capture, List.flatten_cons, List.length_append, spanCaptures?,
    Segment.name?, hlen]

/-- A literal of two parts takes the first, and then what the second takes. -/
theorem taken?_literal_append {v w : Text} (hw : w ≠ []) :
    taken? extent text pos (.literal (v ++ w) :: rest) =
      if v.isPrefixOf (text.drop pos) then
        (taken? extent text (pos + v.length) (.literal w :: rest)).map (Taken.skip v.length)
      else none := by
  have hprefix : (v ++ w).isPrefixOf (text.drop pos) =
      (v.isPrefixOf (text.drop pos) && w.isPrefixOf (text.drop (pos + v.length))) := by
    rw [← List.drop_drop, Bool.eq_iff_iff]
    simp only [Bool.and_eq_true, List.isPrefixOf_iff_prefix]
    constructor
    · rintro ⟨r, hr⟩
      rw [← hr, List.append_assoc, List.drop_left]
      exact ⟨List.prefix_append _ _, List.prefix_append _ _⟩
    · rintro ⟨⟨r, hr⟩, hprefix⟩
      rw [← hr, List.drop_left] at hprefix
      rw [← hr]
      exact (List.prefix_append_right_inj v).2 hprefix
  have hends : Draft.endsInSlash (v ++ w) = Draft.endsInSlash w := by
    rw [Draft.endsInSlash, Draft.endsInSlash, List.getLast?_append_of_ne_nil _ hw]
  by_cases hleaves : LeavesSlash extent w rest
  · have hleaves' : LeavesSlash extent (v ++ w) rest := ⟨hleaves.1, hends ▸ hleaves.2.1, hleaves.2.2⟩
    rw [taken?_slashAhead hleaves', taken?_slashAhead hleaves, hprefix]
    cases v.isPrefixOf (text.drop pos) with
    | false => rfl
    | true =>
      cases w.isPrefixOf (text.drop (pos + v.length)) with
      | false => rfl
      | true => simp [Taken.skip, List.dropLast_append_of_ne_nil hw]
  · have hnot : ¬LeavesSlash extent (v ++ w) rest := fun h =>
      hleaves ⟨h.1, hends ▸ h.2.1, h.2.2⟩
    rw [taken?_literal hnot, taken?_literal hleaves, hprefix]
    cases v.isPrefixOf (text.drop pos) with
    | false => rfl
    | true =>
      cases w.isPrefixOf (text.drop (pos + v.length)) with
      | false => rfl
      | true => simp [Function.comp_def, Taken.skip_skip, Nat.add_assoc]

/-- Without a slash where one has to be, nothing is taken. -/
theorem taken?_of_head? {w : Text} (h : (text.drop pos).head? ≠ some '/') :
    taken? extent text pos (.literal ('/' :: w) :: rest) = none := by
  have hprefix : ('/' :: w).isPrefixOf (text.drop pos) = false := by
    rw [Bool.eq_false_iff, Ne, List.isPrefixOf_iff_prefix]
    rintro ⟨r, hr⟩
    rw [← hr] at h
    exact h rfl
  rw [taken?, best, hprefix]
  split
  · rfl
  · rfl

end Equations

/-! ## What joined segments take -/

section Joined

variable {extent : Extent} {text : Text} {pos : Nat} {body next : List Segment}

/-- What is taken first, and after it what the segments take. -/
def Taken.followedBy? (extent : Extent) (text : Text) (pos : Nat) (next : List Segment)
    (t : Taken) : Option Taken :=
  (taken? extent text (pos + t.length) next).map t.append

/-- Something before that does not depend on what follows stays before. -/
theorem map_bind_followedBy? {f : Taken → Taken} {n : Nat} (x : Option Taken)
    (hlength : ∀ t, (f t).length = n + t.length)
    (happend : ∀ t u, (f t).append u = f (t.append u)) :
    (x.bind (Taken.followedBy? extent text (pos + n) next)).map f =
      (x.map f).bind (Taken.followedBy? extent text pos next) := by
  cases x with
  | none => rfl
  | some t =>
    simp only [Option.bind_some, Option.map_some, Taken.followedBy?, hlength, Option.map_map,
      Nat.add_assoc]
    refine congrArg (Option.map · _) (funext fun u => ?_)
    exact (happend t u).symm

theorem endsWell_of_isSimple (h : IsSimple body) : EndsWell .leading (body ++ [.boundary]) := by
  induction h with
  | nil => exact ⟨rfl, rfl⟩
  | last => exact ⟨rfl, rfl⟩
  | literal _ ih => exact ih
  | dynamic _ ih => exact ih

theorem tail_not_mem_of_isSimple (h : IsSimple body) (name : Text) (allowEmpty : Bool) :
    .tail name allowEmpty ∉ body ++ [.boundary] := by
  induction h with
  | nil => simp
  | last => simp
  | literal _ ih => simpa using ih
  | dynamic _ ih => simpa using ih

/-- What is left before what is joined cannot be taken for the end of a pattern. -/
theorem joinSegments_ne_boundary {s : Segment} (h : IsSimple (s :: body))
    (hnext : BeginsWithSlash next) : joinSegments (s :: body) next ≠ [.boundary] := by
  obtain ⟨w, more, rfl⟩ := hnext
  cases h with
  | last => simp [joinSegments]
  | literal _ => simp [joinSegments]
  | dynamic _ => simp [joinSegments]

/-- However long the first capture is, the leading part ends at one place. -/
theorem length_eq_of_dynamic (name : Text) {j k : Nat} {t u : Taken}
    (hsimple : IsSimple body) (hj : 1 ≤ j) (hjle : j ≤ slashlessLength (text.drop pos))
    (ht : taken? .leading text (pos + j) (body ++ [.boundary]) = some t)
    (hk : 1 ≤ k) (hkle : k ≤ slashlessLength (text.drop pos))
    (hu : taken? .leading text (pos + k) (body ++ [.boundary]) = some u) :
    j + t.length = k + u.length := by
  have hsplit {n : Nat} {t : Taken} (hn : 1 ≤ n) (hle : n ≤ slashlessLength (text.drop pos))
      (ht : taken? .leading text (pos + n) (body ++ [.boundary]) = some t) :
      ∃ spans, Splits .leading (.dynamic name :: body ++ [.boundary]) (text.drop pos) spans ∧
        spans.flatten.length = n + t.length := by
    obtain ⟨spans, hbest, rfl⟩ := Option.map_eq_some_iff.1 ht
    obtain ⟨hslash, hlen⟩ := take_slashlessLength (text.drop pos) hle
    have hrest := splits_of_best (endsWell_of_isSimple hsimple) hbest
    have hne : (text.drop pos).take n ≠ [] := by
      intro hnil
      rw [hnil] at hlen
      exact absurd hlen (by simp; omega)
    rw [← List.drop_drop] at hrest
    have hs : Splits .leading (.dynamic name :: (body ++ [.boundary]))
        ((text.drop pos).take n ++ (text.drop pos).drop n) _ := .dynamic hne hslash hrest
    rw [List.take_append_drop] at hs
    exact ⟨_, hs, by rw [List.flatten_cons, List.length_append, hlen]⟩
  obtain ⟨spans, hs, hlen⟩ := hsplit hj hjle ht
  obtain ⟨spans', hs', hlen'⟩ := hsplit hk hkle hu
  rw [← hlen, ← hlen']
  exact hs.length_eq hs' (tail_not_mem_of_isSimple (.dynamic hsimple))

/-- A literal at the end of the leading part takes what stands before its last slash, or all of it
if it does not end in one. Joining keeps that text and goes on after it. -/
theorem taken?_last (text : Text) (pos : Nat) (v : Text) : ∃ front,
    (∀ after, joinPatterns v ('/' :: after) = front ++ '/' :: after) ∧
      ∃ closes : Option Char → Bool, closes (some '/') = true ∧
        taken? .leading text pos [.literal v, .boundary] =
          if front.isPrefixOf (text.drop pos) && closes (text.drop (pos + front.length)).head? then
            some ⟨front.length, some []⟩
          else none := by
  by_cases hslash : Draft.endsInSlash v
  · have hlast : v.getLast? = some '/' := by simpa [Draft.endsInSlash] using hslash
    have htaken : taken? .leading text pos [.literal v, .boundary] = _ :=
      taken?_slashAhead ⟨rfl, hslash, rfl⟩
    rw [isPrefixOf_endsInSlash hslash, List.drop_drop] at htaken
    obtain ⟨front, rfl⟩ := List.getLast?_eq_some_iff.1 hlast
    rw [List.dropLast_concat] at htaken
    refine ⟨front, fun after => ?_, (· == some '/'), rfl, htaken⟩
    rw [joinPatterns, if_pos ⟨hlast, rfl⟩]
    simp
  · have hlast : v.getLast? ≠ some '/' := by simpa [Draft.endsInSlash] using hslash
    refine ⟨v, fun after => joinPatterns_of_getLast? hlast _, fun c => c.all (· == '/'), rfl, ?_⟩
    rw [taken?_literal fun h => hslash h.2.1, taken?_boundary]
    cases v.isPrefixOf (text.drop pos) with
    | false => rfl
    | true => simp [Taken.skip]

/-- Joined segments take what the leading part takes, and then what the other part takes. -/
theorem taken?_joinSegments (hsimple : IsSimple body) (hnext : BeginsWithSlash next) :
    taken? extent text pos (joinSegments body next) =
      (taken? .leading text pos (body ++ [.boundary])).bind
        (Taken.followedBy? extent text pos next) := by
  have hbegins := hnext
  obtain ⟨w, more, rfl⟩ := hnext
  induction hsimple generalizing pos with
  | nil =>
    rw [joinSegments, List.nil_append, taken?_boundary]
    split
    · rw [Option.bind_some, Taken.followedBy?, Nat.add_zero, funext Taken.nil_append]
      exact Option.map_id'.symm
    · rename_i hhead
      rw [taken?_of_head? fun hslash => hhead (by simp [hslash])]
      rfl
  | @last v =>
    obtain ⟨front, hjoin, closes, hcloses, htaken⟩ := taken?_last text pos v
    rw [joinSegments_last, hjoin, taken?_literal_append (List.cons_ne_nil _ _),
      List.singleton_append, htaken]
    cases front.isPrefixOf (text.drop pos) with
    | false => rfl
    | true =>
      by_cases hhead : (text.drop (pos + front.length)).head? = some '/'
      · rw [hhead, hcloses, funext (Taken.skip_eq_append front.length)]
        rfl
      · rw [taken?_of_head? hhead]
        cases closes (text.drop (pos + front.length)).head? with
        | false => rfl
        | true => simp [Taken.followedBy?, taken?_of_head? hhead]
  | @literal v s rest hrest ih =>
    have hnot : ¬LeavesSlash extent v (joinSegments (s :: rest) (.literal ('/' :: w) :: more)) :=
      fun h => joinSegments_ne_boundary hrest hbegins h.2.2
    have hnot' : ¬LeavesSlash .leading v (s :: rest ++ [.boundary]) :=
      fun h => absurd h.2.2 (by simp)
    have hcons : .literal v :: s :: rest ++ [.boundary] =
      Segment.literal v :: (s :: rest ++ [.boundary]) := rfl
    rw [joinSegments_literal, taken?_literal hnot, ih, hcons, taken?_literal hnot']
    split
    · exact map_bind_followedBy? _ (fun _ => rfl) fun t u => Taken.skip_append v.length t u
    · rfl
  | @dynamic name rest hrest ih =>
    rw [joinSegments_dynamic, taken?_dynamic, List.cons_append, taken?_dynamic, downFrom_bind]
    · apply downFrom_congr
      intro n hn
      have hlen := (take_slashlessLength (text.drop pos) hn).2
      rw [ih]
      refine map_bind_followedBy? _ (fun t => ?_) fun t u => Taken.capture_append name text pos _ t u
      rw [Taken.capture, hlen]
    · intro j k a b hj hjle ha hk hkle hb hnone
      obtain ⟨t, ht, rfl⟩ := Option.map_eq_some_iff.1 ha
      obtain ⟨u, hu, rfl⟩ := Option.map_eq_some_iff.1 hb
      have hlen := length_eq_of_dynamic name hrest hj hjle ht hk hkle hu
      rw [Taken.followedBy?, Option.map_eq_none_iff] at hnone ⊢
      simp only [Taken.capture, (take_slashlessLength (text.drop pos) hjle).2] at hnone
      simp only [Taken.capture, (take_slashlessLength (text.drop pos) hkle).2]
      rw [← hlen]
      exact hnone

end Joined

/-! ## Resources -/

section Resource

variable {config base : Config} {extent : Extent} {text : Text} {name other : Option Text}
  {pattern : Text} {patterns : List Text} {b r j : Resource}

theorem Taken.length_le {segments : List Segment} {t : Taken} (hend : EndsWell extent segments)
    (h : taken? extent text 0 segments = some t) : t.length ≤ text.length := by
  obtain ⟨spans, hbest, rfl⟩ := Option.map_eq_some_iff.1 h
  exact (splits_of_best hend hbest).prefix_flatten.length_le

/-- The segments of a single pattern for a leading part, without inline expression and tail. -/
theorem Resource.exists_simple
    (hb : Resource.ofPatterns base .leading name [pattern] = .ok b) (hplain : IsPlain b.segments)
    (htail : ∀ name allowEmpty, .tail name allowEmpty ∉ b.segments) :
    ∃ body, IsSimple body ∧ b.segments = body ++ [.boundary] ∧
      Pattern.parse base .leading pattern = .ok b.segments := by
  obtain ⟨-, p, hp, hparse⟩ := Resource.exists_of_ofPatterns hb
  obtain rfl := List.mem_singleton.1 hp
  obtain ⟨-, hgrammatical⟩ := Pattern.isGrammatical_of_parse hparse
  obtain ⟨body, hbody, hsegments⟩ := hgrammatical.exists_body
  refine ⟨body, isSimple_of_forall fun s hs => ?_, hsegments, hparse⟩
  rw [hsegments] at hplain htail
  cases s with
  | literal text => exact .inl ⟨text, rfl⟩
  | dynamic name => exact .inr ⟨name, rfl⟩
  | constrained name e => exact absurd (List.mem_append_left _ hs) (hplain name e)
  | tail name allowEmpty => exact absurd (List.mem_append_left _ hs) (htail name allowEmpty)
  | boundary => exact absurd hs hbody.boundary_not_mem

theorem isMachineInteger_of_le {n m : Nat} (hle : n ≤ m) (hm : isMachineInteger m) :
    isMachineInteger n := by
  simp only [isMachineInteger, Bool.and_eq_true, decide_eq_true_eq] at hm ⊢
  omega

/-- What a resource is made from is kept in it. -/
theorem Resource.eq_of_ofPatterns
    (hr : Resource.ofPatterns config extent other patterns = .ok r) :
    r.patterns = patterns ∧ r.extent = extent ∧ r.config = config ∧ r.name = other ∧
      Pattern.parseAll config extent patterns = .ok r.sequences := by
  rw [Resource.ofPatterns, bind_eq_ok] at hr
  obtain ⟨sequences, hsequences, hr⟩ := hr
  rw [bind_eq_ok] at hr
  obtain ⟨matcher, -, hr⟩ := hr
  obtain rfl := Except.ok.inj hr
  exact ⟨rfl, rfl, rfl, rfl, hsequences⟩

theorem isPlain_joinSegments {body next : List Segment} (hsimple : IsSimple body)
    (hnext : IsPlain next) (hslash : BeginsWithSlash next) : IsPlain (joinSegments body next) := by
  obtain ⟨w, more, rfl⟩ := hslash
  induction hsimple with
  | nil => exact hnext
  | last => simpa [IsPlain, joinSegments] using hnext
  | literal _ ih => simpa [IsPlain, joinSegments_literal] using ih
  | dynamic _ ih => simpa [IsPlain, joinSegments_dynamic] using ih

/-- The sequences of a joined resource are joined sequences. -/
theorem Resource.sequences_join {body : List Segment}
    (hparse : Pattern.parse base .leading b.pattern = .ok (body ++ [.boundary]))
    (hsimple : IsSimple body)
    (hr : Resource.ofPatterns config extent other patterns = .ok r)
    (hslash : ∀ q ∈ patterns, q.head? = some '/') (hj : b.join r = .ok j) :
    Resource.ofPatterns config extent other (patterns.map (joinPatterns b.pattern)) = .ok j ∧
      j.sequences = r.sequences.map (joinSegments body) := by
  obtain ⟨hpatterns, hextent, hconfig, hname, hsequences⟩ := Resource.eq_of_ofPatterns hr
  rw [Resource.join, hpatterns, hextent, hconfig, hname] at hj
  obtain ⟨-, -, -, -, hjoined⟩ := Resource.eq_of_ofPatterns hj
  exact ⟨hj, eq_joinSegments_of_mapM hparse hsimple (Pattern.mapM_of_parseAll hsequences).2 hslash
    (Pattern.mapM_of_parseAll hjoined).2⟩

/-- No joined pattern is the root, if none of those that are joined is. -/
theorem root_not_mem_join (hslash : ∀ q ∈ patterns, q.head? = some '/' ∧ q ≠ ['/']) (p : Text) :
    ['/'] ∉ patterns.map (joinPatterns p) := by
  intro hmem
  obtain ⟨q, hq, hroot⟩ := List.mem_map.1 hmem
  obtain ⟨hhead, hne⟩ := hslash q hq
  cases q with
  | nil => exact absurd hhead (by simp)
  | cons c q =>
    obtain rfl := Option.some.inj hhead
    have hq : q ≠ [] := by
      rintro rfl
      exact hne rfl
    unfold joinPatterns at hroot
    split at hroot
    · rename_i hlast
      have hp : p ≠ [] := by
        rintro rfl
        exact absurd hlast.1 (by simp)
      have hlen := congrArg List.length hroot
      have := List.length_pos_iff.2 hp
      have := List.length_pos_iff.2 hq
      simp at hlen
      omega
    · have hlen := congrArg List.length hroot
      have := List.length_pos_iff.2 hq
      simp at hlen
      omega

/-- Of joined sequences, the first that takes anything is made from the first that takes anything
where the leading part stops. -/
theorem findSome?_joinSegments {body : List Segment} {sequences : List (List Segment)}
    (hsimple : IsSimple body) (hbegin : ∀ segments ∈ sequences, BeginsWithSlash segments) :
    (sequences.map (joinSegments body)).findSome? (taken? extent text 0) =
      (taken? .leading text 0 (body ++ [.boundary])).bind fun t =>
        (sequences.findSome? (taken? extent text t.length)).map t.append := by
  induction sequences with
  | nil => cases taken? .leading text 0 (body ++ [.boundary]) <;> rfl
  | cons segments sequences ih =>
    rw [List.forall_mem_cons] at hbegin
    rw [List.map_cons, List.findSome?_cons, taken?_joinSegments hsimple hbegin.1, ih hbegin.2]
    cases taken? .leading text 0 (body ++ [.boundary]) with
    | none => rfl
    | some t =>
      simp only [Option.bind_some, Taken.followedBy?, Nat.zero_add, List.findSome?_cons]
      cases taken? extent text t.length segments with
      | none => rfl
      | some u => rfl

/-- The root matches the empty text. -/
theorem Resource.matchPath_root (hb : Resource.ofPatterns base .leading name [['/']] = .ok b) :
    b.matchPath [] = .ok (some ⟨0, []⟩) := by
  have hgrammatical : Pattern.IsGrammatical base .exact [.literal ['/']] :=
    .cons ⟨by simp, by simp, by simp⟩ (by simp) (by simp) .nil
  have hroot : Pattern.parse base .leading ['/'] = .ok [.literal ['/'], .boundary] :=
    Pattern.parse_renderSegments (hgrammatical.append_endSegments .leading)
  obtain ⟨-, p, hp, hparse⟩ := Resource.exists_of_ofPatterns hb
  obtain rfl := List.mem_singleton.1 hp
  have hsegments : b.sequences = [[.literal ['/'], .boundary]] := by
    rw [Resource.sequences_of_single hb, Except.ok.inj (hparse.symm.trans hroot)]
  obtain ⟨-, hmatcher, -⟩ := Resource.parse_of_mem hb
  rw [hsegments] at hmatcher
  rw [Resource.matchPath, Resource.matchAt, ← Except.ok.inj hmatcher]
  rfl

/-- Nothing that begins with a slash is taken at the end of a text. -/
theorem findSome?_taken?_nil {sequences : List (List Segment)}
    (hbegin : ∀ segments ∈ sequences, BeginsWithSlash segments) :
    sequences.findSome? (taken? extent [] 0) = none := by
  rw [List.findSome?_eq_none_iff]
  intro segments hmem
  obtain ⟨w, more, rfl⟩ := hbegin segments hmem
  exact taken?_of_head? (by simp)

/-- The base matches by what its segments take, unless it is the root and the text is empty. -/
theorem Resource.matchPath_eq_taken (hb : Resource.ofPatterns base .leading name [pattern] = .ok b)
    (hplain : IsPlain b.segments) (hroot : ¬(text = [] ∧ pattern = ['/'])) :
    b.matchPath text = .ok ((taken? .leading text 0 b.segments).bind Taken.result?) := by
  have hsequences := Resource.sequences_of_single hb
  have hmatch := Resource.matchAt_eq_taken text 0 hb (by simpa [hsequences] using hplain)
    (fun h hmem => hroot ⟨List.length_eq_zero_iff.1 h.symm, (List.mem_singleton.1 hmem).symm⟩)
    (Nat.zero_le _) (by decide)
  rw [hsequences, List.findSome?_cons, List.findSome?_nil] at hmatch
  cases htaken : taken? .leading text 0 b.segments with
  | none => rwa [htaken] at hmatch
  | some t => rwa [htaken] at hmatch

theorem Resource.beginsWithSlash (hr : Resource.ofPatterns config extent other patterns = .ok r)
    (hslash : ∀ q ∈ patterns, q.head? = some '/') :
    ∀ segments ∈ r.sequences, BeginsWithSlash segments := by
  obtain ⟨-, -, hparsed⟩ := Resource.parse_of_mem hr
  intro segments hmem
  obtain ⟨q, hq, hparse⟩ := hparsed segments hmem
  exact beginsWithSlash_of_parse hparse (hslash q hq)

/-- A joined resource matches by what the base takes and the first that takes anything after it. -/
theorem Resource.matchPath_join_eq_taken {body : List Segment} (text : Text)
    (hparse : Pattern.parse base .leading b.pattern = .ok (body ++ [.boundary]))
    (hsimple : IsSimple body) (hr : Resource.ofPatterns config extent other patterns = .ok r)
    (hplain : ∀ segments ∈ r.sequences, IsPlain segments)
    (hslash : ∀ q ∈ patterns, q.head? = some '/' ∧ q ≠ ['/']) (hj : b.join r = .ok j) :
    j.matchPath text = .ok (((taken? .leading text 0 (body ++ [.boundary])).bind fun t =>
      (r.sequences.findSome? (taken? extent text t.length)).map t.append).bind Taken.result?) := by
  have hhead : ∀ q ∈ patterns, q.head? = some '/' := fun q hq => (hslash q hq).1
  have hbegin := Resource.beginsWithSlash hr hhead
  obtain ⟨hj, hsequences⟩ := Resource.sequences_join hparse hsimple hr hhead hj
  have hjplain : ∀ segments ∈ j.sequences, IsPlain segments := by
    rw [hsequences, List.forall_mem_map]
    exact fun segments hmem => isPlain_joinSegments hsimple (hplain segments hmem) (hbegin _ hmem)
  have hmatch := Resource.matchAt_eq_taken text 0 hj hjplain
    (fun _ => root_not_mem_join hslash _) (Nat.zero_le text.length) (by decide)
  rw [hsequences, findSome?_joinSegments hsimple hbegin] at hmatch
  exact hmatch

/-- A joined resource matches a path as the base and, from where that stops, the other resource do
one after the other. -/
theorem Resource.matchPath_join (hb : Resource.ofPatterns base .leading name [pattern] = .ok b)
    (hbplain : IsPlain b.segments) (hbtail : ∀ name allowEmpty, .tail name allowEmpty ∉ b.segments)
    (hr : Resource.ofPatterns config extent other patterns = .ok r)
    (hrplain : ∀ segments ∈ r.sequences, IsPlain segments)
    (hslash : ∀ q ∈ patterns, q.head? = some '/' ∧ q ≠ ['/'])
    (hj : b.join r = .ok j) (hword : isMachineInteger text.length) :
    ∃ first, b.matchPath text = .ok first ∧
      match first with
      | none => j.matchPath text = .ok none
      | some f => ∃ second, r.matchAt text f.consumed = .ok second ∧
          j.matchPath text = .ok (second.map fun s =>
            ⟨f.consumed + s.consumed, f.captures ++ s.captures⟩) := by
  obtain ⟨body, hsimple, hsegments, hparse⟩ := Resource.exists_simple hb hbplain hbtail
  have hpattern : b.pattern = pattern := by
    rw [Resource.pattern, (Resource.eq_of_ofPatterns hb).1]
    rfl
  have hroot : ['/'] ∉ patterns := fun hmem => (hslash _ hmem).2 rfl
  rw [← hpattern, hsegments] at hparse
  have hjmatch := Resource.matchPath_join_eq_taken text hparse hsimple hr hrplain hslash hj
  rw [← hsegments] at hjmatch
  by_cases hempty : text = [] ∧ pattern = ['/']
  · -- the root takes nothing, and nothing is left for the other resource
    obtain ⟨rfl, rfl⟩ := hempty
    have hrmatch := Resource.matchAt_eq_taken [] 0 hr hrplain (fun _ => hroot)
      (Nat.le_refl _) (by decide)
    rw [findSome?_taken?_nil (Resource.beginsWithSlash hr fun q hq => (hslash q hq).1)] at hrmatch
    have hnone : taken? .leading [] 0 b.segments = none := by
      obtain ⟨w, more, hw⟩ := beginsWithSlash_of_parse hparse (by rw [hpattern]; rfl)
      rw [hsegments, hw]
      exact taken?_of_head? (by simp)
    rw [hnone] at hjmatch
    exact ⟨_, Resource.matchPath_root hb, none, hrmatch, hjmatch⟩
  · have hbmatch := Resource.matchPath_eq_taken hb hbplain hempty
    cases htaken : taken? .leading text 0 b.segments with
    | none =>
      rw [htaken] at hbmatch hjmatch
      exact ⟨none, hbmatch, hjmatch⟩
    | some t =>
      rw [htaken, Option.bind_some] at hbmatch hjmatch
      rw [Taken.bind_result?_append] at hjmatch
      refine ⟨t.result?, hbmatch, ?_⟩
      cases hresult : t.result? with
      | none => rwa [hresult] at hjmatch
      | some f =>
        obtain ⟨captures, -, rfl⟩ := Option.map_eq_some_iff.1 hresult
        have hend : EndsWell .leading b.segments := hsegments ▸ endsWell_of_isSimple hsimple
        have hle := Taken.length_le hend htaken
        have hrmatch := Resource.matchAt_eq_taken text t.length hr hrplain (fun _ => hroot) hle
          (isMachineInteger_of_le hle hword)
        rw [hresult] at hjmatch
        exact ⟨_, hrmatch, hjmatch⟩

/-- The slash that ends the base is left to the other resource, and its capture comes first. -/
theorem Resource.matchPath_join_slash :
    ∃ b r j, Resource.ofPatterns .standard .leading none ["/\x7bv\x7d/".toList] = .ok b ∧
      Resource.ofPatterns .standard .exact none ["/a".toList, "/\x7bx\x7d.\x7by\x7d".toList] =
        .ok r ∧
      b.join r = .ok j ∧ j.matchPath "/v%31/p.q.r".toList = .ok (some ⟨11,
        [⟨['v'], "/v%31/p.q.r".toList, 1, 5, some "v1".toList⟩,
          ⟨['x'], "/v%31/p.q.r".toList, 6, 9, none⟩,
          ⟨['y'], "/v%31/p.q.r".toList, 10, 11, none⟩]⟩) := by
  let text := "/v%31/p.q.r".toList
  let v : Capture := ⟨['v'], text, 1, 5, some "v1".toList⟩
  let x : Capture := ⟨['x'], text, 6, 9, none⟩
  let y : Capture := ⟨['y'], text, 10, 11, none⟩
  have hrun : (do
      let b ← (Resource.ofPatterns .standard .leading none ["/\x7bv\x7d/".toList]).toOption
      let r ← (Resource.ofPatterns .standard .exact none
        ["/a".toList, "/\x7bx\x7d.\x7by\x7d".toList]).toOption
      let j ← (b.join r).toOption
      return (b.segments, r.sequences, (b.matchPath text).toOption, (r.matchAt text 5).toOption)) =
      some ([.literal ['/'], .dynamic ['v'], .literal ['/'], .boundary],
        [[.literal "/a".toList], [.literal ['/'], .dynamic ['x'], .literal ['.'], .dynamic ['y']]],
        some (some ⟨5, [v]⟩), some (some ⟨6, [x, y]⟩)) := by decide +kernel
  obtain ⟨b, hb, hrun⟩ := Option.bind_eq_some_iff.1 hrun
  obtain ⟨r, hr, hrun⟩ := Option.bind_eq_some_iff.1 hrun
  obtain ⟨j, hj, hrun⟩ := Option.bind_eq_some_iff.1 hrun
  simp only [Option.pure_def, Option.some.injEq, Prod.mk.injEq] at hrun
  obtain ⟨hsegments, hsequences, hfirst, hsecond⟩ := hrun
  refine ⟨b, r, j, eq_ok_of_toOption hb, eq_ok_of_toOption hr, eq_ok_of_toOption hj, ?_⟩
  have hword : isMachineInteger text.length := by decide
  obtain ⟨first, hfirst', hmatch⟩ := Resource.matchPath_join (eq_ok_of_toOption hb)
    (by simp [IsPlain, hsegments]) (by simp [hsegments]) (eq_ok_of_toOption hr)
    (by simp [IsPlain, hsequences]) (by decide) (eq_ok_of_toOption hj) hword
  obtain rfl := Except.ok.inj (hfirst'.symm.trans (eq_ok_of_toOption hfirst))
  obtain ⟨second, hsecond', hmatch⟩ := hmatch
  obtain rfl := Except.ok.inj (hsecond'.symm.trans (eq_ok_of_toOption hsecond))
  exact hmatch

end Resource

end PathRouter
