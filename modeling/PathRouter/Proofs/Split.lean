import PathRouter.Matcher.Match
import PathRouter.Proofs.CompiledTree

/-!
# Splitting a text by a pattern

What a pattern without inline expressions means, segment by segment: the text is split into
consecutive spans, one for each segment, and of all splits the one counts that gives the captures the
greatest lengths from left to right. `best` finds that split by trying longer spans first.
-/

namespace PathRouter
set_option autoImplicit false

/-- A text begins with one span for each of the segments, and goes on as the extent demands. -/
inductive Splits (extent : Extent) : List Segment → Text → List Text → Prop
  /-- The last span of an exact pattern ends with the text. -/
  | textEnd : extent = .exact → Splits extent [] [] []
  /-- The last span of a pattern for a leading part ends with the text or before a slash. -/
  | boundary {s : Text} : extent = .leading → (∀ c, s.head? = some c → c = '/') →
      Splits extent [.boundary] s []
  /-- A slash that ends such a pattern has to be there, but is left to what follows. -/
  | slashAhead {text s : Text} : LeavesSlash extent text [.boundary] →
      Splits extent [.literal text, .boundary] (text ++ s) [text.dropLast]
  /-- The span of any other literal is its text. -/
  | literal {text s : Text} {rest : List Segment} {spans : List Text} :
      ¬LeavesSlash extent text rest → Splits extent rest s spans →
      Splits extent (.literal text :: rest) (text ++ s) (text :: spans)
  /-- The span of a plain capture is not empty and has no slash. -/
  | dynamic {name span s : Text} {rest : List Segment} {spans : List Text} :
      span ≠ [] → '/' ∉ span → Splits extent rest s spans →
      Splits extent (.dynamic name :: rest) (span ++ s) (span :: spans)
  /-- The span of a tail runs to the end of the text. -/
  | tail {name s : Text} {allowEmpty : Bool} : (s = [] → allowEmpty = true) →
      Splits extent (.tail name allowEmpty :: Pattern.endSegments extent) s [s]

/-- The lengths of the spans of captures. -/
def captureLengths : List Segment → List Text → List Nat
  | s :: segments, span :: spans =>
    if s.name?.isSome then span.length :: captureLengths segments spans
    else captureLengths segments spans
  | _, _ => []

/-- The split that gives the captures the greatest lengths from left to right. -/
structure IsGreatestSplit (extent : Extent) (segments : List Segment) (s : Text)
    (spans : List Text) : Prop where
  splits : Splits extent segments s spans
  greatest : ∀ other, Splits extent segments s other →
    ¬List.Lex (· < ·) (captureLengths segments spans) (captureLengths segments other)

/-- The capture of a span that starts at `start`, unless the span cannot be decoded. -/
def spanCapture? (name text : Text) (start : Nat) (span : Text) : Option Capture :=
  match Percent.decodeText span with
  | .ok value =>
    some ⟨name, text, start, start + span.length, if '%' ∈ span then some value else none⟩
  | .error _ => none

/-- The captures of spans that stand one after the other from `start`, unless one of them cannot be
decoded. -/
def spanCaptures? (text : Text) (start : Nat) : List Segment → List Text → Option (List Capture)
  | s :: segments, span :: spans =>
    match s.name? with
    | some name => do
      let c ← spanCapture? name text start span
      return c :: (← spanCaptures? text (start + span.length) segments spans)
    | none => spanCaptures? text (start + span.length) segments spans
  | _, _ => some []

/-! ## Finding the greatest split -/

/-- The first value among those for `n`, one less, and so on down to one. -/
def downFrom {α : Type} (f : Nat → Option α) : Nat → Option α
  | 0 => none
  | n + 1 => (f (n + 1)).or (downFrom f n)

theorem downFrom_eq_some {α : Type} {f : Nat → Option α} {n : Nat} {a : α}
    (h : downFrom f n = some a) : ∃ k, 1 ≤ k ∧ k ≤ n ∧ f k = some a := by
  induction n with
  | zero => simp [downFrom] at h
  | succ n ih =>
    rw [downFrom, Option.or_eq_some_iff] at h
    rcases h with h | ⟨_, h⟩
    · exact ⟨n + 1, by omega, by omega, h⟩
    · obtain ⟨k, h₁, hn, hk⟩ := ih h
      exact ⟨k, h₁, by omega, hk⟩

/-- A value is found, and not for a smaller number than the given one. -/
theorem downFrom_of_some {α : Type} {f : Nat → Option α} {n k : Nat} {a : α} (h₁ : 1 ≤ k)
    (hn : k ≤ n) (h : f k = some a) :
    ∃ b m, downFrom f n = some b ∧ k ≤ m ∧ m ≤ n ∧ f m = some b := by
  induction n with
  | zero => omega
  | succ n ih =>
    cases hf : f (n + 1) with
    | some b => exact ⟨b, n + 1, by simp [downFrom, hf], hn, by omega, hf⟩
    | none =>
      have hne : k ≠ n + 1 := fun e => by simp [e, hf] at h
      have hkn : k ≤ n := by omega
      obtain ⟨b, m, hb, hkm, hmn, hm⟩ := ih hkn
      exact ⟨b, m, by simp [downFrom, hf, hb], hkm, by omega, hm⟩

theorem downFrom_map {α β : Type} (g : α → β) (f : Nat → Option α) (n : Nat) :
    (downFrom f n).map g = downFrom (fun k => (f k).map g) n := by
  induction n with
  | zero => rfl
  | succ n ih => rw [downFrom, downFrom, Option.map_or, ih]

/-- The number of characters before the first slash. -/
def slashlessLength (s : Text) : Nat :=
  (s.takeWhile (· ≠ '/')).length

/-- The greatest split of a text. -/
def best (extent : Extent) : List Segment → Text → Option (List Text)
  | [], s => if s = [] then some [] else none
  | .literal text :: rest, s =>
    if LeavesSlash extent text rest then if text.isPrefixOf s then some [text.dropLast] else none
    else if text.isPrefixOf s then (best extent rest (s.drop text.length)).map (text :: ·)
    else none
  | .dynamic _ :: rest, s =>
    downFrom (fun n => (best extent rest (s.drop n)).map (s.take n :: ·)) (slashlessLength s)
  | .tail _ allowEmpty :: _, s => if s = [] ∧ !allowEmpty then none else some [s]
  | .boundary :: _, s => if s.head?.all (· == '/') then some [] else none
  | .constrained _ _ :: _, _ => none

variable {extent : Extent} {segments : List Segment} {s : Text} {spans : List Text}

theorem take_slashlessLength (s : Text) {n : Nat} (h : n ≤ slashlessLength s) :
    '/' ∉ s.take n ∧ (s.take n).length = n := by
  have hpre : s.takeWhile (· ≠ '/') <+: s := List.takeWhile_prefix _
  have htake : s.take n = (s.takeWhile (· ≠ '/')).take n := by
    rw [List.prefix_iff_eq_take.1 hpre, List.take_take]
    exact congrArg (List.take · s) (Nat.min_eq_left h).symm
  refine ⟨fun hm => ?_, ?_⟩
  · rw [htake] at hm
    have := List.all_eq_true.1 List.all_takeWhile _ (List.mem_of_mem_take hm)
    simp at this
  · have := hpre.length_le
    rw [List.length_take]
    unfold slashlessLength at h
    omega

theorem le_slashlessLength {span s : Text} (h : '/' ∉ span) :
    span.length ≤ slashlessLength (span ++ s) := by
  have hall : ∀ c ∈ span, (decide (c ≠ '/')) = true := fun c hc => by
    simpa using fun e : c = '/' => h (e ▸ hc)
  rw [slashlessLength, List.takeWhile_append_of_pos hall, List.length_append]
  exact Nat.le_add_right _ _

/-- The spans of a split stand one after the other at the start of the text. -/
theorem Splits.prefix_flatten (h : Splits extent segments s spans) : spans.flatten <+: s := by
  induction h with
  | textEnd _ => exact List.nil_prefix
  | boundary _ _ => exact List.nil_prefix
  | @slashAhead text s _ =>
    rw [List.flatten_cons, List.flatten_nil, List.append_nil]
    exact (List.dropLast_prefix text).trans (List.prefix_append text s)
  | literal _ _ ih => exact (List.prefix_append_right_inj _).2 ih
  | dynamic _ _ _ ih => exact (List.prefix_append_right_inj _).2 ih
  | tail _ => simp

/-- What is found is a split. -/
theorem splits_of_best (hend : EndsWell extent segments) (h : best extent segments s = some spans) :
    Splits extent segments s spans := by
  induction segments generalizing s spans with
  | nil =>
    simp only [best, Option.ite_none_right_eq_some, Option.some.injEq] at h
    obtain ⟨rfl, rfl⟩ := h
    exact .textEnd hend
  | cons seg rest ih =>
    cases seg with
    | constrained name e => simp [best] at h
    | boundary =>
      simp only [best, Option.ite_none_right_eq_some, Option.some.injEq] at h
      obtain ⟨hs, rfl⟩ := h
      obtain ⟨he, rfl⟩ := hend
      exact .boundary he fun c hc => by simpa [hc] using hs
    | tail name allowEmpty =>
      obtain rfl : rest = Pattern.endSegments extent := hend
      simp only [best, Option.ite_none_left_eq_some, Option.some.injEq, not_and] at h
      obtain ⟨hs, rfl⟩ := h
      exact .tail fun e => by simpa using hs e
    | literal text =>
      simp only [best] at h
      split at h
      · rename_i ht
        obtain rfl := ht.2.2
        simp only [Option.ite_none_right_eq_some, Option.some.injEq,
          List.isPrefixOf_iff_prefix] at h
        obtain ⟨⟨r, rfl⟩, rfl⟩ := h
        exact .slashAhead ht
      · rename_i ht
        simp only [Option.ite_none_right_eq_some, Option.map_eq_some_iff,
          List.isPrefixOf_iff_prefix] at h
        obtain ⟨⟨r, rfl⟩, sp, hsp, rfl⟩ := h
        rw [List.drop_left] at hsp
        exact .literal ht (ih hend hsp)
    | dynamic name =>
      obtain ⟨n, h₁, hn, hf⟩ := downFrom_eq_some h
      simp only [Option.map_eq_some_iff] at hf
      obtain ⟨sp, hsp, rfl⟩ := hf
      obtain ⟨hslash, hlen⟩ := take_slashlessLength s hn
      have hne : s.take n ≠ [] := fun e => by simp [e] at hlen; omega
      have hsplit : Splits extent (.dynamic name :: rest) (s.take n ++ s.drop n) (s.take n :: sp) :=
        .dynamic hne hslash (ih hend hsp)
      rwa [List.take_append_drop] at hsplit

/-- Any split is the one found or gives the captures lesser lengths. -/
theorem Splits.le_best (h : Splits extent segments s spans) :
    ∃ found, best extent segments s = some found ∧
      (spans = found ∨
        List.Lex (· < ·) (captureLengths segments spans) (captureLengths segments found)) := by
  induction h with
  | textEnd _ => exact ⟨[], rfl, .inl rfl⟩
  | boundary _ hs =>
    refine ⟨[], ?_, .inl rfl⟩
    rename_i s _
    cases s with
    | nil => rfl
    | cons c s =>
      obtain rfl := hs c rfl
      rfl
  | slashAhead ht =>
    exact ⟨_, by simp [best, ht], .inl rfl⟩
  | literal ht _ ih =>
    obtain ⟨found, hfound, hle⟩ := ih
    refine ⟨_, by simp [best, ht, hfound], hle.imp (congrArg _) fun h => ?_⟩
    simpa [captureLengths, Segment.name?] using h
  | tail hs =>
    refine ⟨_, ?_, .inl rfl⟩
    simpa [best] using hs
  | @dynamic name span s rest spans hne hslash _ ih =>
    obtain ⟨sp, hsp, hle⟩ := ih
    let f n := (best extent rest ((span ++ s).drop n)).map ((span ++ s).take n :: ·)
    have hf : f span.length = some (span :: sp) := by simp [f, hsp]
    have hpos : 1 ≤ span.length := List.length_pos_iff.2 hne
    obtain ⟨found, m, hfound, hm, hmn, hfm⟩ :=
      downFrom_of_some hpos (le_slashlessLength hslash) hf
    refine ⟨found, hfound, ?_⟩
    rcases Nat.lt_or_eq_of_le hm with hlt | rfl
    · -- a longer span for this capture makes all that follows irrelevant
      obtain ⟨sp', -, rfl⟩ := Option.map_eq_some_iff.1 hfm
      have hlen := (take_slashlessLength (span ++ s) hmn).2
      refine .inr ?_
      simp only [captureLengths, Segment.name?, Option.isSome_some, if_true, hlen]
      exact .rel hlt
    · obtain rfl := Option.some.inj (hf.symm.trans hfm)
      refine hle.imp (congrArg _) fun h => ?_
      simpa [captureLengths, Segment.name?] using List.Lex.cons (a := span.length) h

theorem lex_irrefl (ns : List Nat) : ¬List.Lex (· < ·) ns ns := by
  induction ns with
  | nil => nofun
  | cons n ns ih =>
    rintro (h | h)
    · exact absurd ‹n < n› (Nat.lt_irrefl n)
    · exact ih ‹_›

theorem lex_asymm {ns ms : List Nat} (h : List.Lex (· < ·) ns ms) : ¬List.Lex (· < ·) ms ns := by
  induction h with
  | nil => nofun
  | rel hlt =>
    rintro (h | h)
    · omega
    · omega
  | cons _ ih =>
    rintro (h | h)
    · omega
    · exact ih ‹_›

/-- What is found is the greatest split. -/
theorem best_isGreatest (hend : EndsWell extent segments)
    (h : best extent segments s = some spans) : IsGreatestSplit extent segments s spans := by
  refine ⟨splits_of_best hend h, fun other ho => ?_⟩
  obtain ⟨found, hfound, hle⟩ := ho.le_best
  obtain rfl := Option.some.inj (h.symm.trans hfound)
  rcases hle with rfl | hlt
  · exact lex_irrefl _
  · exact lex_asymm hlt

/-- There is no other greatest split. -/
theorem IsGreatestSplit.best_eq (hend : EndsWell extent segments)
    (h : IsGreatestSplit extent segments s spans) : best extent segments s = some spans := by
  obtain ⟨found, hfound, hle⟩ := h.splits.le_best
  rcases hle with rfl | hlt
  · exact hfound
  · exact absurd hlt (h.greatest found (splits_of_best hend hfound))

/-- Nothing is found only where there is no split. -/
theorem best_eq_none_iff (hend : EndsWell extent segments) :
    best extent segments s = none ↔ ∀ spans, ¬Splits extent segments s spans := by
  refine ⟨fun h spans hs => ?_, fun h => ?_⟩
  · obtain ⟨found, hfound, _⟩ := hs.le_best
    simp [h] at hfound
  · cases hb : best extent segments s with
    | none => rfl
    | some spans => exact absurd (splits_of_best hend hb) (h spans)

end PathRouter
