import PathRouter.Proofs.PlainMatch

/-!
# Splits that slashes force

Where a slash or the end of the pattern follows every plain capture, a capture has to take all that
stands before the next slash, so a text can be split in one way only. What is captured then depends
on the spans alone, not on where in the text they stand.
-/

namespace PathRouter
set_option autoImplicit false

/-- After every plain capture the pattern ends, or a literal that begins with a slash follows. -/
def SlashFollows : List Segment → Prop
  | [] => True
  | .dynamic _ :: rest =>
    (rest = [] ∨ rest = [.boundary] ∨ ∃ text more, rest = .literal ('/' :: text) :: more) ∧
      SlashFollows rest
  | .literal _ :: rest | .constrained _ _ :: rest | .tail _ _ :: rest | .boundary :: rest =>
    SlashFollows rest

/-- The names of captures with the decoded texts of their spans, unless one of them cannot be
decoded. -/
def spanEntries? : List Segment → List Text → Option (List (Text × Text))
  | s :: segments, span :: spans =>
    match s.name? with
    | some name => do
      let value ← (Percent.decodeText span).toOption
      return (name, value) :: (← spanEntries? segments spans)
    | none => spanEntries? segments spans
  | _, _ => some []

variable {extent : Extent} {segments : List Segment} {s : Text} {spans : List Text}

theorem SlashFollows.tail {segment : Segment} (h : SlashFollows (segment :: segments)) :
    SlashFollows segments := by
  cases segment with
  | dynamic name => exact h.2
  | literal text => exact h
  | constrained name e => exact h
  | tail name allowEmpty => exact h
  | boundary => exact h

/-! ## There is one split -/

/-- What follows the span of a plain capture begins with a slash, if anything follows. -/
theorem SlashFollows.head_eq {name : Text} (h : SlashFollows (.dynamic name :: segments))
    (hs : Splits extent segments s spans) : ∀ c, s.head? = some c → c = '/' := by
  intro c hc
  rcases h.1 with rfl | rfl | ⟨text, more, rfl⟩
  · cases hs with
    | textEnd _ => exact absurd hc (by simp)
  · cases hs with
    | boundary _ hslash => exact hslash c hc
  · cases hs with
    | slashAhead _ => exact (Option.some.inj hc).symm
    | literal _ _ => exact (Option.some.inj hc).symm

theorem slashlessLength_append {span : Text} (hspan : '/' ∉ span)
    (hs : ∀ c, s.head? = some c → c = '/') : slashlessLength (span ++ s) = span.length := by
  have hall : ∀ c ∈ span, (decide (c ≠ '/')) = true := by
    intro c hc
    rw [decide_eq_true_eq]
    rintro rfl
    exact hspan hc
  have hnone : s.takeWhile (· ≠ '/') = [] := by
    cases s with
    | nil => rfl
    | cons c s =>
      obtain rfl := hs c rfl
      rfl
  rw [slashlessLength, List.takeWhile_append_of_pos hall, hnone, List.append_nil]

/-- A split is the greatest one, as there is no other. -/
theorem Splits.best_eq (h : Splits extent segments s spans) (hslash : SlashFollows segments) :
    best extent segments s = some spans := by
  induction h with
  | textEnd _ => rfl
  | @boundary s _ hs =>
    cases s with
    | nil => rfl
    | cons c s =>
      obtain rfl := hs c rfl
      rfl
  | slashAhead hleaves => simp [best, hleaves]
  | literal hnot _ ih => simp [best, hnot, ih hslash.tail]
  | @dynamic name span s rest spans hne hspan hs ih =>
    rw [best, slashlessLength_append hspan (hslash.head_eq hs)]
    have hfound : (best extent rest ((span ++ s).drop span.length)).map
        ((span ++ s).take span.length :: ·) = some (span :: spans) := by
      rw [List.drop_left, List.take_left, ih hslash.tail]
      rfl
    obtain ⟨c, more, rfl⟩ := List.exists_cons_of_ne_nil hne
    rw [List.length_cons] at hfound ⊢
    rw [downFrom, hfound]
    rfl
  | tail hempty => simpa [best] using hempty

/-- The spans of a split of a whole text are the whole text. -/
theorem Splits.flatten_eq (h : Splits extent segments s spans) (hexact : extent = .exact) :
    spans.flatten = s := by
  induction h with
  | textEnd _ => rfl
  | boundary hleading _ => exact absurd (hexact.symm.trans hleading) (by simp)
  | slashAhead hleaves => exact absurd (hexact.symm.trans hleaves.1) (by simp)
  | literal _ _ ih => rw [List.flatten_cons, ih]
  | dynamic _ _ _ ih => rw [List.flatten_cons, ih]
  | tail _ => simp

/-! ## What is captured -/

/-- The entry of a span that stands at its place. -/
theorem entry_of_spanCapture? {text span : Text} {pos : Nat} (name : Text) (hpos : pos ≤ text.length)
    (h : text.drop pos = span ++ s) :
    (spanCapture? name text pos span).map Capture.entry =
      (Percent.decodeText span).toOption.map (name, ·) := by
  rw [spanCapture?]
  cases hvalue : Percent.decodeText span with
  | error e => rfl
  | ok value =>
    have hraw := slice_of_drop hpos h
    rw [Int.natCast_add] at hraw
    simp only [Option.map_some, Except.toOption, Capture.entry, Capture.value, Capture.raw, hraw]
    by_cases hsign : '%' ∈ span
    · rw [if_pos hsign]
      rfl
    · rw [Percent.decodeText_of_not_mem hsign] at hvalue
      rw [if_neg hsign, Except.ok.inj hvalue]
      rfl

/-- One entry and those after it. -/
theorem spanEntries?_cons {segment : Segment} {name text span : Text} {pos : Nat}
    (hname : segment.name? = some name) (hpos : pos ≤ text.length) (h : text.drop pos = span ++ s)
    (hrest : (spanCaptures? text (pos + span.length) segments spans).map (List.map Capture.entry) =
      spanEntries? segments spans) :
    (spanCaptures? text pos (segment :: segments) (span :: spans)).map (List.map Capture.entry) =
      spanEntries? (segment :: segments) (span :: spans) := by
  have hfirst := entry_of_spanCapture? name hpos h
  simp only [spanCaptures?, spanEntries?, hname, ← hrest]
  cases hc : spanCapture? name text pos span with
  | none =>
    rw [hc] at hfirst
    cases hvalue : (Percent.decodeText span).toOption with
    | none => rfl
    | some value =>
      rw [hvalue] at hfirst
      exact absurd hfirst (by simp)
  | some c =>
    rw [hc] at hfirst
    cases hvalue : (Percent.decodeText span).toOption with
    | none =>
      rw [hvalue] at hfirst
      exact absurd hfirst (by simp)
    | some value =>
      rw [hvalue] at hfirst
      have hentry : c.entry = (name, value) := Option.some.inj hfirst
      cases hcs : spanCaptures? text (pos + span.length) segments spans with
      | none => rfl
      | some cs => simp [hentry]

/-- The captures of a split have the entries of its spans. -/
theorem Splits.entries_eq (h : Splits extent segments s spans) (text : Text) (pos : Nat)
    (htext : text.drop pos = s) (hpos : pos ≤ text.length) :
    (spanCaptures? text pos segments spans).map (List.map Capture.entry) =
      spanEntries? segments spans := by
  induction h generalizing pos with
  | textEnd _ => rfl
  | boundary _ _ => rfl
  | slashAhead _ => rfl
  | literal _ _ ih =>
    obtain ⟨hle, hdrop⟩ := drop_span hpos htext
    exact ih _ hdrop hle
  | dynamic _ _ _ ih =>
    obtain ⟨hle, hdrop⟩ := drop_span hpos htext
    exact spanEntries?_cons rfl hpos htext (ih _ hdrop hle)
  | @tail name s allowEmpty _ =>
    have htext' : text.drop pos = s ++ [] := by rw [htext, List.append_nil]
    apply spanEntries?_cons rfl hpos htext'
    cases extent with
    | exact => rfl
    | leading => rfl

end PathRouter
