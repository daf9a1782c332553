import PathRouter.Resource

/-!
# What building gives

A path that is built is the literals of its pattern with the written values between them. Whatever the
values are and however they are supplied, nothing can go wrong with segments but that a capture has no
value.
-/

namespace PathRouter
set_option autoImplicit false

/-- A path made of the literals of segments and of what is written for the values of captures. -/
inductive Filled : List Segment → Text → Prop
  | nil : Filled [] []
  | plain {s : Segment} {rest : List Segment} {path : Text} : s.name? = none → Filled rest path →
      Filled (s :: rest) (StaticAlternative.literalOf s ++ path)
  | capture {s : Segment} {name : Text} {rest : List Segment} {path : Text} (value : Value) :
      s.name? = some name → Filled rest path → Filled (s :: rest) (s.fill value ++ path)

/-- What comes of building a path from segments. -/
inductive Builds (pattern : Text) (segments : List Segment) : Except PathError Text → Prop
  | path {path : Text} : Filled segments path → Builds pattern segments (.ok path)
  | missing (key : MissingKey) : Builds pattern segments (.error (.missing key pattern))

section Built

variable {pattern part : Text} {s : Segment} {rest : List Segment} {built : Except PathError Text}

/-- What a segment adds, if it is built after the others. -/
theorem Builds.prepend (h : Builds pattern rest built)
    (hpart : ∀ path, Filled rest path → Filled (s :: rest) (part ++ path)) :
    Builds pattern (s :: rest) (do return part ++ (← built)) := by
  cases h with
  | path hpath => exact .path (hpart _ hpath)
  | missing key => exact .missing key

theorem Builds.literal {text : Text} (h : Builds pattern rest built) :
    Builds pattern (.literal text :: rest) (do return text ++ (← built)) :=
  h.prepend fun _ hpath => .plain rfl hpath

theorem Builds.boundary (h : Builds pattern rest built) :
    Builds pattern (.boundary :: rest) built := by
  cases h with
  | path hpath => exact .path (.plain rfl hpath)
  | missing key => exact .missing key

theorem Builds.capture (h : Builds pattern rest built) (hliteral : ∀ text, s = .literal text → False)
    (hboundary : s = .boundary → False) (value : Value) :
    Builds pattern (s :: rest) (do return s.fill value ++ (← built)) := by
  apply h.prepend
  intro path hpath
  cases s with
  | literal text => exact absurd rfl (hliteral text)
  | boundary => exact absurd rfl hboundary
  | dynamic name => exact .capture value rfl hpath
  | constrained name e => exact .capture value rfl hpath
  | tail name allowEmpty => exact .capture value rfl hpath

theorem builds_buildNamed (pattern : Text) (values : List (Text × Value))
    (segments : List Segment) : Builds pattern segments (buildNamed pattern values segments) := by
  fun_induction buildNamed pattern values segments with
  | case1 => exact .path .nil
  | case2 text rest ih => exact ih.literal
  | case3 rest ih => exact ih.boundary
  | case4 s rest hliteral hboundary _ _ value _ ih => exact ih.capture hliteral hboundary value
  | case5 => exact .missing _

theorem builds_buildPositional (pattern : Text) (index : Nat) (values : List Value)
    (segments : List Segment) :
    Builds pattern segments (buildPositional pattern index values segments) := by
  fun_induction buildPositional pattern index values segments with
  | case1 => exact .path .nil
  | case2 _ _ text rest ih => exact ih.literal
  | case3 _ _ rest ih => exact ih.boundary
  | case4 _ value _ s rest hliteral hboundary ih => exact ih.capture hliteral hboundary value
  | case5 => exact .missing _

/-- A path is built from the segments of the canonical pattern, unless there is none or the values are
a single one. -/
theorem Resource.builds_build (r : Resource) (supply : Supply) :
    Builds r.pattern r.segments (r.build supply) ∨
      r.build supply = .error (.noSequence r.label) ∨
        ∃ value, r.build supply = .error (.notIterable value) := by
  unfold Resource.build buildPath Resource.segments
  cases r.sequences with
  | nil => exact .inr (.inl rfl)
  | cons segments more =>
    cases supply with
    | named values => exact .inl (builds_buildNamed _ values segments)
    | positional values => exact .inl (builds_buildPositional _ 0 values segments)
    | single value => exact .inr (.inr ⟨value.kind, rfl⟩)

/-- A path that is built is filled with the values. -/
theorem Resource.filled_of_build {r : Resource} {supply : Supply} {path : Text}
    (h : r.build supply = .ok path) : Filled r.segments path := by
  have hbuilds := r.builds_build supply
  rw [h] at hbuilds
  rcases hbuilds with hbuilds | hbuilds | ⟨_, hbuilds⟩
  · cases hbuilds with
    | path hpath => exact hpath
  · exact absurd hbuilds (by simp)
  · exact absurd hbuilds (by simp)

end Built

end PathRouter
