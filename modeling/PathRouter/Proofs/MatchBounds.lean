import PathRouter.Proofs.MatchShape

/-!
# Matches end ahead

On the current engine a match never ends before the offset that it starts from, whatever its
expression looks like: the copies of a possessive loop that fail leave nothing behind, so that no
look behind moves what follows. So what any resource consumes is what is left of the path, or a part
of it.
-/

namespace PathRouter
set_option autoImplicit false

open Regex

/-- Every expression of the matcher is matched by this edition of the engine. -/
def Matcher.RunsOn (edition : Edition) : Matcher → Prop
  | static _ _ => True
  | regex alternatives _ => ∀ a ∈ alternatives, a.edition = edition

/-- Every expression of the resource is matched by this edition of the engine. -/
def Resource.RunsOn (edition : Edition) (r : Resource) : Prop :=
  r.matcher.RunsOn edition

/-- A resource runs on the engine that it is configured for. -/
theorem Resource.runsOn_of_ofPatterns {config : Config} {extent : Extent} {name : Option Text}
    {patterns : List Text} {r : Resource}
    (hr : Resource.ofPatterns config extent name patterns = .ok r) : r.RunsOn config.edition := by
  obtain ⟨-, hmatcher, -⟩ := Resource.parse_of_mem hr
  unfold Matcher.ofSequences at hmatcher
  split at hmatcher
  · exact absurd hmatcher (by simp)
  · split at hmatcher
    · rw [RunsOn, ← Except.ok.inj hmatcher]
      trivial
    · rw [bind_eq_ok] at hmatcher
      obtain ⟨alternatives, halternatives, hmatcher⟩ := hmatcher
      rw [RunsOn, ← Except.ok.inj hmatcher]
      intro a ha
      obtain ⟨segments, -, hof⟩ := mem_of_mapM_ok halternatives a ha
      exact RegexAlternative.edition_of_ofSegments hof

section Bounds

variable {text : Text} {pos : Nat}

/-- A match ends in the text, and not before its start. -/
theorem Regex.Expression.ahead_of_matchAt {e : Expression} {t : Trail} (hpos : pos ≤ text.length)
    (h : e.matchAt .current text pos = some t) : InText text t.spot ∧ pos ≤ t.spot.position := by
  let p := Point.ofText text pos
  let s : Setting := ⟨e.startFlags, false, none, .current⟩
  let region q := InText text q ∧ pos ≤ q.position
  have hskip (q : Point) (n : Nat) (hq : region q) : region (q.skip n) :=
    ⟨hq.1.skip n, Nat.le_trans hq.2 (q.position_le_skip n)⟩
  have hwithin : e.tree.simplified.Within .current region false e.startFlags :=
    Node.within_of_closed hskip (by simp) _ _
  have hkeeps : (e.tree.simplified.run s).Keeps region [] false :=
    e.tree.simplified.run_keeps s hwithin (Node.groupsFrom_zero _) (by simp)
  have hstart : region p :=
    ⟨InText.ofText text pos, Nat.le_of_eq (Point.ofText_position hpos).symm⟩
  have hends := hkeeps (fun u => region u.spot) p ⟨p, []⟩ (fun q u => .matched (u.note q)) hstart
    ⟨nofun, by simp⟩ fun q u hq _ => hq
  rw [Expression.matchAt, Expression.search] at h
  split at h
  · exact absurd h (by simp [Outcome.trail?])
  · simp only [if_true] at h
    change (e.tree.simplified.run s p ⟨p, []⟩ fun q u => .matched (u.note q)).trail? = some t at h
    cases hrun : e.tree.simplified.run s p ⟨p, []⟩ fun q u => .matched (u.note q) with
    | failed u =>
      rw [hrun] at h
      exact absurd h (by simp [Outcome.trail?])
    | matched u =>
      rw [hrun] at h hends
      obtain rfl := Option.some.inj h
      exact hends

/-- What a match consumes is a part of what is left of the path. -/
theorem Resource.bounds_of_matchAt {r : Resource} {result : MatchResult} (hruns : r.RunsOn .current)
    (hpos : pos ≤ text.length) (h : r.matchAt text (pos : Int) = .ok (some result)) :
    0 ≤ result.consumed ∧ pos + result.consumed ≤ text.length := by
  rw [Resource.matchAt] at h
  rw [Resource.RunsOn] at hruns
  cases hmatcher : r.matcher with
  | static alternatives extent =>
    rw [hmatcher] at h
    obtain ⟨a, -, hmatch⟩ := StaticAlternative.exists_of_firstMatch h
    obtain ⟨stop, hle, hstop, rfl, -⟩ := a.ends_of_matchAt hpos hmatch
    dsimp only
    omega
  | regex alternatives extent =>
    rw [hmatcher] at h hruns
    rw [Matcher.matchAt] at h
    split at h
    · obtain ⟨a, ha, t, captures, ht, -, -, rfl, -⟩ := RegexAlternative.exists_of_firstMatch hpos h
      rw [hruns a ha] at ht
      obtain ⟨htext, hahead⟩ := Expression.ahead_of_matchAt hpos ht
      have hend := htext.position_le
      dsimp only
      omega
    · exact absurd h (by simp)

/-- On the early engine a match can end before its start, and then asks to go back. -/
example : ((Resource.ofPatterns { Config.standard with edition := .early } .exact none
    ["/{a:(?#[)[](?#[)x](?#[^)(?:(?<=aaaaa)q)*+(?#])|((?#[)[](((])}".toList]).toOption.bind fun r =>
      (r.matchAt "/a/)x".toList 2).toOption.map (Option.map MatchResult.consumed)) =
    some (some (-2)) := by
  decide +kernel

end Bounds

end PathRouter
