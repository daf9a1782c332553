import PathRouter.Proofs.JoinedMatch

/-!
# Joining is associative

Three resources give the same resource whether they are joined from the left or from the right. Of
the first two only the canonical patterns count; all else is that of the third. Which seam is made
first does not matter to the slash that is dropped at the other, even where the two seams meet
because the pattern between them is empty or a single slash.
-/

namespace PathRouter
set_option autoImplicit false

open Resource (joinPatterns)

/-! ## Three patterns -/

section Patterns

variable {left right : Text}

theorem joinPatterns_nil_left (right : Text) : joinPatterns [] right = right :=
  joinPatterns_of_getLast? (by simp) right

theorem joinPatterns_nil_right (left : Text) : joinPatterns left [] = left := by
  rw [joinPatterns, if_neg (by simp), List.append_nil]

/-- Where the first pattern ends in a slash, a slash after it changes nothing. -/
theorem joinPatterns_slash_of_getLast? (h : left.getLast? = some '/') :
    joinPatterns left ['/'] = left := by
  rw [joinPatterns, if_pos ⟨h, rfl⟩, List.drop_one, List.tail_cons, List.append_nil]

/-- Of a slash and the pattern after it, what is added to a pattern that ends in a slash is what the
pattern after it adds alone. -/
theorem joinPatterns_joinPatterns_slash (h : left.getLast? = some '/') (right : Text) :
    joinPatterns left (joinPatterns ['/'] right) = joinPatterns left right := by
  by_cases hright : right.head? = some '/'
  · have hslash : joinPatterns ['/'] right = '/' :: right.drop 1 := if_pos ⟨rfl, hright⟩
    rw [hslash, joinPatterns, joinPatterns, if_pos ⟨h, rfl⟩, if_pos ⟨h, hright⟩]
    rfl
  · have hslash : joinPatterns ['/'] right = '/' :: right := if_neg fun hboth => hright hboth.2
    rw [hslash, joinPatterns, joinPatterns, if_pos ⟨h, rfl⟩, if_neg fun hboth => hright hboth.2]
    rfl

theorem joinPatterns_assoc (a b c : Text) :
    joinPatterns (joinPatterns a b) c = joinPatterns a (joinPatterns b c) := by
  cases b with
  | nil => rw [joinPatterns_nil_right, joinPatterns_nil_left]
  | cons d b =>
    cases b with
    | cons e b =>
      -- two characters or more keep the seams apart
      have hne : e :: b ≠ [] := List.cons_ne_nil e b
      calc joinPatterns (joinPatterns a ([d] ++ e :: b)) c
        _ = joinPatterns (joinPatterns a [d] ++ e :: b) c := by
          rw [joinPatterns_append_right a _ (List.cons_ne_nil d [])]
        _ = joinPatterns a [d] ++ joinPatterns (e :: b) c := joinPatterns_append hne c
        _ = joinPatterns a ([d] ++ joinPatterns (e :: b) c) := by
          rw [joinPatterns_append_right a _ (List.cons_ne_nil d [])]
        _ = joinPatterns a (joinPatterns ([d] ++ e :: b) c) := by rw [joinPatterns_append hne]
    | nil =>
      by_cases hboth : a.getLast? = some '/' ∧ d = '/'
      · obtain ⟨ha, rfl⟩ := hboth
        rw [joinPatterns_slash_of_getLast? ha, joinPatterns_joinPatterns_slash ha]
      · -- the first seam keeps the one character, and the second begins after it
        have hkept (after : Text) : joinPatterns a (d :: after) = a ++ d :: after :=
          if_neg fun h => hboth ⟨h.1, Option.some.inj h.2⟩
        obtain ⟨rest, hrest⟩ : ∃ rest, joinPatterns [d] c = d :: rest := by
          unfold joinPatterns
          split
          · exact ⟨_, rfl⟩
          · exact ⟨_, rfl⟩
        rw [hkept, joinPatterns_append (List.cons_ne_nil d []), hrest, hkept]

end Patterns

/-! ## Three resources -/

section Resources

variable {a b c ab bc : Resource}

/-- A joined resource has all but its patterns from the second of the two. -/
theorem Resource.eq_of_join (h : a.join b = .ok ab) :
    ab.patterns = b.patterns.map (joinPatterns a.pattern) ∧ ab.extent = b.extent ∧
      ab.name = b.name ∧ ab.config = b.config := by
  obtain ⟨hpatterns, hextent, hconfig, hname, -⟩ := Resource.eq_of_ofPatterns h
  exact ⟨hpatterns, hextent, hname, hconfig⟩

/-- The canonical pattern of a joined resource is joined from the canonical patterns. There is one,
since a resource without patterns is not built. -/
theorem Resource.pattern_of_join (h : a.join b = .ok ab) :
    ab.pattern = joinPatterns a.pattern b.pattern := by
  obtain ⟨hpatterns, -, -, -, hparsed⟩ := Resource.eq_of_ofPatterns h
  cases hb : b.patterns with
  | nil =>
    rw [hb] at hparsed
    exact absurd hparsed (by simp [Pattern.parseAll, Pattern.refuse])
  | cons p patterns =>
    rw [Resource.pattern, hpatterns, hb, List.map_cons, List.headD_cons]
    simp only [Resource.pattern, hb, List.headD_cons]

/-- Joining is associative. If a resource can be joined with a second and the second with a third,
then all three can be joined from the left with the same result as from the right, or both ways fail
alike. The result has a pattern for each of the third, below the canonical patterns of the other
two, and takes its extent, name and configuration from the third. -/
theorem Resource.join_join (hab : a.join b = .ok ab) (hbc : b.join c = .ok bc) :
    ab.join c = a.join bc ∧ ∀ abc, ab.join c = .ok abc →
      abc.patterns = c.patterns.map (fun p => joinPatterns a.pattern (joinPatterns b.pattern p)) ∧
        abc.extent = c.extent ∧ abc.name = c.name ∧ abc.config = c.config := by
  have hseams : joinPatterns ab.pattern = joinPatterns a.pattern ∘ joinPatterns b.pattern := by
    funext p
    rw [Resource.pattern_of_join hab, joinPatterns_assoc]
    rfl
  constructor
  · obtain ⟨hpatterns, hextent, hname, hconfig⟩ := Resource.eq_of_join hbc
    rw [Resource.join, Resource.join, hpatterns, hextent, hname, hconfig, List.map_map, hseams]
  · intro abc habc
    obtain ⟨hpatterns, hkept⟩ := Resource.eq_of_join habc
    rw [hseams] at hpatterns
    exact ⟨hpatterns, hkept⟩

/-- The root stands between two resources, and the seams meet at its slash. Its second pattern is
not used. -/
theorem Resource.join_join_root :
    ∃ a b c ab bc abc,
      Resource.ofPatterns .standard .leading none ["/api/".toList] = .ok a ∧
      Resource.ofPatterns .standard .leading none ["/".toList, "/v2".toList] = .ok b ∧
      Resource.ofPatterns .standard .exact (some "user".toList) ["/users/{id}".toList, "x".toList] =
        .ok c ∧
      a.join b = .ok ab ∧ b.join c = .ok bc ∧ ab.join c = .ok abc ∧ a.join bc = .ok abc ∧
      abc.patterns = ["/api/users/{id}".toList, "/api/x".toList] ∧
      abc.name = some "user".toList := by
  have hrun : (do
      let a ← (Resource.ofPatterns .standard .leading none ["/api/".toList]).toOption
      let b ← (Resource.ofPatterns .standard .leading none ["/".toList, "/v2".toList]).toOption
      let c ← (Resource.ofPatterns .standard .exact (some "user".toList)
        ["/users/{id}".toList, "x".toList]).toOption
      let ab ← (a.join b).toOption
      let bc ← (b.join c).toOption
      let abc ← (ab.join c).toOption
      return (a.pattern, b.pattern, c.patterns, abc.name)) =
      some ("/api/".toList, "/".toList, ["/users/{id}".toList, "x".toList],
        some "user".toList) := by decide +kernel
  obtain ⟨a, ha, hrun⟩ := Option.bind_eq_some_iff.1 hrun
  obtain ⟨b, hb, hrun⟩ := Option.bind_eq_some_iff.1 hrun
  obtain ⟨c, hc, hrun⟩ := Option.bind_eq_some_iff.1 hrun
  obtain ⟨ab, hab, hrun⟩ := Option.bind_eq_some_iff.1 hrun
  obtain ⟨bc, hbc, hrun⟩ := Option.bind_eq_some_iff.1 hrun
  obtain ⟨abc, habc, hrun⟩ := Option.bind_eq_some_iff.1 hrun
  simp only [Option.pure_def, Option.some.injEq, Prod.mk.injEq] at hrun
  obtain ⟨hpattern, hroot, hpatterns, hname⟩ := hrun
  replace hab := eq_ok_of_toOption hab
  replace hbc := eq_ok_of_toOption hbc
  replace habc := eq_ok_of_toOption habc
  obtain ⟨hassoc, hmade⟩ := Resource.join_join hab hbc
  obtain ⟨hjoined, -⟩ := hmade abc habc
  refine ⟨a, b, c, ab, bc, abc, eq_ok_of_toOption ha, eq_ok_of_toOption hb, eq_ok_of_toOption hc,
    hab, hbc, habc, hassoc.symm.trans habc, ?_, hname⟩
  rw [hjoined, hpattern, hroot, hpatterns]
  decide

end Resources

end PathRouter
