import PathRouter.Proofs.Requoting

/-!
# Requoting keeps the division of a path

A separator that is protected, and that is neither a percent sign nor a digit, stands between the
same pieces before and after requoting. No escape reaches across it, since it is no digit, and
whether a percent sign before it is bare is decided by what stands before it alone. No new separator
comes up: its own escapes are kept, and what is written for a bare percent sign holds digits only.
-/

namespace PathRouter.Percent
set_option autoImplicit false

variable {b : UInt8}

/-- Bytes are read by themselves before a byte that is neither a percent sign nor a digit. -/
theorem pieces_append_cons (hb : b ≠ sign) (hdigit : hexValue? b = none) (x y : Bytes) :
    pieces (x ++ b :: y) = pieces x ++ .plain b :: pieces y := by
  fun_induction pieces x with
  | case1 => exact pieces_plain hb y
  | case2 high low after v hv ih =>
    rw [List.cons_append, List.cons_append, List.cons_append, pieces_escape hv, ih, List.cons_append]
  | case3 high low after hnone ih =>
    have hbare := pieces_bare (x := high :: low :: after ++ b :: y) (by simpa using hnone)
    rw [List.cons_append, hbare, ih, List.cons_append]
  | case4 last ih =>
    have hbare := pieces_bare (x := [last] ++ b :: y) (by simp [escaped?_right hdigit])
    rw [List.cons_append, hbare, ih, List.cons_append]
  | case5 =>
    have hbare : pieces (sign :: b :: y) = .bare :: pieces (b :: y) := by
      apply pieces_bare
      rintro high low rest ⟨⟩
      exact escaped?_left hdigit low
    rw [List.singleton_append, hbare, pieces_plain hb]
    rfl
  | case6 c rest hc ih => rw [List.cons_append, pieces_plain hc, ih, List.cons_append]

/-- An escape is written with a percent sign and digits only. -/
theorem not_mem_escapeByte (hb : b ≠ sign) (hdigit : hexValue? b = none) (v : UInt8) :
    b ∉ escapeByte v := by
  have hwritten {n : Nat} (hn : n < 16) : b ≠ hexDigit n := by
    rintro rfl
    exact absurd (hdigit.symm.trans (hexValue?_hexDigit hn)) (by simp)
  have hlt : v.toNat < 256 := v.toNat_lt
  simp only [escapeByte, List.mem_cons, List.not_mem_nil, or_false, not_or]
  exact ⟨hb, hwritten (by omega), hwritten (by omega)⟩

namespace Protection

variable (p : Protection) (asciiOnly : Bool)

/-- What stands before and after a separator is requoted by itself. -/
theorem requoted_append_cons (hb : b ≠ sign) (hdigit : hexValue? b = none) (x y : Bytes) :
    p.requoted asciiOnly (x ++ b :: y) =
      p.requoted asciiOnly x ++ b :: p.requoted asciiOnly y := by
  rw [requoted, pieces_append_cons hb hdigit, List.flatMap_append, List.flatMap_cons]
  rfl

/-- Where a protected separator divides bytes, it divides their requoted form into the requoted
forms of what it divides the bytes into, one for one and in the same order. -/
theorem splitOn_requote? (hkept : p.protects b = true) (hb : b ≠ sign) (hdigit : hexValue? b = none)
    (x : Bytes) :
    ((p.requote? asciiOnly x).getD x).splitOn b =
      (x.splitOn b).map fun y => (p.requote? asciiOnly y).getD y := by
  simp only [requote?_getD]
  -- the induction goes from the whole to what stands before and after one of the separators
  induction hlength : x.length using Nat.strongRecOn generalizing x with
  | ind n ih =>
    by_cases hmem : b ∈ x
    · obtain ⟨before, after, rfl⟩ := List.append_of_mem hmem
      rw [List.length_append, List.length_cons] at hlength
      rw [requoted_append_cons _ _ hb hdigit, List.splitOn_append_cons_self,
        List.splitOn_append_cons_self, List.map_append, ih before.length (by omega) before rfl,
        ih after.length (by omega) after rfl]
    · have hnone : b ∉ p.requoted asciiOnly x :=
        mt (p.mem_of_mem_requoted asciiOnly hkept (not_mem_escapeByte hb hdigit sign)) hmem
      rw [List.splitOn_eq_singleton hnone, List.splitOn_eq_singleton hmem, List.map_singleton]

/-- The escape that the first slash breaks off is none, the second piece has a slash that stays
encoded, and a percent sign stands at the end. -/
theorem splitOn_requote?_slash :
    let slash : UInt8 := 0x2F
    let path := Utf8.encode "a%2/%41%2F/%".toList
    standard.protects slash = true ∧ slash ≠ sign ∧ hexValue? slash = none ∧
      ((standard.requote? false path).getD path).splitOn slash =
        ["a%252".toList, "A%2F".toList, "%25".toList].map Utf8.encode := by
  intro slash path
  have hkept : standard.protects slash = true := by decide
  have hsign : slash ≠ sign := by decide
  have hdigit : hexValue? slash = none := by decide
  refine ⟨hkept, hsign, hdigit, ?_⟩
  rw [splitOn_requote? standard false hkept hsign hdigit path]
  decide +kernel

end Protection

end PathRouter.Percent
