import PathRouter.Proofs.ExpressionLimits
import PathRouter.Proofs.GuardSound

/-!
# The guard beside the reader

Whatever the guard finds, it has as many groups open as the reader, and stands where the reader does
but for characters of quantifiers. So a scan that rejects nothing ends well: it closes no group too
often, and it counts no more digits than the reader may. Only a comment with brackets in it brings
them apart.
-/

namespace PathRouter.Guard
set_option autoImplicit false

open Regex

variable {r : Except Stop Unit} {marks : Marks} {outer : List Marks} {c : Char} {s t u rest : Text}

/-! ## Numerals within the limits -/

theorem countOf_of_length_le {digits : Text} (h : digits.length ≤ Text.maxDigits) :
    ∃ n, countOf digits = .ok n :=
  ⟨_, if_neg (Nat.not_lt.2 h)⟩

theorem length_of_numeralFits (h : numeralFits s = true) :
    (spanDigits s).1.length ≤ Text.maxDigits :=
  of_decide_eq_true (Bool.and_eq_true_iff.1 h).1

theorem braces?_of_boundsFit (h : boundsFit s = true) : ∃ found, braces? s = .ok found := by
  rw [boundsFit, Bool.and_eq_true] at h
  obtain ⟨n, hn⟩ := countOf_of_length_le (length_of_numeralFits h.1)
  unfold braces?
  dsimp only
  split
  · rw [hn]
    split
    · exact ⟨_, rfl⟩
    · exact ⟨_, rfl⟩
  · rename_i afterComma hcomma
    have hhigh : numeralFits afterComma = true := by
      have := h.2
      rwa [show s.dropWhile (fun c => CodePoint.isDecimal c.toNat) = _ from hcomma] at this
    obtain ⟨m, hm⟩ := countOf_of_length_le (length_of_numeralFits hhigh)
    rw [hm]
    split
    · split
      · exact ⟨_, rfl⟩
      · exact ⟨_, rfl⟩
    · exact ⟨_, rfl⟩
  · exact ⟨_, rfl⟩

/-- Within the limits the guard can tell whether a quantifier comes. -/
theorem quantifier?_of_staysInLimits (h : staysInLimits s = true) :
    ∃ found, quantifier? s = .ok found := by
  cases s with
  | nil => exact ⟨_, rfl⟩
  | cons c s =>
    rw [quantifier?]
    split
    · exact ⟨_, rfl⟩
    · split
      · exact ⟨_, rfl⟩
      · split
        · rename_i hbrace
          subst hbrace
          rw [staysInLimits_char (by decide), Bool.and_eq_true] at h
          obtain ⟨found, hfound⟩ := braces?_of_boundsFit h.1
          rw [hfound]
          exact ⟨_, rfl⟩
        · exact ⟨_, rfl⟩

/-- A scan within the limits is not broken off by a numeral. -/
theorem ending_of_limits (hr : ∀ reason, r ≠ .error (.rejected reason)) :
    Ending r fun s => staysInLimits s = true where
  unrejected := hr
  char := by
    intro c s hc h
    rw [staysInLimits_char hc] at h
    exact (Bool.and_eq_true_iff.1 h).2
  escape := fun h => (Bool.and_eq_true_iff.1 h).2
  counted := by
    intro s failure hs hfailure
    obtain ⟨found, hfound⟩ := quantifier?_of_staysInLimits hs
    exact absurd (hfound.symm.trans hfailure) (by simp)

/-! ## Side by side -/

/-- The reader has come to `s`. The guard is there or past characters of quantifiers, with as many
groups open, and ends with the result `r`. -/
def IsAbreast (r : Except Stop Unit) (p : Progress) (s : Text) : Prop :=
  ∃ marks outer w t, s = w ++ t ∧ (∀ c ∈ w, isQuantifying c = true) ∧
    outer.length = p.outer.length ∧ Yields r ⟨marks, outer, false⟩ t

theorem not_special_of_isQuantifying (h : isQuantifying c = true) :
    c ≠ '\\' ∧ c ≠ '[' ∧ isSpecial c = false := by
  have hne : ∀ d ∈ ['\\', '[', '(', ')', '|', '\n'], c ≠ d := by
    rintro d hd rfl
    exact absurd (h.symm.trans (not_isQuantifying c hd)) (by simp)
  simp only [List.forall_mem_cons] at hne
  exact ⟨hne.1, hne.2.1, by simp [isSpecial, hne]⟩

/-- The guard goes past characters of quantifiers, and perhaps past more of them. -/
theorem Yields.quantifying (hr : Ending r fun s => staysInLimits s = true)
    (hs : staysInLimits (u ++ s) = true) (hu : ∀ c ∈ u, isQuantifying c = true)
    (h : Yields r ⟨marks, outer, false⟩ (u ++ s)) :
    ∃ marks' w t, s = w ++ t ∧ (∀ c ∈ w, isQuantifying c = true) ∧
      Yields r ⟨marks', outer, false⟩ t := by
  induction hlen : u.length using Nat.strongRecOn generalizing u marks with
  | _ length ih =>
  cases u with
  | nil => exact ⟨marks, [], s, rfl, by simp, h⟩
  | cons c u =>
    have hu' := List.forall_mem_cons.1 hu
    obtain ⟨hesc, -, hspecial⟩ := not_special_of_isQuantifying hu'.1
    obtain ⟨found, hfound⟩ := h.exists_found hr hs hspecial
    cases found with
    | none =>
      exact ih u.length (by simp [← hlen]) (hr.char hesc hs) hu'.2 (h.char hspecial hfound) rfl
    | some x =>
      obtain ⟨repetition, after⟩ := x
      have hafter := h.quantified hspecial hfound
      obtain ⟨d, used, he, hd, hused⟩ := quantifier?_used hfound
      have htail : u ++ s = used ++ after := (List.cons.inj he).2
      obtain rfl : c = d := (List.cons.inj he).1
      rcases List.append_eq_append_iff.1 htail with ⟨w, rfl, rfl⟩ | ⟨v, rfl, rfl⟩
      · exact ⟨_, w, after, rfl, (List.forall_mem_append.1 hused).2, hafter⟩
      · have hquantifying : ∀ e ∈ c :: used, isQuantifying e = true :=
          List.forall_mem_cons.2 ⟨hd, hused⟩
        have hword : ∀ e ∈ c :: used, e ≠ '\\' := fun e he =>
          (not_special_of_isQuantifying (hquantifying e he)).1
        have hlimits : staysInLimits ((c :: used) ++ (v ++ s)) = true := by simpa using hs
        refine ih v.length ?_ (hr.word hword hlimits) (List.forall_mem_append.1 hu'.2).2 hafter rfl
        rw [← hlen, List.length_cons, List.length_append]
        exact Nat.lt_succ_of_le (Nat.le_add_left _ _)

section Steps

variable {p q : Progress}

/-- Before anything but a character of quantifiers the guard stands where the reader does. -/
theorem IsAbreast.here (h : IsAbreast r p (c :: s)) (hc : isQuantifying c = false) :
    ∃ marks outer, outer.length = p.outer.length ∧ Yields r ⟨marks, outer, false⟩ (c :: s) := by
  obtain ⟨marks, outer, w, t, he, hw, houter, hyields⟩ := h
  cases w with
  | nil => exact ⟨marks, outer, houter, he ▸ hyields⟩
  | cons d w =>
    obtain ⟨rfl, -⟩ := List.cons.inj he
    exact absurd (hc.symm.trans (hw c (by simp))) (by simp)

/-- The reader goes past characters of quantifiers. -/
theorem IsAbreast.past (h : IsAbreast r p (u ++ rest))
    (hr : Ending r fun s => staysInLimits s = true) (hs : staysInLimits (u ++ rest) = true)
    (hu : ∀ c ∈ u, isQuantifying c = true) (hq : q.outer.length = p.outer.length) :
    IsAbreast r q rest := by
  obtain ⟨marks, outer, w, t, he, hw, houter, hyields⟩ := h
  have houter' := houter.trans hq.symm
  rcases List.append_eq_append_iff.1 he with ⟨v, rfl, rfl⟩ | ⟨v, rfl, rfl⟩
  · exact ⟨marks, outer, v, t, rfl, (List.forall_mem_append.1 hw).2, houter', hyields⟩
  · have ht : staysInLimits (v ++ rest) = true := by
      refine hr.word (w := w) (fun e he => (not_special_of_isQuantifying (hw e he)).1) ?_
      simpa using hs
    obtain ⟨marks', w', t', rfl, hw', hyields'⟩ :=
      hyields.quantifying hr ht (List.forall_mem_append.1 hu).2
    exact ⟨marks', outer, w', t', rfl, hw', houter', hyields'⟩

/-- A character that is read by itself, and means nothing to the guard or begins a quantifier. -/
theorem IsAbreast.char (h : IsAbreast r p (c :: s))
    (hr : Ending r fun s => staysInLimits s = true) (hs : staysInLimits (c :: s) = true)
    (hc : isPlain c = true ∨ isQuantifying c = true) (hq : q.outer.length = p.outer.length) :
    IsAbreast r q s := by
  by_cases hquantifying : isQuantifying c = true
  · exact IsAbreast.past (u := [c]) h hr hs (List.forall_mem_singleton.2 hquantifying) hq
  · obtain ⟨marks, outer, houter, hyields⟩ := h.here (Bool.eq_false_iff.2 hquantifying)
    have hplain := hc.resolve_right hquantifying
    exact ⟨marks, outer, [], s, rfl, by simp, houter.trans hq.symm, hyields.plain hplain⟩

theorem IsAbreast.escape (h : IsAbreast r p ('\\' :: c :: s))
    (hr : Ending r fun s => staysInLimits s = true) {n : Node}
    (hn : readEscape p.surroundings c s = .ok (n, rest)) :
    IsAbreast r (p.add n) rest := by
  obtain ⟨marks, outer, houter, hyields⟩ := h.here (by decide)
  obtain ⟨hafter, hnumber⟩ := hyields.escape hr
  obtain ⟨used, rfl, hused⟩ := readEscape_used hn fun ⟨hdigit, hzero⟩ =>
    hnumber ⟨isAnyDigit_of_isDigit hdigit, hzero⟩
  exact ⟨marks, outer, [], rest, rfl, by simp, houter, hafter.escapeTail hused⟩

theorem IsAbreast.class (h : IsAbreast r p ('[' :: s)) {test : CharTest} (hs : s ≠ ['\\'])
    (hread : readClass s = .ok (test, rest)) :
    IsAbreast r (p.add (.char test)) rest := by
  obtain ⟨-, body, hsplit⟩ := readClass_split hs hread
  obtain ⟨marks, outer, houter, hyields⟩ := h.here (by decide)
  exact ⟨marks, outer, [], rest, rfl, by simp, houter, hyields.class hsplit⟩

/-- A parenthesis that closes a group of the guard, perhaps with a quantifier. -/
theorem IsAbreast.of_closing (hr : Ending r fun s => staysInLimits s = true)
    (hs : staysInLimits s = true) {parent : Marks}
    (h : Yields r ⟨marks, parent :: outer, false⟩ (')' :: s)) (hq : outer.length = q.outer.length) :
    IsAbreast r q s := by
  obtain ⟨found, hfound, -, ⟨hnil, -⟩ | ⟨parent', around, he, hyields⟩⟩ := h.closing hr hs
  · exact absurd hnil (by simp)
  obtain ⟨rfl, rfl⟩ := List.cons.inj he
  cases found with
  | none => exact ⟨_, outer, [], s, rfl, by simp, hq, hyields⟩
  | some x =>
    obtain ⟨repetition, t⟩ := x
    obtain ⟨c, used, rfl, hc, hused⟩ := quantifier?_used hfound
    exact ⟨_, outer, c :: used, t, rfl, List.forall_mem_cons.2 ⟨hc, hused⟩, hq, hyields⟩

theorem IsAbreast.close {f : Frame} {fs : List Frame} (h : IsAbreast r p (')' :: s))
    (hr : Ending r fun s => staysInLimits s = true) (hs : staysInLimits s = true)
    (houter : p.outer = f :: fs) : IsAbreast r (p.leave f fs) s := by
  obtain ⟨marks, outer, hlength, hyields⟩ := h.here (by decide)
  rw [houter] at hlength
  cases outer with
  | nil => exact absurd hlength (by simp)
  | cons parent outer => exact .of_closing hr hs hyields (Nat.succ.inj hlength)

theorem IsAbreast.line (h : IsAbreast r p ('#' :: s))
    (hr : Ending r fun s => staysInLimits s = true) (hlimits : staysInLimits s = true)
    (hs : s ≠ ['\\']) (hquiet : holdsBefore '\n' brackets s = false)
    (hread : readLine s = .ok rest) : IsAbreast r p rest := by
  obtain ⟨marks, outer, houter, hyields⟩ := h.here (by decide)
  have hinside := hyields.plain (by decide)
  obtain ⟨marks', -, ⟨s', -, he, -, hafter⟩ | ⟨he, hafter⟩⟩ :=
    hinside.skip hr skips_line (by decide) hs hlimits hquiet hread
  · obtain rfl : rest = s' := he
    exact ⟨marks', outer, [], rest, rfl, by simp, houter, hafter.plain (by decide)⟩
  · obtain rfl := Except.ok.inj he
    exact ⟨marks', outer, [], [], rfl, by simp, houter, hafter⟩

/-- The text of a comment, after its group is opened. -/
theorem IsAbreast.of_comment {place : Nat} (hr : Ending r fun s => staysInLimits s = true)
    (hlimits : staysInLimits s = true) (hrest : staysInLimits rest = true) (hs : s ≠ ['\\'])
    (hquiet : holdsBefore ')' brackets s = false)
    (hread : readComment place s = .ok (.comment, rest)) {parent : Marks}
    (h : Yields r ⟨marks, parent :: outer, false⟩ s) (hq : outer.length = q.outer.length) :
    IsAbreast r q rest := by
  obtain ⟨marks', -, ⟨s', -, he, -, hafter⟩ | ⟨he, -⟩⟩ :=
    h.skip hr (skips_comment place) (by decide) hs hlimits hquiet hread
  · obtain rfl := (Prod.mk.inj he).2
    exact .of_closing hr hrest hafter hq
  · exact absurd he fault_ne_ok

theorem IsAbreast.opening {o : Opening} {place : Nat} (h : IsAbreast r p ('(' :: s))
    (hr : Ending r fun s => staysInLimits s = true) (hs : staysInLimits ('(' :: s) = true)
    (hrest : staysInLimits rest = true) (hquiet : strayAt brackets p ('(' :: s) = false)
    (ho : readOpening p.surroundings s = .ok (o, rest)) (hq : p.begin place rest o = .ok q) :
    IsAbreast r q rest := by
  obtain ⟨marks, outer, houter, hyields⟩ := h.here (by decide)
  obtain ⟨hrefused, hinside⟩ := hyields.opening hr
  -- Every other group is opened by the reader as well.
  have henter {f : Frame} (hq : q.outer = f :: p.outer)
      (hafter : Yields r ⟨.clear, marks :: outer, false⟩ rest) : IsAbreast r q rest := by
    refine ⟨_, _, [], rest, rfl, by simp, ?_, hafter⟩
    rw [hq, List.length_cons, List.length_cons, houter]
  cases passedOpening_of_readOpening ho hrefused with
  | capture hhead =>
    obtain rfl := Except.ok.inj hq
    exact henter rfl hinside
  | word hword hne hw =>
    have hafter := hinside.questionMark hne hw
    rcases hword with rfl | ⟨on, off, rfl⟩
    · obtain rfl := Except.ok.inj hq
      exact henter rfl hafter
    · obtain rfl := Except.ok.inj hq
      exact henter rfl hafter
  | @globals w _ on hne hw =>
    have hafter := hinside.questionMark hne hw
    obtain ⟨-, he⟩ := begin_globals hq
    have hq' : q.outer = p.outer := by rw [he]
    exact .of_closing hr hrest hafter (houter.trans (congrArg List.length hq'.symm))
  | @comment s _ place hs' hread =>
    obtain rfl := Except.ok.inj hq
    have hlimits : staysInLimits s = true :=
      hr.word (w := ['(', '?', '#']) (forall_mem_of_all (by decide)) hs
    have hafter := hinside.questionMark (w := ['#']) (by simp)
      (List.forall_mem_singleton.2 (by decide))
    exact .of_comment hr hlimits hrest hs' hquiet hread hafter houter

theorem nextAlternative_outer {left : Nat} (h : p.nextAlternative left = .ok q) :
    q.outer = p.outer := by
  unfold Progress.nextAlternative at h
  split at h
  · exact absurd h fault_ne_ok
  · obtain rfl := Except.ok.inj h
    rfl

/-- One construct is read, and the guard stays abreast. -/
theorem IsAbreast.step (h : IsAbreast r p (c :: s))
    (hr : Ending r fun s => staysInLimits s = true) (hs : staysInLimits (c :: s) = true)
    (hrest : staysInLimits rest = true) (hc : c ≠ ')' ∨ p.outer ≠ [])
    (hquiet : strayAt brackets p (c :: s) = false) (hstep : Regex.step p (c :: s) = .ok (q, rest)) :
    IsAbreast r q rest := by
  cases construct_of_step hstep with
  | backslash =>
    obtain ⟨marks, outer, houter, hyields⟩ := h.here (by decide)
    exact ⟨marks, outer, [], [], rfl, by simp, houter, hyields.after (by simp [Guard.step])⟩
  | escape hn => exact h.escape hr hn
  | bar hq =>
    obtain ⟨marks, outer, houter, hyields⟩ := h.here (by decide)
    rw [← nextAlternative_outer hq] at houter
    exact ⟨_, outer, [], s, rfl, by simp, houter, hyields.bar⟩
  | close houter => exact h.close hr hrest houter
  | blank _ hblank => exact h.char hr hs (.inl (isPlain_of_isAsciiBlank hblank)) rfl
  | line hverbose hs' hread =>
    refine h.line hr (hr.char (by decide) hs) hs' ?_ hread
    simpa [strayAt, hverbose] using hquiet
  | «class» hs' hread => exact h.class hs' hread
  | brace hstart hread =>
    rcases readBounds_cases hstart hread with ⟨-, -, least, he⟩ | ⟨-, -, he⟩ | ⟨rfl, hbraces⟩
    · exact absurd he (by simp)
    · exact absurd he (by simp)
    · obtain rfl := eq_of_readBraces_none hbraces
      exact h.char hr hs (.inr (by decide)) rfl
  | quantifier hstart hb hq =>
    obtain ⟨part, parts, mode, -, -, hmode, rfl⟩ := quantify_eq_ok hq
    obtain ⟨found, hfound⟩ := quantifier?_of_staysInLimits hs
    obtain ⟨repetition, rfl, -⟩ := quantifier?_agrees hstart hb hmode hfound
    obtain ⟨d, used, he, hd, hused⟩ := quantifier?_used hfound
    rw [he] at h hs
    exact h.past hr hs (List.forall_mem_cons.2 ⟨hd, hused⟩) rfl
  | opening hs' ho hq => exact h.opening hr hs hrest hquiet ho hq
  | anchor hc =>
    refine h.char hr hs (.inl ?_) rfl
    rcases hc with rfl | rfl <;> decide
  | char hother hstart hclose =>
    refine h.char hr hs (.inl ?_) rfl
    have hright : c ≠ ')' := fun he => hc.elim (· he) (· (hclose he))
    simp only [List.mem_cons, List.not_mem_nil, or_false, not_or] at hother
    simp [isPlain, isSpecial, hstart, hother, hright]

/-- The guard stays abreast of the reader to its end. -/
theorem IsAbreast.run {start : Text} {end' : Progress × Text} (h : IsAbreast r p s)
    (hr : Ending r fun s => staysInLimits s = true) (hstart : staysInLimits start = true)
    (hs : Tokenwise start s) (hquiet : everyConstruct (fun p s => !strayAt brackets p s) p s = true)
    (hread : readConstructs p s = .ok end') :
    IsAbreast r end'.1 end'.2 := by
  refine ((leads_of_readConstructs hread).keeps_of_every
    (P := fun p s => IsAbreast r p s ∧ Tokenwise start s) hquiet ?_ ⟨h, hs⟩).1
  rintro p q c s rest hc hstep htest ⟨h, hs⟩
  have hs' := hs.step hstep
  exact ⟨h.step hr (hs.staysInLimits hstart) (hs'.staysInLimits hstart) hc (by simpa using htest)
    hstep, hs'⟩

end Steps

end PathRouter.Guard
