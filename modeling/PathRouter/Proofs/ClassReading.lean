import PathRouter.Matcher.Confine
import PathRouter.Proofs.Lockstep

/-!
# Reading bracket classes

The reader of bracket classes and the splitting of a class from its text agree on where a class
ends. A class that is read elsewhere, with the same text between its brackets or with a slash added
at the end of it, ends there as well; in the second case a slash is among its members.
-/

namespace PathRouter.Regex
set_option autoImplicit false

/-! ## What escapes use up -/

theorem readWhile_used {p : Char → Bool} {n : Nat} {s used rest : Text}
    (h : readWhile p n s = .ok (used, rest)) : s = used ++ rest ∧ ∀ c ∈ used, p c = true := by
  fun_induction readWhile p n s generalizing used rest with
  | case1 =>
    obtain ⟨rfl, rfl⟩ := Prod.mk.inj (Except.ok.inj h)
    simp
  | case2 =>
    obtain ⟨rfl, rfl⟩ := Prod.mk.inj (Except.ok.inj h)
    simp
  | case3 n c s hc ih =>
    obtain ⟨⟨⟩, -, h⟩ := bind_eq_ok_iff.1 h
    obtain ⟨⟨more, r⟩, hmore, h⟩ := bind_eq_ok_iff.1 h
    obtain ⟨rfl, rfl⟩ := Prod.mk.inj (Except.ok.inj h)
    obtain ⟨rfl, hall⟩ := ih hmore
    exact ⟨rfl, by simpa [hc] using hall⟩
  | case4 =>
    obtain ⟨rfl, rfl⟩ := Prod.mk.inj (Except.ok.inj h)
    simp

/-- A name without backslash is followed by its terminator. -/
theorem readUntil_used {stop : Char} {what : String} {done s name rest : Text}
    (h : readUntil stop what done s = .ok (name, rest)) (hname : '\\' ∉ name) :
    done.reverse ++ s = name ++ stop :: rest := by
  fun_induction readUntil stop what done s with
  | case1 => exact absurd h fault_ne_ok
  | case2 => exact absurd h fault_ne_ok
  | case3 done c s ih =>
    obtain ⟨⟨⟩, -, h⟩ := bind_eq_ok_iff.1 h
    obtain ⟨more, rfl⟩ := readUntil_append_done h
    exact absurd hname (by simp)
  | case4 done c s _ ih =>
    obtain ⟨⟨⟩, -, h⟩ := bind_eq_ok_iff.1 h
    by_cases hc : c = stop
    · rw [if_pos hc] at h
      split at h
      · exact absurd h fault_ne_ok
      · obtain ⟨rfl, rfl⟩ := Prod.mk.inj (Except.ok.inj h)
        rw [hc]
    · rw [if_neg hc] at h
      rw [← ih h]
      simp

/-- What follows the letter of an escape: digits, or a name in braces. -/
inductive EscapeTail : Text → Prop
  | digits {used : Text} : (∀ c ∈ used, isHexDigit c = true) → EscapeTail used
  | name {name : Text} : CodePoint.isSpelling name = true →
      EscapeTail ('\x7b' :: name ++ ['\x7d'])

theorem isDigit_of_isOctalDigit {c : Char} (h : isOctalDigit c = true) : isDigit c = true := by
  simp only [isOctalDigit, Bool.and_eq_true, decide_eq_true_eq] at h
  simp only [isDigit, CodePoint.isAsciiDigit, Bool.and_eq_true, decide_eq_true_eq]
  exact ⟨h.1, Nat.le_trans h.2 (by decide)⟩

theorem isHexDigit_of_isOctalDigit {c : Char} (h : isOctalDigit c = true) : isHexDigit c = true := by
  have hdigit : CodePoint.isAsciiDigit c.toNat = true := isDigit_of_isOctalDigit h
  simp [isHexDigit, hdigit]

theorem EscapeTail.octal {used : Text} (h : ∀ c ∈ used, isOctalDigit c = true) : EscapeTail used :=
  .digits fun c hc => isHexDigit_of_isOctalDigit (h c hc)

theorem EscapeTail.not_mem_breaks {used : Text} (h : EscapeTail used) : ∀ c ∈ used, c ∉ breaks := by
  cases h with
  | digits hdigits =>
    intro c hc hb
    have := hdigits c hc
    simp [isHexDigit_break c hb] at this
  | name hspelling =>
    intro c hc
    simp only [List.cons_append, List.mem_cons, List.mem_append, List.not_mem_nil, or_false] at hc
    rcases hc with rfl | hc | rfl
    · decide
    · exact not_mem_breaks_of_isSpelling hspelling c hc
    · decide

theorem readHex_used {c : Char} {count : Nat} {s rest : Text} {code : CodePoint}
    (h : readHex c count s = .ok (code, rest)) : ∃ used, s = used ++ rest ∧ EscapeTail used := by
  obtain ⟨⟨digits, r⟩, hdigits, h⟩ := bind_eq_ok_iff.1 h
  obtain ⟨hs, hall⟩ := readWhile_used hdigits
  dsimp only at h
  repeat' split at h
  · exact absurd h fault_ne_ok
  · exact absurd h (by simp)
  · exact absurd h fault_ne_ok
  · obtain ⟨-, rfl⟩ := Prod.mk.inj (Except.ok.inj h)
    exact ⟨digits, hs, .digits hall⟩

theorem readNamed_used {s rest : Text} {code : CodePoint} (h : readNamed s = .ok (code, rest)) :
    ∃ used, s = used ++ rest ∧ EscapeTail used := by
  unfold readNamed at h
  split at h
  · obtain ⟨⟨⟩, -, h⟩ := bind_eq_ok_iff.1 h
    obtain ⟨⟨name, r⟩, hname, h⟩ := bind_eq_ok_iff.1 h
    cases hcode : CodePoint.ofName? name with
    | none =>
      simp only [hcode] at h
      exact absurd h fault_ne_ok
    | some known =>
      simp only [hcode] at h
      obtain ⟨-, rfl⟩ := Prod.mk.inj (Except.ok.inj h)
      have hspelling := CodePoint.isSpelling_of_ofName? hcode
      have hbreak : '\\' ∉ name := fun hm =>
        not_mem_breaks_of_isSpelling hspelling _ hm (by decide)
      have hused := readUntil_used hname hbreak
      exact ⟨_, by simpa using hused, .name hspelling⟩
  · exact absurd h fault_ne_ok

theorem readOctal_used {c : Char} {s rest : Text} {code : CodePoint}
    (h : readOctal c s = .ok (code, rest)) : ∃ used, s = used ++ rest ∧ EscapeTail used := by
  obtain ⟨⟨digits, r⟩, hdigits, h⟩ := bind_eq_ok_iff.1 h
  obtain ⟨hs, hall⟩ := readWhile_used hdigits
  dsimp only at h
  split at h
  · exact absurd h fault_ne_ok
  · obtain ⟨-, rfl⟩ := Prod.mk.inj (Except.ok.inj h)
    exact ⟨digits, hs, .octal hall⟩

theorem EscapeTail.nil : EscapeTail [] :=
  .digits (by simp)

theorem readClassEscape_used {c : Char} {s rest : Text} {m : Member}
    (h : readClassEscape c s = .ok (m, rest)) : ∃ used, s = used ++ rest ∧ EscapeTail used := by
  unfold readClassEscape at h
  split at h
  · obtain ⟨-, rfl⟩ := Prod.mk.inj (Except.ok.inj h)
    exact ⟨[], rfl, .nil⟩
  · obtain ⟨-, rfl⟩ := Prod.mk.inj (Except.ok.inj h)
    exact ⟨[], rfl, .nil⟩
  · obtain ⟨⟨code, r⟩, hcode, h⟩ := bind_eq_ok_iff.1 h
    obtain ⟨-, rfl⟩ := Prod.mk.inj (Except.ok.inj h)
    exact readHex_used hcode
  · split at h
    · obtain ⟨⟨code, r⟩, hcode, h⟩ := bind_eq_ok_iff.1 h
      obtain ⟨-, rfl⟩ := Prod.mk.inj (Except.ok.inj h)
      exact readNamed_used hcode
    · split at h
      · obtain ⟨⟨code, r⟩, hcode, h⟩ := bind_eq_ok_iff.1 h
        obtain ⟨-, rfl⟩ := Prod.mk.inj (Except.ok.inj h)
        exact readOctal_used hcode
      · split at h
        · exact absurd h fault_ne_ok
        · obtain ⟨-, rfl⟩ := Prod.mk.inj (Except.ok.inj h)
          exact ⟨[], rfl, .nil⟩

/-! ## Where a class ends -/

open Confine

/-- No bracket of the text ends a class. -/
def Passes (used : Text) : Prop :=
  ∀ rest, splitMembers (used ++ rest) = (splitMembers rest).map fun x => (used ++ x.1, x.2)

namespace Passes

theorem nil : Passes [] := by
  intro rest
  cases h : splitMembers rest <;> simp [h]

theorem append {used more : Text} (h : Passes used) (h' : Passes more) : Passes (used ++ more) := by
  intro rest
  rw [List.append_assoc, h, h', Option.map_map]
  simp [Function.comp_def]

theorem escape (c : Char) : Passes ['\\', c] := fun _ => rfl

theorem char {c : Char} (hc : c ≠ '\\') (hc' : c ≠ ']') : Passes [c] := by
  intro rest
  show splitMembers (c :: rest) = _
  rw [splitMembers]
  · rw [if_neg hc']
    rfl
  · exact fun h => absurd h hc

theorem ofWord {used : Text} (h : ∀ c ∈ used, c ∉ breaks) : Passes used := by
  induction used with
  | nil => exact nil
  | cons c used ih =>
    have hc := h c (List.mem_cons_self ..)
    refine (char ?_ ?_).append (ih fun d hd => h d (List.mem_cons_of_mem _ hd))
    · rintro rfl
      exact hc (by decide)
    · rintro rfl
      exact hc (by decide)

theorem head_ne {used : Text} (h : Passes used) : used.head? ≠ some ']' := by
  intro hhead
  obtain ⟨more, rfl⟩ := List.head?_eq_some_iff.1 hhead
  have := h [']']
  simp [splitMembers] at this

end Passes

/-- Two copies of a text that steps can be taken onto. -/
def IsCopy (s t : Text) : Prop :=
  s = t ∧ s ≠ ['\\']

theorem IsCopy.corresponds : Corresponds IsCopy where
  word := by
    rintro c s t - ⟨rfl, -⟩
    exact ⟨s, rfl, fun hs => ⟨rfl, hs⟩⟩
  other := by
    rintro s t hs ⟨rfl, -⟩
    exact hs
  settles := by
    rintro s t ⟨rfl, hs⟩
    exact hs

/-- What a member of a class uses up. Only its first character can be a closing bracket. -/
theorem readMember_used {place : Nat} {s t rest : Text} {m : Member} (hs : s ≠ ['\\'])
    (h : readMember place s = .ok (t, m, rest)) : rest ≠ ['\\'] ∧
      ((∃ used, s = used ++ rest ∧ used ≠ [] ∧ Passes used) ∨ s = ']' :: rest) := by
  unfold readMember at h
  split at h
  · exact absurd h fault_ne_ok
  · rename_i c r
    obtain ⟨⟨⟩, hsettle, h⟩ := bind_eq_ok_iff.1 h
    obtain ⟨⟨m', r'⟩, hr, h⟩ := bind_eq_ok_iff.1 h
    obtain ⟨-, he⟩ := Prod.mk.inj (Except.ok.inj h)
    obtain ⟨-, rfl⟩ := Prod.mk.inj he
    have hcopy : Agrees true (Reads Eq IsCopy) (readClassEscape c r) (readClassEscape c r) :=
      readClassEscape_agrees IsCopy.corresponds c ⟨rfl, settle_eq_ok_iff.1 hsettle⟩
    obtain ⟨used, rfl, htail⟩ := readClassEscape_used hr
    refine ⟨(hcopy.related hr hr).2.2, .inl ⟨['\\', c] ++ used, rfl, by simp, ?_⟩⟩
    exact (Passes.escape c).append (.ofWord htail.not_mem_breaks)
  · rename_i c r hesc
    obtain ⟨⟨⟩, hsettle, h⟩ := bind_eq_ok_iff.1 h
    obtain ⟨-, he⟩ := Prod.mk.inj (Except.ok.inj h)
    obtain ⟨-, rfl⟩ := Prod.mk.inj he
    refine ⟨settle_eq_ok_iff.1 hsettle, ?_⟩
    by_cases hc : c = ']'
    · exact .inr (by rw [hc])
    · refine .inl ⟨[c], rfl, by simp, .char ?_ hc⟩
      rintro rfl
      cases r with
      | nil => exact hs rfl
      | cons d r => exact hesc d r rfl rfl

/-- The body of a class is split off at its start or further on. -/
def splitFrom (first : Bool) : Text → Option (Text × Text) :=
  if first then splitFirst else splitMembers

theorem splitFrom_of_passes (first : Bool) {used rest : Text} (hne : first = true → used ≠ [])
    (h : Passes used) :
    splitFrom first (used ++ rest) = (splitMembers rest).map fun x => (used ++ x.1, x.2) := by
  cases first with
  | false => exact h rest
  | true =>
    show splitFirst (used ++ rest) = _
    rw [splitFirst]
    · exact h rest
    · intro more he
      cases used with
      | nil => exact hne rfl rfl
      | cons c used =>
        obtain ⟨rfl, -⟩ := List.cons.inj he
        exact h.head_ne rfl

theorem splitMembers_end (rest : Text) : splitMembers (']' :: rest) = some ([], rest) := by
  rw [splitMembers]
  · rw [if_pos rfl]
  · exact fun h => absurd h (by decide)

/-- A class that can be split after a member can be split before it. -/
theorem split_of_readMember {place : Nat} {first : Bool} {s t rest body after : Text} {m : Member}
    (hs : s ≠ ['\\']) (hfirst : first = false → s.head? ≠ some ']')
    (h : readMember place s = .ok (t, m, rest)) (hrest : splitMembers rest = some (body, after)) :
    ∃ body', splitFrom first s = some (body', after) := by
  obtain ⟨-, ⟨used, rfl, hne, hpasses⟩ | rfl⟩ := readMember_used hs h
  · exact ⟨used ++ body, by rw [splitFrom_of_passes first (fun _ => hne) hpasses, hrest]; rfl⟩
  · cases first with
    | false => exact absurd rfl (hfirst rfl)
    | true =>
      refine ⟨']' :: body, ?_⟩
      show (splitMembers rest).map _ = _
      rw [hrest]
      rfl

theorem readRange_split {place : Nat} {low : Text} {m : Member} {last : Bool} {s rest : Text}
    {ms : List Member} (hs : s ≠ ['\\']) (h : readRange place low m s = .ok (ms, last, rest)) :
    rest ≠ ['\\'] ∧ (last = true → s = ']' :: rest) ∧
      (last = false → ms ≠ [] ∧
        ∀ body after, splitMembers rest = some (body, after) →
          ∃ body', splitMembers s = some (body', after)) := by
  unfold readRange at h
  split at h
  · obtain ⟨⟨⟩, hsettle, h⟩ := bind_eq_ok_iff.1 h
    obtain ⟨rfl, he⟩ := Prod.mk.inj (Except.ok.inj h)
    obtain ⟨rfl, rfl⟩ := Prod.mk.inj he
    exact ⟨settle_eq_ok_iff.1 hsettle, fun _ => rfl, nofun⟩
  · rename_i hend
    obtain ⟨⟨high, other, r⟩, hhigh, h⟩ := bind_eq_ok_iff.1 h
    obtain ⟨range, -, h⟩ := bind_eq_ok_iff.1 h
    obtain ⟨rfl, he⟩ := Prod.mk.inj (Except.ok.inj h)
    obtain ⟨rfl, rfl⟩ := Prod.mk.inj he
    have hhead : false = false → s.head? ≠ some ']' := by
      intro _ hhead
      obtain ⟨r, rfl⟩ := List.head?_eq_some_iff.1 hhead
      exact hend r rfl
    refine ⟨(readMember_used hs hhigh).1, nofun, fun _ => ⟨by simp, fun body after => ?_⟩⟩
    exact split_of_readMember hs hhead hhigh

/-- An item of a class is followed by what the class is split into after it. -/
theorem readItem_split {place : Nat} {first last : Bool} {s rest : Text} {ms : List Member}
    (hs : s ≠ ['\\']) (h : readItem place first s = .ok (ms, last, rest)) :
    rest ≠ ['\\'] ∧ (last = true → ∃ body, splitFrom first s = some (body, rest)) ∧
      (last = false → ms ≠ [] ∧
        ∀ body after, splitMembers rest = some (body, after) →
          ∃ body', splitFrom first s = some (body', after)) := by
  unfold readItem at h
  split at h
  · rename_i r
    obtain ⟨⟨⟩, hsettle, h⟩ := bind_eq_ok_iff.1 h
    obtain ⟨rfl, he⟩ := Prod.mk.inj (Except.ok.inj h)
    obtain ⟨rfl, rfl⟩ := Prod.mk.inj he
    exact ⟨settle_eq_ok_iff.1 hsettle, fun _ => ⟨[], splitMembers_end r⟩, nofun⟩
  · rename_i hnot
    obtain ⟨⟨low, m, r⟩, hlow, h⟩ := bind_eq_ok_iff.1 h
    have hfirst : first = false → s.head? ≠ some ']' := by
      rintro rfl hhead
      obtain ⟨r, rfl⟩ := List.head?_eq_some_iff.1 hhead
      exact hnot r rfl rfl
    have hbefore {body after : Text} (hsplit : splitMembers r = some (body, after)) :
        ∃ body', splitFrom first s = some (body', after) :=
      split_of_readMember hs hfirst hlow hsplit
    have hr := (readMember_used hs hlow).1
    dsimp only at h
    split at h
    · rename_i r'
      obtain ⟨⟨⟩, hsettle, h⟩ := bind_eq_ok_iff.1 h
      have hr' := settle_eq_ok_iff.1 hsettle
      have hhyphen {body after : Text} (hsplit : splitMembers r' = some (body, after)) :
          ∃ body', splitFrom first s = some (body', after) := by
        have hpasses := Passes.char (c := '-') (by decide) (by decide) r'
        have hcons : splitMembers ('-' :: r') = some ('-' :: body, after) := by
          simpa [hsplit] using hpasses
        exact hbefore hcons
      obtain ⟨hrest, hlast, hmore⟩ := readRange_split hr' h
      refine ⟨hrest, fun he => hhyphen (by rw [hlast he, splitMembers_end]), fun he => ?_⟩
      obtain ⟨hne, hsplit⟩ := hmore he
      refine ⟨hne, fun body after hbody => ?_⟩
      obtain ⟨body', hbody'⟩ := hsplit body after hbody
      exact hhyphen hbody'
    · obtain ⟨rfl, he⟩ := Prod.mk.inj (Except.ok.inj h)
      obtain ⟨rfl, rfl⟩ := Prod.mk.inj he
      exact ⟨hr, nofun, fun _ => ⟨by simp, fun _ _ => hbefore⟩⟩

/-- Where the members end that a class is read with, its text is split. -/
theorem readMembers_split {place : Nat} {done ms : List Member} {s rest : Text} (hs : s ≠ ['\\'])
    (h : readMembers place done s = .ok (ms, rest)) :
    rest ≠ ['\\'] ∧ ∃ body, splitFrom done.isEmpty s = some (body, rest) := by
  fun_induction readMembers place done s with
  | case1 => exact absurd h (by simp)
  | case2 done s ms' r hitem =>
    obtain ⟨-, rfl⟩ := Prod.mk.inj (Except.ok.inj h)
    obtain ⟨hr, hlast, -⟩ := readItem_split hs hitem
    exact ⟨hr, hlast rfl⟩
  | case3 done s ms' r hitem ih =>
    obtain ⟨hr, -, hmore⟩ := readItem_split hs hitem
    obtain ⟨hne, hsplit⟩ := hmore rfl
    obtain ⟨hrest, body, hbody⟩ := ih hr h
    have hdone : (done ++ ms').isEmpty = false := by simp [hne]
    rw [hdone] at hbody
    exact ⟨hrest, hsplit body rest hbody⟩

/-- The reader and the splitting agree on where a class ends. -/
theorem readClass_split {s rest : Text} {test : CharTest} (hs : s ≠ ['\\'])
    (h : readClass s = .ok (test, rest)) :
    rest ≠ ['\\'] ∧ ∃ body, splitClass s = some (body, rest) := by
  unfold readClass at h
  split at h
  · obtain ⟨⟨⟩, hsettle, h⟩ := bind_eq_ok_iff.1 h
    obtain ⟨⟨ms, r⟩, hms, h⟩ := bind_eq_ok_iff.1 h
    obtain ⟨-, rfl⟩ := Prod.mk.inj (Except.ok.inj h)
    obtain ⟨hrest, body, hbody⟩ := readMembers_split (settle_eq_ok_iff.1 hsettle) hms
    exact ⟨hrest, '^' :: body, by simpa [splitClass, splitFrom] using hbody⟩
  · rename_i hcaret
    obtain ⟨⟨ms, r⟩, hms, h⟩ := bind_eq_ok_iff.1 h
    obtain ⟨-, rfl⟩ := Prod.mk.inj (Except.ok.inj h)
    obtain ⟨hrest, body, hbody⟩ := readMembers_split hs hms
    refine ⟨hrest, body, ?_⟩
    rw [splitClass]
    · exact hbody
    · exact fun r => hcaret r

theorem splitMembers_eq {s body after : Text} (h : splitMembers s = some (body, after)) :
    s = body ++ ']' :: after := by
  fun_induction splitMembers s generalizing body after with
  | case1 => exact absurd h (by simp)
  | case2 => exact absurd h (by simp)
  | case3 c s ih =>
    obtain ⟨⟨b, a⟩, hb, he⟩ := Option.map_eq_some_iff.1 h
    obtain ⟨rfl, rfl⟩ := Prod.mk.inj he
    rw [ih hb]
    rfl
  | case4 s _ =>
    obtain ⟨rfl, rfl⟩ := Prod.mk.inj (Option.some.inj h)
    rfl
  | case5 c s _ _ ih =>
    obtain ⟨⟨b, a⟩, hb, he⟩ := Option.map_eq_some_iff.1 h
    obtain ⟨rfl, rfl⟩ := Prod.mk.inj he
    rw [ih hb]
    rfl

theorem splitFirst_eq {s body after : Text} (h : splitFirst s = some (body, after)) :
    s = body ++ ']' :: after := by
  unfold splitFirst at h
  split at h
  · obtain ⟨⟨b, a⟩, hb, he⟩ := Option.map_eq_some_iff.1 h
    obtain ⟨rfl, rfl⟩ := Prod.mk.inj he
    rw [splitMembers_eq hb]
    rfl
  · exact splitMembers_eq h

/-- A class is its body and a closing bracket. -/
theorem splitClass_eq {s body after : Text} (h : splitClass s = some (body, after)) :
    s = body ++ ']' :: after := by
  unfold splitClass at h
  split at h
  · obtain ⟨⟨b, a⟩, hb, he⟩ := Option.map_eq_some_iff.1 h
    obtain ⟨rfl, rfl⟩ := Prod.mk.inj he
    rw [splitFirst_eq hb]
    rfl
  · exact splitFirst_eq h

/-! ## A class with the same body elsewhere -/

/-- A slash is the member, or the last one of a range. -/
def Member.EndsAtSlash (m : Member) : Prop :=
  m = .single 47 ∨ ∃ low, low ≤ 47 ∧ m = .range low 47

/-- What is added to a body. -/
def addedSlash (slashed : Bool) : Text :=
  if slashed then ['/'] else []

/-- Both texts go on with the rest of one body. The first continues with `after` and the second with
`next`, before which a slash may have been added to the body. -/
def SameBody (slashed : Bool) (after next : Text) (first : Bool) (s t : Text) : Prop :=
  ∃ body, splitFrom first s = some (body, after) ∧ t = body ++ addedSlash slashed ++ ']' :: next

section SameBody

variable {total slashed : Bool} {after next s t : Text}

theorem SameBody.close (h : SameBody slashed after next false (']' :: s) t) :
    s = after ∧ t = addedSlash slashed ++ ']' :: next := by
  obtain ⟨body, hbody, rfl⟩ := h
  obtain ⟨rfl, rfl⟩ := Prod.mk.inj (Option.some.inj ((splitMembers_end s).symm.trans hbody))
  exact ⟨rfl, rfl⟩

theorem SameBody.escape {c : Char} (h : SameBody slashed after next false ('\\' :: c :: s) t) :
    ∃ t', t = '\\' :: c :: t' ∧ SameBody slashed after next false s t' := by
  obtain ⟨body, hbody, rfl⟩ := h
  obtain ⟨⟨rest, a⟩, hrest, he⟩ := Option.map_eq_some_iff.1 ((Passes.escape c s).symm.trans hbody)
  obtain ⟨rfl, rfl⟩ := Prod.mk.inj he
  exact ⟨_, rfl, rest, hrest, rfl⟩

theorem SameBody.char {c : Char} (hc : c ≠ '\\') (hc' : c ≠ ']')
    (h : SameBody slashed after next false (c :: s) t) :
    ∃ t', t = c :: t' ∧ SameBody slashed after next false s t' := by
  obtain ⟨body, hbody, rfl⟩ := h
  obtain ⟨⟨rest, a⟩, hrest, he⟩ := Option.map_eq_some_iff.1 ((Passes.char hc hc' s).symm.trans hbody)
  obtain ⟨rfl, rfl⟩ := Prod.mk.inj he
  exact ⟨_, rfl, rest, hrest, rfl⟩

/-- At its start a body may begin with a closing bracket. -/
theorem SameBody.start (h : SameBody slashed after next true s t) :
    (∃ s' t', s = ']' :: s' ∧ t = ']' :: t' ∧ SameBody slashed after next false s' t') ∨
      s.head? ≠ some ']' ∧ SameBody slashed after next false s t := by
  obtain ⟨body, hbody, rfl⟩ := h
  change splitFirst s = _ at hbody
  unfold splitFirst at hbody
  split at hbody
  · rename_i s'
    obtain ⟨⟨rest, a⟩, hrest, he⟩ := Option.map_eq_some_iff.1 hbody
    obtain ⟨rfl, rfl⟩ := Prod.mk.inj he
    exact .inl ⟨s', _, rfl, rfl, rest, hrest, rfl⟩
  · rename_i hnot
    refine .inr ⟨fun hhead => ?_, body, hbody, rfl⟩
    obtain ⟨s', rfl⟩ := List.head?_eq_some_iff.1 hhead
    exact hnot s' rfl

theorem SameBody.ne_nil (h : SameBody slashed after next false s t) : s ≠ [] ∧ s ≠ ['\\'] := by
  obtain ⟨body, hbody, -⟩ := h
  constructor
  · rintro rfl
    exact absurd hbody (by simp [splitFrom, splitMembers])
  · rintro rfl
    exact absurd hbody (by simp [splitFrom, splitMembers])

/-- Before the end of a body both texts go on with the same character. -/
theorem SameBody.head_eq (h : SameBody slashed after next false s t) (hs : s.head? ≠ some ']') :
    t.head? = s.head? := by
  match s with
  | [] => exact absurd rfl h.ne_nil.1
  | c :: s =>
    by_cases hesc : c = '\\'
    · subst hesc
      cases s with
      | nil => exact absurd rfl h.ne_nil.2
      | cons d s =>
        obtain ⟨t', rfl, -⟩ := h.escape
        rfl
    · obtain ⟨t', rfl, -⟩ := h.char hesc (by simpa using hs)
      rfl

theorem SameBody.settles {first : Bool} (h : SameBody slashed after next first s t) :
    t ≠ ['\\'] := by
  obtain ⟨body, -, rfl⟩ := h
  exact append_cons_settles (by decide) _ _

theorem SameBody.corresponds : Corresponds (SameBody slashed after next false) where
  word := by
    intro c s t hc h
    obtain ⟨t', rfl, h'⟩ := h.char (by rintro rfl; exact hc (by decide)) (by rintro rfl; exact hc (by decide))
    exact ⟨t', rfl, fun _ => h'⟩
  other := by
    intro s t hs h
    by_cases hclose : s.head? = some ']'
    · obtain ⟨s', rfl⟩ := List.head?_eq_some_iff.1 hclose
      obtain ⟨-, rfl⟩ := h.close
      cases slashed <;> simp [addedSlash, breaks]
    · rw [h.head_eq hclose]
      exact hs
  settles := SameBody.settles

/-- What two readings make of the same member. -/
def SameMember (slashed : Bool) (after next : Text) (x y : Text × Member × Text) : Prop :=
  x.1 = y.1 ∧ x.2.1 = y.2.1 ∧ SameBody slashed after next false x.2.2 y.2.2

theorem readMember_agrees {m n : Nat} (h : SameBody slashed after next false s t)
    (hs : s.head? ≠ some ']') :
    Agrees total (SameMember slashed after next) (readMember m s) (readMember n t) := by
  match s with
  | [] => exact .fault_left
  | c :: s =>
    by_cases hc : c = '\\'
    · subst hc
      cases s with
      | nil => exact absurd rfl h.ne_nil.2
      | cons c s =>
        obtain ⟨t', rfl, hrest⟩ := h.escape
        refine .settle (fun _ => hrest.settles) fun _ => ?_
        refine (readClassEscape_agrees SameBody.corresponds c hrest).bind ?_
        rintro ⟨m, r⟩ ⟨m', r'⟩ ⟨hm, hr⟩
        exact .ok ⟨rfl, hm, hr⟩
    · obtain ⟨t', rfl, hrest⟩ := h.char hc (by simpa using hs)
      rw [readMember, readMember]
      · exact .settle (fun _ => hrest.settles) fun _ => .ok ⟨rfl, rfl, hrest⟩
      · exact fun _ _ he => absurd he hc
      · exact fun _ _ he => absurd he hc

/-- What two readings make of the same item: the same members, but for the slash that one of them
meets where the other meets the end. -/
inductive SameItem (slashed : Bool) (after next : Text) :
    List Member × Bool × Text → List Member × Bool × Text → Prop
  | more {ms : List Member} {s t : Text} : SameBody slashed after next false s t → ms ≠ [] →
      SameItem slashed after next (ms, false, s) (ms, false, t)
  | last {ms : List Member} : slashed = false →
      SameItem slashed after next (ms, true, after) (ms, true, next)
  | slash {ms ms' : List Member} : slashed = true → (∃ m ∈ ms', m.EndsAtSlash) →
      (ms = [] → ms' = [.single 47]) → SameItem slashed after next (ms, true, after) (ms', false, ']' :: next)

theorem readMember_slash (n : Nat) (next : Text) :
    readMember n ('/' :: ']' :: next) = .ok (['/'], .single 47, ']' :: next) := by
  have hne : ']' :: next ≠ ['\\'] := by simp
  simp [readMember, settle_ok hne, ok_bind, pure, Except.pure]

theorem rangeOf_slash {low high rest : Text} {m range : Member}
    (h : rangeOf low high m (.single 47) rest = .ok range) : range.EndsAtSlash := by
  unfold rangeOf at h
  split at h
  · rename_i lo hi hm
    split at h
    · exact absurd h fault_ne_ok
    · rename_i hle
      obtain rfl := Except.ok.inj h
      obtain rfl := Member.single.inj hm
      exact .inr ⟨lo, Nat.le_of_not_lt hle, rfl⟩
  · exact absurd h fault_ne_ok

theorem rangeOf_agrees {low high r r' : Text} {a b : Member} :
    Agrees total Eq (rangeOf low high a b r) (rangeOf low high a b r') := by
  unfold rangeOf
  split
  · split
    · exact .fault_left
    · exact .ok rfl
  · exact .fault_left

/-- The end of a class is met before another member, and not after a hyphen that follows one. -/
def EndsAlone (item : Except Fault (List Member × Bool × Text)) : Prop :=
  ∀ ms rest, item = .ok (ms, true, rest) → ms = []

theorem readRange_agrees {m n : Nat} {low : Text} {member : Member} (hnext : next ≠ ['\\'])
    (hend : total = true → slashed = true → EndsAlone (readRange m low member s))
    (h : SameBody slashed after next false s t) :
    Agrees total (SameItem slashed after next) (readRange m low member s)
      (readRange n low member t) := by
  match s with
  | [] => exact absurd rfl h.ne_nil.1
  | c :: s =>
    by_cases hc : c = ']'
    · subst hc
      obtain ⟨rfl, rfl⟩ := h.close
      cases slashed with
      | false => exact .settle (fun _ => hnext) fun _ => .ok (.last rfl)
      | true =>
        intro x hx
        obtain ⟨⟨⟩, hsettle, hx'⟩ := bind_eq_ok_iff.1 hx
        obtain rfl := Except.ok.inj hx'
        constructor
        · intro htotal
          exact absurd (hend htotal rfl _ _ hx) (by simp)
        · intro y hy
          change readRange n low member ('/' :: ']' :: next) = _ at hy
          rw [readRange] at hy
          · obtain ⟨⟨high, other, r⟩, hhigh, hy⟩ := bind_eq_ok_iff.1 hy
            obtain ⟨range, hrange, hy⟩ := bind_eq_ok_iff.1 hy
            obtain rfl := Except.ok.inj hy
            obtain ⟨-, he⟩ := Prod.mk.inj (Except.ok.inj ((readMember_slash n next).symm.trans hhigh))
            obtain ⟨rfl, rfl⟩ := Prod.mk.inj he
            exact .slash rfl ⟨range, List.mem_singleton_self _, rangeOf_slash hrange⟩ (by simp)
          · exact fun _ he => absurd (List.cons.inj he).1 (by decide)
    · have hne : (c :: s).head? ≠ some ']' := by simpa using hc
      obtain ⟨t, rfl⟩ := List.head?_eq_some_iff.1 (h.head_eq hne)
      rw [readRange, readRange]
      · refine (readMember_agrees h hne).bind ?_
        rintro ⟨high, other, r⟩ ⟨high', other', r'⟩ ⟨hhigh, hother, hr⟩
        obtain rfl : high = high' := hhigh
        obtain rfl : other = other' := hother
        exact rangeOf_agrees.bind fun a b hab => .ok (hab ▸ .more hr (by simp))
      · exact fun _ he => absurd (List.cons.inj he).1 hc
      · exact fun _ he => absurd (List.cons.inj he).1 hc

/-- What follows a member in an item. -/
def afterMember (place : Nat) (x : Text × Member × Text) : Except Fault (List Member × Bool × Text) :=
  match x.2.2 with
  | '-' :: rest => do
    settle rest
    readRange place x.1 x.2.1 rest
  | rest => return ([x.2.1], false, rest)

theorem afterMember_agrees {m n : Nat} {x y : Text × Member × Text} (hnext : next ≠ ['\\'])
    (hend : total = true → slashed = true → EndsAlone (afterMember m x))
    (h : SameMember slashed after next x y) :
    Agrees total (SameItem slashed after next) (afterMember m x) (afterMember n y) := by
  obtain ⟨low, member, s⟩ := x
  obtain ⟨low', member', t⟩ := y
  obtain ⟨hlow, hmember, hrest⟩ := h
  obtain rfl : low = low' := hlow
  obtain rfl : member = member' := hmember
  unfold afterMember at hend ⊢
  dsimp only at hrest hend ⊢
  obtain ⟨s', t', rfl, rfl, hrest'⟩ | ⟨hs, ht⟩ := SameBody.corresponds.head_cases '-' (by decide) hrest
  · refine SameBody.corresponds.step hrest' fun hst => readRange_agrees hnext ?_ hst
    intro htotal hslashed
    have hitem := hend htotal hslashed
    change EndsAlone (settle s' >>= fun _ => readRange m low member s') at hitem
    rwa [settle_ok hst.ne_nil.2, ok_bind] at hitem
  · split
    · exact absurd rfl (hs _)
    · exact .ok (.more hrest (by simp))

theorem readItem_of_member {place : Nat} {first : Bool}
    (h : first = true ∨ s.head? ≠ some ']') :
    readItem place first s = readMember place s >>= afterMember place := by
  rw [readItem.eq_def]
  split
  · rename_i rest
    exact absurd h (by simp)
  · rfl

theorem readItem_agrees {m n : Nat} {first : Bool} (hnext : next ≠ ['\\'])
    (hend : total = true → slashed = true → EndsAlone (readItem m first s))
    (h : SameBody slashed after next first s t) :
    Agrees total (SameItem slashed after next) (readItem m first s) (readItem n first t) := by
  have hmember (hs : first = true ∨ s.head? ≠ some ']') (ht : first = true ∨ t.head? ≠ some ']')
      (hread : Agrees total (SameMember slashed after next) (readMember m s) (readMember n t)) :
      Agrees total (SameItem slashed after next) (readItem m first s) (readItem n first t) := by
    rw [readItem_of_member hs] at hend ⊢
    rw [readItem_of_member ht]
    refine hread.with_left.bind fun x y hxy => afterMember_agrees hnext ?_ hxy.2
    intro htotal hslashed
    have := hend htotal hslashed
    rwa [hxy.1, ok_bind] at this
  cases first with
  | true =>
    refine hmember (.inl rfl) (.inl rfl) ?_
    obtain ⟨s', t', rfl, rfl, hrest⟩ | ⟨hhead, hrest⟩ := h.start
    · rw [readMember, readMember]
      · exact .settle (fun _ => hrest.settles) fun _ => .ok ⟨rfl, rfl, hrest⟩
      · exact fun _ _ he => absurd he (by decide)
      · exact fun _ _ he => absurd he (by decide)
    · exact readMember_agrees hrest hhead
  | false =>
    by_cases hhead : s.head? = some ']'
    · obtain ⟨s', rfl⟩ := List.head?_eq_some_iff.1 hhead
      obtain ⟨rfl, rfl⟩ := h.close
      cases slashed with
      | false => exact .settle (fun _ => hnext) fun _ => .ok (.last rfl)
      | true =>
        refine .of_exists fun x hx => ?_
        obtain ⟨⟨⟩, -, hx⟩ := bind_eq_ok_iff.1 hx
        obtain rfl := Except.ok.inj hx
        refine ⟨([.single 47], false, ']' :: next), ?_, ?_⟩
        · show readItem n false ('/' :: ']' :: next) = _
          rw [readItem_of_member (.inr (by simp)), readMember_slash]
          rfl
        · exact .slash rfl ⟨_, List.mem_singleton_self _, .inl rfl⟩ fun _ => rfl
    · refine hmember (.inr hhead) (.inr ?_) (readMember_agrees h hhead)
      rwa [h.head_eq hhead]

theorem readMembers_eq (place : Nat) (done : List Member) (s : Text) :
    readMembers place done s = readItem place done.isEmpty s >>= fun x =>
      if x.2.1 then .ok (done ++ x.1, x.2.2) else readMembers place (done ++ x.1) x.2.2 := by
  rw [readMembers]
  split
  · rename_i h
    rw [h]
    rfl
  · rename_i h
    rw [h]
    rfl
  · rename_i h
    rw [h]
    rfl

theorem readMembers_end {place : Nat} {done : List Member} {rest : Text} (hne : done ≠ [])
    (hrest : rest ≠ ['\\']) : readMembers place done (']' :: rest) = .ok (done, rest) := by
  have hitem : readItem place done.isEmpty (']' :: rest) = .ok ([], true, rest) := by
    rw [show done.isEmpty = false by simpa using hne, readItem, settle_ok hrest]
    rfl
  rw [readMembers_eq, hitem, ok_bind, if_pos rfl, List.append_nil]

/-- The class ends in a hyphen that follows a member, and so a character added at its end would make
a range. -/
def endsInHyphen (place : Nat) (first : Bool) (s : Text) : Bool :=
  match _h : readItem place first s with
  | .error _ => false
  | .ok (ms, true, _) => !ms.isEmpty
  | .ok (_, false, rest) => endsInHyphen place false rest
termination_by s.length
decreasing_by exact readItem_length _h

theorem endsAlone_of_endsInHyphen {place : Nat} {first : Bool}
    (h : endsInHyphen place first s = false) : EndsAlone (readItem place first s) := by
  intro ms rest hitem
  rw [endsInHyphen] at h
  split at h
  · rename_i e he
    exact absurd (he.symm.trans hitem) (by simp)
  · rename_i ms' rest' he
    obtain ⟨rfl, -⟩ := Prod.mk.inj (Except.ok.inj (he.symm.trans hitem))
    simpa using h
  · rename_i ms' rest' he
    exact absurd (he.symm.trans hitem) (by simp)

theorem endsInHyphen_rest {place : Nat} {first : Bool} {ms : List Member} {rest : Text}
    (h : endsInHyphen place first s = false) (hitem : readItem place first s = .ok (ms, false, rest)) :
    endsInHyphen place false rest = false := by
  rw [endsInHyphen] at h
  split at h
  · rename_i e he
    exact absurd (he.symm.trans hitem) (by simp)
  · rename_i ms' rest' he
    exact absurd (he.symm.trans hitem) (by simp)
  · rename_i ms' rest' he
    obtain ⟨-, he⟩ := Prod.mk.inj (Except.ok.inj (he.symm.trans hitem))
    obtain ⟨-, rfl⟩ := Prod.mk.inj he
    exact h

/-- What two readings make of the members of the same class, where a slash may have been added. -/
structure SameMembers (total slashed : Bool) (ms ms' : List Member) : Prop where
  same : slashed = false → ms' = ms
  ends : slashed = true → ∃ m ∈ ms', m.EndsAtSlash
  added : total = true → slashed = true → ms' = ms ++ [.single 47]

/-- Members that are read twice end in both places, and are the same but for a slash that was
added. -/
theorem readMembers_agrees {m n : Nat} {done : List Member} (hnext : next ≠ ['\\'])
    (hend : total = true → slashed = true → endsInHyphen m done.isEmpty s = false)
    (h : SameBody slashed after next done.isEmpty s t) :
    Agrees total
      (fun x y => x.2 = after ∧ y.2 = next ∧ SameMembers total slashed x.1 y.1)
      (readMembers m done s) (readMembers n done t) := by
  induction hlen : s.length using Nat.strongRecOn generalizing done s t with
  | _ length ih =>
  have hitem : Agrees total (SameItem slashed after next) (readItem m done.isEmpty s)
      (readItem n done.isEmpty t) :=
    readItem_agrees hnext
      (fun htotal hslashed => endsAlone_of_endsInHyphen (hend htotal hslashed)) h
  rw [readMembers_eq m, readMembers_eq n]
  refine hitem.with_left.bind ?_
  rintro x y ⟨hx, hxy⟩
  cases hxy with
  | last hslashed =>
    have hno : slashed ≠ true := by simp [hslashed]
    exact .ok ⟨rfl, rfl, fun _ => rfl, fun he => absurd he hno, fun _ he => absurd he hno⟩
  | @slash ms ms' hslashed hends halone =>
    obtain ⟨z, hz, hslash⟩ := hends
    have hne : done ++ ms' ≠ [] := List.append_ne_nil_of_right_ne_nil _ (List.ne_nil_of_mem hz)
    rw [if_pos rfl, if_neg (by simp), readMembers_end hne hnext]
    refine .ok ⟨rfl, rfl, fun he => absurd (hslashed.symm.trans he) (by simp),
      fun _ => ⟨z, List.mem_append_right _ hz, hslash⟩, fun htotal _ => ?_⟩
    obtain rfl := endsAlone_of_endsInHyphen (hend htotal hslashed) _ _ hx
    rw [halone rfl, List.append_nil]
  | @more ms s' t' hrest hne =>
    have hdone : (done ++ ms).isEmpty = false := by simp [hne]
    rw [if_neg (by simp), if_neg (by simp)]
    refine ih s'.length (hlen ▸ readItem_length hx) ?_ (hdone ▸ hrest) rfl
    intro htotal hslashed
    rw [hdone]
    exact endsInHyphen_rest (hend htotal hslashed) hx

theorem SameBody.head_eq_start (h : SameBody slashed after next true s t) : t.head? = s.head? := by
  obtain ⟨s', t', rfl, rfl, -⟩ | ⟨hhead, hrest⟩ := h.start
  · rfl
  · exact hrest.head_eq hhead

/-- The text of a class with the same body, to which a slash may have been added. -/
def ClassBody (slashed : Bool) (after next : Text) (s t : Text) : Prop :=
  ∃ body, splitClass s = some (body, after) ∧ t = body ++ addedSlash slashed ++ ']' :: next

theorem ClassBody.cases (h : ClassBody slashed after next s t) :
    (∃ s' t', s = '^' :: s' ∧ t = '^' :: t' ∧ SameBody slashed after next true s' t') ∨
      s.head? ≠ some '^' ∧ SameBody slashed after next true s t := by
  obtain ⟨body, hbody, rfl⟩ := h
  unfold splitClass at hbody
  split at hbody
  · rename_i s'
    obtain ⟨⟨rest, a⟩, hrest, he⟩ := Option.map_eq_some_iff.1 hbody
    obtain ⟨rfl, rfl⟩ := Prod.mk.inj he
    exact .inl ⟨s', _, rfl, rfl, rest, hrest, rfl⟩
  · rename_i hnot
    refine .inr ⟨fun hhead => ?_, body, hbody, rfl⟩
    obtain ⟨s', rfl⟩ := List.head?_eq_some_iff.1 hhead
    exact hnot s' rfl

/-- A body begins with a caret if its class does. -/
theorem splitClass_head {body : Text} (h : splitClass s = some (body, after)) :
    body.head? = some '^' ↔ s.head? = some '^' := by
  have hbody : ClassBody false after [] s (body ++ [']']) := ⟨body, h, by simp [addedSlash]⟩
  have hhead : (body ++ [']']).head? = some '^' ↔ body.head? = some '^' := by
    cases body <;> simp
  rw [← hhead]
  obtain ⟨s', t', rfl, ht, -⟩ | ⟨hs, hsame⟩ := hbody.cases
  · simp [ht]
  · rw [hsame.head_eq_start]

/-- The reading of a class whose text begins with a caret, or does not. -/
theorem readClass_caret (s : Text) :
    readClass ('^' :: s) = settle s >>= fun _ => readMembers (s.length + 2) [] s >>= fun x =>
      .ok (classTest true x.1, x.2) :=
  rfl

theorem readClass_plain (hs : s.head? ≠ some '^') :
    readClass s = readMembers (s.length + 1) [] s >>= fun x => .ok (classTest false x.1, x.2) := by
  rw [readClass]
  · rfl
  · rintro r rfl
    exact hs rfl

/-- What two readings make of the same class: the same test, or two tests of negated classes, to one
of which a slash was added. -/
structure SameClass (total slashed : Bool) (negated : Prop) (test test' : CharTest) : Prop where
  same : slashed = false → test' = test
  slash : slashed = true → negated → ∃ ms ms', test = classTest true ms ∧
    test' = classTest true ms' ∧ SameMembers total slashed ms ms'

/-- A negated class begins here that ends in a hyphen after a member. -/
def negatedEndsInHyphen : Text → Bool
  | '^' :: s => endsInHyphen (s.length + 2) true s
  | _ => false

/-- A class that is read twice ends in both places. -/
theorem readClass_agrees (hnext : next ≠ ['\\'])
    (hend : total = true → slashed = true → s.head? = some '^' ∧ negatedEndsInHyphen s = false)
    (h : ClassBody slashed after next s t) :
    Agrees total (fun x y => x.2 = after ∧ y.2 = next ∧
      SameClass total slashed (s.head? = some '^') x.1 y.1) (readClass s) (readClass t) := by
  obtain ⟨s', t', rfl, rfl, hbody⟩ | ⟨hhead, hbody⟩ := h.cases
  · rw [readClass_caret, readClass_caret]
    refine .settle (fun _ => hbody.settles) fun _ => ?_
    have hmembers : Agrees total _ (readMembers (s'.length + 2) [] s')
        (readMembers (t'.length + 2) [] t') :=
      readMembers_agrees hnext (fun htotal hslashed => (hend htotal hslashed).2) hbody
    refine hmembers.bind ?_
    rintro ⟨ms, r⟩ ⟨ms', r'⟩ ⟨hr, hr', hms⟩
    exact .ok ⟨hr, hr', fun he => congrArg (classTest true) (hms.same he), fun _ _ =>
      ⟨ms, ms', rfl, rfl, hms⟩⟩
  · have hhead' : t.head? ≠ some '^' := by rwa [hbody.head_eq_start]
    rw [readClass_plain hhead, readClass_plain hhead']
    refine (readMembers_agrees hnext ?_ hbody).bind ?_
    · exact fun htotal hslashed => absurd (hend htotal hslashed).1 hhead
    · rintro ⟨ms, r⟩ ⟨ms', r'⟩ ⟨hr, hr', hms⟩
      exact .ok ⟨hr, hr', fun he => congrArg (classTest false) (hms.same he),
        fun _ he => absurd he hhead⟩

end SameBody

/-! ## Classes that refuse a slash -/

/-- The test holds of no slash, whatever the flags. -/
def CharTest.RefusesSlash (test : CharTest) : Prop :=
  ∀ f : Flags, test.holds f '/' = false

theorem isSame_slash (f : Flags) : f.isSame 47 47 = true := by
  unfold Flags.isSame
  split
  · simp [Flags.folded]
  · rfl

theorem lower_slash (f : Flags) : f.lower 47 = 47 := by
  unfold Flags.lower
  split <;> decide

theorem isMember_slash {members : List Member} {m : Member} (hm : m ∈ members) (h : m.EndsAtSlash)
    (f : Flags) : f.isMember 47 members = true := by
  have hlow := lower_slash f
  have hfolded : (f.folded 47).contains 47 = true := by simp [Flags.folded, hlow]
  unfold Flags.isMember
  split
  · refine List.any_eq_true.2 ⟨m, hm, ?_⟩
    rw [hlow]
    obtain rfl | ⟨low, hle, rfl⟩ := h
    · show (if basicPlaneEnd ≤ f.lower 47 then _ else (f.folded 47).contains 47) = true
      rw [hlow, if_neg (by decide), hfolded]
    · have hmem : 47 ∈ basicRange low 47 := by
        rw [basicRange, List.mem_range'_1]
        refine ⟨hle, ?_⟩
        show 47 < low + (48 - low)
        rw [Nat.add_sub_cancel' (Nat.le_succ_of_le hle)]
        decide
      simp only [Member.holdsFolded, Bool.or_eq_true]
      exact .inl (List.any_eq_true.2 ⟨47, hmem, hfolded⟩)
  · refine List.any_eq_true.2 ⟨m, hm, ?_⟩
    obtain rfl | ⟨low, hle, rfl⟩ := h
    · rfl
    · simpa [Member.holds] using hle

theorem lowerAscii_ne_slash {c : CodePoint} (h : c ≠ 47) : CodePoint.lowerAscii c ≠ 47 := by
  unfold CodePoint.lowerAscii
  split
  · rename_i hupper
    simp only [Bool.and_eq_true, decide_eq_true_eq] at hupper
    intro he
    have : (65 : Nat) + 32 ≤ c + 32 := Nat.add_le_add_right hupper.1 32
    rw [he] at this
    exact absurd this (by decide)
  · exact h

/-- Only a slash has a slash as its lower case. -/
theorem lower_ne_slash (f : Flags) {c : CodePoint} (h : c ≠ 47) : f.lower c ≠ 47 := by
  have hruns : ∀ r ∈ CodePoint.lowerRuns, 47 < r.2.2.2 := by decide +kernel
  unfold Flags.lower
  split
  · exact lowerAscii_ne_slash h
  · unfold CodePoint.lower
    split
    · exact lowerAscii_ne_slash h
    · unfold CodePoint.mapRuns
      split
      · exact h
      · rename_i r hr
        exact Nat.ne_of_gt (Nat.lt_of_lt_of_le (hruns r (List.mem_of_find?_eq_some hr))
          (Nat.le_add_right _ _))

theorem caseSiblings_ne_slash (c : CodePoint) : 47 ∉ CodePoint.caseSiblings c := by
  have htable : ∀ e ∈ CodePoint.siblingTable, 47 ∉ e.2 := by decide +kernel
  unfold CodePoint.caseSiblings
  cases he : CodePoint.siblingTable.find? fun e => e.1 == c with
  | none => simp
  | some e => exact htable e (List.mem_of_find?_eq_some he)

/-- No other character is a slash in another case. -/
theorem contains_folded_slash (f : Flags) {code : CodePoint} (h : code ≠ 47) :
    (f.folded code).contains 47 = false := by
  rw [Flags.folded, List.contains_eq_mem, decide_eq_false_iff_not, List.mem_cons]
  rintro (he | hmem)
  · exact lower_ne_slash f h he.symm
  · split at hmem
    · exact absurd hmem (by simp)
    · exact caseSiblings_ne_slash _ hmem

theorem refusesSlash_literal {code : CodePoint} (h : code ≠ 47) :
    (CharTest.literal code).RefusesSlash := by
  intro f
  show f.isSame 47 code = false
  unfold Flags.isSame
  split
  · rw [lower_slash, contains_folded_slash f h]
  · simpa using Ne.symm h

/-- A slash is no digit, no blank and no part of a word. -/
theorem refusesSlash_category (kind : Category) :
    (CharTest.set false [.category kind false]).RefusesSlash := by
  have hkind : ∀ ascii, kind.holds ascii 47 = false := by
    cases kind with
    | digit => decide +kernel
    | space => decide +kernel
    | word => decide +kernel
  intro f
  show (f.isMember 47 [.category kind false] != false) = false
  simp [Flags.isMember, Member.isCased, Member.holds, hkind]

/-- What narrowing puts in the place of a shorthand. -/
theorem readMembers_shorthand {place : Nat} {k : Char} {m : Member} {next : Text}
    (hk : ∀ r, readClassEscape k r = .ok (m, r)) (hnext : next ≠ ['\\']) :
    readMembers place [] ('\\' :: k :: '/' :: ']' :: next) = .ok ([m, .single 47], next) := by
  have hfirst : readItem place true ('\\' :: k :: '/' :: ']' :: next) =
      .ok ([m], false, '/' :: ']' :: next) := by
    rw [readItem_of_member (.inl rfl), readMember, settle_ok (by simp), ok_bind, hk]
    rfl
  have hsecond : readItem place false ('/' :: ']' :: next) =
      .ok ([.single 47], false, ']' :: next) := by
    rw [readItem_of_member (.inr (by simp)), readMember_slash]
    rfl
  rw [readMembers_eq, List.isEmpty_nil, hfirst, ok_bind, if_neg (by simp), readMembers_eq]
  simp only [List.nil_append, List.isEmpty_cons]
  rw [hsecond, ok_bind, if_neg (by simp)]
  exact readMembers_end (by simp) hnext

theorem refusesSlash_notLiteral : (CharTest.notLiteral 47).RefusesSlash := by
  intro f
  show (!f.isSame 47 47) = false
  rw [isSame_slash]
  rfl

theorem refusesSlash_negated {members : List Member} {m : Member} (hm : m ∈ members)
    (h : m.EndsAtSlash) : (CharTest.set true members).RefusesSlash := by
  intro f
  show (f.isMember 47 members != true) = false
  rw [isMember_slash hm h]
  rfl

/-- A negated class with a slash among its members refuses it. -/
theorem refusesSlash_classTest {members : List Member} {m : Member} (hm : m ∈ members)
    (h : m.EndsAtSlash) : (classTest true members).RefusesSlash := by
  have hm' : m ∈ members.eraseDups := List.mem_eraseDups.2 hm
  unfold classTest
  split
  · rename_i c hc
    rw [hc, List.mem_singleton] at hm'
    subst hm'
    obtain he | ⟨low, -, he⟩ := h
    · obtain rfl := Member.single.inj he
      exact refusesSlash_notLiteral
    · exact absurd he (by simp)
  · exact refusesSlash_negated hm' h

end PathRouter.Regex
