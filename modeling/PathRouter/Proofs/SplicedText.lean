import PathRouter.Proofs.ClassReading
import PathRouter.Proofs.Constructs

/-!
# An inline expression inside a compiled one

What is left of an inline expression stands in the compiled expression as it is, or narrowed, before
the closing parenthesis of the group around it. A narrowed expression can also be read by itself.
Here it is shown how the one text begins where the other begins, and what becomes of comments.
-/

namespace PathRouter.Regex
set_option autoImplicit false

/-- What follows an inline expression where it is read: nothing, or the end of its group. -/
def IsEnding (ending : Text) : Prop :=
  ending = [] ∨ ∃ tail, ending = ')' :: tail

/-- The rest `s` of an expression stands as `t` in the text that is read, narrowed or as it is, before
what follows the expression there. -/
def Spliced (narrowed : Bool) (ending s t : Text) : Prop :=
  s ≠ ['\\'] ∧ ∃ b, (if narrowed then confine s else some s) = some b ∧ t = b ++ ending

/-- The characters that narrowing changes, or at which more than one is taken at once. -/
def narrowable : List Char :=
  ['\\', '.', '[']

theorem confine_char {c : Char} {s : Text} (hc : c ∉ narrowable) :
    confine (c :: s) = (confine s).map (c :: ·) := by
  simp only [narrowable, List.mem_cons, List.not_mem_nil, or_false, not_or] at hc
  rw [confine]
  · rw [if_neg hc.2.1, if_neg hc.2.2]
  · exact fun h => absurd h hc.1

theorem confine_escape (c : Char) (s : Text) :
    confine ('\\' :: c :: s) = (confine s).map (Confine.escape c ++ ·) := by
  rw [confine]

theorem confine_dot (s : Text) : confine ('.' :: s) = (confine s).map (Confine.dot ++ ·) := by
  rw [confine]
  · rw [if_pos rfl]
  · exact fun h => absurd h (by decide)

theorem confine_class {s b : Text} (h : confine ('[' :: s) = some b) :
    ∃ body after rest, Confine.splitClass s = some (body, after) ∧ confine after = some rest ∧
      b = Confine.bracketed body ++ rest := by
  rw [confine] at h
  · rw [if_neg (by decide), if_pos rfl] at h
    split at h
    · exact absurd h (by simp)
    · rename_i body after hsplit
      obtain ⟨rest, hrest, rfl⟩ := Option.map_eq_some_iff.1 h
      exact ⟨body, after, rest, hsplit, hrest, rfl⟩
  · exact fun h => absurd h (by decide)

section Spliced

variable {narrowed : Bool} {ending s t : Text}

theorem Spliced.nil (h : Spliced narrowed ending [] t) : t = ending := by
  obtain ⟨-, b, hb, rfl⟩ := h
  cases narrowed with
  | false =>
    obtain rfl := Option.some.inj hb
    rfl
  | true =>
    rw [if_pos rfl, confine] at hb
    obtain rfl := Option.some.inj hb
    rfl

theorem Spliced.char {c : Char} (hc : c ∉ narrowable) (h : Spliced narrowed ending (c :: s) t) :
    ∃ t', t = c :: t' ∧ (s ≠ ['\\'] → Spliced narrowed ending s t') := by
  obtain ⟨-, b, hb, rfl⟩ := h
  cases narrowed with
  | false =>
    obtain rfl := Option.some.inj hb
    exact ⟨_, rfl, fun hs => ⟨hs, s, rfl, rfl⟩⟩
  | true =>
    rw [if_pos rfl, confine_char hc] at hb
    obtain ⟨b, hrest, rfl⟩ := Option.map_eq_some_iff.1 hb
    exact ⟨_, rfl, fun hs => ⟨hs, b, hrest, rfl⟩⟩

theorem Spliced.escape {c : Char} (h : Spliced narrowed ending ('\\' :: c :: s) t) :
    ∃ t', t = (if narrowed then Confine.escape c else ['\\', c]) ++ t' ∧
      (s ≠ ['\\'] → Spliced narrowed ending s t') := by
  obtain ⟨-, b, hb, rfl⟩ := h
  cases narrowed with
  | false =>
    obtain rfl := Option.some.inj hb
    exact ⟨_, rfl, fun hs => ⟨hs, s, rfl, rfl⟩⟩
  | true =>
    rw [if_pos rfl, confine_escape] at hb
    obtain ⟨b, hrest, rfl⟩ := Option.map_eq_some_iff.1 hb
    exact ⟨_, List.append_assoc .., fun hs => ⟨hs, b, hrest, rfl⟩⟩

theorem Spliced.dot (h : Spliced narrowed ending ('.' :: s) t) :
    ∃ t', t = (if narrowed then Confine.dot else ['.']) ++ t' ∧
      (s ≠ ['\\'] → Spliced narrowed ending s t') := by
  obtain ⟨-, b, hb, rfl⟩ := h
  cases narrowed with
  | false =>
    obtain rfl := Option.some.inj hb
    exact ⟨_, rfl, fun hs => ⟨hs, s, rfl, rfl⟩⟩
  | true =>
    rw [if_pos rfl, confine_dot] at hb
    obtain ⟨b, hrest, rfl⟩ := Option.map_eq_some_iff.1 hb
    exact ⟨_, List.append_assoc .., fun hs => ⟨hs, b, hrest, rfl⟩⟩

theorem Spliced.class (h : Spliced narrowed ending ('[' :: s) t) :
    (narrowed = false ∧ ∃ t', t = '[' :: t' ∧ (s ≠ ['\\'] → Spliced narrowed ending s t')) ∨
      narrowed = true ∧ ∃ body after t', Confine.splitClass s = some (body, after) ∧
        t = Confine.bracketed body ++ t' ∧
        (after ≠ ['\\'] → Spliced narrowed ending after t') := by
  obtain ⟨-, b, hb, rfl⟩ := h
  cases narrowed with
  | false =>
    obtain rfl := Option.some.inj hb
    exact .inl ⟨rfl, _, rfl, fun hs => ⟨hs, s, rfl, rfl⟩⟩
  | true =>
    obtain ⟨body, after, rest, hsplit, hrest, rfl⟩ := confine_class hb
    exact .inr ⟨rfl, body, after, _, hsplit, List.append_assoc .., fun hs => ⟨hs, rest, hrest, rfl⟩⟩

/-- The ways in which what narrowing puts in the place of an escape begins. -/
theorem escape_head (c : Char) (t : Text) :
    (Confine.escape c ++ t).head? = some '\\' ∨ (Confine.escape c ++ t).head? = some '[' := by
  unfold Confine.escape Confine.shorthand?
  split <;> simp

theorem bracketed_head (body t : Text) :
    (Confine.bracketed body ++ t).head? = some '[' ∨
      (Confine.bracketed body ++ t).head? = some '(' := by
  unfold Confine.bracketed
  split <;> simp

/-- Narrowing makes no backslash of anything else. -/
theorem confine_settles (hs : s ≠ ['\\']) : confine s ≠ some ['\\'] := by
  intro h
  match s with
  | [] => exact absurd h (by simp [confine])
  | c :: s =>
    by_cases hesc : c = '\\'
    · subst hesc
      cases s with
      | nil => exact hs rfl
      | cons d s =>
        rw [confine_escape] at h
        obtain ⟨b, -, hb⟩ := Option.map_eq_some_iff.1 h
        have hlength := congrArg List.length hb
        unfold Confine.escape Confine.shorthand? at hlength
        split at hlength <;> simp at hlength
    · by_cases hdot : c = '.'
      · subst hdot
        rw [confine_dot] at h
        obtain ⟨b, -, hb⟩ := Option.map_eq_some_iff.1 h
        exact absurd (List.cons.inj hb).1 (by decide)
      · by_cases hopen : c = '['
        · subst hopen
          obtain ⟨body, after, rest, -, -, hb⟩ := confine_class h
          obtain he | he := bracketed_head body rest
          · exact absurd (hb ▸ he) (by simp)
          · exact absurd (hb ▸ he) (by simp)
        · rw [confine_char (by simp [narrowable, hesc, hdot, hopen])] at h
          obtain ⟨b, -, hb⟩ := Option.map_eq_some_iff.1 h
          exact hesc (List.cons.inj hb).1

/-- The texts correspond up to characters that narrowing changes. -/
structure Parallel (T : Text → Text → Prop) : Prop where
  start : ∀ {s t}, T s t → s ≠ ['\\']
  char : ∀ {c s t}, c ∉ narrowable → T (c :: s) t → ∃ t', t = c :: t' ∧ (s ≠ ['\\'] → T s t')
  other : ∀ {s t}, (∀ c, s.head? = some c → c ∈ breaks) → T s t → ∀ c, t.head? = some c → c ∈ breaks
  settles : ∀ {s t}, T s t → t ≠ ['\\']

theorem Parallel.corresponds {T : Text → Text → Prop} (hT : Parallel T) : Corresponds T where
  word := by
    intro c s t hc h
    refine hT.char (fun hm => hc ?_) h
    simp only [narrowable, List.mem_cons, List.not_mem_nil, or_false] at hm
    rcases hm with rfl | rfl | rfl <;> decide
  other := hT.other
  settles := hT.settles

/-- A property of what is left that is kept where a character is taken. -/
structure IsKept (P : Text → Prop) : Prop where
  start : ∀ {s}, P s → s ≠ ['\\']
  char : ∀ {c s}, c ∉ narrowable → s ≠ ['\\'] → P (c :: s) → P s

/-- A text and itself, as long as it has the property. -/
def SameWith (P : Text → Prop) (s t : Text) : Prop :=
  s = t ∧ P s

theorem IsKept.parallel {P : Text → Prop} (hP : IsKept P) : Parallel (SameWith P) where
  start := fun h => hP.start h.2
  char := by
    rintro c s t hc ⟨rfl, h⟩
    exact ⟨s, rfl, fun hs => ⟨rfl, hP.char hc hs h⟩⟩
  other := by
    rintro s t hs ⟨rfl, -⟩
    exact hs
  settles := by
    rintro s t ⟨rfl, h⟩
    exact hP.start h

/-- What is left after reading has the property as well. -/
theorem IsKept.of_agrees {P : Text → Prop} {α : Type} {R : α → α → Prop}
    {x : Except Fault (α × Text)} {a : α} {rest : Text}
    (h : Agrees true (Reads R (SameWith P)) x x) (hx : x = .ok (a, rest)) : P rest :=
  (h.related hx hx).2.2

theorem Spliced.parallel (hending : IsEnding ending) : Parallel (Spliced narrowed ending) where
  char := Spliced.char
  start := fun h => h.1
  other := by
    intro s t hs h d hd
    match s with
    | [] =>
      rw [h.nil] at hd
      obtain rfl | ⟨tail, rfl⟩ := hending
      · exact absurd hd (by simp)
      · obtain rfl := Option.some.inj hd
        decide
    | c :: s =>
      have hc : c ∈ breaks := hs c rfl
      by_cases hchar : c ∈ narrowable
      · simp only [narrowable, List.mem_cons, List.not_mem_nil, or_false] at hchar
        have hd' : d = '\\' ∨ d = '[' ∨ d = '.' ∨ d = '(' := by
          rcases hchar with rfl | rfl | rfl
          · cases s with
            | nil => exact absurd rfl h.1
            | cons e s =>
              obtain ⟨t', rfl, -⟩ := h.escape
              cases narrowed with
              | false => exact .inl (Option.some.inj hd).symm
              | true =>
                obtain he | he := escape_head e t'
                · exact .inl (Option.some.inj (hd.symm.trans he))
                · exact .inr (.inl (Option.some.inj (hd.symm.trans he)))
          · obtain ⟨t', rfl, -⟩ := h.dot
            cases narrowed with
            | false => exact .inr (.inr (.inl (Option.some.inj hd).symm))
            | true => exact .inr (.inl (Option.some.inj hd).symm)
          · obtain ⟨-, t', rfl, -⟩ | ⟨-, body, after, t', -, rfl, -⟩ := h.class
            · exact .inr (.inl (Option.some.inj hd).symm)
            · obtain he | he := bracketed_head body t'
              · exact .inr (.inl (Option.some.inj (hd.symm.trans he)))
              · exact .inr (.inr (.inr (Option.some.inj (hd.symm.trans he))))
        rcases hd' with rfl | rfl | rfl | rfl <;> decide
      · obtain ⟨t', rfl, -⟩ := h.char hchar
        rw [← Option.some.inj hd]
        exact hc
  settles := by
    rintro s t ⟨hs, b, hb, rfl⟩
    obtain rfl | ⟨tail, rfl⟩ := hending
    · rw [List.append_nil]
      rintro rfl
      cases narrowed with
      | false => exact hs (Option.some.inj hb)
      | true => exact confine_settles hs hb
    · exact append_cons_settles (by decide) _ _

/-! ## Comments -/

/-- The reader skips up to and with the next `stop`; `found` is its result, made from the rest. -/
structure Skips {α : Type} (stop : Char) (found : Text → α) (read : Text → Except Fault α) :
    Prop where
  escape : ∀ c s, read ('\\' :: c :: s) = settle s >>= fun _ => read s
  ends : ∀ s, read (stop :: s) = settle s >>= fun _ => .ok (found s)
  other : ∀ c s, c ≠ '\\' → c ≠ stop → read (c :: s) = settle s >>= fun _ => read s
  /-- Narrowing never adds the character. -/
  kept : stop ∉ ['\\', '.', '[', '^', '/', ']']

theorem skips_comment (place : Nat) :
    Skips ')' (fun rest => (Opening.comment, rest)) (readComment place) where
  escape := fun _ _ => rfl
  ends := fun _ => rfl
  other := by
    intro c s hc hstop
    rw [readComment]
    · rw [if_neg hstop]
    · exact fun _ _ he => absurd he hc
  kept := by decide

theorem skips_line : Skips '\n' id readLine where
  escape := fun _ _ => rfl
  ends := fun _ => rfl
  other := by
    intro c s hc hstop
    rw [readLine]
    · rw [if_neg hstop]
    · exact fun _ _ he => absurd he hc
  kept := by decide

section Skips

variable {α : Type} {stop : Char} {found : Text → α} {read : Text → Except Fault α} {a : α}

theorem Skips.ne (hr : Skips stop found read) :
    '\\' ≠ stop ∧ '.' ≠ stop ∧ '[' ≠ stop ∧ '^' ≠ stop ∧ '/' ≠ stop ∧ ']' ≠ stop := by
  have hkept := hr.kept
  simp only [List.mem_cons, List.not_mem_nil, or_false, not_or] at hkept
  exact ⟨Ne.symm hkept.1, Ne.symm hkept.2.1, Ne.symm hkept.2.2.1, Ne.symm hkept.2.2.2.1,
    Ne.symm hkept.2.2.2.2.1, Ne.symm hkept.2.2.2.2.2⟩

theorem Skips.skip (hr : Skips stop found read) {c : Char} (hc : c ≠ '\\') (hstop : c ≠ stop)
    (ht : t ≠ ['\\']) : read (c :: t) = read t := by
  rw [hr.other c t hc hstop, settle_ok ht, ok_bind]

theorem Skips.skip_escape (hr : Skips stop found read) (c : Char) (ht : t ≠ ['\\']) :
    read ('\\' :: c :: t) = read t := by
  rw [hr.escape c t, settle_ok ht, ok_bind]

/-- A dot is skipped, and so is the class that narrowing puts in its place. -/
theorem Skips.skip_dot (hr : Skips stop found read) (ht : t ≠ ['\\']) :
    read (Confine.dot ++ t) = read t := by
  obtain ⟨-, -, hopen, hcaret, hslash, hclose⟩ := hr.ne
  show read ('[' :: '^' :: '/' :: ']' :: t) = _
  rw [hr.skip (by decide) hopen (by simp), hr.skip (by decide) hcaret (by simp),
    hr.skip (by decide) hslash (by simp), hr.skip (by decide) hclose ht]

/-- An escape is skipped, and so is the class that narrowing puts in its place. -/
theorem Skips.skip_confined (hr : Skips stop found read) (c : Char) (ht : t ≠ ['\\']) :
    read (Confine.escape c ++ t) = read t := by
  obtain ⟨-, -, hopen, hcaret, hslash, hclose⟩ := hr.ne
  have hclass (d : Char) : read ('[' :: '^' :: '\\' :: d :: '/' :: ']' :: t) = read t := by
    rw [hr.skip (by decide) hopen (by simp), hr.skip (by decide) hcaret (by simp),
      hr.skip_escape d (by simp), hr.skip (by decide) hslash (by simp),
      hr.skip (by decide) hclose ht]
  unfold Confine.escape Confine.shorthand?
  split
  · exact hclass 's'
  · exact hclass 'w'
  · exact hclass 'd'
  · exact hr.skip_escape c ht

/-- What is skipped in one place is skipped in the other, unless an opening bracket is narrowed. If
nothing ends the comment in the one place, it goes on behind the expression in the other. -/
theorem Skips.agrees {β : Type} {found' : Text → β} {read' : Text → Except Fault β}
    (hr : Skips stop found read) (hr' : Skips stop found' read') (hending : IsEnding ending)
    (h : Spliced narrowed ending s t)
    (hquiet : narrowed = true → holdsBefore stop ['['] s = false) (hs : read s = .ok a) :
    (∃ rest rest', a = found rest ∧ read' t = .ok (found' rest') ∧
      Spliced narrowed ending rest rest') ∨ read [] = .ok a ∧ read' t = read' ending := by
  have hne := hr.ne
  have hparallel : Parallel (Spliced narrowed ending) := Spliced.parallel hending
  fun_induction holdsBefore stop ['['] s generalizing t with
  | case1 => exact .inr ⟨hs, by rw [h.nil]⟩
  | case2 c s ih =>
    obtain ⟨t', rfl, hrest⟩ := h.escape
    rw [hr.escape] at hs
    obtain ⟨⟨⟩, hsettle, hs⟩ := bind_eq_ok_iff.1 hs
    have hrest := hrest (settle_eq_ok_iff.1 hsettle)
    have hskip : read' ((if narrowed then Confine.escape c else ['\\', c]) ++ t') = read' t' := by
      cases narrowed with
      | false => exact hr'.skip_escape c (hparallel.settles hrest)
      | true => exact hr'.skip_confined c (hparallel.settles hrest)
    rw [hskip]
    exact ih hrest hquiet hs
  | case3 s hesc =>
    obtain ⟨t', rfl, hrest⟩ := h.char (by simp [narrowable, Ne.symm, hne])
    rw [hr.ends] at hs
    obtain ⟨⟨⟩, hsettle, hs⟩ := bind_eq_ok_iff.1 hs
    have hrest := hrest (settle_eq_ok_iff.1 hsettle)
    rw [hr'.ends, settle_ok (hparallel.settles hrest), ok_bind]
    exact .inl ⟨s, t', (Except.ok.inj hs).symm, rfl, hrest⟩
  | case4 c s hesc hstop ih =>
    have hc : c ≠ '\\' := by
      rintro rfl
      cases s with
      | nil => exact h.1 rfl
      | cons d s => exact hesc d s rfl rfl
    rw [hr.other c s hc hstop] at hs
    obtain ⟨⟨⟩, hsettle, hs⟩ := bind_eq_ok_iff.1 hs
    have hsne := settle_eq_ok_iff.1 hsettle
    by_cases hchar : c ∈ narrowable
    · simp only [narrowable, List.mem_cons, List.not_mem_nil, or_false] at hchar
      rcases hchar with rfl | rfl | rfl
      · exact absurd rfl hc
      · obtain ⟨t', rfl, hrest⟩ := h.dot
        have hrest := hrest hsne
        have hskip : read' ((if narrowed then Confine.dot else ['.']) ++ t') = read' t' := by
          cases narrowed with
          | false => exact hr'.skip hc hstop (hparallel.settles hrest)
          | true => exact hr'.skip_dot (hparallel.settles hrest)
        rw [hskip]
        exact ih hrest (fun hn => (by simpa using hquiet hn)) hs
      · obtain ⟨rfl, t', rfl, hrest⟩ | ⟨hn, -⟩ := h.class
        · rw [hr'.skip hc hstop (hparallel.settles (hrest hsne))]
          exact ih (hrest hsne) nofun hs
        · exact absurd (hquiet hn) (by simp)
    · obtain ⟨t', rfl, hrest⟩ := h.char hchar
      rw [hr'.skip hc hstop (hparallel.settles (hrest hsne))]
      exact ih (hrest hsne) (fun hn => (by simpa using hquiet hn : _ ∧ _).2) hs

end Skips

end Spliced

end PathRouter.Regex
