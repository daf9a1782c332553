import PathRouter.Proofs.Reading

/-!
# Two readings of corresponding texts

An inline expression is read twice: on its own when a pattern is checked, and in the middle of a
longer text when the pattern is compiled. The texts correspond but for a few characters at which
words end. Each lemma says of a reader that, if both readings succeed, they read the same and what
is then left corresponds again. Where the groups around are the same as well, the second reading
succeeds if the first one does.
-/

namespace PathRouter.Regex
set_option autoImplicit false

/-- What the two readings give is related. If `total`, the second reading gives something whenever
the first one does. -/
def Agrees {α β : Type} (total : Bool) (R : α → β → Prop) (x : Except Fault α)
    (y : Except Fault β) : Prop :=
  ∀ a, x = .ok a → (total = true → ∃ b, y = .ok b) ∧ ∀ b, y = .ok b → R a b

namespace Agrees

variable {α β γ δ : Type} {total : Bool} {R : α → β → Prop} {Q : γ → δ → Prop}
variable {x : Except Fault α} {y : Except Fault β} {a : α} {b : β}

/-- Both readings gave something. -/
theorem related (h : Agrees total R x y) (hx : x = .ok a) (hy : y = .ok b) : R a b :=
  (h a hx).2 b hy

/-- Only the first reading is known to give something. -/
theorem exists_related (h : Agrees true R x y) (hx : x = .ok a) : ∃ b, y = .ok b ∧ R a b := by
  obtain ⟨b, hy⟩ := (h a hx).1 rfl
  exact ⟨b, hy, h.related hx hy⟩

theorem of_exists (h : ∀ a, x = .ok a → ∃ b, y = .ok b ∧ R a b) : Agrees total R x y := by
  intro a hx
  obtain ⟨b, hy, hab⟩ := h a hx
  refine ⟨fun _ => ⟨b, hy⟩, fun b' hy' => ?_⟩
  obtain rfl := Except.ok.inj (hy.symm.trans hy')
  exact hab

theorem of_related (h : ∀ a b, x = .ok a → y = .ok b → R a b) : Agrees false R x y :=
  fun a hx => ⟨fun he => absurd he (by simp), fun b hy => h a b hx hy⟩

/-- The first reading may be assumed to give something. -/
theorem of_left (h : ∀ a, x = .ok a → Agrees total R x y) : Agrees total R x y :=
  fun a hx => h a hx a hx

theorem ok (h : R a b) : Agrees total R (.ok a) (.ok b) := by
  refine of_exists fun a' ha => ?_
  obtain rfl := Except.ok.inj ha
  exact ⟨b, rfl, h⟩

theorem error_left {e : Fault} : Agrees total R (.error e) y :=
  fun _ ha => absurd ha (by simp)

theorem fault_left {c : Complaint} {left : Nat} : Agrees total R (fault c left) y :=
  error_left

theorem fault_right {c : Complaint} {left : Nat} : Agrees false R x (fault c left) :=
  of_related fun _ _ _ hb => absurd hb fault_ne_ok

theorem same : Agrees total Eq x x :=
  of_exists fun a ha => ⟨a, ha, rfl⟩

/-- What is known of the first reading goes along. -/
theorem with_left (h : Agrees total R x y) : Agrees total (fun a b => x = .ok a ∧ R a b) x y :=
  fun a hx => ⟨(h a hx).1, fun _ hy => ⟨hx, h.related hx hy⟩⟩

theorem bind {f : α → Except Fault γ} {g : β → Except Fault δ} (h : Agrees total R x y)
    (hf : ∀ a b, R a b → Agrees total Q (f a) (g b)) : Agrees total Q (x >>= f) (y >>= g) := by
  intro c hc
  obtain ⟨a, ha, hc⟩ := bind_eq_ok_iff.1 hc
  constructor
  · intro htotal
    obtain ⟨b, hb⟩ := (h a ha).1 htotal
    obtain ⟨d, hd⟩ := (hf a b (h.related ha hb) c hc).1 htotal
    exact ⟨d, bind_eq_ok_iff.2 ⟨b, hb, hd⟩⟩
  · intro d hd
    obtain ⟨b, hb, hd⟩ := bind_eq_ok_iff.1 hd
    exact (hf a b (h.related ha hb)).related hc hd

/-- A step onto the rest tells that the rest is no single backslash. -/
theorem settle {s t : Text} {f : Unit → Except Fault γ} {g : Unit → Except Fault δ}
    (ht : s ≠ ['\\'] → t ≠ ['\\']) (h : s ≠ ['\\'] → Agrees total Q (f ()) (g ())) :
    Agrees total Q (settle s >>= f) (settle t >>= g) := by
  intro c hc
  obtain ⟨⟨⟩, hs, hc⟩ := bind_eq_ok_iff.1 hc
  have hs := settle_eq_ok_iff.1 hs
  rw [settle_eq_ok_iff.2 (ht hs)]
  exact h hs c hc

end Agrees

/-- A test fails on every character of a list if it is seen to fail on one after the other. -/
theorem forall_eq_false {p : Char → Bool} {cs : List Char} (h : cs.all (!p ·) = true) :
    ∀ c ∈ cs, p c = false := by
  simpa using h

theorem forall_mem_of_all {p : Char → Prop} [DecidablePred p] {cs : List Char}
    (h : (cs.all fun c => decide (p c)) = true) : ∀ c ∈ cs, p c := by
  simpa using h

/-- The characters at which corresponding texts may differ, and none of which belongs to a word. -/
def breaks : List Char :=
  ['\\', '.', '[', ']', '(', ')', '/']

/-- The texts correspond up to breaks: a character that is none is kept, and only a break stands for
a break or the end. The second text is no backslash that nothing follows. -/
structure Corresponds (T : Text → Text → Prop) : Prop where
  word : ∀ {c s t}, c ∉ breaks → T (c :: s) t → ∃ t', t = c :: t' ∧ (s ≠ ['\\'] → T s t')
  other : ∀ {s t}, (∀ c, s.head? = some c → c ∈ breaks) → T s t → ∀ c, t.head? = some c → c ∈ breaks
  settles : ∀ {s t}, T s t → t ≠ ['\\']

/-- A text with another character in it is no backslash. -/
theorem append_cons_settles {c : Char} (hc : c ≠ '\\') (s t : Text) : s ++ c :: t ≠ ['\\'] := by
  intro he
  have hmem : c ∈ ['\\'] := he ▸ List.mem_append_right s (List.mem_cons_self ..)
  exact hc (List.mem_singleton.1 hmem)

/-- What was read is related and what is left corresponds. -/
def Reads {α β : Type} (R : α → β → Prop) (T : Text → Text → Prop) (a : α × Text) (b : β × Text) :
    Prop :=
  R a.1 b.1 ∧ T a.2 b.2

/-- A character that is no break comes next in both texts or in neither. -/
theorem Corresponds.head_cases {T : Text → Text → Prop} (hT : Corresponds T) {s t : Text} (c : Char)
    (hc : c ∉ breaks) (h : T s t) :
    (∃ s' t', s = c :: s' ∧ t = c :: t' ∧ (s' ≠ ['\\'] → T s' t')) ∨
      (∀ s', s ≠ c :: s') ∧ ∀ t', t ≠ c :: t' := by
  by_cases hs : ∃ s', s = c :: s'
  · obtain ⟨s', rfl⟩ := hs
    obtain ⟨t', rfl, hrest⟩ := hT.word hc h
    exact .inl ⟨s', t', rfl, rfl, hrest⟩
  · refine .inr ⟨fun s' he => hs ⟨s', he⟩, ?_⟩
    rintro t' rfl
    by_cases hbreak : ∀ d, s.head? = some d → d ∈ breaks
    · exact hc (hT.other hbreak h c rfl)
    · cases s with
      | nil => simp at hbreak
      | cons d s =>
        have hd : d ∉ breaks := by simpa using hbreak
        obtain ⟨t'', he, -⟩ := hT.word hd h
        obtain ⟨rfl, -⟩ := List.cons.inj he
        exact hs ⟨s, rfl⟩

section Words

variable {total : Bool} {T : Text → Text → Prop} {s t : Text}

/-- A step from a character of a word. -/
theorem Corresponds.step (hT : Corresponds T) {α β : Type} {R : α → β → Prop}
    {f : Unit → Except Fault α} {g : Unit → Except Fault β} (hst : s ≠ ['\\'] → T s t)
    (h : T s t → Agrees total R (f ()) (g ())) :
    Agrees total R (settle s >>= f) (settle t >>= g) :=
  .settle (fun hs => hT.settles (hst hs)) fun hs => h (hst hs)

theorem readWhile_stop {p : Char → Bool} {n : Nat} (h : ∀ c, s.head? = some c → p c = false) :
    readWhile p n s = .ok ([], s) := by
  cases n with
  | zero => rfl
  | succ n =>
    cases s with
    | nil => rfl
    | cons c s => simp [readWhile, h c rfl]

theorem readWhile_agrees (hT : Corresponds T) {p : Char → Bool} (hp : ∀ c ∈ breaks, p c = false)
    {n m : Nat} (hn : n = m ∨ s.length ≤ n ∧ t.length ≤ m) (h : T s t) :
    Agrees total (Reads Eq T) (readWhile p n s) (readWhile p m t) := by
  induction s generalizing n m t with
  | nil =>
    rw [readWhile_stop (s := []) (by simp),
      readWhile_stop fun c hc => hp c (hT.other (by simp) h c hc)]
    exact .ok ⟨rfl, h⟩
  | cons c s ih =>
    by_cases hc : p c = true
    · have hword : c ∉ breaks := fun hm => by simp [hp c hm] at hc
      obtain ⟨t, rfl, ht⟩ := hT.word hword h
      cases n with
      | zero =>
        obtain rfl : 0 = m := hn.resolve_right fun h => by simp at h
        exact .ok ⟨rfl, h⟩
      | succ n =>
        cases m with
        | zero => exact absurd hn (by simp)
        | succ m =>
          simp only [readWhile, if_pos hc]
          refine hT.step ht fun hst => ?_
          refine (ih (by simpa using hn) hst).bind fun r r' hr => .ok ⟨?_, hr.2⟩
          exact congrArg (c :: ·) hr.1
    · have hstop (u : Text) (hu : u.head? = some c) (k : Nat) : readWhile p k u = .ok ([], u) :=
        readWhile_stop fun d hd => by
          obtain rfl := Option.some.inj (hu.symm.trans hd)
          simpa using hc
      rw [hstop (c :: s) rfl]
      by_cases hb : c ∈ breaks
      · rw [readWhile_stop fun d hd => hp d (hT.other (by simpa using hb) h d hd)]
        exact .ok ⟨rfl, h⟩
      · obtain ⟨t, rfl, -⟩ := hT.word hb h
        rw [hstop (c :: t) rfl]
        exact .ok ⟨rfl, h⟩

theorem readUntil_append_done {stop : Char} {what : String} {done name rest : Text}
    (h : readUntil stop what done s = .ok (name, rest)) : ∃ more, name = done.reverse ++ more := by
  fun_induction readUntil stop what done s with
  | case1 => exact absurd h fault_ne_ok
  | case2 => exact absurd h fault_ne_ok
  | case3 done c s ih =>
    obtain ⟨⟨⟩, -, h⟩ := bind_eq_ok_iff.1 h
    obtain ⟨more, rfl⟩ := ih h
    exact ⟨'\\' :: c :: more, by simp⟩
  | case4 done c s hne ih =>
    obtain ⟨⟨⟩, -, h⟩ := bind_eq_ok_iff.1 h
    split at h
    · split at h
      · exact absurd h fault_ne_ok
      · obtain ⟨rfl, -⟩ := Prod.mk.inj (Except.ok.inj h)
        exact ⟨[], by simp⟩
    · obtain ⟨more, rfl⟩ := ih h
      exact ⟨c :: more, by simp⟩

/-- A name without breaks is read in the second text as well. -/
theorem readUntil_agrees (hT : Corresponds T) {stop : Char} (hne : stop ≠ '\\')
    (hstop : ∀ s t, T (stop :: s) t → ∃ t', t = stop :: t' ∧ (s ≠ ['\\'] → T s t'))
    {what : String} {done name rest : Text} (h : T s t)
    (hs : readUntil stop what done s = .ok (name, rest)) (hname : ∀ c ∈ name, c ∉ breaks) :
    ∃ rest', readUntil stop what done t = .ok (name, rest') ∧ T rest rest' := by
  fun_induction readUntil stop what done s generalizing t with
  | case1 => exact absurd hs fault_ne_ok
  | case2 => exact absurd hs fault_ne_ok
  | case3 done c s ih =>
    obtain ⟨⟨⟩, -, hs⟩ := bind_eq_ok_iff.1 hs
    obtain ⟨more, rfl⟩ := readUntil_append_done hs
    exact absurd (by decide) (hname '\\' (by simp))
  | case4 done c s hesc ih =>
    obtain ⟨⟨⟩, hsettle, hs⟩ := bind_eq_ok_iff.1 hs
    have hrest := settle_eq_ok_iff.1 hsettle
    by_cases hc : c = stop
    · subst hc
      rw [if_pos rfl] at hs
      split at hs
      · exact absurd hs fault_ne_ok
      · rename_i hdone
        obtain ⟨rfl, rfl⟩ := Prod.mk.inj (Except.ok.inj hs)
        obtain ⟨t, rfl, hT'⟩ := hstop s t h
        refine ⟨t, ?_, hT' hrest⟩
        rw [readUntil]
        · rw [settle_ok (hT.settles (hT' hrest)), ok_bind, if_pos rfl, if_neg hdone]
        · exact fun _ _ hc => absurd hc hne
    · rw [if_neg hc] at hs
      obtain ⟨more, hmore⟩ := readUntil_append_done hs
      have hword : c ∉ breaks := hname c (by simp [hmore])
      obtain ⟨t, rfl, hT'⟩ := hT.word hword h
      obtain ⟨rest', hread, hTrest⟩ := ih (hT' hrest) hs
      refine ⟨rest', ?_, hTrest⟩
      rw [readUntil]
      · rw [settle_ok (hT.settles (hT' hrest)), ok_bind, if_neg hc, hread]
      · exact fun _ _ hc => absurd (by rw [hc]; decide) hword

end Words

/-! ## Escapes -/

section Escapes

variable {total : Bool} {T : Text → Text → Prop} {s t : Text} {env env' : Surroundings}

theorem isHexDigit_break : ∀ c ∈ breaks, isHexDigit c = false :=
  forall_eq_false (by decide)

theorem isOctalDigit_break : ∀ c ∈ breaks, isOctalDigit c = false :=
  forall_eq_false (by decide)

theorem isDigit_break : ∀ c ∈ breaks, isDigit c = false :=
  forall_eq_false (by decide)

theorem readHex_agrees (hT : Corresponds T) (c : Char) (count : Nat) (h : T s t) :
    Agrees total (Reads Eq T) (readHex c count s) (readHex c count t) := by
  refine (readWhile_agrees hT isHexDigit_break (.inl rfl) h).bind ?_
  rintro ⟨digits, rest⟩ ⟨digits', rest'⟩ ⟨hd, hr⟩
  obtain rfl : digits = digits' := hd
  dsimp only
  split
  · exact .fault_left
  · split
    · exact .error_left
    · split
      · exact .fault_left
      · exact .ok ⟨rfl, hr⟩

/-- The characters of names are no breaks. -/
theorem not_mem_breaks_of_isSpelling {name : Text} (hspelling : CodePoint.isSpelling name = true) :
    ∀ c ∈ name, c ∉ breaks := by
  have hletter : ∀ b ∈ breaks, CodePoint.isAsciiLetter b.toNat = false :=
    forall_eq_false (by decide)
  have hpart : ∀ b ∈ breaks, CodePoint.isNamePart b = false :=
    forall_eq_false (by decide)
  cases name with
  | nil => simp
  | cons d name =>
    simp only [CodePoint.isSpelling, Bool.and_eq_true, List.all_eq_true] at hspelling
    intro c hc hb
    rcases List.mem_cons.1 hc with rfl | hc
    · simp [hletter c hb] at hspelling
    · have := hspelling.2 c hc
      simp [hpart c hb] at this

theorem readNamed_agrees (hT : Corresponds T) (h : T s t) :
    Agrees total (Reads Eq T) (readNamed s) (readNamed t) := by
  match s with
  | [] => exact .fault_left
  | c :: s =>
    by_cases hc : c = '\x7b'
    · subst hc
      obtain ⟨t, rfl, hrest⟩ := hT.word (by decide) h
      refine hT.step hrest fun hst => .of_exists ?_
      rintro ⟨code, rest⟩ hx
      obtain ⟨⟨name, r⟩, hname, hx⟩ := bind_eq_ok_iff.1 hx
      cases hcode : CodePoint.ofName? name with
      | none =>
        simp only [hcode] at hx
        exact absurd hx fault_ne_ok
      | some known =>
        obtain ⟨r', hname', hr⟩ := readUntil_agrees hT (by decide) (fun s t => hT.word (by decide))
          hst hname (not_mem_breaks_of_isSpelling (CodePoint.isSpelling_of_ofName? hcode))
        simp only [hcode] at hx
        obtain ⟨rfl, rfl⟩ := Prod.mk.inj (Except.ok.inj hx)
        refine ⟨(known, r'), ?_, rfl, hr⟩
        rw [hname', ok_bind]
        simp only [hcode]
        rfl
    · rw [readNamed]
      · exact .fault_left
      · exact fun _ h => hc (List.cons.inj h).1

theorem readOctal_agrees (hT : Corresponds T) (c : Char) (h : T s t) :
    Agrees total (Reads Eq T) (readOctal c s) (readOctal c t) := by
  refine (readWhile_agrees hT isOctalDigit_break (.inl rfl) h).bind ?_
  rintro ⟨digits, rest⟩ ⟨digits', rest'⟩ ⟨hd, hr⟩
  obtain rfl : digits = digits' := hd
  dsimp only
  split
  · exact .fault_left
  · exact .ok ⟨rfl, hr⟩

theorem readClassEscape_agrees (hT : Corresponds T) (c : Char) (h : T s t) :
    Agrees total (Reads Eq T) (readClassEscape c s) (readClassEscape c t) := by
  unfold readClassEscape
  split
  · exact .ok ⟨rfl, h⟩
  · exact .ok ⟨rfl, h⟩
  · exact (readHex_agrees hT c _ h).bind fun r r' hr => .ok ⟨congrArg Member.single hr.1, hr.2⟩
  · split
    · exact (readNamed_agrees hT h).bind fun r r' hr => .ok ⟨congrArg Member.single hr.1, hr.2⟩
    · split
      · exact (readOctal_agrees hT c h).bind fun r r' hr =>
          .ok ⟨congrArg Member.single hr.1, hr.2⟩
      · split
        · exact .fault_left
        · exact .ok ⟨rfl, h⟩

theorem checkBehind_agrees {group m n : Nat} :
    Agrees total Eq (env.checkBehind group m) (env.checkBehind group n) := by
  unfold Surroundings.checkBehind
  split
  · exact .ok rfl
  · split
    · exact .fault_left
    · split
      · exact .fault_left
      · exact .ok rfl

theorem referenceTo_eq {digits : Text} {n : Node}
    (h : referenceTo env digits s = .ok n) :
    n = .backreference (valueOf 10 digitValue 0 digits) := by
  unfold referenceTo at h
  dsimp only at h
  split at h
  · exact absurd h fault_ne_ok
  · split at h
    · exact absurd h fault_ne_ok
    · obtain ⟨⟨⟩, -, h⟩ := bind_eq_ok_iff.1 h
      exact (Except.ok.inj h).symm

/-- A reference by number is one to the same group. It is read again where the same groups are
known. -/
theorem referenceTo_agrees (henv : total = true → env = env') {digits : Text} :
    Agrees total Eq (referenceTo env digits s) (referenceTo env' digits t) := by
  cases total with
  | false => exact .of_related fun n m hn hm => by rw [referenceTo_eq hn, referenceTo_eq hm]
  | true =>
    obtain rfl := henv rfl
    unfold referenceTo
    dsimp only
    split
    · exact .fault_left
    · split
      · exact .fault_left
      · exact checkBehind_agrees.bind fun _ _ _ => .ok rfl

theorem readNumbered_agrees (hT : Corresponds T) (henv : total = true → env = env') (c : Char)
    (h : T s t) :
    Agrees total (Reads Eq T) (readNumbered env c s) (readNumbered env' c t) := by
  refine (readWhile_agrees hT isDigit_break (.inl rfl) h).bind ?_
  rintro ⟨second, rest⟩ ⟨second', rest'⟩ ⟨hd, hr⟩
  obtain rfl : second = second' := hd
  refine (readWhile_agrees hT isOctalDigit_break (.inl rfl) hr).bind ?_
  rintro ⟨third, rest⟩ ⟨third', rest'⟩ ⟨hd, hr⟩
  obtain rfl : third = third' := hd
  dsimp only
  split
  · split
    · exact .fault_left
    · exact .ok ⟨rfl, hr⟩
  · exact (referenceTo_agrees henv).bind fun n m hnm => .ok ⟨hnm, hr⟩

/-- An escape is read as the same tree. -/
theorem readEscape_agrees (hT : Corresponds T) (henv : total = true → env = env') (c : Char)
    (h : T s t) :
    Agrees total (Reads Eq T) (readEscape env c s) (readEscape env' c t) := by
  unfold readEscape
  split
  · exact .ok ⟨rfl, h⟩
  · exact .ok ⟨rfl, h⟩
  · exact .ok ⟨rfl, h⟩
  · exact (readHex_agrees hT c _ h).bind fun r r' hr => .ok ⟨congrArg Node.ofCode hr.1, hr.2⟩
  · split
    · exact (readNamed_agrees hT h).bind fun r r' hr => .ok ⟨congrArg Node.ofCode hr.1, hr.2⟩
    · split
      · refine (readWhile_agrees hT isOctalDigit_break (.inl rfl) h).bind fun r r' hr =>
          .ok ⟨?_, hr.2⟩
        exact congrArg (fun digits => Node.ofCode (valueOf 8 digitValue 0 digits)) hr.1
      · split
        · exact readNumbered_agrees hT henv c h
        · split
          · exact .fault_left
          · exact .ok ⟨rfl, h⟩

end Escapes

/-! ## Quantifiers -/

section Quantifiers

variable {total : Bool} {T : Text → Text → Prop} {s t : Text}

theorem readHigh_agrees (hT : Corresponds T) (low : Text) (h : T s t) :
    Agrees total (Reads Eq T) (readBraces.readHigh low s) (readBraces.readHigh low t) := by
  obtain ⟨s', t', rfl, rfl, hrest⟩ | ⟨hs, ht⟩ := hT.head_cases ',' (by decide) h
  · refine hT.step hrest fun hst => ?_
    exact readWhile_agrees hT isDigit_break (.inr ⟨Nat.le_refl _, Nat.le_refl _⟩) hst
  · rw [readBraces.readHigh, readBraces.readHigh]
    · exact .ok ⟨rfl, h⟩
    · exact ht
    · exact hs

theorem boundsOf_agrees {low high : Text} {m n : Nat} :
    Agrees total Eq (boundsOf low high m) (boundsOf low high n) := by
  have hmost (least : Nat) : Agrees total Eq
      (if high = [] then .ok ⟨least, none⟩
        else readCount high >>= fun most =>
          if most < least then fault .reversedBounds m else .ok (Bounds.mk least (some most)))
      (if high = [] then .ok ⟨least, none⟩
        else readCount high >>= fun most =>
          if most < least then fault .reversedBounds n else .ok (Bounds.mk least (some most))) := by
    split
    · exact .ok rfl
    · refine Agrees.bind .same ?_
      rintro most _ rfl
      split
      · exact .fault_left
      · exact .ok rfl
  unfold boundsOf
  dsimp only
  split
  · exact hmost 0
  · refine Agrees.bind .same ?_
    rintro least _ rfl
    exact hmost least

theorem readBraces_agrees (hT : Corresponds T) (h : T s t) :
    Agrees total (Reads Eq T) (readBraces s) (readBraces t) := by
  unfold readBraces
  obtain ⟨s', t', rfl, rfl, -⟩ | ⟨hs, ht⟩ := hT.head_cases '\x7d' (by decide) h
  · exact .ok ⟨rfl, h⟩
  · have hhead {u : Text} (hu : ∀ u', u ≠ '\x7d' :: u') : u.head? ≠ some '\x7d' := by
      intro he
      obtain ⟨u', rfl⟩ := List.head?_eq_some_iff.1 he
      exact hu u' rfl
    rw [if_neg (hhead hs), if_neg (hhead ht)]
    refine (readWhile_agrees hT isDigit_break (.inr ⟨Nat.le_refl _, Nat.le_refl _⟩) h).bind ?_
    rintro ⟨low, rest⟩ ⟨low', rest'⟩ ⟨hlow, hr⟩
    obtain rfl : low = low' := hlow
    refine (readHigh_agrees hT low hr).bind ?_
    rintro ⟨high, rest⟩ ⟨high', rest'⟩ ⟨hhigh, hr⟩
    obtain rfl : high = high' := hhigh
    dsimp only at hr ⊢
    obtain ⟨s', t', rfl, rfl, hrest⟩ | ⟨hs', ht'⟩ := hT.head_cases '\x7d' (by decide) hr
    · refine hT.step hrest fun hst => ?_
      exact boundsOf_agrees.bind fun b b' hb => .ok ⟨congrArg some hb, hst⟩
    · split
      · exact absurd rfl (hs' _)
      · exact .ok ⟨rfl, h⟩

theorem readBounds_agrees (hT : Corresponds T) (c : Char) (h : T s t) :
    Agrees total (Reads Eq T) (readBounds c s) (readBounds c t) := by
  unfold readBounds
  split
  · exact .ok ⟨rfl, h⟩
  · split
    · exact .ok ⟨rfl, h⟩
    · split
      · exact .ok ⟨rfl, h⟩
      · exact readBraces_agrees hT h

theorem readMode_agrees (hT : Corresponds T) (h : T s t) :
    Agrees total (Reads Eq T) (readMode s) (readMode t) := by
  obtain ⟨s', t', rfl, rfl, hrest⟩ | ⟨hs, ht⟩ := hT.head_cases '?' (by decide) h
  · exact hT.step hrest fun hst => .ok ⟨rfl, hst⟩
  · obtain ⟨s', t', rfl, rfl, hrest⟩ | ⟨hs', ht'⟩ := hT.head_cases '+' (by decide) h
    · exact hT.step hrest fun hst => .ok ⟨rfl, hst⟩
    · rw [readMode, readMode]
      · exact .ok ⟨rfl, h⟩
      · exact ht
      · exact ht'
      · exact hs
      · exact hs'

end Quantifiers

end PathRouter.Regex
