import PathRouter.Proofs.GuardQuantifier
import PathRouter.Proofs.TokenReading

/-!
# Limits that a reader can reach

A fault is a verdict on an expression, unless it is one of the limits: a numeral that is too long or
too large, a code that is too large. Only bounds in braces and numeric escapes can reach a limit
while an expression is read. So it is seen from the text whether it stays within them.
-/

namespace PathRouter.Regex
set_option autoImplicit false

/-! ## Texts within the limits -/

/-- The characters up to the first break. -/
def word (s : Text) : Text :=
  s.takeWhile fun c => !breaks.contains c

/-- The numeral at the start can be read, in decimal digits of any script, and as a count. -/
def numeralFits (s : Text) : Bool :=
  decide ((s.takeWhile fun c => CodePoint.isDecimal c.toNat).length ≤ Text.maxDigits) &&
    decide (valueOf 10 digitValue 0 (s.takeWhile isDigit) < maxCount)

/-- The numerals can be read that stand here for bounds, the second behind a comma. -/
def boundsFit (s : Text) : Bool :=
  numeralFits s &&
    match s.dropWhile fun c => CodePoint.isDecimal c.toNat with
    | ',' :: rest => numeralFits rest
    | _ => true

/-- The code can be read that stands here after the letter of an escape. -/
def codeFits (letter : Char) (s : Text) : Bool :=
  (hexCount? letter).all fun count =>
    decide (valueOf 16 digitValue 0 ((s.takeWhile isHexDigit).take count) < 0x80000000)

/-- A parenthesis before the text begins a look behind. -/
def looksBehind (s : Text) : Bool :=
  ['?', '<', '='].isPrefixOf s || ['?', '<', '!'].isPrefixOf s

/-- What a character asks for as a token, with what follows it. -/
def charFits (c : Char) (s : Text) : Bool :=
  if c = '\x7b' then boundsFit s
  else if c = '(' then !looksBehind s
  else true

/-- No token of the text asks for more than the limits allow, and none begins a look behind. -/
def staysInLimits : Text → Bool
  | [] => true
  | '\\' :: c :: rest => codeFits c rest && staysInLimits rest
  | c :: rest => charFits c rest && staysInLimits rest

section Texts

variable {p : Char → Bool} {s t start : Text} {c : Char}

theorem word_cons : word (c :: s) = if c ∈ breaks then [] else c :: word s := by
  by_cases hc : c ∈ breaks <;> simp [word, hc]

theorem takeWhile_takeWhile {q : Char → Bool} (h : ∀ c, p c = true → q c = true) (s : Text) :
    (s.takeWhile q).takeWhile p = s.takeWhile p := by
  induction s with
  | nil => rfl
  | cons c s ih =>
    by_cases hp : p c = true
    · simp [hp, h c hp, ih]
    · by_cases hq : q c = true <;> simp [hp, hq]

theorem takeWhile_word (hp : ∀ c ∈ breaks, p c = false) : (word s).takeWhile p = s.takeWhile p := by
  apply takeWhile_takeWhile
  intro c hc
  have : c ∉ breaks := fun hb => absurd ((hp c hb).symm.trans hc) (by simp)
  simpa using this

theorem dropWhile_word (hp : ∀ c ∈ breaks, p c = false) :
    (word s).dropWhile p = word (s.dropWhile p) := by
  induction s with
  | nil => rfl
  | cons c s ih =>
    rw [word_cons]
    split
    · rename_i hc
      simp [hp c hc, word_cons, hc]
    · rename_i hbreak
      by_cases hc : p c = true <;> simp [hc, ih, word_cons, hbreak]

theorem isPrefixOf_word {w : Text} (hw : ∀ c ∈ w, c ∉ breaks) :
    w.isPrefixOf (word s) = w.isPrefixOf s := by
  induction w generalizing s with
  | nil => simp
  | cons c w ih =>
    rw [List.forall_mem_cons] at hw
    cases s with
    | nil => rfl
    | cons d s =>
      rw [word_cons]
      split
      · rename_i hd
        have hne : c ≠ d := fun he => hw.1 (he ▸ hd)
        simp [List.isPrefixOf, hne]
      · simp [List.isPrefixOf, ih hw.2]

theorem isDecimal_break : ∀ c ∈ breaks, CodePoint.isDecimal c.toNat = false :=
  forall_eq_false (by decide)

theorem numeralFits_word : numeralFits (word s) = numeralFits s := by
  rw [numeralFits, takeWhile_word isDecimal_break, takeWhile_word isDigit_break, numeralFits]

theorem boundsFit_word : boundsFit (word s) = boundsFit s := by
  rw [boundsFit, boundsFit, numeralFits_word, dropWhile_word isDecimal_break]
  cases s.dropWhile fun c => CodePoint.isDecimal c.toNat with
  | nil => rfl
  | cons c rest =>
    by_cases hc : c = ','
    · subst hc
      rw [word_cons, if_neg (by decide)]
      exact congrArg (_ && ·) numeralFits_word
    · by_cases hbreak : c ∈ breaks <;> simp [word_cons, hbreak, hc]

/-- What is told from the word at the start is the same for texts with the same word. -/
theorem eq_of_word {f : Text → Bool} (hf : ∀ s, f (word s) = f s) (h : word s = word t) :
    f s = f t := by
  rw [← hf s, h, hf t]

theorem codeFits_word (h : word s = word t) : codeFits c s = codeFits c t := by
  refine eq_of_word (fun s => ?_) h
  rw [codeFits, takeWhile_word isHexDigit_break, codeFits]

theorem charFits_word (h : word s = word t) : charFits c s = charFits c t := by
  unfold charFits
  split
  · exact eq_of_word (fun _ => boundsFit_word) h
  · split
    · refine congrArg (!·) (eq_of_word (fun s => ?_) h)
      rw [looksBehind, isPrefixOf_word (forall_mem_of_all (by decide)),
        isPrefixOf_word (forall_mem_of_all (by decide)), looksBehind]
    · rfl

theorem staysInLimits_char (hc : c ≠ '\\') :
    staysInLimits (c :: s) = (charFits c s && staysInLimits s) := by
  rw [staysInLimits]
  exact fun _ _ he => absurd he hc

theorem charFits_other (hc : c ∉ ['\x7b', '(']) : charFits c s = true := by
  simp only [List.mem_cons, List.not_mem_nil, or_false, not_or] at hc
  rw [charFits, if_neg hc.1, if_neg hc.2]

/-- What begins with a token of the text stays in the limits as well. -/
theorem Tokenwise.staysInLimits (h : Tokenwise start s) (hstart : staysInLimits start = true) :
    staysInLimits s = true := by
  induction h with
  | start _ => exact hstart
  | escape _ _ ih => exact (Bool.and_eq_true_iff.1 ih).2
  | char hc _ _ ih =>
    rw [staysInLimits_char hc] at ih
    exact (Bool.and_eq_true_iff.1 ih).2

end Texts

/-! ## Readers that reach no limit -/

/-- The reader reads something, or finds the expression malformed. -/
def Ordinary {α : Type} (x : Except Fault α) : Prop :=
  ∀ f, x = .error f → f.isMalformed = true

namespace Ordinary

variable {α β : Type}

@[simp] theorem ok (a : α) : Ordinary (.ok a : Except Fault α) :=
  fun _ h => absurd h (by simp)

@[simp] theorem pure (a : α) : Ordinary (Pure.pure a : Except Fault α) :=
  ok a

@[simp] theorem fault (complaint : Complaint) (left : Nat) :
    Ordinary (Regex.fault complaint left : Except Fault α) := by
  intro f h
  obtain rfl := Except.error.inj h
  rfl

@[simp] theorem malformed (complaint : Complaint) (left : Option Nat) :
    Ordinary (.error (.malformed complaint left) : Except Fault α) := by
  intro f h
  obtain rfl := Except.error.inj h
  rfl

theorem bind {x : Except Fault α} {g : α → Except Fault β} (hx : Ordinary x)
    (hg : ∀ a, x = .ok a → Ordinary (g a)) : Ordinary (x >>= g) := by
  cases x with
  | error f =>
    intro f' h
    obtain rfl := Except.error.inj h
    exact hx f rfl
  | ok a => exact hg a rfl

@[simp] theorem settle (rest : Text) : Ordinary (settle rest) := by
  unfold Regex.settle
  split <;> simp

/-- A step onto the rest does not reach a limit by itself. -/
theorem settled {rest : Text} {g : Unit → Except Fault β}
    (hg : rest ≠ ['\\'] → Ordinary (g ())) : Ordinary (Regex.settle rest >>= g) :=
  (settle rest).bind fun _ h => hg (settle_eq_ok_iff.1 h)

/-! ### Words -/

theorem readToken (s : Text) : Ordinary (readToken s) := by
  unfold Regex.readToken
  split
  · exact ok _
  · exact settled fun _ => pure _
  · exact settled fun _ => pure _

theorem readWhile (p : Char → Bool) (n : Nat) (s : Text) : Ordinary (readWhile p n s) := by
  fun_induction Regex.readWhile p n s with
  | case1 => exact ok _
  | case2 => exact ok _
  | case3 n c s hc ih => exact settled fun _ => ih.bind fun _ _ => pure _
  | case4 => exact ok _

theorem readUntil (stop : Char) (what : String) (done s : Text) :
    Ordinary (readUntil stop what done s) := by
  fun_induction Regex.readUntil stop what done s with
  | case1 => exact fault _ _
  | case2 => exact fault _ _
  | case3 done c s ih => exact settled fun _ => ih
  | case4 done c s hesc ih =>
    refine settled fun _ => ?_
    split
    · split
      · exact fault _ _
      · exact ok _
    · exact ih

/-- What skips up to a terminator reaches no limit, if it reaches none at the end. -/
theorem skips {stop : Char} {found : Text → α} {read : Text → Except Fault α}
    (hr : Skips stop found read) (hnil : Ordinary (read [])) {s : Text} (hs : s ≠ ['\\']) :
    Ordinary (read s) := by
  fun_induction holdsBefore stop [] s with
  | case1 => exact hnil
  | case2 c s ih =>
    rw [hr.escape]
    exact settled ih
  | case3 s hesc =>
    rw [hr.ends]
    exact settled fun _ => ok _
  | case4 c s hesc hstop ih =>
    have hc : c ≠ '\\' := by
      rintro rfl
      cases s with
      | nil => exact hs rfl
      | cons d s => exact hesc d s rfl rfl
    rw [hr.other c s hc hstop]
    exact settled ih

theorem readLine {s : Text} (hs : s ≠ ['\\']) : Ordinary (readLine s) :=
  skips skips_line (ok _) hs

/-! ### Escapes -/

theorem readWhile_eq {p : Char → Bool} {n : Nat} {s digits rest : Text}
    (h : Regex.readWhile p n s = .ok (digits, rest)) : digits = (s.takeWhile p).take n := by
  fun_induction Regex.readWhile p n s generalizing digits rest with
  | case1 =>
    obtain ⟨rfl, -⟩ := Prod.mk.inj (Except.ok.inj h)
    simp
  | case2 =>
    obtain ⟨rfl, -⟩ := Prod.mk.inj (Except.ok.inj h)
    simp
  | case3 n c s hc ih =>
    obtain ⟨⟨⟩, -, h⟩ := bind_eq_ok_iff.1 h
    obtain ⟨⟨more, r⟩, hmore, h⟩ := bind_eq_ok_iff.1 h
    obtain ⟨rfl, -⟩ := Prod.mk.inj (Except.ok.inj h)
    simp [hc, ih hmore]
  | case4 n c s hc =>
    obtain ⟨rfl, -⟩ := Prod.mk.inj (Except.ok.inj h)
    simp [hc]

theorem readHex {c : Char} {count : Nat} {s : Text} (hcount : hexCount? c = some count)
    (hs : codeFits c s = true) : Ordinary (readHex c count s) := by
  refine (readWhile _ _ _).bind fun ⟨digits, rest⟩ hdigits => ?_
  rw [codeFits, hcount, Option.all_some, ← readWhile_eq hdigits, decide_eq_true_eq] at hs
  dsimp only
  split
  · exact fault _ _
  · rw [if_neg (Nat.not_le.2 hs)]
    split
    · exact fault _ _
    · exact pure _

theorem readNamed (s : Text) : Ordinary (readNamed s) := by
  unfold Regex.readNamed
  split
  · refine settled fun _ => (readUntil _ _ _ _).bind fun ⟨name, rest⟩ _ => ?_
    dsimp only
    split
    · exact pure _
    · exact fault _ _
  · exact fault _ _

theorem readOctal (c : Char) (s : Text) : Ordinary (readOctal c s) := by
  refine (readWhile _ _ _).bind fun _ _ => ?_
  dsimp only
  split
  · exact fault _ _
  · exact pure _

theorem readClassEscape {c : Char} {s : Text} (hs : codeFits c s = true) :
    Ordinary (readClassEscape c s) := by
  unfold Regex.readClassEscape
  split
  · exact ok _
  · exact ok _
  · exact (readHex ‹_› hs).bind fun _ _ => pure _
  · split
    · exact (readNamed s).bind fun _ _ => pure _
    · split
      · exact (readOctal c s).bind fun _ _ => pure _
      · split
        · exact fault _ _
        · exact ok _

theorem checkBehind (env : Surroundings) (group left : Nat) :
    Ordinary (env.checkBehind group left) := by
  unfold Surroundings.checkBehind
  repeat' split
  all_goals simp

theorem referenceTo (env : Surroundings) (digits s : Text) :
    Ordinary (referenceTo env digits s) := by
  unfold Regex.referenceTo
  dsimp only
  split
  · exact fault _ _
  · split
    · exact fault _ _
    · exact (checkBehind _ _ _).bind fun _ _ => pure _

theorem readNumbered (env : Surroundings) (c : Char) (s : Text) :
    Ordinary (readNumbered env c s) := by
  refine (readWhile _ _ _).bind fun _ _ => (readWhile _ _ _).bind fun _ _ => ?_
  dsimp only
  split
  · split
    · exact fault _ _
    · exact pure _
  · exact (referenceTo _ _ _).bind fun _ _ => pure _

theorem readEscape (env : Surroundings) {c : Char} {s : Text} (hs : codeFits c s = true) :
    Ordinary (readEscape env c s) := by
  unfold Regex.readEscape
  split
  · exact ok _
  · exact ok _
  · exact ok _
  · exact (readHex ‹_› hs).bind fun _ _ => pure _
  · split
    · exact (readNamed s).bind fun _ _ => pure _
    · split
      · exact (readWhile _ _ _).bind fun _ _ => pure _
      · split
        · exact readNumbered env c s
        · split
          · exact fault _ _
          · exact ok _

/-! ### Classes -/

theorem readMember (place : Nat) {s : Text} (hs : staysInLimits s = true) :
    Ordinary (readMember place s) := by
  unfold Regex.readMember
  split
  · exact fault _ _
  · rw [staysInLimits, Bool.and_eq_true] at hs
    exact settled fun _ => (readClassEscape hs.1).bind fun _ _ => pure _
  · exact settled fun _ => pure _

theorem rangeOf (low high : Text) (a b : Member) (rest : Text) :
    Ordinary (rangeOf low high a b rest) := by
  unfold Regex.rangeOf
  repeat' split
  all_goals simp

theorem readRange (place : Nat) (low : Text) (m : Member) {s : Text}
    (hs : staysInLimits s = true) : Ordinary (readRange place low m s) := by
  unfold Regex.readRange
  split
  · exact settled fun _ => pure _
  · refine (readMember place hs).bind fun _ _ => ?_
    exact (rangeOf _ _ _ _ _).bind fun _ _ => pure _

end Ordinary

/-- What a member of a class leaves is reached in whole tokens. -/
theorem Tokenwise.readMember {start s t rest : Text} {place : Nat} {m : Member}
    (hs : Tokenwise start s) (h : readMember place s = .ok (t, m, rest)) :
    Tokenwise start rest := by
  unfold Regex.readMember at h
  split at h
  · exact absurd h fault_ne_ok
  · rename_i c r
    obtain ⟨⟨⟩, hsettle, h⟩ := bind_eq_ok_iff.1 h
    obtain ⟨⟨m', r'⟩, hr, h⟩ := bind_eq_ok_iff.1 h
    obtain ⟨-, he⟩ := Prod.mk.inj (Except.ok.inj h)
    obtain ⟨-, rfl⟩ := Prod.mk.inj he
    have hnext := Tokenwise.escape (settle_eq_ok_iff.1 hsettle) hs
    exact IsKept.of_agrees
      (readClassEscape_agrees (tokenwise_isKept start).parallel.corresponds c ⟨rfl, hnext⟩) hr
  · rename_i c r hesc
    obtain ⟨⟨⟩, hsettle, h⟩ := bind_eq_ok_iff.1 h
    obtain ⟨-, he⟩ := Prod.mk.inj (Except.ok.inj h)
    obtain ⟨-, rfl⟩ := Prod.mk.inj he
    exact hs.next hesc (settle_eq_ok_iff.1 hsettle)

theorem Tokenwise.readItem {start s rest : Text} {place : Nat} {first last : Bool}
    {ms : List Member} (hs : Tokenwise start s)
    (h : readItem place first s = .ok (ms, last, rest)) : Tokenwise start rest := by
  have hbracket {r : Text} (hs : Tokenwise start (']' :: r)) (hr : settle r = .ok ()) :
      Tokenwise start r :=
    .char (by decide) (settle_eq_ok_iff.1 hr) hs
  unfold Regex.readItem at h
  split at h
  · obtain ⟨⟨⟩, hsettle, h⟩ := bind_eq_ok_iff.1 h
    obtain ⟨-, he⟩ := Prod.mk.inj (Except.ok.inj h)
    obtain ⟨-, rfl⟩ := Prod.mk.inj he
    exact hbracket hs hsettle
  · obtain ⟨⟨low, m, r⟩, hlow, h⟩ := bind_eq_ok_iff.1 h
    have hr := hs.readMember hlow
    dsimp only at h
    split at h
    · obtain ⟨⟨⟩, hsettle, h⟩ := bind_eq_ok_iff.1 h
      have hhigh := Tokenwise.char (by decide) (settle_eq_ok_iff.1 hsettle) hr
      unfold Regex.readRange at h
      split at h
      · obtain ⟨⟨⟩, hend, h⟩ := bind_eq_ok_iff.1 h
        obtain ⟨-, he⟩ := Prod.mk.inj (Except.ok.inj h)
        obtain ⟨-, rfl⟩ := Prod.mk.inj he
        exact hbracket hhigh hend
      · obtain ⟨⟨high, other, r'⟩, hother, h⟩ := bind_eq_ok_iff.1 h
        obtain ⟨range, -, h⟩ := bind_eq_ok_iff.1 h
        obtain ⟨-, he⟩ := Prod.mk.inj (Except.ok.inj h)
        obtain ⟨-, rfl⟩ := Prod.mk.inj he
        exact hhigh.readMember hother
    · obtain ⟨-, he⟩ := Prod.mk.inj (Except.ok.inj h)
      obtain ⟨-, rfl⟩ := Prod.mk.inj he
      exact hr

namespace Ordinary

theorem readItem (place : Nat) (first : Bool) {s : Text} (hne : s ≠ ['\\'])
    (hs : staysInLimits s = true) : Ordinary (readItem place first s) := by
  unfold Regex.readItem
  split
  · exact settled fun _ => pure _
  · refine (readMember place hs).bind fun ⟨low, m, r⟩ hlow => ?_
    have hr := ((Tokenwise.start hne).readMember hlow).staysInLimits hs
    dsimp only
    split
    · rw [staysInLimits_char (by decide), Bool.and_eq_true] at hr
      exact settled fun _ => readRange place low m hr.2
    · exact pure _

theorem readMembers (place : Nat) (done : List Member) {s : Text} (hne : s ≠ ['\\'])
    (hs : staysInLimits s = true) : Ordinary (readMembers place done s) := by
  fun_induction Regex.readMembers place done s with
  | case1 done s f hitem =>
    intro f' h
    obtain rfl := Except.error.inj h
    exact readItem place _ hne hs f hitem
  | case2 => exact ok _
  | case3 done s ms r hitem ih =>
    have hr := (Tokenwise.start hne).readItem hitem
    exact ih hr.ne_backslash (hr.staysInLimits hs)

theorem readClass {s : Text} (hne : s ≠ ['\\']) (hs : staysInLimits s = true) :
    Ordinary (readClass s) := by
  unfold Regex.readClass
  split
  · rw [staysInLimits_char (by decide), Bool.and_eq_true] at hs
    exact settled fun hr => (readMembers _ _ hr hs.2).bind fun _ _ => pure _
  · exact (readMembers _ _ hne hs).bind fun _ _ => pure _

/-! ### Quantifiers -/

theorem readCount {s : Text} (hs : numeralFits s = true) :
    Ordinary (readCount (s.takeWhile isDigit)) := by
  rw [numeralFits, Bool.and_eq_true, decide_eq_true_eq, decide_eq_true_eq] at hs
  have hdecimal : (s.takeWhile isDigit).length ≤ 4300 := by
    refine Nat.le_trans ?_ hs.1
    rw [← takeWhile_takeWhile (q := fun c => CodePoint.isDecimal c.toNat)
      fun _ => Guard.isDecimal_of_isDigit]
    exact (List.takeWhile_sublist _).length_le
  unfold Regex.readCount
  dsimp only
  rw [if_neg (Nat.not_lt.2 hdecimal), if_neg (Nat.not_le.2 hs.2)]
  exact ok _

theorem boundsOf {low high : Text} (place : Nat) (hlow : Ordinary (Regex.readCount low))
    (hhigh : Ordinary (Regex.readCount high)) : Ordinary (boundsOf low high place) := by
  have hmost (least : Nat) : Ordinary (do
      let most ← Regex.readCount high
      if most < least then Regex.fault .reversedBounds place
      else (return ⟨least, some most⟩ : Except Fault Bounds)) := by
    refine hhigh.bind fun most _ => ?_
    split
    · exact fault _ _
    · exact pure _
  unfold Regex.boundsOf
  dsimp only
  split
  · split
    · exact pure _
    · exact hmost _
  · refine hlow.bind fun least _ => ?_
    split
    · exact pure _
    · exact hmost _

/-- All digits at the start are read. -/
theorem readWhile_all {p : Char → Bool} {s digits rest : Text}
    (h : Regex.readWhile p s.length s = .ok (digits, rest)) :
    digits = s.takeWhile p ∧ s = digits ++ rest := by
  refine ⟨?_, (readWhile_used h).1⟩
  rw [readWhile_eq h, List.take_of_length_le (List.takeWhile_sublist _).length_le]

theorem readBraces {s : Text} (hs : boundsFit s = true) : Ordinary (readBraces s) := by
  rw [boundsFit, Bool.and_eq_true] at hs
  unfold Regex.readBraces
  split
  · exact pure _
  · refine (readWhile _ _ _).bind fun ⟨low, r⟩ hlow => ?_
    obtain ⟨hdigits, he⟩ := readWhile_all hlow
    have hlowfits : Ordinary (Regex.readCount low) := hdigits ▸ readCount hs.1
    dsimp only at he ⊢
    have hhigh : Ordinary (readBraces.readHigh low r) := by
      unfold Regex.readBraces.readHigh
      split
      · exact settled fun _ => readWhile _ _ _
      · exact ok _
    refine hhigh.bind fun ⟨high, r'⟩ hr' => ?_
    have hhighfits : Ordinary (Regex.readCount high) := by
      unfold Regex.readBraces.readHigh at hr'
      split at hr'
      · rename_i rest
        obtain ⟨⟨⟩, -, hr'⟩ := bind_eq_ok_iff.1 hr'
        obtain ⟨rfl, -⟩ := readWhile_all hr'
        have hcomma : ∀ c, (',' :: rest).head? = some c → CodePoint.isDecimal c.toNat = false := by
          intro c hc
          obtain rfl := Option.some.inj hc
          exact Guard.isDecimal_punctuation ',' (by simp)
        have hspan := Guard.spanDigits_append (readWhile_used hlow).2 hcomma
        rw [← he] at hspan
        have hdrop : (s.dropWhile fun c => CodePoint.isDecimal c.toNat) = ',' :: rest :=
          congrArg Prod.snd hspan
        rw [hdrop] at hs
        exact readCount hs.2
      · obtain ⟨rfl, -⟩ := Prod.mk.inj (Except.ok.inj hr')
        exact hlowfits
    dsimp only
    split
    · exact settled fun _ => (boundsOf _ hlowfits hhighfits).bind fun _ _ => pure _
    · exact pure _

theorem readBounds {c : Char} {s : Text} (hc : isQuantifierStart c = true)
    (hs : charFits c s = true) : Ordinary (readBounds c s) := by
  unfold Regex.readBounds
  split
  · exact ok _
  · rename_i hstar
    split
    · exact ok _
    · rename_i hplus
      split
      · exact ok _
      · rename_i hmark
        have hbrace : c = '\x7b' := by simpa [isQuantifierStart, hstar, hplus, hmark] using hc
        rw [hbrace] at hs
        exact readBraces hs

theorem readMode (s : Text) : Ordinary (readMode s) := by
  unfold Regex.readMode
  split
  · exact settled fun _ => pure _
  · exact settled fun _ => pure _
  · exact ok _

/-! ### Openings -/

theorem readOff (on off : List Flag) (s : Text) : Ordinary (readOff on off s) := by
  fun_induction Regex.readOff on off s with
  | case1 => exact fault _ _
  | case2 => exact settled fun _ => fault _ _
  | case3 off c s hesc ih =>
    refine settled fun _ => ?_
    split
    · repeat' split
      all_goals simp
    · split
      · split
        · exact fault _ _
        · exact ih _
      · exact fault _ _

theorem readOn (on : List Flag) (s : Text) : Ordinary (readOn on s) := by
  fun_induction Regex.readOn on s with
  | case1 => exact fault _ _
  | case2 => exact settled fun _ => fault _ _
  | case3 on c s hesc ih =>
    refine settled fun _ => ?_
    split
    · exact pure _
    · split
      · split
        · exact fault _ _
        · exact pure _
      · split
        · split
          · exact fault _ _
          · exact readOff _ _ _
        · split
          · split
            · exact fault _ _
            · split
              · exact fault _ _
              · exact ih _
          · exact fault _ _

theorem readGroupName (stop : Char) (s : Text) : Ordinary (readGroupName stop s) := by
  refine (readUntil _ _ _ _).bind fun _ _ => ?_
  dsimp only
  split
  · exact pure _
  · exact fault _ _

theorem readReference (env : Surroundings) (s : Text) : Ordinary (readReference env s) := by
  refine (readGroupName _ _).bind fun _ _ => ?_
  dsimp only
  split
  · exact fault _ _
  · split
    · exact fault _ _
    · exact (checkBehind _ _ _).bind fun _ _ => pure _

theorem conditionalGroup (name : Text) (place : Nat) : Ordinary (conditionalGroup name place) := by
  unfold Regex.conditionalGroup
  repeat' split
  all_goals simp

theorem readConditional (env : Surroundings) (s : Text) : Ordinary (readConditional env s) := by
  refine (readUntil _ _ _ _).bind fun _ _ => ?_
  dsimp only
  split
  · split
    · exact fault _ _
    · exact (checkBehind _ _ _).bind fun _ _ => pure _
  · refine (conditionalGroup _ _).bind fun _ _ => ?_
    exact (checkBehind _ _ _).bind fun _ _ => pure _

/-- A token other than the known ones is no limit. -/
theorem unknownToken {α : Type} {s : Text} {what : Text → Text} {place : Text × Text → Nat} :
    Ordinary (Regex.readToken s >>= fun x => if x.1 = [] then Regex.fault .unexpectedEnd 0
      else (Regex.fault (.unknownExtension (what x.1)) (place x) : Except Fault α)) := by
  refine (readToken s).bind fun _ _ => ?_
  split <;> simp

theorem readNamedConstruct (env : Surroundings) (s : Text) :
    Ordinary (readNamedConstruct env s) := by
  unfold Regex.readNamedConstruct
  split
  · exact settled fun _ => (readGroupName _ _).bind fun _ _ => pure _
  · exact settled fun _ => readReference env _
  · exact unknownToken

theorem readBehind (s : Text) : Ordinary (readBehind s) := by
  unfold Regex.readBehind
  split
  · exact settled fun _ => pure _
  · exact settled fun _ => pure _
  · exact unknownToken

theorem readExtension (env : Surroundings) (place : Nat) {s : Text} (hne : s ≠ ['\\']) :
    Ordinary (readExtension env place s) := by
  refine (readToken s).bind fun ⟨token, rest⟩ htoken => ?_
  dsimp only
  split
  · exact fault _ _
  · exact readNamedConstruct env rest
  · exact pure _
  · have hrest : rest ≠ ['\\'] := by
      unfold Regex.readToken at htoken
      split at htoken
      · exact absurd (Prod.mk.inj (Except.ok.inj htoken)).1 (by simp)
      · obtain ⟨⟨⟩, -, htoken⟩ := bind_eq_ok_iff.1 htoken
        exact absurd (Prod.mk.inj (Except.ok.inj htoken)).1 (by simp)
      · obtain ⟨⟨⟩, hsettle, htoken⟩ := bind_eq_ok_iff.1 htoken
        obtain ⟨-, rfl⟩ := Prod.mk.inj (Except.ok.inj htoken)
        exact settle_eq_ok_iff.1 hsettle
    exact skips (skips_comment place) (fault _ _) hrest
  · exact pure _
  · exact pure _
  · exact readBehind rest
  · exact readConditional env rest
  · exact pure _
  · split
    · exact readOn [] s
    · exact fault _ _

theorem readOpening (env : Surroundings) (s : Text) : Ordinary (readOpening env s) := by
  unfold Regex.readOpening
  split
  · exact settled fun hne => readExtension env _ hne
  · exact ok _

/-! ### Constructs -/

theorem begin (p : Progress) (place : Nat) (rest : Text) (o : Opening) :
    Ordinary (p.begin place rest o) := by
  unfold Progress.begin
  repeat' split
  all_goals simp

theorem nextAlternative (p : Progress) (left : Nat) : Ordinary (p.nextAlternative left) := by
  unfold Progress.nextAlternative
  split <;> simp

theorem quantify (p : Progress) (b : Bounds) (place : Nat) (s : Text) :
    Ordinary (p.quantify b place s) := by
  unfold Progress.quantify
  split
  · exact fault _ _
  · exact fault _ _
  · exact fault _ _
  · exact (readMode s).bind fun _ _ => pure _

theorem stepSpecial (p : Progress) {c : Char} {s : Text} (hne : s ≠ ['\\'])
    (htoken : charFits c s = true) (hs : staysInLimits s = true) :
    Ordinary (stepSpecial p c s) := by
  unfold Regex.stepSpecial
  split
  · exact (readClass hne hs).bind fun _ _ => pure _
  · split
    · refine (readBounds ‹_› htoken).bind fun ⟨bounds, after⟩ _ => ?_
      dsimp only
      split
      · exact quantify _ _ _ _
      · exact pure _
    · repeat' split
      · exact pure _
      · refine (readOpening _ s).bind fun _ _ => ?_
        exact (begin _ _ _ _).bind fun _ _ => pure _
      all_goals exact pure _

theorem stepChar (p : Progress) {c : Char} {s : Text} (htoken : charFits c s = true)
    (hs : staysInLimits s = true) : Ordinary (stepChar p c s) := by
  unfold Regex.stepChar
  split
  · exact (nextAlternative _ _).bind fun _ _ => settled fun _ => pure _
  · split
    · exact settled fun _ => pure _
    · refine settled fun hne => ?_
      split
      · exact pure _
      · split
        · exact (readLine hne).bind fun _ _ => pure _
        · exact stepSpecial p hne htoken hs

theorem step (p : Progress) {s : Text} (hs : staysInLimits s = true) : Ordinary (step p s) := by
  unfold Regex.step
  split
  · exact ok _
  · rw [staysInLimits, Bool.and_eq_true] at hs
    exact settled fun _ => (readEscape p.surroundings hs.1).bind fun _ _ => pure _
  · rename_i c rest hesc
    rw [staysInLimits, Bool.and_eq_true] at hs
    · exact stepChar p hs.1 hs.2
    · exact fun d r he hr => hesc d r he hr

/-- A text that stays within the limits is read, or found malformed. -/
theorem readConstructs {p : Progress} {s : Text} (hne : s ≠ ['\\'])
    (hs : staysInLimits s = true) : Ordinary (readConstructs p s) := by
  fun_induction Regex.readConstructs p s with
  | case1 => exact ok _
  | case2 => exact ok _
  | case3 p c s hgoes f hstep =>
    intro f' h
    obtain rfl := Except.error.inj h
    exact step p hs f hstep
  | case4 p c s hgoes q rest hstep ih =>
    have hrest := (Tokenwise.start hne).step hstep
    exact ih hrest.ne_backslash (hrest.staysInLimits hs)

end Ordinary

end PathRouter.Regex
