import PathRouter.Proofs.SplicedText

/-!
# Openings of groups in two texts

What an opening parenthesis begins in an expression, it begins as well where the expression is
spliced in or narrowed. Only the groups that are referred to can have other numbers there.
-/

namespace PathRouter.Regex
set_option autoImplicit false

/-- The openings are the same. Unless `total`, what refers to a group can have another number. -/
inductive SameOpening (total : Bool) : Opening → Opening → Prop
  | capture (name : Option Text) : SameOpening total (.capture name) (.capture name)
  | scope (on off : List Flag) : SameOpening total (.scope on off) (.scope on off)
  | atomic : SameOpening total .atomic .atomic
  | look (behind negated : Bool) : SameOpening total (.look behind negated) (.look behind negated)
  | conditional {g g' : Nat} {a a' : Option Nat} :
      (total = true → g' = g ∧ a'.isSome = a.isSome) →
      SameOpening total (.conditional g a) (.conditional g' a')
  | reference {g g' : Nat} : (total = true → g' = g) →
      SameOpening total (.reference g) (.reference g')
  | comment : SameOpening total .comment .comment
  | globals (on : List Flag) : SameOpening total (.globals on) (.globals on)

section Openings

variable {total : Bool} {T : Text → Text → Prop} {s t : Text} {env env' : Surroundings}

/-- A narrowable character is no flag and separates none. -/
theorem ofChar?_narrowable {c : Char} (hc : c ∈ narrowable) : Flag.ofChar? c = none := by
  simp only [narrowable, List.mem_cons, List.not_mem_nil, or_false] at hc
  rcases hc with rfl | rfl | rfl <;> rfl

theorem readOff_agrees (hT : Parallel T) {on off : List Flag} (h : T s t) :
    Agrees total (Reads (SameOpening total) T) (readOff on off s) (readOff on off t) := by
  fun_induction readOff on off s generalizing t with
  | case1 => exact .fault_left
  | case2 off c s =>
    intro a ha
    obtain ⟨⟨⟩, -, ha⟩ := bind_eq_ok_iff.1 ha
    exact absurd ha fault_ne_ok
  | case3 off c s hesc ih =>
    by_cases hchar : c ∈ narrowable
    · intro a ha
      obtain ⟨⟨⟩, -, ha⟩ := bind_eq_ok_iff.1 ha
      rw [if_neg, ofChar?_narrowable hchar] at ha
      · exact absurd ha fault_ne_ok
      · rintro ⟨rfl, -⟩
        exact absurd hchar (by decide)
    · obtain ⟨t', rfl, hrest⟩ := hT.char hchar h
      rw [readOff]
      · refine hT.corresponds.step hrest fun hst => ?_
        split
        · split
          · exact .fault_left
          · split
            · exact .fault_left
            · exact .ok ⟨.scope on off, hst⟩
        · cases hf : Flag.ofChar? c with
          | none => exact .fault_left
          | some f =>
            dsimp only
            split
            · exact .fault_left
            · exact ih f hst
      · rintro d r rfl
        exact absurd (by decide) hchar

theorem readOn_agrees (hT : Parallel T) {on : List Flag} (h : T s t) :
    Agrees total (Reads (SameOpening total) T) (readOn on s) (readOn on t) := by
  fun_induction readOn on s generalizing t with
  | case1 => exact .fault_left
  | case2 c s =>
    intro a ha
    obtain ⟨⟨⟩, -, ha⟩ := bind_eq_ok_iff.1 ha
    exact absurd ha fault_ne_ok
  | case3 on c s hesc ih =>
    by_cases hchar : c ∈ narrowable
    · intro a ha
      obtain ⟨⟨⟩, -, ha⟩ := bind_eq_ok_iff.1 ha
      rw [if_neg, if_neg, if_neg, ofChar?_narrowable hchar] at ha
      · exact absurd ha fault_ne_ok
      · rintro rfl
        exact absurd hchar (by decide)
      · rintro rfl
        exact absurd hchar (by decide)
      · rintro rfl
        exact absurd hchar (by decide)
    · obtain ⟨t', rfl, hrest⟩ := hT.char hchar h
      rw [readOn]
      · refine hT.corresponds.step hrest fun hst => ?_
        split
        · exact .ok ⟨.globals on, hst⟩
        · split
          · split
            · exact .fault_left
            · exact .ok ⟨.scope on [], hst⟩
          · split
            · split
              · exact .fault_left
              · exact readOff_agrees hT hst
            · cases hf : Flag.ofChar? c with
              | none => exact .fault_left
              | some f =>
                dsimp only
                split
                · exact .fault_left
                · split
                  · exact .fault_left
                  · exact ih f hst
      · rintro d r rfl
        exact absurd (by decide) hchar

/-! ## Names -/

theorem not_mem_breaks_of_isIdentifier {name : Text}
    (h : CodePoint.isIdentifier (name.map Char.toNat) = true) : ∀ c ∈ name, c ∉ breaks := by
  have hstart : ∀ b ∈ breaks, CodePoint.isIdentifierStart b.toNat = false :=
    forall_eq_false (by decide)
  have hpart : ∀ b ∈ breaks, CodePoint.isIdentifierPart b.toNat = false :=
    forall_eq_false (by decide)
  cases name with
  | nil => simp
  | cons d name =>
    simp only [List.map_cons, CodePoint.isIdentifier, Bool.and_eq_true, List.all_eq_true,
      List.mem_map, forall_exists_index, and_imp] at h
    intro c hc hb
    rcases List.mem_cons.1 hc with rfl | hc
    · simp [hstart c hb] at h
    · have := h.2 _ c hc rfl
      simp [hpart c hb] at this

/-- The characters that may stand in a numeral. -/
def isNumeralPart (c : CodePoint) : Bool :=
  Text.isNumeralBlank c || c == 43 || c == 45 || c == 95 || (CodePoint.decimalValue? c).isSome

theorem isNumeralPart_of_digitValues? {after : Bool} {codes : List CodePoint} {ds : List Nat}
    (h : Text.digitValues? after codes = some ds) : ∀ c ∈ codes, isNumeralPart c = true := by
  induction codes generalizing after ds with
  | nil => simp
  | cons c rest ih =>
    rw [Text.digitValues?] at h
    have hrest : (∃ after ds, Text.digitValues? after rest = some ds) ∧ isNumeralPart c = true := by
      split at h
      · rename_i hc
        split at h
        · exact ⟨⟨_, _, h⟩, by simp [isNumeralPart, hc]⟩
        · exact absurd h (by simp)
      · split at h
        · rename_i d hd
          obtain ⟨ds', hds', -⟩ := Option.map_eq_some_iff.1 h
          exact ⟨⟨_, _, hds'⟩, by simp [isNumeralPart, hd]⟩
        · exact absurd h (by simp)
    obtain ⟨⟨after', ds', hds'⟩, hc⟩ := hrest
    intro d hd
    rcases List.mem_cons.1 hd with rfl | hd
    · exact hc
    · exact ih hds' d hd

theorem mem_dropWhile_or {α : Type} {p : α → Bool} {xs : List α} {x : α} (h : x ∈ xs) :
    p x = true ∨ x ∈ xs.dropWhile p := by
  rw [← List.takeWhile_append_dropWhile (p := p) (l := xs)] at h
  rcases List.mem_append.1 h with h | h
  · exact .inl (List.all_eq_true.1 List.all_takeWhile x h)
  · exact .inr h

/-- The characters of a numeral are no breaks. -/
theorem not_mem_breaks_of_integer? {name : Text} {n : Int} (h : Text.integer? name = some n) :
    ∀ c ∈ name, c ∉ breaks := by
  have hunsigned {codes : List CodePoint} {k : Nat} (h : Text.unsigned? codes = some k) :
      ∀ c ∈ codes, isNumeralPart c = true := by
    obtain ⟨ds, hds, -⟩ := Option.bind_eq_some_iff.1 h
    exact isNumeralPart_of_digitValues? hds
  have hbreak : ∀ b ∈ breaks, isNumeralPart b.toNat = false :=
    forall_eq_false (by decide)
  have hall : ∀ c ∈ name.map Char.toNat, isNumeralPart c = true := by
    intro c hc
    have hblank (hb : Text.isNumeralBlank c = true) : isNumeralPart c = true := by
      simp [isNumeralPart, hb]
    rcases mem_dropWhile_or (p := Text.isNumeralBlank) hc with hb | hc
    · exact hblank hb
    · rcases mem_dropWhile_or (p := Text.isNumeralBlank) (List.mem_reverse.2 hc) with hb | hc
      · exact hblank hb
      · rw [← List.mem_reverse] at hc
        unfold Text.integer? at h
        dsimp only at h
        split at h
        · rename_i rest heq
          rw [heq] at hc
          obtain ⟨k, hk, -⟩ := Option.map_eq_some_iff.1 h
          rcases List.mem_cons.1 hc with rfl | hc
          · simp [isNumeralPart]
          · exact hunsigned hk c hc
        · rename_i rest heq
          rw [heq] at hc
          obtain ⟨k, hk, -⟩ := Option.map_eq_some_iff.1 h
          rcases List.mem_cons.1 hc with rfl | hc
          · simp [isNumeralPart]
          · exact hunsigned hk c hc
        · obtain ⟨k, hk, -⟩ := Option.map_eq_some_iff.1 h
          exact hunsigned hk c hc
  intro c hc hb
  have := hall _ (List.mem_map_of_mem hc)
  simp [hbreak c hb] at this

theorem readGroupName_agrees (hT : Parallel T) {stop : Char} (hstop : stop ∉ narrowable) (h : T s t) :
    Agrees total (Reads Eq T) (readGroupName stop s) (readGroupName stop t) := by
  refine .of_exists ?_
  rintro ⟨name, rest⟩ hx
  obtain ⟨⟨n, r⟩, hn, hx⟩ := bind_eq_ok_iff.1 hx
  dsimp only at hx
  split at hx
  · rename_i hid
    obtain ⟨rfl, rfl⟩ := Prod.mk.inj (Except.ok.inj hx)
    have hne : stop ≠ '\\' := by
      rintro rfl
      exact hstop (by decide)
    obtain ⟨rest', hread, hrest⟩ := readUntil_agrees hT.corresponds hne (fun s t => hT.char hstop) h
      hn (not_mem_breaks_of_isIdentifier hid)
    refine ⟨(n, rest'), ?_, rfl, hrest⟩
    rw [readGroupName, hread, ok_bind]
    exact if_pos hid
  · exact absurd hx fault_ne_ok

theorem readReference_agrees (hT : Parallel T) (henv : total = true → env = env') (h : T s t) :
    Agrees total (Reads (SameOpening total) T) (readReference env s) (readReference env' t) := by
  refine (readGroupName_agrees hT (by decide) h).bind ?_
  rintro ⟨name, rest⟩ ⟨name', rest'⟩ ⟨hname, hr⟩
  obtain rfl : name = name' := hname
  dsimp only
  cases total with
  | true =>
    obtain rfl := henv rfl
    split
    · exact .fault_left
    · split
      · exact .fault_left
      · exact checkBehind_agrees.bind fun _ _ _ => .ok ⟨.reference fun _ => rfl, hr⟩
  | false =>
    split
    · exact .fault_left
    · split
      · exact .fault_left
      · split
        · exact .fault_right
        · split
          · exact .fault_right
          · refine .of_related fun a b ha hb => ?_
            obtain ⟨⟨⟩, -, ha⟩ := bind_eq_ok_iff.1 ha
            obtain ⟨⟨⟩, -, hb⟩ := bind_eq_ok_iff.1 hb
            obtain rfl := Except.ok.inj ha
            obtain rfl := Except.ok.inj hb
            exact ⟨.reference nofun, hr⟩

/-- What names a group in a conditional has no breaks. -/
theorem not_mem_breaks_of_conditionalGroup {name : Text} {place g : Nat}
    (h : conditionalGroup name place = .ok g) : ∀ c ∈ name, c ∉ breaks := by
  unfold conditionalGroup at h
  split at h
  · rename_i hint
    exact not_mem_breaks_of_integer? hint
  · exact absurd h fault_ne_ok

theorem readConditional_eq {rest : Text} {o : Opening}
    (h : readConditional env s = .ok (o, rest)) : ∃ name g a,
      readUntil ')' "group name" [] s = .ok (name, rest) ∧ (∀ c ∈ name, c ∉ breaks) ∧
        o = .conditional g a := by
  obtain ⟨⟨name, r⟩, hname, h⟩ := bind_eq_ok_iff.1 h
  dsimp only at h
  split at h
  · rename_i hid
    split at h
    · exact absurd h fault_ne_ok
    · obtain ⟨⟨⟩, -, h⟩ := bind_eq_ok_iff.1 h
      obtain ⟨rfl, rfl⟩ := Prod.mk.inj (Except.ok.inj h)
      exact ⟨name, _, _, hname, not_mem_breaks_of_isIdentifier hid, rfl⟩
  · obtain ⟨g, hg, h⟩ := bind_eq_ok_iff.1 h
    obtain ⟨⟨⟩, -, h⟩ := bind_eq_ok_iff.1 h
    obtain ⟨rfl, rfl⟩ := Prod.mk.inj (Except.ok.inj h)
    exact ⟨name, _, _, hname, not_mem_breaks_of_conditionalGroup hg, rfl⟩

theorem conditionalGroup_agrees {name : Text} {i j : Nat} :
    Agrees total Eq (conditionalGroup name i) (conditionalGroup name j) := by
  unfold conditionalGroup
  split
  · split
    · exact .fault_left
    · split
      · exact .fault_left
      · exact .ok rfl
  · exact .fault_left

/-- What a conditional makes of its name. -/
def conditionalOf (env : Surroundings) (x : Text × Text) : Except Fault (Opening × Text) := do
  let place := x.2.length + x.1.length + 1
  if CodePoint.isIdentifier (x.1.map Char.toNat) then
    match env.groups.ofName? x.1 with
    | none => fault (.unknownGroup x.1) place
    | some g => do
      env.checkBehind g x.2.length
      return (.conditional g none, x.2)
  else do
    let g ← conditionalGroup x.1 place
    env.checkBehind g x.2.length
    return (.conditional g (some place), x.2)

theorem conditionalOf_agrees {name rest rest' : Text} (hr : T rest rest') :
    Agrees total (Reads (SameOpening total) T) (conditionalOf env (name, rest))
      (conditionalOf env (name, rest')) := by
  unfold conditionalOf
  dsimp only
  split
  · split
    · exact .fault_left
    · exact checkBehind_agrees.bind fun _ _ _ => .ok ⟨.conditional fun _ => ⟨rfl, rfl⟩, hr⟩
  · refine conditionalGroup_agrees.bind ?_
    rintro g _ rfl
    exact checkBehind_agrees.bind fun _ _ _ => .ok ⟨.conditional fun _ => ⟨rfl, rfl⟩, hr⟩

theorem readConditional_agrees (hT : Parallel T) (henv : total = true → env = env') (h : T s t) :
    Agrees total (Reads (SameOpening total) T) (readConditional env s)
      (readConditional env' t) := by
  have hread {o : Opening} {rest : Text} (hx : readConditional env s = .ok (o, rest)) :
      ∃ name g a rest', readUntil ')' "group name" [] s = .ok (name, rest) ∧
        readUntil ')' "group name" [] t = .ok (name, rest') ∧ o = .conditional g a ∧
        T rest rest' := by
    obtain ⟨name, g, a, hname, hbreak, rfl⟩ := readConditional_eq hx
    obtain ⟨rest', hname', hr⟩ := readUntil_agrees hT.corresponds (by decide)
      (fun s t => hT.char (by decide)) h hname hbreak
    exact ⟨name, g, a, rest', hname, hname', rfl, hr⟩
  cases total with
  | true =>
    obtain rfl := henv rfl
    refine .of_exists ?_
    rintro ⟨o, rest⟩ hx
    obtain ⟨name, g, a, rest', hname, hname', -, hr⟩ := hread hx
    change readUntil ')' "group name" [] s >>= conditionalOf env = _ at hx
    show ∃ b, readUntil ')' "group name" [] t >>= conditionalOf env = _ ∧ _
    rw [hname, ok_bind] at hx
    rw [hname', ok_bind]
    exact (conditionalOf_agrees hr).exists_related hx
  | false =>
    refine .of_related ?_
    rintro ⟨o, rest⟩ ⟨o', rest'⟩ hx hy
    obtain ⟨name, g, a, rest₂, -, hname, rfl, hr⟩ := hread hx
    obtain ⟨name', g', a', hname', -, rfl⟩ := readConditional_eq hy
    obtain ⟨-, rfl⟩ := Prod.mk.inj (Except.ok.inj (hname.symm.trans hname'))
    exact ⟨.conditional nofun, hr⟩

/-- A token other than the known ones is a fault. -/
theorem unknownToken_ne_ok {α : Type} {what : Text → Text} {place : Text × Text → Nat} {a : α} :
    (readToken s >>= fun x => if x.1 = [] then fault .unexpectedEnd 0
      else fault (.unknownExtension (what x.1)) (place x)) ≠ .ok a := by
  intro ha
  obtain ⟨x, -, ha⟩ := bind_eq_ok_iff.1 ha
  split at ha <;> exact absurd ha fault_ne_ok

/-- A construct with a name is a group that has it, or a reference to one. -/
theorem named_of_readNamedConstruct {rest : Text} {o : Opening}
    (h : readNamedConstruct env s = .ok (o, rest)) :
    (∃ name, o = .capture (some name)) ∨ ∃ g, o = .reference g := by
  unfold readNamedConstruct at h
  split at h
  · obtain ⟨⟨⟩, -, h⟩ := bind_eq_ok_iff.1 h
    obtain ⟨⟨name, r⟩, -, h⟩ := bind_eq_ok_iff.1 h
    exact .inl ⟨name, (Prod.mk.inj (Except.ok.inj h)).1.symm⟩
  · obtain ⟨⟨⟩, -, h⟩ := bind_eq_ok_iff.1 h
    obtain ⟨⟨name, r⟩, -, h⟩ := bind_eq_ok_iff.1 h
    dsimp only at h
    split at h
    · exact absurd h fault_ne_ok
    · split at h
      · exact absurd h fault_ne_ok
      · obtain ⟨⟨⟩, -, h⟩ := bind_eq_ok_iff.1 h
        exact .inr ⟨_, (Prod.mk.inj (Except.ok.inj h)).1.symm⟩
  · exact absurd h unknownToken_ne_ok

theorem readNamedConstruct_agrees (hT : Parallel T) (henv : total = true → env = env') (h : T s t) :
    Agrees total (Reads (SameOpening total) T) (readNamedConstruct env s)
      (readNamedConstruct env' t) := by
  match s with
  | [] => exact fun _ ha => absurd ha unknownToken_ne_ok
  | c :: s =>
    by_cases hname : c = '<'
    · subst hname
      obtain ⟨t', rfl, hrest⟩ := hT.char (by decide) h
      refine hT.corresponds.step hrest fun hst => ?_
      refine (readGroupName_agrees hT (by decide) hst).bind ?_
      rintro ⟨name, rest⟩ ⟨name', rest'⟩ ⟨hn, hr⟩
      obtain rfl : name = name' := hn
      exact .ok ⟨.capture (some name), hr⟩
    · by_cases href : c = '='
      · subst href
        obtain ⟨t', rfl, hrest⟩ := hT.char (by decide) h
        exact hT.corresponds.step hrest fun hst => readReference_agrees hT henv hst
      · rw [readNamedConstruct]
        · exact fun _ ha => absurd ha unknownToken_ne_ok
        · exact fun _ he => hname (List.cons.inj he).1
        · exact fun _ he => href (List.cons.inj he).1

theorem readBehind_agrees (hT : Parallel T) (h : T s t) :
    Agrees total (Reads (SameOpening total) T) (readBehind s) (readBehind t) := by
  match s with
  | [] => exact fun _ ha => absurd ha unknownToken_ne_ok
  | c :: s =>
    by_cases hpositive : c = '='
    · subst hpositive
      obtain ⟨t', rfl, hrest⟩ := hT.char (by decide) h
      exact hT.corresponds.step hrest fun hst => .ok ⟨.look true false, hst⟩
    · by_cases hnegative : c = '!'
      · subst hnegative
        obtain ⟨t', rfl, hrest⟩ := hT.char (by decide) h
        exact hT.corresponds.step hrest fun hst => .ok ⟨.look true true, hst⟩
      · rw [readBehind]
        · exact fun _ ha => absurd ha unknownToken_ne_ok
        · exact fun _ he => hpositive (List.cons.inj he).1
        · exact fun _ he => hnegative (List.cons.inj he).1

/-- The extension that a single character begins. -/
def extensionOf (env : Surroundings) (place : Nat) (s : Text) (c : Char) (rest : Text) :
    Except Fault (Opening × Text) :=
  match c with
  | 'P' => readNamedConstruct env rest
  | ':' => return (.scope [] [], rest)
  | '#' => readComment place rest
  | '=' => return (.look false false, rest)
  | '!' => return (.look false true, rest)
  | '<' => readBehind rest
  | '(' => readConditional env rest
  | '>' => return (.atomic, rest)
  | c =>
    if c == '-' || (Flag.ofChar? c).isSome then readOn [] s
    else fault (.unknownExtension [c]) (rest.length + 2)

theorem readExtension_char {place : Nat} {c : Char} (hc : c ≠ '\\') :
    readExtension env place (c :: s) =
      settle s >>= fun _ => extensionOf env place (c :: s) c s := by
  have htoken : readToken (c :: s) = settle s >>= fun _ => .ok ([c], s) := by
    rw [readToken]
    · rfl
    · exact fun _ _ he => absurd he hc
  rw [readExtension, htoken]
  cases settle s with
  | error e => rfl
  | ok u =>
    simp only [ok_bind, extensionOf]
    split
    case h_10 => simp_all [readExtension.isFlagStart]
    all_goals simp_all

theorem extensionOf_agrees (hT : Parallel T) (henv : total = true → env = env') {m n : Nat} {c : Char}
    {u v : Text} (hwhole : T u v) (h : T s t)
    (hcomment : c = '#' →
      Agrees total (Reads (SameOpening total) T) (readComment m s) (readComment n t)) :
    Agrees total (Reads (SameOpening total) T) (extensionOf env m u c s)
      (extensionOf env' n v c t) := by
  unfold extensionOf
  split
  · exact readNamedConstruct_agrees hT henv h
  · exact .ok ⟨.scope [] [], h⟩
  · exact hcomment rfl
  · exact .ok ⟨.look false false, h⟩
  · exact .ok ⟨.look false true, h⟩
  · exact readBehind_agrees hT h
  · exact readConditional_agrees hT henv h
  · exact .ok ⟨.atomic, h⟩
  · split
    · exact readOn_agrees hT hwhole
    · exact .fault_left

theorem readExtension_narrowable {place : Nat} {c : Char} {x : Opening × Text}
    (hc : c ∈ narrowable) (hs : c :: s ≠ ['\\']) : readExtension env place (c :: s) ≠ .ok x := by
  intro h
  simp only [narrowable, List.mem_cons, List.not_mem_nil, or_false] at hc
  rcases hc with rfl | rfl | rfl
  · cases s with
    | nil => exact hs rfl
    | cons d s =>
      obtain ⟨y, hy, h⟩ := bind_eq_ok_iff.1 h
      obtain ⟨⟨⟩, -, hy⟩ := bind_eq_ok_iff.1 hy
      obtain rfl := Except.ok.inj hy
      exact absurd h fault_ne_ok
  · rw [readExtension_char (by decide)] at h
    obtain ⟨⟨⟩, -, h⟩ := bind_eq_ok_iff.1 h
    exact absurd h fault_ne_ok
  · rw [readExtension_char (by decide)] at h
    obtain ⟨⟨⟩, -, h⟩ := bind_eq_ok_iff.1 h
    exact absurd h fault_ne_ok

theorem readExtension_agrees (hT : Parallel T) (henv : total = true → env = env') {m n : Nat}
    (h : T s t)
    (hcomment : ∀ r r', s = '#' :: r → T r r' →
      Agrees total (Reads (SameOpening total) T) (readComment m r) (readComment n r')) :
    Agrees total (Reads (SameOpening total) T) (readExtension env m s)
      (readExtension env' n t) := by
  match s with
  | [] => exact .fault_left
  | c :: s =>
    by_cases hchar : c ∈ narrowable
    · exact fun a ha => absurd ha (readExtension_narrowable hchar (hT.start h))
    · have hc : c ≠ '\\' := by
        rintro rfl
        exact hchar (by decide)
      obtain ⟨t', rfl, hrest⟩ := hT.char hchar h
      rw [readExtension_char hc, readExtension_char hc]
      refine hT.corresponds.step hrest fun hst => extensionOf_agrees hT henv h hst ?_
      rintro rfl
      exact hcomment s t' rfl hst

/-- What an opening parenthesis begins, it begins in both places. -/
theorem readOpening_agrees (hT : Parallel T) (henv : total = true → env = env') (h : T s t)
    (hcomment : ∀ m n r r', s = '?' :: '#' :: r → T r r' →
      Agrees total (Reads (SameOpening total) T) (readComment m r) (readComment n r')) :
    Agrees total (Reads (SameOpening total) T) (readOpening env s) (readOpening env' t) := by
  obtain ⟨s', t', rfl, rfl, hrest⟩ | ⟨hs, ht⟩ := hT.corresponds.head_cases '?' (by decide) h
  · refine hT.corresponds.step hrest fun hst => readExtension_agrees hT henv hst ?_
    rintro r r' rfl hr
    exact hcomment _ _ r r' rfl hr
  · rw [readOpening, readOpening]
    · exact .ok ⟨.capture none, h⟩
    · exact ht
    · exact hs

/-- A property that comments keep is kept by all openings. -/
theorem IsKept.readOpening {P : Text → Prop} (hP : IsKept P) {o : Opening} {rest : Text} (hs : P s)
    (hcomment : ∀ m r rest, s = '?' :: '#' :: r → P r →
      readComment m r = .ok (.comment, rest) → P rest)
    (h : readOpening env s = .ok (o, rest)) : P rest := by
  have hread : Agrees true (Reads (SameOpening true) (SameWith P)) (Regex.readOpening env s)
      (Regex.readOpening env s) := by
    refine readOpening_agrees hP.parallel (fun _ => rfl) ⟨rfl, hs⟩ ?_
    rintro m n r _ hhead ⟨rfl, hr⟩
    refine .of_exists fun x hx => ?_
    have hcopy : Spliced false [] r r := ⟨hP.start hr, r, rfl, (List.append_nil r).symm⟩
    obtain ⟨rest', _, rfl, hread, -, b, he, rfl⟩ | ⟨hnil, -⟩ :=
      (skips_comment m).agrees (skips_comment n) (.inl rfl) hcopy (by simp) hx
    · obtain rfl := Option.some.inj he
      rw [List.append_nil] at hread
      exact ⟨_, hread, .comment, rfl, hcomment m r rest' hhead hr hx⟩
    · exact absurd hnil fault_ne_ok
  exact IsKept.of_agrees hread h

theorem readComment_agrees {narrowed : Bool} {ending : Text} (hending : IsEnding ending) {m n : Nat}
    (h : Spliced narrowed ending s t)
    (hquiet : narrowed = true → holdsBefore ')' ['['] s = false) :
    Agrees total (Reads (SameOpening total) (Spliced narrowed ending)) (readComment m s)
      (readComment n t) := by
  refine .of_exists fun a ha => ?_
  obtain ⟨rest, rest', rfl, hread, hr⟩ | ⟨hnil, -⟩ :=
    (skips_comment m).agrees (skips_comment n) hending h hquiet ha
  · exact ⟨_, hread, .comment, hr⟩
  · exact absurd hnil fault_ne_ok

end Openings

end PathRouter.Regex
