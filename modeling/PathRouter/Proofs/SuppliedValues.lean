import PathRouter.Proofs.EncodedText
import PathRouter.Proofs.FirstPattern

/-!
# Values by position and by name

A path is built alike from values in the order of the captures and from a mapping that has them
under the names of the captures. What is left over of either does not matter. If there are fewer
values than captures, both fail for the first capture without one, and tell its position or its
name. They agree because no two captures of a pattern have the same name, and because both ways pass
over what is no capture without using up a value.
-/

namespace PathRouter
set_option autoImplicit false

/-- A path made of the literals of segments and, from left to right, of a value for each capture.
Values are encoded, slashes included. Only for a tail the slashes stay, and what stands between them
is encoded. -/
inductive FilledWith : List Segment → List Value → Text → Prop
  | nil : FilledWith [] [] []
  | literal {rest : List Segment} {values : List Value} {path : Text} (text : Text) :
      FilledWith rest values path → FilledWith (.literal text :: rest) values (text ++ path)
  | boundary {rest : List Segment} {values : List Value} {path : Text} :
      FilledWith rest values path → FilledWith (.boundary :: rest) values path
  | dynamic {rest : List Segment} {values : List Value} {path : Text} (name : Text)
      (value : Value) : FilledWith rest values path →
      FilledWith (.dynamic name :: rest) (value :: values) (Percent.encode value.toText [] ++ path)
  | constrained {rest : List Segment} {values : List Value} {path : Text} (name e : Text)
      (value : Value) : FilledWith rest values path →
      FilledWith (.constrained name e :: rest) (value :: values)
        (Percent.encode value.toText [] ++ path)
  | tail {rest : List Segment} {values : List Value} {path : Text} (name : Text) (allowEmpty : Bool)
      (value : Value) : FilledWith rest values path →
      FilledWith (.tail name allowEmpty :: rest) (value :: values)
        (['/'].intercalate ((value.toText.splitOn '/').map fun part => Percent.encode part []) ++
          path)

/-- The mapping has, under each of the names, the value in the same place, and it has none under the
first name that is left without a value. What it has besides is left open. -/
def Provides (mapping : List (Text × Value)) (names : List Text) (values : List Value) : Prop :=
  ∀ i name, i ≤ values.length → names[i]? = some name → mapping.lookup name = values[i]?

/-! ## What a mapping provides -/

section Provided

variable {mapping extra : List (Text × Value)} {names : List Text} {name : Text} {value : Value}
  {values : List Value}

theorem Provides.head (h : Provides mapping (name :: names) (value :: values)) :
    mapping.lookup name = some value :=
  h 0 name (Nat.zero_le _) rfl

theorem Provides.tail (h : Provides mapping (name :: names) (value :: values)) :
    Provides mapping names values :=
  fun i other hi hother => h (i + 1) other (Nat.succ_le_succ hi) hother

theorem Provides.lookup_eq_none (h : Provides mapping (name :: names) []) :
    mapping.lookup name = none :=
  h 0 name (Nat.le_refl 0) rfl

/-- With another entry in front, a value is provided for its name too. -/
theorem Provides.cons (h : Provides mapping names values) (hname : name ∉ names) (value : Value) :
    Provides ((name, value) :: mapping) (name :: names) (value :: values) := by
  intro i other hi hother
  cases i with
  | zero =>
    obtain rfl := Option.some.inj hother
    exact List.lookup_cons_self
  | succ i =>
    have hne : (other == name) = false := by
      rw [beq_eq_false_iff_ne]
      rintro rfl
      exact hname (List.mem_of_getElem? hother)
    rw [List.lookup_cons, hne]
    exact h i other (Nat.le_of_succ_le_succ hi) hother

/-- No values are provided by entries under other names. -/
theorem provides_nil (h : ∀ e ∈ mapping, e.1 ∉ names) : Provides mapping names [] := by
  intro i name hi hname
  obtain rfl := Nat.le_zero.1 hi
  rw [List.getElem?_nil, List.lookup_eq_none_iff]
  intro e he
  rw [bne_iff_ne]
  rintro rfl
  exact h e he (List.mem_of_getElem? hname)

/-- Names that differ, paired with values, provide the values, whatever other entries follow. -/
theorem provides_zip (hnodup : names.Nodup) (values : List Value)
    (hextra : ∀ e ∈ extra, e.1 ∉ names) : Provides (names.zip values ++ extra) names values := by
  induction names generalizing values with
  | nil => exact fun i name _ hname => absurd hname (by simp)
  | cons name names ih =>
    rw [List.nodup_cons] at hnodup
    cases values with
    | nil => exact provides_nil hextra
    | cons value values =>
      have hrest := ih hnodup.2 values fun e he hmem => hextra e he (List.mem_cons_of_mem _ hmem)
      exact hrest.cons hnodup.1 value

/-- Of several entries under a name, the first counts. -/
theorem find?_eq_lookup (mapping : List (Text × Value)) (name : Text) :
    mapping.find? (fun e => e.1 == name) =
      (mapping.lookup name).map fun value => (name, value) := by
  induction mapping with
  | nil => rfl
  | cons e mapping ih =>
    obtain ⟨other, value⟩ := e
    rw [List.find?_cons, List.lookup_cons]
    by_cases h : other = name
    · subst h
      rw [beq_self_eq_true]
      rfl
    · rw [beq_eq_false_iff_ne.2 h, beq_eq_false_iff_ne.2 (Ne.symm h)]
      exact ih

end Provided

/-! ## One segment -/

section Steps

variable {pattern name : Text} {mapping : List (Text × Value)} {values : List Value} {s : Segment}
  {rest : List Segment} {index : Nat}

/-- By name, a capture takes what the mapping has under its name. -/
theorem buildNamed_capture (hname : s.name? = some name) :
    buildNamed pattern mapping (s :: rest) =
      match mapping.lookup name with
      | some value => do return s.fill value ++ (← buildNamed pattern mapping rest)
      | none => .error (.missing (.name name) pattern) := by
  have hfirst := find?_eq_lookup mapping name
  cases s with
  | literal text => exact absurd hname (by simp [Segment.name?])
  | boundary => exact absurd hname (by simp [Segment.name?])
  | dynamic other =>
    obtain rfl := Option.some.inj hname
    simp only [buildNamed, Segment.name?, Option.getD_some, hfirst]
    cases mapping.lookup other <;> rfl
  | constrained other e =>
    obtain rfl := Option.some.inj hname
    simp only [buildNamed, Segment.name?, Option.getD_some, hfirst]
    cases mapping.lookup other <;> rfl
  | tail other allowEmpty =>
    obtain rfl := Option.some.inj hname
    simp only [buildNamed, Segment.name?, Option.getD_some, hfirst]
    cases mapping.lookup other <;> rfl

/-- By position, a capture takes the next value. -/
theorem buildPositional_capture (hname : s.name? = some name) :
    buildPositional pattern index values (s :: rest) =
      match values with
      | value :: values => do
        return s.fill value ++ (← buildPositional pattern (index + 1) values rest)
      | [] => .error (.missing (.position index) pattern) := by
  cases s with
  | literal text => exact absurd hname (by simp [Segment.name?])
  | boundary => exact absurd hname (by simp [Segment.name?])
  | dynamic other => cases values <;> rfl
  | constrained other e => cases values <;> rfl
  | tail other allowEmpty => cases values <;> rfl

theorem Segment.literal_or_boundary_or_capture (s : Segment) :
    (∃ text, s = .literal text) ∨ s = .boundary ∨ ∃ name, s.name? = some name := by
  cases s with
  | literal text => exact .inl ⟨text, rfl⟩
  | boundary => exact .inr (.inl rfl)
  | dynamic name => exact .inr (.inr ⟨name, rfl⟩)
  | constrained name e => exact .inr (.inr ⟨name, rfl⟩)
  | tail name allowEmpty => exact .inr (.inr ⟨name, rfl⟩)

/-- What is written for a value is what a path is filled with. -/
theorem FilledWith.capture {path : Text} (h : FilledWith rest values path)
    (hname : s.name? = some name) (value : Value) :
    FilledWith (s :: rest) (value :: values) (s.fill value ++ path) := by
  cases s with
  | literal text => exact absurd hname (by simp [Segment.name?])
  | boundary => exact absurd hname (by simp [Segment.name?])
  | dynamic other => exact .dynamic other value h
  | constrained other e => exact .constrained other e value h
  | tail other allowEmpty =>
    rw [Segment.fill, Segment.safe, Percent.encode_slash]
    exact .tail other allowEmpty value h

end Steps

/-! ## A whole pattern -/

section Run

variable {segments : List Segment} {values : List Value}

/-- With a value for each capture, both ways of building fill in the values. -/
theorem exists_filledWith (pattern : Text) (index : Nat)
    (h : (captureNames segments).length ≤ values.length) :
    ∃ path, FilledWith segments (values.take (captureNames segments).length) path ∧
      buildPositional pattern index values segments = .ok path ∧
      ∀ mapping, Provides mapping (captureNames segments) values →
        buildNamed pattern mapping segments = .ok path := by
  -- a capture uses up one name and one value, any other segment neither
  induction segments generalizing values index with
  | nil =>
    refine ⟨[], .nil, ?_, fun _ _ => rfl⟩
    rw [buildPositional]
  | cons s rest ih =>
    obtain ⟨text, rfl⟩ | rfl | ⟨name, hname⟩ := s.literal_or_boundary_or_capture
    · obtain ⟨path, hfilled, hpositional, hnamed⟩ := ih index h
      refine ⟨text ++ path, hfilled.literal text, ?_, fun mapping hprovides => ?_⟩
      · rw [buildPositional, hpositional]
        rfl
      · rw [buildNamed, hnamed mapping hprovides]
        rfl
    · obtain ⟨path, hfilled, hpositional, hnamed⟩ := ih index h
      refine ⟨path, hfilled.boundary, ?_, fun mapping hprovides => ?_⟩
      · rw [buildPositional, hpositional]
      · rw [buildNamed, hnamed mapping hprovides]
    · have hnames : captureNames (s :: rest) = name :: captureNames rest :=
        List.filterMap_cons_some hname
      rw [hnames, List.length_cons] at h ⊢
      obtain ⟨value, values, rfl⟩ := List.exists_cons_of_length_pos (Nat.zero_lt_of_lt h)
      obtain ⟨path, hfilled, hpositional, hnamed⟩ := ih (index + 1) (Nat.le_of_succ_le_succ h)
      refine ⟨s.fill value ++ path, hfilled.capture hname value, ?_, ?_⟩
      · rw [buildPositional_capture hname]
        dsimp only
        rw [hpositional]
        rfl
      · intro mapping hprovides
        rw [buildNamed_capture hname, hprovides.head]
        dsimp only
        rw [hnamed mapping hprovides.tail]
        rfl

/-- With fewer values than captures, both ways of building fail for the first that has none. -/
theorem build_missing (pattern : Text) (index : Nat)
    (h : values.length < (captureNames segments).length) :
    buildPositional pattern index values segments =
        .error (.missing (.position (index + values.length)) pattern) ∧
      ∀ mapping, Provides mapping (captureNames segments) values →
        buildNamed pattern mapping segments =
          .error (.missing (.name (captureNames segments)[values.length]) pattern) := by
  induction segments generalizing values index with
  | nil => exact absurd h (Nat.not_lt_zero _)
  | cons s rest ih =>
    obtain ⟨text, rfl⟩ | rfl | ⟨name, hname⟩ := s.literal_or_boundary_or_capture
    · obtain ⟨hpositional, hnamed⟩ := ih index h
      refine ⟨?_, fun mapping hprovides => ?_⟩
      · rw [buildPositional, hpositional]
        rfl
      · rw [buildNamed, hnamed mapping hprovides]
        rfl
    · obtain ⟨hpositional, hnamed⟩ := ih index h
      refine ⟨?_, fun mapping hprovides => ?_⟩
      · rw [buildPositional, hpositional]
      · rw [buildNamed, hnamed mapping hprovides]
        rfl
    · have hnames : captureNames (s :: rest) = name :: captureNames rest :=
        List.filterMap_cons_some hname
      simp only [hnames, List.length_cons] at h ⊢
      rw [buildPositional_capture hname]
      cases values with
      | nil =>
        refine ⟨by simp, fun mapping hprovides => ?_⟩
        rw [buildNamed_capture hname, hprovides.lookup_eq_none]
        rfl
      | cons value values =>
        obtain ⟨hpositional, hnamed⟩ := ih (index + 1) (Nat.lt_of_succ_lt_succ h)
        have hindex : ((index + 1 : Nat) : Int) + values.length =
            index + (value :: values).length := by
          rw [List.length_cons]
          omega
        refine ⟨?_, fun mapping hprovides => ?_⟩
        · dsimp only
          rw [hpositional, hindex]
          rfl
        · rw [buildNamed_capture hname, hprovides.head]
          dsimp only
          rw [hnamed mapping hprovides.tail]
          rfl

end Run

/-! ## Resources -/

/-- Building by position and building by name agree. With a value for each capture both give the
path that is filled with the values, whatever is left over. With fewer values both fail for the
first capture that has none, and tell its position or its name. The names paired with the values are
a mapping that provides them, since no two captures have the same name, and so they are with entries
under other names besides. -/
theorem Resource.build_positional_eq_named {config : Config} {extent : Extent} {name : Option Text}
    {patterns : List Text} {r : Resource}
    (hr : Resource.ofPatterns config extent name patterns = .ok r) (values : List Value) :
    (r.captureNames.length ≤ values.length →
      ∃ path, FilledWith r.segments (values.take r.captureNames.length) path ∧
        r.build (.positional values) = .ok path ∧
        ∀ mapping, Provides mapping r.captureNames values →
          r.build (.named mapping) = .ok path) ∧
    (∀ _ : values.length < r.captureNames.length,
      r.build (.positional values) = .error (.missing (.position values.length) r.pattern) ∧
        ∀ mapping, Provides mapping r.captureNames values →
          r.build (.named mapping) =
            .error (.missing (.name r.captureNames[values.length]) r.pattern)) ∧
    ∀ extra : List (Text × Value), (∀ e ∈ extra, e.1 ∉ r.captureNames) →
      Provides (r.captureNames.zip values ++ extra) r.captureNames values := by
  obtain ⟨⟨more, hsequences⟩, pattern, -, hparse⟩ := Resource.exists_of_ofPatterns hr
  have hpositional :
      r.build (.positional values) = buildPositional r.pattern 0 values r.segments := by
    rw [Resource.build, hsequences, buildPath]
  have hnamed (mapping : List (Text × Value)) :
      r.build (.named mapping) = buildNamed r.pattern mapping r.segments := by
    rw [Resource.build, hsequences, buildPath]
  simp only [hpositional, hnamed]
  refine ⟨?_, ?_, ?_⟩
  · intro hvalues
    exact exists_filledWith r.pattern 0 hvalues
  · intro hvalues
    obtain ⟨hmissing, hmapping⟩ := build_missing r.pattern 0 hvalues
    rw [hmissing, Int.natCast_zero, Int.zero_add]
    exact ⟨rfl, hmapping⟩
  · intro extra hextra
    exact provides_zip (Pattern.nodup_of_parse hparse) values hextra

/-- A value too many, an entry under another name and a slash that only the tail keeps; then two
values for three captures. -/
theorem Resource.build_positional_eq_named_tail :
    ∃ r, Resource.ofPatterns .standard .leading none
        ["/u/{who}/{n:[0-9]+}/{rest}*".toList, "/x".toList] = .ok r ∧
      r.build (.positional [.text "a/b".toList, .integer 7, .text "x/y z".toList, .absent]) =
        .ok "/u/a%2Fb/7/x/y%20z".toList ∧
      r.build (.named [("who".toList, .text "a/b".toList), ("n".toList, .integer 7),
        ("rest".toList, .text "x/y z".toList), ("other".toList, .absent)]) =
        .ok "/u/a%2Fb/7/x/y%20z".toList ∧
      r.build (.positional [.text "a/b".toList, .integer 7]) =
        .error (.missing (.position 2) r.pattern) ∧
      r.build (.named [("who".toList, .text "a/b".toList), ("n".toList, .integer 7)]) =
        .error (.missing (.name "rest".toList) r.pattern) := by
  let full : List Value := [.text "a/b".toList, .integer 7, .text "x/y z".toList, .absent]
  let short : List Value := [.text "a/b".toList, .integer 7]
  have hrun : ((Resource.ofPatterns .standard .leading none
      ["/u/{who}/{n:[0-9]+}/{rest}*".toList, "/x".toList]).toOption.map fun r =>
        (r.captureNames, (r.build (.positional full)).toOption)) =
      some (["who".toList, "n".toList, "rest".toList], some "/u/a%2Fb/7/x/y%20z".toList) := by
    decide +kernel
  obtain ⟨r, hr, hrun⟩ := Option.map_eq_some_iff.1 hrun
  obtain ⟨hnames, hpath⟩ := Prod.mk.inj hrun
  replace hr := eq_ok_of_toOption hr
  replace hpath := eq_ok_of_toOption hpath
  obtain ⟨hfull, -, hprovides⟩ := Resource.build_positional_eq_named hr full
  obtain ⟨-, hshort, hprovides'⟩ := Resource.build_positional_eq_named hr short
  rw [hnames] at hfull hshort hprovides hprovides'
  obtain ⟨path, -, hpositional, hnamed⟩ := hfull (by decide)
  obtain rfl := Except.ok.inj (hpositional.symm.trans hpath)
  obtain ⟨hmissing, hmissing'⟩ := hshort (by decide)
  exact ⟨r, hr, hpath, hnamed _ (hprovides [("other".toList, .absent)] (by decide)), hmissing,
    hmissing' _ (hprovides' [] (by decide))⟩

end PathRouter
