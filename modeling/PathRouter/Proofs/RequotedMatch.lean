import PathRouter.PathState
import PathRouter.Proofs.FirstPattern
import PathRouter.Proofs.ForcedSplit
import PathRouter.Proofs.RequotedText

/-!
# Requoting is transparent to routing

If the slash is protected, a resource that matches a path as it came in matches the requoted path
as well, with the same values. A span that can be decoded has no bare percent sign, so a path is
requoted span by span: literals in requoted form stay as they are, and a span becomes another that
stands for the same value and has no slash that was not there before. It does not matter for that
whether all escapes are decoded or those of ASCII only, as what follows the match may demand.
-/

namespace PathRouter
set_option autoImplicit false

open Percent

namespace Percent.Protection

variable (p : Protection) (asciiOnly : Bool) {x y : Bytes}

theorem requotePiece_ne_nil (piece : Piece) : p.requotePiece asciiOnly piece ≠ [] := by
  cases piece with
  | plain b => exact List.cons_ne_nil _ _
  | bare => exact List.cons_ne_nil _ _
  | escape high low v =>
    rw [requotePiece]
    split
    · exact List.cons_ne_nil _ _
    · exact List.cons_ne_nil _ _

theorem requoted_eq_nil_iff : p.requoted asciiOnly x = [] ↔ x = [] := by
  constructor
  · intro h
    rw [requoted, List.flatMap_eq_nil_iff] at h
    have hpieces : pieces x = [] := by
      rw [List.eq_nil_iff_forall_not_mem]
      intro piece hmem
      exact p.requotePiece_ne_nil asciiOnly piece (h piece hmem)
    rw [← flatMap_bytes_pieces x, hpieces]
    rfl
  · rintro rfl
    rfl

end Percent.Protection

/-! ## One span -/

section Span

variable {p : Protection} {asciiOnly : Bool} {span span' value : Text}

/-- A span that can be decoded has a requoted form that is a text. -/
theorem exists_requoted (p : Protection) (asciiOnly : Bool) (h : decodeText span = .ok value) :
    ∃ span', Utf8.encode span' = p.requoted asciiOnly (Utf8.encode span) := by
  cases asciiOnly with
  | true => exact p.isUtf8_requoted_true span
  | false =>
    apply p.isUtf8_requoted_false
    exact ⟨value, (decode_eq_ok_iff.1 h).2⟩

/-- The requoted form of a span has the same value. -/
theorem decodeText_requoted (h : decodeText span = .ok value)
    (hspan : Utf8.encode span' = p.requoted asciiOnly (Utf8.encode span)) :
    decodeText span' = .ok value := by
  rw [decodeText, hspan, decode_eq_ok_iff, p.lenient_requoted]
  exact ⟨(p.requoted_isNormal asciiOnly _).bare_not_mem, (decode_eq_ok_iff.1 h).2⟩

theorem slash_not_mem_requoted (hprotected : p.protects 0x2F = true) (h : '/' ∉ span)
    (hspan : Utf8.encode span' = p.requoted asciiOnly (Utf8.encode span)) : '/' ∉ span' := by
  intro hmem
  have hbyte : (0x2F : UInt8) ∈ Utf8.encode span' := Utf8.mem_encode_of_mem (by decide) hmem
  rw [hspan] at hbyte
  have hin := p.mem_of_mem_requoted asciiOnly hprotected (by decide) hbyte
  exact h (Utf8.mem_of_mem_encode (by decide) hin)

theorem requotedText_eq_nil_iff
    (hspan : Utf8.encode span' = p.requoted asciiOnly (Utf8.encode span)) :
    span' = [] ↔ span = [] := by
  rw [← Utf8.encode_eq_nil_iff, hspan, p.requoted_eq_nil_iff, Utf8.encode_eq_nil_iff]

/-- A text is requoted part by part, where no escape can stand on both sides of the cut. -/
theorem exists_append_of_requoted {s t : Text} (hbare : .bare ∉ pieces (Utf8.encode span))
    (hspan : Utf8.encode span' = p.requoted asciiOnly (Utf8.encode span))
    (ht : Utf8.encode t = p.requoted asciiOnly (Utf8.encode (span ++ s))) :
    ∃ s', t = span' ++ s' ∧ Utf8.encode s' = p.requoted asciiOnly (Utf8.encode s) := by
  rw [Utf8.encode_append, p.requoted_append asciiOnly hbare, ← hspan] at ht
  obtain ⟨s', hs'⟩ : Utf8.IsUtf8 (p.requoted asciiOnly (Utf8.encode s)) := by
    apply Utf8.IsUtf8.of_append (Utf8.isUtf8_encode span')
    exact ⟨t, ht⟩
  refine ⟨s', ?_, hs'⟩
  apply Utf8.encode_injective
  rw [ht, ← hs', Utf8.encode_append]

end Span

/-! ## Whole splits -/

section Split

variable {p : Protection} {asciiOnly : Bool} {extent : Extent} {segments : List Segment}
  {s t : Text} {spans : List Text} {entries : List (Text × Text)}

/-- A literal in requoted form is requoted to itself. -/
theorem exists_append_of_isNormal {literal : Text} (hliteral : p.IsNormal false (Utf8.encode literal))
    (ht : Utf8.encode t = p.requoted asciiOnly (Utf8.encode (literal ++ s))) :
    ∃ s', t = literal ++ s' ∧ Utf8.encode s' = p.requoted asciiOnly (Utf8.encode s) := by
  have hnormal : p.IsNormal asciiOnly (Utf8.encode literal) := by
    cases asciiOnly with
    | false => exact hliteral
    | true => exact hliteral.mono
  exact exists_append_of_requoted hliteral.bare_not_mem
    ((p.requoted_eq_self_iff asciiOnly).2 hnormal).symm ht

/-- Only what begins with a slash begins with one after requoting, and nothing becomes something. -/
theorem head?_requoted (h : ∀ c, s.head? = some c → c = '/')
    (ht : Utf8.encode t = p.requoted asciiOnly (Utf8.encode s)) :
    ∀ c, t.head? = some c → c = '/' := by
  cases s with
  | nil =>
    have hnil : t = [] := Utf8.encode_eq_nil_iff.1 (ht.trans rfl)
    rw [hnil]
    simp
  | cons c s =>
    obtain rfl := h c rfl
    have hslash : p.IsNormal false (Utf8.encode ['/']) := by
      show p.IsNormal false [0x2F]
      rw [p.isNormal_plain_iff false (by decide), p.isNormal_iff]
      simp [pieces]
    obtain ⟨s', rfl, -⟩ := exists_append_of_isNormal hslash ht
    intro c hc
    exact (Option.some.inj hc).symm

theorem spanEntries?_cons_eq_some {segment : Segment} {name span : Text}
    (hname : segment.name? = some name) :
    spanEntries? (segment :: segments) (span :: spans) = some entries ↔
      ∃ value more, decodeText span = .ok value ∧ spanEntries? segments spans = some more ∧
        entries = (name, value) :: more := by
  simp only [spanEntries?, hname]
  cases hvalue : decodeText span with
  | error e => simp [Except.toOption]
  | ok value =>
    cases hmore : spanEntries? segments spans with
    | none => simp [Except.toOption]
    | some more => simp [Except.toOption, eq_comm]

/-- A split of a text becomes one of the requoted text that stands for the same values. -/
theorem Splits.requoted (h : Splits extent segments s spans)
    (hprotected : p.protects 0x2F = true)
    (hliterals : ∀ literal, .literal literal ∈ segments → p.IsNormal false (Utf8.encode literal))
    (hentries : spanEntries? segments spans = some entries)
    (ht : Utf8.encode t = p.requoted asciiOnly (Utf8.encode s)) :
    ∃ spans', Splits extent segments t spans' ∧ spanEntries? segments spans' = some entries := by
  induction h generalizing t entries with
  | textEnd hexact =>
    have hnil : t = [] := Utf8.encode_eq_nil_iff.1 (ht.trans rfl)
    rw [hnil]
    exact ⟨[], .textEnd hexact, hentries⟩
  | boundary hleading hs => exact ⟨[], .boundary hleading (head?_requoted hs ht), hentries⟩
  | slashAhead hleaves =>
    have hliteral := hliterals _ (List.mem_cons_self ..)
    obtain ⟨s', rfl, -⟩ := exists_append_of_isNormal hliteral ht
    exact ⟨_, .slashAhead hleaves, hentries⟩
  | @literal literal s rest spans hnot _ ih =>
    have hliteral := hliterals _ (List.mem_cons_self ..)
    obtain ⟨s', rfl, hs'⟩ := exists_append_of_isNormal hliteral ht
    obtain ⟨spans', hsplits, hsame⟩ :=
      ih (fun literal hmem => hliterals literal (List.mem_cons_of_mem _ hmem)) hentries hs'
    exact ⟨literal :: spans', .literal hnot hsplits, hsame⟩
  | @dynamic name span s rest spans hne hslash _ ih =>
    obtain ⟨value, more, hvalue, hmore, rfl⟩ := (spanEntries?_cons_eq_some rfl).1 hentries
    obtain ⟨span', hspan'⟩ := exists_requoted p asciiOnly hvalue
    obtain ⟨s', rfl, hs'⟩ :=
      exists_append_of_requoted (decode_eq_ok_iff.1 hvalue).1 hspan' ht
    obtain ⟨spans', hsplits, hsame⟩ :=
      ih (fun literal hmem => hliterals literal (List.mem_cons_of_mem _ hmem)) hmore hs'
    refine ⟨span' :: spans', .dynamic (mt (requotedText_eq_nil_iff hspan').1 hne)
      (slash_not_mem_requoted hprotected hslash hspan') hsplits, ?_⟩
    exact (spanEntries?_cons_eq_some rfl).2
      ⟨value, more, decodeText_requoted hvalue hspan', hsame, rfl⟩
  | @tail name s allowEmpty hempty =>
    obtain ⟨value, more, hvalue, hmore, rfl⟩ := (spanEntries?_cons_eq_some rfl).1 hentries
    refine ⟨[t], .tail fun hnil => hempty ((requotedText_eq_nil_iff ht).1 hnil), ?_⟩
    exact (spanEntries?_cons_eq_some rfl).2
      ⟨value, more, decodeText_requoted hvalue ht, hmore, rfl⟩

end Split

/-! ## Resources -/

/-- A resource of one pattern matches the requoted form of a path that it matches, with the same
entries: the slash is protected, the pattern has no inline expression, a slash or the end follows
each plain capture, and requoting leaves the literals alone. -/
theorem Resource.matchPath_ofRaw {config : Config} {extent : Extent} {name : Option Text}
    {pattern text : Text} {r : Resource} {result : MatchResult} (p : Protection)
    (hr : Resource.ofPatterns config extent name [pattern] = .ok r) (hplain : IsPlain r.segments)
    (hslash : SlashFollows r.segments) (hprotected : p.protects 0x2F = true)
    (hliterals : ∀ literal, .literal literal ∈ r.segments →
      p.requote? false (Utf8.encode literal) = none)
    (h : r.matchPath text = .ok (some result)) :
    ∃ result', r.matchPath (PathState.ofRaw p (.text text)).path = .ok (some result') ∧
      result'.captures.map Capture.entry = result.captures.map Capture.entry := by
  show ∃ result', r.matchPath (p.requoteText text) = .ok (some result') ∧ _
  have hpos : (0 : Nat) ≤ text.length := Nat.zero_le _
  rcases Resource.best_of_matchAt hr hplain hpos h with hnil | ⟨spans, hbest⟩
  · have htext : text = [] := hnil
    rw [htext] at h
    rw [htext]
    exact ⟨result, h, rfl⟩
  obtain ⟨more, -, hend, -⟩ := Resource.leadsWith hr hplain
  have hmatch := Resource.matchAt_of_best hr hplain hpos (by decide) hbest
  obtain ⟨captures, hcaptures, rfl⟩ :=
    Option.map_eq_some_iff.1 (Except.ok.inj (hmatch.symm.trans h))
  have hsplits := splits_of_best hend hbest
  have hentries := hsplits.entries_eq text 0 rfl hpos
  rw [hcaptures, Option.map_some] at hentries
  obtain ⟨asciiOnly, ht, -⟩ := p.encode_requoteText text
  obtain ⟨spans', hsplits', hentries'⟩ := hsplits.requoted hprotected
    (fun literal hmem => (p.requote?_eq_none_iff false).1 (hliterals literal hmem)) hentries.symm ht
  have hpos' : (0 : Nat) ≤ (p.requoteText text).length := Nat.zero_le _
  have hmatch' := Resource.matchAt_of_best hr hplain hpos' (by decide)
    (hsplits'.best_eq hslash : best extent r.segments ((p.requoteText text).drop 0) = some spans')
  have hcaptured := hsplits'.entries_eq (p.requoteText text) 0 rfl hpos'
  rw [hentries', Option.map_eq_some_iff] at hcaptured
  obtain ⟨captures', hcaptures', hsame⟩ := hcaptured
  rw [hcaptures'] at hmatch'
  exact ⟨_, hmatch', hsame⟩

/-- Only escapes of ASCII are decoded, because of a byte that stands after the match. -/
theorem Resource.matchPath_ofRaw_fallback :
    ∃ r result, Resource.ofPatterns .standard .leading none ["/d%2F/{a}".toList] = .ok r ∧
      (PathState.ofRaw .standard (.text "/d%2F/%41%2f%C3%A9/%FF".toList)).path =
        "/d%2F/A%2f%C3%A9/%FF".toList ∧
      r.matchPath (PathState.ofRaw .standard (.text "/d%2F/%41%2f%C3%A9/%FF".toList)).path =
        .ok (some result) ∧
      result.captures.map Capture.entry = [(['a'], "A/é".toList)] := by
  let segments : List Segment := [.literal "/d%2F/".toList, .dynamic ['a'], .boundary]
  let text := "/d%2F/%41%2f%C3%A9/%FF".toList
  let spans := ["/d%2F/".toList, "%41%2f%C3%A9".toList]
  have hparse : Pattern.parseAll .standard .leading ["/d%2F/{a}".toList] = .ok [segments] :=
    eq_ok_of_toOption (by decide +kernel)
  obtain ⟨r, hr, hsequences⟩ := Resource.exists_of_parseAll none hparse (by simp [IsPlain, segments])
  have hsegments := Resource.segments_of_sequences hsequences
  have hplain : IsPlain r.segments := by simp [hsegments, IsPlain, segments]
  have hliterals : ∀ literal, .literal literal ∈ r.segments →
      Protection.standard.requote? false (Utf8.encode literal) = none := by
    rw [hsegments]
    intro literal hmem
    obtain rfl : literal = "/d%2F/".toList := by simpa [segments] using hmem
    decide +kernel
  have hbest : best .leading r.segments (text.drop 0) = some spans := by
    rw [hsegments]
    decide +kernel
  have hcaptures : spanCaptures? text 0 segments spans =
      some [⟨['a'], text, 6, 18, some "A/é".toList⟩] := by decide +kernel
  have hmatch := Resource.matchAt_of_best hr hplain (Nat.zero_le text.length) (by decide) hbest
  rw [hsegments, hcaptures] at hmatch
  obtain ⟨result, hresult, hentries⟩ := Resource.matchPath_ofRaw .standard hr hplain
    (by simp [hsegments, SlashFollows, segments]) (by decide) hliterals hmatch
  exact ⟨r, result, hr, by decide +kernel, hresult, hentries⟩

end PathRouter
