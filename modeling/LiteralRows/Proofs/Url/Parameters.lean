import LiteralRows.Proofs.Url.Reading

/-!
# A password among the parameters

A descriptor may name the password of a connection among the parameters of its query, and there it
is no password of a URL.  The query is shown as it stands, with escapes for the characters that need
them.  Two descriptors that differ only in that parameter are shown alike only where neither is a
URL or where both values are written alike (`redacted_withParameter_eq_iff`).
-/

namespace LiteralRows.Url

/-- A descriptor with a password among the parameters of its query. -/
def withParameter (scheme place before value after : String) : String :=
  scheme ++ "://" ++ place ++ "?" ++ before ++ "password=" ++ value ++ after

/-- The text may be a value in a query, and no character of it would begin a fragment or be left
out. -/
structure IsValue (s : List Char) : Prop where
  plain : IsFreeOf ['#', '\t', '\r', '\n'] s
  visibleEnd : s.getLast?.all (0x20 < ·.toNat) = true

theorem IsValue.unbroken_eq {s : List Char} (h : IsValue s) : unbroken s = s :=
  unbroken_eq_self (h.plain.of_subset (by decide))

/-- Only what stands around a value is brought into another form. -/
theorem cleaned_withParameter {scheme value : String} (hscheme : IsScheme scheme.toList)
    (hvalue : IsValue value.toList) (place before after : String) :
    cleaned (withParameter scheme place before value after).toList =
      scheme.toList ++ ':' :: ('/' :: '/' :: unbroken place.toList ++
        '?' :: (unbroken before.toList ++ "password=".toList ++ value.toList ++
          unbroken (trimmedEnd after.toList))) := by
  have htext : (withParameter scheme place before value after).toList =
      scheme.toList ++
        ':' :: ('/' :: '/' :: place.toList ++ '?' :: (before.toList ++ "password".toList)) ++
        '=' :: (value.toList ++ after.toList) := by
    simp only [withParameter, String.toList_append, List.append_assoc, List.cons_append]
    rfl
  have hfront : unbroken
        ('/' :: '/' :: place.toList ++ '?' :: (before.toList ++ "password".toList)) =
      '/' :: '/' :: unbroken place.toList ++
        '?' :: (unbroken before.toList ++ "password".toList) := by
    have hname : unbroken ('?' :: (before.toList ++ "password".toList)) =
        '?' :: (unbroken before.toList ++ unbroken "password".toList) :=
      congrArg ('?' :: ·) (unbroken_append _ _)
    rw [unbroken_append, hname]
    rfl
  have hback : unbroken ('=' :: (value.toList ++ trimmedEnd after.toList)) =
      '=' :: (value.toList ++ unbroken (trimmedEnd after.toList)) := by
    have hvalue := (unbroken_append value.toList (trimmedEnd after.toList)).trans
      (congrArg (· ++ _) hvalue.unbroken_eq)
    exact congrArg ('=' :: ·) hvalue
  rw [htext, hscheme.cleaned_eq (by decide), trimmedEnd_append hvalue.visibleEnd, hfront,
    hback]
  simp only [List.append_assoc, List.cons_append]
  rfl

/-- A value stands in the query and nowhere else. -/
theorem exists_parse_withParameter {scheme place before : String}
    (hscheme : IsScheme scheme.toList) (hplace : IsFreeOf ['?', '#'] place.toList)
    (hbefore : IsFreeOf ['#'] before.toList) (after : String) :
    ∃ (target : Except Fault (Option Authority × Path)) (front back : List Char)
      (fragment : Option (List Char)), ∀ value : String, IsValue value.toList →
      parse (withParameter scheme place before value after) =
        target.map (ofParts (Text.lowerAscii scheme) (some (front ++ value.toList ++ back))
          fragment) := by
  rcases hfragment : cutOff '#' (unbroken (trimmedEnd after.toList)) with ⟨back, fragment⟩
  refine ⟨readTarget (.ofScheme (Text.lowerAscii scheme))
      ('/' :: '/' :: unbroken place.toList) true,
    unbroken before.toList ++ "password=".toList, back, fragment, fun value hvalue => ?_⟩
  have hfront : IsFreeOf ['?', '#'] ('/' :: '/' :: unbroken place.toList) :=
    isFreeOf_cons.mpr ⟨by decide, isFreeOf_cons.mpr ⟨by decide, hplace.unbroken⟩⟩
  have hlead : IsFreeOf ['#'] (unbroken before.toList ++ "password=".toList) :=
    isFreeOf_append.mpr ⟨hbefore.unbroken, by decide⟩
  have hquery : IsFreeOf ['#'] ('?' :: (unbroken before.toList ++ "password=".toList ++
      value.toList)) :=
    isFreeOf_cons.mpr
      ⟨by decide, isFreeOf_append.mpr ⟨hlead, hvalue.plain.of_subset (by decide)⟩⟩
  have hmark : IsFreeOf ['#'] ('/' :: '/' :: unbroken place.toList ++
      '?' :: (unbroken before.toList ++ "password=".toList ++ value.toList)) :=
    isFreeOf_append.mpr ⟨hfront.of_subset (by decide), hquery⟩
  have hoff : cutOff '#' ('/' :: '/' :: unbroken place.toList ++ '?' ::
        (unbroken before.toList ++ "password=".toList ++ value.toList ++
          unbroken (trimmedEnd after.toList))) =
      ('/' :: '/' :: unbroken place.toList ++ '?' ::
        (unbroken before.toList ++ "password=".toList ++ value.toList ++ back), fragment) := by
    have h := cutOff_append (hmark.notMem List.mem_cons_self) (unbroken (trimmedEnd after.toList))
    rw [hfragment] at h
    simpa only [List.append_assoc, List.cons_append] using h
  have hparse := hscheme.parse_eq (cleaned_withParameter hscheme hvalue place before after) hoff
    (cutOff_append_cons (hfront.notMem List.mem_cons_self) _)
  rwa [String.ofList_toList] at hparse

/-- The query of a URL can be seen in its text. -/
theorem text_query_inj (u : Url) {first second : String} :
    ({ u with query := some first } : Url).text = ({ u with query := some second } : Url).text ↔
      first = second := by
  rw [text, text, String.append_left_inj, String.append_right_inj]
  exact String.append_right_inj "?"

/-- **A value in the query is shown as it is written.** -/
theorem redacted_withParameter_eq_iff {scheme place before first second : String}
    (hscheme : scheme ∈ ["postgres", "postgresql"]) (hplace : IsFreeOf ['?', '#'] place.toList)
    (hbefore : IsFreeOf ['#'] before.toList) (hfirst : IsValue first.toList)
    (hsecond : IsValue second.toList) (after : String) :
    redacted (withParameter scheme place before first after) =
        redacted (withParameter scheme place before second after) ↔
      (∃ fault, parse (withParameter scheme place before first after) = .error fault) ∨
        Percent.encode Percent.bareInQuery first.toList =
          Percent.encode Percent.bareInQuery second.toList := by
  have hkind : IsScheme scheme.toList ∧ SchemeKind.ofScheme (Text.lowerAscii scheme) = .other := by
    rcases List.mem_cons.mp hscheme with rfl | hscheme
    · decide
    · rw [List.mem_singleton.mp hscheme]
      decide
  obtain ⟨target, front, back, fragment, hparse⟩ :=
    exists_parse_withParameter hkind.1 hplace hbefore after
  have hfirst := hparse first hfirst
  have hsecond := hparse second hsecond
  cases target with
  | error fault =>
    refine iff_of_true ?_ (.inl ⟨fault, hfirst⟩)
    rw [redacted, redacted, hfirst, hsecond]
    rfl
  | ok target =>
    have hshown : ∀ query, (ofParts (Text.lowerAscii scheme) (some query) fragment target).masked =
        { (ofParts (Text.lowerAscii scheme) none fragment target).masked with
          query := some (String.ofList (Percent.encode Percent.bareInQuery query)) } := by
      intro query
      rw [ofParts, hkind.2]
      rfl
    have hread :
        ¬ ∃ fault, parse (withParameter scheme place before first after) = .error fault := by
      rintro ⟨fault, hfault⟩
      rw [hfault] at hfirst
      cases hfirst
    rw [or_iff_right hread, redacted, redacted, hfirst, hsecond]
    change text _ = text _ ↔ _
    rw [hshown, hshown, text_query_inj, String.ofList_inj]
    simp only [Percent.encode_append]
    rw [List.append_left_inj, List.append_right_inj]

/-- A parameter between others, with a fragment behind them. -/
theorem redacted_withParameter_eq_iff_between_others :
    "postgresql" ∈ ["postgres", "postgresql"] ∧
      IsFreeOf ['?', '#'] "h/db".toList ∧ IsFreeOf ['#'] "a=1&".toList ∧
      IsValue "x y".toList ∧ IsValue "é".toList ∧
      (redacted (withParameter "postgresql" "h/db" "a=1&" "x y" "&b#f") =
          redacted (withParameter "postgresql" "h/db" "a=1&" "é" "&b#f") ↔
        (∃ fault, parse (withParameter "postgresql" "h/db" "a=1&" "x y" "&b#f") = .error fault) ∨
          Percent.encode Percent.bareInQuery "x y".toList =
            Percent.encode Percent.bareInQuery "é".toList) := by
  have hscheme : "postgresql" ∈ ["postgres", "postgresql"] := by decide
  have hplace : IsFreeOf ['?', '#'] "h/db".toList := by decide
  have hbefore : IsFreeOf ['#'] "a=1&".toList := by decide
  have hfirst : IsValue "x y".toList := ⟨by decide, by decide⟩
  have hsecond : IsValue "é".toList := ⟨by decide, by decide⟩
  exact ⟨hscheme, hplace, hbefore, hfirst, hsecond,
    redacted_withParameter_eq_iff hscheme hplace hbefore hfirst hsecond "&b#f"⟩

/-- The password of a connection is shown. -/
theorem redacted_withParameter_ne :
    redacted "postgres://marvin@localhost/db?password=secret" ≠
      redacted "postgres://marvin@localhost/db?password=hidden" := by
  decide +kernel

end LiteralRows.Url
