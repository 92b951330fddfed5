import LiteralRows.Proofs.Url.Host
import LiteralRows.Proofs.Url.Reading

/-!
# A masked password leaves no trace

Whether a descriptor is read as a URL, and what is shown of it, does not depend on the password that
stands in it (`redacted_eq_of_isPassword`).  The argument follows the descriptor inwards.

* The credentials hold no mark at which a descriptor is cut, so that every reader takes them whole.
* The last at sign of an authority may stand far behind the credentials.  What stands before it then
  belongs to the password too, and what stands behind it is the same for every password.
* An authority is read from a user name, a password and a place (`readAuthority_of_password`).
  Reading the place fails or not whatever the password is, and masking a URL forgets it.
* The scheme `file` has no credentials.  There the password is part of a host with an at sign, and
  the descriptor is no URL for any password.
-/

namespace LiteralRows.Url

/-- No character of the text would end the name of a user. -/
abbrev IsUserName (s : List Char) : Prop :=
  IsFreeOf [':', '@', '/', '?', '#', '\\'] s

/-- The text is a password, and no character of it would end the authority or be left out. -/
structure IsPassword (s : List Char) : Prop where
  ne_nil : s ≠ []
  plain : IsFreeOf ['/', '?', '#', '\\', '\t', '\r', '\n'] s

/-- A user name and a password as they stand before a host. -/
def credentialsText (user password : List Char) : List Char :=
  user ++ ':' :: (password ++ ['@'])

variable {user password : List Char}

theorem IsPassword.unbroken_eq (h : IsPassword password) : unbroken password = password :=
  unbroken_eq_self (h.plain.of_subset (by decide))

theorem at_mem_credentialsText (user password : List Char) :
    '@' ∈ credentialsText user password :=
  List.mem_append_right _ (List.mem_cons_of_mem _ (List.mem_append_right _ List.mem_cons_self))

/-- A descriptor is not cut inside the credentials. -/
theorem isFreeOf_credentialsText (huser : IsUserName user) (hpassword : IsPassword password) :
    IsFreeOf ['/', '?', '#', '\\'] (credentialsText user password) := by
  have hback : IsFreeOf ['/', '?', '#', '\\'] (password ++ ['@']) :=
    isFreeOf_append.mpr ⟨hpassword.plain.of_subset (by decide), by decide⟩
  exact isFreeOf_append.mpr
    ⟨huser.of_subset (by decide), isFreeOf_cons.mpr ⟨by decide, hback⟩⟩

theorem isSlash_of_mem_credentialsText (huser : IsUserName user) (hpassword : IsPassword password)
    (kind : SchemeKind) {c : Char} (hc : c ∈ credentialsText user password) :
    kind.isSlash c = false := by
  have hfree := isFreeOf_credentialsText huser hpassword
  have hslash : c ≠ '/' := ne_of_mem_of_not_mem hc (hfree.notMem (by decide))
  have hback : c ≠ '\\' := ne_of_mem_of_not_mem hc (hfree.notMem (by decide))
  rw [SchemeKind.isSlash, beq_eq_false_iff_ne.mpr hslash, beq_eq_false_iff_ne.mpr hback,
    Bool.false_and, Bool.or_false]

theorem two_lt_length_credentialsText (hpassword : IsPassword password) :
    2 < (credentialsText user password).length := by
  have hpos := List.length_pos_iff.mpr hpassword.ne_nil
  rw [credentialsText, List.length_append, List.length_cons, List.length_append,
    List.length_singleton]
  omega

/-- The marks of a query and a fragment are looked for behind the credentials. -/
theorem cutOff_credentialsText (huser : IsUserName user) (hpassword : IsPassword password)
    {mark : Char} (hmark : mark ∈ ['?', '#']) {s before : List Char} {after : Option (List Char)}
    (hcut : cutOff mark s = (before, after)) :
    cutOff mark ('/' :: '/' :: (credentialsText user password ++ s)) =
      ('/' :: '/' :: (credentialsText user password ++ before), after) := by
  have hcredentials : IsFreeOf ['?', '#'] (credentialsText user password) :=
    (isFreeOf_credentialsText huser hpassword).of_subset (by decide)
  have hfront : IsFreeOf ['?', '#'] ('/' :: '/' :: credentialsText user password) :=
    isFreeOf_cons.mpr ⟨by decide, isFreeOf_cons.mpr ⟨by decide, hcredentials⟩⟩
  have hoff := cutOff_append (hfront.notMem hmark) s
  rw [hcut] at hoff
  exact hoff

/-! ## Authorities -/

/-- A user name or a password as it is written. -/
def writtenUserInfo (s : List Char) : String :=
  String.ofList (Percent.encode Percent.bareInUserInfo s)

theorem Percent.encode_ne_nil (bare : Char → Bool) {s : List Char} (h : s ≠ []) :
    encode bare s ≠ [] := by
  obtain ⟨c, cs, rfl⟩ := List.exists_cons_of_ne_nil h
  rw [encode, List.flatMap_cons]
  refine List.append_ne_nil_of_left_ne_nil ?_ _
  split
  · exact List.cons_ne_nil c []
  · obtain ⟨lead, tail, hencode, -⟩ := Text.Utf8.exists_encodeChar c
    rw [hencode, List.flatMap_cons, escape]
    exact List.cons_ne_nil _ _

theorem writtenUserInfo_ne (h : password ≠ []) : writtenUserInfo password ≠ "" := by
  intro hempty
  have hlist := congrArg String.toList hempty
  rw [writtenUserInfo, String.toList_ofList] at hlist
  exact Percent.encode_ne_nil _ h hlist

/-- Reads a host that has to be there. -/
def readHost (kind : SchemeKind) (text : List Char) : Except Fault Host :=
  match kind with
  | .other => Host.ofName text
  | _ => if text.isEmpty then .error .emptyHost else Host.ofDomain text

/-- Reads the host and the port of an authority that has credentials, and hands on what stands
between the port and the next slash. -/
def readPlace (kind : SchemeKind) (text : List Char) :
    Except Fault (Host × Option Nat × List Char) := do
  let (hostText, portText) := cutPort false text
  let host ← readHost kind hostText
  if host = .empty then throw .emptyHost
  let (port, rest) ← portText.elim (.ok (none, [])) readPort
  .ok (host, if port.map SchemeKind.special = some kind then none else port, rest)

/-- **An authority is a user name, a password and a place**, each read on its own. -/
theorem readAuthority_of_password (kind : SchemeKind) {text target : List Char} (atEnd : Bool)
    (huser : ':' ∉ user) (hpassword : password ≠ [])
    (hcut : cutCredentials text = (some (user ++ ':' :: password), target)) :
    readAuthority kind text atEnd = (readPlace kind target).map fun (host, port, rest) =>
      ({ userName := writtenUserInfo user, password := writtenUserInfo password, host, port },
        rest) := by
  have hne : some (user ++ ':' :: password) ≠ some [] :=
    fun h => List.append_ne_nil_of_right_ne_nil user (List.cons_ne_nil _ _) (Option.some.inj h)
  have hhost : ∀ (hostText : List Char) (f : Host → Except Fault (Authority × List Char)),
      (match kind with
        | .other => Host.ofName hostText >>= f
        | _ => if hostText.isEmpty then Except.error Fault.emptyHost >>= f
          else Host.ofDomain hostText >>= f) = readHost kind hostText >>= f := by
    intro hostText f
    cases kind with
    | other => rfl
    | special | file => cases hostText <;> rfl
  unfold readAuthority readPlace
  rw [hcut]
  dsimp only
  rw [if_neg fun h => hne h.1, Option.getD_some, cutOff_append_cons huser]
  refine (hhost _ _).trans ?_
  cases readHost kind (cutPort false target).1 with
  | error fault => rfl
  | ok host =>
    change ite _ _ _ = Except.map _ (ite _ _ _)
    by_cases hempty : host = .empty
    · rw [if_pos ⟨hempty, .inr (.inr (writtenUserInfo_ne hpassword))⟩, if_pos hempty]
      rfl
    · rw [if_neg fun h => hempty h.1, if_neg hempty]
      cases (cutPort false target).2 with
      | none => rfl
      | some digits =>
        dsimp only [Option.elim]
        cases readPort digits <;> rfl

/-- The last at sign of a text that begins with credentials is theirs, or stands behind them.  The
text before it begins with the password, and the text behind it does not depend on that. -/
theorem exists_cutCredentials_eq (user t : List Char) :
    ∃ more target, ∀ password,
      cutCredentials (credentialsText user password ++ t) =
        (some (user ++ ':' :: (password ++ more)), target) := by
  have htext : ∀ password, credentialsText user password ++ t =
      (user ++ ':' :: password) ++ '@' :: t := by
    intro password
    simp only [credentialsText, List.append_assoc, List.cons_append, List.nil_append]
  cases hcut : Text.cutAtLast '@' t with
  | none =>
    refine ⟨[], t, fun password => ?_⟩
    rw [htext, cutCredentials, Text.cutAtLast_append_cons, hcut, List.append_nil]
  | some cut =>
    refine ⟨'@' :: cut.1, cut.2, fun password => ?_⟩
    rw [htext, cutCredentials, Text.cutAtLast_append_cons, hcut]
    simp only [List.append_assoc, List.cons_append]

/-! ## Files -/

theorem isDrive_eq_false {s : List Char} (h : 2 < s.length) :
    isDrive (String.ofList s) = false := by
  rw [isDrive, String.toList_ofList]
  split
  · exact absurd h (Nat.lt_irrefl 2)
  · rfl

/-- The text with slashes for its backslashes. -/
def slashed (s : List Char) : List Char :=
  s.map fun c => if c = '\\' then '/' else c

theorem slashed_eq_self {s : List Char} (h : '\\' ∉ s) : slashed s = s :=
  (List.map_congr_left fun _ hc => if_neg (ne_of_mem_of_not_mem hc h)).trans (List.map_id s)

/-- A file on a host that does not exist is not read. -/
theorem readFile_of_at {text rest : List Char} (htext : slashed text = '/' :: '/' :: rest)
    (hlength : 2 < (rest.takeWhile (· != '/')).length) (hat : '@' ∈ rest.takeWhile (· != '/')) :
    readFile text = .error
      (if (rest.takeWhile (· != '/')).head? = some '[' then .invalidIpv6
        else .invalidDomainName) := by
  have hne : ¬ (rest.takeWhile (· != '/')).isEmpty = true :=
    fun h => List.ne_nil_of_mem hat (List.isEmpty_iff.mp h)
  rw [slashed] at htext
  rw [readFile, htext]
  split
  · rename_i more heq
    cases heq
    dsimp only
    rw [isDrive_eq_false hlength, if_neg Bool.false_ne_true, if_neg hne, Host.ofDomain_of_at hat]
    rfl
  · rename_i hother
    exact absurd rfl (hother rest)

/-! ## One outcome for all passwords -/

section Reading

variable (huser : IsUserName user) (kind : SchemeKind) (t : List Char) (marked : Bool)
include huser

theorem exists_masked_readAuthority :
    ∃ outcome, ∀ password, IsPassword password →
      (readAuthority kind (credentialsText user password ++ t) marked).map
        (Prod.map Authority.masked id) = outcome := by
  obtain ⟨more, target, hcut⟩ := exists_cutCredentials_eq user t
  refine ⟨(readPlace kind target).map fun (host, port, rest) =>
    ({ userName := writtenUserInfo user, password := "***", host, port }, rest), ?_⟩
  intro password hpassword
  have hcolon : ':' ∉ user := huser.notMem List.mem_cons_self
  have hne := List.append_ne_nil_of_left_ne_nil hpassword.ne_nil more
  rw [readAuthority_of_password kind marked hcolon hne (hcut password)]
  cases readPlace kind target with
  | error fault => rfl
  | ok place =>
    have hwritten := writtenUserInfo_ne hne
    simp only [Except.map, Prod.map, Authority.masked, id_eq]
    rw [if_neg]
    rwa [String.isEmpty_iff]

theorem exists_masked_readHierarchy :
    ∃ outcome, ∀ password, IsPassword password →
      (readHierarchy kind (credentialsText user password ++ t) marked).map
        (Prod.map Authority.masked id) = outcome := by
  obtain ⟨outcome, houtcome⟩ := exists_masked_readAuthority huser kind
    (t.takeWhile (!kind.isSlash ·)) ((t.dropWhile (!kind.isSlash ·)).isEmpty && !marked)
  refine ⟨outcome.map fun read =>
    (read.1, pathOf kind (read.2 ++ t.dropWhile (!kind.isSlash ·))), ?_⟩
  intro password hpassword
  have hslash : ∀ c ∈ credentialsText user password, (!kind.isSlash c) = true := by
    intro c hc
    rw [isSlash_of_mem_credentialsText huser hpassword kind hc, Bool.not_false]
  rw [readHierarchy, List.takeWhile_append_of_pos hslash, List.dropWhile_append_of_pos hslash]
  rw [← houtcome password hpassword]
  cases readAuthority kind (credentialsText user password ++ t.takeWhile (!kind.isSlash ·)) _
  all_goals rfl

/-- To a file, a password is part of a host that does not exist. -/
theorem exists_readFile_eq :
    ∃ fault, ∀ password, IsPassword password →
      readFile ('/' :: '/' :: (credentialsText user password ++ t)) = .error fault := by
  refine ⟨if user.head? = some '[' then .invalidIpv6 else .invalidDomainName, ?_⟩
  intro password hpassword
  have hfree := isFreeOf_credentialsText huser hpassword
  have hhost : ∀ c ∈ credentialsText user password, (c != '/') = true :=
    fun c hc => bne_iff_ne.mpr (ne_of_mem_of_not_mem hc (hfree.notMem (by decide)))
  have hhead : ∀ s, (credentialsText user password ++ s).head? = some '[' ↔
      user.head? = some '[' := by
    intro s
    cases user with
    | nil => exact iff_of_false (fun h => absurd (Option.some.inj h) (by decide)) nofun
    | cons c cs => exact Iff.rfl
  have htext : slashed ('/' :: '/' :: (credentialsText user password ++ t)) =
      '/' :: '/' :: (credentialsText user password ++ slashed t) := by
    have hback : '\\' ∉ credentialsText user password := hfree.notMem (by decide)
    calc slashed ('/' :: '/' :: (credentialsText user password ++ t))
        = '/' :: '/' :: (slashed (credentialsText user password) ++ slashed t) :=
          congrArg (fun s => '/' :: '/' :: s) List.map_append
      _ = '/' :: '/' :: (credentialsText user password ++ slashed t) := by
          rw [slashed_eq_self hback]
  have htake : (credentialsText user password ++ slashed t).takeWhile (· != '/') =
      credentialsText user password ++ (slashed t).takeWhile (· != '/') :=
    List.takeWhile_append_of_pos hhost
  have hread := readFile_of_at htext
  rw [htake, List.length_append, if_congr (hhead _) rfl rfl] at hread
  exact hread (Nat.lt_add_right _ (two_lt_length_credentialsText hpassword))
    (List.mem_append_left _ (at_mem_credentialsText user password))

theorem exists_masked_readTarget :
    ∃ outcome, ∀ password, IsPassword password →
      (readTarget kind ('/' :: '/' :: (credentialsText user password ++ t)) marked).map
        (Prod.map (Option.map Authority.masked) id) = outcome := by
  cases kind with
  | file =>
    obtain ⟨fault, hfault⟩ := exists_readFile_eq huser t
    refine ⟨.error fault, fun password hpassword => ?_⟩
    rw [readTarget, hfault password hpassword]
    rfl
  | special port =>
    obtain ⟨outcome, houtcome⟩ := exists_masked_readHierarchy huser (.special port) t marked
    refine ⟨outcome.map (Prod.map some id), fun password hpassword => ?_⟩
    have hdrop : ('/' :: '/' :: (credentialsText user password ++ t)).dropWhile
        (SchemeKind.special port).isSlash = credentialsText user password ++ t := by
      obtain ⟨c, cs, hcs⟩ := List.exists_cons_of_ne_nil
        (List.ne_nil_of_mem (at_mem_credentialsText user password))
      have hc : (SchemeKind.special port).isSlash c = false :=
        isSlash_of_mem_credentialsText huser hpassword _ (hcs ▸ List.mem_cons_self)
      rw [List.dropWhile_cons_of_pos rfl, List.dropWhile_cons_of_pos rfl, hcs, List.cons_append,
        List.dropWhile_cons_of_neg (ne_true_of_eq_false hc)]
    rw [readTarget, hdrop, ← houtcome password hpassword]
    cases readHierarchy (.special port) (credentialsText user password ++ t) marked <;> rfl
  | other =>
    obtain ⟨outcome, houtcome⟩ := exists_masked_readHierarchy huser .other t marked
    refine ⟨outcome.map (Prod.map some id), fun password hpassword => ?_⟩
    rw [readTarget, ← houtcome password hpassword]
    cases readHierarchy .other (credentialsText user password ++ t) marked <;> rfl

end Reading

/-! ## Descriptors -/

/-- The text of a descriptor counts as it stands, but for breaks in the user name and behind the
credentials. -/
theorem cleaned_descriptor {scheme user password : String} (hscheme : IsScheme scheme.toList)
    (hpassword : IsPassword password.toList) (rest : String) :
    cleaned (scheme ++ "://" ++ user ++ ":" ++ password ++ "@" ++ rest).toList =
      scheme.toList ++ ':' :: '/' :: '/' ::
        (credentialsText (unbroken user.toList) password.toList ++
          unbroken (trimmedEnd rest.toList)) := by
  have htext : (scheme ++ "://" ++ user ++ ":" ++ password ++ "@" ++ rest).toList =
      scheme.toList ++ ':' :: ('/' :: '/' :: (user.toList ++ ':' :: password.toList)) ++
        '@' :: rest.toList := by
    simp only [String.toList_append, List.append_assoc, List.cons_append]
    rfl
  have hfront : unbroken ('/' :: '/' :: (user.toList ++ ':' :: password.toList)) =
      '/' :: '/' :: (unbroken user.toList ++ ':' :: password.toList) :=
    calc unbroken ('/' :: '/' :: (user.toList ++ ':' :: password.toList))
        = '/' :: '/' :: (unbroken user.toList ++ ':' :: unbroken password.toList) :=
          congrArg (fun s => '/' :: '/' :: s) (unbroken_append _ _)
      _ = '/' :: '/' :: (unbroken user.toList ++ ':' :: password.toList) := by
          rw [hpassword.unbroken_eq]
  rw [htext, hscheme.cleaned_eq (by decide), hfront, credentialsText]
  simp only [List.append_assoc, List.cons_append, List.nil_append]
  rfl

theorem exists_masked_parse {scheme user : String} (hscheme : IsScheme scheme.toList)
    (huser : IsUserName user.toList) (rest : String) :
    ∃ outcome, ∀ password : String, IsPassword password.toList →
      (parse (scheme ++ "://" ++ user ++ ":" ++ password ++ "@" ++ rest)).map masked = outcome := by
  rcases hfragment : cutOff '#' (unbroken (trimmedEnd rest.toList)) with ⟨t, fragment⟩
  rcases hquery : cutOff '?' t with ⟨target, query⟩
  let name := Text.lowerAscii (String.ofList scheme.toList)
  obtain ⟨outcome, houtcome⟩ := exists_masked_readTarget huser.unbroken (.ofScheme name) target
    (query.isSome || fragment.isSome)
  refine ⟨outcome.map (ofParts name query fragment), fun password hpassword => ?_⟩
  rw [hscheme.parse_eq (cleaned_descriptor hscheme hpassword rest)
    (cutOff_credentialsText huser.unbroken hpassword (by decide) hfragment)
    (cutOff_credentialsText huser.unbroken hpassword (by decide) hquery),
    ← houtcome password.toList hpassword]
  cases readTarget _ _ _ <;> rfl

theorem redacted_eq (descriptor : String) :
    redacted descriptor = match (parse descriptor).map masked with
      | .ok url => url.text
      | .error _ => "<unparseable descriptor>" := by
  rw [redacted]
  cases parse descriptor <;> rfl

/-- **What is shown of a descriptor does not depend on the password in it.**  This holds for every
scheme, whatever stands before and behind the credentials, and whether a URL is read or not. -/
theorem redacted_eq_of_isPassword {scheme user first second : String}
    (hscheme : IsScheme scheme.toList) (huser : IsUserName user.toList)
    (hfirst : IsPassword first.toList) (hsecond : IsPassword second.toList) (rest : String) :
    redacted (scheme ++ "://" ++ user ++ ":" ++ first ++ "@" ++ rest) =
      redacted (scheme ++ "://" ++ user ++ ":" ++ second ++ "@" ++ rest) := by
  obtain ⟨outcome, houtcome⟩ := exists_masked_parse hscheme huser rest
  rw [redacted_eq, redacted_eq, houtcome first hfirst, houtcome second hsecond]

/-- Two passwords with the marks of credentials in them. -/
theorem redacted_eq_of_isPassword_with_marks :
    IsScheme "postgres".toList ∧ IsUserName "marvin".toList ∧ IsPassword "p@ss:%41".toList ∧
      IsPassword "[::1]@é \"".toList ∧
      redacted ("postgres" ++ "://" ++ "marvin" ++ ":" ++ "p@ss:%41" ++ "@" ++ "[::1]/db") =
        redacted ("postgres" ++ "://" ++ "marvin" ++ ":" ++ "[::1]@é \"" ++ "@" ++ "[::1]/db") := by
  have hscheme : IsScheme "postgres".toList := by decide
  have huser : IsUserName "marvin".toList := by decide
  have hfirst : IsPassword "p@ss:%41".toList := ⟨by decide, by decide⟩
  have hsecond : IsPassword "[::1]@é \"".toList := ⟨by decide, by decide⟩
  exact ⟨hscheme, huser, hfirst, hsecond,
    redacted_eq_of_isPassword hscheme huser hfirst hsecond "[::1]/db"⟩

example : redacted "postgres://marvin:p@ss:%41@[::1]/db" = "postgres://marvin:***@[::1]/db" := by
  decide +kernel

end LiteralRows.Url
