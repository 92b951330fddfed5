import LiteralRows.Proofs.Lists
import LiteralRows.Proofs.Text.Composition
import LiteralRows.Proofs.Text.Digits
import LiteralRows.Proofs.Text.Utf8
import LiteralRows.Url.Host

/-!
# An at sign in a host

No text with an at sign is a domain name or an address.  In an address in brackets it is no digit.
In a domain name it stays where it is while escapes are read (`Percent.mem_decode`), the bytes are
read as characters and the name is mapped and composed (`Domain.mem_normal?`), and then it is a
character that no name may hold (`Host.ofDomain_of_at`).
-/

namespace LiteralRows

open Text (hexValue? number? splitOn)

namespace Url

/-! ## IPv6 addresses -/

namespace Host

/-- The character is no digit and separates nothing in an address. -/
structure IsForeign (c : Char) : Prop where
  noDigit : hexValue? c = none
  notColon : c ≠ ':'
  notPoint : c ≠ '.'

theorem isForeign_at : IsForeign '@' where
  noDigit := rfl
  notColon := by decide
  notPoint := by decide

variable {c : Char} {text : List Char}

theorem IsForeign.isDigitOf_eq_false (hc : IsForeign c) (base : Nat) :
    Text.isDigitOf base c = false := by
  rw [Text.isDigitOf, hc.noDigit]

theorem IsForeign.quad?_eq_none (hc : IsForeign c) (h : c ∈ text) : quad? text = none := by
  obtain ⟨piece, hpiece, hmem⟩ := Text.exists_mem_splitOn hc.notPoint h
  have hbyte : byte? piece = none := by
    rw [byte?, Text.number?_eq_none (hc.isDigitOf_eq_false 10) hmem]
  rw [quad?, mapM_eq_none_of_mem hpiece hbyte]

theorem IsForeign.piece?_eq_none (hc : IsForeign c) (h : c ∈ text) : piece? text = none := by
  rw [piece?, Text.number?_eq_none (hc.isDigitOf_eq_false 16) h, Option.map_none, ite_self]

theorem IsForeign.piecesOf?_eq_none (hc : IsForeign c) (quadAllowed : Bool) (h : c ∈ text) :
    piecesOf? quadAllowed text = none := by
  obtain ⟨piece, hpiece, hmem⟩ := Text.exists_mem_splitOn hc.notColon h
  have hne := Text.splitOn_ne_nil ':' text
  rw [piecesOf?, if_neg fun hnil => List.ne_nil_of_mem h (List.isEmpty_iff.mp hnil)]
  dsimp only
  rw [← List.dropLast_append_getLast hne, List.mem_append, List.mem_singleton] at hpiece
  rcases hpiece with hfront | rfl
  · rw [mapM_eq_none_of_mem hfront (hc.piece?_eq_none hmem)]
  · have hlast : (splitOn ':' text).getLastD [] = (splitOn ':' text).getLast hne := by
      rw [List.getLastD_eq_getLast?, List.getLast?_eq_some_getLast hne, Option.getD_some]
    rw [hlast, hc.piece?_eq_none hmem, hc.quad?_eq_none hmem, ite_self, Option.or_none]
    split
    · rename_i hsome
      cases hsome
    · rfl

theorem eq_append_of_cutPair {before after : List Char} (h : cutPair text = some (before, after)) :
    text = before ++ ':' :: ':' :: after := by
  induction text using cutPair.induct generalizing before with
  | case1 rest =>
    rw [cutPair] at h
    cases h
    rfl
  | case2 d rest hpair ih =>
    rw [cutPair.eq_2 _ _ hpair] at h
    cases hcut : cutPair rest with
    | none =>
      rw [hcut] at h
      cases h
    | some cut =>
      rw [hcut] at h
      cases h
      exact congrArg (d :: ·) (ih hcut)
  | case3 =>
    rw [cutPair] at h
    cases h

theorem IsForeign.ipv6?_eq_none (hc : IsForeign c) (h : c ∈ text) : ipv6? text = none := by
  rw [ipv6?]
  cases hcut : cutPair text with
  | none =>
    dsimp only
    rw [hc.piecesOf?_eq_none true h]
  | some cut =>
    dsimp only
    rw [eq_append_of_cutPair hcut, List.mem_append, List.mem_cons, List.mem_cons] at h
    rcases h with hbefore | hcolon | hcolon | hafter
    · rw [hc.piecesOf?_eq_none false hbefore]
    · exact absurd hcolon hc.notColon
    · exact absurd hcolon hc.notColon
    · rw [hc.piecesOf?_eq_none true hafter]
      cases piecesOf? false cut.1 <;> rfl

theorem ofBrackets_of_at (h : '@' ∈ text) : ofBrackets text = .error .invalidIpv6 := by
  rw [ofBrackets]
  cases hbefore : Text.before? [']'] text with
  | none => rfl
  | some address =>
    have haddress : '@' ∈ address := by
      rw [Text.before?, Option.map_eq_some_iff] at hbefore
      obtain ⟨rest, hrest, rfl⟩ := hbefore
      have hreverse : [']'] ++ rest = text.reverse := List.append_eq_of_isPrefixOf?_eq_some hrest
      have hmem : '@' ∈ [']'] ++ rest := hreverse ▸ List.mem_reverse.mpr h
      rw [List.mem_reverse]
      exact (List.mem_cons.mp hmem).resolve_left (by decide)
    rw [Option.bind_some, isForeign_at.ipv6?_eq_none haddress]

end Host

/-! ## Domain names -/

/-- A byte that takes no part in an escape stays in the text. -/
theorem Percent.mem_decode {b : UInt8} (hmark : b ≠ 0x25) (hdigit : hexValue? (charOf b) = none)
    {bytes : List UInt8} (h : b ∈ bytes) : b ∈ decode bytes := by
  induction bytes using decode.induct with
  | case1 high low rest d hd ih =>
    have hdigits : b ≠ high ∧ b ≠ low := by
      constructor
      all_goals
        rintro rfl
        rw [byteOf?, hdigit] at hd
      · cases hd
      · cases hhigh : hexValue? (charOf high) <;> rw [hhigh] at hd <;> cases hd
    rw [decode, hd]
    refine List.mem_cons_of_mem d (ih ?_)
    rcases List.mem_cons.mp h with hb | h
    · exact absurd hb hmark
    rcases List.mem_cons.mp h with hb | h
    · exact absurd hb hdigits.1
    · exact (List.mem_cons.mp h).resolve_left hdigits.2
  | case2 high low rest hd ih =>
    rw [decode, hd]
    exact List.mem_cons_of_mem _ (ih ((List.mem_cons.mp h).resolve_left hmark))
  | case3 d rest hd ih =>
    rw [decode.eq_2 d rest hd]
    rcases List.mem_cons.mp h with rfl | h
    · exact List.mem_cons_self
    · exact List.mem_cons_of_mem d (ih h)
  | case4 => cases h

theorem mem_encode_at {s : List Char} (h : '@' ∈ s) : (0x40 : UInt8) ∈ Text.Utf8.encode s :=
  List.mem_flatMap.mpr ⟨'@', h, List.mem_singleton_self _⟩

/-- **An at sign stays a character of the text that an escaped text stands for.** -/
theorem mem_of_decode?_bytesOf {s domain : List Char} (h : '@' ∈ s)
    (hdomain : Text.Utf8.decode? (Percent.bytesOf s) = some domain) : '@' ∈ domain := by
  have hbyte : (0x40 : UInt8) ∈ Percent.bytesOf s :=
    Percent.mem_decode (by decide) rfl (mem_encode_at h)
  rw [Text.Utf8.decode?] at hdomain
  split at hdomain
  · cases hdomain
    exact Text.Utf8.mem_decodeLossy_of_ascii (by decide) hbyte
  · cases hdomain

theorem Domain.mem_of_normal? {s name : List Char} (h : '@' ∈ s) (hname : normal? s = some name) :
    '@' ∈ name := by
  rw [normal?] at hname
  split at hname
  · cases hname
    exact List.mem_map.mpr ⟨'@', h, by decide⟩
  · obtain ⟨images, himages, rfl⟩ := Option.map_eq_some_iff.mp hname
    obtain ⟨image, hmem, himage⟩ := exists_mem_of_mapM_eq_some himages h
    have himage : image = ['@'] := Option.some.inj (himage.symm.trans rfl)
    refine Text.Normal.isApart_at.mem_composed (List.mem_flatten.mpr ⟨image, hmem, ?_⟩)
    rw [himage]
    exact List.mem_singleton_self _

theorem Domain.ascii?_of_at {s : List Char} (h : '@' ∈ s) : ascii? s = none := by
  rw [ascii?]
  cases hname : normal? s with
  | none => rfl
  | some name =>
    have hforbidden : name.any isForbidden = true :=
      List.any_eq_true.mpr ⟨'@', mem_of_normal? h hname, by decide⟩
    dsimp only [Option.bind_eq_bind, Option.bind_some]
    rw [if_pos hforbidden]
    rfl

/-- **A text with an at sign names no host**, and why it does not is seen from its first
character. -/
theorem Host.ofDomain_of_at {text : List Char} (h : '@' ∈ text) :
    ofDomain text =
      .error (if text.head? = some '[' then .invalidIpv6 else .invalidDomainName) := by
  have hascii : (Text.Utf8.decode? (Percent.bytesOf text)).bind Domain.ascii? = none := by
    cases hdomain : Text.Utf8.decode? (Percent.bytesOf text) with
    | none => rfl
    | some domain => exact Domain.ascii?_of_at (mem_of_decode?_bytesOf h hdomain)
  unfold ofDomain
  split
  · exact ofBrackets_of_at ((List.mem_cons.mp h).resolve_left (by decide))
  · rename_i hopen
    rw [hascii, if_neg]
    intro hhead
    obtain ⟨address, haddress⟩ := List.head?_eq_some_iff.mp hhead
    exact hopen address haddress

end Url

end LiteralRows
