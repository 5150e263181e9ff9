import HostAgent.Proofs.Net.Hosts

/-!
# The host and the path of a site

Behind `http:` a text names a site: slashes, a host with what belongs to it, and a
path that begins at the next slash. The address of the text is read from these
two parts. So the parts tell what becomes of an address when its text gets longer:
behind a mark nothing of it changes, and elsewhere the path gets longer, unless
there was no path yet.

## Main results

* `parse_site`: the address of a text in terms of its host and its path.
* `site_append_of_mark`: what follows a mark is no part of a site.
* `site_append_slash`: the parts of a text that gets a slash at its end.
-/

namespace HostAgent.Url

variable {port : Nat}

/-! ## Parts of a text -/

/-- A character that ends the path of a text. -/
def isMark (c : Char) : Bool := c == '?' || c == '#'

/-- What names a site in a text behind `http:`: no slashes in front, and no query behind. -/
def site (cs : List Char) : List Char := (cs.takeWhile (!isMark ·)).dropWhile isAnySlash

/-- The part of a site that names its host. -/
def siteHost (cs : List Char) : List Char := (site cs).takeWhile (!isAnySlash ·)

/-- The path of a site behind the slash that begins it. -/
def sitePath (cs : List Char) : List Char := ((site cs).dropWhile (!isAnySlash ·)).drop 1

/-- The path that an address of the web has, from the path of its site. -/
theorem pathAfter_eq (rest : List Char) (hrest : opensPath rest = true) :
    pathAfter (.web port) rest = walk (.web port) [] (rest.drop 1) := by
  cases rest with
  | nil => rfl
  | cons c rest =>
      have hc : (SchemeKind.web port).isSlash c = true := hrest
      rw [pathAfter, if_pos hc]
      rfl

theorem siteHost_plain (cs : List Char) : ∀ c ∈ siteHost cs, isAnySlash c = false := by
  intro c hc
  have hall := List.all_eq_true.1 (@List.all_takeWhile _ (!isAnySlash ·) (site cs)) c hc
  simpa using hall

theorem site_eq (cs : List Char) :
    siteHost cs ++ (site cs).dropWhile (!isAnySlash ·) = site cs :=
  List.takeWhile_append_dropWhile

theorem opensPath_dropWhile (cs : List Char) : opensPath (cs.dropWhile (!isAnySlash ·)) = true := by
  obtain ⟨-, -, -, hstop⟩ : ∃ front, cs = front ++ cs.dropWhile (!isAnySlash ·) ∧ _ ∧ _ :=
    Text.dropWhile_eq_iff.1 rfl
  refine opensPath_iff.2 fun c hc => ?_
  have hslash := hstop c hc
  simpa using hslash

theorem withAuthority_site {scheme : String} (hport : SchemeKind.of scheme = .web port)
    (cs : List Char) (r : Reference) :
    withAuthority scheme (site cs) r =
      (Authority.read (.web port) (siteHost cs) false).map fun read =>
        ⟨scheme, some read.1, .segments (walk (.web port) [] (sitePath cs)),
          r.queryText (.web port), r.fragmentText⟩ := by
  have hread := Authority.read_append port (siteHost_plain cs)
    (opensPath_dropWhile (site cs)) (r.query.isSome || r.fragment.isSome)
  rw [site_eq] at hread
  unfold withAuthority
  dsimp only
  rw [hport, hread]
  cases Authority.read (.web port) (siteHost cs) false with
  | error e => rfl
  | ok read =>
      show Except.ok _ = Except.ok _
      rw [pathAfter_eq _ (opensPath_dropWhile (site cs))]
      rfl

/-- An address of the web is its host, and the path that is followed from the root. -/
theorem parse_site {text scheme : String} {cs : List Char}
    (hscheme : scheme = "http" ∨ scheme = "https") (hport : SchemeKind.of scheme = .web port)
    (hclean : cleaned text = scheme.toList ++ ':' :: cs) :
    parse text = (Authority.read (.web port) (siteHost cs) false).map fun read =>
      ⟨scheme, some read.1, .segments (walk (.web port) [] (sitePath cs)),
        (Reference.of cs).queryText (.web port), (Reference.of cs).fragmentText⟩ := by
  have hparts : scheme? (cleaned text) = some (scheme, cs) := by
    rw [hclean]
    rcases hscheme with rfl | rfl <;> rfl
  have hbody : (Reference.of cs).body.dropWhile isAnySlash = site cs := by
    rw [body_of]
    rfl
  rw [parse, Url.read]
  simp only [hparts]
  unfold afterScheme
  rw [hport]
  simp only [hbody]
  exact withAuthority_site hport cs (Reference.of cs)

theorem of_parse_site {text scheme : String} {cs : List Char} {u : Url}
    (hscheme : scheme = "http" ∨ scheme = "https") (hport : SchemeKind.of scheme = .web port)
    (hclean : cleaned text = scheme.toList ++ ':' :: cs) (h : parse text = .ok u) :
    ∃ read, Authority.read (.web port) (siteHost cs) false = .ok read ∧ u.scheme = scheme ∧
      u.authority = some read.1 ∧ u.path = .segments (walk (.web port) [] (sitePath cs)) := by
  rw [parse_site hscheme hport hclean] at h
  cases hread : Authority.read (.web port) (siteHost cs) false with
  | error e =>
      rw [hread] at h
      cases h
  | ok read =>
      rw [hread] at h
      obtain rfl := Except.ok.inj h
      exact ⟨read, rfl, rfl, rfl, rfl⟩

/-! ## Longer texts -/

theorem isAnySlash_of_control {c : Char} (hc : c.toNat ≤ 0x20) : isAnySlash c = false := by
  have hslash : c ≠ '/' := by
    rintro rfl
    exact absurd hc (by decide)
  have hback : c ≠ '\\' := by
    rintro rfl
    exact absurd hc (by decide)
  simp [isAnySlash, hslash, hback]

theorem isMark_of_control {c : Char} (hc : c.toNat ≤ 0x20) : isMark c = false := by
  have hquestion : c ≠ '?' := by
    rintro rfl
    exact absurd hc (by decide)
  have hnumber : c ≠ '#' := by
    rintro rfl
    exact absurd hc (by decide)
  simp [isMark, hquestion, hnumber]

/-- What follows a mark is no part of a site. -/
theorem site_append_of_mark {cs : List Char} (h : ∃ c ∈ cs, isMark c = true) (more : List Char) :
    site (cs ++ more) = site cs := by
  obtain ⟨rest, hcut, hkept, hstop⟩ :=
    Text.takeWhile_eq_iff.1 (rfl : cs.takeWhile (!isMark ·) = _)
  have hrest : rest ≠ [] := by
    rintro rfl
    obtain ⟨c, hc, hmark⟩ := h
    rw [List.append_nil] at hcut
    have hno := hkept c (hcut ▸ hc)
    rw [hmark] at hno
    cases hno
  have htake : (cs ++ more).takeWhile (!isMark ·) = cs.takeWhile (!isMark ·) := by
    refine Text.takeWhile_eq_iff.2 ⟨rest ++ more, ?_, hkept, ?_⟩
    · rw [← List.append_assoc, ← hcut]
    · obtain ⟨c, rest, rfl⟩ := List.exists_cons_of_ne_nil hrest
      exact hstop
  rw [site, site, htake]

theorem site_of_noMarks {cs : List Char} (h : ∀ c ∈ cs, isMark c = false) :
    site cs = cs.dropWhile isAnySlash := by
  have hall : cs.takeWhile (!isMark ·) = cs :=
    Text.takeWhile_eq_iff.2 ⟨[], by simp, fun c hc => by simp [h c hc], by simp⟩
  rw [site, hall]

/-- A site gets what the text gets, unless there is nothing but slashes. -/
theorem site_append {cs more : List Char} (hcs : ∀ c ∈ cs, isMark c = false)
    (hmore : ∀ c ∈ more, isMark c = false)
    (hhead : site cs = [] → ∀ c ∈ more.head?, isAnySlash c = false) :
    site (cs ++ more) = site cs ++ more := by
  have hall : ∀ c ∈ cs ++ more, isMark c = false := by
    simp only [List.forall_mem_append]
    exact ⟨hcs, hmore⟩
  rw [site_of_noMarks hall, site_of_noMarks hcs] at *
  obtain ⟨slashes, hcut, hslashes, hstop⟩ :=
    Text.dropWhile_eq_iff.1 (rfl : cs.dropWhile isAnySlash = _)
  refine Text.dropWhile_eq_iff.2 ⟨slashes, ?_, hslashes, ?_⟩
  · rw [← List.append_assoc, ← hcut]
  · cases hsite : cs.dropWhile isAnySlash with
    | nil => exact hhead hsite
    | cons c rest =>
        rw [hsite] at hstop
        exact hstop

theorem parts_of_site {cs host behind : List Char} (h : site cs = host ++ behind)
    (hhost : ∀ c ∈ host, isAnySlash c = false) (hbehind : opensPath behind = true) :
    siteHost cs = host ∧ sitePath cs = behind.drop 1 := by
  have hall : ∀ c ∈ host, (!isAnySlash c) = true := fun c hc => by simp [hhost c hc]
  have hstop : ∀ c ∈ behind.head?, (!isAnySlash c) = false := fun c hc => by
    simp [opensPath_iff.1 hbehind c hc]
  constructor
  · exact Text.takeWhile_eq_iff.2 ⟨behind, h, hall, hstop⟩
  · rw [sitePath, Text.dropWhile_eq_iff.2 ⟨host, h, hall, hstop⟩]

/-- A host goes up to the first slash, and the path begins behind that. -/
theorem exists_path {cs : List Char} (hslash : ∃ c ∈ site cs, isAnySlash c = true) :
    ∃ c, isAnySlash c = true ∧ site cs = siteHost cs ++ c :: sitePath cs := by
  have hopens := opensPath_dropWhile (site cs)
  have hcut := site_eq cs
  rw [sitePath]
  cases hdrop : (site cs).dropWhile (!isAnySlash ·) with
  | nil =>
      rw [hdrop, List.append_nil] at hcut
      obtain ⟨c, hc, hs⟩ := hslash
      rw [siteHost_plain cs c (hcut.symm ▸ hc)] at hs
      cases hs
  | cons c path =>
      rw [hdrop] at hcut hopens
      exact ⟨c, hopens, hcut.symm⟩

/-- A text whose path goes on names the same host. -/
theorem siteHost_append {cs more : List Char} (h : site (cs ++ more) = site cs ++ more)
    (hslash : ∃ c ∈ site cs, isAnySlash c = true) :
    siteHost (cs ++ more) = siteHost cs ∧ sitePath (cs ++ more) = sitePath cs ++ more := by
  obtain ⟨c, hc, hcut⟩ := exists_path hslash
  have hlonger : site (cs ++ more) = siteHost cs ++ c :: (sitePath cs ++ more) := by
    rw [h, ← List.cons_append, ← List.append_assoc, ← hcut]
  exact parts_of_site hlonger (siteHost_plain cs) hc

/-- A site ends as its text does. -/
theorem getLast?_site {cs : List Char} (hcs : ∀ c ∈ cs, isMark c = false) (hne : site cs ≠ []) :
    (site cs).getLast? = cs.getLast? := by
  obtain ⟨slashes, hcut, -, -⟩ := Text.dropWhile_eq_iff.1 (rfl : cs.dropWhile isAnySlash = _)
  rw [site_of_noMarks hcs] at *
  have hsome : ((cs.dropWhile isAnySlash).getLast?).isSome = true := by simpa using hne
  have hlast := congrArg List.getLast? hcut
  rw [List.getLast?_append, Option.or_of_isSome hsome] at hlast
  exact hlast.symm

/-- A path ends as its text does, if it does not end where it begins. -/
theorem sitePath_ends_iff {cs : List Char} (hcs : ∀ c ∈ cs, isMark c = false)
    (hslash : ∃ c ∈ site cs, isAnySlash c = true) :
    (∀ c ∈ (sitePath cs).getLast?, isAnySlash c = true) ↔
      ∀ c ∈ cs.getLast?, isAnySlash c = true := by
  obtain ⟨d, hd, -⟩ := id hslash
  obtain ⟨c, hc, hcut⟩ := exists_path hslash
  rw [← getLast?_site hcs (List.ne_nil_of_mem hd), hcut, List.getLast?_append, List.getLast?_cons]
  cases hlast : (sitePath cs).getLast? with
  | none => simp [hc]
  | some e => simp

/-- The path of a text that ends in a slash is empty, or ends in one. -/
theorem sitePath_ends {cs : List Char} (hcs : ∀ c ∈ cs, isMark c = false)
    (h : ∀ c ∈ cs.getLast?, isAnySlash c = true) :
    ∀ c ∈ (sitePath cs).getLast?, isAnySlash c = true := by
  by_cases hslash : ∃ c ∈ site cs, isAnySlash c = true
  · exact (sitePath_ends_iff hcs hslash).2 h
  · have hplain : ∀ c ∈ site cs, isAnySlash c = false := fun c hc => by
      rw [← Bool.not_eq_true]
      exact fun hs => hslash ⟨c, hc, hs⟩
    have hnone := (parts_of_site (List.append_nil (site cs)).symm hplain
      (show opensPath [] = true from rfl)).2
    rw [hnone]
    simp

/-- Let a text without marks get a slash at its end, and perhaps controls in front of that. If it
names a host then, this is the host that it named before. Either the path gets what the text gets,
or there was no path, and there are no controls. -/
theorem site_append_slash {cs more : List Char} (hmarks : ∀ c ∈ cs, isMark c = false)
    (hmore : ∀ c ∈ more, c.toNat ≤ 0x20) (hne : siteHost (cs ++ (more ++ ['/'])) ≠ [])
    (hends : EndsInText (siteHost (cs ++ (more ++ ['/'])))) :
    siteHost (cs ++ (more ++ ['/'])) = siteHost cs ∧
      ((sitePath (cs ++ (more ++ ['/'])) = sitePath cs ++ (more ++ ['/']) ∧
          ((∀ c ∈ (sitePath cs).getLast?, isAnySlash c = true) ↔
            ∀ c ∈ cs.getLast?, isAnySlash c = true)) ∨
        (more = [] ∧ sitePath (cs ++ (more ++ ['/'])) = [] ∧ sitePath cs = [] ∧
          ∀ c ∈ cs.getLast?, isAnySlash c = false)) := by
  have hback : ∀ c ∈ more ++ ['/'], isMark c = false := by
    simp only [List.forall_mem_append, List.forall_mem_singleton]
    exact ⟨fun c hc => isMark_of_control (hmore c hc), by decide⟩
  by_cases hslash : ∃ c ∈ site cs, isAnySlash c = true
  · have happend : site (cs ++ (more ++ ['/'])) = site cs ++ (more ++ ['/']) := by
      refine site_append hmarks hback fun hnil => ?_
      obtain ⟨c, hc, -⟩ := hslash
      rw [hnil] at hc
      cases hc
    obtain ⟨hhost, hpath⟩ := siteHost_append happend hslash
    exact ⟨hhost, .inl ⟨hpath, sitePath_ends_iff hmarks hslash⟩⟩
  · have hplain : ∀ c ∈ site cs, isAnySlash c = false := fun c hc => by
      rw [← Bool.not_eq_true]
      exact fun hs => hslash ⟨c, hc, hs⟩
    have hsome : ¬ (site cs = [] ∧ more = []) := by
      rintro ⟨hnil, rfl⟩
      rw [site_of_noMarks hmarks] at hnil
      obtain ⟨slashes, hcut, hall, -⟩ := Text.dropWhile_eq_iff.1 hnil
      have hnone : site (cs ++ ([] ++ ['/'])) = [] := by
        rw [site_of_noMarks (List.forall_mem_append.2 ⟨hmarks, hback⟩)]
        refine Text.dropWhile_eq_iff.2 ⟨cs ++ ['/'], by simp, ?_, by simp⟩
        rw [hcut, List.append_nil, List.forall_mem_append, List.forall_mem_singleton]
        exact ⟨hall, rfl⟩
      rw [siteHost, hnone] at hne
      exact hne rfl
    have happend : site (cs ++ (more ++ ['/'])) = site cs ++ (more ++ ['/']) := by
      refine site_append hmarks hback fun hnil => ?_
      obtain ⟨c, rest, rfl⟩ := List.exists_cons_of_ne_nil fun hmore => hsome ⟨hnil, hmore⟩
      intro d hd
      obtain rfl : c = d := by simpa using hd
      exact isAnySlash_of_control (hmore c List.mem_cons_self)
    have hall : ∀ c ∈ site cs ++ more, isAnySlash c = false := by
      simp only [List.forall_mem_append]
      exact ⟨hplain, fun c hc => isAnySlash_of_control (hmore c hc)⟩
    obtain ⟨hhost, hpath⟩ := parts_of_site (by rw [happend, List.append_assoc]) hall
      (show opensPath ['/'] = true from rfl)
    rw [hhost] at hends ⊢
    obtain rfl : more = [] := eq_nil_of_ends hmore hends
    obtain ⟨hbefore, hnone⟩ := parts_of_site (List.append_nil (site cs)).symm hplain
      (show opensPath [] = true from rfl)
    refine ⟨by rw [List.append_nil, hbefore], .inr ⟨rfl, hpath, hnone, fun c hc => ?_⟩⟩
    rw [← getLast?_site hmarks fun hnil => hsome ⟨hnil, rfl⟩] at hc
    exact hplain c (List.mem_of_mem_getLast? hc)

end HostAgent.Url
