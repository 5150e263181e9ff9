import HostAgent.Proofs.Central.Closing
import HostAgent.Proofs.Central.Contract
import HostAgent.Proofs.Net.Plain
import HostAgent.Settings.Basic

/-!
# Requests below the configured address

The settings name the base address of the central server, and the path of each
request is meant to extend the path of this address. That is so for most texts,
but not for all that pass the check of the settings. The slash that makes the path
a directory is put behind the text:

* a query or a fragment takes it, and requests leave the last segment of the path;
* behind a backslash, which is a slash itself, it makes an empty segment;
* behind a control, which does not count at the end of a text, it makes the control
  a part of the path.

Scheme, host and port are those of the settings in any case.

## Main results

* `Cleaned.agree_of_mark`, `Cleaned.agree_of_slash`, `Cleaned.agree_of_open`: the site of a closed
  text, for the three ways in which a text can end.
* `parse_closed`: the address of a closed text, compared to the one of the text.
* `resolve_below_iff`: for which settings every plain path extends the configured one.
-/

namespace HostAgent.CentralClient

open Url

variable {port : Nat}

/-- The slash behind a text closes the path of its address. With a query or a fragment it does not
reach the path, which must be closed without it; otherwise no backslash and no control stands in
front of it. -/
structure Rooted (text : String) (configured : Url) : Prop where
  marked : (∃ c ∈ text.toList, isMark c = true) →
    (pathText configured.path).toList.getLast? = some '/'
  unmarked : (∀ c ∈ text.toList, isMark c = false) →
    ∀ c ∈ text.toList.getLast?, c ≠ '\\' ∧ 0x20 < c.toNat

variable {text : String} {body : List Char} {configured : Url}

theorem rooted_of_mark (h : ∃ c ∈ text.toList, isMark c = true) :
    Rooted text configured ↔ (pathText configured.path).toList.getLast? = some '/' := by
  constructor
  · exact fun hrooted => hrooted.marked h
  · intro hpath
    refine ⟨fun _ => hpath, fun hnone => ?_⟩
    obtain ⟨c, hc, hmark⟩ := h
    rw [hnone c hc] at hmark
    cases hmark

theorem rooted_of_noMarks (h : ∀ c ∈ text.toList, isMark c = false) :
    Rooted text configured ↔ ∀ c ∈ text.toList.getLast?, c ≠ '\\' ∧ 0x20 < c.toNat := by
  constructor
  · exact fun hrooted => hrooted.unmarked h
  · intro hlast
    refine ⟨?_, fun _ => hlast⟩
    rintro ⟨c, hc, hmark⟩
    rw [h c hc] at hmark
    cases hmark

/-- Said with truth values, so that it is decided the same way whichever instances are known. -/
theorem rooted_iff : Rooted text configured ↔
    (if text.toList.any isMark then (pathText configured.path).toList.getLast? == some '/'
      else text.toList.getLast?.all fun c => c != '\\' && decide (0x20 < c.toNat)) = true := by
  by_cases hmark : text.toList.any isMark = true
  · rw [if_pos hmark, rooted_of_mark (List.any_eq_true.1 hmark), beq_iff_eq]
  · have hnone : ∀ c ∈ text.toList, isMark c = false := by simpa using hmark
    rw [if_neg hmark, rooted_of_noMarks hnone]
    simp only [Option.all_eq_true, Option.mem_def, Bool.and_eq_true, bne_iff_ne, decide_eq_true_eq]

instance (text : String) (configured : Url) : Decidable (Rooted text configured) :=
  decidable_of_iff _ rooted_iff.symm

/-! ## Sites of closed texts -/

/-- A text is cleaned to one site, and closed to another one of the same host. The second extends
the path of the first, closed, if the text is rooted. -/
structure Agree (port : Nat) (text : String) (cs ds : List Char) : Prop where
  host : siteHost ds = siteHost cs
  path : ∀ configured : Url, configured.path = .segments (walk (.web port) [] (sitePath cs)) →
    (pathText (.segments (walk (.web port) [] (sitePath ds)).dropLast) ++ "/" =
      closed (pathText configured.path) ↔ Rooted text configured)

variable {scheme : String} {controls ds : List Char} (h : Cleaned scheme text body controls)
include h

/-- Behind a mark the slash is no part of the site. -/
theorem Cleaned.agree_of_mark (port : Nat) (hmark : ∃ c ∈ body, isMark c = true)
    (hds : ∃ more, ds = body ++ more) : Agree port text body ds := by
  obtain ⟨more, rfl⟩ := hds
  have hsite : site (body ++ more) = site body := site_append_of_mark hmark more
  have hpath : sitePath (body ++ more) = sitePath body := by
    rw [sitePath, hsite, sitePath]
  refine ⟨by rw [siteHost, hsite, siteHost], fun configured hconfigured => ?_⟩
  rw [rooted_of_mark (h.marks.2 hmark), hconfigured, hpath]
  exact directory_eq_closed_iff port (sitePath body)

theorem Cleaned.noMarks (hnone : ∀ c ∈ body, isMark c = false) :
    ∀ c ∈ text.toList, isMark c = false := by
  intro c hc
  rw [← Bool.not_eq_true]
  intro hmark
  obtain ⟨d, hd, hmark'⟩ := h.marks.1 ⟨c, hc, hmark⟩
  rw [hnone d hd] at hmark'
  cases hmark'

/-- A text that ends in a slash is closed already. -/
theorem Cleaned.agree_of_slash (port : Nat) (hnone : ∀ c ∈ body, isMark c = false)
    (hbody : body ≠ []) (hslash : text.toList.getLast? = some '/') :
    Agree port text body body := by
  have hlast : ∀ c ∈ text.toList.getLast?, c ≠ '\\' ∧ 0x20 < c.toNat := by
    rw [hslash]
    rintro c ⟨⟩
    decide
  have hcontrols : controls = [] := h.none_iff.2 fun c hc => (hlast c hc).2
  have hend : ∀ c ∈ body.getLast?, isAnySlash c = true := by
    rw [h.last hcontrols hbody, hslash]
    rintro c ⟨⟩
    rfl
  have hpathEnd := walk_ends_in_slash port (sitePath_ends hnone hend)
  refine ⟨rfl, fun configured hconfigured => ?_⟩
  rw [rooted_of_noMarks (h.noMarks hnone), hconfigured, directory_eq_closed_iff]
  exact ⟨fun _ => hlast, fun _ => hpathEnd⟩

/-- The slash of another text goes to its path, or begins one. -/
theorem Cleaned.agree_of_open (port : Nat) (hnone : ∀ c ∈ body, isMark c = false)
    (hopen : text.toList.getLast? ≠ some '/') (hne : siteHost (body ++ (controls ++ ['/'])) ≠ [])
    (hends : EndsInText (siteHost (body ++ (controls ++ ['/'])))) :
    Agree port text body (body ++ (controls ++ ['/'])) := by
  obtain ⟨hhost, hcases⟩ := site_append_slash hnone h.low hne hends
  have hbody : body ≠ [] := fun hnil => hne (by rw [hhost, hnil]; rfl)
  refine ⟨hhost, fun configured hconfigured => ?_⟩
  rw [rooted_of_noMarks (h.noMarks hnone), hconfigured]
  rcases hcases with ⟨hlonger, hiff⟩ | ⟨hcontrols, hbare, hempty, hplain⟩
  · rw [hlonger, ← List.append_assoc, directory_append_eq_closed_iff port _ h.low, hiff]
    constructor
    · rintro ⟨hcontrols, hend⟩ c hc
      refine ⟨?_, h.none_iff.1 hcontrols c hc⟩
      rintro rfl
      apply hend
      rw [h.last hcontrols hbody, hc]
      rintro c ⟨⟩
      rfl
    · intro hall
      have hcontrols : controls = [] := h.none_iff.2 fun c hc => (hall c hc).2
      refine ⟨hcontrols, fun hend => ?_⟩
      obtain ⟨c, hc⟩ := Option.isSome_iff_exists.1 (List.getLast?_isSome.2 hbody)
      have hs : c = '/' ∨ c = '\\' := by simpa [isAnySlash] using hend c hc
      rw [h.last hcontrols hbody] at hc
      rcases hs with rfl | rfl
      · exact hopen hc
      · exact (hall _ hc).1 rfl
  · rw [hbare, hempty, directory_eq_closed_iff port []]
    refine ⟨fun _ c hc => ⟨?_, h.none_iff.1 hcontrols c hc⟩,
      fun _ => walk_ends_in_slash port (by simp)⟩
    rintro rfl
    rw [← h.last hcontrols hbody] at hc
    have hs := hplain _ hc
    cases hs

omit h

/-! ## Closed addresses -/

/-- Let a closed text have an address. Then the text has one too, of the same server, and their
paths agree if the text is rooted. -/
theorem parse_closed {rest : List Char} {base : Url} (hscheme : scheme = "http" ∨ scheme = "https")
    (hport : SchemeKind.of scheme = .web port) (htext : text.toList = scheme.toList ++ ':' :: rest)
    (hlast : ∀ c ∈ text.toList.getLast?, Text.isBlank c = false)
    (hbase : parse (closed text) = .ok base) :
    base.scheme = scheme ∧ ∃ configured, parse text = .ok configured ∧
      configured.scheme = base.scheme ∧ configured.authority = base.authority ∧
        (pathText (.segments base.pathSegments.dropLast) ++ "/" =
            closed (pathText configured.path) ↔ Rooted text configured) := by
  obtain ⟨body, controls, h⟩ := exists_cleaned hscheme htext hlast
  -- An address of the closed text has a host, and what is cleaned of the text agrees with it.
  have hagree : ∃ ds read, Agree port text body ds ∧
      Authority.read (.web port) (siteHost ds) false = .ok read ∧ base.scheme = scheme ∧
        base.authority = some read.1 ∧
          base.path = .segments (walk (.web port) [] (sitePath ds)) := by
    by_cases hslash : text.toList.getLast? = some '/'
    · rw [closed, if_pos hslash] at hbase
      obtain ⟨read, hread, hread'⟩ := of_parse_site hscheme hport h.alone hbase
      refine ⟨body, read, ?_, hread, hread'⟩
      by_cases hmark : ∃ c ∈ body, isMark c = true
      · exact h.agree_of_mark port hmark ⟨[], by simp⟩
      · obtain ⟨hne, -⟩ := Authority.endsInText_of_read (siteHost_plain body) hread
        refine h.agree_of_slash port (fun c hc => ?_) ?_ hslash
        · simpa using fun hm => hmark ⟨c, hc, hm⟩
        · rintro rfl
          exact hne rfl
    · rw [closed, if_neg hslash] at hbase
      obtain ⟨read, hread, hread'⟩ := of_parse_site hscheme hport h.longer hbase
      refine ⟨_, read, ?_, hread, hread'⟩
      by_cases hmark : ∃ c ∈ body, isMark c = true
      · exact h.agree_of_mark port hmark ⟨_, rfl⟩
      · obtain ⟨hne, hends⟩ := Authority.endsInText_of_read (siteHost_plain _) hread
        refine h.agree_of_open port (fun c hc => ?_) hslash hne hends
        simpa using fun hm => hmark ⟨c, hc, hm⟩
  obtain ⟨ds, read, hagree, hread, hbaseScheme, hauthority, hpath⟩ := hagree
  have hconfigured := parse_site hscheme hport h.alone
  rw [← hagree.host, hread] at hconfigured
  refine ⟨hbaseScheme, _, hconfigured, hbaseScheme.symm, hauthority.symm, ?_⟩
  rw [pathSegments, hpath]
  exact hagree.path _ rfl

/-! ## Settings -/

/-- The address of settings that pass their check is one of HTTP, without blanks at its end. -/
theorem trim_apiUrl {s : Settings} (hcheck : s.check = .ok ()) :
    ∃ scheme port rest, (scheme = "http" ∨ scheme = "https") ∧
      SchemeKind.of scheme = .web port ∧
        (Text.trim s.apiUrl).toList = scheme.toList ++ ':' :: rest ∧
          ∀ c ∈ (Text.trim s.apiUrl).toList.getLast?, Text.isBlank c = false := by
  have hhttp : s.hasHttpUrl = true := ((Settings.check_eq_ok_iff s).1 hcheck).1
  obtain ⟨scheme, port, rest, hscheme, hport, htext⟩ : ∃ scheme port rest,
      (scheme = "http" ∨ scheme = "https") ∧ SchemeKind.of scheme = .web port ∧
        s.apiUrl.toList = (scheme.toList ++ [':']) ++ rest := by
    rw [Settings.hasHttpUrl, Bool.or_eq_true, Text.startsWith, Text.startsWith,
      Option.isSome_iff_exists, Option.isSome_iff_exists] at hhttp
    rcases hhttp with ⟨rest, hrest⟩ | ⟨rest, hrest⟩
    · exact ⟨"http", 80, '/' :: '/' :: rest, .inl rfl, rfl,
        (Text.after?_eq_some_iff.1 hrest).trans rfl⟩
    · exact ⟨"https", 443, '/' :: '/' :: rest, .inr rfl, rfl,
        (Text.after?_eq_some_iff.1 hrest).trans rfl⟩
  have hall : (scheme.toList ++ [':']).all (!Text.isBlank ·) = true := by
    rcases hscheme with rfl | rfl <;> rfl
  have hfront : ∀ c ∈ scheme.toList ++ [':'], Text.isBlank c = false := fun c hc => by
    simpa using List.all_eq_true.1 hall c hc
  obtain ⟨kept, -, -, htrim, -, -⟩ := trimBoth_behind rest (by simp) hfront
  refine ⟨scheme, port, kept, hscheme, hport, ?_, ?_⟩
  · rw [Text.trim, String.toList_ofList, htext, htrim, List.append_assoc]
    rfl
  · rw [Text.trim, String.toList_ofList]
    obtain ⟨-, -, -, -, -, hlast⟩ :=
      Text.trimBoth_eq_iff.1 (rfl : Text.trimBoth Text.isBlank s.apiUrl.toList = _)
    exact hlast

/-- The address of a client is the one of its closed text. -/
theorem parse_of_create {baseUrl : String} {token : Option String} {c : CentralClient}
    (h : create baseUrl token = .ok c) : parse (closed (Text.trim baseUrl)) = .ok c.base := by
  unfold create at h
  split at h
  · rename_i base hbase
    obtain rfl := Except.ok.inj h
    exact hbase
  · cases h

/-- Let settings pass their check, and let there be a client of their address. Then the address
itself can be read. Each plain path is resolved to an address of the same scheme, host and port,
and this extends the configured path, closed by a slash, just if the text of the settings is
rooted. -/
theorem resolve_below_iff {s : Settings} {token : Option String} {c : CentralClient}
    (hcheck : s.check = .ok ()) (hclient : create s.apiUrl token = .ok c) :
    ∃ configured, parse (Text.trim s.apiUrl) = .ok configured ∧
      configured.scheme = c.base.scheme ∧ configured.authority = c.base.authority ∧
        ∀ path, PlainPath path → ∃ url, c.resolve path = .ok url ∧ url.scheme = c.base.scheme ∧
          url.authority = c.base.authority ∧
            (pathText url.path =
                closed (pathText configured.path) ++ Text.dropLeading '/' path ↔
              Rooted (Text.trim s.apiUrl) configured) := by
  obtain ⟨scheme, port, rest, hscheme, hport, htext, hlast⟩ := trim_apiUrl hcheck
  have hbase := parse_of_create hclient
  obtain ⟨hbaseScheme, configured, hparse, hsame, hauthority, hagree⟩ :=
    parse_closed hscheme hport htext hlast hbase
  have hweb : SchemeKind.of c.base.scheme = .web port := hbaseScheme ▸ hport
  refine ⟨configured, hparse, hsame, hauthority, fun path hpath => ?_⟩
  obtain ⟨url, hjoin, hspells⟩ := join_plain (of_parse hbase hweb).2 hpath
  refine ⟨url, by rw [resolve, hjoin]; rfl, hspells.scheme, hspells.authority, ?_⟩
  rw [hspells.path, ← String.append_assoc, String.append_left_inj]
  exact hagree

/-- A base with a path, and a path with a slash in front. -/
theorem resolve_below_container :
    ({ apiUrl := "http://central/api/v1 " } : Settings).check = .ok () ∧
      create "http://central/api/v1 " none = .ok ⟨centralUrl ["api", "v1", ""], none⟩ ∧
      PlainPath "/containers/a-1" ∧
      ∃ url, resolve ⟨centralUrl ["api", "v1", ""], none⟩ "/containers/a-1" = .ok url ∧
        pathText url.path = "/api/v1/containers/a-1" := by
  have hcheck : ({ apiUrl := "http://central/api/v1 " } : Settings).check = .ok () := rfl
  have hclient : create "http://central/api/v1 " none =
      .ok ⟨centralUrl ["api", "v1", ""], none⟩ := rfl
  have hplain : PlainPath "/containers/a-1" := by
    refine ⟨1, ["containers".toList, "a-1".toList], by simp, ?_, rfl⟩
    simp only [List.forall_mem_cons, List.not_mem_nil, false_implies, implies_true, and_true]
    exact ⟨by decide, by decide⟩
  obtain ⟨configured, hparse, -, -, hall⟩ := resolve_below_iff hcheck hclient
  obtain rfl : centralUrl ["api", "v1"] = configured := Except.ok.inj hparse
  obtain ⟨url, hurl, -, -, hiff⟩ := hall _ hplain
  have hrooted : Rooted (Text.trim "http://central/api/v1 ") (centralUrl ["api", "v1"]) := by
    decide
  exact ⟨hcheck, hclient, hplain, url, hurl, hiff.2 hrooted⟩

/-- A query takes the slash, and requests leave the configured path. -/
theorem query_takes_slash :
    let s : Settings := { apiUrl := "http://h/api/v1?x=1" }
    let address (segments : List String) (query : Option String) : Url :=
      ⟨"http", some (hostAlone "h"), .segments segments, query, none⟩
    let c : CentralClient := ⟨address ["api", "v1"] (some "x=1/"), none⟩
    s.check = .ok () ∧ create s.apiUrl none = .ok c ∧ PlainPath "containers" ∧
      parse (Text.trim s.apiUrl) = .ok (address ["api", "v1"] (some "x=1")) ∧
      c.resolve "containers" = .ok (address ["api", "containers"] none) ∧
      pathText (address ["api", "containers"] none).path ≠
        closed (pathText (address ["api", "v1"] (some "x=1")).path) ++ "containers" := by
  refine ⟨rfl, rfl, ?_, rfl, rfl, by decide⟩
  refine ⟨0, ["containers".toList], by simp, ?_, rfl⟩
  rw [List.forall_mem_singleton]
  decide

end HostAgent.CentralClient
