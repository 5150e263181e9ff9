import HostAgent.Proofs.Net.Spelling
import HostAgent.Proofs.Text.Bytes

/-!
# The host of an address

An authority is a user, a host and a port in front of a path. It is read without
regard to the path: a slash ends it, whatever follows the slash.

What belongs to a host is checked to its last character. In particular nothing
ends in a control character, wherever the control came from: it would be decoded
as it is, and cannot occur in the name of a domain.

## Main results

* `Authority.read_append`: what follows the slash behind a host does not matter to it.
* `Authority.endsInText_of_read`: no authority ends in a blank or a control.
-/

namespace HostAgent

/-! ## Decoding -/

namespace Percent

/-- A byte at the end that is no digit stays: it ends no encoded byte. -/
theorem mem_decodeBytes_of_last {b : UInt8} (hb : hexValue? b = none) {bs : List UInt8}
    (h : bs.getLast? = some b) : b ∈ decodeBytes bs := by
  induction bs using decodeBytes.induct with
  | case1 x y rest i j hy hx ih =>
      rw [decodeBytes, hx, hy]
      cases rest with
      | nil =>
          obtain rfl : y = b := by simpa using h
          rw [hb] at hy
          cases hy
      | cons z rest => exact List.mem_cons_of_mem _ (ih (by simpa using h))
  | case2 x y rest hno ih =>
      rw [decodeBytes]
      split
      · rename_i i j hx hy
        exact absurd hy (hno i j hx)
      · exact List.mem_cons_of_mem _ (ih (by simpa using h))
  | case3 c rest hother ih =>
      rw [decodeBytes.eq_2 _ _ hother]
      cases rest with
      | nil =>
          obtain rfl : c = b := by simpa using h
          exact List.mem_cons_self
      | cons z rest => exact List.mem_cons_of_mem _ (ih (by simpa using h))
  | case4 => cases h

/-- A byte of ASCII is no part of a longer character. -/
theorem eq_of_mem_utf8EncodeChar {c d : Char} (hc : c.toNat < 0x80)
    (h : UInt8.ofNat c.toNat ∈ String.utf8EncodeChar d) : d = c := by
  obtain ⟨ds, hds, hform⟩ := Text.exists_utf8Form d
  obtain ⟨n, hn, hbyte⟩ := List.mem_map.1 (hds ▸ h)
  have hmod : n % 256 = c.toNat % 256 := by
    simpa only [UInt8.toNat_ofNat'] using congrArg UInt8.toNat hbyte
  apply Char.toNat_inj.1
  rcases hform.mem_cases hn with ⟨rfl, hlow⟩ | ⟨hlow, hhigh⟩ <;> omega

/-- A control at the end of a text is still there when the text is decoded. -/
theorem mem_of_decode? {cs : List Char} {c : Char} {name : String} (hlast : cs.getLast? = some c)
    (hc : c.toNat ≤ 0x20) (h : decode? cs = some name) : c ∈ name.toList := by
  have hbytes : name.toByteArray =
      ⟨(decodeBytes (cs.flatMap String.utf8EncodeChar)).toArray⟩ := by
    unfold decode? String.fromUTF8? at h
    split at h
    · rw [← Option.some.inj h]
      rfl
    · cases h
  have hchars : decodeBytes (cs.flatMap String.utf8EncodeChar) =
      name.toList.flatMap String.utf8EncodeChar := by
    have hname : name.toByteArray = (name.toList.flatMap String.utf8EncodeChar).toByteArray :=
      String.utf8Encode_toList.symm
    have hdata := congrArg (fun bytes => bytes.data.toList) (hname.symm.trans hbytes)
    simpa using hdata.symm
  have hone : String.utf8EncodeChar c = [UInt8.ofNat c.toNat] := by
    unfold String.utf8EncodeChar
    rw [if_pos (show c.val.toNat ≤ 0x7f from Nat.le_trans hc (by decide))]
    rfl
  have hend : (cs.flatMap String.utf8EncodeChar).getLast? = some (UInt8.ofNat c.toNat) := by
    obtain ⟨front, rfl⟩ := List.getLast?_eq_some_iff.1 hlast
    rw [List.flatMap_append, List.flatMap_singleton, hone, List.getLast?_concat]
  have hdigit : hexValue? (UInt8.ofNat c.toNat) = none := by
    have hall : ∀ n ≤ 0x20, hexValue? (UInt8.ofNat n) = none := by decide
    exact hall _ hc
  have hmem := mem_decodeBytes_of_last hdigit hend
  rw [hchars, List.mem_flatMap] at hmem
  obtain ⟨d, hd, hin⟩ := hmem
  rwa [← eq_of_mem_utf8EncodeChar (by omega) hin]

end Percent

/-- Controls leave a trace in a domain name, and cannot occur in it. -/
theorem Domain.not_control_of_ascii? {name domain : String} (h : ascii? name = some domain)
    {c : Char} (hc : c ∈ name.toList) : 0x20 < c.toNat := by
  apply Nat.lt_of_not_le
  intro hle
  have hall : ∀ n ≤ 0x20, isIgnored (Char.ofNat n) = false ∧
      isForbidden (mapped (Char.ofNat n)) = true := by decide
  obtain ⟨hkept, hforbidden⟩ := hall c.toNat hle
  rw [Char.ofNat_toNat] at hkept hforbidden
  have hany : ((name.toList.filter (!isIgnored ·)).map mapped).any isForbidden = true := by
    refine List.any_eq_true.2 ⟨mapped c, List.mem_map_of_mem ?_, hforbidden⟩
    exact List.mem_filter.2 ⟨hc, by simp [hkept]⟩
  unfold ascii? at h
  simp only [hany] at h
  cases h

namespace Url

variable {port : Nat}

/-! ## Hosts -/

/-- Nothing follows, or a path. -/
def opensPath (cs : List Char) : Bool :=
  match cs with
  | [] => true
  | c :: _ => isAnySlash c

theorem opensPath_iff {cs : List Char} :
    opensPath cs = true ↔ ∀ c ∈ cs.head?, isAnySlash c = true := by
  cases cs <;> simp [opensPath]

/-- No host ends in a blank or a control. -/
theorem endsInText_of_webHost {cs : List Char} {host : String} (h : webHost cs = .ok host) :
    EndsInText cs := by
  intro c hc
  unfold webHost at h
  split at h
  · rename_i inner
    unfold bracketed at h
    split at h
    · rename_i hbracket
      rw [List.getLast?_cons, hbracket] at hc
      obtain rfl : ']' = c := by simpa using hc
      decide
    · cases h
  · split at h
    · cases h
    · rename_i domain hdomain
      obtain ⟨name, hname, hascii⟩ := Option.bind_eq_some_iff.1 hdomain
      apply Nat.lt_of_not_le
      intro hle
      have hcontrol := Domain.not_control_of_ascii? hascii (Percent.mem_of_decode? hc hle hname)
      omega

theorem hostSpan_append {front behind : List Char} (hfront : ∀ c ∈ front, isAnySlash c = false)
    (hbehind : opensPath behind = true) (bracket : Bool) :
    hostSpan (.web port) bracket (front ++ behind) =
      ((hostSpan (.web port) bracket front).1,
        (hostSpan (.web port) bracket front).2 ++ behind) := by
  have hslash : ∀ c, (SchemeKind.web port).isSlash c = isAnySlash c := fun _ => rfl
  induction front generalizing bracket with
  | nil =>
      cases behind with
      | nil => rfl
      | cons c behind => simp [hostSpan, hslash, show isAnySlash c = true from hbehind]
  | cons c front ih =>
      rw [List.cons_append, hostSpan, hostSpan]
      split
      · rfl
      · simp only [ih fun d hd => hfront d (List.mem_cons_of_mem _ hd)]

/-- A host stops at its end or at a colon. -/
theorem hostSpan_cases (port : Nat) {cs : List Char} (hcs : ∀ c ∈ cs, isAnySlash c = false)
    (bracket : Bool) :
    hostSpan (.web port) bracket cs = (cs, []) ∨
      ∃ span rest, hostSpan (.web port) bracket cs = (span, ':' :: rest) ∧
        cs = span ++ ':' :: rest := by
  have hslash : ∀ c, (SchemeKind.web port).isSlash c = isAnySlash c := fun _ => rfl
  induction cs generalizing bracket with
  | nil => exact .inl rfl
  | cons c cs ih =>
      rw [hostSpan]
      split
      · rename_i hstop
        rw [hslash, hcs c List.mem_cons_self, Bool.false_or, Bool.and_eq_true, beq_iff_eq] at hstop
        exact .inr ⟨[], cs, by rw [hstop.1], by rw [hstop.1, List.nil_append]⟩
      · have hrest := fun inside => ih (fun d hd => hcs d (List.mem_cons_of_mem _ hd)) inside
        rcases hrest (if c == '[' then true else if c == ']' then false else bracket) with
          heq | ⟨span, rest, heq, hcut⟩
        · left
          simp only [heq]
        · right
          exact ⟨c :: span, rest, by simp only [heq], by rw [hcut]; rfl⟩

/-! ## Ports -/

theorem not_digit_of_slash {c : Char} (h : isAnySlash c = true) : c.isDigit = false := by
  have hslash : c = '/' ∨ c = '\\' := by simpa [isAnySlash] using h
  rcases hslash with rfl | rfl <;> rfl

/-- The port of its digits. -/
def portOf (k : SchemeKind) (digits : List Char) : Except UrlError (Option Nat) :=
  let number := IpAddress.ofDigits 10 (digits.filterMap (IpAddress.digit? 10))
  if 65535 < number then .error .invalidPort
  else if digits.isEmpty ∨ k = .web number then .ok none
  else .ok (some number)

/-- Digits are a port, if nothing or a path follows. -/
theorem portAfter_eq (k : SchemeKind) (cs : List Char) :
    portAfter k cs = if opensPath (cs.dropWhile Char.isDigit) then
      (portOf k (cs.takeWhile Char.isDigit)).map (·, cs.dropWhile Char.isDigit)
      else .error .invalidPort := by
  let digits := cs.takeWhile Char.isDigit
  let rest := cs.dropWhile Char.isDigit
  let number := IpAddress.ofDigits 10 (digits.filterMap (IpAddress.digit? 10))
  show (if 65535 < number ∨ (!opensPath rest) = true then .error .invalidPort
    else if digits.isEmpty ∨ k = .web number then .ok (none, rest)
    else .ok (some number, rest)) = if opensPath rest then (portOf k digits).map (·, rest) else _
  by_cases hopens : opensPath rest = true
  · by_cases hlarge : 65535 < number
    · rw [if_pos (.inl hlarge), if_pos hopens, portOf, if_pos hlarge]
      rfl
    · rw [if_neg (by simp [hlarge, hopens]), if_pos hopens, portOf, if_neg hlarge]
      split <;> rfl
  · rw [if_pos (.inr (by simpa using hopens)), if_neg hopens]

theorem portAfter_append (port : Nat) {front behind : List Char}
    (hfront : ∀ c ∈ front, isAnySlash c = false) (hbehind : opensPath behind = true) :
    portAfter (.web port) (front ++ behind) =
      (portAfter (.web port) front).map fun r => (r.1, behind) := by
  obtain ⟨digits, hcut, hdigits, hrest⟩ :=
    Text.dropWhile_eq_iff.1 (rfl : front.dropWhile Char.isDigit = _)
  have hstop : ∀ c ∈ (front.dropWhile Char.isDigit ++ behind).head?, c.isDigit = false := by
    intro c hc
    cases hdrop : front.dropWhile Char.isDigit with
    | nil =>
        rw [hdrop, List.nil_append] at hc
        exact not_digit_of_slash (opensPath_iff.1 hbehind c hc)
    | cons d rest => exact hrest c (by simpa [hdrop] using hc)
  have htake : (front ++ behind).takeWhile Char.isDigit = front.takeWhile Char.isDigit := by
    rw [Text.takeWhile_eq_iff.2 ⟨_, hcut, hdigits, hrest⟩]
    refine Text.takeWhile_eq_iff.2 ⟨front.dropWhile Char.isDigit ++ behind, ?_, hdigits, hstop⟩
    rw [← List.append_assoc, ← hcut]
  have hdrop : (front ++ behind).dropWhile Char.isDigit =
      front.dropWhile Char.isDigit ++ behind := by
    refine Text.dropWhile_eq_iff.2 ⟨digits, ?_, hdigits, hstop⟩
    rw [← List.append_assoc, ← hcut]
  rw [portAfter_eq, portAfter_eq, htake, hdrop]
  cases hleft : front.dropWhile Char.isDigit with
  | nil =>
      rw [List.nil_append, if_pos hbehind, if_pos (show opensPath [] = true from rfl)]
      cases portOf (.web port) (front.takeWhile Char.isDigit) <;> rfl
  | cons d rest =>
      have hd : isAnySlash d = false :=
        hfront d ((List.dropWhile_sublist _).subset (hleft ▸ List.mem_cons_self))
      simp only [List.cons_append, opensPath, hd]
      rfl

/-- A port is digits to its end. -/
theorem endsInText_of_portAfter {front : List Char} (hfront : ∀ c ∈ front, isAnySlash c = false)
    {r : Option Nat × List Char} (h : portAfter (.web port) front = .ok r) : EndsInText front := by
  obtain ⟨digits, hcut, hdigits, -⟩ :=
    Text.dropWhile_eq_iff.1 (rfl : front.dropWhile Char.isDigit = _)
  cases hleft : front.dropWhile Char.isDigit with
  | nil =>
      intro c hc
      rw [hcut, hleft, List.append_nil] at hc
      have hdigit := hdigits c (List.mem_of_mem_getLast? hc)
      simp only [Char.isDigit, Bool.and_eq_true, decide_eq_true_eq] at hdigit
      have : 48 ≤ c.toNat := hdigit.1
      omega
  | cons d rest =>
      have hd : isAnySlash d = false :=
        hfront d ((List.dropWhile_sublist _).subset (hleft ▸ List.mem_cons_self))
      rw [portAfter_eq, hleft, if_neg (by simp [opensPath, hd])] at h
      cases h

/-! ## Authorities -/

/-- An authority from its host on: a port may follow. -/
def Authority.withPort (k : SchemeKind) (user : List Char) (host : String) (rest : List Char) :
    Except UrlError (Authority × List Char) := do
  let (username, password) := credentials user
  match rest with
  | ':' :: rest =>
    if host = "" then throw .emptyHost
    let (port, rest) ← portAfter k rest
    return (⟨username, password, host, port⟩, rest)
  | rest =>
    if host = "" && (username ≠ "" || password.isSome) then throw .emptyHost
    return (⟨username, password, host, none⟩, rest)

/-- An authority behind its user. -/
def Authority.withHost (k : SchemeKind) (user rest : List Char) :
    Except UrlError (Authority × List Char) := do
  let (span, rest) := hostSpan k false rest
  if !k.isOther && span.isEmpty then throw .emptyHost
  let host ← if k.isOther then otherHost span else webHost span
  withPort k user host rest

theorem Authority.read_eq (k : SchemeKind) (body : List Char) (more : Bool) :
    Authority.read k body more =
      let front := body.takeWhile (!k.isSlash ·)
      let behind := body.dropWhile (!k.isSlash ·)
      let parts := (userSpan front).getD ([], front)
      if (userSpan front).isSome && parts.1.isEmpty && parts.2.isEmpty && (!behind.isEmpty || more)
      then .error .emptyHost
      else Authority.withHost k parts.1 (parts.2 ++ behind) := by
  unfold Authority.read Authority.withHost Authority.withPort
  dsimp only
  split
  · rfl
  · rfl

variable {user rest behind : List Char} {host : String}

theorem Authority.withPort_append (hrest : ∀ c ∈ rest, isAnySlash c = false)
    (hbehind : opensPath behind = true) (hcolon : ∀ c ∈ rest.head?, c = ':') :
    Authority.withPort (.web port) user host (rest ++ behind) =
      (Authority.withPort (.web port) user host rest).map fun r => (r.1, behind) := by
  have hnone : ∀ cs : List Char, opensPath cs = true →
      Authority.withPort (.web port) user host cs =
        if host = "" && ((credentials user).1 ≠ "" || (credentials user).2.isSome)
        then .error .emptyHost
        else .ok (⟨(credentials user).1, (credentials user).2, host, none⟩, cs) := by
    intro cs hcs
    unfold Authority.withPort
    dsimp only
    split
    · cases hcs
    · split <;> rfl
  cases rest with
  | nil =>
      rw [List.nil_append, hnone behind hbehind, hnone [] rfl]
      split <;> rfl
  | cons c rest =>
      obtain rfl : c = ':' := hcolon c rfl
      have hport := portAfter_append port
        (fun d hd => hrest d (List.mem_cons_of_mem _ hd)) hbehind
      simp only [Authority.withPort, List.cons_append, hport]
      split
      · rfl
      · cases portAfter (.web port) rest <;> rfl

theorem Authority.withHost_eq (user rest : List Char) :
    Authority.withHost (.web port) user rest =
      let parts := hostSpan (.web port) false rest
      if parts.1.isEmpty then .error .emptyHost
      else (webHost parts.1).bind fun host => Authority.withPort (.web port) user host parts.2 := by
  unfold Authority.withHost
  simp only [SchemeKind.isOther, Bool.not_false, Bool.true_and]
  split <;> rfl

/-- What stands before the slash decides. -/
theorem Authority.withHost_append (hrest : ∀ c ∈ rest, isAnySlash c = false)
    (hbehind : opensPath behind = true) :
    Authority.withHost (.web port) user (rest ++ behind) =
      (Authority.withHost (.web port) user rest).map fun r => (r.1, behind) := by
  have hend : (∀ c ∈ (hostSpan (.web port) false rest).2, isAnySlash c = false) ∧
      ∀ c ∈ (hostSpan (.web port) false rest).2.head?, c = ':' := by
    rcases hostSpan_cases port hrest false with heq | ⟨span, later, heq, hcut⟩
    · simp [heq]
    · rw [heq]
      refine ⟨fun c hc => hrest c ?_, by simp⟩
      rw [hcut]
      exact List.mem_append_right _ hc
  rw [Authority.withHost_eq, Authority.withHost_eq, hostSpan_append hrest hbehind]
  dsimp only
  split
  · rfl
  · cases webHost (hostSpan (.web port) false rest).1 with
    | error e => rfl
    | ok host => exact Authority.withPort_append hend.1 hbehind hend.2

/-- A host ends in its last character, or in its last digit of a port. -/
theorem Authority.endsInText_of_withHost {r : Authority × List Char}
    (hrest : ∀ c ∈ rest, isAnySlash c = false)
    (h : Authority.withHost (.web port) user rest = .ok r) : rest ≠ [] ∧ EndsInText rest := by
  rw [Authority.withHost_eq] at h
  dsimp only at h
  split at h
  · cases h
  · rename_i hspan
    cases hhost : webHost (hostSpan (.web port) false rest).1 with
    | error e =>
        rw [hhost] at h
        cases h
    | ok host =>
        rw [hhost] at h
        rcases hostSpan_cases port hrest false with heq | ⟨span, later, heq, hcut⟩
        · rw [heq] at hhost hspan
          exact ⟨by simpa using hspan, endsInText_of_webHost hhost⟩
        · rw [heq] at h
          refine ⟨by simp [hcut], ?_⟩
          have hlater : ∀ c ∈ later, isAnySlash c = false := fun c hc =>
            hrest c (by simp [hcut, hc])
          have hport : ∃ p, portAfter (.web port) later = .ok p := by
            cases hread : portAfter (.web port) later with
            | ok p => exact ⟨p, rfl⟩
            | error e =>
                simp only [Except.bind, Authority.withPort, hread] at h
                split at h <;> cases h
          obtain ⟨p, hport⟩ := hport
          have hends := endsInText_of_portAfter hlater hport
          intro c hc
          rw [hcut, List.getLast?_append, List.getLast?_cons] at hc
          cases hlast : later.getLast? with
          | none =>
              obtain rfl : ':' = c := by simpa [hlast] using hc
              decide
          | some d =>
              obtain rfl : d = c := by simpa [hlast] using hc
              exact hends d hlast

/-- The text behind the last `@` is the end of the text. -/
theorem eq_append_userSpan (front : List Char) :
    ∃ start, front = start ++ ((userSpan front).getD ([], front)).2 := by
  unfold userSpan
  split
  · refine ⟨(front.reverse.dropWhile (· != '@')).reverse, ?_⟩
    rw [Option.getD_some, ← List.reverse_append, List.takeWhile_append_dropWhile,
      List.reverse_reverse]
  · exact ⟨[], rfl⟩

/-- An authority in front of a path, with its user taken off. -/
theorem Authority.read_front (port : Nat) {front : List Char}
    (hfront : ∀ c ∈ front, isAnySlash c = false) (hbehind : opensPath behind = true)
    (more : Bool) :
    Authority.read (.web port) (front ++ behind) more =
      let parts := (userSpan front).getD ([], front)
      if (userSpan front).isSome && parts.1.isEmpty && parts.2.isEmpty && (!behind.isEmpty || more)
      then .error .emptyHost
      else Authority.withHost (.web port) parts.1 (parts.2 ++ behind) := by
  have hall : ∀ c ∈ front, (!(SchemeKind.web port).isSlash c) = true := fun c hc => by
    rw [Bool.not_eq_true']
    exact hfront c hc
  have hstop : ∀ c ∈ behind.head?, (!(SchemeKind.web port).isSlash c) = false := fun c hc => by
    rw [Bool.not_eq_false']
    exact opensPath_iff.1 hbehind c hc
  have htake := Text.takeWhile_eq_iff.2 ⟨behind, rfl, hall, hstop⟩
  have hdrop := Text.dropWhile_eq_iff.2 ⟨front, rfl, hall, hstop⟩
  rw [Authority.read_eq, htake, hdrop]

/-- The host of a site does not depend on its path, nor on what follows that. -/
theorem Authority.read_append (port : Nat) {front : List Char}
    (hfront : ∀ c ∈ front, isAnySlash c = false) (hbehind : opensPath behind = true)
    (more : Bool) :
    Authority.read (.web port) (front ++ behind) more =
      (Authority.read (.web port) front false).map fun r => (r.1, behind) := by
  have halone := Authority.read_front port hfront (show opensPath [] = true from rfl) false
  obtain ⟨start, hstart⟩ := eq_append_userSpan front
  have hrest : ∀ c ∈ ((userSpan front).getD ([], front)).2, isAnySlash c = false := fun c hc =>
    hfront c (by rw [hstart]; exact List.mem_append_right _ hc)
  rw [List.append_nil] at halone
  rw [Authority.read_front port hfront hbehind, halone]
  generalize (userSpan front).getD ([], front) = parts at hrest
  dsimp only
  rw [List.append_nil, Authority.withHost_append hrest hbehind]
  by_cases hempty : parts.2 = []
  · have hnone : Authority.withHost (.web port) parts.1 parts.2 = .error .emptyHost := by
      rw [hempty]
      rfl
    rw [hnone]
    split <;> split <;> rfl
  · rw [if_neg (by simp [hempty]), if_neg (by simp)]

/-- No authority ends in a blank or a control. -/
theorem Authority.endsInText_of_read {front : List Char}
    (hfront : ∀ c ∈ front, isAnySlash c = false) {r : Authority × List Char}
    (h : Authority.read (.web port) front false = .ok r) : front ≠ [] ∧ EndsInText front := by
  have halone := Authority.read_front port hfront (show opensPath [] = true from rfl) false
  obtain ⟨start, hstart⟩ := eq_append_userSpan front
  have hrest : ∀ c ∈ ((userSpan front).getD ([], front)).2, isAnySlash c = false := fun c hc =>
    hfront c (by rw [hstart]; exact List.mem_append_right _ hc)
  rw [List.append_nil] at halone
  rw [halone] at h
  generalize (userSpan front).getD ([], front) = parts at hrest hstart h
  dsimp only at h
  split at h
  · cases h
  · rw [List.append_nil] at h
    obtain ⟨hne, hends⟩ := Authority.endsInText_of_withHost hrest h
    refine ⟨by simp [hstart, hne], fun c hc => hends c ?_⟩
    rwa [hstart, List.getLast?_append, Option.or_of_isSome (by simpa using hne)] at hc

end Url

end HostAgent
