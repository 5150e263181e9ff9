import HostAgent.Settings.Basic

/-!
# Text settings from the environment

The value of a variable is first taken for what it looks like: a word for true or
false, a whole number of 64 bits, a number with a fraction or an exponent, or else
a text. A text setting then gets the text of that. So it has the value of its
variable if this is written in the way its kind is written, and something else
otherwise: leading zeros, a plus sign, the capital letter of `True` and the zeros
at the end of a fraction are lost.

## Main results

* `SettingValue.toText?_ofText_iff`: which values are kept.
* `Environment.settings_get?`: the last variable of a setting gives its value.
* `Settings.ofTable?_text`: what a text setting makes of a value.
* `Settings.loadFrom_text`: a text setting has the text of what its variable looks like, and which
  values are kept.
* `Settings.load_zeros`: a token of digits loses its leading zeros.
-/

namespace HostAgent

/-! ## Texts and what they look like -/

namespace SettingValue

/-- A word for true or false, in any case. -/
def IsWord (v : String) : Prop := Text.asciiLower v = "true" ∨ Text.asciiLower v = "false"

/-- A value of a variable that is written in the way its kind is written. -/
structure Kept (v : String) : Prop where
  /-- A word has no capital letters. -/
  word : IsWord v → Text.asciiLower v = v
  /-- A whole number has no leading zeros, and no sign but that of a negative one. -/
  whole : ¬ IsWord v → ∀ n, Decimal.int64? v = some n → toString n = v
  /-- Any other number is in plain decimals, and the shortest one for its value. -/
  decimal : ¬ IsWord v → Decimal.int64? v = none → ∀ x, Decimal.float? v = some x →
    Decimal.renderPlain x = v

/-- What a value looks like has a text, and this is the value itself if it is written like it. -/
theorem toText?_ofText_iff (v : String) :
    ∃ text, (ofText v).toText? = some text ∧ (text = v ↔ Kept v) := by
  by_cases htrue : Text.asciiLower v = "true"
  · refine ⟨"true", by simp [ofText, htrue, toText?], ?_⟩
    rw [← htrue]
    exact ⟨fun h => ⟨fun _ => h, fun hnot => absurd (.inl htrue) hnot,
      fun hnot => absurd (.inl htrue) hnot⟩, fun h => h.word (.inl htrue)⟩
  by_cases hfalse : Text.asciiLower v = "false"
  · refine ⟨"false", by simp [ofText, hfalse, toText?], ?_⟩
    rw [← hfalse]
    exact ⟨fun h => ⟨fun _ => h, fun hnot => absurd (.inr hfalse) hnot,
      fun hnot => absurd (.inr hfalse) hnot⟩, fun h => h.word (.inr hfalse)⟩
  have hword : ¬ IsWord v := fun h => h.elim htrue hfalse
  cases hint : Decimal.int64? v with
  | some n =>
      refine ⟨toString n, by simp [ofText, htrue, hfalse, hint, toText?], ?_⟩
      constructor
      · intro h
        exact ⟨fun hw => absurd hw hword, fun _ m hm => (Option.some.inj (hint.symm.trans hm)) ▸ h,
          fun _ hnone => absurd (hint.symm.trans hnone) (by simp)⟩
      · intro h
        exact h.whole hword n hint
  | none =>
      cases hfloat : Decimal.float? v with
      | some x =>
          refine ⟨Decimal.renderPlain x, by simp [ofText, htrue, hfalse, hint, hfloat, toText?], ?_⟩
          constructor
          · intro h
            exact ⟨fun hw => absurd hw hword, fun _ m hm => absurd (hint.symm.trans hm) (by simp),
              fun _ _ y hy => (Option.some.inj (hfloat.symm.trans hy)) ▸ h⟩
          · intro h
            exact h.decimal hword hint x hfloat
      | none =>
          refine ⟨v, toText?_ofText htrue hfalse hint hfloat, ?_⟩
          constructor
          · intro _
            exact ⟨fun hw => absurd hw hword, fun _ m hm => absurd (hint.symm.trans hm) (by simp),
              fun _ _ y hy => absurd (hfloat.symm.trans hy) (by simp)⟩
          · intro _
            rfl

end SettingValue

/-! ## Keys of sources -/

theorem Text.toLower_of_not_upper {c : Char} (h : ¬ (65 ≤ c.toNat ∧ c.toNat ≤ 90)) :
    c.toLower = c := by
  unfold Char.toLower
  rw [dif_neg]
  simpa [UInt32.le_iff_toNat_le] using h

theorem Text.toNat_toLower_of_upper {c : Char} (h : 65 ≤ c.toNat ∧ c.toNat ≤ 90) :
    c.toLower.toNat = c.toNat + 32 := by
  unfold Char.toLower
  rw [dif_pos (by simpa [UInt32.le_iff_toNat_le] using h)]
  have hval : c.val.toNat = c.toNat := rfl
  show (c.val + (97 - 65)).toNat = c.toNat + 32
  rw [UInt32.toNat_add]
  simp
  omega

namespace SettingTable

/-- What becomes of a character of a name. -/
def lowerChar (c : Char) : Char := if c = '\u212a' then 'k' else c.toLower

theorem lowerName_toList (s : String) : (lowerName s).toList = s.toList.map lowerChar := by
  simp [lowerName, lowerChar]

theorem lowerChar_lowerChar (c : Char) : lowerChar (lowerChar c) = lowerChar c := by
  by_cases hkelvin : c = '\u212a'
  · rw [hkelvin]
    rfl
  have hlower : lowerChar c = c.toLower := if_neg hkelvin
  by_cases hupper : 65 ≤ c.toNat ∧ c.toNat ≤ 90
  · have hnat : c.toLower.toNat = c.toNat + 32 := Text.toNat_toLower_of_upper hupper
    have hne : c.toLower ≠ '\u212a' := by
      intro heq
      rw [heq] at hnat
      have : '\u212a'.toNat = 8490 := rfl
      omega
    rw [hlower, lowerChar, if_neg hne, Text.toLower_of_not_upper (by omega)]
  · rw [hlower, Text.toLower_of_not_upper hupper, hlower, Text.toLower_of_not_upper hupper]

/-- The text is in small letters already. -/
def IsLower (s : String) : Prop := lowerName s = s

theorem isLower_iff {s : String} : IsLower s ↔ ∀ c ∈ s.toList, lowerChar c = c := by
  have hmap : s.toList.map lowerChar = s.toList.map id ↔ ∀ c ∈ s.toList, lowerChar c = id c :=
    List.map_inj_left
  rw [IsLower, ← String.toList_inj, lowerName_toList]
  simpa using hmap

/-- The key of a source is a whole name. -/
def IsName (key : String) : Prop := ∀ c ∈ key.toList, isNameChar c = true

/-- A key in small letters that belongs to a setting is the name of it, or makes it a composite. -/
theorem ofKey_cases {key : String} (hlower : IsLower key) (v : SettingValue) :
    ofKey key v = (key, v) ∨ (ofKey key v).2 = .composite := by
  unfold ofKey
  simp only [show lowerName key = key from hlower]
  split
  · exact .inl rfl
  · exact .inr rfl

theorem ofKey_name {key : String} (hlower : IsLower key) (hname : IsName key) (v : SettingValue) :
    ofKey key v = (key, v) := by
  have hrest : key.toList.dropWhile isNameChar = [] :=
    Text.dropWhile_eq_iff.2 ⟨key.toList, by simp, hname, by simp⟩
  unfold ofKey
  simp [show lowerName key = key from hlower, hrest]

/-- A value under the name of a setting is the value of the setting, unless a path makes that a
composite. -/
theorem get?_ofKeys {t : SettingTable} {name : String} {v : SettingValue}
    (hlower : ∀ key ∈ t.keys, IsLower key) (hname : IsName name) (h : t.get? name = some v) :
    (ofKeys t).get? name = some v ∨ (ofKeys t).get? name = some .composite := by
  have hmem : (name, v) ∈ t.entries := (t.get?_eq_some_iff name v).1 h
  have hkey : ∀ e ∈ t.entries, IsLower e.1 := fun e he => hlower e.1 (List.mem_map_of_mem he)
  have hin : (name, v) ∈ t.entries.map fun e => ofKey e.1 e.2 :=
    List.mem_map.2 ⟨_, hmem, ofKey_name (hkey _ hmem) hname v⟩
  obtain ⟨w, hw⟩ := KeyMap.exists_get?_ofList hin
  obtain ⟨e, he, heq⟩ := List.mem_map.1 (KeyMap.mem_of_get?_ofList hw)
  rw [ofKeys, hw]
  rcases ofKey_cases (hkey e he) e.2 with hsame | hcomposite
  · left
    obtain ⟨rfl, rfl⟩ : e.1 = name ∧ e.2 = w := Prod.mk.inj (hsame.symm.trans heq)
    rw [← h, (t.get?_eq_some_iff e.1 e.2).2 he]
  · right
    rw [heq] at hcomposite
    rw [← hcomposite]

end SettingTable

/-! ## Variables -/

namespace Environment

open SettingTable (lowerName lowerChar IsLower IsName)

theorem key?_isLower {start name key : String} (h : key? start name = some key) : IsLower key := by
  have htext : lowerName name = lowerName start ++ "_" ++ key := key?_eq_some_iff.1 h
  rw [SettingTable.isLower_iff]
  intro c hc
  have hmem : c ∈ (lowerName name).toList := by
    rw [htext]
    simp [hc]
  rw [SettingTable.lowerName_toList] at hmem
  obtain ⟨c', -, rfl⟩ := List.mem_map.1 hmem
  exact SettingTable.lowerChar_lowerChar c'

/-- The keys and values that variables give. -/
def keyed (start : String) (env : Environment) : List (String × SettingValue) :=
  env.filterMap fun e => (key? start e.1).map fun key => (key, SettingValue.ofText e.2)

theorem keyed_isLower {start : String} {env : Environment} {e : String × SettingValue}
    (h : e ∈ keyed start env) : IsLower e.1 := by
  obtain ⟨var, -, hvar⟩ := List.mem_filterMap.1 h
  obtain ⟨key, hkey, rfl⟩ := Option.map_eq_some_iff.1 hvar
  exact key?_isLower hkey

/-- The last variable of a setting gives its value, unless some other one makes the setting a
composite. -/
theorem settings_get? {start name key v : String} {env before after : Environment}
    (hsplit : env = before ++ (name, v) :: after) (hkey : key? start name = some key)
    (hlast : ∀ e ∈ after, key? start e.1 ≠ some key) (hname : IsName key) :
    (settings start env).get? key = some (.ofText v) ∨
      (settings start env).get? key = some .composite := by
  have hkeyed : keyed start env =
      keyed start before ++ (key, .ofText v) :: keyed start after := by
    simp [keyed, hsplit, hkey]
  have hafter : ∀ e ∈ keyed start after, e.1 ≠ key := by
    rintro e he rfl
    obtain ⟨var, hvar, heq⟩ := List.mem_filterMap.1 he
    obtain ⟨key', hkey', rfl⟩ := Option.map_eq_some_iff.1 heq
    exact hlast var hvar hkey'
  have hget : (KeyMap.ofList (keyed start env)).get? key = some (.ofText v) := by
    rw [hkeyed]
    exact KeyMap.get?_ofList_of_last hafter
  refine SettingTable.get?_ofKeys ?_ hname hget
  intro key' hkey'
  obtain ⟨w, hw⟩ := (KeyMap.mem_keys_iff _ _).1 hkey'
  exact keyed_isLower (KeyMap.mem_of_get?_ofList hw)

end Environment

/-! ## Text settings -/

/-- The settings that are texts. -/
inductive TextSetting
  | apiUrl
  | apiToken
  | runtimeEndpoint
  | hostId
  | hostName
  | hostIp
  | datacenter
deriving DecidableEq, Repr

namespace TextSetting

def name : TextSetting → String
  | apiUrl => "api_url"
  | apiToken => "api_token"
  | runtimeEndpoint => "runtime_endpoint"
  | hostId => "host_id"
  | hostName => "host_name"
  | hostIp => "host_ip"
  | datacenter => "datacenter"

/-- The setting, if it is there. -/
def value (s : Settings) : TextSetting → Option String
  | apiUrl => some s.apiUrl
  | apiToken => s.apiToken
  | runtimeEndpoint => s.runtimeEndpoint
  | hostId => s.hostId
  | hostName => s.hostName
  | hostIp => s.hostIp
  | datacenter => some s.datacenter

theorem name_isName (k : TextSetting) : SettingTable.IsName k.name := by
  have hall : k.name.toList.all SettingTable.isNameChar = true := by cases k <;> rfl
  exact List.all_eq_true.1 hall

end TextSetting

namespace Settings

theorem text?_of_get? {t : SettingTable} {name default found : String} {v : SettingValue}
    (hv : t.get? name = some v) (h : text? t name default = some found) :
    v.toText? = some found := by
  rwa [text?, hv] at h

theorem optional?_of_get? {t : SettingTable} {name : String} {default found : Option String}
    {v : SettingValue} (hv : t.get? name = some v) (hnull : v ≠ .null)
    (h : optional? t name default = some found) :
    ∃ text, v.toText? = some text ∧ found = some text := by
  rw [optional?, hv] at h
  cases v with
  | null => exact absurd rfl hnull
  | _ =>
      obtain ⟨text, htext, rfl⟩ := Option.map_eq_some_iff.1 h
      exact ⟨text, htext, rfl⟩

/-- A text setting is the text of its value, and there is none unless there is such a text. -/
theorem ofTable?_text {nodeName : Option String} {t : SettingTable} {s : Settings}
    (h : ofTable? nodeName t = some s) {k : TextSetting} {v : SettingValue}
    (hv : t.get? k.name = some v) (hnull : v ≠ .null) : ∃ text, v.toText? = some text ∧
      k.value s = some text := by
  unfold ofTable? at h
  obtain ⟨apiUrl, hapiUrl, h⟩ := Option.bind_eq_some_iff.1 h
  obtain ⟨apiToken, hapiToken, h⟩ := Option.bind_eq_some_iff.1 h
  obtain ⟨runtimeEndpoint, hruntimeEndpoint, h⟩ := Option.bind_eq_some_iff.1 h
  obtain ⟨hostId, hhostId, h⟩ := Option.bind_eq_some_iff.1 h
  obtain ⟨hostName, hhostName, h⟩ := Option.bind_eq_some_iff.1 h
  obtain ⟨hostIp, hhostIp, h⟩ := Option.bind_eq_some_iff.1 h
  obtain ⟨datacenter, hdatacenter, h⟩ := Option.bind_eq_some_iff.1 h
  -- What is left are the numbers.
  iterate 9 obtain ⟨_, -, h⟩ := Option.bind_eq_some_iff.1 h
  obtain rfl := Option.some.inj h
  cases k with
  | apiUrl => exact ⟨apiUrl, text?_of_get? hv hapiUrl, rfl⟩
  | apiToken => exact optional?_of_get? hv hnull hapiToken
  | runtimeEndpoint => exact optional?_of_get? hv hnull hruntimeEndpoint
  | hostId => exact optional?_of_get? hv hnull hhostId
  | hostName => exact optional?_of_get? hv hnull hhostName
  | hostIp => exact optional?_of_get? hv hnull hhostIp
  | datacenter => exact ⟨datacenter, text?_of_get? hv hdatacenter, rfl⟩

/-! ## Loading -/

theorem eq_of_checked {s s' : Settings}
    (h : (s'.check.bind fun _ => .ok s') = (.ok s : Except SettingsError Settings)) : s' = s := by
  cases hcheck : s'.check with
  | error e =>
      rw [hcheck] at h
      cases h
  | ok _ =>
      rw [hcheck] at h
      exact Except.ok.inj h

/-- What settings are loaded from is a table: the one of the environment above another. -/
theorem ofTable?_of_loadFrom {file? : String → Option String} {file : Option String}
    {start : String} {env : Environment} {s : Settings}
    (h : loadFrom file? file start env = .ok s) :
    ∃ bottom, ofTable? (env.get? "NODE_NAME") ((env.settings start).above bottom) = some s := by
  unfold loadFrom at h
  cases file with
  | none =>
      refine ⟨∅, ?_⟩
      cases htable : ofTable? (env.get? "NODE_NAME") ((env.settings start).above ∅) with
      | none =>
          simp only [bind, Except.bind, htable] at h
          cases h
      | some s' =>
          simp only [bind, Except.bind, htable] at h
          rw [eq_of_checked h]
  | some name =>
      cases hfile : SettingTable.ofFile? file? name with
      | none =>
          simp only [hfile] at h
          cases h
      | some bottom =>
          refine ⟨bottom, ?_⟩
          cases htable : ofTable? (env.get? "NODE_NAME") ((env.settings start).above bottom) with
          | none =>
              simp only [hfile, bind, Except.bind, htable] at h
              cases h
          | some s' =>
              simp only [hfile, bind, Except.bind, htable] at h
              rw [eq_of_checked h]

/-- When settings are loaded, a text setting that the environment gives is the text of what the
value of its last variable looks like, and it is this value itself just if that is written in the
way its kind is written. -/
theorem loadFrom_text {file? : String → Option String} {file : Option String} {start : String}
    {env before after : Environment} {s : Settings} {k : TextSetting} {name v : String}
    (h : loadFrom file? file start env = .ok s) (hsplit : env = before ++ (name, v) :: after)
    (hkey : Environment.key? start name = some k.name)
    (hlast : ∀ e ∈ after, Environment.key? start e.1 ≠ some k.name) :
    k.value s = (SettingValue.ofText v).toText? ∧ (k.value s = some v ↔ SettingValue.Kept v) := by
  obtain ⟨bottom, htable⟩ := ofTable?_of_loadFrom h
  obtain ⟨text, htext, hkept⟩ := SettingValue.toText?_ofText_iff v
  have habove : ∀ w, (env.settings start).get? k.name = some w →
      ((env.settings start).above bottom).get? k.name = some w := by
    intro w hw
    rw [SettingTable.get?_above, hw, Option.some_or]
  rcases Environment.settings_get? hsplit hkey hlast k.name_isName with hget | hget
  · have hnull : SettingValue.ofText v ≠ .null := by
      intro hnull
      rw [hnull] at htext
      cases htext
    obtain ⟨found, hfound, hvalue⟩ := ofTable?_text htable (habove _ hget) hnull
    have hsame : found = text := Option.some.inj (hfound.symm.trans htext)
    rw [hvalue, htext, hsame]
    exact ⟨rfl, by rw [Option.some.injEq, hkept]⟩
  · obtain ⟨found, hfound, -⟩ := ofTable?_text htable (habove _ hget) (by simp)
    cases hfound

/-- A token of digits loses its leading zeros. -/
theorem load_zeros :
    load (fun _ => none) [("AGENT_API_TOKEN", "007")] = .ok { apiToken := some "7" } := rfl

/-- A whole number in a text setting, from the environment alone. -/
theorem loadFrom_text_zeros :
    TextSetting.apiToken.value { apiToken := some "7" } =
        (SettingValue.ofText "007").toText? ∧
      (TextSetting.apiToken.value { apiToken := some "7" } = some "007" ↔
        SettingValue.Kept "007") := by
  have hload : loadFrom (fun _ => none) none "AGENT" [("AGENT_API_TOKEN", "007")] =
      .ok { apiToken := some "7" } := rfl
  have hkey : Environment.key? "AGENT" "AGENT_API_TOKEN" = some TextSetting.apiToken.name := rfl
  have hsplit : [("AGENT_API_TOKEN", "007")] = [] ++ ("AGENT_API_TOKEN", "007") :: [] := rfl
  exact loadFrom_text hload hsplit hkey (by simp)

end Settings

end HostAgent
