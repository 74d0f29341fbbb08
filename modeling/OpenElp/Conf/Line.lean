import OpenElp.Conf

/-!
# What one configuration line does (`conf_parse_line`)

`conf_parse_line` skips the blanks before the key, ignores comments, empty lines and lines
without `=`, trims the key and the value with four loops over the line, and hands them to
`conf_parse_pair`, which dispatches on the key's length and then compares it with `strncmp`.
This file states what the documentation of `struct proxy_conf` says a line does, as a
reference, and compares the model of `conf.c` with it.

* `lineTokens` : the reference tokenization: skip spaces, tabs, CR and LF; the key is the text
  before the first `=` without trailing spaces and tabs; the value the text after it without
  leading spaces and tabs and trailing spaces, tabs, CR and LF;
* `confSplitLine_tokens` : `conf_parse_line` cuts every line as the reference does;
* `ConfKey` : the eleven keys `conf_parse_pair` knows, with the fields each one sets
  (`ConfKey.erase`) and, for a string key, the documented assignment (`ConfKey.assign`);
* `confParseLine_spec` : **every line** is ignored, or has a key of its own; a string key then
  sets its field to exactly the value (`NULL` for an empty value of an optional field), except
  that `Password=notset` leaves the password `NULL` and fails; no line changes a field of
  another key.
-/

namespace OpenElp

/-! ### The reference tokenization -/

/-- The characters skipped before a key and dropped after a value: space, tab, LF and CR. -/
def isLineBlank (c : Char) : Bool := c == ' ' || c == '\t' || c == '\n' || c == '\r'

/-- The characters dropped after a key and before a value: space and tab. -/
def isSpaceTab (c : Char) : Bool := c == ' ' || c == '\t'

/-- The key and the value of a line, as the documentation describes them, or `none` for a line
that is ignored. -/
def lineTokens (line : List Char) : Option (List Char × List Char) :=
  match line.dropWhile isLineBlank with
  | [] | '#' :: _ | '=' :: _ => none
  | rest =>
    if '=' ∈ rest then
      some ((rest.takeWhile (· ≠ '=')).rdropWhile isSpaceTab,
        (((rest.dropWhile (· ≠ '=')).drop 1).dropWhile isSpaceTab).rdropWhile isLineBlank)
    else none

/-- `key_len` counts the characters before the first `=`. -/
theorem idxOf_eq_findIdx (l : List Char) :
    l.idxOf '=' = l.findIdx (fun c => !decide (c ≠ '=')) := by
  unfold List.idxOf
  congr 1
  funext c
  simp only [ne_eq, decide_not, Bool.not_not]
  rfl

/-- The key is the text before the first `=`. -/
theorem take_idxOf_eq (l : List Char) : l.take (l.idxOf '=') = l.takeWhile (· ≠ '=') := by
  rw [List.takeWhile_eq_take_findIdx_not, idxOf_eq_findIdx]

/-- The value starts after the first `=`. -/
theorem drop_idxOf_eq (l : List Char) :
    l.drop (l.idxOf '=' + 1) = (l.dropWhile (· ≠ '=')).drop 1 := by
  rw [List.dropWhile_eq_drop_findIdx_not, List.drop_drop, idxOf_eq_findIdx]

/-- `val_len` counts the value without its trailing blanks, so the first `val_len` characters
are that value. -/
theorem take_rdropWhile_length (p : Char → Bool) (l : List Char) :
    l.take (l.reverse.dropWhile p).length = l.rdropWhile p := by
  have hlen : (l.reverse.dropWhile p).length = (l.rdropWhile p).length := by
    rw [List.rdropWhile, List.length_reverse]
  rw [hlen]
  exact (List.prefix_iff_eq_take.1 (List.rdropWhile_prefix p l)).symm

/-- **`conf_parse_line` cuts every line as the reference does**: it ignores the same lines, and
otherwise its key is the reference key and the first `val_len` characters of its value are the
reference value. -/
theorem confSplitLine_tokens (line : List Char) (hnul : '\x00' ∉ line) :
    (confSplitLine line).map (fun t => (t.1, t.2.1.take t.2.2)) = lineTokens line := by
  have hline : line.takeWhile (· ≠ '\x00') = line :=
    List.takeWhile_eq_self_iff.2 fun c hc => by
      simp only [ne_eq, decide_eq_true_eq]
      exact fun e => hnul (e ▸ hc)
  unfold confSplitLine lineTokens isLineBlank isSpaceTab
  rw [hline]
  -- both cut what is left after the leading blanks, and ignore the same lines
  generalize List.dropWhile (fun c => c == ' ' || c == '\t' || c == '\n' || c == '\r') line = key
  split
  · rfl
  · rfl
  · rfl
  · rename_i hnil hhash hequal
    dsimp only
    split
    · exact (hnil rfl).elim
    · exact (hhash _ rfl).elim
    · exact (hequal _ rfl).elim
    · by_cases heq : '=' ∈ key
      · rw [if_neg (not_not.2 heq), if_pos heq, Option.map_some, take_idxOf_eq, drop_idxOf_eq,
          take_rdropWhile_length]
        rfl
      · rw [if_pos heq, if_neg heq, Option.map_none]

/-- `val_len` is at most the length of the value it counts. -/
theorem confSplitLine_valLen {line key val : List Char} {n : ℕ}
    (h : confSplitLine line = some (key, val, n)) : n ≤ val.length := by
  unfold confSplitLine at h
  dsimp only at h
  split at h
  · cases h
  · cases h
  · cases h
  · split at h
    · cases h
    · simp only [Option.some.injEq, Prod.mk.injEq] at h
      obtain ⟨-, rfl, rfl⟩ := h
      exact (List.length_dropWhile_le _ _).trans (List.length_reverse ..).le

/-- A line whose tokens are `key` and `v` hands `conf_parse_pair` the key, a value that starts
with `v`, and the length of `v`. -/
theorem confParseLine_of_lineTokens {line key v : List Char} (hnul : '\x00' ∉ line)
    (h : lineTokens line = some (key, v)) :
    ∃ val, val.take v.length = v ∧ v.length ≤ val.length ∧
      ∀ conf, confParseLine line conf = confParsePair key val v.length conf := by
  have htok := confSplitLine_tokens line hnul
  rcases hs : confSplitLine line with _ | ⟨key', val, n⟩
  · rw [hs, Option.map_none, h] at htok
    cases htok
  · rw [hs, Option.map_some, h, Option.some.injEq, Prod.mk.injEq] at htok
    obtain ⟨rfl, rfl⟩ := htok
    have hn := confSplitLine_valLen hs
    rw [List.length_take_of_le hn]
    exact ⟨val, rfl, hn, fun conf => by rw [confParseLine, hs]⟩

/-! ### The keys -/

/-- The keys `conf_parse_pair` knows. -/
inductive ConfKey
  | port
  | password
  | bindAddress
  | publicAddress
  | callsignsDenied
  | callsignsAllowed
  | registrationName
  | connectionTimeout
  | externalBindAddress
  | registrationComment
  | additionalExternalBindAddresses
  deriving DecidableEq, Repr

namespace ConfKey

/-- The name of a key in the configuration file. -/
def name : ConfKey → List Char
  | port => "Port".toList
  | password => "Password".toList
  | bindAddress => "BindAddress".toList
  | publicAddress => "PublicAddress".toList
  | callsignsDenied => "CallsignsDenied".toList
  | callsignsAllowed => "CallsignsAllowed".toList
  | registrationName => "RegistrationName".toList
  | connectionTimeout => "ConnectionTimeout".toList
  | externalBindAddress => "ExternalBindAddress".toList
  | registrationComment => "RegistrationComment".toList
  | additionalExternalBindAddresses => "AdditionalExternalBindAddresses".toList

/-- Every key. -/
def all : List ConfKey :=
  [port, password, bindAddress, publicAddress, callsignsDenied, callsignsAllowed,
    registrationName, connectionTimeout, externalBindAddress, registrationComment,
    additionalExternalBindAddresses]

theorem mem_all (K : ConfKey) : K ∈ all := by
  cases K <;> decide

/-- The key a line names, compared exactly, case included. -/
def ofName? (k : List Char) : Option ConfKey := all.find? (·.name == k)

theorem name_of_ofName? {k : List Char} {K : ConfKey} (h : ofName? k = some K) : K.name = k := by
  simpa using List.find?_some h

theorem ne_name_of_ofName? {k : List Char} (h : ofName? k = none) (K : ConfKey) : k ≠ K.name := by
  have := List.find?_eq_none.1 h K (mem_all K)
  simp only [beq_iff_eq] at this
  exact fun e => this e.symm

/-- `conf` with the fields that the key `K` sets cleared: a line of key `K` changes no other
field exactly when the results agree after `K.erase`. -/
def erase : ConfKey → ProxyConf → ProxyConf
  | port, c => { c with port := 0 }
  | password, c => { c with password := none }
  | bindAddress, c => { c with bindAddr := none }
  | publicAddress, c => { c with publicAddr := none }
  | callsignsDenied, c => { c with callsDenied := none }
  | callsignsAllowed, c => { c with callsAllowed := none }
  | registrationName, c => { c with regName := none }
  | connectionTimeout, c => { c with connectionTimeout := 0 }
  | externalBindAddress, c => { c with bindAddrExt := none }
  | registrationComment, c => { c with regComment := none }
  | additionalExternalBindAddresses, c => { c with bindAddrExtAdd := none, bindAddrExtAddLen := 0 }

/-- An optional string field holds `NULL` for an empty value, as `struct proxy_conf`
documents. -/
def optional (v : List Char) : Option (List Char) := if v = [] then none else some v

/-- What a line of the string key `K` with value `v` makes of `c`, as the documentation says;
`none` for the keys whose fields are not strings. -/
def assign : ConfKey → List Char → ProxyConf → Option ProxyConf
  | password, v, c => some { c with password := some v }
  | bindAddress, v, c => some { c with bindAddr := optional v }
  | publicAddress, v, c => some { c with publicAddr := optional v }
  | callsignsDenied, v, c => some { c with callsDenied := optional v }
  | callsignsAllowed, v, c => some { c with callsAllowed := optional v }
  | registrationName, v, c => some { c with regName := optional v }
  | externalBindAddress, v, c => some { c with bindAddrExt := optional v }
  | registrationComment, v, c => some { c with regComment := optional v }
  | port, _, _ | connectionTimeout, _, _ | additionalExternalBindAddresses, _, _ => none

end ConfKey

/-- A string field as `conf_parse_pair` stores a value of length `val_len`: the documented
optional value. -/
theorem confString_eq {val : List Char} {n : ℕ} (hn : n ≤ val.length) :
    confString val n = ConfKey.optional (val.take n) := by
  unfold confString ConfKey.optional
  by_cases h0 : n = 0
  · simp [h0]
  · have : val.take n ≠ [] := by
      simp only [ne_eq, List.take_eq_nil_iff, not_or]
      exact ⟨h0, fun e => h0 (by simpa [e] using hn)⟩
    rw [if_neg h0, if_neg this]

/-- A number field changes only that field: `sscanf` stores what it converts, or nothing. -/
theorem confNumber_cases (bits : ℕ) (val : List Char) (set : ℕ → ProxyConf) (conf : ProxyConf) :
    (confNumber bits val set conf).2 = conf ∨ ∃ x, (confNumber bits val set conf).2 = set x := by
  unfold confNumber
  rcases sscanfUnsigned bits val with ⟨n, _ | x⟩ <;> dsimp only <;> split_ifs
  all_goals first | exact .inl rfl | exact .inr ⟨x, rfl⟩

/-- A key that `conf_parse_pair` does not know changes nothing. -/
theorem confParsePair_unknown {key val : List Char} {n : ℕ} (conf : ProxyConf)
    (hk : ∀ K : ConfKey, key ≠ K.name) : confParsePair key val n conf = (0, conf) := by
  have h₁ : key ≠ "Port".toList := hk .port
  have h₂ : key ≠ "Password".toList := hk .password
  have h₃ : key ≠ "BindAddress".toList := hk .bindAddress
  have h₄ : key ≠ "PublicAddress".toList := hk .publicAddress
  have h₅ : key ≠ "CallsignsDenied".toList := hk .callsignsDenied
  have h₆ : key ≠ "CallsignsAllowed".toList := hk .callsignsAllowed
  have h₇ : key ≠ "RegistrationName".toList := hk .registrationName
  have h₈ : key ≠ "ConnectionTimeout".toList := hk .connectionTimeout
  have h₉ : key ≠ "ExternalBindAddress".toList := hk .externalBindAddress
  have h₁₀ : key ≠ "RegistrationComment".toList := hk .registrationComment
  have h₁₁ : key ≠ "AdditionalExternalBindAddresses".toList := hk .additionalExternalBindAddresses
  unfold confParsePair
  -- whatever its length, the key is none of those of that length
  split
  all_goals first
    | rfl
    | rw [if_neg h₁]
    | rw [if_neg h₂]
    | rw [if_neg h₃]
    | rw [if_neg h₄]
    | rw [if_neg h₅]
    | rw [if_neg h₆, if_neg h₇]
    | rw [if_neg h₈]
    | rw [if_neg h₉, if_neg h₁₀]
    | rw [if_neg h₁₁]

/-- The value `Password=notset` that `conf_parse_pair` refuses. -/
def notset : List Char := "notset".toList

/-- What the documentation makes of a string key's line, with the one exception of the code:
`Password=notset` fails and leaves the password `NULL`. -/
def stringResult (K : ConfKey) (v : List Char) (conf c : ProxyConf) : ℤ × ProxyConf :=
  if K = .password ∧ v = notset then (-EINVAL, { conf with password := none }) else (0, c)

/-- **A known key**: the line changes only the key's own fields, and a string key sets its field
as documented, `Password=notset` apart. -/
theorem confParsePair_key (K : ConfKey) {val : List Char} {n : ℕ} (hn : n ≤ val.length)
    (conf : ProxyConf) :
    K.erase (confParsePair K.name val n conf).2 = K.erase conf ∧
      ∀ c, K.assign (val.take n) conf = some c →
        confParsePair K.name val n conf = stringResult K (val.take n) conf c := by
  cases K with
  | port =>
    have e : confParsePair ConfKey.port.name val n conf =
        confNumber 16 val (fun p => { conf with port := p.toUInt16 }) conf := rfl
    refine ⟨?_, fun c h => by cases h⟩
    rw [e]
    -- `sscanf` stored nothing, or a number in the key's own field
    rcases confNumber_cases 16 val (fun p => { conf with port := p.toUInt16 }) conf
      with h | ⟨x, h⟩
    · rw [h]
    · rw [h]
      rfl
  | connectionTimeout =>
    have e : confParsePair ConfKey.connectionTimeout.name val n conf =
        confNumber 32 val (fun t => { conf with connectionTimeout := t.toUInt32 }) conf := rfl
    refine ⟨?_, fun c h => by cases h⟩
    rw [e]
    -- `sscanf` stored nothing, or a number in the key's own field
    rcases confNumber_cases 32 val (fun t => { conf with connectionTimeout := t.toUInt32 }) conf
      with h | ⟨x, h⟩
    · rw [h]
    · rw [h]
      rfl
  | additionalExternalBindAddresses =>
    refine ⟨?_, fun c h => by cases h⟩
    show ConfKey.erase _ (confParsePair "AdditionalExternalBindAddresses".toList val n conf).2 = _
    rw [confParsePair_bindAddrs_key]
    split_ifs <;> rfl
  | password =>
    refine ⟨?_, fun c h => ?_⟩
    · show ConfKey.erase _ (confParsePair "Password".toList val n conf).2 = _
      rw [confParsePair_password_key]
      split_ifs <;> rfl
    · cases h
      show confParsePair "Password".toList val n conf = _
      rw [confParsePair_password_key, stringResult]
      by_cases hv : val.take n = "notset".toList
      · rw [if_pos hv, if_pos (show ConfKey.password = .password ∧ val.take n = notset from ⟨rfl, hv⟩)]
      · rw [if_neg hv,
          if_neg (show ¬ (ConfKey.password = .password ∧ val.take n = notset) from fun h => hv h.2)]
  | bindAddress | publicAddress | callsignsDenied | callsignsAllowed | registrationName
  | externalBindAddress | registrationComment =>
    -- the optional string fields: stored as they are, `NULL` when empty
    refine ⟨rfl, fun c h => ?_⟩
    cases h
    rw [stringResult, if_neg (fun h => nomatch h.1), ← confString_eq hn]
    rfl

/-- What the documentation says a line does to `conf`, the result being `r`: a line that is
ignored, or whose key is unknown, changes nothing; a line of key `K` changes only `K`'s fields,
and a string key's line gives `stringResult`. -/
def LineSpec (line : List Char) (conf : ProxyConf) (r : ℤ × ProxyConf) : Prop :=
  match lineTokens line with
  | none => r = (0, conf)
  | some (k, v) =>
    match ConfKey.ofName? k with
    | none => r = (0, conf)
    | some K =>
      K.erase r.2 = K.erase conf ∧ ∀ c, K.assign v conf = some c → r = stringResult K v conf c

/-- **What a configuration line does.**  For every line without NUL, `conf_parse_line` cuts it
as the reference does, and its result is the one `LineSpec` gives: an ignored line or an
unknown key changes nothing, a string key sets its field to exactly the value (`NULL` for an
empty value of an optional field) except that `Password=notset` leaves the password `NULL` and
fails with `-EINVAL`, and no line changes a field of another key. -/
theorem confParseLine_spec (line : List Char) (hnul : '\x00' ∉ line) (conf : ProxyConf) :
    (confSplitLine line).map (fun t => (t.1, t.2.1.take t.2.2)) = lineTokens line ∧
      LineSpec line conf (confParseLine line conf) := by
  have htok := confSplitLine_tokens line hnul
  refine ⟨htok, ?_⟩
  unfold LineSpec confParseLine
  rcases hs : confSplitLine line with _ | ⟨key, val, n⟩
  · -- an ignored line
    rw [hs, Option.map_none] at htok
    rw [← htok]
  · rw [hs, Option.map_some] at htok
    rw [← htok]
    dsimp only
    cases hK : ConfKey.ofName? key with
    | none => exact confParsePair_unknown conf (ConfKey.ne_name_of_ofName? hK)
    | some K =>
      rw [← ConfKey.name_of_ofName? hK]
      exact confParsePair_key K (confSplitLine_valLen hs) conf

/-- `Password=notset` leaves the password `NULL`, where the reference stores `notset`. -/
theorem confParseLine_password_notset :
    lineTokens "Password=notset".toList = some ("Password".toList, notset) ∧
      confParseLine "Password=notset".toList confInit = (-EINVAL, confInit) := by
  decide

/-- A line with blanks around its key and value. -/
theorem confParseLine_spec_bindAddress :
    '\x00' ∉ " BindAddress\t= 10.0.0.1 \r\n".toList ∧
      ((confSplitLine " BindAddress\t= 10.0.0.1 \r\n".toList).map
          (fun t => (t.1, t.2.1.take t.2.2)) = lineTokens " BindAddress\t= 10.0.0.1 \r\n".toList ∧
        LineSpec " BindAddress\t= 10.0.0.1 \r\n".toList confInit
          (confParseLine " BindAddress\t= 10.0.0.1 \r\n".toList confInit)) :=
  ⟨by decide, confParseLine_spec _ (by decide) confInit⟩

end OpenElp
