import OpenElp.Conf.Line

/-!
# The additional external bind addresses (`conf_parse_pair`, `proxy_open`)

`AdditionalExternalBindAddresses` names the source addresses of the slots after the first.
`conf_parse_pair` counts the commas of the value from its second character on, adds one, and
allocates that many addresses onto the count already there; a second loop then copies the
addresses, each from where the last one ended up to the next comma.  `proxy_open` makes one slot
for `ExternalBindAddress` and one for each address.

* `splitBindAddrs_succ` : one turn of the copy loop copies the value up to the next comma;
* `splitBindAddrs_splitOn` : **the copy loop, run for any number of turns**, copies the fields
  of the value in order, then empty addresses;
* `length_splitOn_comma` : the fields of a value are the commas after its first character, and
  one more if it starts with a comma, and one;
* `confParseLine_bindAddrs` : a line of the key into a fresh configuration keeps as many
  addresses as there are fields, **less one when the value starts with a comma**: the last
  field is then dropped, and `proxy_open` makes no slot for it;
* `confParseLine_bindAddrs_accumulates` : **a line of the key counts on from the count already
  there**: `conf_parse_pair` frees the old addresses but never resets their count, so a second
  line of the key, or a second parse of a file, gives more addresses than the last line alone.
-/

namespace OpenElp

/-! ### The copy loop -/

/-- One turn of the copy loop: `while (j < val_len && val[j] != ',') j++` scans to the next
comma, and the address is the text scanned. -/
theorem splitBindAddrs_succ (val : List Char) (n k j : ℕ) :
    splitBindAddrs val n (k + 1) j =
      ((val.take n).drop j).takeWhile (· ≠ ',') ::
        splitBindAddrs val n k (j + (((val.take n).drop j).takeWhile (· ≠ ',')).length + 1) := by
  rw [splitBindAddrs]
  congr 1
  set t := (((val.take n).drop j).takeWhile (· ≠ ',')).length with ht
  -- the scan stops inside the value, so the copy reads no byte past it
  have hle : t ≤ n - j := by
    have := (List.takeWhile_prefix (l := (val.take n).drop j) (· ≠ ',')).length_le
    simp only [List.length_drop, List.length_take] at this
    omega
  have hpre := List.prefix_iff_eq_take.1 (List.takeWhile_prefix (l := (val.take n).drop j) (· ≠ ','))
  rw [hpre, ← ht, List.drop_take, List.drop_take, List.take_take, Nat.add_sub_cancel_left,
    Nat.min_eq_left hle]

/-- Past the end of the value every turn copies an empty address. -/
theorem splitBindAddrs_past_end {val : List Char} {n j : ℕ} (hj : (val.take n).length < j)
    (k : ℕ) : splitBindAddrs val n k j = List.replicate k [] := by
  induction k generalizing j with
  | zero => rfl
  | succ k ih =>
    have hnil : (val.take n).drop j = [] := List.drop_eq_nil_of_le hj.le
    rw [splitBindAddrs_succ, hnil, List.takeWhile_nil, List.length_nil, ih (by omega)]
    rfl

/-- A field without a comma is scanned whole, up to the comma after it. -/
theorem takeWhile_field {f : List Char} (hf : ',' ∉ f) (rest : List Char) :
    (f ++ rest).takeWhile (· ≠ ',') = f ++ rest.takeWhile (· ≠ ',') :=
  List.takeWhile_append_of_pos fun c hc => by
    simp only [ne_eq, decide_eq_true_eq]
    rintro rfl
    exact hf hc

/-- **The copy loop, field by field.**  From the start of a field of the value, `k` turns copy
the next `k` fields, and empty addresses once the fields run out. -/
theorem splitBindAddrs_fields {val : List Char} {n : ℕ} (fs : List (List Char)) :
    ∀ (f : List Char), (∀ g ∈ f :: fs, ',' ∉ g) → ∀ j,
      (val.take n).drop j = [','].intercalate (f :: fs) → ∀ k,
      splitBindAddrs val n k j = (f :: fs).take k ++ List.replicate (k - (fs.length + 1)) [] := by
  induction fs with
  | nil =>
    -- the last field: the scan stops at the end of the value
    rintro f hfs j hj (_ | k)
    · rfl
    · have hf : ',' ∉ f := hfs f List.mem_cons_self
      have hscan : f.takeWhile (· ≠ ',') = f := by
        simpa using takeWhile_field hf []
      have hend : (val.take n).length < j + f.length + 1 := by
        have := congrArg List.length hj
        simp only [List.length_drop, List.intercalate_singleton] at this
        omega
      rw [List.intercalate_singleton] at hj
      rw [splitBindAddrs_succ, hj, hscan, splitBindAddrs_past_end hend]
      simp
  | cons g fs ih =>
    -- a field followed by a comma: the next turn starts after that comma
    rintro f hfs j hj (_ | k)
    · simp [splitBindAddrs]
    · have hf : ',' ∉ f := hfs f List.mem_cons_self
      rw [List.intercalate_cons_cons] at hj
      have hscan : (f ++ [','] ++ [','].intercalate (g :: fs)).takeWhile (· ≠ ',') = f := by
        rw [List.append_assoc, takeWhile_field hf]
        simp
      have hnext : (val.take n).drop (j + f.length + 1) = [','].intercalate (g :: fs) := by
        rw [Nat.add_assoc, ← List.drop_drop, hj, List.drop_left' (by simp)]
      rw [splitBindAddrs_succ, hj, hscan,
        ih g (fun h hh => hfs h (List.mem_cons_of_mem _ hh)) _ hnext k]
      simp

/-- No field of a split holds the separator. -/
theorem not_mem_of_mem_splitOn {a : Char} {xs l : List Char} (h : l ∈ xs.splitOn a) : a ∉ l := by
  induction xs generalizing l with
  | nil =>
    simp only [List.splitOn_nil, List.mem_singleton] at h
    simp [h]
  | cons x xs ih =>
    rw [List.splitOn_cons_eq_if_modifyHead] at h
    split at h
    · -- a separator starts a new, empty field
      rcases List.mem_cons.1 h with rfl | h
      · simp
      · exact ih h
    · -- any other character joins the first field
      rename_i hx
      rcases hs : xs.splitOn a with _ | ⟨l₀, ls⟩
      · exact absurd hs (List.splitOn_ne_nil a xs)
      · rw [hs, List.modifyHead_cons] at h
        rcases List.mem_cons.1 h with rfl | h
        · have := ih (hs ▸ List.mem_cons_self)
          simp only [List.mem_cons, not_or]
          exact ⟨fun e => hx (by simp [e]), this⟩
        · exact ih (hs ▸ List.mem_cons_of_mem _ h)

/-- **The copy loop, run for any number of turns.**  It copies the fields of the value in order,
and once they run out, empty addresses. -/
theorem splitBindAddrs_splitOn (val : List Char) (n k : ℕ) :
    splitBindAddrs val n k 0 =
      ((val.take n).splitOn ',').take k ++
        List.replicate (k - ((val.take n).splitOn ',').length) [] := by
  rcases hs : (val.take n).splitOn ',' with _ | ⟨f, fs⟩
  · exact absurd hs (List.splitOn_ne_nil _ _)
  · have hfs : ∀ g ∈ f :: fs, ',' ∉ g := fun g hg => not_mem_of_mem_splitOn (hs ▸ hg)
    have hj : (val.take n).drop 0 = [','].intercalate (f :: fs) := by
      rw [List.drop_zero, ← hs, List.intercalate_splitOn]
    rw [splitBindAddrs_fields fs f hfs 0 hj k, List.length_cons]

/-! ### The count of addresses -/

/-- Joined fields without commas have one comma fewer than there are fields. -/
theorem count_intercalate (fs : List (List Char)) :
    ∀ f, (∀ g ∈ f :: fs, ',' ∉ g) → ([','].intercalate (f :: fs)).count ',' = fs.length := by
  induction fs with
  | nil =>
    intro f hfs
    rw [List.intercalate_singleton]
    exact List.count_eq_zero.2 (hfs f List.mem_cons_self)
  | cons g fs ih =>
    intro f hfs
    have hf : f.count ',' = 0 := List.count_eq_zero.2 (hfs f List.mem_cons_self)
    rw [List.intercalate_cons_cons, List.count_append, List.count_append, hf,
      ih g (fun h hh => hfs h (List.mem_cons_of_mem _ hh))]
    simp [Nat.add_comm]

/-- **The fields of a value**: the commas after its first character, one more if it starts with
a comma, and one.  The count of `conf_parse_pair` leaves out the middle term. -/
theorem length_splitOn_comma (v : List Char) :
    (v.drop 1).count ',' + (if v.head? = some ',' then 1 else 0) + 1 = (v.splitOn ',').length := by
  rcases hs : v.splitOn ',' with _ | ⟨f, fs⟩
  · exact absurd hs (List.splitOn_ne_nil _ _)
  · have hcount := count_intercalate fs f fun g hg => not_mem_of_mem_splitOn (hs ▸ hg)
    rw [← hs, List.intercalate_splitOn] at hcount
    rw [List.length_cons, ← hcount]
    cases v with
    | nil => simp
    | cons c v =>
      by_cases hc : c = ','
      · subst hc
        simp
      · simp [hc]

/-! ### What a line of the key does -/

/-- **What the key does to a configuration.**  A non-empty value adds its count of addresses to
the one already there, in 16 bits, and the addresses are the fields of the value, then empty
ones. -/
theorem confParsePair_bindAddrs {val : List Char} {n : ℕ} (hn : n ≠ 0) (conf : ProxyConf) :
    let len := conf.bindAddrExtAddLen + (((val.take n).drop 1).count ',').toUInt16 + 1
    confParsePair ConfKey.additionalExternalBindAddresses.name val n conf =
      (0, { conf with
        bindAddrExtAdd := some (((val.take n).splitOn ',').take len.toNat ++
          List.replicate (len.toNat - ((val.take n).splitOn ',').length) [])
        bindAddrExtAddLen := len }) := by
  intro len
  have hname : ConfKey.additionalExternalBindAddresses.name =
      "AdditionalExternalBindAddresses".toList := rfl
  rw [hname, confParsePair_bindAddrs_key, if_neg hn, splitBindAddrs_splitOn]

/-- An empty value clears the addresses and their count. -/
theorem confParsePair_bindAddrs_empty (val : List Char) (conf : ProxyConf) :
    confParsePair ConfKey.additionalExternalBindAddresses.name val 0 conf =
      (0, { conf with bindAddrExtAdd := none, bindAddrExtAddLen := 0 }) :=
  confParsePair_bindAddrs_key val 0 conf

/-! ### The slots of `proxy_open` -/

/-- The source addresses `proxy_open` gives its `1 + bind_addr_ext_add_len` slots:
`ExternalBindAddress` for slot `0`, and `bind_addr_ext_add[i - 1]` for slot `i`, which is `none`
if it lies past the array. -/
def proxyOpenSources (conf : ProxyConf) : List (Option (List Char)) :=
  conf.bindAddrExt ::
    (List.range conf.bindAddrExtAddLen.toNat).map fun i => (conf.bindAddrExtAdd.getD [])[i]?

/-- Reading each index of a list in turn reads the list. -/
theorem range_map_getElem? (l : List (List Char)) :
    (List.range l.length).map (l[·]?) = l.map some := by
  apply List.ext_getElem <;> simp

/-- `proxy_open` after a parse that left `len` addresses: one slot for each, after slot `0`. -/
theorem proxyOpenSources_parsed (conf : ProxyConf) (addrs : List (List Char))
    (hlen : addrs.length < 2 ^ 16) :
    proxyOpenSources
        { conf with
          bindAddrExtAdd := some addrs
          bindAddrExtAddLen := addrs.length.toUInt16 } =
      conf.bindAddrExt :: addrs.map some := by
  have hnat : addrs.length.toUInt16.toNat = addrs.length := by
    simp only [Nat.toUInt16_eq, UInt16.toNat_ofNat']
    omega
  rw [proxyOpenSources, hnat]
  simp only [Option.getD_some]
  rw [range_map_getElem?]

/-- **A line of the key into a fresh configuration.**  For every line whose value `v` has at
most 65534 characters: an empty value leaves no addresses; otherwise `conf_parse_pair` keeps `m`
of the fields of `v`, where `m` is their number less one when `v` starts with a comma, and
`proxy_open` gives slot `i + 1` the `i`-th of them.  A value that starts with a comma thus
loses its last field. -/
theorem confParseLine_bindAddrs (line v : List Char) (hnul : '\x00' ∉ line)
    (htok : lineTokens line = some (ConfKey.additionalExternalBindAddresses.name, v))
    (hlen : v.length ≤ 65534) :
    let m := if v = [] then 0 else (v.splitOn ',').length - if v.head? = some ',' then 1 else 0
    confParseLine line confInit =
        (0, { confInit with
          bindAddrExtAdd := if v = [] then none else some ((v.splitOn ',').take m)
          bindAddrExtAddLen := m.toUInt16 }) ∧
      proxyOpenSources (confParseLine line confInit).2 = none :: ((v.splitOn ',').take m).map some := by
  intro m
  obtain ⟨val, hv, -, hparse⟩ := confParseLine_of_lineTokens hnul htok
  by_cases hnil : v = []
  · -- an empty value: `val_len == 0`
    subst hnil
    have hm : m = 0 := if_pos rfl
    rw [hparse, hm, List.length_nil, confParsePair_bindAddrs_empty]
    exact ⟨rfl, rfl⟩
  · have hn : v.length ≠ 0 := by simpa using hnil
    have hm : m = (v.splitOn ',').length - if v.head? = some ',' then 1 else 0 := if_neg hnil
    -- the count of `conf_parse_pair` is `m`, and does not wrap around in 16 bits
    have hfields := length_splitOn_comma v
    have hcount : (v.drop 1).count ',' ≤ 65533 := by
      have := List.count_le_length (a := ',') (l := v.drop 1)
      simp only [List.length_drop] at this
      omega
    have hlenNat : (confInit.bindAddrExtAddLen + ((v.drop 1).count ',').toUInt16 + 1).toNat = m := by
      simp only [confInit, UInt16.toNat_add, Nat.toUInt16_eq, UInt16.toNat_ofNat',
        UInt16.toNat_ofNat]
      omega
    have hlen16 : confInit.bindAddrExtAddLen + ((v.drop 1).count ',').toUInt16 + 1 = m.toUInt16 := by
      apply UInt16.toNat_inj.1
      rw [hlenNat, Nat.toUInt16_eq, UInt16.toNat_ofNat']
      omega
    have hparsed : confParseLine line confInit =
        (0, { confInit with
          bindAddrExtAdd := some ((v.splitOn ',').take m)
          bindAddrExtAddLen := m.toUInt16 }) := by
      rw [hparse, confParsePair_bindAddrs hn, hv, hlenNat, hlen16,
        Nat.sub_eq_zero_of_le (by omega), List.replicate_zero, List.append_nil]
    have htake : ((v.splitOn ',').take m).length = m := List.length_take_of_le (by omega)
    refine ⟨by rw [hparsed, if_neg hnil], ?_⟩
    have h16 : m.toUInt16 = ((v.splitOn ',').take m).length.toUInt16 := by rw [htake]
    rw [hparsed, h16]
    exact proxyOpenSources_parsed confInit _ (by rw [htake]; omega)

/-- `,a` has the fields `""` and `"a"`, but the parse keeps only the first. -/
theorem confParseLine_bindAddrs_leading_comma :
    ",a".toList.splitOn ',' = [[], ['a']] ∧
      confParseLine "AdditionalExternalBindAddresses=,a".toList confInit =
        (0, { confInit with bindAddrExtAdd := some [[]], bindAddrExtAddLen := 1 }) := by
  decide

/-- A value with an empty field and a trailing comma, after blanks: all four fields are kept. -/
theorem confParseLine_bindAddrs_trailing_comma :
    '\x00' ∉ "AdditionalExternalBindAddresses = a,,b,\r\n".toList ∧
      lineTokens "AdditionalExternalBindAddresses = a,,b,\r\n".toList =
        some (ConfKey.additionalExternalBindAddresses.name, "a,,b,".toList) ∧
      "a,,b,".toList.length ≤ 65534 ∧
      confParseLine "AdditionalExternalBindAddresses = a,,b,\r\n".toList confInit =
          (0, { confInit with
            bindAddrExtAdd := some [['a'], [], ['b'], []]
            bindAddrExtAddLen := 4 }) ∧
        proxyOpenSources
            (confParseLine "AdditionalExternalBindAddresses = a,,b,\r\n".toList confInit).2 =
          [none, some ['a'], some [], some ['b'], some []] :=
  ⟨by decide, by decide, by decide,
    confParseLine_bindAddrs "AdditionalExternalBindAddresses = a,,b,\r\n".toList "a,,b,".toList
      (by decide) (by decide) (by decide)⟩

/-! ### A second line of the key -/

/-- **A line of the key counts on from the count already there.**  For every configuration
`conf` (the result of any lines before) and every line of the key with a non-empty value, the
count of addresses is `conf`'s count plus the count the line gives a fresh configuration, and
the addresses are the fields of the value, then empty ones up to that count. -/
theorem confParseLine_bindAddrs_accumulates (line v : List Char) (hnul : '\x00' ∉ line)
    (htok : lineTokens line = some (ConfKey.additionalExternalBindAddresses.name, v))
    (hv : v ≠ []) (conf : ProxyConf) :
    let len := conf.bindAddrExtAddLen + (confParseLine line confInit).2.bindAddrExtAddLen
    confParseLine line conf =
      (0, { conf with
        bindAddrExtAdd := some ((v.splitOn ',').take len.toNat ++
          List.replicate (len.toNat - (v.splitOn ',').length) [])
        bindAddrExtAddLen := len }) := by
  intro len
  obtain ⟨val, hval, -, hparse⟩ := confParseLine_of_lineTokens hnul htok
  have hn : v.length ≠ 0 := by simpa using hv
  -- the count a fresh configuration gets is the commas after the first character, and one
  have hlen : len = conf.bindAddrExtAddLen + ((v.drop 1).count ',').toUInt16 + 1 := by
    have hfresh := hparse confInit
    rw [confParsePair_bindAddrs hn, hval] at hfresh
    calc len = conf.bindAddrExtAddLen + (confParseLine line confInit).2.bindAddrExtAddLen := rfl
      _ = conf.bindAddrExtAddLen + (0 + ((v.drop 1).count ',').toUInt16 + 1) := by
        rw [hfresh]
        rfl
      _ = conf.bindAddrExtAddLen + ((v.drop 1).count ',').toUInt16 + 1 := by
        rw [zero_add, add_assoc]
  rw [hparse, confParsePair_bindAddrs hn, hval, hlen]

/-- A line of one address into a configuration that already has two: three addresses, the last
two empty. -/
theorem confParseLine_bindAddrs_after_two :
    '\x00' ∉ "AdditionalExternalBindAddresses=a".toList ∧
      lineTokens "AdditionalExternalBindAddresses=a".toList =
        some (ConfKey.additionalExternalBindAddresses.name, ['a']) ∧ ['a'] ≠ [] ∧
      confParseLine "AdditionalExternalBindAddresses=a".toList
          { confInit with
            bindAddrExtAdd := some [['x'], ['y']]
            bindAddrExtAddLen := 2 } =
        (0, { confInit with
          bindAddrExtAdd := some [['a'], [], []]
          bindAddrExtAddLen := 3 }) :=
  ⟨by decide, by decide, by decide,
    confParseLine_bindAddrs_accumulates "AdditionalExternalBindAddresses=a".toList ['a']
      (by decide) (by decide) (by decide) _⟩

/-- A file of two lines, `ExternalBindAddress` and one additional address, loaded twice: the
second load leaves two additional addresses, the second one empty, where one load leaves
one. -/
theorem proxyLoadConf_bindAddrs_twice :
    proxyLoadConf "ExternalBindAddress=b\nAdditionalExternalBindAddresses=a\n".toList confInit =
        (0, { confInit with
          bindAddrExt := some ['b']
          bindAddrExtAdd := some [['a']]
          bindAddrExtAddLen := 1 }) ∧
      proxyLoadConf "ExternalBindAddress=b\nAdditionalExternalBindAddresses=a\n".toList
          (proxyLoadConf "ExternalBindAddress=b\nAdditionalExternalBindAddresses=a\n".toList
            confInit).2 =
        (0, { confInit with
          bindAddrExt := some ['b']
          bindAddrExtAdd := some [['a'], []]
          bindAddrExtAddLen := 2 }) := by
  decide

end OpenElp
