import OpenElp.Conf.Line

/-!
# The number keys of `conf_parse_pair` (`Port`, `ConnectionTimeout`)

`conf_parse_pair` reads `Port` with `sscanf(val, "%hu%1s", &conf->port, dummy)` and
`ConnectionTimeout` with `"%u%1s"`, and refuses the value unless `sscanf` returns `1`.  The
count rejects a value with something after the number, but nothing checks the number itself:
`%u` reads an optional sign and the digits with `strtoul`, which negates a minus sign modulo
`ULONG_MAX + 1` and gives `ULONG_MAX` past it, and the result is narrowed to the field's width.
`sscanf` also stores the number before `%1s` is tried, so a refused value can still change the
field.

* `ScansAs` : what `%u` reads of a value: white space, a sign, the digits, and the rest;
* `sscanfUnsigned_of_scansAs`, `sscanfUnsigned_isSome_iff` : `sscanfUnsigned` converts exactly
  the values that `ScansAs` describes, with the narrowed `strtoul` value;
* `NumberSpec`, `confNumber_spec` : **what a number key does with every value**: a numeral
  followed by white space only is accepted with its value narrowed to the field, a numeral
  followed by anything else is refused but stored, and any other value is refused and changes
  nothing;
* `conf_number_values` : the two keys of `conf_parse_pair`, on every value.
-/

namespace OpenElp

/-! ### What `%u` reads -/

/-- `v` is white space `ws`, a sign, the decimal digits `ds`, and a `rest` that does not start
with a digit: what the `%u` of `sscanf` reads of `v`, `neg` for a minus sign. -/
def ScansAs (v : List Char) (neg : Bool) (ds rest : List Char) : Prop :=
  ∃ ws sign, v = ws ++ sign ++ ds ++ rest ∧ (∀ c ∈ ws, isSpace c = true) ∧
    (neg = true ∧ sign = ['-'] ∨ neg = false ∧ (sign = [] ∨ sign = ['+'])) ∧
    ds ≠ [] ∧ (∀ c ∈ ds, c.isDigit = true) ∧ ∀ c ∈ rest.head?, c.isDigit = false

/-- A digit is neither white space nor a sign. -/
theorem not_space_sign_of_isDigit {c : Char} (h : c.isDigit = true) :
    isSpace c = false ∧ c ≠ '-' ∧ c ≠ '+' := by
  refine ⟨?_, ?_, ?_⟩
  · -- none of the six white space characters is a digit
    cases hs : isSpace c
    · rfl
    · unfold isSpace at hs
      simp only [Bool.or_eq_true, beq_iff_eq] at hs
      rcases hs with ((((rfl | rfl) | rfl) | rfl) | rfl) | rfl <;> exact absurd h (by decide)
  · rintro rfl
    exact absurd h (by decide)
  · rintro rfl
    exact absurd h (by decide)

/-- A list whose first element fails `p` is all that `dropWhile p` leaves, and `takeWhile p`
takes nothing of it. -/
theorem takeWhile_dropWhile_of_head {α : Type*} {p : α → Bool} {l : List α}
    (h : ∀ c ∈ l.head?, p c = false) : l.takeWhile p = [] ∧ l.dropWhile p = l := by
  cases l with
  | nil => exact ⟨rfl, rfl⟩
  | cons a l =>
    have ha : p a = false := h a rfl
    exact ⟨List.takeWhile_cons_of_neg (by simp [ha]), List.dropWhile_cons_of_neg (by simp [ha])⟩

/-- The digits end where the rest begins. -/
theorem takeWhile_digits {ds rest : List Char} (hdig : ∀ c ∈ ds, c.isDigit = true)
    (hrest : ∀ c ∈ rest.head?, c.isDigit = false) :
    (ds ++ rest).takeWhile Char.isDigit = ds ∧ (ds ++ rest).dropWhile Char.isDigit = rest := by
  obtain ⟨hnil, hself⟩ := takeWhile_dropWhile_of_head hrest
  rw [List.takeWhile_append_of_pos hdig, List.dropWhile_append_of_pos hdig, hnil, hself,
    List.append_nil]
  exact ⟨rfl, rfl⟩

/-- The blanks `sscanf` skips end at the sign or the first digit. -/
theorem dropWhile_space_scans {ws s : List Char} (hws : ∀ c ∈ ws, isSpace c = true)
    (hs : ∀ c ∈ s.head?, isSpace c = false) : (ws ++ s).dropWhile isSpace = s := by
  rw [List.dropWhile_append_of_pos hws]
  exact (takeWhile_dropWhile_of_head hs).2

/-- **`sscanf` converts a value that `ScansAs` describes**: it returns `1` when only white space
follows the digits and `2` otherwise, and stores the `strtoul` value narrowed to `bits` bits. -/
theorem sscanfUnsigned_of_scansAs (bits : ℕ) {v ds rest : List Char} {neg : Bool}
    (h : ScansAs v neg ds rest) :
    sscanfUnsigned bits v =
      (if rest.dropWhile isSpace = [] then 1 else 2,
        some (strtoulValue neg (decimalValue ds) % 2 ^ bits)) := by
  obtain ⟨ws, sign, rfl, hws, hsign, hds, hdig, hrest⟩ := h
  obtain ⟨d, ds', rfl⟩ := List.exists_cons_of_ne_nil hds
  obtain ⟨hdsp, hdm, hdp⟩ := not_space_sign_of_isDigit (hdig d List.mem_cons_self)
  obtain ⟨htake, hdrop⟩ := takeWhile_digits hdig hrest
  -- after the blanks, `sscanf` sees the sign and the digits
  have hblank : (ws ++ sign ++ (d :: ds') ++ rest).dropWhile isSpace =
      sign ++ (d :: ds' ++ rest) := by
    rw [List.append_assoc, List.append_assoc]
    apply dropWhile_space_scans hws
    rcases hsign with ⟨-, rfl⟩ | ⟨-, rfl | rfl⟩
    · simp only [List.singleton_append, List.head?_cons, Option.mem_def, Option.some.injEq,
        forall_eq']
      decide
    · simpa using hdsp
    · simp only [List.singleton_append, List.head?_cons, Option.mem_def, Option.some.injEq,
        forall_eq']
      decide
  have hd : d.isDigit = true := hdig d List.mem_cons_self
  simp only [List.cons_append] at htake hdrop
  unfold sscanfUnsigned
  rw [hblank]
  rcases hsign with ⟨rfl, rfl⟩ | ⟨rfl, rfl | rfl⟩
  · simp only [List.cons_append, List.nil_append, reduceCtorEq, ite_false, htake, hdrop]
    split_ifs <;> rfl
  · -- no sign: the first character is the digit, neither `-` nor `+`
    simp only [List.nil_append, List.cons_append, reduceCtorEq, ite_false]
    split
    · rename_i heq
      exact absurd (List.cons.inj heq).1 hdm
    · rename_i heq
      exact absurd (List.cons.inj heq).1 hdp
    · simp only [htake, hdrop, reduceCtorEq, ite_false]
      split_ifs <;> rfl
  · simp only [List.cons_append, List.nil_append, reduceCtorEq, ite_false, htake, hdrop]
    split_ifs <;> rfl

/-- The head of what `dropWhile` leaves fails its predicate. -/
theorem head_dropWhile {p : Char → Bool} (l : List Char) :
    ∀ c ∈ (l.dropWhile p).head?, p c = false := by
  intro c hc
  have hne : l.dropWhile p ≠ [] := List.ne_nil_of_mem (List.mem_of_mem_head? hc)
  rw [List.head?_eq_some_head hne, Option.mem_def, Option.some.injEq] at hc
  rw [← hc]
  simpa using List.head_dropWhile_not p hne

/-- A value cut where `sscanf` cuts it, the blanks, a sign and digits first, `ScansAs` the digits
and what follows them. -/
theorem scansAs_of_cut {v sign t : List Char} {neg : Bool} (hcut : v.dropWhile isSpace = sign ++ t)
    (hsign : neg = true ∧ sign = ['-'] ∨ neg = false ∧ (sign = [] ∨ sign = ['+']))
    (hds : t.takeWhile Char.isDigit ≠ []) :
    ScansAs v neg (t.takeWhile Char.isDigit) (t.dropWhile Char.isDigit) := by
  refine ⟨v.takeWhile isSpace, sign, ?_, fun c hc => List.mem_takeWhile_imp hc, hsign, hds,
    fun c hc => List.mem_takeWhile_imp hc, head_dropWhile t⟩
  rw [List.append_assoc, List.takeWhile_append_dropWhile, List.append_assoc, ← hcut,
    List.takeWhile_append_dropWhile]

/-- **`sscanf` converts exactly the values that `ScansAs` describes.** -/
theorem sscanfUnsigned_isSome_iff (bits : ℕ) (v : List Char) :
    (sscanfUnsigned bits v).2.isSome ↔ ∃ neg ds rest, ScansAs v neg ds rest := by
  constructor
  · intro h
    unfold sscanfUnsigned at h
    dsimp only at h
    rcases hs : v.dropWhile isSpace with _ | ⟨c, t⟩
    · rw [hs] at h
      simp at h
    · rw [hs] at h
      simp only [reduceCtorEq, ite_false] at h
      -- the three signs; in each, `sscanf` converted some digits after it
      split at h
      · rename_i t' heq
        exact ⟨true, _, _, scansAs_of_cut (hs.trans heq) (.inl ⟨rfl, rfl⟩)
          fun e => by simp [e] at h⟩
      · rename_i t' heq
        exact ⟨false, _, _, scansAs_of_cut (hs.trans heq) (.inr ⟨rfl, .inr rfl⟩)
          fun e => by simp [e] at h⟩
      · exact ⟨false, _, _, @scansAs_of_cut v [] (c :: t) false hs (.inr ⟨rfl, .inl rfl⟩)
          fun e => by simp [e] at h⟩
  · rintro ⟨neg, ds, rest, h⟩
    rw [sscanfUnsigned_of_scansAs bits h]
    rfl

/-- Without a number `sscanf` makes no conversion: it returns `0` or `EOF`. -/
theorem sscanfUnsigned_fst_of_none {bits : ℕ} {v : List Char}
    (h : (sscanfUnsigned bits v).2 = none) : (sscanfUnsigned bits v).1 ≠ 1 := by
  revert h
  unfold sscanfUnsigned
  dsimp only
  split_ifs <;> simp

/-! ### A number key -/

/-- What a number key does with the value `val`, the result being `r`: a numeral followed by
white space only is accepted, and the field gets its `strtoul` value narrowed to `bits` bits; a
numeral followed by anything else is refused with `-EINVAL`, the field set all the same; a value
with no numeral is refused and changes nothing. -/
def NumberSpec (bits : ℕ) (val : List Char) (set : ℕ → ProxyConf) (conf : ProxyConf)
    (r : ℤ × ProxyConf) : Prop :=
  (∃ neg ds rest, ScansAs val neg ds rest ∧
    r = (if ∀ c ∈ rest, isSpace c = true then 0 else -EINVAL,
      set (strtoulValue neg (decimalValue ds) % 2 ^ bits))) ∨
  ((∀ neg ds rest, ¬ ScansAs val neg ds rest) ∧ r = (-EINVAL, conf))

/-- **A number key, on every value.** -/
theorem confNumber_spec (bits : ℕ) (val : List Char) (set : ℕ → ProxyConf)
    (conf : ProxyConf) :
    NumberSpec bits val set conf (confNumber bits val set conf) := by
  by_cases hs : ∃ neg ds rest, ScansAs val neg ds rest
  · -- a numeral: `sscanf` stores it, and counts `%1s` if anything but blanks follows it
    obtain ⟨neg, ds, rest, h⟩ := hs
    refine .inl ⟨neg, ds, rest, h, ?_⟩
    unfold confNumber
    rw [sscanfUnsigned_of_scansAs bits h]
    by_cases hr : ∀ c ∈ rest, isSpace c = true
    · rw [if_pos (List.dropWhile_eq_nil_iff.2 hr), if_pos hr]
      rfl
    · rw [if_neg (mt List.dropWhile_eq_nil_iff.1 hr), if_neg hr]
      rfl
  · -- no numeral: nothing stored, and no conversion
    refine .inr ⟨fun neg ds rest h => hs ⟨neg, ds, rest, h⟩, ?_⟩
    have hnone : (sscanfUnsigned bits val).2 = none :=
      Option.not_isSome_iff_eq_none.1 fun h => hs ((sscanfUnsigned_isSome_iff bits val).1 h)
    have hne := sscanfUnsigned_fst_of_none hnone
    unfold confNumber
    rcases hr : sscanfUnsigned bits val with ⟨k, x⟩
    rw [hr] at hnone hne
    subst hnone
    simp [hne]

/-- **The two number keys, on every value**: `Port` and `ConnectionTimeout` accept every numeral
followed by white space, signed or not and whatever its size, and store its `strtoul` value
narrowed to 16 and to 32 bits; a numeral followed by anything else is refused but stored; any
other value is refused and leaves the field as it was. -/
theorem conf_number_values (val : List Char) (n : ℕ) (conf : ProxyConf) :
    NumberSpec 16 val (fun p => { conf with port := p.toUInt16 }) conf
        (confParsePair "Port".toList val n conf) ∧
      NumberSpec 32 val (fun t => { conf with connectionTimeout := t.toUInt32 }) conf
        (confParsePair "ConnectionTimeout".toList val n conf) :=
  ⟨confNumber_spec 16 val _ conf, confNumber_spec 32 val _ conf⟩

/-- Out of range, signed, and followed by a letter: `Port=70000` is accepted as port `4464`,
`Port=-1` as `65535`, `Port=80x` is refused with the port set to `80`, and
`ConnectionTimeout=4294967296` is accepted as `0`. -/
theorem confParseLine_number_unchecked :
    confParseLine "Port=70000".toList confInit = (0, { confInit with port := 4464 }) ∧
      confParseLine "Port=-1".toList confInit = (0, { confInit with port := 65535 }) ∧
      confParseLine "Port=80x".toList confInit = (-EINVAL, { confInit with port := 80 }) ∧
      confParseLine "ConnectionTimeout=4294967296".toList confInit =
        (0, { confInit with connectionTimeout := 0 }) := by
  decide

/-- The value `-1`, for both keys. -/
theorem conf_number_values_minus_one :
    NumberSpec 16 "-1".toList (fun p => { confInit with port := p.toUInt16 }) confInit
        (confParsePair "Port".toList "-1".toList 2 confInit) ∧
      NumberSpec 32 "-1".toList (fun t => { confInit with connectionTimeout := t.toUInt32 })
        confInit (confParsePair "ConnectionTimeout".toList "-1".toList 2 confInit) :=
  conf_number_values "-1".toList 2 confInit

end OpenElp
