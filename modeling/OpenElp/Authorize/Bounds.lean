import OpenElp.Authorize
import OpenElp.Data.Buf

/-!
# The arrays of `proxy_worker_authorize`

`proxyWorkerAuthorize` reads and writes its buffer as a function on every offset, so nothing in
it can go out of bounds.  Here the buffer is the array it is, `uint8_t buff[28]`, and
`pw->callsign` the array `char callsign[12]`: each access of the source is a load or a store
(`Buf`) that fails outside its array, and `strcpy` is `Buf.strcpy?`.  A read of the client
stream stores what it read before its result is checked, as `conn_recv` does.

* `scanNewline?_eq`, `responseMatches?_eq` : on arrays long enough, the two loops never leave
  them and compute what the loops of `proxyWorkerAuthorize` compute;
* `strcpy?_callsign` : the NUL over the newline ends a string of at most ten bytes, which
  `strcpy` stores with its NUL into `callsign[12]`;
* `proxyWorkerAuthorize?_eq` : **every access of `proxy_worker_authorize` stays inside
  `buff[28]`, `callsign[12]` and `response[16]`**, whatever the client sends, and the result is
  the one `proxyWorkerAuthorize` gives; `pw->callsign` is left as it was, or holds at most ten
  bytes and their NUL;
* `proxyWorkerAuthorize_reads` : **the handshake reads at most 27 bytes** of the stream.
-/

namespace OpenElp

variable {Re : Type}

/-! ### The two loops on arrays -/

/-- `while (idx < 11 && buff[idx] != '\n') idx++;`, each `buff[idx]` a load from the array. -/
def scanNewline? (buff : List UInt8) (idx : ℕ) : Option ℕ :=
  if idx < 11 then
    match buff[idx]? with
    | some b => if b ≠ 10 then scanNewline? buff (idx + 1) else some idx
    | none => none
  else some idx
termination_by 11 - idx

/-- The comparison loop, `response[j]` against `buff[idx]` with `idx` and `j` going up together;
the first difference ends it with `false`. -/
def responseMatches? (response buff : List UInt8) (idx j : ℕ) : Option Bool :=
  if j < proxyPassResLen then
    match response[j]?, buff[idx]? with
    | some r, some b => if r ≠ b then some false else responseMatches? response buff (idx + 1) (j + 1)
    | _, _ => none
  else some true
termination_by proxyPassResLen - j

/-- The scan never leaves an array of eleven bytes or more, and finds what `scanNewline` finds. -/
theorem scanNewline?_eq {buff : List UInt8} (hlen : 11 ≤ buff.length) (idx : ℕ) :
    scanNewline? buff idx = some (scanNewline (fun i => buff.getD i 0) idx) := by
  fun_induction scanNewline? buff idx with
  | case1 idx hidx b hb hnl ih =>
    rw [ih, Option.some.injEq, eq_comm, scanNewline,
      if_pos ⟨hidx, by simpa [List.getD_eq_getElem?_getD, hb]⟩]
  | case2 idx hidx b hb hnl =>
    rw [scanNewline, if_neg (by simp [List.getD_eq_getElem?_getD, hb, hnl])]
  | case3 idx hidx hb =>
    rw [List.getElem?_eq_none_iff] at hb
    omega
  | case4 idx hidx =>
    rw [scanNewline, if_neg (fun h => hidx h.1)]

/-- The comparison from `j` on: the loop never leaves the arrays, and says whether the rest of
the response agrees with the buffer. -/
theorem responseMatches?_eq {response buff : List UInt8} {idx : ℕ} (hr : response.length = 16)
    (hb : idx + 16 ≤ buff.length) :
    ∀ j ≤ 16, responseMatches? response buff (idx + j) j =
      some (decide (∀ k, j ≤ k → k < 16 → response.getD k 0 = buff.getD (idx + k) 0)) := by
  intro j hj
  induction h : 16 - j generalizing j with
  | zero =>
    -- the loop has compared all sixteen bytes
    obtain rfl : j = 16 := by omega
    rw [responseMatches?, if_neg (by simp [proxyPassResLen]), Option.some.injEq, eq_comm,
      decide_eq_true_eq]
    intro k h₁ h₂
    omega
  | succ d ih =>
    have hr' : response[j]? = some (response.getD j 0) := by
      rw [List.getD_eq_getElem _ _ (by omega), List.getElem?_eq_getElem (by omega)]
    have hb' : buff[idx + j]? = some (buff.getD (idx + j) 0) := by
      rw [List.getD_eq_getElem _ _ (by omega), List.getElem?_eq_getElem (by omega)]
    rw [responseMatches?, if_pos (by simp [proxyPassResLen]; omega), hr', hb']
    simp only
    by_cases heq : response.getD j 0 = buff.getD (idx + j) 0
    · -- the byte agrees: the loop goes on, and the rest decides
      rw [if_neg (not_not.2 heq), show idx + j + 1 = idx + (j + 1) by omega,
        ih (j + 1) (by omega) (by omega)]
      simp only [Option.some.injEq, decide_eq_decide]
      constructor
      · intro hall k h₁ h₂
        rcases Nat.eq_or_lt_of_le h₁ with rfl | hlt
        · exact heq
        · exact hall k hlt h₂
      · exact fun hall k h₁ h₂ => hall k (by omega) h₂
    · -- the first difference
      rw [if_pos heq]
      simp only [Option.some.injEq, Bool.false_eq, decide_eq_false_iff_not, not_forall]
      exact ⟨j, le_rfl, by omega, heq⟩

/-- The comparison of `proxyWorkerAuthorize`, stated as the loop's answer from `j = 0`. -/
theorem responseMatches_eq_decide (response : List UInt8) (buff : ℕ → UInt8) (idx : ℕ) :
    responseMatches response buff idx =
      decide (∀ k : ℕ, 0 ≤ k → k < 16 → response.getD k 0 = buff (idx + k)) := by
  rw [responseMatches, Bool.eq_iff_iff, List.all_eq_true, decide_eq_true_eq]
  simp [proxyPassResLen]

/-! ### `proxy_worker_authorize` on its arrays -/

/-- The end of `proxy_worker_authorize` once the comparison loop has said whether the response
matches: the reply to a bad password or to a callsign refused, or `0`. -/
def authorizeVerdictOf (matched : Bool) (pol : CallsignPolicy Re) (callsign : List UInt8)
    (l : Link) : AuthResult :=
  if !matched then
    match connSend l msgBadPw with
    | (ret, l) => ⟨if ret < 0 then ret else -EACCES, callsign, l⟩
  else if proxyAuthorizeCallsign pol callsign ≠ 1 then
    match connSend l (msgBadAuth.take msgBadPw.length) with
    | (ret, l) => ⟨if ret < 0 then ret else -EACCES, callsign, l⟩
  else ⟨0, callsign, l⟩

theorem authorizeVerdict_eq_of (response : List UInt8) (pol : CallsignPolicy Re)
    (callsign : List UInt8) (buff : ℕ → UInt8) (idx : ℕ) (l : Link) :
    authorizeVerdict response pol callsign buff idx l =
      authorizeVerdictOf (responseMatches response buff idx) pol callsign l := rfl

/-- The string an array of characters holds: its bytes before the first NUL. -/
def cString (s : List UInt8) : List UInt8 := s.takeWhile (· ≠ 0)

/-- `proxy_worker_authorize` on its arrays: `stack` is `buff` before the first read (what the
stack held) and `callsign` the array `pw->callsign`.  It gives the result, with `pw->callsign`
as a string, and the array after; `none` when an access leaves its array. -/
def proxyWorkerAuthorize? (digest : List UInt8 → Vector UInt8 16) (pol : CallsignPolicy Re)
    (password : List UInt8) (nonce : UInt32) (stack callsign : List UInt8) (l : Link) :
    Option (AuthResult × List UInt8) :=
  let response := getPasswordResponse digest nonce password
  match connSend l (digestToHex32 nonce) with
  | (ret, l) =>
  if ret < 0 then some (⟨ret, cString callsign, l⟩, callsign) else
  match connRecv l 16 with
  | (ret, bytes, l) =>
  (Buf.store? stack 0 bytes).bind fun buff =>
  if ret < 0 then some (⟨ret, cString callsign, l⟩, callsign) else
  (scanNewline? buff 0).bind fun idx =>
  if idx ≥ 11 then some (⟨-EINVAL, cString callsign, l⟩, callsign) else
  -- `buff[idx] = '\0'; strcpy(pw->callsign, (char *)buff);`
  (Buf.store? buff idx [0]).bind fun buff =>
  (Buf.strcpy? callsign buff 0).bind fun callsign =>
  match connRecv l (idx + 1) with
  | (ret, bytes, l) =>
  (Buf.store? buff 16 bytes).bind fun buff =>
  if ret < 0 then some (⟨ret, cString callsign, l⟩, callsign) else
  (responseMatches? response buff (idx + 1) 0).bind fun matched =>
  some (authorizeVerdictOf matched pol (cString callsign) l, callsign)

/-- A store into an array, read at every offset with `0` outside it, is `writeAt`. -/
theorem getD_store?_eq_writeAt {b b' : List UInt8} {o : ℕ} {xs : List UInt8}
    (h : Buf.store? b o xs = some b') : (fun i => b'.getD i 0) = writeAt (fun i => b.getD i 0) o xs :=
  funext fun i => Buf.getD_store? h 0 i

/-- The string before a NUL at offset `k` is at most `k` bytes. -/
theorem length_cString_le {s : List UInt8} {k : ℕ} (hk : k < s.length) (h0 : s[k] = 0) :
    (cString s).length ≤ k := by
  by_contra hlt
  have hpre := List.takeWhile_prefix (· ≠ 0) (l := s)
  have hmem : s[k] ∈ cString s := by
    rw [← hpre.getElem (by simp [cString] at hlt ⊢; omega)]
    exact List.getElem_mem _
  simpa [h0] using List.all_eq_true.1 List.all_takeWhile _ hmem

/-- `strcpy` from a buffer with a NUL at offset `idx`, read through `strcpyFrom`. -/
theorem strcpyFrom_eq_cString {buff : List UInt8} {idx : ℕ} (hidx : idx < buff.length)
    (h0 : buff[idx] = 0) : strcpyFrom (fun i => buff.getD i 0) (idx + 1) = cString buff := by
  have hmap : (List.range (idx + 1)).map (fun i => buff.getD i 0) = buff.take (idx + 1) := by
    apply List.ext_getElem (by simp; omega)
    intro i h₁ h₂
    simp [List.getD_eq_getElem?_getD, List.getElem?_eq_getElem (show i < buff.length by
      simp at h₁; omega)]
  rw [strcpyFrom, hmap, ← List.take_takeWhile]
  exact List.take_of_length_le (Nat.le_succ_of_le (length_cString_le hidx h0))

/-- The string of an array that holds `c` and a NUL. -/
theorem cString_append_nul {c rest : List UInt8} (hc : 0 ∉ c) : cString (c ++ 0 :: rest) = c := by
  have hpos : ∀ a ∈ c, decide (a ≠ 0) = true := by
    intro a ha
    rw [decide_eq_true_eq]
    rintro rfl
    exact hc ha
  rw [cString, List.takeWhile_append_of_pos hpos]
  simp

/-- `buff[idx] = '\0'; strcpy(pw->callsign, (char *)buff);` for `idx` below 11: `strcpy` stores
into `callsign[12]` the string before that NUL and the NUL, and the string is the one
`strcpyFrom` reads, of at most ten bytes. -/
theorem strcpy?_callsign {buff₁ buff₂ callsign : List UInt8} {idx : ℕ} (hidx : idx < 11)
    (hlen : 11 ≤ buff₁.length) (hcall : callsign.length = 12)
    (hb : Buf.store? buff₁ idx [0] = some buff₂) :
    Buf.strcpy? callsign buff₂ 0 =
        some (cString buff₂ ++ 0 :: callsign.drop ((cString buff₂).length + 1)) ∧
      strcpyFrom (fun i => buff₂.getD i 0) (idx + 1) = cString buff₂ ∧
      (cString buff₂).length ≤ 10 ∧ 0 ∉ cString buff₂ := by
  have hidx₂ : idx < buff₂.length := by rw [Buf.length_store? hb]; omega
  -- the NUL over the newline ends the string
  have hnul : buff₂[idx] = 0 := by
    have h := Buf.getD_store? hb 0 idx
    rw [if_pos (by simp), List.getD_eq_getElem _ _ hidx₂] at h
    simpa using h
  have hclen := length_cString_le hidx₂ hnul
  have hcnul : 0 ∉ cString buff₂ := fun h => by
    simpa using List.all_eq_true.1 List.all_takeWhile _ h
  refine ⟨?_, strcpyFrom_eq_cString hidx₂ hnul, by omega, hcnul⟩
  have hin : 0 + ((buff₂.drop 0).takeWhile (· ≠ 0)).length < buff₂.length := by
    rw [List.drop_zero, Nat.zero_add]
    exact lt_of_le_of_lt hclen hidx₂
  rw [Buf.strcpy?_eq_store? buff₂ _ 0 callsign rfl hin, List.drop_zero]
  show Buf.store? callsign 0 (cString buff₂ ++ [0]) = _
  rw [Buf.store?_zero (by simp only [List.length_append, List.length_singleton]; omega)]
  simp

/-- **`proxy_worker_authorize` stays inside its arrays.**  For every stream the client sends, in
any chunking and with any failures, and whatever the stack held: every load and store of
`buff[28]`, `response[16]` and `pw->callsign[12]` lies inside its array, and the result is the one
`proxyWorkerAuthorize` gives.  `pw->callsign` is left as it was, or holds a callsign of at most
ten bytes and its NUL. -/
theorem proxyWorkerAuthorize?_eq (digest : List UInt8 → Vector UInt8 16) (pol : CallsignPolicy Re)
    (password : List UInt8) (nonce : UInt32) {stack callsign : List UInt8}
    (hstack : stack.length = 28) (hcall : callsign.length = 12) (l : Link) :
    ∃ callsign', proxyWorkerAuthorize? digest pol password nonce stack callsign l =
        some (proxyWorkerAuthorize digest pol password nonce (fun i => stack.getD i 0)
          (cString callsign) l, callsign') ∧
      (callsign' = callsign ∨
        ∃ c, c.length ≤ 10 ∧ 0 ∉ c ∧ callsign' = c ++ 0 :: callsign.drop (c.length + 1)) := by
  unfold proxyWorkerAuthorize? proxyWorkerAuthorize
  -- the nonce
  rcases connSend l (digestToHex32 nonce) with ⟨r₁, l₁⟩
  dsimp only
  by_cases h₁ : r₁ < 0
  · exact ⟨callsign, by rw [if_pos h₁, if_pos h₁], .inl rfl⟩
  rw [if_neg h₁, if_neg h₁]
  -- the first read: at most 16 bytes, at offset 0
  obtain ⟨-, hlen₁, -, -⟩ := connRecv_prefix l₁ 16
  rcases hr₁ : connRecv l₁ 16 with ⟨r₂, bytes₁, l₂⟩
  rw [hr₁] at hlen₁
  dsimp only at hlen₁ ⊢
  obtain ⟨buff₁, hb₁, hlen₁'⟩ :=
    Buf.store?_of_le (show 0 + bytes₁.length ≤ stack.length by omega)
  rw [hb₁, Option.bind_some, ← getD_store?_eq_writeAt hb₁]
  by_cases h₂ : r₂ < 0
  · exact ⟨callsign, by rw [if_pos h₂, if_pos h₂], .inl rfl⟩
  rw [if_neg h₂, if_neg h₂]
  -- the scan finds the newline at `idx`, or runs to 11
  rw [scanNewline?_eq (by omega), Option.bind_some]
  by_cases h₃ : scanNewline (fun i => buff₁.getD i 0) 0 ≥ 11
  · exact ⟨callsign, by rw [if_pos h₃, if_pos h₃], .inl rfl⟩
  rw [if_neg h₃, if_neg h₃]
  generalize scanNewline (fun i => buff₁.getD i 0) 0 = idx at h₃ ⊢
  have h₃' : idx < 11 := by omega
  -- the NUL over the newline
  obtain ⟨buff₂, hb₂, hlen₂⟩ :=
    Buf.store?_of_le (show idx + [(0 : UInt8)].length ≤ buff₁.length by
      simp only [List.length_singleton]; omega)
  rw [hb₂, Option.bind_some, ← getD_store?_eq_writeAt hb₂]
  -- `strcpy` copies the callsign before it and its NUL
  obtain ⟨hcpy, hfrom, hclen, hcnul⟩ := strcpy?_callsign h₃' (by omega) hcall hb₂
  rw [hcpy, Option.bind_some, hfrom, cString_append_nul hcnul]
  have hcopied : ∃ c, c.length ≤ 10 ∧ 0 ∉ c ∧
      cString buff₂ ++ 0 :: callsign.drop ((cString buff₂).length + 1) =
        c ++ 0 :: callsign.drop (c.length + 1) :=
    ⟨cString buff₂, hclen, hcnul, rfl⟩
  -- the second read: the `idx + 1` bytes still missing, at offset 16
  obtain ⟨-, hlen₃, -, -⟩ := connRecv_prefix l₂ (idx + 1)
  rcases hr₂ : connRecv l₂ (idx + 1) with ⟨r₃, bytes₂, l₃⟩
  rw [hr₂] at hlen₃
  dsimp only at hlen₃ ⊢
  obtain ⟨buff₃, hb₃, hlen₃'⟩ :=
    Buf.store?_of_le (show 16 + bytes₂.length ≤ buff₂.length by omega)
  rw [hb₃, Option.bind_some, ← getD_store?_eq_writeAt hb₃]
  by_cases h₄ : r₃ < 0
  · exact ⟨_, by rw [if_pos h₄, if_pos h₄], .inr hcopied⟩
  rw [if_neg h₄, if_neg h₄]
  -- the comparison reads `buff[idx + 1]` to `buff[idx + 16]`, at most `buff[27]`
  have hcmp := responseMatches?_eq (getPasswordResponse_length digest nonce password)
    (show idx + 1 + 16 ≤ buff₃.length by omega) 0 (by omega)
  rw [Nat.add_zero] at hcmp
  rw [hcmp, Option.bind_some, authorizeVerdict_eq_of, responseMatches_eq_decide]
  exact ⟨_, rfl, .inr hcopied⟩

/-! ### What the handshake reads -/

/-- The end of `proxy_worker_authorize` reads nothing more. -/
theorem authorizeVerdict_inbox (response : List UInt8) (pol : CallsignPolicy Re)
    (callsign : List UInt8) (buff : ℕ → UInt8) (idx : ℕ) (l : Link) :
    (authorizeVerdict response pol callsign buff idx l).link.inbox = l.inbox := by
  unfold authorizeVerdict
  split_ifs <;> simp

/-- **The handshake reads at most 27 bytes** of the client stream: 16, and then the `idx + 1`
still missing, `idx` being below 11; for every stream, chunking and failure. -/
theorem proxyWorkerAuthorize_reads (digest : List UInt8 → Vector UInt8 16)
    (pol : CallsignPolicy Re) (password : List UInt8) (nonce : UInt32) (stack : ℕ → UInt8)
    (callsign : List UInt8) (l : Link) :
    ∃ pre, l.inbox =
        pre ++ (proxyWorkerAuthorize digest pol password nonce stack callsign l).link.inbox ∧
      pre.length ≤ 27 := by
  unfold proxyWorkerAuthorize
  rcases hs : connSend l (digestToHex32 nonce) with ⟨r₁, l₁⟩
  have hl₁ : l₁.inbox = l.inbox := by simpa [hs] using connSend_inbox l (digestToHex32 nonce)
  dsimp only
  by_cases h₁ : r₁ < 0
  · exact ⟨[], by rw [if_pos h₁, hl₁, List.nil_append], by simp⟩
  rw [if_neg h₁]
  -- the first read takes at most 16 bytes
  obtain ⟨hpre₁, hlen₁, -, -⟩ := connRecv_prefix l₁ 16
  rcases hr₁ : connRecv l₁ 16 with ⟨r₂, bytes₁, l₂⟩
  rw [hr₁] at hpre₁ hlen₁
  dsimp only at hpre₁ hlen₁ ⊢
  rw [hl₁] at hpre₁
  by_cases h₂ : r₂ < 0
  · exact ⟨bytes₁, by rw [if_pos h₂]; exact hpre₁, by omega⟩
  rw [if_neg h₂]
  by_cases h₃ : scanNewline (writeAt stack 0 bytes₁) 0 ≥ 11
  · exact ⟨bytes₁, by rw [if_pos h₃]; exact hpre₁, by omega⟩
  rw [if_neg h₃]
  -- the second takes at most `idx + 1 ≤ 11`
  obtain ⟨hpre₂, hlen₂, -, -⟩ := connRecv_prefix l₂ (scanNewline (writeAt stack 0 bytes₁) 0 + 1)
  rcases hr₂ : connRecv l₂ (scanNewline (writeAt stack 0 bytes₁) 0 + 1) with ⟨r₃, bytes₂, l₃⟩
  rw [hr₂] at hpre₂ hlen₂
  dsimp only at hpre₂ hlen₂ ⊢
  have hpre : l.inbox = (bytes₁ ++ bytes₂) ++ l₃.inbox := by
    rw [hpre₁, hpre₂, List.append_assoc]
  have hlen : (bytes₁ ++ bytes₂).length ≤ 27 := by
    rw [List.length_append]
    omega
  by_cases h₄ : r₃ < 0
  · exact ⟨bytes₁ ++ bytes₂, by rw [if_pos h₄]; exact hpre, hlen⟩
  rw [if_neg h₄, authorizeVerdict_inbox]
  exact ⟨bytes₁ ++ bytes₂, hpre, hlen⟩

end OpenElp
