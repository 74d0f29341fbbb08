import OpenElp.Conn
import OpenElp.Digest

/-!
# The authentication handshake (`proxy_worker_authorize`, `proxy_client_connect`)

A client that has connected receives a nonce as eight hexadecimal digits and answers with its
callsign, a newline and a 16-byte password response, the digest of its password (lower-case
ASCII letters made upper-case) followed by the nonce's digits.  The proxy reads the answer
through a fixed first read of 16 bytes, finds the newline among the first eleven, reads the
`idx + 1` bytes still missing after them, and compares the response at offset `idx + 1` of its
28-byte buffer.

The digest (`digest_get`, MD5) and the callsign matcher (`regex_is_match`, PCRE2) are taken as
given functions.  The proxy's stack buffer is a function from offsets to bytes, starting with
whatever the stack held.

* `proxyWorkerAuthorize_answer`, `proxyClientConnect_spec` : what the two sides do on a stream
  delivered in any chunking.
* `handshake_agreement` : the handshake end to end.
-/

namespace OpenElp

/-! ### The password response -/

/-- `PROXY_PASS_RES_LEN`: the length of a password response (an MD5 digest). -/
def proxyPassResLen : ℕ := 16

/-- A password byte as `get_password_response` copies it: a lower-case ASCII letter becomes
upper-case. -/
def upcase (b : UInt8) : UInt8 :=
  if charVal b ≥ 97 ∧ charVal b ≤ 122 then b - 32 else b

/-- `get_password_response`: the digest of the password, made upper-case, followed by the
eight digits of the nonce. -/
def getPasswordResponse (digest : List UInt8 → Vector UInt8 16) (nonce : UInt32)
    (password : List UInt8) : List UInt8 :=
  (digest (password.map upcase ++ digestToHex32 nonce)).toList

theorem getPasswordResponse_length (digest : List UInt8 → Vector UInt8 16) (nonce : UInt32)
    (password : List UInt8) : (getPasswordResponse digest nonce password).length = 16 := by
  simp [getPasswordResponse]

/-- `upcase` on the value of a byte: a lower-case ASCII letter loses 32 and every other byte is
kept, the bytes above 127 being negative as a `char`. -/
theorem toNat_upcase : ∀ b : UInt8,
    (upcase b).toNat = if 97 ≤ b.toNat ∧ b.toNat ≤ 122 then b.toNat - 32 else b.toNat := by
  decide +kernel

/-- Two password bytes that differ at most in the case of an ASCII letter: equal, or a lower-case
letter and its upper-case form, either way round. -/
def SameIgnoringCase (a b : UInt8) : Prop :=
  a = b ∨ (97 ≤ a.toNat ∧ a.toNat ≤ 122 ∧ b.toNat + 32 = a.toNat) ∨
    (97 ≤ b.toNat ∧ b.toNat ≤ 122 ∧ a.toNat + 32 = b.toNat)

instance : DecidableRel SameIgnoringCase := fun a b =>
  inferInstanceAs (Decidable (a = b ∨ (97 ≤ a.toNat ∧ a.toNat ≤ 122 ∧ b.toNat + 32 = a.toNat) ∨
    (97 ≤ b.toNat ∧ b.toNat ≤ 122 ∧ a.toNat + 32 = b.toNat)))

theorem upcase_eq_of_sameIgnoringCase {a b : UInt8} (h : SameIgnoringCase a b) :
    upcase a = upcase b := by
  apply UInt8.toNat_inj.1
  rw [toNat_upcase, toNat_upcase]
  rcases h with rfl | ⟨h1, h2, h3⟩ | ⟨h1, h2, h3⟩
  · rfl
  · -- `a` is the lower-case letter; its upper-case form `b` is kept
    rw [if_pos ⟨h1, h2⟩, if_neg (by omega)]
    omega
  · rw [if_neg (by omega), if_pos ⟨h1, h2⟩]
    omega

theorem map_upcase_of_forall₂ {p q : List UInt8} (h : List.Forall₂ SameIgnoringCase p q) :
    p.map upcase = q.map upcase := by
  induction h with
  | nil => rfl
  | cons hab _ ih => rw [List.map_cons, List.map_cons, upcase_eq_of_sameIgnoringCase hab, ih]

/-- Passwords that differ only in the case of ASCII letters give the same response. -/
theorem getPasswordResponse_upcase (digest : List UInt8 → Vector UInt8 16) (nonce : UInt32)
    {p q : List UInt8} (h : List.Forall₂ SameIgnoringCase p q) :
    getPasswordResponse digest nonce p = getPasswordResponse digest nonce q := by
  rw [getPasswordResponse, getPasswordResponse, map_upcase_of_forall₂ h]

/-- `pass` and `PaSS` differ only in case. -/
example : List.Forall₂ SameIgnoringCase [112, 97, 115, 115] [80, 97, 83, 83] := by decide

/-! ### Which callsigns are admitted -/

/-- What `proxy_authorize_callsign` reads: the compiled `CallsignsDenied` and
`CallsignsAllowed` patterns when configured, and the matcher (`regex_is_match`: `1` for a
match, `0` for none, negative on an error). -/
structure CallsignPolicy (Re : Type) where
  /-- `regex_is_match`. -/
  isMatch : Re → List UInt8 → ℤ
  /-- `priv->re_calls_denied`. -/
  callsDenied : Option Re
  /-- `priv->re_calls_allowed`. -/
  callsAllowed : Option Re

variable {Re : Type}

/-- `proxy_authorize_callsign`: `0` when the denial pattern matches or fails to match, or when
the allowing pattern does anything but match; `1` otherwise. -/
def proxyAuthorizeCallsign (pol : CallsignPolicy Re) (callsign : List UInt8) : ℤ :=
  let denied : Bool := match pol.callsDenied with
    | some re => pol.isMatch re callsign ≠ 0
    | none => false
  let allowed : Bool := match pol.callsAllowed with
    | some re => pol.isMatch re callsign = 1
    | none => true
  if denied then 0 else if allowed then 1 else 0

/-- A callsign is admitted iff the denial pattern is absent or does not match it (an error
counts as a match) and the allowing pattern is absent or matches it. -/
theorem proxyAuthorizeCallsign_eq_one (pol : CallsignPolicy Re) (callsign : List UInt8) :
    proxyAuthorizeCallsign pol callsign = 1 ↔
      (∀ re, pol.callsDenied = some re → pol.isMatch re callsign = 0) ∧
      (∀ re, pol.callsAllowed = some re → pol.isMatch re callsign = 1) := by
  unfold proxyAuthorizeCallsign
  -- the allowing pattern decides once the denial pattern let the callsign through
  have hallow : ∀ ra : Option Re, ((if (match ra with
      | some re => decide (pol.isMatch re callsign = 1)
      | none => true) = true then (1 : ℤ) else 0) = 1 ↔
        ∀ re, ra = some re → pol.isMatch re callsign = 1) := by
    intro ra
    cases ra with
    | none => simp
    | some re => by_cases h : pol.isMatch re callsign = 1 <;> simp [h]
  cases hd : pol.callsDenied with
  | none => simpa using hallow pol.callsAllowed
  | some rd =>
    by_cases h0 : pol.isMatch rd callsign = 0
    · simpa [h0] using hallow pol.callsAllowed
    · simp [h0]

/-! ### The proxy's side -/

/-- The two replies of a failed authorization. -/
def msgBadPw : List UInt8 := [0x07, 0x00, 0x00, 0x00, 0x00, 0x01, 0x00, 0x00, 0x00, 0x01]

def msgBadAuth : List UInt8 := [0x07, 0x00, 0x00, 0x00, 0x00, 0x01, 0x00, 0x00, 0x00, 0x02]

/-- A `recv` into `buff` at `off`. -/
def writeAt (buff : ℕ → UInt8) (off : ℕ) (bytes : List UInt8) : ℕ → UInt8 :=
  fun i => if off ≤ i ∧ i < off + bytes.length then bytes.getD (i - off) 0 else buff i

/-- `while (idx < 11 && buff[idx] != '\n') idx++;` -/
def scanNewline (buff : ℕ → UInt8) (idx : ℕ) : ℕ :=
  if idx < 11 ∧ buff idx ≠ 10 then scanNewline buff (idx + 1) else idx
termination_by 11 - idx

/-- `strcpy` from a buffer whose first `len` bytes hold a NUL: the bytes before it. -/
def strcpyFrom (buff : ℕ → UInt8) (len : ℕ) : List UInt8 :=
  ((List.range len).map buff).takeWhile (· ≠ 0)

/-- The comparison loop: `response[j]` against `buff[idx + j]` for every `j`. -/
def responseMatches (response : List UInt8) (buff : ℕ → UInt8) (idx : ℕ) : Bool :=
  (List.range proxyPassResLen).all fun j => response.getD j 0 = buff (idx + j)

/-- What `proxy_worker_authorize` ends with: its return value, `pw->callsign` and the client
connection. -/
structure AuthResult where
  ret : ℤ
  callsign : List UInt8
  link : Link

/-- The end of `proxy_worker_authorize`: the response is compared at `idx`, then the callsign
is checked, and a failure of either is answered before `-EACCES` is returned. -/
def authorizeVerdict (response : List UInt8) (pol : CallsignPolicy Re) (callsign : List UInt8)
    (buff : ℕ → UInt8) (idx : ℕ) (l : Link) : AuthResult :=
  if !responseMatches response buff idx then
    match connSend l msgBadPw with
    | (ret, l) => ⟨if ret < 0 then ret else -EACCES, callsign, l⟩
  else if proxyAuthorizeCallsign pol callsign ≠ 1 then
    -- `sizeof(msg_bad_pw)` bytes of `msg_bad_auth`: the two have the same size
    match connSend l (msgBadAuth.take msgBadPw.length) with
    | (ret, l) => ⟨if ret < 0 then ret else -EACCES, callsign, l⟩
  else ⟨0, callsign, l⟩

/-- `proxy_worker_authorize`, after `get_nonce` drew `nonce`; `password` is
`ph->conf.password`, `stack` what `buff` holds before the first read, `callsign` what
`pw->callsign` held. -/
def proxyWorkerAuthorize (digest : List UInt8 → Vector UInt8 16) (pol : CallsignPolicy Re)
    (password : List UInt8) (nonce : UInt32) (stack : ℕ → UInt8) (callsign : List UInt8)
    (l : Link) : AuthResult :=
  let response := getPasswordResponse digest nonce password
  -- send the nonce
  match connSend l (digestToHex32 nonce) with
  | (ret, l) =>
  if ret < 0 then ⟨ret, callsign, l⟩ else
  -- look for the callsign's newline in the first 16 bytes
  match connRecv l 16 with
  | (ret, bytes, l) =>
  if ret < 0 then ⟨ret, callsign, l⟩ else
  let buff := writeAt stack 0 bytes
  let idx := scanNewline buff 0
  if idx ≥ 11 then ⟨-EINVAL, callsign, l⟩ else
  let buff := writeAt buff idx [0]
  let callsign := strcpyFrom buff (idx + 1)
  -- the rest of the response
  match connRecv l (idx + 1) with
  | (ret, bytes, l) =>
  if ret < 0 then ⟨ret, callsign, l⟩ else
  authorizeVerdict response pol callsign (writeAt buff 16 bytes) (idx + 1) l

theorem writeAt_of_mem {buff : ℕ → UInt8} {off i : ℕ} {bytes : List UInt8}
    (h : off ≤ i ∧ i < off + bytes.length) : writeAt buff off bytes i = bytes.getD (i - off) 0 :=
  if_pos h

theorem writeAt_of_not_mem {buff : ℕ → UInt8} {off i : ℕ} {bytes : List UInt8}
    (h : ¬ (off ≤ i ∧ i < off + bytes.length)) : writeAt buff off bytes i = buff i :=
  if_neg h

/-- The scan stops at the first newline before offset 11. -/
theorem scanNewline_eq {buff : ℕ → UInt8} {k : ℕ} (hk : k < 11) (hnl : buff k = 10) :
    ∀ idx, idx ≤ k → (∀ i, idx ≤ i → i < k → buff i ≠ 10) → scanNewline buff idx = k := by
  suffices h : ∀ d idx, k - idx = d → idx ≤ k → (∀ i, idx ≤ i → i < k → buff i ≠ 10) →
      scanNewline buff idx = k from fun idx => h _ idx rfl
  intro d
  induction d with
  | zero =>
    intro idx hd hle _
    obtain rfl : idx = k := by omega
    rw [scanNewline, if_neg (fun h => h.2 hnl)]
  | succ d ih =>
    intro idx hd hle hno
    rw [scanNewline, if_pos ⟨by omega, hno idx le_rfl (by omega)⟩]
    exact ih (idx + 1) (by omega) (by omega) fun i h₁ h₂ => hno i (by omega) h₂

/-- Without a newline before offset 11 the scan runs to 11. -/
theorem scanNewline_eleven {buff : ℕ → UInt8} (hno : ∀ i < 11, buff i ≠ 10) :
    ∀ idx, idx ≤ 11 → scanNewline buff idx = 11 := by
  suffices h : ∀ d idx, 11 - idx = d → idx ≤ 11 → scanNewline buff idx = 11 from
    fun idx => h _ idx rfl
  intro d
  induction d with
  | zero =>
    intro idx hd hle
    obtain rfl : idx = 11 := by omega
    rw [scanNewline, if_neg (fun h => absurd h.1 (by omega))]
  | succ d ih =>
    intro idx hd hle
    rw [scanNewline, if_pos ⟨by omega, hno idx (by omega)⟩]
    exact ih (idx + 1) (by omega) (by omega)

/-- `strcpy` of a callsign without NUL, followed in the buffer by the NUL written over its
newline. -/
theorem strcpyFrom_callsign {buff : ℕ → UInt8} {c : List UInt8} (hnul : 0 ∉ c)
    (hbuff : ∀ i < c.length, buff i = c.getD i 0) :
    strcpyFrom (writeAt buff c.length [0]) (c.length + 1) = c := by
  have hpre : (List.range c.length).map (writeAt buff c.length [0]) = c := by
    apply List.ext_getElem (by simp)
    intro i h₁ h₂
    simp only [List.getElem_map, List.getElem_range]
    rw [writeAt_of_not_mem (by simp at h₁ ⊢; omega), hbuff i h₂, List.getD_eq_getElem _ _ h₂]
  have hlast : writeAt buff c.length [0] c.length = 0 := by
    rw [writeAt_of_mem (by simp)]
    simp
  rw [strcpyFrom, List.range_succ, List.map_append, hpre, List.takeWhile_append_of_pos]
  · simp [hlast]
  · intro a ha
    have : a ≠ 0 := fun h => hnul (h ▸ ha)
    simpa using this

/-- The response check compares exactly the 16 bytes that follow the newline. -/
theorem responseMatches_iff {response r : List UInt8} {buff : ℕ → UInt8} {idx : ℕ}
    (hresp : response.length = 16) (hr : r.length = 16)
    (hbuff : ∀ j < 16, buff (idx + j) = r.getD j 0) :
    responseMatches response buff idx = true ↔ response = r := by
  simp only [responseMatches, proxyPassResLen, List.all_eq_true, List.mem_range,
    decide_eq_true_eq]
  constructor
  · intro h
    apply List.ext_getElem (by omega)
    intro j h₁ h₂
    have := h j (by omega)
    rw [hbuff j (by omega), List.getD_eq_getElem _ _ h₁, List.getD_eq_getElem _ _ h₂] at this
    exact this
  · rintro rfl j hj
    rw [hbuff j hj]

/-- A `recv` of the stream's bytes from `off` on, into the buffer at `off`, puts there the
stream's bytes. -/
theorem writeAt_drop_take {buff : ℕ → UInt8} {s : List UInt8} {off k i : ℕ} (h₁ : off ≤ i)
    (h₂ : i < off + k) (h₃ : i < s.length) :
    writeAt buff off ((s.drop off).take k) i = s.getD i 0 := by
  rw [writeAt_of_mem ⟨h₁, by simp; omega⟩]
  have hi : off + (i - off) = i := by omega
  simp [List.getD_eq_getElem?_getD, List.getElem?_drop, hi,
    show i - off < k by omega]

/-- The first `recv`, of `n` bytes at offset 0. -/
theorem writeAt_take {buff : ℕ → UInt8} {s : List UInt8} {n i : ℕ} (h₁ : i < n)
    (h₂ : i < s.length) : writeAt buff 0 (s.take n) i = s.getD i 0 := by
  have h := @writeAt_drop_take buff s 0 n i (Nat.zero_le i) (by omega) h₂
  rwa [List.drop_zero] at h

/-- What the verdict does on an open connection whose `send` takes the reply whole. -/
theorem authorizeVerdict_spec (response : List UInt8) (pol : CallsignPolicy Re)
    (callsign : List UInt8) (buff : ℕ → UInt8) (idx : ℕ) {l : Link} (ho : l.isOpen = true)
    (hs : l.sendCalls = []) :
    let res := authorizeVerdict response pol callsign buff idx l
    res.callsign = callsign ∧ res.link.inbox = l.inbox ∧ l.outbox <+: res.link.outbox ∧
      (res.ret = 0 ↔ responseMatches response buff idx = true ∧
        proxyAuthorizeCallsign pol callsign = 1) := by
  intro res
  unfold res authorizeVerdict
  cases hm : responseMatches response buff idx
  · simp [connSend_whole _ ho hs, EACCES]
  · by_cases ha : proxyAuthorizeCallsign pol callsign = 1
    · simp [ha]
    · simp [ha, connSend_whole _ ho hs, EACCES]

/-- **What the proxy does with an answer** `c ++ "\n" ++ r` of a callsign of at most ten bytes
(neither newline nor NUL) and 16 more bytes, delivered in any chunking: it sends the nonce,
consumes exactly `|c| + 17` bytes, sets `pw->callsign` to `c`, and returns `0` iff `r` is its
own response and the callsign is admitted. -/
theorem proxyWorkerAuthorize_answer (digest : List UInt8 → Vector UInt8 16)
    (pol : CallsignPolicy Re) (password : List UInt8) (nonce : UInt32) (stack : ℕ → UInt8)
    (callsign : List UInt8) {l : Link} {c r rest : List UInt8} (ho : l.isOpen = true)
    (hs : l.sendCalls = []) (hc : IsChunking l.recvCalls) (hin : l.inbox = c ++ 10 :: (r ++ rest))
    (hr : r.length = 16) (hlen : c.length ≤ 10) (hnl : 10 ∉ c) (hnul : 0 ∉ c) :
    let res := proxyWorkerAuthorize digest pol password nonce stack callsign l
    res.callsign = c ∧ res.link.inbox = rest ∧ l.outbox ++ digestToHex32 nonce <+: res.link.outbox ∧
      (res.ret = 0 ↔ r = getPasswordResponse digest nonce password ∧
        proxyAuthorizeCallsign pol c = 1) := by
  intro res
  -- the stream holds the callsign, its newline and the response
  have hslen : l.inbox.length = c.length + 17 + rest.length := by simp [hin, hr]; omega
  have hs_c : ∀ i < c.length, l.inbox.getD i 0 = c.getD i 0 := fun i hi => by
    rw [hin, List.getD_append _ _ _ _ hi]
  have hs_nl : l.inbox.getD c.length 0 = 10 := by
    rw [hin, List.getD_append_right _ _ _ _ le_rfl]
    simp
  have hs_r : ∀ j < 16, l.inbox.getD (c.length + 1 + j) 0 = r.getD j 0 := fun j hj => by
    rw [hin, List.getD_append_right _ _ _ _ (by omega)]
    simp [show c.length + 1 + j - c.length = j + 1 by omega,
      List.getElem?_append_left (show j < r.length by omega)]
  -- the first read: 16 bytes at offset 0, holding the callsign and its newline
  obtain ⟨cs, hrecv₁, hcs⟩ := connRecv_chunks
    (l := { l with outbox := l.outbox ++ digestToHex32 nonce }) (n := 16) ho hc (by simp; omega)
  have hbuff₁ : ∀ i < 16, writeAt stack 0 (l.inbox.take 16) i = l.inbox.getD i 0 :=
    fun i hi => writeAt_take hi (by omega)
  have hidx : scanNewline (writeAt stack 0 (l.inbox.take 16)) 0 = c.length := by
    refine scanNewline_eq (by omega) (by rw [hbuff₁ _ (by omega), hs_nl]) 0 (Nat.zero_le _) ?_
    intro i _ hi
    rw [hbuff₁ i (by omega), hs_c i hi, List.getD_eq_getElem _ _ hi]
    exact fun h => hnl (h ▸ List.getElem_mem hi)
  have hcall : strcpyFrom (writeAt (writeAt stack 0 (l.inbox.take 16)) c.length [0])
      (c.length + 1) = c :=
    strcpyFrom_callsign hnul fun i hi => by rw [hbuff₁ i (by omega), hs_c i hi]
  -- the second read: the `|c| + 1` bytes still missing, at offset 16
  obtain ⟨cs', hrecv₂, -⟩ := connRecv_chunks
    (l := { l with
      outbox := l.outbox ++ digestToHex32 nonce, inbox := l.inbox.drop 16, recvCalls := cs })
    (n := c.length + 1) ho hcs (by simp; omega)
  have hbuff₂ : ∀ j < 16, writeAt (writeAt (writeAt stack 0 (l.inbox.take 16)) c.length [0]) 16
      ((l.inbox.drop 16).take (c.length + 1)) (c.length + 1 + j) = r.getD j 0 := by
    intro j hj
    rw [← hs_r j hj]
    by_cases hlo : c.length + 1 + j < 16
    · rw [writeAt_of_not_mem (by omega),
        writeAt_of_not_mem (by simp only [List.length_singleton]; omega), hbuff₁ _ hlo]
    · exact writeAt_drop_take (by omega) (by omega) (by omega)
  have h11 : ¬ c.length ≥ 11 := by omega
  have hres : res = authorizeVerdict (getPasswordResponse digest nonce password) pol c
      (writeAt (writeAt (writeAt stack 0 (l.inbox.take 16)) c.length [0]) 16
        ((l.inbox.drop 16).take (c.length + 1))) (c.length + 1)
      { l with
        outbox := l.outbox ++ digestToHex32 nonce, inbox := (l.inbox.drop 16).drop (c.length + 1),
        recvCalls := cs' } := by
    simp only [res, proxyWorkerAuthorize, connSend_whole _ ho hs, hrecv₁, hrecv₂, hidx, hcall]
    -- no read failed and the newline was found
    rw [if_neg (lt_irrefl 0), if_neg (by omega), if_neg h11, if_neg (by omega)]
  -- the two reads took the callsign line and the response, and left `rest`
  have hrest : (l.inbox.drop 16).drop (c.length + 1) = rest := by
    rw [List.drop_drop, hin, show c ++ 10 :: (r ++ rest) = (c ++ 10 :: r) ++ rest by simp]
    exact List.drop_left' (by simp [hr]; omega)
  obtain ⟨hcall', hinbox, hpre, hret⟩ := authorizeVerdict_spec
    (getPasswordResponse digest nonce password) pol c _ (c.length + 1) (l := { l with
      outbox := l.outbox ++ digestToHex32 nonce, inbox := (l.inbox.drop 16).drop (c.length + 1),
      recvCalls := cs' }) ho hs
  rw [hres]
  refine ⟨hcall', hinbox.trans hrest, hpre, ?_⟩
  rw [hret, responseMatches_iff (getPasswordResponse_length digest nonce password) hr hbuff₂,
    eq_comm]

/-- **A callsign line without a newline in its first eleven bytes is refused** with
`-EINVAL`, once the first 16 bytes have come in any chunking. -/
theorem proxyWorkerAuthorize_long (digest : List UInt8 → Vector UInt8 16)
    (pol : CallsignPolicy Re) (password : List UInt8) (nonce : UInt32) (stack : ℕ → UInt8)
    (callsign : List UInt8) {l : Link} (ho : l.isOpen = true) (hs : l.sendCalls = [])
    (hc : IsChunking l.recvCalls) (h16 : 16 ≤ l.inbox.length)
    (hno : ∀ i < 11, l.inbox.getD i 0 ≠ 10) :
    (proxyWorkerAuthorize digest pol password nonce stack callsign l).ret = -EINVAL := by
  obtain ⟨cs, hrecv₁, -⟩ := connRecv_chunks
    (l := { l with outbox := l.outbox ++ digestToHex32 nonce }) (n := 16) ho hc h16
  -- the scan runs off the eleven bytes a callsign line may take
  have hidx : scanNewline (writeAt stack 0 (l.inbox.take 16)) 0 = 11 := by
    refine scanNewline_eleven (fun i hi => ?_) 0 (by omega)
    rw [writeAt_take (by omega) (by omega)]
    exact hno i hi
  simp only [proxyWorkerAuthorize, connSend_whole _ ho hs, hrecv₁, hidx]
  rw [if_neg (lt_irrefl 0), if_neg (by omega), if_pos (le_refl 11)]

/-! ### The client's side -/

/-- What `proxy_client_connect` ends with: its return value, the nonce it decoded and the
connection. -/
structure ConnectResult where
  ret : ℤ
  nonce : UInt32
  link : Link

/-- `proxy_client_connect` once `conn_connect` succeeded; a failure closes the connection. -/
def proxyClientConnect (digest : List UInt8 → Vector UInt8 16) (callsign : Option (List UInt8))
    (password : Option (List UInt8)) (l : Link) : ConnectResult :=
  let password := password.getD ("PUBLIC".toList.map Char.toUInt8)
  match connRecv l 8 with
  | (ret, nonceStr, l) =>
  if ret < 0 then ⟨ret, 0, { l with isOpen := false }⟩ else
  let nonce := hex32ToDigest nonceStr
  let response := getPasswordResponse digest nonce password
  -- send the callsign, a newline and the response
  match (match callsign with
    | some c => connSend l c
    | none => (0, l)) with
  | (ret, l) =>
  if ret < 0 then ⟨ret, nonce, { l with isOpen := false }⟩ else
  match connSend l [10] with
  | (ret, l) =>
  if ret < 0 then ⟨ret, nonce, { l with isOpen := false }⟩ else
  match connSend l response with
  | (ret, l) =>
  if ret < 0 then ⟨ret, nonce, { l with isOpen := false }⟩ else ⟨0, nonce, l⟩

/-- **What the client does** on a stream that starts with the eight digits of `n`, delivered in
any chunking, when `send` takes each buffer whole: it decodes `n`, answers with its callsign, a
newline and its response, and returns `0`. -/
theorem proxyClientConnect_spec (digest : List UInt8 → Vector UInt8 16) (c p : List UInt8)
    {l : Link} {n : UInt32} {later : List UInt8} (ho : l.isOpen = true) (hs : l.sendCalls = [])
    (hc : IsChunking l.recvCalls) (hin : l.inbox = digestToHex32 n ++ later) :
    let res := proxyClientConnect digest (some c) (some p) l
    res.ret = 0 ∧ res.nonce = n ∧
      res.link.outbox = l.outbox ++ c ++ 10 :: getPasswordResponse digest n p := by
  intro res
  obtain ⟨cs, hrecv, -⟩ := connRecv_chunks (n := 8) ho hc (by simp [hin, digestToHex32_length])
  have hnonce : l.inbox.take 8 = digestToHex32 n := by
    rw [hin]
    exact List.take_left' (digestToHex32_length n)
  simp [res, proxyClientConnect, hrecv, hnonce, hex32ToDigest_digestToHex32, connSend_whole, ho, hs]

/-! ### The handshake -/

/-- **The handshake end to end.**  A client with callsign `c` (at most ten bytes, neither
newline nor NUL) and password `p` meets a proxy with password `q` that drew the nonce `n`; each
side reads the other's bytes in any chunking (`toClient`, `toProxy`), and `send` takes each
buffer whole.  The client decodes `n` and succeeds; the proxy sends the nonce first, consumes
exactly the `|c| + 17` bytes the client sent, sets `pw->callsign` to `c`, and returns `0` iff
the two responses agree and `c` is admitted.  Passwords equal up to the case of ASCII letters
give equal responses, and a callsign line of eleven bytes or more is refused with `-EINVAL`. -/
theorem handshake_agreement (digest : List UInt8 → Vector UInt8 16) (pol : CallsignPolicy Re)
    (n : UInt32) (p q c later rest : List UInt8) (stack : ℕ → UInt8) (callsign : List UInt8)
    (toClient toProxy : List ℕ) (hlen : c.length ≤ 10) (hnl : 10 ∉ c) (hnul : 0 ∉ c) :
    let client := proxyClientConnect digest (some c) (some p)
      ⟨true, digestToHex32 n ++ later, toClient.map .bytes, [], []⟩
    let proxy := proxyWorkerAuthorize digest pol q n stack callsign
      ⟨true, client.link.outbox ++ rest, toProxy.map .bytes, [], []⟩
    client.ret = 0 ∧ client.nonce = n ∧ digestToHex32 n <+: proxy.link.outbox ∧
      client.link.outbox = c ++ 10 :: getPasswordResponse digest n p ∧
      client.link.outbox.length = c.length + 17 ∧ proxy.link.inbox = rest ∧
      proxy.callsign = c ∧
      (proxy.ret = 0 ↔ getPasswordResponse digest n p = getPasswordResponse digest n q ∧
        (∀ re, pol.callsDenied = some re → pol.isMatch re c = 0) ∧
        (∀ re, pol.callsAllowed = some re → pol.isMatch re c = 1)) ∧
      (List.Forall₂ SameIgnoringCase p q →
        getPasswordResponse digest n p = getPasswordResponse digest n q) ∧
      ∀ c' : List UInt8, 11 ≤ c'.length → 10 ∉ c' →
        (proxyWorkerAuthorize digest pol q n stack callsign
          ⟨true, (proxyClientConnect digest (some c') (some p)
            ⟨true, digestToHex32 n ++ later, toClient.map .bytes, [], []⟩).link.outbox ++ rest,
            toProxy.map .bytes, [], []⟩).ret = -EINVAL := by
  dsimp only
  -- the client's side: it answers with the callsign line and its response
  obtain ⟨hret, hnonce, hout⟩ := proxyClientConnect_spec digest c p
    (l := ⟨true, digestToHex32 n ++ later, toClient.map .bytes, [], []⟩) rfl rfl
    (isChunking_map toClient) rfl
  rw [List.nil_append] at hout
  have hin : c ++ 10 :: getPasswordResponse digest n p ++ rest =
      c ++ 10 :: (getPasswordResponse digest n p ++ rest) := by simp
  rw [hout, hin]
  -- the proxy's side on that answer
  obtain ⟨hcall, hinbox, hpre, hiff⟩ := proxyWorkerAuthorize_answer digest pol q n stack callsign
    (l := ⟨true, c ++ 10 :: (getPasswordResponse digest n p ++ rest), toProxy.map .bytes, [], []⟩)
    rfl rfl (isChunking_map toProxy) rfl (getPasswordResponse_length digest n p) hlen hnl hnul
  refine ⟨hret, hnonce, hpre, rfl, by simp [getPasswordResponse_length], hinbox, hcall, ?_,
    getPasswordResponse_upcase digest n, ?_⟩
  · rw [hiff, proxyAuthorizeCallsign_eq_one]
  · -- a longer callsign line: no newline among the first eleven bytes
    intro c' h11 hnl'
    obtain ⟨-, -, hout'⟩ := proxyClientConnect_spec digest c' p
      (l := ⟨true, digestToHex32 n ++ later, toClient.map .bytes, [], []⟩) rfl rfl
      (isChunking_map toClient) rfl
    apply proxyWorkerAuthorize_long digest pol q n stack callsign rfl rfl (isChunking_map toProxy)
    · simp [hout', getPasswordResponse_length]
      omega
    · intro i hi
      have hi' : i < c'.length := by omega
      simp only [hout', List.nil_append, List.append_assoc]
      rw [List.getD_append _ _ _ _ hi', List.getD_eq_getElem _ _ hi']
      exact fun h => hnl' (h ▸ List.getElem_mem hi')

/-- The handshake of the callsign `N0CALL` with the default password against a proxy that
admits everyone, under a digest that is constant. -/
theorem handshake_agreement_n0call :
    ([78, 48, 67, 65, 76, 76] : List UInt8).length ≤ 10 ∧
      (10 : UInt8) ∉ ([78, 48, 67, 65, 76, 76] : List UInt8) ∧
      (0 : UInt8) ∉ ([78, 48, 67, 65, 76, 76] : List UInt8) ∧
    let client := proxyClientConnect (fun _ => Vector.replicate 16 0)
      (some [78, 48, 67, 65, 76, 76]) (some [])
      ⟨true, digestToHex32 7 ++ [], ([] : List ℕ).map .bytes, [], []⟩
    let proxy := proxyWorkerAuthorize (fun _ => Vector.replicate 16 0)
      (⟨fun _ _ => 0, none, none⟩ : CallsignPolicy Unit) [] 7 (fun _ => 0) []
      ⟨true, client.link.outbox ++ [], ([] : List ℕ).map .bytes, [], []⟩
    client.ret = 0 ∧ client.nonce = 7 ∧ digestToHex32 7 <+: proxy.link.outbox ∧
      client.link.outbox = [78, 48, 67, 65, 76, 76] ++
        10 :: getPasswordResponse (fun _ => Vector.replicate 16 0) 7 [] ∧
      client.link.outbox.length = ([78, 48, 67, 65, 76, 76] : List UInt8).length + 17 ∧
      proxy.link.inbox = [] ∧ proxy.callsign = [78, 48, 67, 65, 76, 76] ∧
      (proxy.ret = 0 ↔
        getPasswordResponse (fun _ => Vector.replicate 16 0) 7 [] =
          getPasswordResponse (fun _ => Vector.replicate 16 0) 7 [] ∧
        (∀ re, (⟨fun _ _ => 0, none, none⟩ : CallsignPolicy Unit).callsDenied = some re →
          (⟨fun _ _ => 0, none, none⟩ : CallsignPolicy Unit).isMatch re
            [78, 48, 67, 65, 76, 76] = 0) ∧
        (∀ re, (⟨fun _ _ => 0, none, none⟩ : CallsignPolicy Unit).callsAllowed = some re →
          (⟨fun _ _ => 0, none, none⟩ : CallsignPolicy Unit).isMatch re
            [78, 48, 67, 65, 76, 76] = 1)) ∧
      (List.Forall₂ SameIgnoringCase ([] : List UInt8) [] →
        getPasswordResponse (fun _ => Vector.replicate 16 0) 7 [] =
          getPasswordResponse (fun _ => Vector.replicate 16 0) 7 []) ∧
      ∀ c' : List UInt8, 11 ≤ c'.length → 10 ∉ c' →
        (proxyWorkerAuthorize (fun _ => Vector.replicate 16 0)
          (⟨fun _ _ => 0, none, none⟩ : CallsignPolicy Unit) [] 7 (fun _ => 0) []
          ⟨true, (proxyClientConnect (fun _ => Vector.replicate 16 0) (some c') (some [])
            ⟨true, digestToHex32 7 ++ [], ([] : List ℕ).map .bytes, [], []⟩).link.outbox ++ [],
            ([] : List ℕ).map .bytes, [], []⟩).ret = -EINVAL :=
  ⟨by decide, by decide, by decide,
    handshake_agreement (fun _ => Vector.replicate 16 0) ⟨fun _ _ => 0, none, none⟩ 7 [] []
      [78, 48, 67, 65, 76, 76] [] [] (fun _ => 0) [] [] [] (by decide) (by decide) (by decide)⟩

end OpenElp
