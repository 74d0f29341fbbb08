import OpenElp.Data.Buf
import OpenElp.Digest
import OpenElp.Conf
import OpenElp.Registration

/-!
# The buffers of the registration messages (`registration_service_start`, `send_report`)

`registration_service_start` allocates `reg_suffix` for the suffix of every report,
`&a=<address>&d=<digest>&p=<port>&v=1.2.3o`, but first uses it for the text whose MD5 is the
digest, `<name><address>#5A!zu`.  `send_report` allocates the body from the lengths of the name,
the comment and the suffix, and keeps the header in an array sized after `http_message`.  Each
write is a store into its buffer (`Buf.store?`); a text is a list of bytes, and the `sprintf`
writes end with a NUL.

* `regSuffixWrite_isSome_iff` : the writes into `reg_suffix` stay inside **iff the name has at
  most 50 characters**: the first `sprintf` writes `strlen(reg_name) + strlen(public_addr) + 7`
  bytes into `strlen(public_addr) + 57`;
* `sendReportWrite_isSome_iff` : the writes of `send_report` stay inside for every name, comment,
  suffix and status, and all counts `proxy_update_registration` passes; but a registration
  comment left `NULL` (`RegistrationComment` empty or absent) is read by `strlen`;
* `registration_buffers` : the two, for the strings of a configuration.
-/

namespace OpenElp

/-- The bytes of a C string literal. -/
def cstr (s : String) : List UInt8 := s.toList.map Char.toUInt8

/-- `DIGEST_LEN`. -/
def digestLen : ℕ := 16

/-- `digest_salt`. -/
def digestSalt : List UInt8 := cstr "#5A!zu"

/-- `protocol_version`. -/
def protocolVersion : List UInt8 := cstr "1.2.3o"

/-- What `sprintf` prints for `%d` or `%lu` of a natural number. -/
def decimal (n : ℕ) : List UInt8 := (Nat.toDigits 10 n).map Char.toUInt8

theorem decimal_length (n : ℕ) : (decimal n).length = (Nat.toDigits 10 n).length :=
  List.length_map ..

/-- A number below `10 ^ k` prints in at most `k` digits. -/
theorem decimal_length_le {n k : ℕ} (hk : 0 < k) (h : n < 10 ^ k) : (decimal n).length ≤ k := by
  rw [decimal_length]
  exact (Nat.length_toDigits_le_iff (by decide) hk).2 h

/-! ### `reg_suffix` -/

/-- The size `registration_service_start` allocates for `reg_suffix`. -/
def regSuffixSize (publicAddr : List UInt8) : ℕ :=
  publicAddr.length + 2 * digestLen + (protocolVersion.length + 1) + 18

/-- The start of the suffix: `&a=<address>&d=`. -/
def regSuffixHead (publicAddr : List UInt8) : List UInt8 := cstr "&a=" ++ publicAddr ++ cstr "&d="

/-- The end of the suffix: `&p=<port>&v=1.2.3o`. -/
def regSuffixTail (port : UInt16) : List UInt8 :=
  cstr "&p=" ++ decimal port.toNat ++ cstr "&v=" ++ protocolVersion

/-- `registration_service_start` from the allocation of `reg_suffix` on: the first `sprintf`, the
second, `digest_to_str` after it, and the third after the digest; `none` when a write leaves the
buffer.  `md5` is the digest `digest_get` computes of the text of the first `sprintf`; the
contents `malloc` leaves do not matter, as every byte read is written first. -/
def regSuffixWrite (regName publicAddr md5 : List UInt8) (port : UInt16) : Option (List UInt8) :=
  Buf.storeAll? (List.replicate (regSuffixSize publicAddr) 0)
    [(0, regName ++ publicAddr ++ digestSalt ++ [0]),
      (0, regSuffixHead publicAddr ++ [0]),
      ((regSuffixHead publicAddr).length, digestToStr md5),
      ((regSuffixHead publicAddr).length + 2 * digestLen, regSuffixTail port ++ [0])]

/-- **The writes into `reg_suffix` stay inside iff the name has at most 50 characters.**  The
first `sprintf` writes the name, the address, the six bytes of the salt and a NUL into a buffer
of `strlen(public_addr) + 57` bytes; the other writes always fit, a port printing in at most five
digits. -/
theorem regSuffixWrite_isSome_iff (regName publicAddr md5 : List UInt8) (hmd5 : md5.length = 16)
    (port : UInt16) : (regSuffixWrite regName publicAddr md5 port).isSome ↔ regName.length ≤ 50 := by
  have hsize : regSuffixSize publicAddr = publicAddr.length + 57 := rfl
  have hhead : (regSuffixHead publicAddr).length = publicAddr.length + 6 := by
    simp [regSuffixHead, cstr]
  have hdigest : (digestToStr md5).length = 32 := by rw [digestToStr_length, hmd5]
  have hport : (decimal port.toNat).length ≤ 5 :=
    decimal_length_le (by decide) (by have := port.toNat_lt; omega)
  have htail : (regSuffixTail port).length ≤ 17 := by
    simp [regSuffixTail, cstr, protocolVersion]
    omega
  have hfirst : (regName ++ publicAddr ++ digestSalt ++ [0]).length =
      regName.length + publicAddr.length + 7 := by
    simp [digestSalt, cstr]
    omega
  rw [regSuffixWrite, Buf.storeAll?_isSome_iff]
  simp only [List.mem_cons, List.not_mem_nil, or_false, forall_eq_or_imp, forall_eq,
    List.length_replicate, hsize, hfirst, List.length_append, hhead, List.length_singleton,
    hdigest, digestLen]
  -- only the first write depends on the name
  omega

/-! ### `send_report` -/

/-- The body `send_report` prints for a status with the phrase `st`: the format without the
counts when there is one slot, else the one with them. -/
def reportBody (regName regComment regSuffix : List UInt8) (pub : UInt8) (st : List UInt8)
    (slotsUsed slotsTotal : ℕ) : List UInt8 :=
  if slotsTotal = 1 then
    cstr "name=" ++ regName ++ cstr "&comment=" ++ regComment ++ cstr "&public=" ++ [pub] ++
      cstr "&status=" ++ st ++ regSuffix
  else
    cstr "name=" ++ regName ++ cstr "&comment=" ++ regComment ++ cstr " [" ++ decimal slotsUsed ++
      cstr "/" ++ decimal slotsTotal ++ cstr "]&public=" ++ [pub] ++ cstr "&status=" ++ st ++
      regSuffix

/-- `send_report` up to the sends: the writes into `message_body` and `message_header`, and the
two arrays after them; `none` when an access leaves its memory, a write past its array or the
`strlen` of a `NULL` comment.  A status without a phrase returns before any write, and a body
longer than an `int` holds (`sprintf` returning `-1`) before the header.  `httpMessage` is
`http_message`, whose text holds the version the build defines. -/
def sendReportWrite (httpMessage regName : List UInt8) (regComment : Option (List UInt8))
    (regSuffix : List UInt8) (pub : UInt8) (status : RegistrationStatus) (slotsUsed slotsTotal : ℕ) :
    Option (List UInt8 × List UInt8) :=
  let header := List.replicate (httpMessage.length + 1 + 14) 0
  match statusPhrase status, regComment with
  | none, _ => some ([], header)
  | some _, none => none
  | some st, some comment =>
    let body := reportBody regName comment regSuffix pub st slotsUsed slotsTotal
    (Buf.store? (List.replicate (regName.length + comment.length + regSuffix.length + 80) 0) 0
        (body ++ [0])).bind fun b =>
      if body.length < 2 ^ 31 then
        (Buf.store? header 0 (httpMessage ++ decimal body.length ++ cstr "\r\n\r\n" ++ [0])).map
          fun h => (b, h)
      else some (b, header)

theorem statusPhrase_length_le {status : RegistrationStatus} {st : List UInt8}
    (h : statusPhrase status = some st) : st.length ≤ 5 := by
  cases status <;> simp only [statusPhrase, Option.some.injEq, reduceCtorEq] at h <;> subst h <;>
    decide

/-- The body with its NUL fits the size `send_report` allocates, for a used count any `size_t`
and a total an `int`: the counts print in at most 20 and 10 digits, the status in at most 5. -/
theorem reportBody_length_le (regName regComment regSuffix : List UInt8) (pub : UInt8)
    {st : List UInt8} (hst : st.length ≤ 5) {used total : ℕ} (hused : used < 2 ^ 64)
    (htotal : total < 2 ^ 31) :
    (reportBody regName regComment regSuffix pub st used total).length + 1 ≤
      regName.length + regComment.length + regSuffix.length + 80 := by
  have hu : (decimal used).length ≤ 20 := decimal_length_le (by decide) (by omega)
  have ht : (decimal total).length ≤ 10 := decimal_length_le (by decide) (by omega)
  unfold reportBody
  split <;> simp [cstr] <;> omega

/-- **The writes of `send_report` stay inside their arrays**, for every name, comment, suffix and
status, a used count any `size_t` (`proxy_update_registration` may pass a negative `int`) and a
total an `int`, unless the comment is `NULL`: then `strlen` reads it. -/
theorem sendReportWrite_isSome_iff (httpMessage regName regSuffix : List UInt8)
    (regComment : Option (List UInt8)) (pub : UInt8) (status : RegistrationStatus) {used total : ℕ}
    (hused : used < 2 ^ 64) (htotal : total < 2 ^ 31) :
    (sendReportWrite httpMessage regName regComment regSuffix pub status used total).isSome ↔
      statusPhrase status = none ∨ regComment.isSome := by
  rcases hst : statusPhrase status with _ | st
  · simp [sendReportWrite, hst]
  rcases regComment with _ | comment
  · simp [sendReportWrite, hst]
  set body := reportBody regName comment regSuffix pub st used total with hbody
  have hlen := reportBody_length_le regName comment regSuffix pub (statusPhrase_length_le hst)
    hused htotal
  obtain ⟨b, hb⟩ := Option.isSome_iff_exists.1
    ((Buf.store?_isSome_iff (List.replicate (regName.length + comment.length + regSuffix.length + 80)
      0) 0 (body ++ [0])).2 (by simpa using hlen))
  simp only [sendReportWrite, hst, ← hbody, hb, Option.bind_some, Option.isSome_some, or_true,
    iff_true]
  split
  · -- a body an `int` counts prints in at most ten digits, which the header leaves room for
    rename_i hint
    have hdig : (decimal body.length).length ≤ 10 := decimal_length_le (by decide) (by omega)
    have hfit := (Buf.store?_isSome_iff (List.replicate (httpMessage.length + 1 + 14) 0) 0
      (httpMessage ++ decimal body.length ++ cstr "\r\n\r\n" ++ [0])).2 (by simp [cstr]; omega)
    simpa using hfit
  · rfl

/-! ### For the strings of a configuration -/

/-- The bytes of a string of the configuration. -/
def confBytes (s : List Char) : List UInt8 := s.map Char.toUInt8

/-- The writes of `registration_service_start` for a configuration: none without
`RegistrationName`, and `public_addr` the empty string when `PublicAddress` is unset. -/
def registrationServiceStartWrite (conf : ProxyConf) (md5 : List UInt8) : Option (List UInt8) :=
  match conf.regName with
  | none => some []
  | some name => regSuffixWrite (confBytes name) (confBytes (conf.publicAddr.getD [])) md5 conf.port

/-- **The registration messages of a configuration with `RegistrationName`**: the writes of
`registration_service_start` stay inside `reg_suffix` iff the name has at most 50 characters,
and those of `send_report` stay inside theirs for every status, comment and suffix, and all
counts `proxy_update_registration` passes, unless the comment is `NULL`. -/
theorem registration_buffers (conf : ProxyConf) {name : List Char} (hname : conf.regName = some name)
    {md5 : List UInt8} (hmd5 : md5.length = 16) (httpMessage regSuffix : List UInt8) (pub : UInt8)
    (status : RegistrationStatus) {used total : ℕ} (hused : used < 2 ^ 64)
    (htotal : total < 2 ^ 31) :
    ((registrationServiceStartWrite conf md5).isSome ↔ name.length ≤ 50) ∧
      ((sendReportWrite httpMessage (confBytes name) (conf.regComment.map confBytes) regSuffix pub
          status used total).isSome ↔ statusPhrase status = none ∨ conf.regComment.isSome) := by
  constructor
  · rw [registrationServiceStartWrite, hname, regSuffixWrite_isSome_iff _ _ _ hmd5, confBytes,
      List.length_map]
  · rw [sendReportWrite_isSome_iff _ _ _ _ _ _ hused htotal, Option.isSome_map]

/-- A name of 51 characters, with a password for the `strcmp` before it: the first `sprintf` of
`registration_service_start` writes one byte past `reg_suffix`. -/
theorem registrationServiceStartWrite_name_51 :
    registrationServiceStartWrite
      { confInit with password := some "secret".toList, regName := some (List.replicate 51 'a') }
      (List.replicate 16 0) = none := by
  decide

/-- The configuration of the sample file with a password, a name and an address: `reg_suffix`
holds the writes, and the reports of every status but `UNKNOWN` fault on the `NULL` comment. -/
theorem registration_buffers_sample :
    let conf := { confInit with
      password := some "secret".toList
      regName := some "N0CALL-L".toList
      publicAddr := some "192.0.2.1".toList }
    ((registrationServiceStartWrite conf (List.replicate 16 0)).isSome ↔
        "N0CALL-L".toList.length ≤ 50) ∧
      ((sendReportWrite [] (confBytes "N0CALL-L".toList) (conf.regComment.map confBytes) []
          (Char.toUInt8 'N') .ready 0 1).isSome ↔
        statusPhrase .ready = none ∨ conf.regComment.isSome) :=
  registration_buffers _ rfl (List.length_replicate ..) [] [] (Char.toUInt8 'N') .ready
    (by decide) (by decide)

end OpenElp
