import Mathlib
import OpenElp.Data.Buf

/-!
# The text of a port and of a peer's address (`conn_port_to_str`, `conn_get_remote_addr`)

`conn_port_to_str` counts the decimal digits of a port in a `do ... while` loop, then writes
them from the `case` of their count of a `switch` that falls through to `case 1`, each case
writing the digit of its power of ten and keeping the remainder; a NUL ends the text.
`proxy_open` prints the listening port this way for `getaddrinfo`.  `conn_get_remote_addr`
writes the address `inet_ntop` makes of `priv->remote_addr`, a colon and the port, the IPv6
address in brackets, into 54 bytes.

* `connPortToStr_spec` : **the text of a port is its decimal digits**, most significant first
  and with no zero in front, at most five and a NUL in six bytes, and their value is the port;
* `connGetRemoteAddr_fits` : for every address `inet_ntop` writes, `conn_get_remote_addr` stays
  inside its 54 bytes and leaves `address:port`, or `[address]:port`;
* `connGetRemoteAddr_port_swapped` : but it prints `sin_port` as the host reads it, with no
  `ntohs`: on a little-endian host the port it shows is the peer's with its bytes swapped, so
  never the peer's when the two bytes differ.
-/

namespace OpenElp

/-! ### `conn_port_to_str` -/

/-- The loop `do { n++; port_tmp /= 10; } while (port_tmp != 0)`: the number of decimal digits of
`port_tmp`, one for `0`. -/
def digitCount (port_tmp : ℕ) : ℕ :=
  if port_tmp / 10 = 0 then 1 else digitCount (port_tmp / 10) + 1
termination_by port_tmp
decreasing_by omega

/-- The `switch (n)` from `case k` on: `*result = (char)(48 + port_tmp / 10^(k-1))`, then
`port_tmp %= 10^(k-1)`, falling through down to `case 1`. -/
def writeDigits : ℕ → ℕ → List UInt8
  | 0, _ => []
  | k + 1, port_tmp => (48 + port_tmp / 10 ^ k).toUInt8 :: writeDigits k (port_tmp % 10 ^ k)

/-- `conn_port_to_str(port, result)`: what it writes from `result` on, the digits of the `case`s
`1` to `5` of the `switch` and the NUL. -/
def connPortToStr (port : UInt16) : List UInt8 :=
  let n := digitCount port.toNat
  (if 1 ≤ n ∧ n ≤ 5 then writeDigits n port.toNat else []) ++ [0]

/-- The value of a text of decimal digits, the most significant first: how `getaddrinfo` reads a
numeric service. -/
def portValue (s : List UInt8) : ℕ := s.foldl (fun n c => 10 * n + (c.toNat - 48)) 0

example : connPortToStr 8100 = [56, 49, 48, 48, 0] := by decide +kernel

section Digits

theorem foldl_portValue (s : List UInt8) (acc : ℕ) :
    s.foldl (fun n c => 10 * n + (c.toNat - 48)) acc = acc * 10 ^ s.length + portValue s := by
  induction s generalizing acc with
  | nil => simp [portValue]
  | cons c s ih =>
    have hcons : portValue (c :: s) = (c.toNat - 48) * 10 ^ s.length + portValue s := by
      rw [portValue, List.foldl_cons, ih]
      ring
    rw [List.foldl_cons, ih, hcons, List.length_cons, pow_succ]
    ring

theorem portValue_cons (c : UInt8) (s : List UInt8) :
    portValue (c :: s) = (c.toNat - 48) * 10 ^ s.length + portValue s := by
  rw [portValue, List.foldl_cons, foldl_portValue]
  simp

/-- The digits counted bound the value from above. -/
theorem lt_pow_digitCount (v : ℕ) : v < 10 ^ digitCount v := by
  fun_induction digitCount v with
  | case1 v h => simp only [pow_one]; omega
  | case2 v h ih =>
    rw [pow_succ]
    omega

/-- ... and, but for `0`, from below. -/
theorem pow_digitCount_le {v : ℕ} (hv : 0 < v) : 10 ^ (digitCount v - 1) ≤ v := by
  fun_induction digitCount v with
  | case1 v h => simp only [Nat.sub_self, pow_zero]; omega
  | case2 v h ih =>
    have hc : 1 ≤ digitCount (v / 10) := by rw [digitCount]; split <;> omega
    have := ih (by omega)
    rw [Nat.add_sub_cancel, ← Nat.sub_add_cancel hc, pow_succ]
    omega

theorem one_le_digitCount (v : ℕ) : 1 ≤ digitCount v := by
  rw [digitCount]
  split <;> omega

/-- A port has at most five digits. -/
theorem digitCount_le_five (port : UInt16) : digitCount port.toNat ≤ 5 := by
  have hlt := port.toNat_lt
  rcases Nat.eq_zero_or_pos port.toNat with h0 | hpos
  · rw [h0, digitCount]
    simp
  · have hle := pow_digitCount_le hpos
    by_contra hgt
    have h5 : 10 ^ 5 ≤ 10 ^ (digitCount port.toNat - 1) := Nat.pow_le_pow_right (by decide) (by omega)
    omega

theorem length_writeDigits (k v : ℕ) : (writeDigits k v).length = k := by
  induction k generalizing v with
  | zero => rfl
  | succ k ih => rw [writeDigits, List.length_cons, ih]

/-- Below `10 ^ k`, each case writes a digit. -/
theorem digit_of_mem_writeDigits {k v : ℕ} (hv : v < 10 ^ k) :
    ∀ c ∈ writeDigits k v, 48 ≤ c.toNat ∧ c.toNat ≤ 57 := by
  induction k generalizing v with
  | zero => simp [writeDigits]
  | succ k ih =>
    have hd : v / 10 ^ k < 10 := Nat.div_lt_of_lt_mul (by rw [← pow_succ]; exact hv)
    intro c hc
    rcases List.mem_cons.1 hc with rfl | hc
    · rw [Nat.toUInt8_eq, UInt8.toNat_ofNat_of_lt' (by rw [UInt8.size]; omega)]
      exact ⟨Nat.le_add_right _ _, by omega⟩
    · exact ih (Nat.mod_lt _ (by positivity)) c hc

/-- **The digits written below `10 ^ k` read back as the value.** -/
theorem portValue_writeDigits {k v : ℕ} (hv : v < 10 ^ k) : portValue (writeDigits k v) = v := by
  induction k generalizing v with
  | zero => simp only [pow_zero] at hv; simp [writeDigits, portValue]; omega
  | succ k ih =>
    have hd : v / 10 ^ k < 10 := Nat.div_lt_of_lt_mul (by rw [← pow_succ]; exact hv)
    have hc : ((48 + v / 10 ^ k).toUInt8).toNat = 48 + v / 10 ^ k := by
      rw [Nat.toUInt8_eq, UInt8.toNat_ofNat_of_lt' (by rw [UInt8.size]; omega)]
    rw [writeDigits, portValue_cons, hc, length_writeDigits, ih (Nat.mod_lt _ (by positivity))]
    -- the digit of `10 ^ k` and the rest
    have := Nat.div_add_mod v (10 ^ k)
    rw [Nat.add_sub_cancel_left, Nat.mul_comm]
    omega

theorem connPortToStr_eq (port : UInt16) :
    connPortToStr port = writeDigits (digitCount port.toNat) port.toNat ++ [0] := by
  rw [connPortToStr, if_pos ⟨one_le_digitCount _, digitCount_le_five port⟩]

theorem length_connPortToStr_le (port : UInt16) : (connPortToStr port).length ≤ 6 := by
  rw [connPortToStr_eq, List.length_append, length_writeDigits, List.length_singleton]
  have := digitCount_le_five port
  omega

/-- Five digits and the NUL exactly for the ports from 10000 up. -/
theorem length_connPortToStr_eq_six (port : UInt16) :
    (connPortToStr port).length = 6 ↔ 10000 ≤ port.toNat := by
  rw [connPortToStr_eq, List.length_append, length_writeDigits, List.length_singleton]
  have h5 := digitCount_le_five port
  constructor
  · intro h
    -- five digits: the port is at least `10 ^ 4`
    have hpos : 0 < port.toNat := by
      rcases Nat.eq_zero_or_pos port.toNat with h0 | hpos
      · rw [h0, digitCount] at h
        simp at h
      · exact hpos
    have hle := pow_digitCount_le hpos
    rw [show digitCount port.toNat - 1 = 4 by omega] at hle
    simpa using hle
  · intro hv
    -- fewer than five digits would keep the port below `10 ^ 4`
    have hlt := lt_pow_digitCount port.toNat
    by_contra hne
    have h4 : 10 ^ digitCount port.toNat ≤ 10 ^ 4 := Nat.pow_le_pow_right (by decide) (by omega)
    omega

end Digits

/-- **`conn_port_to_str` writes the decimal digits of the port**, the most significant first and
with no zero in front, at most five and a NUL, so six bytes; their value is the port. -/
theorem connPortToStr_spec (port : UInt16) :
    ∃ ds, connPortToStr port = ds ++ [0] ∧ 1 ≤ ds.length ∧ ds.length ≤ 5 ∧
      (∀ c ∈ ds, '0'.toUInt8 ≤ c ∧ c ≤ '9'.toUInt8) ∧
      (ds.head? = some '0'.toUInt8 → ds = ['0'.toUInt8]) ∧ portValue ds = port.toNat := by
  have h1 := one_le_digitCount port.toNat
  have h5 := digitCount_le_five port
  have hlt := lt_pow_digitCount port.toNat
  refine ⟨writeDigits (digitCount port.toNat) port.toNat, ?_, ?_, ?_, ?_, ?_,
    portValue_writeDigits hlt⟩
  · exact connPortToStr_eq port
  · rw [length_writeDigits]
    exact h1
  · rw [length_writeDigits]
    exact h5
  · intro c hc
    have := digit_of_mem_writeDigits hlt c hc
    exact ⟨UInt8.le_iff_toNat_le.2 this.1, UInt8.le_iff_toNat_le.2 this.2⟩
  · -- the first digit is the one of `10 ^ (n - 1)`, which only `0` has as `0`
    obtain ⟨k, hk⟩ : ∃ k, digitCount port.toNat = k + 1 := ⟨_, (Nat.sub_add_cancel h1).symm⟩
    rw [hk, writeDigits, List.head?_cons, Option.some.injEq]
    intro hhead
    rcases Nat.eq_zero_or_pos port.toNat with h0 | hpos
    · have hk0 : k = 0 := by
        have : digitCount 0 = 1 := by rw [digitCount]; simp
        rw [h0] at hk
        omega
      subst hk0
      rw [h0]
      rfl
    · have hle := pow_digitCount_le hpos
      rw [hk, Nat.add_sub_cancel] at hle
      have hpos' : 1 ≤ port.toNat / 10 ^ k := (Nat.le_div_iff_mul_le (by positivity)).2 (by omega)
      have hd : port.toNat / 10 ^ k < 10 :=
        Nat.div_lt_of_lt_mul (by rw [← pow_succ, ← hk]; exact hlt)
      have h48 : ('0'.toUInt8).toNat = 48 := by decide
      have := congrArg UInt8.toNat hhead
      rw [Nat.toUInt8_eq, UInt8.toNat_ofNat_of_lt' (by rw [UInt8.size]; omega), h48] at this
      omega

/-! ### `conn_get_remote_addr` -/

/-- `priv->remote_addr` as `conn_get_remote_addr` reads it, by `ss_family`: the text `inet_ntop`
makes of the address, and the field `sin_port` (or `sin6_port`) as a value of the host. -/
inductive RemoteAddr
  | inet (text : List UInt8) (sinPort : UInt16)
  | inet6 (text : List UInt8) (sinPort : UInt16)
  | unknown
  deriving DecidableEq, Repr

/-- The text `conn_get_remote_addr` copies for another family. -/
def unknownAddr : List UInt8 := "(unknown)".toList.map Char.toUInt8

/-- `conn_get_remote_addr(conn, dest)`: the stores into `dest`, `none` when one leaves it.
`inet_ntop` writes the text and a NUL, and `dest += strlen(dest)` moves past the text, with the
`[` before an IPv6 one. -/
def connGetRemoteAddr (dest : List UInt8) : RemoteAddr → Option (List UInt8)
  | .inet text port =>
    Buf.storeAll? dest [(0, text ++ [0]), (text.length, [':'.toUInt8]),
      (text.length + 1, connPortToStr port)]
  | .inet6 text port =>
    Buf.storeAll? dest [(0, ['['.toUInt8]), (1, text ++ [0]), (1 + text.length, [']'.toUInt8]),
      (1 + text.length + 1, [':'.toUInt8]), (1 + text.length + 2, connPortToStr port)]
  | .unknown => Buf.store? dest 0 (unknownAddr ++ [0])

/-- What `inet_ntop` writes of an address: at most `INET_ADDRSTRLEN - 1` characters for IPv4 and
`INET6_ADDRSTRLEN - 1` for IPv6. -/
def RemoteAddr.NtopFits : RemoteAddr → Prop
  | .inet text _ => text.length ≤ 15
  | .inet6 text _ => text.length ≤ 45
  | .unknown => True

instance : DecidablePred RemoteAddr.NtopFits := fun a =>
  match a with
  | .inet text _ => inferInstanceAs (Decidable (text.length ≤ 15))
  | .inet6 text _ => inferInstanceAs (Decidable (text.length ≤ 45))
  | .unknown => inferInstanceAs (Decidable True)

/-- The text `conn_get_remote_addr` leaves, up to and including its NUL. -/
def RemoteAddr.shown : RemoteAddr → List UInt8
  | .inet text port => text ++ ':'.toUInt8 :: connPortToStr port
  | .inet6 text port => '['.toUInt8 :: text ++ ']'.toUInt8 :: ':'.toUInt8 :: connPortToStr port
  | .unknown => unknownAddr ++ [0]

section RemoteAddr

variable {dest : List UInt8}

/-- The IPv4 stores are one store of the text: the colon overwrites the NUL of `inet_ntop`. -/
theorem connGetRemoteAddr_inet (text : List UInt8) (port : UInt16) :
    connGetRemoteAddr dest (.inet text port) = Buf.store? dest 0 (RemoteAddr.inet text port).shown := by
  have hnul : ([0] : List UInt8).length = [':'.toUInt8].length := rfl
  rw [connGetRemoteAddr, ← Buf.storeAll?_join dest (Nat.zero_add _).symm,
    Buf.storeAll?_cons_congr _ _ fun b => Buf.storeAll?_overwrite b hnul rfl _,
    Buf.storeAll?_join dest (Nat.zero_add _).symm, Buf.storeAll?_join dest (by simp),
    Buf.storeAll?_singleton, RemoteAddr.shown, List.append_assoc, List.singleton_append]

/-- The IPv6 stores are one store of the text, the bracket overwriting the NUL. -/
theorem connGetRemoteAddr_inet6 (text : List UInt8) (port : UInt16) :
    connGetRemoteAddr dest (.inet6 text port) =
      Buf.store? dest 0 (RemoteAddr.inet6 text port).shown := by
  have hnul : ([0] : List UInt8).length = [']'.toUInt8].length := rfl
  rw [connGetRemoteAddr, Buf.storeAll?_join dest (show 1 = 0 + ['['.toUInt8].length from rfl),
    ← List.append_assoc, ← Buf.storeAll?_join dest rfl,
    Buf.storeAll?_cons_congr _ _ fun b => Buf.storeAll?_overwrite b hnul (by simp; omega) _,
    Buf.storeAll?_join dest rfl, Buf.storeAll?_join dest (by simp; omega),
    Buf.storeAll?_join dest (by simp; omega), Buf.storeAll?_singleton, RemoteAddr.shown]
  simp only [List.append_assoc, List.cons_append, List.nil_append]

/-- Every case of `conn_get_remote_addr` is one store of the text at the start. -/
theorem connGetRemoteAddr_eq_store (a : RemoteAddr) :
    connGetRemoteAddr dest a = Buf.store? dest 0 a.shown := by
  cases a with
  | inet text port => exact connGetRemoteAddr_inet text port
  | inet6 text port => exact connGetRemoteAddr_inet6 text port
  | unknown => rfl

/-- What `inet_ntop` writes, with the port and the punctuation, takes at most 54 bytes. -/
theorem length_shown_le {a : RemoteAddr} (ha : a.NtopFits) : a.shown.length ≤ 54 := by
  cases a with
  | inet text port =>
    change text.length ≤ 15 at ha
    have hp := length_connPortToStr_le port
    simp only [RemoteAddr.shown, List.length_append, List.length_cons]
    omega
  | inet6 text port =>
    change text.length ≤ 45 at ha
    have hp := length_connPortToStr_le port
    simp only [RemoteAddr.shown, List.length_append, List.length_cons]
    omega
  | unknown => decide

/-- The text fills 54 bytes exactly for a 45-character IPv6 address and a five-digit port. -/
theorem length_shown_eq_54 {a : RemoteAddr} (ha : a.NtopFits) :
    a.shown.length = 54 ↔
      ∃ text port, a = .inet6 text port ∧ text.length = 45 ∧ 10000 ≤ port.toNat := by
  cases a with
  | inet text port =>
    change text.length ≤ 15 at ha
    have hp := length_connPortToStr_le port
    refine ⟨fun h => ?_, fun ⟨_, _, he, _⟩ => nomatch he⟩
    simp only [RemoteAddr.shown, List.length_append, List.length_cons] at h
    omega
  | inet6 text port =>
    change text.length ≤ 45 at ha
    have hp := length_connPortToStr_le port
    have hsix := length_connPortToStr_eq_six port
    simp only [RemoteAddr.shown, List.length_append, List.length_cons]
    constructor
    · intro h
      exact ⟨text, port, rfl, by omega, hsix.1 (by omega)⟩
    · rintro ⟨t, p, he, ht, hv⟩
      obtain ⟨rfl, rfl⟩ := RemoteAddr.inet6.inj he
      have := hsix.2 hv
      omega
  | unknown =>
    have hu : unknownAddr.length = 9 := by decide
    refine ⟨fun h => ?_, fun ⟨_, _, he, _⟩ => nomatch he⟩
    rw [RemoteAddr.shown, List.length_append, hu] at h
    cases h

/-- **`conn_get_remote_addr` stays inside its 54 bytes** for every address `inet_ntop` writes, and
leaves the address, a colon, the port and a NUL, the IPv6 address in brackets; the text fills all
54 bytes exactly when a 45-character IPv6 address comes with a five-digit port. -/
theorem connGetRemoteAddr_fits (hd : dest.length = 54) (a : RemoteAddr) (ha : a.NtopFits) :
    connGetRemoteAddr dest a = some (a.shown ++ dest.drop a.shown.length) ∧
      (a.shown.length = 54 ↔
        ∃ text port, a = .inet6 text port ∧ text.length = 45 ∧ 10000 ≤ port.toNat) := by
  have hle : a.shown.length ≤ dest.length := hd ▸ length_shown_le ha
  exact ⟨by rw [connGetRemoteAddr_eq_store, Buf.store?_zero hle], length_shown_eq_54 ha⟩

/-- `ffff:ffff:ffff:ffff:ffff:ffff:255.255.255.255`, an IPv6 text of the most characters
`inet_ntop` writes, 45. -/
def ipv6Full : List UInt8 :=
  [102, 102, 102, 102, 58, 102, 102, 102, 102, 58, 102, 102, 102, 102, 58,
    102, 102, 102, 102, 58, 102, 102, 102, 102, 58, 102, 102, 102, 102, 58,
    50, 53, 53, 46, 50, 53, 53, 46, 50, 53, 53, 46, 50, 53, 53]

/-- That address at port 65535 fills the 54 bytes. -/
theorem connGetRemoteAddr_fits_inet6 :
    (List.replicate 54 (0 : UInt8)).length = 54 ∧ (RemoteAddr.inet6 ipv6Full 65535).NtopFits ∧
      (connGetRemoteAddr (List.replicate 54 0) (.inet6 ipv6Full 65535) =
          some ((RemoteAddr.inet6 ipv6Full 65535).shown ++
            (List.replicate 54 0).drop (RemoteAddr.inet6 ipv6Full 65535).shown.length) ∧
        ((RemoteAddr.inet6 ipv6Full 65535).shown.length = 54 ↔
          ∃ text port, RemoteAddr.inet6 ipv6Full 65535 = .inet6 text port ∧ text.length = 45 ∧
            10000 ≤ port.toNat)) :=
  ⟨rfl, by decide, connGetRemoteAddr_fits rfl _ (by decide)⟩

/-- `htons` on a host of the byte order given: on a little-endian host the two bytes swap places.
`ntohs` is the same function. -/
def htons (littleEndian : Bool) (port : UInt16) : UInt16 :=
  if littleEndian then (port <<< 8) ||| (port >>> 8) else port

theorem toNat_htons_true (p : UInt16) :
    (htons true p).toNat = p.toNat % 256 * 256 + p.toNat / 256 := by
  have hp := p.toNat_lt
  have hhi : p.toNat / 2 ^ 8 < 2 ^ 8 := by omega
  have hlo : p.toNat * 2 ^ 8 % 2 ^ 16 = (p.toNat % 256) <<< 8 := by rw [Nat.shiftLeft_eq]; omega
  rw [htons, if_pos rfl, UInt16.toNat_or, UInt16.toNat_shiftLeft, UInt16.toNat_shiftRight]
  simp only [UInt16.reduceToNat, Nat.reduceMod]
  -- the two bytes do not overlap, so the OR is a sum
  rw [Nat.shiftLeft_eq, Nat.shiftRight_eq_div_pow, hlo, ← Nat.shiftLeft_add_eq_or_of_lt hhi,
    Nat.shiftLeft_eq]
  norm_num

/-- **The port shown is the peer's with its bytes swapped on a little-endian host**: the kernel
stores `sin_port` in network order and `conn_get_remote_addr` prints it with no `ntohs`, so the
port it writes is the peer's only when the two bytes of the port are equal. -/
theorem connGetRemoteAddr_port_swapped (hd : dest.length = 54) {text : List UInt8}
    (ht : text.length ≤ 15) (p : UInt16) :
    ∃ ds, connGetRemoteAddr dest (.inet text (htons true p)) =
        some (text ++ ':'.toUInt8 :: ds ++ [0] ++ dest.drop (text.length + ds.length + 2)) ∧
      portValue ds = p.toNat % 256 * 256 + p.toNat / 256 ∧
      (portValue ds = p.toNat ↔ p.toNat % 256 = p.toNat / 256) := by
  have hp := p.toNat_lt
  have hv := toNat_htons_true p
  set q := htons true p
  have hq : portValue (writeDigits (digitCount q.toNat) q.toNat) = q.toNat :=
    portValue_writeDigits (lt_pow_digitCount _)
  have hlen := length_connPortToStr_le q
  have hfit : (RemoteAddr.inet text q).shown.length ≤ dest.length := by
    simp only [RemoteAddr.shown, List.length_append, List.length_cons]
    omega
  refine ⟨writeDigits (digitCount q.toNat) q.toNat, ?_, by rw [hq, hv], by omega⟩
  rw [connGetRemoteAddr_inet, Buf.store?_zero hfit, RemoteAddr.shown, connPortToStr_eq]
  simp only [List.length_append, List.length_cons, List.append_assoc, List.cons_append]
  congr 4

/-- A peer at port `8100` (`0x1fa4`) of `1.2.3.4`, on a little-endian host, shows as
`1.2.3.4:42015` (`0xa41f`). -/
example : connGetRemoteAddr (List.replicate 54 0) (.inet [49, 46, 50, 46, 51, 46, 52] (htons true 8100)) =
    some ([49, 46, 50, 46, 51, 46, 52, 58, 52, 50, 48, 49, 53, 0] ++ List.replicate 40 0) := by
  decide +kernel

theorem connGetRemoteAddr_port_swapped_8100 :
    (List.replicate 54 (0 : UInt8)).length = 54 ∧ ([49] : List UInt8).length ≤ 15 ∧
      ∃ ds, connGetRemoteAddr (List.replicate 54 0) (.inet [49] (htons true 8100)) =
          some ([49] ++ ':'.toUInt8 :: ds ++ [0] ++ (List.replicate 54 0).drop (1 + ds.length + 2)) ∧
        portValue ds = (8100 : UInt16).toNat % 256 * 256 + (8100 : UInt16).toNat / 256 ∧
        (portValue ds = (8100 : UInt16).toNat ↔
          (8100 : UInt16).toNat % 256 = (8100 : UInt16).toNat / 256) :=
  ⟨rfl, by decide, connGetRemoteAddr_port_swapped rfl (by decide) 8100⟩

end RemoteAddr

end OpenElp
