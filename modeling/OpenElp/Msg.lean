import Mathlib.Data.List.GetD
import Mathlib.Data.UInt

/-!
# Proxy messages (`proxy_msg.h`)

After the handshake, client and proxy exchange messages on the same stream: a packed 9-byte
header `struct proxy_msg` (`type`, `address`, `size`) and then `size` bytes of data.  Both sides
copy the header between the stream and memory as it is, so its two `uint32_t` fields travel in
the byte order of the host; the model takes a little-endian host.

* `ProxyMsg.ofBytes_toBytes` : a header reads back as it was written, whatever follows it.
* `Frame.encode` : a message as its sender puts it on the stream, header then data;
  `ClientMsg` : the messages `proxy_msg.h` lets a client send.
-/

namespace OpenElp

/-- `enum PROXY_MSG_TYPE`. -/
inductive ProxyMsgType
  | tcpOpen
  | tcpData
  | tcpClose
  | tcpStatus
  | udpData
  | udpControl
  deriving DecidableEq, Repr

/-- The enumerators' values, from `PROXY_MSG_TYPE_TCP_OPEN = 1` on. -/
def ProxyMsgType.toByte : ProxyMsgType → UInt8
  | tcpOpen => 1
  | tcpData => 2
  | tcpClose => 3
  | tcpStatus => 4
  | udpData => 5
  | udpControl => 6

/-- The enumerator a `type` byte names, if any. -/
def ProxyMsgType.ofByte (b : UInt8) : Option ProxyMsgType :=
  [tcpOpen, tcpData, tcpClose, tcpStatus, udpData, udpControl].find? (·.toByte = b)

@[simp] theorem ProxyMsgType.ofByte_toByte (t : ProxyMsgType) : ofByte t.toByte = some t := by
  cases t <;> rfl

/-- The four bytes of a `uint32_t` in memory, least significant first. -/
def u32Bytes (x : UInt32) : List UInt8 :=
  [x.toUInt8, (x >>> 8).toUInt8, (x >>> 16).toUInt8, (x >>> 24).toUInt8]

/-- The `uint32_t` that the first four bytes of a buffer hold. -/
def u32OfBytes (b : List UInt8) : UInt32 :=
  (b.getD 0 0).toUInt32 + (b.getD 1 0).toUInt32 * 0x100 + (b.getD 2 0).toUInt32 * 0x10000 +
    (b.getD 3 0).toUInt32 * 0x1000000

@[simp] theorem u32Bytes_length (x : UInt32) : (u32Bytes x).length = 4 := rfl

/-- A `uint32_t` copied to memory and back is unchanged, whatever follows it. -/
@[simp] theorem u32OfBytes_u32Bytes (x : UInt32) (rest : List UInt8) :
    u32OfBytes (u32Bytes x ++ rest) = x := by
  simp only [u32OfBytes, u32Bytes, List.cons_append, List.nil_append, List.getD_cons_zero,
    List.getD_cons_succ]
  -- the four bytes are the value's base-256 digits
  apply UInt32.toNat_inj.1
  have := x.toNat_lt
  simp only [UInt32.toNat_add, UInt32.toNat_mul, UInt8.toNat_toUInt32, UInt32.toNat_toUInt8,
    UInt32.toNat_shiftRight]
  simp [Nat.shiftRight_eq_div_pow]
  omega

/-- `sizeof(struct proxy_msg)`: the header is packed. -/
def proxyMsgLen : ℕ := 9

/-- `struct proxy_msg`. -/
structure ProxyMsg where
  type : UInt8
  address : UInt32
  size : UInt32
  deriving DecidableEq, Repr

/-- The header's bytes in memory. -/
def ProxyMsg.toBytes (m : ProxyMsg) : List UInt8 :=
  m.type :: (u32Bytes m.address ++ u32Bytes m.size)

/-- The header that the first nine bytes of a buffer hold. -/
def ProxyMsg.ofBytes (b : List UInt8) : ProxyMsg :=
  ⟨b.getD 0 0, u32OfBytes (b.drop 1), u32OfBytes (b.drop 5)⟩

@[simp] theorem ProxyMsg.toBytes_length (m : ProxyMsg) : m.toBytes.length = proxyMsgLen := rfl

/-- **A header reads back as it was written**, whatever follows it in the buffer. -/
@[simp] theorem ProxyMsg.ofBytes_toBytes (m : ProxyMsg) (rest : List UInt8) :
    ofBytes (m.toBytes ++ rest) = m := by
  have hsize : (u32Bytes m.address ++ (u32Bytes m.size ++ rest)).drop 4 =
      u32Bytes m.size ++ rest :=
    List.drop_left' (u32Bytes_length _)
  simp [ofBytes, toBytes, hsize]

/-- A message: its type, its address and data that fit the `size` field. -/
structure Frame where
  type : ProxyMsgType
  address : UInt32
  payload : List UInt8
  size_lt : payload.length < 2 ^ 32

/-- The header that announces a message. -/
def Frame.header (f : Frame) : ProxyMsg :=
  ⟨f.type.toByte, f.address, f.payload.length.toUInt32⟩

/-- A message on the stream: its header, then its data. -/
def Frame.encode (f : Frame) : List UInt8 := f.header.toBytes ++ f.payload

@[simp] theorem Frame.header_size (f : Frame) : f.header.size.toNat = f.payload.length := by
  have := f.size_lt
  simp [header]
  omega

@[simp] theorem Frame.encode_length (f : Frame) :
    f.encode.length = proxyMsgLen + f.payload.length := by
  simp [encode]

/-- A message as `proxy_msg.h` lets a client send it: of a type the client sends, and without
data when it opens or closes the TCP connection. -/
structure ClientMsg extends Frame where
  not_status : type ≠ .tcpStatus
  empty_of_open_close : type = .tcpOpen ∨ type = .tcpClose → payload = []

end OpenElp
