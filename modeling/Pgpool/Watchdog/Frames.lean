-- The frames of the watchdog's sockets, byte by byte: write_packet_to_socket,
-- read_packet_of_type on a peer connection, and the reads of
-- read_ipc_socket_and_process on an IPC socket. A frame is read back as it
-- was written, and what is read as a packet was written as one; a stream that
-- ends early closes the connection. A length the allocator refuses raises an
-- error to the main loop with the connection open inside the frame, and an IPC
-- frame whose data never comes leaves its command object allocated.
import Pgpool.Watchdog.Cluster
import Mathlib.Algebra.Group.Int

namespace pgpool.watchdog

/-! ## Bytes on the wire -/

/-- The four bytes of `htonl(n)`, most significant first. -/
def bytes32 (n : Nat) : List UInt8 :=
  [UInt8.ofNat (n / 2 ^ 24 % 256), UInt8.ofNat (n / 2 ^ 16 % 256), UInt8.ofNat (n / 2 ^ 8 % 256),
    UInt8.ofNat (n % 256)]

/-- `ntohl` of the bytes read, most significant first. -/
def ntohl (b : List UInt8) : Nat := b.foldl (fun acc x => acc * 256 + x.toNat) 0

/-- The `int` that holds the 32 bits `n`. -/
def int32OfBits (n : Nat) : Int := if n < 2 ^ 31 then n else (n : Int) - 2 ^ 32

/-- The 32 bits an `int` is written as. -/
def bitsOfInt32 (x : Int) : Nat := (x % 2 ^ 32).toNat

/-- `socket_read`, which src/ does not hold: the `n` bytes the stream starts
with and their count, or 0 when the stream ends first and the remote end has
closed. -/
def socketRead (stream : List UInt8) (n : Nat) : Nat × List UInt8 × List UInt8 :=
  if n ≤ stream.length then (n, stream.take n, stream.drop n) else (0, [], [])

/-- `write_packet_to_socket`: the type, the command id unless the frame is an
IPC one, the length, and the data when the length is positive. -/
def writePacketToSocket (pkt : WDPacketData) (ipcPacket : Bool) : List UInt8 :=
  pkt.type :: (if ipcPacket then [] else bytes32 pkt.commandId.toNat) ++ bytes32 (bitsOfInt32 pkt.len) ++
    (if 0 < pkt.len then pkt.data else [])

/-! ## The readers -/

/-- How `read_packet_of_type` ends. -/
inductive PacketRead
  /-- a whole packet, and the bytes after it -/
  | packet (pkt : WDPacketData) (rest : List UInt8)
  /-- nothing read: the connection is not connected -/
  | unread
  /-- no packet: the connection is closed -/
  | closed
  /-- `ereport(ERROR)` from the allocation, back to the main loop, with the
  connection open and `rest` unread -/
  | raised (rest : List UInt8)
  deriving DecidableEq, Repr

/-- `read_packet_of_type` on a connection that is `connected`, for packets of
type `ensureType` (any type for `WD_NO_MESSAGE`). `palloc`, which src/ does not
hold, refuses a size above `maxAllocSize`, and the negative lengths, which it
takes as sizes above any such bound. -/
def readPacketOfType (maxAllocSize : Nat) (connected : Bool) (ensureType : MsgType)
    (stream : List UInt8) : PacketRead :=
  if connected = false then .unread
  else
    let (ret, typeByte, s) := socketRead stream 1
    let type := typeByte.headD 0
    if ret ≠ 1 then .closed
    else if ensureType ≠ wdNoMessage ∧ ensureType ≠ type then .closed
    else
      let (ret, idBytes, s) := socketRead s 4
      if ret ≠ 4 then .closed
      else
        let (ret, lenBytes, s) := socketRead s 4
        let len := int32OfBits (ntohl lenBytes)
        if ret ≠ 4 then .closed
        else if ¬ (0 ≤ len ∧ len.toNat ≤ maxAllocSize) then .raised s
        else
          let (ret, data, s) := socketRead s len.toNat
          if (ret : Int) ≠ len then .closed
          else .packet ⟨type, UInt32.ofNat (ntohl idBytes), len, data⟩ s

/-- How the reads of `read_ipc_socket_and_process` end. -/
inductive IpcRead
  /-- a frame of length word `len`, handed to `process_IPC_command`, and the
  bytes after it -/
  | frame (type : MsgType) (len : Int) (data : List UInt8) (rest : List UInt8)
  /-- the function returns false and the socket is to be removed; `leaked`
  when a command object was created and is never deleted -/
  | removed (leaked : Bool)
  /-- `ereport(ERROR)` from the allocation, back to the main loop, with the
  socket open and `rest` unread -/
  | raised (rest : List UInt8)
  deriving DecidableEq, Repr

/-- The reads of `read_ipc_socket_and_process` and the `create_command_object`
between them, with `palloc` as in `readPacketOfType`. -/
def readIpcFrame (maxAllocSize : Nat) (stream : List UInt8) : IpcRead :=
  let (ret, typeByte, s) := socketRead stream 1
  let type := typeByte.headD 0
  if ret ≠ 1 then .removed false
  else
    let (ret, lenBytes, s) := socketRead s 4
    let dataLen := int32OfBits (ntohl lenBytes)
    if ret ≠ 4 then .removed false
    else if 0 < dataLen ∧ maxAllocSize < dataLen.toNat then .raised s
    else if 0 < dataLen then
      let (ret, data, s) := socketRead s dataLen.toNat
      if ret = 0 then .removed true
      else .frame type dataLen data s
    else .frame type dataLen [] s

/-! ## The arithmetic of the words -/

@[simp] theorem toNat_ofNat_mod_256 (k : Nat) : (UInt8.ofNat (k % 256)).toNat = k % 256 :=
  UInt8.toNat_ofNat_of_lt (Nat.mod_lt _ (by decide))

theorem ntohl_bytes32 {n : Nat} (h : n < 2 ^ 32) : ntohl (bytes32 n) = n := by
  simp only [ntohl, bytes32, List.foldl, toNat_ofNat_mod_256]
  omega

theorem bytes32_ntohl {b : List UInt8} (h : b.length = 4) : bytes32 (ntohl b) = b := by
  match b, h with
  | [b0, b1, b2, b3], _ =>
    have : b0.toNat < 256 := b0.toNat_lt_size
    have : b1.toNat < 256 := b1.toNat_lt_size
    have : b2.toNat < 256 := b2.toNat_lt_size
    have : b3.toNat < 256 := b3.toNat_lt_size
    simp only [bytes32, ntohl, List.foldl, List.cons.injEq, and_true]
    refine ⟨?_, ?_, ?_, ?_⟩ <;> apply UInt8.toNat.inj <;> rw [toNat_ofNat_mod_256] <;> omega

theorem ntohl_lt {b : List UInt8} (h : b.length = 4) : ntohl b < 2 ^ 32 := by
  match b, h with
  | [b0, b1, b2, b3], _ =>
    have : b0.toNat < 256 := b0.toNat_lt_size
    have : b1.toNat < 256 := b1.toNat_lt_size
    have : b2.toNat < 256 := b2.toNat_lt_size
    have : b3.toNat < 256 := b3.toNat_lt_size
    simp only [ntohl, List.foldl]
    omega

@[simp] theorem length_bytes32 (n : Nat) : (bytes32 n).length = 4 := rfl

theorem int32OfBits_bitsOfInt32 {x : Int} (h1 : -2 ^ 31 ≤ x) (h2 : x < 2 ^ 31) :
    int32OfBits (bitsOfInt32 x) = x := by
  simp only [int32OfBits, bitsOfInt32]
  split_ifs <;> omega

theorem bitsOfInt32_int32OfBits {n : Nat} (h : n < 2 ^ 32) : bitsOfInt32 (int32OfBits n) = n := by
  simp only [int32OfBits, bitsOfInt32]
  split_ifs <;> omega

theorem int32OfBits_bounds (n : Nat) : -2 ^ 31 ≤ int32OfBits n ∧ (n < 2 ^ 32 → int32OfBits n < 2 ^ 31) := by
  simp only [int32OfBits]
  split_ifs <;> omega

theorem socketRead_append (l rest : List UInt8) :
    socketRead (l ++ rest) l.length = (l.length, l, rest) := by
  simp [socketRead]

theorem socketRead_of_length_lt {s : List UInt8} {n : Nat} (h : s.length < n) :
    socketRead s n = (0, [], []) := by
  simp [socketRead, Nat.not_le.2 h]

theorem socketRead_append_of_length {l : List UInt8} {n : Nat} (rest : List UInt8) (h : l.length = n) :
    socketRead (l ++ rest) n = (n, l, rest) := by
  subst h; exact socketRead_append l rest

@[simp] theorem socketRead_cons (x : UInt8) (s : List UInt8) : socketRead (x :: s) 1 = (1, [x], s) := by
  simp [socketRead]

@[simp] theorem socketRead_bytes32 (n : Nat) (s : List UInt8) :
    socketRead (bytes32 n ++ s) 4 = (4, bytes32 n, s) :=
  socketRead_append_of_length s (length_bytes32 n)

theorem socketRead_cases (s : List UInt8) (n : Nat) :
    (n ≤ s.length ∧ socketRead s n = (n, s.take n, s.drop n)) ∨
      (s.length < n ∧ socketRead s n = (0, [], [])) := by
  by_cases h : n ≤ s.length
  · exact .inl ⟨h, by simp [socketRead, h]⟩
  · exact .inr ⟨by omega, by simp [socketRead, h]⟩

/-- A read that returns the count asked for splits the stream there. -/
theorem socketRead_split {s b s' : List UInt8} {n : Nat} (h : socketRead s n = (n, b, s')) :
    s = b ++ s' ∧ b.length = n := by
  rcases socketRead_cases s n with ⟨hn, e⟩ | ⟨hn, e⟩ <;> rw [e] at h <;> injection h with h1 h2
  · injection h2 with hb hs
    exact ⟨hb ▸ hs ▸ (List.take_append_drop n s).symm, hb ▸ List.length_take_of_le hn⟩
  · omega

/-- A read that returns anything returns the count asked for. -/
theorem socketRead_of_ne_zero {s b s' : List UInt8} {n k : Nat} (h : socketRead s n = (k, b, s'))
    (hk : k ≠ 0) : socketRead s n = (n, b, s') := by
  rcases socketRead_cases s n with ⟨_, e⟩ | ⟨_, e⟩ <;> rw [e] at h ⊢ <;> injection h with h1 h2
  · rw [h2]
  · omega

theorem bytes32_bitsOfInt32_int32OfBits {b : List UInt8} (h : b.length = 4) :
    bytes32 (bitsOfInt32 (int32OfBits (ntohl b))) = b := by
  rw [bitsOfInt32_int32OfBits (ntohl_lt h), bytes32_ntohl h]

theorem ntohl_bytes32_bitsOfInt32 (x : Int) : ntohl (bytes32 (bitsOfInt32 x)) = bitsOfInt32 x :=
  ntohl_bytes32 (by simp only [bitsOfInt32]; omega)

theorem bytes32_uint32_ofNat_ntohl {b : List UInt8} (h : b.length = 4) :
    bytes32 (UInt32.ofNat (ntohl b)).toNat = b := by
  rw [UInt32.toNat_ofNat_of_lt (ntohl_lt h), bytes32_ntohl h]

/-- A negative length goes out as its two's complement bits. -/
example : bytes32 (bitsOfInt32 (-1)) = [255, 255, 255, 255] := by decide

theorem uint32_ofNat_ntohl_bytes32 (id : UInt32) : UInt32.ofNat (ntohl (bytes32 id.toNat)) = id := by
  have h := id.toNat_lt_size
  rw [ntohl_bytes32 h]
  exact UInt32.toNat.inj (UInt32.toNat_ofNat_of_lt h)

theorem data_of_len {len : Int} {data : List UInt8} (h : len = data.length) :
    (if 0 < len then data else []) = data := by
  split_ifs with hp
  · rfl
  · exact (List.length_eq_zero.1 (by omega)).symm

/-! ## A frame read back -/

/-- A packet written to a peer connection is read back whole, whatever
follows it. -/
theorem readPacketOfType_writePacketToSocket (maxAllocSize : Nat) (ensureType : MsgType)
    (pkt : WDPacketData) (rest : List UInt8) (hlen : pkt.len = pkt.data.length)
    (hmax : pkt.data.length ≤ maxAllocSize) (h31 : pkt.data.length < 2 ^ 31)
    (htype : ensureType = wdNoMessage ∨ ensureType = pkt.type) :
    readPacketOfType maxAllocSize true ensureType (writePacketToSocket pkt false ++ rest) =
      .packet pkt rest := by
  have hl : int32OfBits (bitsOfInt32 pkt.len) = pkt.len := int32OfBits_bitsOfInt32 (by omega) (by omega)
  have ht : ¬ (ensureType ≠ wdNoMessage ∧ ensureType ≠ pkt.type) := fun h => htype.elim h.1 h.2
  have hd : pkt.len.toNat = pkt.data.length := by omega
  have hw : writePacketToSocket pkt false ++ rest =
      pkt.type :: (bytes32 pkt.commandId.toNat ++ (bytes32 (bitsOfInt32 pkt.len) ++ (pkt.data ++ rest))) := by
    simp [writePacketToSocket, data_of_len hlen]
  unfold readPacketOfType
  rw [hw, socketRead_cons, if_neg (by decide)]
  dsimp only
  rw [socketRead_bytes32, socketRead_bytes32, ntohl_bytes32_bitsOfInt32, hl, hd, socketRead_append]
  have h0 : 0 ≤ pkt.len ∧ pkt.data.length ≤ maxAllocSize := ⟨by omega, hmax⟩
  simp only [ne_eq, not_true_eq_false, if_false, List.headD_cons, ht, h0, ← hlen, uint32_ofNat_ntohl_bytes32,
    and_self]

/-- What is read as a packet was written as one, and the bytes after it are
left unread. -/
theorem readPacketOfType_packet {maxAllocSize : Nat} {ensureType : MsgType} {stream : List UInt8}
    {pkt : WDPacketData} {rest : List UInt8}
    (h : readPacketOfType maxAllocSize true ensureType stream = .packet pkt rest) :
    stream = writePacketToSocket pkt false ++ rest ∧ pkt.len = pkt.data.length := by
  unfold readPacketOfType at h
  generalize hr1 : socketRead stream 1 = r1 at h
  obtain ⟨n1, b1, s1⟩ := r1
  dsimp only at h
  generalize hr2 : socketRead s1 4 = r2 at h
  obtain ⟨n2, b2, s2⟩ := r2
  dsimp only at h
  generalize hr3 : socketRead s2 4 = r3 at h
  obtain ⟨n3, b3, s3⟩ := r3
  dsimp only at h
  generalize hr4 : socketRead s3 (int32OfBits (ntohl b3)).toNat = r4 at h
  obtain ⟨n4, b4, s4⟩ := r4
  dsimp only at h
  obtain ⟨-, ⟨⟩⟩ | ⟨-, e1⟩ := ite_eq_iff.1 h
  obtain ⟨-, ⟨⟩⟩ | ⟨h1, e2⟩ := ite_eq_iff.1 e1
  obtain ⟨-, ⟨⟩⟩ | ⟨-, e3⟩ := ite_eq_iff.1 e2
  obtain ⟨-, ⟨⟩⟩ | ⟨h2, e4⟩ := ite_eq_iff.1 e3
  obtain ⟨-, ⟨⟩⟩ | ⟨h3, e5⟩ := ite_eq_iff.1 e4
  obtain ⟨-, ⟨⟩⟩ | ⟨-, e6⟩ := ite_eq_iff.1 e5
  obtain ⟨-, ⟨⟩⟩ | ⟨h5, ⟨⟩⟩ := ite_eq_iff.1 e6
  simp only [ne_eq, not_not] at h1 h2 h3 h5
  subst h1 h2 h3
  obtain rfl : n4 = (int32OfBits (ntohl b3)).toNat := by omega
  obtain ⟨rfl, hb1⟩ := socketRead_split hr1
  obtain ⟨rfl, hb2⟩ := socketRead_split hr2
  obtain ⟨rfl, hb3⟩ := socketRead_split hr3
  obtain ⟨rfl, hb4⟩ := socketRead_split hr4
  have hlen : int32OfBits (ntohl b3) = b4.length := by omega
  obtain ⟨x, rfl⟩ := List.length_eq_one.1 hb1
  refine ⟨?_, hlen⟩
  simp [writePacketToSocket, data_of_len hlen, bytes32_uint32_ofNat_ntohl hb2,
    bytes32_bitsOfInt32_int32OfBits hb3]

/-- An IPC frame written by `write_packet_to_socket` is read back whole. -/
theorem readIpcFrame_writePacketToSocket (maxAllocSize : Nat) (pkt : WDPacketData) (rest : List UInt8)
    (hlen : pkt.len = pkt.data.length) (hmax : pkt.data.length ≤ maxAllocSize)
    (h31 : pkt.data.length < 2 ^ 31) :
    readIpcFrame maxAllocSize (writePacketToSocket pkt true ++ rest) =
      .frame pkt.type pkt.len pkt.data rest := by
  have hl : int32OfBits (bitsOfInt32 pkt.len) = pkt.len := int32OfBits_bitsOfInt32 (by omega) (by omega)
  have hd : pkt.len.toNat = pkt.data.length := by omega
  have hw : writePacketToSocket pkt true ++ rest =
      pkt.type :: (bytes32 (bitsOfInt32 pkt.len) ++ (pkt.data ++ rest)) := by
    simp [writePacketToSocket, data_of_len hlen]
  have hm : ¬ (0 < pkt.len ∧ maxAllocSize < pkt.len.toNat) := by omega
  unfold readIpcFrame
  rw [hw, socketRead_cons]
  dsimp only
  rw [socketRead_bytes32, ntohl_bytes32_bitsOfInt32, hl]
  simp only [ne_eq, not_true_eq_false, if_false, hm]
  by_cases hp : 0 < pkt.len
  · rw [if_pos hp, hd, socketRead_append, if_neg (by omega)]
    rfl
  · rw [if_neg hp, List.length_eq_zero.1 (by omega : pkt.data.length = 0)]
    rfl

/-- What is read as an IPC frame was written as one, with as many data bytes
as its length word says when that is positive and none otherwise. -/
theorem readIpcFrame_frame {maxAllocSize : Nat} {stream : List UInt8} {type : MsgType} {len : Int}
    {data rest : List UInt8} (h : readIpcFrame maxAllocSize stream = .frame type len data rest) :
    stream = writePacketToSocket ⟨type, 0, len, data⟩ true ++ rest ∧ data.length = len.toNat := by
  unfold readIpcFrame at h
  generalize hr1 : socketRead stream 1 = r1 at h
  obtain ⟨n1, b1, s1⟩ := r1
  dsimp only at h
  generalize hr2 : socketRead s1 4 = r2 at h
  obtain ⟨n2, b2, s2⟩ := r2
  dsimp only at h
  generalize hr3 : socketRead s2 (int32OfBits (ntohl b2)).toNat = r3 at h
  obtain ⟨n3, b3, s3⟩ := r3
  dsimp only at h
  obtain ⟨-, ⟨⟩⟩ | ⟨h1, e1⟩ := ite_eq_iff.1 h
  obtain ⟨-, ⟨⟩⟩ | ⟨h2, e2⟩ := ite_eq_iff.1 e1
  obtain ⟨-, ⟨⟩⟩ | ⟨-, e3⟩ := ite_eq_iff.1 e2
  obtain rfl := not_not.1 h1
  obtain rfl := not_not.1 h2
  obtain ⟨rfl, hb1⟩ := socketRead_split hr1
  obtain ⟨rfl, hb2⟩ := socketRead_split hr2
  obtain ⟨x, rfl⟩ := List.length_eq_one.1 hb1
  obtain ⟨hp, e4⟩ | ⟨hp, e4⟩ := ite_eq_iff.1 e3
  · obtain ⟨-, ⟨⟩⟩ | ⟨h3, e5⟩ := ite_eq_iff.1 e4
    injection e5 with ht hl hd hs
    subst ht hl hd hs
    obtain ⟨rfl, hb3⟩ := socketRead_split (socketRead_of_ne_zero hr3 h3)
    refine ⟨?_, hb3⟩
    simp [writePacketToSocket, hp, bytes32_bitsOfInt32_int32OfBits hb2]
  · injection e4 with ht hl hd hs
    subst ht hl hd hs
    refine ⟨?_, by simp only [List.length_nil]; omega⟩
    simp [writePacketToSocket, hp, bytes32_bitsOfInt32_int32OfBits hb2]

/-! ## Frames the readers give up inside -/

/-- `read_packet_of_type` raises only after a whole header whose length word
`palloc` refuses, and leaves the connection just past that header. -/
theorem readPacketOfType_raised {maxAllocSize : Nat} {ensureType : MsgType} {stream rest : List UInt8}
    (h : readPacketOfType maxAllocSize true ensureType stream = .raised rest) :
    ∃ (type : MsgType) (id : UInt32) (len : Int),
      stream = type :: (bytes32 id.toNat ++ bytes32 (bitsOfInt32 len) ++ rest) ∧
        ¬ (0 ≤ len ∧ len.toNat ≤ maxAllocSize) := by
  unfold readPacketOfType at h
  generalize hr1 : socketRead stream 1 = r1 at h
  obtain ⟨n1, b1, s1⟩ := r1
  dsimp only at h
  generalize hr2 : socketRead s1 4 = r2 at h
  obtain ⟨n2, b2, s2⟩ := r2
  dsimp only at h
  generalize hr3 : socketRead s2 4 = r3 at h
  obtain ⟨n3, b3, s3⟩ := r3
  dsimp only at h
  obtain ⟨-, ⟨⟩⟩ | ⟨-, e1⟩ := ite_eq_iff.1 h
  obtain ⟨-, ⟨⟩⟩ | ⟨h1, e2⟩ := ite_eq_iff.1 e1
  obtain ⟨-, ⟨⟩⟩ | ⟨-, e3⟩ := ite_eq_iff.1 e2
  obtain ⟨-, ⟨⟩⟩ | ⟨h2, e4⟩ := ite_eq_iff.1 e3
  obtain ⟨-, ⟨⟩⟩ | ⟨h3, e5⟩ := ite_eq_iff.1 e4
  obtain ⟨hr, ⟨⟩⟩ := (ite_eq_iff.1 e5).resolve_right fun ⟨_, e⟩ => by split at e <;> nomatch e
  obtain rfl := not_not.1 h1
  obtain rfl := not_not.1 h2
  obtain rfl := not_not.1 h3
  obtain ⟨rfl, hb1⟩ := socketRead_split hr1
  obtain ⟨rfl, hb2⟩ := socketRead_split hr2
  obtain ⟨rfl, hb3⟩ := socketRead_split hr3
  obtain ⟨x, rfl⟩ := List.length_eq_one.1 hb1
  refine ⟨x, UInt32.ofNat (ntohl b2), int32OfBits (ntohl b3), ?_, hr⟩
  simp [bytes32_uint32_ofNat_ntohl hb2, bytes32_bitsOfInt32_int32OfBits hb3]

theorem readPacketOfType_ne_unread (maxAllocSize : Nat) (ensureType : MsgType) (stream : List UInt8) :
    readPacketOfType maxAllocSize true ensureType stream ≠ .unread := by
  unfold readPacketOfType
  rw [if_neg (by decide)]
  dsimp only
  intro h
  obtain ⟨-, ⟨⟩⟩ | ⟨-, e1⟩ := ite_eq_iff.1 h
  obtain ⟨-, ⟨⟩⟩ | ⟨-, e2⟩ := ite_eq_iff.1 e1
  obtain ⟨-, ⟨⟩⟩ | ⟨-, e3⟩ := ite_eq_iff.1 e2
  obtain ⟨-, ⟨⟩⟩ | ⟨-, e4⟩ := ite_eq_iff.1 e3
  obtain ⟨-, ⟨⟩⟩ | ⟨-, e5⟩ := ite_eq_iff.1 e4
  obtain ⟨-, ⟨⟩⟩ | ⟨-, ⟨⟩⟩ := ite_eq_iff.1 e5

/-- A stream that ends inside the header closes the connection. -/
theorem readPacketOfType_short_header {maxAllocSize : Nat} {ensureType : MsgType} {stream : List UInt8}
    (hs : stream.length < 9) : readPacketOfType maxAllocSize true ensureType stream = .closed := by
  match hr : readPacketOfType maxAllocSize true ensureType stream with
  | .packet pkt rest =>
    have := congrArg List.length (readPacketOfType_packet hr).1
    simp [writePacketToSocket] at this
    omega
  | .raised rest =>
    obtain ⟨type, id, len, e, -⟩ := readPacketOfType_raised hr
    have := congrArg List.length e
    simp at this
    omega
  | .unread => exact absurd hr (readPacketOfType_ne_unread _ _ _)
  | .closed => rfl

/-- A frame of a type the reader was not asked for closes the connection
after its first byte. -/
theorem readPacketOfType_unwanted (maxAllocSize : Nat) {ensureType type : MsgType} (s : List UInt8)
    (h1 : ensureType ≠ wdNoMessage) (h2 : ensureType ≠ type) :
    readPacketOfType maxAllocSize true ensureType (type :: s) = .closed := by
  unfold readPacketOfType
  rw [socketRead_cons]
  dsimp only
  rw [if_neg (by decide), if_neg (by decide), List.headD_cons, if_pos ⟨h1, h2⟩]

/-- A peer frame whose header arrives whole with a length word that `palloc`
refuses raises the error with the nine header bytes consumed. -/
theorem readPacketOfType_refused (maxAllocSize : Nat) (ensureType type : MsgType) (id : UInt32) (len : Int)
    (rest : List UInt8) (htype : ensureType = wdNoMessage ∨ ensureType = type) (h1 : -2 ^ 31 ≤ len)
    (h2 : len < 2 ^ 31) (hr : ¬ (0 ≤ len ∧ len.toNat ≤ maxAllocSize)) :
    readPacketOfType maxAllocSize true ensureType (type :: (bytes32 id.toNat ++ bytes32 (bitsOfInt32 len) ++ rest)) =
      .raised rest := by
  have ht : ¬ (ensureType ≠ wdNoMessage ∧ ensureType ≠ type) := fun h => htype.elim h.1 h.2
  unfold readPacketOfType
  rw [socketRead_cons, List.append_assoc]
  dsimp only
  rw [socketRead_bytes32, socketRead_bytes32, ntohl_bytes32_bitsOfInt32, int32OfBits_bitsOfInt32 h1 h2]
  simp only [ne_eq, not_true_eq_false, if_false, List.headD_cons, ht, hr, not_false_eq_true, if_true,
    Bool.true_eq_false]

/-- An IPC frame with a length word that `palloc` refuses raises the error
from `create_command_object` with the five header bytes consumed. -/
theorem readIpcFrame_refused (maxAllocSize : Nat) (type : MsgType) (len : Int) (rest : List UInt8)
    (h2 : len < 2 ^ 31) (hr : maxAllocSize < len.toNat) :
    readIpcFrame maxAllocSize (type :: (bytes32 (bitsOfInt32 len) ++ rest)) = .raised rest := by
  have hl : int32OfBits (bitsOfInt32 len) = len := int32OfBits_bitsOfInt32 (by omega) h2
  have hm : 0 < len ∧ maxAllocSize < len.toNat := ⟨by omega, hr⟩
  unfold readIpcFrame
  rw [socketRead_cons]
  dsimp only
  rw [socketRead_bytes32, ntohl_bytes32_bitsOfInt32, hl]
  simp only [ne_eq, not_true_eq_false, if_false, hm, and_self, if_true]

/-- An IPC frame whose data ends before its length word says removes the
socket after the command object was made, and nothing deletes it. -/
theorem readIpcFrame_short (maxAllocSize : Nat) (type : MsgType) (len : Int) (data : List UInt8)
    (h0 : 0 < len) (h2 : len < 2 ^ 31) (hm : len.toNat ≤ maxAllocSize) (hs : data.length < len.toNat) :
    readIpcFrame maxAllocSize (type :: (bytes32 (bitsOfInt32 len) ++ data)) = .removed true := by
  have hl : int32OfBits (bitsOfInt32 len) = len := int32OfBits_bitsOfInt32 (by omega) h2
  have hn : ¬ maxAllocSize < len.toNat := by omega
  unfold readIpcFrame
  rw [socketRead_cons]
  dsimp only
  rw [socketRead_bytes32, ntohl_bytes32_bitsOfInt32, hl, socketRead_of_length_lt hs]
  simp only [ne_eq, not_true_eq_false, if_false, h0, true_and, hn, if_true]

/-- The readers leave half-read state behind: a peer frame or an IPC frame
whose length word `palloc` refuses raises the error back to the main loop with
the connection open inside the frame, and an IPC frame whose data ends early
removes the socket with its command object never deleted. -/
theorem malformed_frames_leave_half_read_state (maxAllocSize : Nat) :
    (∀ (ensureType type : MsgType) (id : UInt32) (len : Int) (rest : List UInt8),
      (ensureType = wdNoMessage ∨ ensureType = type) → -2 ^ 31 ≤ len → len < 2 ^ 31 →
        ¬ (0 ≤ len ∧ len.toNat ≤ maxAllocSize) →
        readPacketOfType maxAllocSize true ensureType
          (type :: (bytes32 id.toNat ++ bytes32 (bitsOfInt32 len) ++ rest)) = .raised rest) ∧
    (∀ (type : MsgType) (len : Int) (rest : List UInt8), len < 2 ^ 31 → maxAllocSize < len.toNat →
        readIpcFrame maxAllocSize (type :: (bytes32 (bitsOfInt32 len) ++ rest)) = .raised rest) ∧
    (∀ (type : MsgType) (len : Int) (data : List UInt8), 0 < len → len < 2 ^ 31 →
        len.toNat ≤ maxAllocSize → data.length < len.toNat →
        readIpcFrame maxAllocSize (type :: (bytes32 (bitsOfInt32 len) ++ data)) = .removed true) :=
  ⟨readPacketOfType_refused maxAllocSize, readIpcFrame_refused maxAllocSize, readIpcFrame_short maxAllocSize⟩

/-- With the allocator's bound `MaxAllocSize`, an Info frame of length -1
raises inside the frame, and an IPC frame of length 8 with three data bytes
leaks its command object. -/
theorem info_frames_leave_half_read_state :
    readPacketOfType 1073741823 true wdNoMessage
        (wdInfoMessage :: (bytes32 7 ++ bytes32 (bitsOfInt32 (-1)) ++ [1, 2])) = .raised [1, 2] ∧
      readIpcFrame 1073741823 (wdInfoMessage :: (bytes32 (bitsOfInt32 8) ++ [1, 2, 3])) = .removed true :=
  ⟨(malformed_frames_leave_half_read_state 1073741823).1 wdNoMessage wdInfoMessage 7 (-1) [1, 2] (.inl rfl)
      (by decide) (by decide) (by decide),
    (malformed_frames_leave_half_read_state 1073741823).2.2 wdInfoMessage 8 [1, 2, 3] (by decide) (by decide)
      (by decide) (by decide)⟩

end pgpool.watchdog
