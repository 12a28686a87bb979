-- Streams of frames: packets written back to back by write_packet_to_socket
-- and read by successive read_packet_of_type calls on the receiving end, and
-- the same for IPC frames and read_ipc_socket_and_process. The writer and
-- the readers agree on the header layout and its byte order, so every
-- sendable packet is read back as written, in order, and the reads leave the
-- bytes after the last frame; and what the reads take as packets was written
-- as packets.
import Mathlib.Data.List.Forall2
import Pgpool.Watchdog.Frames

namespace pgpool.watchdog

/-! ## Sendable packets and streams -/

/-- A packet that `write_packet_to_socket` can send and the reader's `palloc`
admits: its length field counts its payload, which fits in the `int` of the
field and in the allocator's bound. -/
structure Sendable (maxAllocSize : Nat) (pkt : WDPacketData) : Prop where
  len_eq : pkt.len = pkt.data.length
  fits : pkt.data.length ≤ maxAllocSize
  int_range : pkt.data.length < 2 ^ 31

instance (maxAllocSize : Nat) (pkt : WDPacketData) : Decidable (Sendable maxAllocSize pkt) :=
  decidable_of_iff (pkt.len = pkt.data.length ∧ pkt.data.length ≤ maxAllocSize ∧ pkt.data.length < 2 ^ 31)
    ⟨fun h => ⟨h.1, h.2.1, h.2.2⟩, fun h => ⟨h.1, h.2, h.3⟩⟩

/-- The bytes of the packets `pkts` written back to back. -/
def writePackets (ipcPacket : Bool) (pkts : List WDPacketData) : List UInt8 :=
  pkts.flatMap (writePacketToSocket · ipcPacket)

@[simp] theorem writePackets_nil (ipcPacket : Bool) : writePackets ipcPacket [] = [] := rfl

@[simp] theorem writePackets_cons (ipcPacket : Bool) (pkt : WDPacketData) (pkts : List WDPacketData) :
    writePackets ipcPacket (pkt :: pkts) = writePacketToSocket pkt ipcPacket ++ writePackets ipcPacket pkts :=
  List.flatMap_cons _ _ _

/-- Successive `read_packet_of_type` calls on one connection, the `k`-th for
packets of type `ensureTypes[k]`: the packets read, up to the first call
that does not return one, and the bytes left. -/
def readPacketsOfType (maxAllocSize : Nat) : List MsgType → List UInt8 → List WDPacketData × List UInt8
  | [], s => ([], s)
  | t :: ts, s =>
    match readPacketOfType maxAllocSize true t s with
    | .packet pkt rest =>
      let r := readPacketsOfType maxAllocSize ts rest
      (pkt :: r.1, r.2)
    | _ => ([], s)

/-- `n` successive reads of `read_ipc_socket_and_process` on one IPC socket:
the type, length and data of each frame read, up to the first read that does
not give one, and the bytes left. -/
def readIpcFrames (maxAllocSize : Nat) : Nat → List UInt8 → List (MsgType × Int × List UInt8) × List UInt8
  | 0, s => ([], s)
  | n + 1, s =>
    match readIpcFrame maxAllocSize s with
    | .frame type len data rest =>
      let r := readIpcFrames maxAllocSize n rest
      ((type, len, data) :: r.1, r.2)
    | _ => ([], s)

/-- The type, length and payload of a frame, as an IPC read gives them. -/
def WDPacketData.ipcFrame (pkt : WDPacketData) : MsgType × Int × List UInt8 := (pkt.type, pkt.len, pkt.data)

/-! ## Every stream is read back as written -/

/-- The packets of a stream are read back in order, each by a call that takes
any type or its own. -/
theorem readPacketsOfType_writePackets (maxAllocSize : Nat) {ensureTypes : List MsgType}
    {pkts : List WDPacketData} (rest : List UInt8) (hs : ∀ pkt ∈ pkts, Sendable maxAllocSize pkt)
    (ht : List.Forall₂ (fun t pkt => t = wdNoMessage ∨ t = WDPacketData.type pkt) ensureTypes pkts) :
    readPacketsOfType maxAllocSize ensureTypes (writePackets false pkts ++ rest) = (pkts, rest) := by
  induction ht with
  | nil => rfl
  | @cons t pkt ts pkts htype _ ih =>
    have hp := hs pkt (List.mem_cons_self _ _)
    rw [writePackets_cons, List.append_assoc, readPacketsOfType,
      readPacketOfType_writePacketToSocket maxAllocSize t pkt _ hp.len_eq hp.fits hp.int_range htype]
    dsimp only
    rw [ih fun p hp => hs p (List.mem_cons_of_mem _ hp)]

/-- The frames of an IPC stream are read back in order. -/
theorem readIpcFrames_writePackets (maxAllocSize : Nat) (pkts : List WDPacketData) (rest : List UInt8)
    (hs : ∀ pkt ∈ pkts, Sendable maxAllocSize pkt) :
    readIpcFrames maxAllocSize pkts.length (writePackets true pkts ++ rest) =
      (pkts.map WDPacketData.ipcFrame, rest) := by
  induction pkts with
  | nil => rfl
  | cons pkt pkts ih =>
    have hp := hs pkt (List.mem_cons_self _ _)
    rw [writePackets_cons, List.append_assoc, List.length_cons, readIpcFrames,
      readIpcFrame_writePacketToSocket maxAllocSize pkt _ hp.len_eq hp.fits hp.int_range]
    dsimp only
    rw [ih fun p hp => hs p (List.mem_cons_of_mem _ hp)]
    rfl

/-- What successive reads take as packets was written as packets, each with a
length field that counts its payload, and the bytes after them are left. -/
theorem readPacketsOfType_eq {maxAllocSize : Nat} :
    ∀ {ensureTypes : List MsgType} {stream rest : List UInt8} {pkts : List WDPacketData},
      readPacketsOfType maxAllocSize ensureTypes stream = (pkts, rest) →
        stream = writePackets false pkts ++ rest ∧ ∀ pkt ∈ pkts, pkt.len = pkt.data.length
  | [], _, _, _, h => by
    injection h with hp hr
    subst hp hr
    exact ⟨rfl, nofun⟩
  | t :: ts, stream, rest, pkts, h => by
    unfold readPacketsOfType at h
    split at h
    · rename_i pkt s hread
      generalize hr : readPacketsOfType maxAllocSize ts s = r at h
      obtain ⟨pkts', rest'⟩ := r
      injection h with hp hr'
      subst hp hr'
      obtain ⟨hstream, hlen⟩ := readPacketOfType_packet hread
      obtain ⟨hs, hlens⟩ := readPacketsOfType_eq hr
      refine ⟨?_, ?_⟩
      · rw [hstream, hs, writePackets_cons, List.append_assoc]
      · rintro p (_ | ⟨_, hp⟩)
        exacts [hlen, hlens p hp]
    · injection h with hp hr
      subst hp hr
      exact ⟨rfl, nofun⟩

/-- Frame encoding and decoding are inverse. Sendable packets written back to
back to a peer are read by successive `read_packet_of_type` calls, each
taking any type or the packet's, as the same packets (type, command id,
length and payload) in the same order, the bytes after them left unread; and
IPC frames written back to back are read by `read_ipc_socket_and_process` as
the same type, length and payload. -/
theorem frames_read_back (maxAllocSize : Nat) :
    (∀ (ensureTypes : List MsgType) (pkts : List WDPacketData) (rest : List UInt8),
      (∀ pkt ∈ pkts, Sendable maxAllocSize pkt) →
      List.Forall₂ (fun t pkt => t = wdNoMessage ∨ t = WDPacketData.type pkt) ensureTypes pkts →
      readPacketsOfType maxAllocSize ensureTypes (writePackets false pkts ++ rest) = (pkts, rest)) ∧
    ∀ (pkts : List WDPacketData) (rest : List UInt8), (∀ pkt ∈ pkts, Sendable maxAllocSize pkt) →
      readIpcFrames maxAllocSize pkts.length (writePackets true pkts ++ rest) =
        (pkts.map WDPacketData.ipcFrame, rest) :=
  ⟨fun _ _ rest hs ht => readPacketsOfType_writePackets maxAllocSize rest hs ht,
    readIpcFrames_writePackets maxAllocSize⟩

/-- An Info packet of two bytes and an empty Accept, read by a call for any
type and one for accepts, with `MaxAllocSize` the allocator's bound; the same
two as IPC frames. -/
theorem frames_read_back_sample :
    (∀ pkt ∈ [⟨wdInfoMessage, 7, 2, [1, 2]⟩, ⟨wdAcceptMessage, 9, 0, []⟩], Sendable 1073741823 pkt) ∧
    List.Forall₂ (fun t pkt => t = wdNoMessage ∨ t = WDPacketData.type pkt) [wdNoMessage, wdAcceptMessage]
      [⟨wdInfoMessage, 7, 2, [1, 2]⟩, ⟨wdAcceptMessage, 9, 0, []⟩] ∧
    readPacketsOfType 1073741823 [wdNoMessage, wdAcceptMessage]
      (writePackets false [⟨wdInfoMessage, 7, 2, [1, 2]⟩, ⟨wdAcceptMessage, 9, 0, []⟩] ++ [5]) =
        ([⟨wdInfoMessage, 7, 2, [1, 2]⟩, ⟨wdAcceptMessage, 9, 0, []⟩], [5]) ∧
    readIpcFrames 1073741823 2
      (writePackets true [⟨wdInfoMessage, 7, 2, [1, 2]⟩, ⟨wdAcceptMessage, 9, 0, []⟩] ++ [5]) =
        ([(wdInfoMessage, 2, [1, 2]), (wdAcceptMessage, 0, [])], [5]) := by
  have hs : ∀ pkt ∈ [(⟨wdInfoMessage, 7, 2, [1, 2]⟩ : WDPacketData), ⟨wdAcceptMessage, 9, 0, []⟩],
      Sendable 1073741823 pkt := by decide
  have ht : List.Forall₂ (fun t pkt => t = wdNoMessage ∨ t = WDPacketData.type pkt)
      [wdNoMessage, wdAcceptMessage] [⟨wdInfoMessage, 7, 2, [1, 2]⟩, ⟨wdAcceptMessage, 9, 0, []⟩] := by decide
  exact ⟨hs, ht, (frames_read_back 1073741823).1 _ _ [5] hs ht, (frames_read_back 1073741823).2 _ [5] hs⟩

end pgpool.watchdog
