import Autoscrcpy.Adb.Connection
import Autoscrcpy.Adb.Receive

/-!
# Receiving on a connection

`adb_recv_msg_conn` and `session_recv_msg`: the transport of a connection is its socket, or its TLS
context once there is one.
-/

namespace Autoscrcpy

open SegStream

/-- What `recv` on the socket and `tls_recv` on the TLS context of a connection bring. -/
structure ConnSource where
  plain : Source UInt8 SocketSignal
  tls : Source UInt8 TlsSignal

namespace ConnSource

/-- The bytes that are left on the transport in use. -/
def bytes (w : ConnSource) (tls : Bool) : List UInt8 :=
  if tls then content w.tls else content w.plain

/-- The transport in use brings nothing but data. -/
def Quiet (w : ConnSource) (tls : Bool) : Prop :=
  if tls then ∀ e, .signal e ∉ w.tls else ∀ e, .signal e ∉ w.plain

/-- Everything arrives in one piece. -/
def atOnce (xs : List UInt8) : ConnSource := ⟨unread xs [], unread xs []⟩

theorem quiet_atOnce (xs : List UInt8) (tls : Bool) : (atOnce xs).Quiet tls := by
  have h {ε : Type} (e : ε) : .signal e ∉ unread xs [] := fun he =>
    List.not_mem_nil (mem_of_mem_unread he)
  cases tls with
  | true => exact h
  | false => exact h

@[simp] theorem bytes_atOnce (xs : List UInt8) (tls : Bool) : (atOnce xs).bytes tls = xs := by
  cases tls <;> simp [bytes, atOnce]

end ConnSource

/-- `adb_recv_msg_conn`. -/
def adbRecvMsgConn (conn : AdbConnection) (hdr₀ : List UInt8) (maxPayload : Int32)
    (skipChecksum : Bool) (w : ConnSource) : RecvMsg × ConnSource :=
  if conn.tls then
    let r := adbRecvMsgTls hdr₀ maxPayload skipChecksum w.tls
    (r.1, { w with tls := r.2 })
  else
    let r := adbRecvMsg hdr₀ maxPayload skipChecksum w.plain
    (r.1, { w with plain := r.2 })

/-- `conn->protocol_version >= ADB_VERSION_SKIP_CHECKSUM`, a signed comparison. -/
def AdbConnection.skipsChecksum (conn : AdbConnection) : Bool :=
  decide (ADB_VERSION_SKIP_CHECKSUM.toInt32 ≤ conn.protocolVersion)

/-- `session_recv_msg`. -/
def sessionRecvMsg (conn : AdbConnection) (hdr₀ : List UInt8) (maxPayload : Int32)
    (w : ConnSource) : RecvMsg × ConnSource :=
  adbRecvMsgConn conn hdr₀ maxPayload conn.skipsChecksum w

/-- What a receive call does with the packet at the head of a transport without signals. -/
theorem adbRecvMsgConn_packet (conn : AdbConnection) (hdr₀ : List UInt8) (maxPayload : Int32)
    (skip : Bool) {p : Packet} (hm : p.hdr.MagicOk)
    (hlen : p.hdr.dataLength.toNat = p.payload.length) {w : ConnSource} (hw : w.Quiet conn.tls)
    {t : List UInt8} (hc : w.bytes conn.tls = p.toBytes ++ t) :
    (adbRecvMsgConn conn hdr₀ maxPayload skip w).2.Quiet conn.tls ∧
      if p.payload ≠ [] ∧ maxPayload < p.hdr.dataLength.toInt32 then
        (adbRecvMsgConn conn hdr₀ maxPayload skip w).1 = ⟨-1, p.hdr, []⟩ ∧
          (adbRecvMsgConn conn hdr₀ maxPayload skip w).2.bytes conn.tls = p.payload ++ t
      else
        (adbRecvMsgConn conn hdr₀ maxPayload skip w).1 =
            ⟨if skip = false ∧ p.payload ≠ [] ∧ adbChecksum p.payload ≠ p.hdr.dataCheck then -1
              else 1, p.hdr, p.payload⟩ ∧
          (adbRecvMsgConn conn hdr₀ maxPayload skip w).2.bytes conn.tls = t := by
  cases htls : conn.tls with
  | true =>
    simp only [htls, ConnSource.Quiet, ConnSource.bytes, if_true, adbRecvMsgConn] at hw hc ⊢
    exact ⟨fun e he => hw e (signal_mem_of_mem_recvFrame he),
      recvFrame_packet tlsReact hdr₀ maxPayload skip hm hlen hw hc⟩
  | false =>
    simp only [htls, ConnSource.Quiet, ConnSource.bytes, Bool.false_eq_true, if_false,
      adbRecvMsgConn] at hw hc ⊢
    exact ⟨fun e he => hw e (signal_mem_of_mem_recvFrame he),
      recvFrame_packet socketReact hdr₀ maxPayload skip hm hlen hw hc⟩

end Autoscrcpy
