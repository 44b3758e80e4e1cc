import Autoscrcpy.Lib.Segments
import Autoscrcpy.Lib.Writer

/-!
# Transports

What `send` and `recv` on a socket, and `tls_send` and `tls_recv` of `tls.c`, can answer. The TLS
functions map the codes of the TLS library to a count, `0` (call again) or a negative value.
-/

namespace Autoscrcpy

open SegStream PartialWrite

/-- The results of `recv` that carry no data. -/
inductive SocketSignal where
  | wouldBlock
  | closed
  | error
  deriving DecidableEq, Repr

/-- The results of `tls_recv` that carry no data: `0` (call again) and negative (failed). -/
inductive TlsSignal where
  | again
  | fail
  deriving DecidableEq, Repr

/-! ## TLS reads -/

/-- The results of `mbedtls_ssl_read` that carry no data. -/
inductive SslReadSignal where
  | wantRead
  | wantWrite
  | receivedNewSessionTicket
  | peerCloseNotify
  | error
  deriving DecidableEq, Repr

/-- What `tls_recv` returns for a result of `mbedtls_ssl_read`; `none` is its own retry. -/
def SslReadSignal.tlsSignal : SslReadSignal → Option TlsSignal
  | .wantRead => some .again
  | .wantWrite => some .again
  | .receivedNewSessionTicket => none
  | .peerCloseNotify => some .again
  | .error => some .fail

/-- `tls_recv`: read once, skipping session tickets. -/
def tlsRecv (len : ℕ) : Source UInt8 SslReadSignal →
    ReadResult UInt8 TlsSignal × Source UInt8 SslReadSignal
  | [] => (.ended, [])
  | .data b bs :: s => (.got ((b :: bs).take len), unread ((b :: bs).drop len) s)
  | .signal e :: s =>
      match e.tlsSignal with
      | none => tlsRecv len s
      | some r => (.signal r, s)

/-- The results of `tls_recv` on a TLS connection, in order. -/
def tlsResults : Source UInt8 SslReadSignal → Source UInt8 TlsSignal
  | [] => []
  | .data b bs :: s => .data b bs :: tlsResults s
  | .signal e :: s =>
      match e.tlsSignal with
      | none => tlsResults s
      | some r => .signal r :: tlsResults s

theorem tlsResults_unread (xs : List UInt8) (s : Source UInt8 SslReadSignal) :
    tlsResults (unread xs s) = unread xs (tlsResults s) := by
  cases xs <;> rfl

/-- Reading with `tls_recv` is reading from the source of its results. -/
theorem readOnce_tlsResults (len : ℕ) (s : Source UInt8 SslReadSignal) :
    readOnce len (tlsResults s) = ((tlsRecv len s).1, tlsResults (tlsRecv len s).2) := by
  induction s with
  | nil => rfl
  | cons i s ih =>
    cases i with
    | data b bs => simp [tlsResults, tlsRecv, readOnce, tlsResults_unread]
    | signal e =>
      rcases h : e.tlsSignal with _ | r
      · simpa only [tlsResults, tlsRecv, h] using ih
      · simp [tlsResults, tlsRecv, h, readOnce]

/-! ## TLS writes -/

/-- The results of `mbedtls_ssl_write` that carry no progress. -/
inductive SslWriteSignal where
  | wantWrite
  | wantRead
  | error
  deriving DecidableEq, Repr

/-- What `tls_send` returns for a result of `mbedtls_ssl_write` without progress. -/
def SslWriteSignal.tlsSignal : SslWriteSignal → TlsSignal
  | .wantWrite => .again
  | .wantRead => .again
  | .error => .fail

/-- `tls_send`, one call. -/
def tlsSend : Answer SslWriteSignal → Answer TlsSignal
  | .accept k => .accept k
  | .signal e => .signal e.tlsSignal

end Autoscrcpy
