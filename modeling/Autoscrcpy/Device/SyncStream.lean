import Autoscrcpy.Device.ServerStart
import Autoscrcpy.Lib.Buffer

/-!
# The stream of a file push

`adb_sync_send` and `server_start` read the file into a buffer behind room for a header, write the
header in place and send the buffer up to the end of what was read. `Adb/Push` takes the chunks of
the file as they are sent; here they come from the reads, through the buffers
(`adbSyncSendFile_eq`, `serverStream_eq`), and the stream is the file again for a reader of the sync
grammar (`pushStream_reconstructs`).
-/

namespace Autoscrcpy

open Buffer

/-! ## Reading the file -/

/-- One `fread` into `chunk_buf + 8`, and what `feof` says after it. -/
structure FileRead where
  data : List UInt8
  eof : Bool
  bounded : data.length ≤ SYNC_MAX_CHUNK

/-- The reads of a file up to its end, which shows in `feof` after the last bytes or in a read that
brings none. -/
inductive ReadsFile : List UInt8 → List FileRead → Prop where
  | ended (r : FileRead) (h : r.data = []) : ReadsFile [] [r]
  | last (r : FileRead) (hne : r.data ≠ []) (h : r.eof = true) : ReadsFile r.data [r]
  | more (r : FileRead) (hne : r.data ≠ []) (h : r.eof = false) {file : List UInt8}
      {reads : List FileRead} (rest : ReadsFile file reads) :
      ReadsFile (r.data ++ file) (r :: reads)

/-- The chunk that a read brings. -/
def FileRead.chunk (r : FileRead) : Option SyncChunk :=
  if h : r.data = [] then none else some ⟨r.data, h, r.bounded⟩

/-! ## The loops -/

/-- A request header written in place. -/
def putHeader (buf : List UInt8) (id : String) (length : UInt32) : List UInt8 :=
  put (put buf 0 id.toUTF8.toList) 4 (write32le length)

variable {σ : Type*}

/-- The loop over the file, `while (!feof(file))`, with what follows each send. `eof` is the flag of
the file and `buf` is `chunk_buf`. -/
def chunkLoop (after : AdbConnection → σ → AdbConnection) (slot : ℕ) :
    AdbConnection → Bool → List UInt8 → List (FileRead × σ) →
      AdbConnection × List Passed × List UInt8
  | conn, _, buf, [] => (conn, [], buf)
  | conn, eof, buf, (r, x) :: rest =>
      if eof then (conn, [], buf)
      else
        let buf := put buf 8 r.data
        if r.data.length = 0 then (conn, [], buf)
        else
          let buf := putHeader buf "DATA" (UInt32.ofNat r.data.length)
          let r' := chunkLoop after slot (after conn x) r.eof buf rest
          (r'.1, conn.writeChannel slot (buf.take (8 + r.data.length)) ++ r'.2.1, r'.2.2)

/-- The loop and the `DONE` behind it. -/
def streamChunks (after : AdbConnection → σ → AdbConnection) (slot : ℕ) (conn : AdbConnection)
    (buf : List UInt8) (reads : List (FileRead × σ)) : AdbConnection × List Passed :=
  let r := chunkLoop after slot conn false buf reads
  (r.1, r.2.1 ++ r.1.writeChannel slot ((putHeader r.2.2 "DONE" 0).take 8))

/-- The stream of `adb_sync_send`, with a `session_poll` after each chunk. -/
def adbStream (slot : ℕ) (conn : AdbConnection) (buf : List UInt8)
    (reads : List (FileRead × PollEnv)) : AdbConnection × List Passed :=
  streamChunks (fun conn p => (sessionPoll conn p).2.conn) slot conn buf reads

/-- The stream of `server_start`. -/
def serverStream (slot : ℕ) (conn : AdbConnection) (buf : List UInt8) (reads : List FileRead) :
    AdbConnection × List Passed :=
  streamChunks (fun conn () => conn) slot conn buf (reads.map fun r => (r, ()))

/-- What happens during an `adb_sync_send`, as in `PushEnv`, with the reads of the file and what the
two buffers hold before. -/
structure FileEnv where
  bufferOk : Bool
  waits : List ReceiveRound
  afterSend : PollEnv
  reads : List (FileRead × PollEnv)
  answers : List PollEnv
  cmdBuf : List UInt8
  chunkBuf : List UInt8
  cmdBuf_length : cmdBuf.length = 4 + 4 + 512
  chunkBuf_length : chunkBuf.length = 4 + 4 + SYNC_MAX_CHUNK

/-- `adb_sync_send` with its buffers. -/
def adbSyncSendFile (conn : AdbConnection) (slot : ℕ) (remote : List UInt8) (env : FileEnv) :
    SenderRun :=
  if env.bufferOk = false then ⟨conn, [], false⟩
  else
    let opened := awaitOpen slot conn (env.waits.take 200)
    if opened.chanState slot ≠ some .open then ⟨opened, [], false⟩
    else
      let cmdBuf := put (putHeader env.cmdBuf "SEND" (UInt32.ofNat remote.length)) 8 remote
      let polled := (sessionPoll opened env.afterSend).2.conn
      let streamed := adbStream slot polled env.chunkBuf env.reads
      ⟨awaitAnswer streamed.1 (env.answers.take 200),
        opened.writeChannel slot (cmdBuf.take (8 + remote.length)) ++ streamed.2, true⟩

/-- The chunks of the reads. -/
def pushedChunks (reads : List (FileRead × σ)) : List (SyncChunk × σ) :=
  reads.filterMap fun x => x.1.chunk.map fun chunk => (chunk, x.2)

/-- The environment of `Adb/Push`: the reads up to the end of the file are its chunks. -/
def FileEnv.pushEnv (env : FileEnv) : PushEnv where
  fileOpens := true
  openRet := 0
  bufferOk := env.bufferOk
  waits := env.waits
  afterSend := env.afterSend
  chunks := pushedChunks env.reads
  answers := env.answers

/-! ## Requests in the buffers -/

/-- The word of the length stands behind the id. -/
theorem putHeader_eq {id : String} (hid : id.toUTF8.toList.length = 4) (buf : List UInt8)
    (length : UInt32) :
    putHeader buf id length = put buf 0 (id.toUTF8.toList ++ write32le length) := by
  have hword := put_put_after buf 0 id.toUTF8.toList (write32le length) (Nat.zero_le _)
  rwa [Nat.zero_add, hid] at hword

theorem length_header {id : String} (hid : id.toUTF8.toList.length = 4) (length : UInt32) :
    (id.toUTF8.toList ++ write32le length).length = 8 := by
  rw [List.length_append, hid, length_write32le]

/-- What is in the buffer up to the end of the data, when header and data are side by side. -/
theorem take_request {id : String} (hid : id.toUTF8.toList.length = 4) (buf data : List UInt8) :
    (put buf 0 (id.toUTF8.toList ++ write32le (UInt32.ofNat data.length) ++ data)).take
      (8 + data.length) = syncRequest id data := by
  have hlen : 8 + data.length =
      (id.toUTF8.toList ++ write32le (UInt32.ofNat data.length) ++ data).length := by
    rw [List.length_append, length_header hid]
  rw [hlen, take_put_zero, syncRequest, List.append_assoc]

/-- The header is written in front of the data that is there. -/
theorem take_putHeader {buf : List UInt8} {id : String} (hid : id.toUTF8.toList.length = 4)
    (data : List UInt8) (hbuf : 8 ≤ buf.length) :
    (putHeader (put buf 8 data) id (UInt32.ofNat data.length)).take (8 + data.length) =
      syncRequest id data := by
  have hdata := put_put_before buf 0
    (id.toUTF8.toList ++ write32le (UInt32.ofNat data.length)) data
    (by rwa [length_header hid, Nat.zero_add])
  rw [Nat.zero_add, length_header hid] at hdata
  rw [putHeader_eq hid, hdata, take_request hid]

/-- The data is written behind the header that is there. -/
theorem take_put_putHeader (id : String) (hid : id.toUTF8.toList.length = 4)
    (buf data : List UInt8) :
    (put (putHeader buf id (UInt32.ofNat data.length)) 8 data).take (8 + data.length) =
      syncRequest id data := by
  have hdata := put_put_after buf 0
    (id.toUTF8.toList ++ write32le (UInt32.ofNat data.length)) data (Nat.zero_le _)
  rw [Nat.zero_add, length_header hid] at hdata
  rw [putHeader_eq hid, hdata, take_request hid]

theorem take_putHeader_done (buf : List UInt8) : (putHeader buf "DONE" 0).take 8 = syncDone := by
  have h := take_put_putHeader "DONE" (length_syncId _ (by simp)) buf []
  rwa [put, List.nil_append, List.length_nil, Nat.add_zero, List.take_append_drop] at h

theorem length_putHeader {buf : List UInt8} {id : String} (hid : id.toUTF8.toList.length = 4)
    (hbuf : 8 ≤ buf.length) (length : UInt32) : (putHeader buf id length).length = buf.length := by
  rw [putHeader_eq hid]
  exact length_put (by rwa [length_header hid, Nat.zero_add])

/-! ## The loops send the chunks -/

/-- The chunks one after the other, with what follows each send. -/
def sendChunks (after : AdbConnection → σ → AdbConnection) (slot : ℕ) :
    AdbConnection → List (SyncChunk × σ) → AdbConnection × List Passed
  | conn, [] => (conn, [])
  | conn, (chunk, x) :: rest =>
      let r := sendChunks after slot (after conn x) rest
      (r.1, conn.writeChannel slot (syncData chunk) ++ r.2)

theorem FileRead.chunk_of_ne {r : FileRead} (h : r.data ≠ []) :
    r.chunk = some ⟨r.data, h, r.bounded⟩ := dif_neg h

/-- A read that brings nothing ends the loop. -/
theorem chunkLoop_of_nil (after : AdbConnection → σ → AdbConnection) (slot : ℕ)
    (conn : AdbConnection) (buf : List UInt8) {r : FileRead} (h : r.data = []) (x : σ)
    (rest : List (FileRead × σ)) :
    chunkLoop after slot conn false buf ((r, x) :: rest) = (conn, [], put buf 8 r.data) := by
  simp only [chunkLoop, Bool.false_eq_true, if_false, h, List.length_nil, if_true]

/-- `chunk_buf` with a chunk and its header. -/
def chunkBuffer (buf : List UInt8) (r : FileRead) : List UInt8 :=
  putHeader (put buf 8 r.data) "DATA" (UInt32.ofNat r.data.length)

theorem length_chunkBuffer {buf : List UInt8} (hbuf : buf.length = 4 + 4 + SYNC_MAX_CHUNK)
    (r : FileRead) : (chunkBuffer buf r).length = 4 + 4 + SYNC_MAX_CHUNK := by
  have hbounded := r.bounded
  have hput : (put buf 8 r.data).length = buf.length := length_put (by omega)
  rw [chunkBuffer, length_putHeader (length_syncId _ (by simp)) (by omega), hput, hbuf]

/-- A read that brings a chunk sends it. -/
theorem chunkLoop_of_ne (after : AdbConnection → σ → AdbConnection) (slot : ℕ)
    (conn : AdbConnection) {buf : List UInt8} (hbuf : buf.length = 4 + 4 + SYNC_MAX_CHUNK)
    {r : FileRead} (hne : r.data ≠ []) (x : σ) (rest : List (FileRead × σ)) :
    chunkLoop after slot conn false buf ((r, x) :: rest) =
      ((chunkLoop after slot (after conn x) r.eof (chunkBuffer buf r) rest).1,
        conn.writeChannel slot (syncData ⟨r.data, hne, r.bounded⟩) ++
          (chunkLoop after slot (after conn x) r.eof (chunkBuffer buf r) rest).2.1,
        (chunkLoop after slot (after conn x) r.eof (chunkBuffer buf r) rest).2.2) := by
  have hlength : ¬ r.data.length = 0 := by simpa using hne
  have htake := take_putHeader (length_syncId "DATA" (by simp)) r.data
    (by omega : 8 ≤ buf.length)
  simp only [chunkLoop, Bool.false_eq_true, if_false, if_neg hlength, htake]
  rfl

/-- Behind the end of the file the loop does nothing. -/
theorem chunkLoop_eof (after : AdbConnection → σ → AdbConnection) (slot : ℕ)
    (conn : AdbConnection) (buf : List UInt8) (rest : List (FileRead × σ)) :
    chunkLoop after slot conn true buf rest = (conn, [], buf) := by
  cases rest <;> rfl

theorem pushedChunks_cons {r : FileRead} (hne : r.data ≠ []) (x : σ)
    (rest : List (FileRead × σ)) :
    pushedChunks ((r, x) :: rest) = (⟨r.data, hne, r.bounded⟩, x) :: pushedChunks rest := by
  simp only [pushedChunks, List.filterMap_cons, FileRead.chunk_of_ne hne, Option.map_some]

/-- Up to the end of the file, the loop sends the chunks of the reads. -/
theorem chunkLoop_eq (after : AdbConnection → σ → AdbConnection) (slot : ℕ)
    {file : List UInt8} {reads : List (FileRead × σ)}
    (hreads : ReadsFile file (reads.map Prod.fst)) (conn : AdbConnection) {buf : List UInt8}
    (hbuf : buf.length = 4 + 4 + SYNC_MAX_CHUNK) :
    ∃ buf', chunkLoop after slot conn false buf reads =
      ((sendChunks after slot conn (pushedChunks reads)).1,
        (sendChunks after slot conn (pushedChunks reads)).2, buf') := by
  generalize hrs : reads.map Prod.fst = rs at hreads
  induction hreads generalizing reads conn buf with
  | ended r h =>
    obtain ⟨⟨r', x⟩, rfl, rfl⟩ := List.map_eq_singleton_iff.1 hrs
    have hchunk : r'.chunk = none := dif_pos h
    refine ⟨put buf 8 r'.data, ?_⟩
    rw [chunkLoop_of_nil after slot conn buf h]
    simp only [pushedChunks, List.filterMap_cons, hchunk, Option.map_none, List.filterMap_nil,
      sendChunks]
  | last r hne h =>
    obtain ⟨⟨r', x⟩, rfl, rfl⟩ := List.map_eq_singleton_iff.1 hrs
    have heof : r'.eof = true := h
    refine ⟨chunkBuffer buf r', ?_⟩
    rw [chunkLoop_of_ne after slot conn hbuf hne, heof, chunkLoop_eof, pushedChunks_cons hne]
    rfl
  | more r hne h rest ih =>
    cases reads with
    | nil => cases hrs
    | cons y reads =>
      obtain ⟨r', x⟩ := y
      obtain ⟨rfl, htail⟩ := List.cons_eq_cons.1 hrs
      have heof : r'.eof = false := h
      obtain ⟨buf', hloop⟩ := ih (after conn x) (length_chunkBuffer hbuf r') htail
      refine ⟨buf', ?_⟩
      rw [chunkLoop_of_ne after slot conn hbuf hne, heof, hloop, pushedChunks_cons hne]
      rfl

/-- The stream is the `DATA` of each chunk and `DONE`. -/
theorem streamChunks_eq (after : AdbConnection → σ → AdbConnection) (slot : ℕ)
    {file : List UInt8} {reads : List (FileRead × σ)}
    (hreads : ReadsFile file (reads.map Prod.fst)) (conn : AdbConnection) {buf : List UInt8}
    (hbuf : buf.length = 4 + 4 + SYNC_MAX_CHUNK) :
    streamChunks after slot conn buf reads =
      ((sendChunks after slot conn (pushedChunks reads)).1,
        (sendChunks after slot conn (pushedChunks reads)).2 ++
          (sendChunks after slot conn (pushedChunks reads)).1.writeChannel slot syncDone) := by
  obtain ⟨buf', hloop⟩ := chunkLoop_eq after slot hreads conn hbuf
  rw [streamChunks, hloop]
  simp only [take_putHeader_done]

/-! ## The loops of the two functions -/

theorem sendChunks_poll (slot : ℕ) (conn : AdbConnection) (chunks : List (SyncChunk × PollEnv)) :
    sendChunks (fun conn p => (sessionPoll conn p).2.conn) slot conn chunks =
      streamFile slot conn chunks := by
  induction chunks generalizing conn with
  | nil => rfl
  | cons y chunks ih =>
    obtain ⟨chunk, p⟩ := y
    rw [sendChunks, ih, streamFile]

theorem sendChunks_unit (slot : ℕ) (conn : AdbConnection) (chunks : List (SyncChunk × Unit)) :
    sendChunks (fun conn () => conn) slot conn chunks =
      (conn, (chunks.map Prod.fst).flatMap fun chunk =>
        conn.writeChannel slot (syncData chunk)) := by
  induction chunks with
  | nil => rfl
  | cons y chunks ih =>
    obtain ⟨chunk, -⟩ := y
    rw [sendChunks, ih]
    rfl

theorem map_fst_pushedChunks (reads : List (FileRead × σ)) :
    (pushedChunks reads).map Prod.fst = (reads.map Prod.fst).filterMap FileRead.chunk := by
  rw [pushedChunks, List.map_filterMap, List.filterMap_map]
  refine List.filterMap_congr fun y _ => ?_
  cases hchunk : y.1.chunk <;> simp [hchunk]

theorem map_fst_unit (reads : List FileRead) :
    (reads.map fun r => (r, ())).map Prod.fst = reads := by
  rw [List.map_map]
  exact List.map_id reads

/-- The stream of `server_start` is what `serverSync` sends of the chunks. -/
theorem serverStream_eq {slot : ℕ} {file : List UInt8} {reads : List FileRead}
    (hreads : ReadsFile file reads) (conn : AdbConnection) {buf : List UInt8}
    (hbuf : buf.length = 4 + 4 + SYNC_MAX_CHUNK) :
    serverStream slot conn buf reads =
      (conn, ((reads.filterMap FileRead.chunk).flatMap fun chunk =>
        conn.writeChannel slot (syncData chunk)) ++ conn.writeChannel slot syncDone) := by
  rw [← map_fst_unit reads] at hreads
  rw [serverStream, streamChunks_eq _ slot hreads conn hbuf, sendChunks_unit, map_fst_pushedChunks,
    map_fst_unit]

/-- With its buffers, `adb_sync_send` sends what `adbSyncSend` sends of the chunks. -/
theorem adbSyncSendFile_eq (conn : AdbConnection) (slot : ℕ) (remote : List UInt8)
    {file : List UInt8} {env : FileEnv} (hreads : ReadsFile file (env.reads.map Prod.fst)) :
    adbSyncSendFile conn slot remote env = adbSyncSend conn slot remote env.pushEnv := by
  have hsend := length_syncId "SEND" (by simp)
  unfold adbSyncSendFile adbSyncSend
  simp only [take_put_putHeader "SEND" hsend, adbStream,
    streamChunks_eq _ slot hreads _ env.chunkBuf_length, sendChunks_poll]
  rfl

/-! ## The sync grammar -/

/-- The id and the length at the head of a stream, and what follows them. -/
def readRequest (stream : List UInt8) : Option (List UInt8 × ℕ × List UInt8) :=
  if stream.length < 8 then none
  else some (stream.take 4, (read32le (stream.drop 4)).toNat, stream.drop 8)

theorem readRequest_lt {stream id rest : List UInt8} {n : ℕ}
    (h : readRequest stream = some (id, n, rest)) : rest.length < stream.length := by
  rw [readRequest, Option.ite_none_left_eq_some] at h
  obtain ⟨hlen, h⟩ := h
  obtain ⟨-, -, rfl⟩ : _ ∧ _ ∧ stream.drop 8 = rest := by simpa using h
  rw [List.length_drop]
  omega

/-- `DATA(n, bytes)* DONE`, with nothing behind `DONE`. -/
def parseData (stream : List UInt8) : Option (List (List UInt8)) :=
  match _h : readRequest stream with
  | none => none
  | some (id, n, rest) =>
      if id = "DONE".toUTF8.toList then if rest = [] then some [] else none
      else if id = "DATA".toUTF8.toList ∧ n ≤ rest.length then
        (parseData (rest.drop n)).map (rest.take n :: ·)
      else none
termination_by stream.length
decreasing_by exact (List.length_drop ▸ Nat.sub_le _ _).trans_lt (readRequest_lt _h)

/-- `SEND(path) DATA(n, bytes)* DONE`: the path and the data of each `DATA`. -/
def parseSync (stream : List UInt8) : Option (List UInt8 × List (List UInt8)) :=
  match readRequest stream with
  | none => none
  | some (id, n, rest) =>
      if id = "SEND".toUTF8.toList ∧ n ≤ rest.length then
        (parseData (rest.drop n)).map (rest.take n, ·)
      else none

theorem readRequest_syncRequest (id : String) (hid : id.toUTF8.toList.length = 4)
    (data : List UInt8) (hdata : data.length < 2 ^ 32) (rest : List UInt8) :
    readRequest (syncRequest id data ++ rest) =
      some (id.toUTF8.toList, data.length, data ++ rest) := by
  have hlen : ¬ (syncRequest id data ++ rest).length < 8 := by
    rw [List.length_append, length_syncRequest, hid]
    omega
  have heq : syncRequest id data ++ rest =
      id.toUTF8.toList ++ (write32le (UInt32.ofNat data.length) ++ (data ++ rest)) := by
    simp only [syncRequest, List.append_assoc]
  have hdrop : (syncRequest id data ++ rest).drop 4 =
      write32le (UInt32.ofNat data.length) ++ (data ++ rest) := by
    rw [heq, List.drop_left' hid]
  have hrest : (syncRequest id data ++ rest).drop 8 = data ++ rest := by
    rw [show 8 = 4 + 4 from rfl, ← List.drop_drop, hdrop, List.drop_left' (length_write32le _)]
  rw [readRequest, if_neg hlen, hdrop, hrest, read32le_write32le, UInt32.toNat_ofNat_of_lt' hdata,
    heq, List.take_left' hid]

theorem parseData_done : parseData syncDone = some [] := by
  have hread := readRequest_syncRequest "DONE" (length_syncId _ (by simp)) [] (by decide) []
  rw [List.append_nil] at hread
  rw [parseData, syncDone, hread]
  simp only [if_true, List.append_nil]

theorem parseData_cons (chunk : SyncChunk) (rest : List UInt8) :
    parseData (syncData chunk ++ rest) = (parseData rest).map (chunk.data :: ·) := by
  have hlt : chunk.data.length < 2 ^ 32 := chunk.bounded.trans_lt (by norm_num)
  have hread := readRequest_syncRequest "DATA" (length_syncId _ (by simp)) chunk.data hlt rest
  have hid : "DATA".toUTF8.toList ≠ "DONE".toUTF8.toList := by
    rw [CText.toUTF8_toList, CText.toUTF8_toList]
    decide
  rw [parseData, syncData, hread]
  simp only [if_neg hid, List.length_append, Nat.le_add_right, and_true, if_true, List.take_left,
    List.drop_left]

/-- The requests of the chunks are read back. -/
theorem parseData_chunks (chunks : List SyncChunk) :
    parseData (chunks.flatMap syncData ++ syncDone) = some (chunks.map SyncChunk.data) := by
  induction chunks with
  | nil => exact parseData_done
  | cons chunk chunks ih =>
    rw [List.flatMap_cons, List.append_assoc, parseData_cons, ih]
    rfl

theorem parseSync_requests {remote : List UInt8} (hremote : remote.length < 2 ^ 32)
    (chunks : List SyncChunk) :
    parseSync (syncSend remote ++ (chunks.flatMap syncData ++ syncDone)) =
      some (remote, chunks.map SyncChunk.data) := by
  have hread := readRequest_syncRequest "SEND" (length_syncId _ (by simp)) remote hremote
    (chunks.flatMap syncData ++ syncDone)
  rw [parseSync, syncSend, hread]
  simp only [true_and, List.length_append, Nat.le_add_right, if_true, List.take_left,
    List.drop_left, parseData_chunks, Option.map_some]

/-! ## The stream and the file -/

/-- The payloads of the `WRTE` messages. -/
def wrtePayloads (sent : List Passed) : List (List UInt8) :=
  (sent.filter fun p => p.sent.msg.cmd = ADB_WRTE).map fun p => p.sent.msg.payload

theorem wrtePayloads_append (l l' : List Passed) :
    wrtePayloads (l ++ l') = wrtePayloads l ++ wrtePayloads l' := by
  rw [wrtePayloads, List.filter_append, List.map_append]
  rfl

theorem wrtePayloads_writeChannel {conn : AdbConnection} {slot : ℕ}
    (h : slot < conn.channels.count) {data : List UInt8} (hdata : data.length < 2 ^ 32) :
    wrtePayloads (conn.writeChannel slot data) = [data] := by
  obtain ⟨c, -, heq⟩ := writeChannel_eq h data
  rw [heq, wrtePayloads]
  simp [AdbConnection.pass, AdbConnection.send, SendArgs.payload]
  exact (Nat.mod_eq_of_lt hdata).ge

theorem length_syncData_lt (chunk : SyncChunk) : (syncData chunk).length < 2 ^ 32 := by
  have hid := length_syncId "DATA" (by simp)
  have hle : chunk.data.length ≤ 65536 := chunk.bounded
  rw [syncData, length_syncRequest, hid]
  omega

section Payloads

variable {after : AdbConnection → σ → AdbConnection} {slot : ℕ}
    (hafter : ∀ conn x, (after conn x).channels.count = conn.channels.count)

include hafter

theorem sendChunks_count (conn : AdbConnection) (chunks : List (SyncChunk × σ)) :
    (sendChunks after slot conn chunks).1.channels.count = conn.channels.count := by
  induction chunks generalizing conn with
  | nil => rfl
  | cons y chunks ih => exact (ih _).trans (hafter conn y.2)

theorem sendChunks_payloads {conn : AdbConnection} (h : slot < conn.channels.count)
    (chunks : List (SyncChunk × σ)) :
    wrtePayloads (sendChunks after slot conn chunks).2 =
      (chunks.map Prod.fst).map syncData := by
  induction chunks generalizing conn with
  | nil => rfl
  | cons y chunks ih =>
    obtain ⟨chunk, x⟩ := y
    rw [sendChunks]
    dsimp only
    rw [wrtePayloads_append, wrtePayloads_writeChannel h (length_syncData_lt chunk),
      ih (by rwa [hafter])]
    rfl

/-- On any channel and whatever follows each send, the payloads are those of the chunks, and `DONE`
is the last. -/
theorem streamChunks_payloads {file buf : List UInt8} {reads : List (FileRead × σ)}
    (hreads : ReadsFile file (reads.map Prod.fst)) {conn : AdbConnection}
    (h : slot < conn.channels.count) (hbuf : buf.length = 4 + 4 + SYNC_MAX_CHUNK) :
    wrtePayloads (streamChunks after slot conn buf reads).2 =
      ((reads.map Prod.fst).filterMap FileRead.chunk).map syncData ++ [syncDone] := by
  have hdone : syncDone.length < 2 ^ 32 := by
    rw [syncDone, length_syncRequest, length_syncId "DONE" (by simp)]
    decide
  rw [streamChunks_eq after slot hreads conn hbuf, wrtePayloads_append,
    sendChunks_payloads hafter h, map_fst_pushedChunks,
    wrtePayloads_writeChannel (by rwa [sendChunks_count hafter]) hdone]

end Payloads

/-- The chunks of the reads are the file. -/
theorem flatten_chunks {file : List UInt8} {reads : List FileRead} (h : ReadsFile file reads) :
    ((reads.filterMap FileRead.chunk).map SyncChunk.data).flatten = file := by
  induction h with
  | ended r h => simp [FileRead.chunk, h]
  | last r hne h => simp [FileRead.chunk_of_ne hne]
  | more r hne h rest ih =>
    rw [List.filterMap_cons_some (FileRead.chunk_of_ne hne), List.map_cons, List.flatten_cons, ih]

theorem length_of_mem_chunks {chunks : List SyncChunk} {data : List UInt8}
    (h : data ∈ chunks.map SyncChunk.data) : 1 ≤ data.length ∧ data.length ≤ 65536 := by
  obtain ⟨chunk, -, rfl⟩ := List.mem_map.1 h
  exact ⟨List.length_pos_iff.2 chunk.nonempty, chunk.bounded⟩

theorem serverStream_payloads {file buf : List UInt8} {reads : List FileRead}
    (hreads : ReadsFile file reads) {conn : AdbConnection} {slot : ℕ}
    (h : slot < conn.channels.count) (hbuf : buf.length = 4 + 4 + SYNC_MAX_CHUNK) :
    wrtePayloads (serverStream slot conn buf reads).2 =
      (reads.filterMap FileRead.chunk).map syncData ++ [syncDone] := by
  rw [← map_fst_unit reads] at hreads
  rw [serverStream, streamChunks_payloads (fun _ _ => rfl) hreads h hbuf, map_fst_unit]

/-- The push finds its channel open. -/
def Opens (conn : AdbConnection) (slot : ℕ) (env : FileEnv) : Prop :=
  env.bufferOk = true ∧ (awaitOpen slot conn (env.waits.take 200)).chanState slot = some .open

theorem adbSyncSendFile_of_not_opens {conn : AdbConnection} {slot : ℕ} {env : FileEnv}
    (h : ¬ Opens conn slot env) (remote : List UInt8) :
    (adbSyncSendFile conn slot remote env).ok = false ∧
      (adbSyncSendFile conn slot remote env).sent = [] := by
  rw [adbSyncSendFile]
  by_cases hbuffer : env.bufferOk = false
  · rw [if_pos hbuffer]
    exact ⟨rfl, rfl⟩
  · have hstate := fun hopen => h ⟨Bool.of_not_eq_false hbuffer, hopen⟩
    rw [if_neg hbuffer]
    dsimp only
    rw [if_pos hstate]
    exact ⟨rfl, rfl⟩

theorem adbSyncSendFile_of_opens {conn : AdbConnection} {slot : ℕ} {env : FileEnv}
    (h : Opens conn slot env) {file remote : List UInt8} (hremote : remote.length ≤ 512)
    (hreads : ReadsFile file (env.reads.map Prod.fst)) :
    (adbSyncSendFile conn slot remote env).ok = true ∧
      wrtePayloads (adbSyncSendFile conn slot remote env).sent = syncSend remote ::
        (((env.reads.map Prod.fst).filterMap FileRead.chunk).map syncData ++ [syncDone]) := by
  have hsend := length_syncId "SEND" (by simp)
  have hlen : (syncSend remote).length < 2 ^ 32 := by
    rw [syncSend, length_syncRequest, hsend]
    omega
  have hslot : slot < (awaitOpen slot conn (env.waits.take 200)).channels.count := by
    obtain ⟨c, hc, -⟩ := Option.map_eq_some_iff.1 h.2
    exact (List.getElem?_eq_some_iff.1 hc).1
  have hpolled : slot < (sessionPoll (awaitOpen slot conn (env.waits.take 200))
      env.afterSend).2.conn.channels.count := by rwa [sessionPoll_count]
  rw [adbSyncSendFile, if_neg (Bool.not_eq_false _ ▸ h.1), if_neg (not_not.2 h.2)]
  refine ⟨rfl, ?_⟩
  simp only [take_put_putHeader "SEND" hsend]
  rw [wrtePayloads_append, ← syncSend, wrtePayloads_writeChannel hslot hlen, adbStream,
    streamChunks_payloads sessionPoll_count hreads hpolled env.chunkBuf_length]
  rfl

/-- A push sends nothing, or its `WRTE` payloads are, by the sync grammar, the path and the file in
pieces of 1 to 65536 bytes; `server_start` sends the same `DATA` and `DONE` for the same reads. -/
theorem pushStream_reconstructs {file remote : List UInt8} {env : FileEnv}
    (hremote : remote.length ≤ 512) (hreads : ReadsFile file (env.reads.map Prod.fst))
    (conn : AdbConnection) (slot : ℕ) :
    let run := adbSyncSendFile conn slot remote env
    if run.ok then
      ∃ chunks, parseSync (wrtePayloads run.sent).flatten = some (remote, chunks) ∧
        chunks.flatten = file ∧ (∀ c ∈ chunks, 1 ≤ c.length ∧ c.length ≤ 65536) ∧
        ∀ (conn' : AdbConnection) (slot' : ℕ) (buf : List UInt8),
          slot' < conn'.channels.count → buf.length = 4 + 4 + SYNC_MAX_CHUNK →
            wrtePayloads run.sent = syncSend remote ::
              wrtePayloads (serverStream slot' conn' buf (env.reads.map Prod.fst)).2
    else run.sent = [] := by
  intro run
  by_cases hopens : Opens conn slot env
  · obtain ⟨hok, hpayloads⟩ := adbSyncSendFile_of_opens hopens hremote hreads
    have hflat : (wrtePayloads run.sent).flatten = syncSend remote ++
        (((env.reads.map Prod.fst).filterMap FileRead.chunk).flatMap syncData ++ syncDone) := by
      rw [hpayloads, List.flatten_cons, List.flatten_append, List.flatten_singleton,
        List.flatMap_def]
    rw [if_pos hok, hflat, parseSync_requests (hremote.trans_lt (by norm_num))]
    refine ⟨_, rfl, flatten_chunks hreads, fun c => length_of_mem_chunks, ?_⟩
    intro conn' slot' buf hslot hbuf
    rw [hpayloads, serverStream_payloads hreads hslot hbuf]
  · obtain ⟨hok, hsent⟩ := adbSyncSendFile_of_not_opens hopens remote
    rw [if_neg (by rw [hok]; exact Bool.false_ne_true)]
    exact hsent

/-- The device accepts the channel, and a file of three bytes comes in two reads and a third one
that brings none. -/
def shortReads : FileEnv where
  bufferOk := true
  waits := [⟨1, [], ⟨1, ⟨ADB_OKAY, 7, 1, 0, 0, ADB_OKAY ^^^ 0xffffffff⟩, []⟩, .idle⟩]
  afterSend := ⟨0, none, ⟨0, ⟨0, 0, 0, 0, 0, 0⟩, []⟩, .idle⟩
  reads := [⟨[1, 2], false, by decide⟩, ⟨[3], false, by decide⟩, ⟨[], true, by decide⟩].map
    fun r => (r, ⟨0, none, ⟨0, ⟨0, 0, 0, 0, 0, 0⟩, []⟩, .idle⟩)
  answers := []
  cmdBuf := List.replicate 520 0
  chunkBuf := List.replicate 65544 0
  cmdBuf_length := List.length_replicate
  chunkBuf_length := List.length_replicate

theorem pushStream_reconstructs_shortReads :
    let run := adbSyncSendFile (sessionOpenChannel AdbConnection.initial syncService 0).1 0
      serverPathMode shortReads
    ∃ chunks, parseSync (wrtePayloads run.sent).flatten = some (serverPathMode, chunks) ∧
      chunks.flatten = [1, 2, 3] := by
  have hreads : ReadsFile [1, 2, 3] (shortReads.reads.map Prod.fst) :=
    .more ⟨[1, 2], false, by decide⟩ (by decide) rfl
      (.more ⟨[3], false, by decide⟩ (by decide) rfl (.ended ⟨[], true, by decide⟩ rfl))
  have hok : (adbSyncSendFile (sessionOpenChannel AdbConnection.initial syncService 0).1 0
      serverPathMode shortReads).ok = true := by decide
  have hpath : serverPathMode.length ≤ 512 := by
    rw [serverPathMode, CText.toUTF8_toList]
    decide
  have h := pushStream_reconstructs hpath hreads
    (sessionOpenChannel AdbConnection.initial syncService 0).1 0
  dsimp only at h
  rw [if_pos hok] at h
  obtain ⟨chunks, hparse, hfile, -⟩ := h
  exact ⟨chunks, hparse, hfile⟩

end Autoscrcpy
