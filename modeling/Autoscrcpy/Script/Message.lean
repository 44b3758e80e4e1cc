import Autoscrcpy.Adb.Binary

/-!
# Script messages

`script_msg_t`, the responses that the main thread fills in for a query, and what each `c_query_*`
function makes of a response. The script sees nothing (`#f`) when a check on the response fails.

`onScriptQuery_type`: the response to a query passes its check on the type.
-/

namespace Autoscrcpy

abbrev SCRIPT_MSG_MAX_DATA_SIZE : ℕ := 256

/-- `script_msg_type_t`. -/
inductive ScriptMsgType where
  | injectKeycode | injectText | injectTouch | injectScroll | setClipboard | expandNotification
  | collapsePanels | setDisplayPower | rotateDevice | startApp
  | queryDeviceInfo | queryFrameCapture | queryClipboard | queryVideoSize | queryWindowSize
  | eventKey | eventMouse | eventFrame | eventConnected | eventDisconnected | eventError
  | responseDeviceInfo | responseFrameCapture | responseClipboard | responseVideoSize
  | responseWindowSize
  | shutdown
  deriving DecidableEq, Repr

/-- `script_msg_t`; `data` holds its 256 bytes. -/
structure ScriptMsg where
  type : ScriptMsgType
  dataSize : UInt32
  data : List UInt8
  deriving DecidableEq, Repr

/-- `memset(&msg, 0, sizeof(msg))` and a type. -/
def ScriptMsg.ofType (type : ScriptMsgType) : ScriptMsg :=
  ⟨type, 0, List.replicate SCRIPT_MSG_MAX_DATA_SIZE 0⟩

/-- `memcpy` of `src` to `data + offset`. -/
def ScriptMsg.put (msg : ScriptMsg) (offset : ℕ) (src : List UInt8) : ScriptMsg :=
  { msg with data := msg.data.take offset ++ (src ++ msg.data.drop (offset + src.length)) }

@[simp] theorem ScriptMsg.put_type (msg : ScriptMsg) (offset : ℕ) (src : List UInt8) :
    (msg.put offset src).type = msg.type := rfl

/-- The bytes of a C string that starts here. -/
def cString (bytes : List UInt8) : List UInt8 := bytes.takeWhile (· ≠ 0)

/-! ## Queries -/

/-- The queries of a script. -/
inductive QueryKind where
  | deviceInfo | videoSize | windowSize | clipboard | frameCapture
  deriving DecidableEq, Repr

/-- The type of the message that asks. -/
def QueryKind.requestType : QueryKind → ScriptMsgType
  | deviceInfo => .queryDeviceInfo
  | videoSize => .queryVideoSize
  | windowSize => .queryWindowSize
  | clipboard => .queryClipboard
  | frameCapture => .queryFrameCapture

/-- The type that the asking function expects of the response. -/
def QueryKind.responseType : QueryKind → ScriptMsgType
  | deviceInfo => .responseDeviceInfo
  | videoSize => .responseVideoSize
  | windowSize => .responseWindowSize
  | clipboard => .responseClipboard
  | frameCapture => .responseFrameCapture

/-- The query that a message from the script asks, if any: the last cases of
`script_process_messages`. -/
def ScriptMsgType.query : ScriptMsgType → Option QueryKind
  | queryDeviceInfo => some .deviceInfo
  | queryVideoSize => some .videoSize
  | queryWindowSize => some .windowSize
  | queryClipboard => some .clipboard
  | queryFrameCapture => some .frameCapture
  | _ => none

@[simp] theorem query_requestType (k : QueryKind) : k.requestType.query = some k := by
  cases k <;> rfl

/-- The control commands, which `script_process_messages` does not answer. -/
def ScriptMsgType.isCommand : ScriptMsgType → Bool
  | injectKeycode | injectText | injectTouch | injectScroll | setClipboard | expandNotification
  | collapsePanels | setDisplayPower | rotateDevice | startApp => true
  | _ => false

/-! ## Responses -/

/-- `script_fill_device_info`; no name for a null pointer. -/
def scriptFillDeviceInfo (w h : UInt32) (name : Option (List UInt8)) (connected : Bool) :
    ScriptMsg :=
  let resp := { ScriptMsg.ofType .responseDeviceInfo with dataSize := 76 }
  let resp := (resp.put 0 (write32le w)).put 4 (write32le h)
  let resp := match name with
    | none => resp
    | some name =>
        let len := min name.length 63
        (resp.put 8 (name.take len)).put (8 + len) [0]
  resp.put 72 (write32le (if connected then 1 else 0))

/-- A response with a size in its first eight bytes. -/
def fillSize (type : ScriptMsgType) (w h : UInt32) : ScriptMsg :=
  let resp := { ScriptMsg.ofType type with dataSize := 8 }
  (resp.put 0 (write32le w)).put 4 (write32le h)

/-- `script_fill_video_size`. -/
def scriptFillVideoSize : UInt32 → UInt32 → ScriptMsg := fillSize .responseVideoSize

/-- `script_fill_window_size`. -/
def scriptFillWindowSize : UInt32 → UInt32 → ScriptMsg := fillSize .responseWindowSize

/-- `script_fill_clipboard`; no text for a null pointer. -/
def scriptFillClipboard (text : Option (List UInt8)) : ScriptMsg :=
  let resp := ScriptMsg.ofType .responseClipboard
  match text with
  | none => resp
  | some text =>
      let len := min text.length (SCRIPT_MSG_MAX_DATA_SIZE - 1)
      { (resp.put 0 (text.take len)).put len [0] with dataSize := UInt32.ofNat (len + 1) }

/-- `script_fill_frame_capture`; no data for a null pointer. -/
def scriptFillFrameCapture (nv12Data : Option (List UInt8)) (width height dataSize : UInt32) :
    ScriptMsg :=
  let resp := ScriptMsg.ofType .responseFrameCapture
  match nv12Data with
  | some nv12Data =>
      if 0 < dataSize ∧ dataSize.toNat ≤ SCRIPT_MSG_MAX_DATA_SIZE - 12 then
        let resp := { resp with dataSize := 12 + dataSize }
        let resp := (resp.put 0 (write32le width)).put 4 (write32le height)
        (resp.put 8 (write32le dataSize)).put 12 (nv12Data.take dataSize.toNat)
      else frameDimensions resp
  | none => frameDimensions resp
where
  frameDimensions (resp : ScriptMsg) : ScriptMsg :=
    let resp := { resp with dataSize := 12 }
    ((resp.put 0 (write32le width)).put 4 (write32le height)).put 8 (write32le 0)

/-- `frame_data_t`. -/
structure FrameData where
  data : Option (List UInt8)
  width : UInt32
  height : UInt32
  deriving DecidableEq, Repr

/-- What the query callbacks read of the application: the size of the device, whether the video
socket is open, the client rectangle of the window, and the frame that is shared, if any. -/
structure AppView where
  deviceWidth : UInt32
  deviceHeight : UInt32
  connected : Bool
  left : Int32
  top : Int32
  right : Int32
  bottom : Int32
  sharedFrame : Option FrameData
  deriving DecidableEq, Repr

/-- The bytes of `"Android Device"`. -/
def deviceName : List UInt8 := [65, 110, 100, 114, 111, 105, 100, 32, 68, 101, 118, 105, 99, 101]

def onScriptQueryDeviceInfo (app : AppView) : ScriptMsg :=
  scriptFillDeviceInfo app.deviceWidth app.deviceHeight (some deviceName) app.connected

def onScriptQueryVideoSize (app : AppView) : ScriptMsg :=
  scriptFillVideoSize app.deviceWidth app.deviceHeight

def onScriptQueryWindowSize (app : AppView) : ScriptMsg :=
  scriptFillWindowSize (app.right - app.left).toUInt32 (app.bottom - app.top).toUInt32

def onScriptQueryClipboard (_app : AppView) : ScriptMsg := scriptFillClipboard (some [])

def onScriptQueryFrameCapture (app : AppView) : ScriptMsg :=
  match app.sharedFrame with
  | some ⟨some data, width, height⟩ =>
      if 0 < width ∧ 0 < height then
        scriptFillFrameCapture (some data) width height (width * height * 3 / 2)
      else scriptFillFrameCapture none 0 0 0
  | _ => scriptFillFrameCapture none 0 0 0

/-- The response that the callback of a query sends. -/
def onScriptQuery (app : AppView) : QueryKind → ScriptMsg
  | .deviceInfo => onScriptQueryDeviceInfo app
  | .videoSize => onScriptQueryVideoSize app
  | .windowSize => onScriptQueryWindowSize app
  | .clipboard => onScriptQueryClipboard app
  | .frameCapture => onScriptQueryFrameCapture app

theorem scriptFillFrameCapture_type (nv12Data : Option (List UInt8))
    (width height dataSize : UInt32) :
    (scriptFillFrameCapture nv12Data width height dataSize).type = .responseFrameCapture := by
  unfold scriptFillFrameCapture
  cases nv12Data with
  | none => rfl
  | some data =>
    simp only
    split <;> rfl

/-- The response to a query has the type that the query expects. -/
theorem onScriptQuery_type (app : AppView) (k : QueryKind) :
    (onScriptQuery app k).type = k.responseType := by
  cases k with
  | deviceInfo => rfl
  | videoSize => rfl
  | windowSize => rfl
  | clipboard => rfl
  | frameCapture =>
    simp only [onScriptQuery, onScriptQueryFrameCapture]
    split
    · split <;> exact scriptFillFrameCapture_type ..
    · exact scriptFillFrameCapture_type ..

/-! ## Results -/

/-- The values that a query gives to the script. -/
inductive QueryValue where
  | deviceInfo (w h : UInt32) (name : List UInt8) (connected : Bool)
  | size (w h : UInt32)
  | string (text : List UInt8)
  | bytevector (bytes : List UInt8)
  deriving DecidableEq, Repr

/-- The check that every `c_query_*` function starts with. -/
def checked (type : ScriptMsgType) (minSize : UInt32) (resp : ScriptMsg)
    (value : Option QueryValue) : Option QueryValue :=
  if resp.type ≠ type ∨ resp.dataSize < minSize then none else value

/-- A size from the first eight bytes. -/
def sizeValue (resp : ScriptMsg) : QueryValue :=
  .size (read32le resp.data) (read32le (resp.data.drop 4))

/-- `c_query_device_info`, which makes the last byte of the name a NUL. -/
def cQueryDeviceInfo (resp : ScriptMsg) : Option QueryValue :=
  checked .responseDeviceInfo 76 resp
    (some (.deviceInfo (read32le resp.data) (read32le (resp.data.drop 4))
      (cString ((resp.data.drop 8).take 63)) (read32le (resp.data.drop 72) ≠ 0)))

def cQueryVideoSize (resp : ScriptMsg) : Option QueryValue :=
  checked .responseVideoSize 8 resp (some (sizeValue resp))

def cQueryWindowSize (resp : ScriptMsg) : Option QueryValue :=
  checked .responseWindowSize 8 resp (some (sizeValue resp))

def cQueryClipboard (resp : ScriptMsg) : Option QueryValue :=
  checked .responseClipboard 0 resp (some (.string (cString resp.data)))

def cQueryFrameCapture (resp : ScriptMsg) : Option QueryValue :=
  let dataSize := read32le (resp.data.drop 8)
  checked .responseFrameCapture 12 resp
    (if dataSize = 0 ∨ resp.dataSize < 12 + dataSize then none
    else some (.bytevector ((resp.data.drop 12).take dataSize.toNat)))

/-- What a query makes of the response that `query_sync` returned; nothing for `Sfalse`. -/
def QueryKind.result : QueryKind → ScriptMsg → Option QueryValue
  | deviceInfo => cQueryDeviceInfo
  | videoSize => cQueryVideoSize
  | windowSize => cQueryWindowSize
  | clipboard => cQueryClipboard
  | frameCapture => cQueryFrameCapture

end Autoscrcpy
