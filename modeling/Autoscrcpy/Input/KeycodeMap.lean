import Mathlib.Tactic

/-!
# Android key codes

`keycode_map.c`: the Android key code of a Windows virtual key and the meta state. No key code
belongs to two virtual keys (`vkToAndroidKeycode_inj`).
-/

namespace Autoscrcpy

/-! ## Virtual keys -/

abbrev VK_BACK : UInt32 := 0x08
abbrev VK_TAB : UInt32 := 0x09
abbrev VK_RETURN : UInt32 := 0x0D
abbrev VK_SHIFT : UInt32 := 0x10
abbrev VK_CONTROL : UInt32 := 0x11
abbrev VK_MENU : UInt32 := 0x12
abbrev VK_CAPITAL : UInt32 := 0x14
abbrev VK_ESCAPE : UInt32 := 0x1B
abbrev VK_SPACE : UInt32 := 0x20
abbrev VK_PRIOR : UInt32 := 0x21
abbrev VK_NEXT : UInt32 := 0x22
abbrev VK_END : UInt32 := 0x23
abbrev VK_HOME : UInt32 := 0x24
abbrev VK_LEFT : UInt32 := 0x25
abbrev VK_UP : UInt32 := 0x26
abbrev VK_RIGHT : UInt32 := 0x27
abbrev VK_DOWN : UInt32 := 0x28
abbrev VK_INSERT : UInt32 := 0x2D
abbrev VK_DELETE : UInt32 := 0x2E
abbrev VK_LWIN : UInt32 := 0x5B
abbrev VK_RWIN : UInt32 := 0x5C
abbrev VK_NUMLOCK : UInt32 := 0x90
abbrev VK_SCROLL : UInt32 := 0x91
abbrev VK_LSHIFT : UInt32 := 0xA0
abbrev VK_RSHIFT : UInt32 := 0xA1
abbrev VK_LCONTROL : UInt32 := 0xA2
abbrev VK_RCONTROL : UInt32 := 0xA3
abbrev VK_LMENU : UInt32 := 0xA4
abbrev VK_RMENU : UInt32 := 0xA5

/-! ## The table -/

/-- `vk_map`; the digits are `0x30` to `0x39`, the letters `0x41` to `0x5A`, and `VK_F1` to `VK_F12`
are `0x70` to `0x7B`. -/
def vkMap : List (UInt32 × UInt32) :=
  [(VK_BACK, 67), (VK_TAB, 61), (VK_RETURN, 66),
    (VK_LSHIFT, 59), (VK_RSHIFT, 60), (VK_LCONTROL, 113), (VK_RCONTROL, 114),
    (VK_LMENU, 57), (VK_RMENU, 58), (VK_CAPITAL, 115), (VK_ESCAPE, 111),
    (VK_SPACE, 62), (VK_PRIOR, 92), (VK_NEXT, 93), (VK_END, 123), (VK_HOME, 122),
    (VK_LEFT, 21), (VK_UP, 19), (VK_RIGHT, 22), (VK_DOWN, 20),
    (VK_INSERT, 124), (VK_DELETE, 112),
    (0x30, 7), (0x31, 8), (0x32, 9), (0x33, 10), (0x34, 11),
    (0x35, 12), (0x36, 13), (0x37, 14), (0x38, 15), (0x39, 16),
    (0x41, 29), (0x42, 30), (0x43, 31), (0x44, 32), (0x45, 33), (0x46, 34),
    (0x47, 35), (0x48, 36), (0x49, 37), (0x4A, 38), (0x4B, 39), (0x4C, 40),
    (0x4D, 41), (0x4E, 42), (0x4F, 43), (0x50, 44), (0x51, 45), (0x52, 46),
    (0x53, 47), (0x54, 48), (0x55, 49), (0x56, 50), (0x57, 51), (0x58, 52),
    (0x59, 53), (0x5A, 54),
    (VK_LWIN, 117), (VK_RWIN, 118),
    (0x70, 131), (0x71, 132), (0x72, 133), (0x73, 134), (0x74, 135),
    (0x75, 136), (0x76, 137), (0x77, 138), (0x78, 139), (0x79, 140),
    (0x7A, 141), (0x7B, 142),
    (VK_NUMLOCK, 143), (VK_SCROLL, 116)]

/-- `vk_to_android_keycode`; `0` for a key that is not in the table. -/
def vkToAndroidKeycode (vk : UInt32) : UInt32 :=
  ((vkMap.find? fun e => e.1 = vk).map Prod.snd).getD 0

theorem mem_vkMap {vk : UInt32} (h : vkToAndroidKeycode vk ≠ 0) :
    (vk, vkToAndroidKeycode vk) ∈ vkMap := by
  unfold vkToAndroidKeycode at h ⊢
  rcases hf : vkMap.find? fun e => e.1 = vk with _ | e
  · simp [hf] at h
  · have hvk : e.1 = vk := by simpa using List.find?_some hf
    rw [hf]
    show (vk, e.2) ∈ vkMap
    rw [← hvk]
    exact List.mem_of_find?_eq_some hf

/-- Two virtual keys with the same key code are the same. -/
theorem vkToAndroidKeycode_inj {vk vk' : UInt32} (h : vkToAndroidKeycode vk ≠ 0)
    (heq : vkToAndroidKeycode vk = vkToAndroidKeycode vk') : vk = vk' := by
  have hdistinct : (vkMap.map Prod.snd).Nodup := by decide
  have hmem := mem_vkMap h
  have hmem' := mem_vkMap (heq ▸ h)
  exact congrArg Prod.fst (List.inj_on_of_nodup_map hdistinct hmem hmem' heq)

/-! ## Meta state -/

/-- `get_android_metastate`; `held` is the high bit of `GetKeyState`. -/
def getAndroidMetastate (held : UInt32 → Bool) : UInt32 :=
  (if held VK_SHIFT then 0x01 else 0) ||| (if held VK_CONTROL then 0x1000 else 0) |||
    (if held VK_MENU then 0x02 else 0) ||| (if held VK_LWIN then 0x10000 else 0)

end Autoscrcpy
