import Mathlib.Tactic

/-! # Definitions shared by the controller and the device drivers (`ApplePS2Device.h`)

Port commands, command-byte bits, scan codes with a special meaning, and the enumerations the
drivers and the controller exchange.  Only the values that some modelled function reads are
listed. -/

namespace VoodooPS2

/-! ### Command port commands -/

def kCPGetCommandByte : UInt8 := 0x20
def kCPSetCommandByte : UInt8 := 0x60
def kCPDisableMouseClock : UInt8 := 0xA7
def kCPEnableMouseClock : UInt8 := 0xA8
def kCPDisableKeyboardClock : UInt8 := 0xAD
def kCPEnableKeyboardClock : UInt8 := 0xAE
def kCPTestMousePort : UInt8 := 0xA9
def kCPTestController : UInt8 := 0xAA
def kCPTestKeyboardPort : UInt8 := 0xAB
def kCPTransmitToMouse : UInt8 := 0xD4

/-! ### Data port commands -/

def kDPSetMouseScaling1To1 : UInt8 := 0xE6
def kDPSetMouseScaling2To1 : UInt8 := 0xE7
def kDPSetMouseResolution : UInt8 := 0xE8
def kDPGetMouseInformation : UInt8 := 0xE9
def kDPSetKeyboardLEDs : UInt8 := 0xED
def kDPTestKeyboardEcho : UInt8 := 0xEE
def kDPGetId : UInt8 := 0xF2
def kDPSetMouseSampleRate : UInt8 := 0xF3
def kDPEnable : UInt8 := 0xF4
def kDPSetDefaultsAndDisable : UInt8 := 0xF5
def kDPSetDefaults : UInt8 := 0xF6
def kDPReset : UInt8 := 0xFF

/-! ### Bits of the command byte -/

def kCBEnableKeyboardIRQ : UInt8 := 0x01
def kCBEnableMouseIRQ : UInt8 := 0x02
def kCBSystemFlag : UInt8 := 0x04
def kCBDisableKeyboardClock : UInt8 := 0x10
def kCBDisableMouseClock : UInt8 := 0x20
def kCBTranslateMode : UInt8 := 0x40

/-! ### LEDs of the keyboard -/

def kLEDNumLock : UInt8 := 0x02
def kLEDCapsLock : UInt8 := 0x04

/-! ### Scan codes that indicate a status -/

/-- acknowledge for transmitted commands -/
def kSCAcknowledge : UInt8 := 0xFA
/-- marker for an extended sequence -/
def kSCExtend : UInt8 := 0xE0
/-- marker for the pause key sequence -/
def kSCPause : UInt8 := 0xE1
/-- request to resend a keyboard command -/
def kSCResend : UInt8 := 0xFE
/-- the keyboard or mouse has reset -/
def kSCReset : UInt8 := 0xAA
/-- set in the scan code of a key that is released -/
def kSCUpBit : UInt8 := 0x80

/-- `PS2DeviceType`: the two input streams of the controller. -/
inductive PS2DeviceType where
  | keyboard
  | mouse
deriving DecidableEq, Repr

namespace PS2DeviceType

/-- The other stream: `deviceType == kDT_Keyboard ? kDT_Mouse : kDT_Keyboard`. -/
def other : PS2DeviceType → PS2DeviceType
  | keyboard => mouse
  | mouse => keyboard

theorem eq_other_of_ne {s t : PS2DeviceType} (h : s ≠ t) : s = t.other := by
  cases s <;> cases t <;> simp_all [other]

theorem other_ne (t : PS2DeviceType) : t.other ≠ t := by
  cases t <;> simp [other]

end PS2DeviceType

/-- `PS2InterruptResult`: what an interrupt routine tells the controller. -/
inductive PS2InterruptResult where
  | packetReady
  | packetBuffering
deriving DecidableEq, Repr

end VoodooPS2
