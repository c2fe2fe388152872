import Mathlib.Tactic

/-! # The stock tables of the keyboard driver (`ApplePS2ToADBMap.h`)

`PS2ToADBMapStock` as the repository builds it, with `PROBOOK` defined and the brightness keys
mapped to F14 and F15, and the flags that mark the modifier keys.  Index `0x00..0xff` is a
plain scan code, `0x100..0x1ff` one behind the prefix `E0`. -/

namespace VoodooPS2.Keyboard

def DEADKEY : UInt8 := 0x80
def BRIGHTNESS_DOWN : UInt8 := 0x6b
def BRIGHTNESS_UP : UInt8 := 0x71

def PS2ToADBMapStock : Array UInt8 :=
  #[
    DEADKEY, 0x35, 0x12, 0x13, 0x14, 0x15, 0x17, 0x16,
    0x1a, 0x1c, 0x19, 0x1d, 0x1b, 0x18, 0x33, 0x30,
    0x0c, 0x0d, 0x0e, 0x0f, 0x11, 0x10, 0x20, 0x22,
    0x1f, 0x23, 0x21, 0x1e, 0x24, 0x3b, 0x00, 0x01,
    0x02, 0x03, 0x05, 0x04, 0x26, 0x28, 0x25, 0x29,
    0x27, 0x32, 0x38, 0x2a, 0x06, 0x07, 0x08, 0x09,
    0x0b, 0x2d, 0x2e, 0x2b, 0x2f, 0x2c, 0x3c, 0x43,
    0x3a, 0x31, 0x39, 0x7a, 0x78, 0x63, 0x76, 0x60,
    0x61, 0x62, 0x64, 0x65, 0x6d, 0x47, 0x6b, 0x59,
    0x5b, 0x5c, 0x4e, 0x56, 0x57, 0x58, 0x45, 0x53,
    0x54, 0x55, 0x52, 0x41, 0x44, 0x46, 0x0a, 0x67,
    0x6f, 0x51, DEADKEY, DEADKEY, 0x5f, DEADKEY, DEADKEY, DEADKEY,
    DEADKEY, DEADKEY, DEADKEY, DEADKEY, 0x69, 0x6b, 0x71, 0x6a,
    0x40, 0x4f, 0x50, 0x5a, DEADKEY, DEADKEY, DEADKEY, DEADKEY,
    0x68, DEADKEY, DEADKEY, 0x5e, DEADKEY, DEADKEY, DEADKEY, 0x68,
    0x68, 0x68, DEADKEY, 0x66, DEADKEY, 0x5d, 0x5f, DEADKEY,
    DEADKEY, DEADKEY, DEADKEY, DEADKEY, DEADKEY, DEADKEY, DEADKEY, DEADKEY,
    DEADKEY, DEADKEY, DEADKEY, DEADKEY, DEADKEY, DEADKEY, DEADKEY, DEADKEY,
    DEADKEY, DEADKEY, DEADKEY, DEADKEY, DEADKEY, DEADKEY, DEADKEY, DEADKEY,
    DEADKEY, DEADKEY, DEADKEY, DEADKEY, DEADKEY, DEADKEY, DEADKEY, DEADKEY,
    DEADKEY, DEADKEY, DEADKEY, DEADKEY, DEADKEY, DEADKEY, DEADKEY, DEADKEY,
    DEADKEY, DEADKEY, DEADKEY, DEADKEY, DEADKEY, DEADKEY, DEADKEY, DEADKEY,
    DEADKEY, DEADKEY, DEADKEY, DEADKEY, DEADKEY, DEADKEY, DEADKEY, DEADKEY,
    DEADKEY, DEADKEY, DEADKEY, DEADKEY, DEADKEY, DEADKEY, DEADKEY, DEADKEY,
    DEADKEY, DEADKEY, DEADKEY, DEADKEY, DEADKEY, DEADKEY, DEADKEY, DEADKEY,
    DEADKEY, DEADKEY, DEADKEY, DEADKEY, DEADKEY, DEADKEY, DEADKEY, DEADKEY,
    DEADKEY, DEADKEY, DEADKEY, DEADKEY, DEADKEY, DEADKEY, DEADKEY, DEADKEY,
    DEADKEY, DEADKEY, DEADKEY, DEADKEY, DEADKEY, DEADKEY, DEADKEY, DEADKEY,
    DEADKEY, DEADKEY, DEADKEY, DEADKEY, DEADKEY, DEADKEY, DEADKEY, DEADKEY,
    DEADKEY, DEADKEY, DEADKEY, DEADKEY, DEADKEY, DEADKEY, DEADKEY, DEADKEY,
    DEADKEY, 0x66, 0x68, DEADKEY, DEADKEY, DEADKEY, DEADKEY, DEADKEY,
    DEADKEY, DEADKEY, DEADKEY, DEADKEY, DEADKEY, DEADKEY, DEADKEY, DEADKEY,
    DEADKEY, DEADKEY, DEADKEY, DEADKEY, DEADKEY, BRIGHTNESS_DOWN, BRIGHTNESS_UP, DEADKEY,
    DEADKEY, 0x83, 0xa0, DEADKEY, DEADKEY, DEADKEY, DEADKEY, DEADKEY,
    0x4d, DEADKEY, BRIGHTNESS_DOWN, DEADKEY, DEADKEY, DEADKEY, DEADKEY, BRIGHTNESS_UP,
    DEADKEY, 0x42, DEADKEY, DEADKEY, 0x4c, 0x3e, DEADKEY, DEADKEY,
    0x4a, DEADKEY, 0x34, DEADKEY, DEADKEY, DEADKEY, DEADKEY, DEADKEY,
    DEADKEY, DEADKEY, DEADKEY, DEADKEY, DEADKEY, DEADKEY, 0x49, DEADKEY,
    0x48, DEADKEY, DEADKEY, DEADKEY, DEADKEY, 0x4b, DEADKEY, 0x69,
    0x3d, DEADKEY, DEADKEY, DEADKEY, DEADKEY, DEADKEY, DEADKEY, DEADKEY,
    DEADKEY, DEADKEY, DEADKEY, DEADKEY, DEADKEY, 0x71, DEADKEY, 0x73,
    0x7e, 0x74, DEADKEY, 0x7b, DEADKEY, 0x7c, BRIGHTNESS_UP, 0x77,
    0x7d, 0x79, 0x92, 0x75, DEADKEY, DEADKEY, DEADKEY, DEADKEY,
    DEADKEY, BRIGHTNESS_UP, DEADKEY, 0x37, 0x36, 0x6e, 0x7f, DEADKEY,
    DEADKEY, DEADKEY, DEADKEY, DEADKEY, DEADKEY, DEADKEY, DEADKEY, DEADKEY,
    DEADKEY, DEADKEY, DEADKEY, DEADKEY, DEADKEY, DEADKEY, 0x70, DEADKEY,
    DEADKEY, DEADKEY, DEADKEY, DEADKEY, DEADKEY, DEADKEY, DEADKEY, DEADKEY,
    DEADKEY, DEADKEY, DEADKEY, DEADKEY, DEADKEY, DEADKEY, DEADKEY, DEADKEY,
    DEADKEY, DEADKEY, DEADKEY, DEADKEY, DEADKEY, DEADKEY, DEADKEY, DEADKEY,
    DEADKEY, DEADKEY, DEADKEY, DEADKEY, DEADKEY, DEADKEY, DEADKEY, DEADKEY,
    DEADKEY, DEADKEY, DEADKEY, DEADKEY, DEADKEY, DEADKEY, DEADKEY, DEADKEY,
    DEADKEY, DEADKEY, DEADKEY, DEADKEY, DEADKEY, DEADKEY, DEADKEY, DEADKEY,
    DEADKEY, DEADKEY, DEADKEY, DEADKEY, DEADKEY, DEADKEY, DEADKEY, DEADKEY,
    DEADKEY, DEADKEY, DEADKEY, DEADKEY, DEADKEY, DEADKEY, DEADKEY, DEADKEY,
    DEADKEY, DEADKEY, DEADKEY, DEADKEY, DEADKEY, DEADKEY, DEADKEY, DEADKEY,
    DEADKEY, DEADKEY, DEADKEY, DEADKEY, DEADKEY, DEADKEY, DEADKEY, DEADKEY,
    DEADKEY, DEADKEY, DEADKEY, DEADKEY, DEADKEY, DEADKEY, DEADKEY, DEADKEY,
    DEADKEY, DEADKEY, DEADKEY, DEADKEY, DEADKEY, DEADKEY, DEADKEY, DEADKEY,
    DEADKEY, DEADKEY, DEADKEY, DEADKEY, DEADKEY, DEADKEY, DEADKEY, DEADKEY,
    DEADKEY, DEADKEY, DEADKEY, DEADKEY, DEADKEY, DEADKEY, DEADKEY, DEADKEY,
    DEADKEY, DEADKEY, DEADKEY, DEADKEY, DEADKEY, DEADKEY, DEADKEY, DEADKEY,
    DEADKEY, DEADKEY, DEADKEY, DEADKEY, DEADKEY, DEADKEY, DEADKEY, DEADKEY,
    DEADKEY, DEADKEY, DEADKEY, DEADKEY, DEADKEY, DEADKEY, DEADKEY, DEADKEY,
    DEADKEY, DEADKEY, DEADKEY, DEADKEY, DEADKEY, DEADKEY, DEADKEY, DEADKEY]

/-- The ADB code the stock map gives a scan code. -/
def stockCode (keyCode : ℕ) : UInt8 := PS2ToADBMapStock.getD keyCode DEADKEY

/-- `_PS2flagsStock`: the high byte is the number of the modifier plus one. -/
def PS2flagsStock : ℕ → UInt16
  | 0x1d => 0x0100
  | 0x2a => 0x0300
  | 0x36 => 0x0400
  | 0x38 => 0x0500
  | 0x11d => 0x0200
  | 0x138 => 0x0600
  | 0x15b => 0x0700
  | 0x15c => 0x0800
  | 0x15d => 0x0a00
  | 0x163 => 0x0900
  | _ => 0x00

end VoodooPS2.Keyboard
